import ServiceGen.Text.Slice

/-!
# Words and Case Styles

A name such as `HTTPServer`, `user-profiles` or `filter[name]` is a sequence of words. Every
character that is neither a letter nor a number separates words, and within a run of
letters a word ends

* before a capital that follows a lower-case letter (`userId` is `user`, `Id`);
* before the last capital of a run of capitals that a lower-case letter follows
  (`HTTPServer` is `HTTP`, `Server`).

The case styles write the words of a name out again: `snake`, `pascal` and `camel`.
-/

namespace ServiceGen.Text

/-- What the letters of a word have been so far. -/
inductive WordState
  /-- No letter with a case yet. -/
  | start
  /-- The last cased letter was a small one. -/
  | lower
  /-- The last cased letter was a capital. -/
  | upper
deriving DecidableEq

/-- The state after one more letter of the same word. -/
def WordState.next (state : WordState) (c : Char) : WordState :=
  if Letter.isLower c then .lower
  else if Letter.isUpper c then .upper
  else state

/-- The words of a run of letters and numbers. `word` holds the letters of the current word
so far, in reverse. -/
def wordsOfRun (state : WordState) (word : List Char) : List Char → List (List Char)
  | [] => []
  | [c] => [(c :: word).reverse]
  | c :: next :: rest =>
    if state.next c = .lower ∧ Letter.isUpper next then
      (c :: word).reverse :: wordsOfRun .start [] (next :: rest)
    else if state = .upper ∧ Letter.isUpper c ∧ Letter.isLower next then
      word.reverse :: wordsOfRun .start [c] (next :: rest)
    else
      wordsOfRun (state.next c) (c :: word) (next :: rest)

/-- The words of a name. -/
def nameWords (cs : List Char) : List (List Char) :=
  (splitBy (!Letter.isWord ·) cs).flatMap (wordsOfRun .start [])

/-- A word in lower case. A capital sigma at its end takes the final form. -/
def lowerWord : List Char → List Char
  | [] => []
  | ['Σ'] => ['ς']
  | c :: rest => Letter.toLower c ++ lowerWord rest

/-- A word with a capital first letter and the others in lower case. -/
def capitalizeWord : List Char → List Char
  | [] => []
  | c :: rest => Letter.toUpper c ++ lowerWord rest

/-- The words of a name in lower case, joined by underscores. -/
def snake (cs : List Char) : List Char :=
  join ['_'] ((nameWords cs).map lowerWord)

/-- The words of a name with capital first letters, joined without a separator. -/
def pascal (cs : List Char) : List Char :=
  (nameWords cs).flatMap capitalizeWord

/-- As `pascal`, with the first word in lower case. -/
def camel (cs : List Char) : List Char :=
  match nameWords cs with
  | [] => []
  | first :: others => lowerWord first ++ others.flatMap capitalizeWord

end ServiceGen.Text

namespace ServiceGen

/-- The snake-case form of a name: `userId` becomes `user_id`. -/
def snakeCase (name : String) : String :=
  String.ofList (Text.snake name.toList)

/-- The Pascal-case form of a name: `user_profile` becomes `UserProfile`. -/
def pascalCase (name : String) : String :=
  String.ofList (Text.pascal name.toList)

/-- The camel-case form of a name: `user_profile` becomes `userProfile`. -/
def camelCase (name : String) : String :=
  String.ofList (Text.camel name.toList)

end ServiceGen
