import ServiceGen.Source.Token

/-!
# Reading Tokens

A recognizer passes over the tokens that a construct of the grammar is made of, and fails
where another token stands. It looks only a few tokens ahead, and never behind a semicolon
or a closing bracket before it has passed over it; so what it does up to there is the same
whatever follows. This module has the steps that the whole grammar is built from: looking at
what comes next, passing over marks, words and names, lists between commas, and brackets with
anything inside.
-/

namespace ServiceGen.Source

/-- Whether a token ends whatever is looked at from before it. -/
def Token.isStop : Token → Bool
  | .mark c _ => c == ';' || c == ']'
  | _ => false

/-- A step of recognizing a construct: the tokens that it leaves, or nothing where it fails. -/
structure Recognizer (α : Type) where
  run : List Token → Option (α × List Token)
  /-- Tokens are passed over from the left. -/
  suffix_of_run : ∀ {tokens a rest}, run tokens = some (a, rest) → rest <:+ tokens
  /-- What is done before a stop does not depend on what stands behind it. -/
  run_of_run : ∀ {stop : Token} {before left after a}, stop.isStop →
    run (before ++ stop :: after) = some (a, left ++ stop :: after) →
    ∀ other, run (before ++ stop :: other) = some (a, left ++ stop :: other)

namespace Recognizer

variable {α β : Type}

/-- Passes over nothing. -/
def done (a : α) : Recognizer α where
  run tokens := some (a, tokens)
  suffix_of_run h := by
    obtain ⟨-, rfl⟩ := by simpa using h
    exact List.suffix_rfl
  run_of_run _ h other := by
    obtain ⟨rfl, rfl⟩ := by simpa using h
    rfl

/-- Fails. -/
def reject : Recognizer α where
  run _ := none
  suffix_of_run h := nomatch h
  run_of_run _ h := nomatch h

/-- One step and then another, which depends on what the first has found. -/
def andThen (first : Recognizer α) (second : α → Recognizer β) : Recognizer β where
  run tokens := (first.run tokens).bind fun (a, rest) => (second a).run rest
  suffix_of_run h := by
    obtain ⟨⟨a, rest⟩, hfirst, hsecond⟩ := Option.bind_eq_some_iff.mp h
    exact ((second a).suffix_of_run hsecond).trans (first.suffix_of_run hfirst)
  run_of_run {stop before left after b} hstop h other := by
    obtain ⟨⟨a, rest⟩, hfirst, hsecond⟩ := Option.bind_eq_some_iff.mp h
    -- the first step leaves the stop as well, since the second does
    obtain ⟨passed, hpassed⟩ := (second a).suffix_of_run hsecond
    obtain rfl : rest = (passed ++ left) ++ stop :: after := by simp [← hpassed]
    exact Option.bind_eq_some_iff.mpr
      ⟨_, first.run_of_run hstop hfirst other, (second a).run_of_run hstop hsecond other⟩

instance : Monad Recognizer where
  pure := done
  bind := andThen

end Recognizer

/-- Of some tokens, at most a number, and none behind a stop. -/
def within : Nat → List Token → List Token
  | 0, _ => []
  | _, [] => []
  | n + 1, t :: rest => if t.isStop then [t] else t :: within n rest

/-- Of what follows a stop a reader within it sees nothing. -/
theorem within_append_stop {stop : Token} (hstop : stop.isStop) (n : Nat)
    (before after other : List Token) :
    within n (before ++ stop :: after) = within n (before ++ stop :: other) := by
  induction before generalizing n with
  | nil => cases n <;> simp [within, hstop]
  | cons t before ih => cases n <;> simp [within, ih]

/-- The words that are no names. -/
def keywords : List String := [
  "_", "abstract", "as", "async", "await", "become", "box", "break", "const", "continue", "crate",
  "do", "dyn", "else", "enum", "extern", "false", "final", "fn", "for", "if", "impl", "in", "let",
  "loop", "macro", "match", "mod", "move", "mut", "override", "priv", "pub", "ref", "return",
  "self", "Self", "static", "struct", "super", "trait", "true", "try", "type", "typeof", "unsafe",
  "unsized", "use", "virtual", "where", "while", "yield"]

namespace Token

/-- Whether a token is a name. -/
def isName : Token → Bool
  | .rawWord => true
  | .word name => !keywords.contains name
  | _ => false

/-- Whether a token is a given word. -/
def isWord (name : String) : Token → Bool
  | .word other => other == name
  | _ => false

/-- Whether a token is a given mark. -/
def isMark (c : Char) : Token → Bool
  | .mark d _ => d == c
  | _ => false

/-- Whether a token is one of some words. -/
def isOneOf (names : List String) : Token → Bool
  | .word name => names.contains name
  | _ => false

/-- Whether a token is one of some marks. -/
def isOneMark (cs : List Char) : Token → Bool
  | .mark c _ => cs.contains c
  | _ => false

/-- Whether a token is a literal. -/
def isLiteral : Token → Bool
  | .literal .. => true
  | _ => false

end Token

/-- Whether tokens begin with marks that follow one another directly. -/
def beginsWith : List Char → List Token → Bool
  | [], _ => true
  | [c], t :: _ => t.isMark c
  | c :: cs, .mark d joined :: rest => c == d && joined && beginsWith cs rest
  | _, _ => false

/-- The marks of a path. -/
def colons : List Char := [':', ':']

/-- Words that a path may have in place of a name. -/
def pathWords : List String := ["self", "super", "crate", "Self"]

/-- Whether tokens begin with a path without brackets. -/
def startsPath (tokens : List Token) : Bool :=
  match tokens with
  | t :: _ => t.isName || t.isOneOf pathWords || beginsWith colons tokens
  | [] => false

/-- Whether tokens begin with a type. -/
def startsType (tokens : List Token) : Bool :=
  startsPath tokens || match tokens with
    | t :: _ => t.isOneMark ['(', '[', '<', '!', '*', '&'] || t == .lifetime
      || t.isOneOf ["_", "fn", "unsafe", "extern", "for", "impl", "dyn"]
    | [] => false

/-- Whether tokens begin with an expression. -/
def startsExpr (tokens : List Token) : Bool :=
  match tokens with
  | t :: _ => t.isName || t.isLiteral || t == .lifetime
    || t.isOneMark ['(', '[', '|', '&', '*', '!', '-', '.', ':', '<'] || t.isMark '{'
    || t.isOneOf (pathWords ++ ["_", "true", "false", "async", "box", "break", "const", "continue",
      "do", "for", "if", "let", "loop", "match", "move", "return", "static", "try", "unsafe",
      "while", "yield", "become"])
  | [] => false

/-- Whether tokens begin with an item: a declaration that may stand at the top of a source. -/
def startsItem (tokens : List Token) : Bool :=
  let next (p : Token → Bool) : Bool := (tokens.tail.head?).any p
  match tokens with
  | .word name :: _ =>
    match name with
    | "use" | "mod" | "type" | "struct" | "enum" | "fn" | "trait" | "impl" | "pub" | "macro"
    | "extern" => true
    | "union" => next Token.isName
    | "macro_rules" => next (·.isMark '!')
    | "const" => next fun t => !t.isMark '{' && !t.isMark '|'
    | "static" => next fun t => t.isName || t.isOneOf ["_", "mut"]
    | "async" => next fun t => !t.isOneMark ['{', '|'] && !t.isWord "move"
    | "unsafe" => next fun t => !t.isMark '{'
    | "auto" => next (·.isWord "trait")
    | "default" =>
      next (·.isOneOf ["fn", "type", "const", "impl"])
        || (next (·.isOneOf ["unsafe", "async", "extern"])
          && (tokens.tail.tail.head?).any (·.isOneOf ["fn", "impl", "unsafe", "extern"]))
    | _ => false
  | _ => false

namespace Recognizer

/-- The next tokens, as far as any construct looks ahead. -/
def ahead : Recognizer (List Token) where
  run tokens := some (within 4 tokens, tokens)
  suffix_of_run h := by
    obtain ⟨-, rfl⟩ := by simpa using h
    exact List.suffix_rfl
  run_of_run hstop h other := by
    obtain ⟨rfl, rfl⟩ := by simpa using h
    simp [within_append_stop hstop 4 _ _ other]

/-- Passes over the next token, whatever it is. -/
def skip : Recognizer Unit where
  run
    | _ :: rest => some ((), rest)
    | [] => none
  suffix_of_run {tokens a rest} h := by
    cases tokens with
    | nil => nomatch h
    | cons t tokens =>
      obtain rfl : tokens = rest := by simpa using h
      exact List.suffix_cons t tokens
  run_of_run {stop before left after a} _ h other := by
    cases before with
    | nil =>
      have h : after = left ++ stop :: after := by simpa using h
      have := congrArg List.length h
      simp at this
      omega
    | cons t before => simpa using h

/-- Passes over a number of tokens. -/
def skips : Nat → Recognizer Unit
  | 0 => pure ()
  | n + 1 => do
    skip
    skips n

/-- Whether the next token is a mark. -/
def sees (c : Char) : Recognizer Bool := do
  return (← ahead).head?.any (Token.isMark c)

/-- Whether the next token is a word. -/
def seesWord (name : String) : Recognizer Bool := do
  return (← ahead).head?.any (Token.isWord name)

/-- Whether the next tokens are marks that follow one another directly. -/
def seesAll (cs : List Char) : Recognizer Bool := do
  return beginsWith cs (← ahead)

/-- Passes over a mark if it comes next. -/
def eat (c : Char) : Recognizer Bool := do
  if ← sees c then
    skip
    return true
  return false

/-- Passes over a word if it comes next. -/
def eatWord (name : String) : Recognizer Bool := do
  if ← seesWord name then
    skip
    return true
  return false

/-- Passes over marks that follow one another directly, if they come next. -/
def eatAll (cs : List Char) : Recognizer Bool := do
  if ← seesAll cs then
    skips cs.length
    return true
  return false

/-- Fails unless a condition holds. -/
def require (condition : Bool) : Recognizer Unit :=
  if condition then pure () else reject

/-- Passes over a mark, which must come next. -/
def expect (c : Char) : Recognizer Unit := do
  require (← eat c)

/-- Passes over a word, which must come next. -/
def expectWord (name : String) : Recognizer Unit := do
  require (← eatWord name)

/-- Passes over a name, which must come next. -/
def name : Recognizer Unit := do
  require ((← ahead).head?.any Token.isName)
  skip

/-- Passes over a valid literal, which must come next. -/
def literal : Recognizer Unit := do
  match ← ahead with
  | .literal _ true :: _ => skip
  | _ => reject

/-- Passes over a lifetime if it comes next. -/
def eatLifetime : Recognizer Bool := do
  if (← ahead).head? == some .lifetime then
    skip
    return true
  return false

/-- Whether the next token but one satisfies a condition. -/
def second (p : Token → Bool) : Recognizer Bool := do
  return (← ahead).tail.head?.any p

/-- Constructs with commas between them, up to and with a mark. -/
def commaList (stop : Char) (element : Recognizer Unit) : Nat → Recognizer Unit
  | 0 => reject
  | fuel + 1 => do
    if ← eat stop then return
    element
    if !(← sees stop) then expect ','
    commaList stop element fuel

/-- Constructs up to and with a mark. -/
def listUntil (stop : Char) (element : Recognizer Unit) : Nat → Recognizer Unit
  | 0 => reject
  | fuel + 1 => do
    if ← eat stop then return
    element
    listUntil stop element fuel

/-- The bracket that closes a bracket. -/
def closing? (t : Token) : Option Char :=
  if t.isMark '(' then some ')'
  else if t.isMark '[' then some ']'
  else if t.isMark '{' then some '}'
  else none

/-- Tokens up to and with a closing bracket, in which all brackets have partners. -/
def treeRest (close : Char) : Nat → Recognizer Unit
  | 0 => reject
  | fuel + 1 => do
    if ← eat close then return
    match (← ahead).head? with
    | none => reject
    | some t =>
      require !(t.isOneMark [')', ']', '}'])
      skip
      match closing? t with
      | some inner => treeRest inner fuel
      | none => pure ()
      treeRest close fuel

/-- Tokens in brackets. -/
def tree (fuel : Nat) : Recognizer Unit := do
  match (← ahead).head?.bind closing? with
  | some close =>
    skip
    treeRest close fuel
  | none => reject

end Recognizer

end ServiceGen.Source
