import ServiceGen.Text.Letter
import ServiceGen.Text.Slice

/-!
# Tokens of a Rust Source

A source as a list of lexemes: each is a token with its own text and with the white space and
comments before it. Nothing is lost, so the texts of the lexemes and of what stands behind
the last one make up the source. A mark is a single character; whether another one follows
directly tells apart `> >` and `>>`.

A text is first cut into pieces, each of which is found by what stands at its beginning;
the pieces are then gathered into lexemes.
-/

namespace ServiceGen.Source

/-- A token. -/
inductive Token
  /-- An identifier or keyword. -/
  | word (name : String)
  /-- An identifier with the mark that keeps it from being a keyword. -/
  | rawWord
  | lifetime
  /-- A literal; `numbered` tells whether it can stand for fields of tuples, and `valid`
  whether its escapes are valid. -/
  | literal (numbered valid : Bool)
  /-- A punctuation mark; `joined` tells whether another one follows directly that it may make
  up an operator with. -/
  | mark (c : Char) (joined : Bool)
  /-- A character that no token begins with. -/
  | stray
deriving DecidableEq

/-- What stands between tokens. -/
inductive Trivia
  | blank (text : List Char)
  | comment (text : List Char)
deriving DecidableEq

/-- The text of what stands between tokens. -/
def Trivia.text : Trivia → List Char
  | .blank text => text
  | .comment text => text

/-- White space, a comment, or a token with its text. -/
inductive Piece
  | trivia (t : Trivia)
  | token (t : Token) (text : List Char)
deriving DecidableEq

/-- The text of a piece. -/
def Piece.text : Piece → List Char
  | .trivia t => t.text
  | .token _ text => text

/-- A token with its text and with what stands before it. -/
structure Lexeme where
  before : List Trivia
  token : Token
  text : List Char
deriving DecidableEq

/-- Pieces as lexemes, and what stands behind the last. `before` is what stands before the
first piece. -/
def Lexeme.gather (before : List Trivia) : List Piece → List Lexeme × List Trivia
  | [] => ([], before)
  | .trivia t :: pieces => gather (before ++ [t]) pieces
  | .token t text :: pieces =>
    let (lexemes, after) := gather [] pieces
    (⟨before, t, text⟩ :: lexemes, after)

namespace Scan

/-- Whether a character is white space between tokens. -/
def isSpace (c : Char) : Bool :=
  c == ' ' || (9 ≤ c.toNat && c.toNat ≤ 13)
    || [0x85, 0x200E, 0x200F, 0x2028, 0x2029].contains c.toNat

/-- Whether a character begins an identifier. -/
def startsWord (c : Char) : Bool :=
  c == '_' || Text.Letter.isIdentifierStart c

/-- Whether a character continues an identifier. -/
def continuesWord (c : Char) : Bool :=
  Text.Letter.isIdentifierContinue c

/-- The punctuation marks. -/
def marks : List Char :=
  [';', ',', '.', '(', ')', '{', '}', '[', ']', '@', '#', '~', '?', ':', '$', '=', '!', '<', '>',
    '-', '&', '|', '+', '*', '/', '^', '%']

/-- The marks that operators are made of. -/
def operatorMarks : List Char :=
  ['.', ':', '=', '!', '<', '>', '-', '&', '|', '+', '*', '/', '^', '%']

/-- The number of characters up to the end of a block comment, of which some are open. -/
def blockComment : Nat → List Char → Option Nat
  | 0, _ => some 0
  | depth + 1, '*' :: '/' :: rest => (blockComment depth rest).map (· + 2)
  | depth + 1, '/' :: '*' :: rest => (blockComment (depth + 2) rest).map (· + 2)
  | depth + 1, _ :: rest => (blockComment (depth + 1) rest).map (· + 1)
  | _ + 1, [] => none

/-- The number of characters up to and with a closing quote. A backslash protects the
character after it. -/
def quotedEnd (quote : Char) : List Char → Option Nat
  | [] => none
  | '\\' :: _ :: rest => (quotedEnd quote rest).map (· + 2)
  | c :: rest => if c == quote then some 1 else (quotedEnd quote rest).map (· + 1)

/-- The number of characters up to and with the closing quote of a character literal. A single
character may be a quote itself. -/
def charEnd (cs : List Char) : Option Nat :=
  if cs.head? != some '\\' && cs[1]? == some '\'' then some 2 else quotedEnd '\'' cs

/-- The number of characters up to and with a closing quote and some hash signs. -/
def rawEnd (hashes : Nat) : List Char → Option Nat
  | [] => none
  | c :: rest =>
    if c == '"' && (List.replicate hashes '#').isPrefixOf rest then some (hashes + 1)
    else (rawEnd hashes rest).map (· + 1)

/-- The value of hexadecimal digits. -/
def hexValue (digits : List Char) : Nat :=
  digits.foldl (fun n c =>
    16 * n + (if c.isDigit then c.toNat - 48 else c.toLower.toNat - 87)) 0

/-- Whether a character is a hexadecimal digit. -/
def isHex (c : Char) : Bool :=
  c.isDigit || ('a' ≤ c && c ≤ 'f') || ('A' ≤ c && c ≤ 'F')

/-- The rest after an escape, of which the backslash is gone; `none` if it is invalid. -/
def escapeRest? (bytes : Bool) : List Char → Option (List Char)
  | 'x' :: a :: b :: rest =>
    if isHex a && isHex b && (bytes || hexValue [a] < 8) then some rest else none
  | 'u' :: '{' :: rest =>
    let digits := rest.takeWhile (· != '}')
    let value := hexValue (digits.filter (· != '_'))
    let size := (digits.filter (· != '_')).length
    let scalar := value < 0xD800 || (0xDFFF < value && value < 0x110000)
    if !bytes && digits.all (fun c => isHex c || c == '_') && digits.head? != some '_'
        && 0 < size && size ≤ 6 && scalar && digits.length < rest.length
    then some (rest.drop (digits.length + 1)) else none
  | c :: rest => if ['n', 'r', 't', '\\', '0', '\'', '"'].contains c then some rest else none
  | [] => none

/-- Whether the content of a literal is valid. In a text, a backslash at the end of a line
skips the white space that follows. -/
def isValidText (bytes : Bool) : Nat → List Char → Bool
  | 0, cs => cs.isEmpty
  | _, [] => true
  | fuel + 1, '\\' :: '\n' :: rest =>
    isValidText bytes fuel (rest.dropWhile fun c => [' ', '\t', '\n', '\r'].contains c)
  | fuel + 1, '\\' :: rest =>
    match escapeRest? bytes rest with
    | some rest => isValidText bytes fuel rest
    | none => false
  | fuel + 1, c :: rest =>
    c != '\r' && (!bytes || Text.Letter.isAscii c) && isValidText bytes fuel rest

/-- Whether the content of a character literal is one valid character. -/
def isValidChar (bytes : Bool) : List Char → Bool
  | '\\' :: rest => (escapeRest? bytes rest).any List.isEmpty
  | [c] => !(['\n', '\r', '\t', '\''].contains c) && (!bytes || Text.Letter.isAscii c)
  | _ => false

/-- The length of the suffix that a literal may have. -/
def suffixLength (cs : List Char) : Nat :=
  match cs with
  | c :: rest => if startsWord c then 1 + (rest.takeWhile continuesWord).length else 0
  | [] => 0

/-- A literal of a given length before its suffix, with its length. -/
def withSuffix (valid : Bool) (cs : List Char) (length : Nat) : Token × Nat :=
  let size := length + suffixLength (cs.drop length)
  (.literal ((cs.take size).all fun c => c.isDigit || c == '.') valid, size)

/-- A kind of literal in quotes. -/
inductive Quoting
  | text (bytes : Bool)
  | raw
  | char (bytes : Bool)

namespace Quoting

/-- The length of a literal without its suffix. It begins with a mark of a given length before
its quotes. -/
def length? (lead : Nat) (cs : List Char) : Quoting → Option Nat
  | text _ => (quotedEnd '"' (cs.drop (lead + 1))).map (lead + 1 + ·)
  | raw =>
    let hashes := ((cs.drop lead).takeWhile (· == '#')).length
    if cs[lead + hashes]? == some '"' then
      (rawEnd hashes (cs.drop (lead + hashes + 1))).map (lead + hashes + 1 + ·)
    else none
  | char _ => do
    let inner := cs.drop (lead + 1)
    let size ← charEnd inner
    let content := inner.take (size - 1)
    if content.any (fun c => c == '/' || c == '\n') && 1 < content.length then none
    else some (lead + 1 + size)

/-- Whether what stands in the quotes of a literal is valid. -/
def isValid (lead : Nat) (literal : List Char) : Quoting → Bool
  | text bytes =>
    let content := (literal.drop (lead + 1)).dropLast
    isValidText bytes content.length content
  | raw => !literal.contains '\r'
  | char bytes => isValidChar bytes (literal.drop (lead + 1)).dropLast

/-- The literal that a text begins with, and its length. -/
def token? (quoting : Quoting) (lead : Nat) (cs : List Char) : Option (Token × Nat) :=
  (quoting.length? lead cs).map fun size =>
    withSuffix (quoting.isValid lead (cs.take size)) cs size

end Quoting

/-- How the literals in quotes begin, with the mark before the quotes and the first character
after it. -/
def quotings : List (List Char × Quoting) := [
  (['"'], .text false),
  (['b', '"'], .text true),
  (['c', '"'], .text false),
  (['r', '"'], .raw),
  (['r', '#'], .raw),
  (['b', 'r', '"'], .raw),
  (['b', 'r', '#'], .raw),
  (['c', 'r', '"'], .raw),
  (['c', 'r', '#'], .raw),
  (['b', '\''], .char true)]

/-- The length of the lifetime that a text with an apostrophe begins with, if it does not begin
with a character literal; no result if it begins with neither. -/
def lifetimeLength? (cs : List Char) : Option (Option Nat) :=
  if cs[1]?.any (fun c => startsWord c || c.isDigit) && cs[2]? != some '\'' then
    if cs[1]? == some 'r' && cs[2]? == some '#' && cs[3]?.any startsWord then
      some (some (3 + ((cs.drop 3).takeWhile continuesWord).length))
    else
      let size := 2 + ((cs.drop 2).takeWhile continuesWord).length
      if cs[size]? == some '\'' then some none
      else if cs[size]? == some '#' || cs[1]?.any Char.isDigit then none
      else some (some size)
  else some none

/-- A lifetime, or a character literal without a mark. -/
def lifetimeOrChar? (cs : List Char) : Option (Token × Nat) := do
  match ← lifetimeLength? cs with
  | some size => return (.lifetime, size)
  | none => (Quoting.char false).token? 0 cs

/-- The length of digits and underscores. -/
def digitsLength (p : Char → Bool) (cs : List Char) : Nat :=
  (cs.takeWhile fun c => p c || c == '_').length

/-- The length of an exponent after its letter; `none` if it has no digits. -/
def exponentLength? (cs : List Char) : Option Nat :=
  let sign := if cs.head? == some '+' || cs.head? == some '-' then 1 else 0
  let digits := (cs.drop sign).takeWhile fun c => c.isDigit || c == '_'
  if digits.any Char.isDigit then some (sign + digits.length) else none

/-- The length of a number of which a part has been read, with the exponent that it may have. -/
def withExponent? (cs : List Char) (size : Nat) : Option Nat :=
  if cs[size]? == some 'e' || cs[size]? == some 'E' then
    (exponentLength? (cs.drop (size + 1))).map (size + 1 + ·)
  else some size

/-- The length of a number without a base. -/
def decimalLength? (cs : List Char) : Option Nat :=
  let size := digitsLength Char.isDigit cs
  if cs[size]? == some '.' then
    let next := cs[size + 1]?
    if next.any fun c => c == '.' || startsWord c then some size
    else if next.any Char.isDigit then
      withExponent? cs (size + 1 + digitsLength Char.isDigit (cs.drop (size + 1)))
    else some (size + 1)
  else withExponent? cs size

/-- The length of a number with digits of a given kind after the mark of its base. -/
def basedLength? (isDigit : Char → Bool) (cs : List Char) : Option Nat :=
  let body := (cs.drop 2).takeWhile fun c => isDigit c || c == '_'
  if body.any isDigit then some (2 + body.length) else none

/-- The length of a number without its suffix. -/
def numberLength? (cs : List Char) : Option Nat :=
  if ['0', 'x'].isPrefixOf cs then basedLength? isHex cs
  else if ['0', 'b'].isPrefixOf cs || ['0', 'o'].isPrefixOf cs then basedLength? Char.isDigit cs
  else decimalLength? cs

/-- An identifier or keyword. -/
def word? (cs : List Char) : Option (Token × Nat) :=
  let name := cs.takeWhile continuesWord
  match cs[name.length]? with
  | some '#' | some '"' | some '\'' => none
  | _ => some (.word (String.ofList name), name.length)

/-- A token that is neither in quotes nor a lifetime, of which the first character is given. An emoji
begins none. -/
def plainToken? (c : Char) (cs : List Char) : Option (Token × Nat) :=
  if c.isDigit then (numberLength? cs).map (withSuffix true cs)
  else if startsWord c then word? cs
  else if marks.contains c then
    some (.mark c (operatorMarks.contains c && cs[1]?.any operatorMarks.contains), 1)
  else if Text.Letter.isEmoji c then none
  else some (.stray, 1)

/-- The token at the beginning of a text, and its length. -/
def token? (cs : List Char) : Option (Token × Nat) :=
  if ['r', '#'].isPrefixOf cs && cs[2]?.any startsWord then
    some (.rawWord, 3 + ((cs.drop 3).takeWhile continuesWord).length)
  else match quotings.find? fun (lead, _) => lead.isPrefixOf cs with
    | some (lead, quoting) => quoting.token? (lead.length - 1) cs
    | none =>
      if cs.head? == some '\'' then lifetimeOrChar? cs
      else cs.head?.bind fun c => plainToken? c cs

/-- The white space or comment at the beginning of a text, if there is any; no result if a
comment has no end. -/
def trivia? (cs : List Char) : Option (Option Trivia) :=
  if ['/', '/'].isPrefixOf cs then some (some (.comment (cs.takeWhile (· != '\n'))))
  else if ['/', '*'].isPrefixOf cs then
    (blockComment 1 (cs.drop 2)).map fun size => some (.comment (cs.take (size + 2)))
  else if cs.head?.any isSpace then some (some (.blank (cs.takeWhile isSpace)))
  else some none

/-- The piece at the beginning of a text; `none` if it has no end or is malformed. -/
def piece? (cs : List Char) : Option Piece := do
  match ← trivia? cs with
  | some trivia => return .trivia trivia
  | none =>
    let (token, size) ← token? cs
    return .token token (cs.take size)

/-- The pieces of a text. -/
def pieces? : Nat → List Char → Option (List Piece)
  | _, [] => some []
  | 0, _ :: _ => none
  | fuel + 1, cs => do
    let piece ← piece? cs
    return piece :: (← pieces? fuel (cs.drop piece.text.length))

end Scan

/-- A text without the white space and comments that it begins with. -/
def Scan.skipTrivia : Nat → List Char → List Char
  | 0, cs => cs
  | fuel + 1, cs =>
    match trivia? cs with
    | some (some trivia) => skipTrivia fuel (cs.drop trivia.text.length)
    | _ => cs

/-- The length of the first line of a source if it names an interpreter. -/
def interpreterLine (cs : List Char) : Nat :=
  match cs with
  | '#' :: '!' :: rest =>
    if (Scan.skipTrivia rest.length rest).head? == some '[' then 0
    else (cs.takeWhile (· != '\n')).length
  | _ => 0

/-- The pieces of a source without the line that names its interpreter. -/
def pieces? (cs : List Char) : Option (List Piece) :=
  let body := cs.drop (interpreterLine cs)
  Scan.pieces? body.length body

end ServiceGen.Source
