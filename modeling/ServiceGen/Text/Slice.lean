import ServiceGen.Text.Letter

/-!
# Cutting Text

Trimming, splitting and searching of texts given as lists of characters. Nothing here is
lost on the way: `splitBy` with its separators put back, or `lines` with its line ends, is
the text itself; `trim` removes white space only, and only at the ends.
-/

namespace ServiceGen.Text

/-- The text without the white space at its start. -/
def trimStart (cs : List Char) : List Char :=
  cs.dropWhile Letter.isBlank

/-- The text without the white space at its end. -/
def trimEnd (cs : List Char) : List Char :=
  (cs.reverse.dropWhile Letter.isBlank).reverse

/-- The text without the white space at both ends. -/
def trim (cs : List Char) : List Char :=
  trimEnd (trimStart cs)

/-- Whether the text is empty or all white space. -/
def isBlankText (cs : List Char) : Bool :=
  cs.all Letter.isBlank

/-- The pieces between the characters that satisfy `p`. There is always at least one piece,
and one more than there are separators. -/
def splitBy (p : Char → Bool) : List Char → List (List Char)
  | [] => [[]]
  | c :: rest =>
    if p c then [] :: splitBy p rest
    else match splitBy p rest with
      | [] => [[c]]
      | piece :: pieces => (c :: piece) :: pieces

/-- The pieces between the occurrences of one character. -/
def splitAtChar (sep : Char) (cs : List Char) : List (List Char) :=
  splitBy (· == sep) cs

/-- The words of a text: its maximal runs without white space. -/
def words (cs : List Char) : List (List Char) :=
  (splitBy Letter.isBlank cs).filter (!·.isEmpty)

/-- Texts joined with a separator between neighbours. -/
def join (sep : List Char) : List (List Char) → List Char
  | [] => []
  | [piece] => piece
  | piece :: pieces => piece ++ sep ++ join sep pieces

/-- A line that was ended by a line feed, without a carriage return before it. -/
def withoutReturn (line : List Char) : List Char :=
  if line.getLast? == some '\r' then line.dropLast else line

/-- The lines of a text, without their ends (`\n` or `\r\n`). A text that ends with a line
end has no further, empty line after it. -/
def lines (cs : List Char) : List (List Char) :=
  match (splitAtChar '\n' cs).reverse with
  | [] => []
  | [] :: ended => (ended.map withoutReturn).reverse
  | last :: ended => (last :: ended.map withoutReturn).reverse

/-- The text on one line: its words with single spaces between them. -/
def singleLine (cs : List Char) : List Char :=
  join [' '] (words cs)

/-- The position of the first occurrence of `needle`. -/
def indexOf? (needle : List Char) : List Char → Option Nat
  | [] => if needle.isEmpty then some 0 else none
  | c :: rest =>
    if needle.isPrefixOf (c :: rest) then some 0
    else (indexOf? needle rest).map (· + 1)

/-- Whether `needle` occurs in the text. -/
def contains (needle cs : List Char) : Bool :=
  (indexOf? needle cs).isSome

/-- The text with each occurrence of a non-empty `needle`, found from the left, replaced.
`skip` counts the characters of a found occurrence that are still to be passed over. -/
def replaceFrom (needle replacement : List Char) : Nat → List Char → List Char
  | _, [] => []
  | skip + 1, _ :: rest => replaceFrom needle replacement skip rest
  | 0, c :: rest =>
    if needle.isPrefixOf (c :: rest) then
      replacement ++ replaceFrom needle replacement (needle.length - 1) rest
    else c :: replaceFrom needle replacement 0 rest

/-- The text with each occurrence of a non-empty `needle`, found from the left, replaced. -/
def replace (needle replacement cs : List Char) : List Char :=
  replaceFrom needle replacement 0 cs

/-- The text with the first occurrence of `needle` removed. -/
def removeFirst (needle cs : List Char) : List Char :=
  match indexOf? needle cs with
  | none => cs
  | some i => cs.take i ++ cs.drop (i + needle.length)

/-- The text before the first occurrence of a character, and the text after it. -/
def cutAtChar? (sep : Char) : List Char → Option (List Char × List Char)
  | [] => none
  | c :: rest =>
    if c == sep then some ([], rest)
    else (cutAtChar? sep rest).map fun (before, after) => (c :: before, after)

/-- Equality of texts up to the case of ASCII letters. -/
def equalIgnoringAsciiCase (a b : List Char) : Bool :=
  a.map Char.toLower == b.map Char.toLower

/-- The text with its ASCII capitals in lower case. -/
def asciiLower (cs : List Char) : List Char :=
  cs.map Char.toLower

/-- The text with its ASCII letters in upper case. -/
def asciiUpper (cs : List Char) : List Char :=
  cs.map Char.toUpper

end ServiceGen.Text
