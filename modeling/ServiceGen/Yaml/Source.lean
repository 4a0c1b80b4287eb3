import ServiceGen.Text.Utf8

/-!
# Characters of a YAML Text

The bytes of a YAML text are UTF-8, or UTF-16 of either byte order if a mark at the start
says so. Control characters other than tabs and line ends do not occur in a YAML text.

A `Cursor` is a place in the text: what follows it, and where it is.
-/

namespace ServiceGen.Yaml

/-- The code units of a UTF-16 text; `none` if half a unit is left over. -/
def codeUnits? (bigEndian : Bool) : List UInt8 → Option (List Nat)
  | [] => some []
  | [_] => none
  | a :: b :: rest =>
    let unit := if bigEndian then a.toNat * 256 + b.toNat else b.toNat * 256 + a.toNat
    (codeUnits? bigEndian rest).map (unit :: ·)

/-- The characters of UTF-16 code units; `none` if half of a surrogate pair stands alone. -/
def ofCodeUnits? : List Nat → Option (List Char)
  | [] => some []
  | unit :: rest =>
    if 0xDC00 ≤ unit && unit ≤ 0xDFFF then none
    else if 0xD800 ≤ unit && unit ≤ 0xDBFF then
      match rest with
      | low :: rest =>
        if 0xDC00 ≤ low && low ≤ 0xDFFF then
          let code := 0x10000 + (unit - 0xD800) * 0x400 + (low - 0xDC00)
          (ofCodeUnits? rest).map (Char.ofNat code :: ·)
        else none
      | [] => none
    else (ofCodeUnits? rest).map (Char.ofNat unit :: ·)

/-- Whether a character may occur in a YAML text. -/
def isAllowed (c : Char) : Bool :=
  let n := c.toNat
  n == 0x09 || n == 0x0A || n == 0x0D || (0x20 ≤ n && n ≤ 0x7E) || n == 0x85
    || (0xA0 ≤ n && n ≤ 0xFFFD) || 0x10000 ≤ n

/-- The characters of a YAML text; `none` if it is not well-formed. -/
def decode? (bytes : List UInt8) : Option (List Char) := do
  let cs ← match bytes with
    | 0xFF :: 0xFE :: rest => (codeUnits? false rest).bind ofCodeUnits?
    | 0xFE :: 0xFF :: rest => (codeUnits? true rest).bind ofCodeUnits?
    | 0xEF :: 0xBB :: 0xBF :: rest => Text.Utf8.decode? rest
    | _ => Text.Utf8.decode? bytes
  if cs.all isAllowed then some cs else none

/-- Whether a character ends a line. -/
def isBreak (c : Char) : Bool :=
  c == '\n' || c == '\r' || c.toNat == 0x85 || c.toNat == 0x2028 || c.toNat == 0x2029

/-- Whether a character is a space or a tab. -/
def isBlank (c : Char) : Bool :=
  c == ' ' || c == '\t'

/-- A place in a text. -/
structure Cursor where
  /-- What follows the place. -/
  rest : List Char
  /-- The number of characters before it. -/
  index : Nat := 0
  /-- The number of lines before its own. -/
  line : Nat := 0
  /-- The number of characters before it on its line. -/
  column : Nat := 0

namespace Cursor

/-- The character that is `n` places ahead. -/
def ahead (c : Cursor) (n : Nat) : Option Char :=
  c.rest[n]?

/-- The next character. -/
def next (c : Cursor) : Option Char :=
  c.rest.head?

/-- Whether the next character is a given one. -/
def sees (c : Cursor) (x : Char) : Bool :=
  c.next == some x

/-- Whether a given character is `n` places ahead. -/
def seesAhead (c : Cursor) (x : Char) (n : Nat) : Bool :=
  c.ahead n == some x

/-- Whether the next character satisfies `p`; false at the end. -/
def nextIs (c : Cursor) (p : Char → Bool) : Bool :=
  c.next.any p

/-- Whether the text ends here. -/
def atEnd (c : Cursor) : Bool :=
  c.rest.isEmpty

/-- Whether the text ends or a line ends here. -/
def atLineEnd (c : Cursor) : Bool :=
  c.next.all isBreak

/-- Whether a blank, the end of a line or the end of the text is `n` places ahead. -/
def gapAhead (c : Cursor) (n : Nat) : Bool :=
  (c.ahead n).all fun x => isBlank x || isBreak x

/-- Whether a blank, the end of a line or the end of the text follows. -/
def atGap (c : Cursor) : Bool :=
  c.gapAhead 0

/-- The place after the next character. -/
def step (c : Cursor) : Cursor :=
  match c.rest with
  | [] => c
  | _ :: rest => { c with rest, index := c.index + 1, column := c.column + 1 }

/-- The place `n` characters on. -/
def advance : Nat → Cursor → Cursor
  | 0, c => c
  | n + 1, c => advance n c.step

/-- The end of a line that stands here, as it counts in a scalar, and the place after it. -/
def lineBreak (c : Cursor) : List Char × Cursor :=
  let after (rest : List Char) (size : Nat) : Cursor :=
    { rest, index := c.index + size, line := c.line + 1, column := 0 }
  match c.rest with
  | '\r' :: '\n' :: rest => (['\n'], after rest 2)
  | x :: rest =>
    if x == '\n' || x == '\r' || x.toNat == 0x85 then (['\n'], after rest 1)
    else if isBreak x then ([x], after rest 1)
    else ([], c)
  | [] => ([], c)

/-- The place after the end of a line that stands here. -/
def skipLineBreak (c : Cursor) : Cursor :=
  c.lineBreak.2

/-- The characters that satisfy `p`, up to the first that does not, and the place there. -/
def takeWhile (c : Cursor) (p : Char → Bool) : List Char × Cursor :=
  let (taken, rest) := c.rest.span p
  let n := taken.length
  (taken, { c with rest, index := c.index + n, column := c.column + n })

/-- The place of the first character that does not satisfy `p`. -/
def skipWhile (c : Cursor) (p : Char → Bool) : Cursor :=
  (c.takeWhile p).2

/-- The place of the end of the line, if a comment stands here. -/
def skipComment (c : Cursor) : Cursor :=
  if c.sees '#' then c.skipWhile (!isBreak ·) else c

/-- Whether three of a given character begin the line and stand alone. -/
def seesMarker (c : Cursor) (x : Char) : Bool :=
  c.column == 0 && c.sees x && c.seesAhead x 1 && c.seesAhead x 2 && c.gapAhead 3

/-- Whether the line begins with the mark of the start or the end of a document. -/
def seesDocumentMarker (c : Cursor) : Bool :=
  c.seesMarker '-' || c.seesMarker '.'

end Cursor

end ServiceGen.Yaml
