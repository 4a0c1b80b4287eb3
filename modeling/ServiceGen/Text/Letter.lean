import ServiceGen.Text.Letter.Tables

/-!
# Letters

Which characters are letters, digits, white space or parts of identifiers, and how letters
change case. The ASCII characters are decided by rule; for all others the tables of
`ServiceGen.Text.Letter.Tables` are consulted.

A letter may change into several characters (`ß` becomes `SS`), so the case mappings of a
character give a list. One mapping depends on its neighbours: a capital sigma at the end of
a word has a lower-case form of its own, which `lowerText` takes into account.
-/

namespace ServiceGen.Text.Letter

/-- Whether a character lies in one of the inclusive ranges. -/
def inRanges (ranges : List (Nat × Nat)) (c : Char) : Bool :=
  ranges.any fun r => r.1 ≤ c.toNat && c.toNat ≤ r.2

/-- Whether a character lies in one of the runs `(first, last, step)`. -/
def inRuns (runs : List (Nat × Nat × Nat)) (c : Char) : Bool :=
  runs.any fun (first, last, step) =>
    first ≤ c.toNat && c.toNat ≤ last && (c.toNat - first) % step == 0

/-- Whether a character is one of the 128 of ASCII. -/
def isAscii (c : Char) : Bool :=
  c.toNat < 0x80

/-- Letters and numbers of any script. -/
def isWord (c : Char) : Bool :=
  if isAscii c then c.isAlphanum else inRanges wordRanges c

/-- Lower-case letters of any script. -/
def isLower (c : Char) : Bool :=
  if isAscii c then c.isLower else inRuns lowerRuns c

/-- Upper-case letters of any script. -/
def isUpper (c : Char) : Bool :=
  if isAscii c then c.isUpper else inRuns upperRuns c

/-- White space: the space, the controls from tab to carriage return, and the blanks of
other scripts. -/
def isBlank (c : Char) : Bool :=
  if isAscii c then c == ' ' || (9 ≤ c.toNat && c.toNat ≤ 13) else inRanges blankRanges c

/-- Characters that may continue an identifier. -/
def isIdentifierContinue (c : Char) : Bool :=
  if isAscii c then c.isAlphanum || c == '_'
  else (inRanges wordRanges c && !inRanges wordOnlyRanges c) || inRanges joiningRanges c

/-- Characters that may begin an identifier. The underscore is not among them. -/
def isIdentifierStart (c : Char) : Bool :=
  if isAscii c then c.isAlpha else isIdentifierContinue c && !inRanges notFirstRanges c

/-- Emoji of any script but ASCII. -/
def isEmoji (c : Char) : Bool :=
  !isAscii c && inRanges emojiRanges c

/-- The image of a code point under the runs `(first, last, step, image)`. -/
def imageIn (runs : List (Nat × Nat × Nat × Nat)) (code : Nat) : Option Nat :=
  runs.findSome? fun (first, last, step, image) =>
    if first ≤ code && code ≤ last && (code - first) % step == 0
    then some (image + code - first) else none

/-- The lower-case form of a character on its own. -/
def toLower (c : Char) : List Char :=
  if isAscii c then [c.toLower]
  else match lowerExpansions.lookup c.toNat with
    | some codes => codes.map Char.ofNat
    | none => [((imageIn lowerImages c.toNat).map Char.ofNat).getD c]

/-- The upper-case form of a character. -/
def toUpper (c : Char) : List Char :=
  if isAscii c then [c.toUpper]
  else match upperExpansions.lookup c.toNat with
    | some codes => codes.map Char.ofNat
    | none => [((imageIn upperImages c.toNat).map Char.ofNat).getD c]

/-- Characters that have a case. -/
def isCased (c : Char) : Bool :=
  if isAscii c then c.isAlpha else inRanges casedRanges c

/-- Characters that are looked through when a neighbouring cased letter is sought. -/
def isCaseIgnorable (c : Char) : Bool :=
  if isAscii c then [0x27, 0x2E, 0x3A, 0x5E, 0x60].contains c.toNat
  else inRanges caseIgnorableRanges c

/-- Whether the first character that is not looked through has a case. -/
def startsCased (cs : List Char) : Bool :=
  ((cs.dropWhile isCaseIgnorable).head?.map isCased).getD false

/-- The lower-case form of a text whose characters so far, in reverse, are `before`: a
capital sigma after a cased letter and before none takes its final form. -/
def lowerFrom (before : List Char) : List Char → List Char
  | [] => []
  | c :: rest =>
    let form :=
      if c == 'Σ' then
        if startsCased before && !startsCased rest then ['ς'] else ['σ']
      else toLower c
    form ++ lowerFrom (c :: before) rest

/-- The lower-case form of a text. -/
def lowerText (cs : List Char) : List Char :=
  lowerFrom [] cs

/-- The upper-case form of a text. -/
def upperText (cs : List Char) : List Char :=
  cs.flatMap toUpper

end ServiceGen.Text.Letter
