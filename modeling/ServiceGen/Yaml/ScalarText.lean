import ServiceGen.Yaml.Source

/-!
# Scalars in a YAML Text

How the text of a scalar follows from what is written: in quotes, as a block, or plain.
Where a quoted or plain scalar runs over several lines, a single line end becomes a space
and of several the first is dropped.
-/

namespace ServiceGen.Yaml

/-! ### Gaps between lines -/

/-- What was passed over between two stretches of text: blanks, or line ends. -/
structure Gap where
  /-- The blanks, while there was no line end, in reverse. -/
  blanks : List Char := []
  /-- Whether there was a line end. -/
  broken : Bool := false
  /-- The first line end. -/
  first : List Char := []
  /-- The others. -/
  others : List Char := []

/-- What a gap becomes in the text of a scalar. -/
def Gap.text (g : Gap) : List Char :=
  if g.broken then
    if g.first == ['\n'] then (if g.others.isEmpty then [' '] else g.others)
    else g.first ++ g.others
  else g.blanks.reverse

/-- Passes over blanks and line ends. After a line end no tab may stand before column
`indent`. -/
def passGap (indent : Nat) : Nat → Gap → Cursor → Option (Gap × Cursor)
  | 0, g, c => some (g, c)
  | fuel + 1, g, c =>
    match c.next with
    | none => some (g, c)
    | some x =>
      if isBlank x then
        if g.broken then
          if x == '\t' && c.column < indent then none else passGap indent fuel g c.step
        else passGap indent fuel { g with blanks := x :: g.blanks } c.step
      else if isBreak x then
        let (text, after) := c.lineBreak
        if g.broken then passGap indent fuel { g with others := g.others ++ text } after
        else passGap indent fuel { g with blanks := [], broken := true, first := text } after
      else some (g, c)

/-! ### Quoted scalars -/

/-- The value of hexadecimal digits. -/
def hexValue? (digits : List Char) : Option Nat :=
  digits.foldl (fun acc c => acc.bind fun n =>
    if c.isDigit then some (16 * n + (c.toNat - 0x30))
    else if 'a' ≤ c && c ≤ 'f' then some (16 * n + (c.toNat - 0x57))
    else if 'A' ≤ c && c ≤ 'F' then some (16 * n + (c.toNat - 0x37))
    else none) (some 0)

/-- The characters that a letter after a backslash denotes by itself. -/
def shortEscapes : List (Char × Nat) := [
  ('0', 0x00), ('a', 0x07), ('b', 0x08), ('t', 0x09), ('\t', 0x09), ('n', 0x0A), ('v', 0x0B),
  ('f', 0x0C), ('r', 0x0D), ('e', 0x1B), (' ', 0x20), ('"', 0x22), ('/', 0x2F), ('\\', 0x5C),
  ('N', 0x85), ('_', 0xA0), ('L', 0x2028), ('P', 0x2029)]

/-- The letters after a backslash that hexadecimal digits follow, and how many. -/
def longEscapes : List (Char × Nat) :=
  [('x', 2), ('u', 4), ('U', 8)]

/-- The character that an escape after its backslash denotes, and the place after it. -/
def escape? (c : Cursor) : Option (Char × Cursor) := do
  let letter ← c.next
  match shortEscapes.lookup letter with
  | some code => return (Char.ofNat code, c.step)
  | none =>
    let size ← longEscapes.lookup letter
    let digits := c.rest.tail.take size
    let code ← hexValue? digits
    if digits.length < size || (0xD800 ≤ code && code ≤ 0xDFFF) || 0x10FFFF < code then none
    else return (Char.ofNat code, c.advance (size + 1))

/-- The end of a stretch of a quoted scalar without gaps. -/
inductive Stop
  /-- The closing quote, a blank or a line end. -/
  | plain
  /-- A line end after a backslash, which was passed over. -/
  | escapedBreak

/-- A stretch of a quoted scalar without gaps, added in reverse to `text`. -/
def quotedStretch (single : Bool) : Nat → List Char → Cursor → Option (List Char × Stop × Cursor)
  | 0, _, _ => none
  | fuel + 1, text, c =>
    if c.atGap then some (text, .plain, c)
    else if single && c.sees '\'' && c.seesAhead '\'' 1 then
      quotedStretch single fuel ('\'' :: text) (c.advance 2)
    else if c.sees (if single then '\'' else '"') then some (text, .plain, c)
    else if !single && c.sees '\\' then
      if c.step.nextIs isBreak then some (text, .escapedBreak, c.step.skipLineBreak)
      else do
        let (x, after) ← escape? c.step
        quotedStretch single fuel (x :: text) after
    else match c.next with
      | some x => quotedStretch single fuel (x :: text) c.step
      | none => none

/-- The stretches and gaps of a quoted scalar up to its closing quote. -/
def quotedBody (single : Bool) : Nat → List Char → Cursor → Option (List Char × Cursor)
  | 0, _, _ => none
  | fuel + 1, text, c =>
    if c.seesDocumentMarker || c.atEnd then none
    else do
      let (text, stop, c) ← quotedStretch single (fuel + 1) text c
      if c.sees (if single then '\'' else '"') then return (text.reverse, c.step)
      let (gap, c) ← passGap 0 (fuel + 1)
        (match stop with
          | .plain => {}
          | .escapedBreak => { broken := true }) c
      quotedBody single fuel (gap.text.reverse ++ text) c

/-- The text of a quoted scalar whose opening quote stands here. -/
def quotedScalar? (single : Bool) (c : Cursor) : Option (List Char × Cursor) :=
  quotedBody single (c.rest.length + 1) [] c.step

/-! ### Plain scalars -/

/-- Whether a character is one of those that structure flow collections. -/
def isFlowIndicator (c : Char) : Bool :=
  [',', '[', ']', '{', '}'].contains c

/-- A stretch of a plain scalar without gaps, added in reverse to `text`. In a flow
collection a colon before an indicator is an error. -/
def plainStretch (inFlow : Bool) : Nat → List Char → Cursor → Option (List Char × Cursor)
  | 0, text, c => some (text, c)
  | fuel + 1, text, c =>
    match c.next with
    | none => some (text, c)
    | some x =>
      if c.atGap then some (text, c)
      else if inFlow && x == ':' && (c.ahead 1).any (fun y => isFlowIndicator y || y == '?') then
        none
      else if (x == ':' && c.gapAhead 1) || (inFlow && isFlowIndicator x) then some (text, c)
      else plainStretch inFlow fuel (x :: text) c.step

/-- The text of a plain scalar, in reverse, with the gap that follows it. `indent` is the
column that its further lines must reach outside flow collections. -/
def plainBody (inFlow : Bool) (indent : Nat) :
    Nat → List Char → Gap → Cursor → Option (List Char × Gap × Cursor)
  | 0, text, gap, c => some (text, gap, c)
  | fuel + 1, text, gap, c =>
    if c.seesDocumentMarker || c.sees '#' then some (text, gap, c)
    else do
      let (stretch, c) ← plainStretch inFlow (fuel + 1) [] c
      let (text, gap) :=
        if stretch.isEmpty then (text, gap) else (stretch ++ (gap.text.reverse ++ text), {})
      if !c.nextIs fun x => isBlank x || isBreak x then return (text, gap, c)
      let (gap, c) ← passGap indent (fuel + 1) gap c
      if !inFlow && c.column < indent then return (text, gap, c)
      plainBody inFlow indent fuel text gap c

/-- The text of a plain scalar, whether a line end follows it, and the place after both. -/
def plainScalar? (inFlow : Bool) (indent : Nat) (c : Cursor) :
    Option (List Char × Bool × Cursor) := do
  let (text, gap, c) ← plainBody inFlow indent (c.rest.length + 1) [] {} c
  return (text.reverse, gap.broken, c)

/-! ### Block scalars -/

/-- What becomes of the line ends at the end of a block scalar. -/
inductive Chomping
  | strip
  | clip
  | keep
deriving DecidableEq

/-- The chomping that an indicator asks for. -/
def chomping? (c : Cursor) : Option Chomping :=
  if c.sees '+' then some .keep else if c.sees '-' then some .strip else none

/-- The indentation that a digit asks for: `none` without a digit, an error for zero. -/
def indentDigit? (c : Cursor) : Option (Option Nat) :=
  match c.next with
  | some x => if x.isDigit then (if x == '0' then none else some (some (x.toNat - 0x30)))
    else some none
  | none => some none

/-- The indicators of a block scalar, in either order, and the place after them. -/
def blockHeader? (c : Cursor) : Option (Chomping × Option Nat × Cursor) := do
  match chomping? c with
  | some chomp =>
    match ← indentDigit? c.step with
    | some n => return (chomp, some n, c.advance 2)
    | none => return (chomp, none, c.step)
  | none =>
    match ← indentDigit? c with
    | some n =>
      match chomping? c.step with
      | some chomp => return (chomp, some n, c.advance 2)
      | none => return (.clip, some n, c.step)
    | none => return (.clip, none, c)

/-- Passes over empty lines, collecting their line ends and the greatest column reached.
Spaces are passed over up to column `indent`, or all of them where it is not known; a tab
may not stand in their place. -/
def emptyLines (indent : Option Nat) : Nat → List Char → Nat → Cursor →
    Option (List Char × Nat × Cursor)
  | 0, breaks, width, c => some (breaks, width, c)
  | fuel + 1, breaks, width, c =>
    let (spaces, _) := c.takeWhile (· == ' ')
    let c := match indent with
      | none => c.advance spaces.length
      | some n => c.advance (min spaces.length (n - c.column))
    let width := max width c.column
    let within := match indent with
      | none => true
      | some n => c.column < n
    if within && c.sees '\t' then none
    else if c.nextIs isBreak then
      let (text, after) := c.lineBreak
      emptyLines indent fuel (breaks ++ text) width after
    else some (breaks, width, c)

/-- What a block scalar has been read to so far. -/
structure Block where
  /-- The text, in reverse. -/
  text : List Char := []
  /-- The line end after the last line. -/
  lineEnd : List Char := []
  /-- The ends of the empty lines after it. -/
  breaks : List Char := []
  /-- Whether the last line began with a blank. -/
  indented : Bool := false

/-- The text with the line ends before a further line. In a folded block a single line end
between lines that begin with no blank is a space, and of several the first is dropped. -/
def Block.joined (folded : Bool) (b : Block) (blank : Bool) : List Char :=
  if folded && b.lineEnd == ['\n'] && !b.indented && !blank then
    (if b.breaks.isEmpty then ' ' :: b.text else b.breaks.reverse ++ b.text)
  else b.breaks.reverse ++ (b.lineEnd.reverse ++ b.text)

/-- The lines of a block scalar with the given indentation. -/
def blockLines (folded : Bool) (indent : Nat) : Nat → Block → Cursor → Option (Block × Cursor)
  | 0, b, c => some (b, c)
  | fuel + 1, b, c =>
    if c.column != indent || c.atEnd then some (b, c)
    else
      let blank := c.nextIs isBlank
      let (line, c) := c.takeWhile (!isBreak ·)
      let text := line.reverse ++ b.joined folded blank
      let (lineEnd, c) := c.lineBreak
      do
        let (breaks, _, c) ← emptyLines (some indent) (fuel + 1) [] 0 c
        blockLines folded indent fuel { text, lineEnd, breaks, indented := blank } c

/-- The text of a block scalar whose indicator stands here, and the place after it. `outer`
is the indentation of the block around it, one more than the column. -/
def blockScalar? (folded : Bool) (outer : Nat) (c : Cursor) : Option (List Char × Cursor) := do
  let (chomp, explicit, c) ← blockHeader? c.step
  let c := (c.skipWhile isBlank).skipComment
  if !c.atLineEnd then none
  let c := c.skipLineBreak
  let fuel := c.rest.length + 1
  let known := explicit.map fun n => if 0 < outer then outer - 1 + n else n
  let (breaks, width, c) ← emptyLines known fuel [] 0 c
  let indent := known.getD (max (max width outer) 1)
  let (b, c) ← blockLines folded indent fuel { breaks } c
  let text := match chomp with
    | .strip => b.text
    | .clip => b.lineEnd.reverse ++ b.text
    | .keep => b.breaks.reverse ++ (b.lineEnd.reverse ++ b.text)
  return (text.reverse, c)

end ServiceGen.Yaml
