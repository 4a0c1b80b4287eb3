import ServiceGen.Datum.Scalar
import ServiceGen.Yaml.ScalarText

/-!
# Tokens of a YAML Text

The tokens that a YAML text consists of: its scalars, names and indicators, and the starts
and ends of blocks, which are not written but follow from the indentation.

A mapping key is recognized only when the colon after it is found. Until then the place
where it would have to begin is remembered as a *candidate*: a key must stand on one line
and be no longer than 1024 characters. When the colon comes, the tokens of the key, and if
need be of the block that it opens, are put before the tokens read since (`insertAt`).
-/

namespace ServiceGen.Yaml

/-- A tag as it is written: a handle that stands for a first part, and the rest. -/
structure TagText where
  /-- The handle; empty where the tag is written out. -/
  handle : String
  /-- The rest of the tag. -/
  suffix : String
deriving DecidableEq, Inhabited

/-- A token. -/
inductive Token
  /-- A `%YAML` line. -/
  | version (major minor : Nat)
  /-- A `%TAG` line. -/
  | tagHandle (handle first : String)
  | documentStart
  | documentEnd
  | blockSequenceStart
  | blockMappingStart
  | blockEnd
  | flowSequenceStart
  | flowSequenceEnd
  | flowMappingStart
  | flowMappingEnd
  | entry
  | flowEntry
  | key
  | value
  | alias (name : String)
  | anchor (name : String)
  | tag (text : TagText)
  | scalar (text : String) (style : ScalarStyle)
  | streamEnd
deriving DecidableEq, Inhabited

/-- A place where a mapping key would have to begin. -/
structure Candidate where
  /-- Whether the indentation leaves only a key. -/
  required : Bool
  /-- The number of tokens before it. -/
  position : Nat
  /-- Where it is in the text. -/
  index : Nat
  /-- Its line. -/
  line : Nat
  /-- Its column. -/
  column : Nat

/-- How far a text has been read. -/
structure Lexer where
  /-- The place reached. -/
  cursor : Cursor
  /-- The tokens so far, newest first. -/
  tokens : List Token := []
  /-- The number of tokens so far. -/
  count : Nat := 0
  /-- The indentations of the open blocks, each one more than its column, innermost first. -/
  indents : List Nat := []
  /-- The possible key of each open flow collection, innermost first, and below them that of
  the block around them. -/
  candidates : List (Option Candidate) := [none]
  /-- The number of open flow collections. -/
  flowLevel : Nat := 0
  /-- Whether a key may begin here. -/
  keyAllowed : Bool := true

namespace Lexer

/-- The indentation of the innermost block, one more than its column, or zero. -/
def indent (l : Lexer) : Nat :=
  l.indents.head?.getD 0

/-- Whether some flow collection is open. -/
def inFlow (l : Lexer) : Bool :=
  0 < l.flowLevel

/-- Adds a token. -/
def push (l : Lexer) (t : Token) : Lexer :=
  { l with tokens := t :: l.tokens, count := l.count + 1 }

/-- Puts a token before those from a position on. -/
def insertAt (l : Lexer) (position : Nat) (t : Token) : Lexer :=
  let later := l.count - position
  { l with
    tokens := l.tokens.take later ++ t :: l.tokens.drop later
    count := l.count + 1 }

/-- Ends the blocks that are indented further than `width`, one more than a column. -/
def endBlocks (width : Nat) : List Nat → Lexer → Lexer
  | [], l => { l with indents := [] }
  | indent :: outer, l =>
    if width < indent then endBlocks width outer (l.push .blockEnd)
    else { l with indents := indent :: outer }

/-- Ends the blocks that a place at the given width closes. -/
def unindent (l : Lexer) (width : Nat) : Lexer :=
  if l.inFlow then l else endBlocks width l.indents l

/-- Opens a block at a column if it is indented further than the innermost one; its token
goes to the given position. -/
def openBlock (l : Lexer) (column position : Nat) (t : Token) : Lexer :=
  if !l.inFlow && l.indent < column + 1 then
    ({ l with indents := (column + 1) :: l.indents }).insertAt position t
  else l

/-- Gives up the candidate of the innermost level; an error if only a key could stand
there. -/
def dropCandidate? (l : Lexer) : Option Lexer :=
  match l.candidates with
  | some c :: outer => if c.required then none else some { l with candidates := none :: outer }
  | _ => some l

/-- Remembers the present place as a candidate, if a key may begin here. -/
def saveCandidate? (l : Lexer) : Option Lexer :=
  if l.keyAllowed then do
    let l ← l.dropCandidate?
    let here := l.cursor
    let candidate : Candidate := {
      required := !l.inFlow && l.indent == here.column + 1
      position := l.count, index := here.index, line := here.line, column := here.column }
    return { l with candidates := some candidate :: l.candidates.tail }
  else some l

/-- Whether a candidate is too far back to be a key. -/
def Candidate.isStale (c : Candidate) (here : Cursor) : Bool :=
  c.line < here.line || c.index + 1024 < here.index

/-- Gives up the candidates that are too far back; an error if only a key could stand
there. -/
def dropStale? (l : Lexer) : Option Lexer := do
  let candidates ← l.candidates.mapM fun
    | some c =>
      if Candidate.isStale c l.cursor then (if c.required then none else some none)
      else some (some c)
    | none => some none
  return { l with candidates }

/-- Passes over white space, comments and line ends. Outside flow collections a tab may not
stand where a key may begin, and a key may begin after every line end. -/
def skipToToken : Nat → Lexer → Lexer
  | 0, l => l
  | fuel + 1, l =>
    let c := l.cursor
    let c := if c.column == 0 && c.nextIs (·.toNat == 0xFEFF) then c.step else c
    let tabs := l.inFlow || !l.keyAllowed
    let c := (c.skipWhile fun x => x == ' ' || (tabs && x == '\t')).skipComment
    if c.nextIs isBreak then
      skipToToken fuel
        { l with cursor := c.skipLineBreak, keyAllowed := l.keyAllowed || !l.inFlow }
    else { l with cursor := c }

/-! ### Names and tags -/

/-- Whether a character may stand in the name of an anchor. -/
def isNameChar (c : Char) : Bool :=
  c.isAlphanum || c == '_' || c == '-'

/-- The name after the mark of an anchor or alias. -/
def name? (c : Cursor) : Option (String × Cursor) :=
  let (name, after) := c.step.takeWhile isNameChar
  let ended := after.atGap || after.nextIs (fun x =>
    ['?', ':', ',', ']', '}', '%', '@'].contains x || x.toNat == 0x60)
  if name.isEmpty || !ended then none else some (String.ofList name, after)

/-- A tag handle: an exclamation mark, a name, and if there is one another mark. In a
directive the second mark is needed after a name. -/
def tagHandle? (directive : Bool) (c : Cursor) : Option (List Char × Cursor) :=
  if c.sees '!' then
    let (name, after) := c.step.takeWhile isNameChar
    if after.sees '!' then some ('!' :: name ++ ['!'], after.step)
    else if directive && !name.isEmpty then none
    else some ('!' :: name, after)
  else none

/-- Whether a character may stand in a tag; the last three only in a tag written out. -/
def isTagChar (full : Bool) (c : Char) : Bool :=
  isNameChar c || ";/?:@&=+$.!~*'()".toList.contains c || (full && [',', '[', ']'].contains c)

/-- The byte of a percent escape. -/
def percentByte? (c : Cursor) : Option UInt8 := do
  let digits := c.rest.tail.take 2
  if c.sees '%' && digits.length == 2 then return (← hexValue? digits).toUInt8 else none

/-- The number of bytes of a character by its first byte. -/
def sequenceLength? (first : UInt8) : Option Nat :=
  if first < 0x80 then some 1
  else if first &&& 0xE0 == 0xC0 then some 2
  else if first &&& 0xF0 == 0xE0 then some 3
  else if first &&& 0xF8 == 0xF0 then some 4
  else none

/-- The bytes of `n` percent escapes. -/
def percentBytes? : Nat → Cursor → Option (List UInt8 × Cursor)
  | 0, c => some ([], c)
  | n + 1, c => do
    let b ← percentByte? c
    let (rest, c) ← percentBytes? n (c.advance 3)
    return (b :: rest, c)

/-- The character that percent escapes denote. -/
def percentChar? (c : Cursor) : Option (List Char × Cursor) := do
  let first ← percentByte? c
  let size ← sequenceLength? first
  let (bytes, after) ← percentBytes? size c
  return (← Text.Utf8.decode? bytes, after)

/-- The characters of a tag, in reverse. -/
def tagChars? (full : Bool) : Nat → List Char → Cursor → Option (List Char × Cursor)
  | 0, text, c => some (text, c)
  | fuel + 1, text, c =>
    match c.next with
    | none => some (text, c)
    | some x =>
      if x == '%' then do
        let (decoded, after) ← percentChar? c
        tagChars? full fuel (decoded.reverse ++ text) after
      else if isTagChar full x then tagChars? full fuel (x :: text) c.step
      else some (text, c)

/-- The characters of a tag after those of `first`, which are part of it. -/
def tagText? (full : Bool) (first : List Char) (c : Cursor) : Option (List Char × Cursor) := do
  let (text, after) ← tagChars? full (c.rest.length + 1) first.reverse c
  return (text.reverse, after)

/-- A tag: written out between angle brackets, or a handle and the rest. -/
def tag? (inFlow : Bool) (c : Cursor) : Option (TagText × Cursor) := do
  let (tag, after) ←
    if c.seesAhead '<' 1 then do
      let (text, after) ← tagText? true [] (c.advance 2)
      if text.isEmpty || !after.sees '>' then none
      pure ((⟨"", String.ofList text⟩ : TagText), after.step)
    else do
      let (handle, after) ← tagHandle? false c
      if handle.length > 1 && handle.getLast? == some '!' then
        let (text, after) ← tagText? false [] after
        if text.isEmpty then none
        pure (⟨String.ofList handle, String.ofList text⟩, after)
      else
        let (text, after) ← tagText? false handle.tail after
        if text.isEmpty then pure (⟨"", "!"⟩, after) else pure (⟨"!", String.ofList text⟩, after)
  if after.atGap || (inFlow && after.sees ',') then some (tag, after) else none

/-! ### Directives -/

/-- A number of at most nine digits. -/
def versionNumber? (c : Cursor) : Option (Nat × Cursor) :=
  let (digits, after) := c.takeWhile Char.isDigit
  if digits.isEmpty || digits.length > 9 then none
  else some (digits.foldl (fun n d => 10 * n + (d.toNat - 0x30)) 0, after)

/-- A directive, whose percent sign stands here, with the end of its line. -/
def directive? (c : Cursor) : Option (Token × Cursor) := do
  let (name, c) := c.step.takeWhile isNameChar
  if name.isEmpty || !c.atGap then none
  let (token, c) ←
    if name == "YAML".toList then do
      let (major, c) ← versionNumber? (c.skipWhile isBlank)
      if !c.sees '.' then none
      let (minor, c) ← versionNumber? c.step
      pure (Token.version major minor, c)
    else if name == "TAG".toList then do
      let (handle, c) ← tagHandle? true (c.skipWhile isBlank)
      if !c.nextIs isBlank then none
      let (first, c) ← tagText? true [] (c.skipWhile isBlank)
      if first.isEmpty || !c.atGap then none
      pure (Token.tagHandle (String.ofList handle) (String.ofList first), c)
    else none
  let c := (c.skipWhile isBlank).skipComment
  if c.atLineEnd then return (token, c.skipLineBreak) else none

/-! ### Reading one token -/

/-- The lexer at another place. -/
def moveTo (l : Lexer) (c : Cursor) : Lexer :=
  { l with cursor := c }

/-- The end of the text. -/
def readEnd? (l : Lexer) : Option Lexer := do
  let l ← (l.unindent 0).dropCandidate?
  return ({ l with keyAllowed := false }).push .streamEnd

/-- A directive. -/
def readDirective? (l : Lexer) : Option Lexer := do
  let l ← (l.unindent 0).dropCandidate?
  let (token, c) ← directive? l.cursor
  return (({ l with keyAllowed := false }).moveTo c).push token

/-- The mark of the start or the end of a document. -/
def readDocumentMarker? (l : Lexer) (t : Token) : Option Lexer := do
  let l ← (l.unindent 0).dropCandidate?
  return (({ l with keyAllowed := false }).moveTo (l.cursor.advance 3)).push t

/-- The start of a flow collection. -/
def readFlowStart? (l : Lexer) (t : Token) : Option Lexer := do
  let l ← l.saveCandidate?
  let l := { l with
    candidates := none :: l.candidates, flowLevel := l.flowLevel + 1, keyAllowed := true }
  return (l.moveTo l.cursor.step).push t

/-- The end of a flow collection. -/
def readFlowEnd? (l : Lexer) (t : Token) : Option Lexer := do
  let l ← l.dropCandidate?
  let l := if l.inFlow then
      { l with candidates := l.candidates.tail, flowLevel := l.flowLevel - 1 }
    else l
  return (({ l with keyAllowed := false }).moveTo l.cursor.step).push t

/-- The comma between the entries of a flow collection. -/
def readFlowEntry? (l : Lexer) : Option Lexer := do
  let l ← l.dropCandidate?
  return (({ l with keyAllowed := true }).moveTo l.cursor.step).push .flowEntry

/-- The hyphen before an entry of a block sequence. -/
def readEntry? (l : Lexer) : Option Lexer := do
  if !l.inFlow && !l.keyAllowed then none
  let l := l.openBlock l.cursor.column l.count .blockSequenceStart
  let l ← l.dropCandidate?
  return (({ l with keyAllowed := true }).moveTo l.cursor.step).push .entry

/-- The question mark before a key. -/
def readKey? (l : Lexer) : Option Lexer := do
  if !l.inFlow && !l.keyAllowed then none
  let l := l.openBlock l.cursor.column l.count .blockMappingStart
  let l ← l.dropCandidate?
  return (({ l with keyAllowed := !l.inFlow }).moveTo l.cursor.step).push .key

/-- The colon before a value. If a key can have begun at a remembered place, it did. -/
def readValue? (l : Lexer) : Option Lexer := do
  let l ← match l.candidates with
    | some c :: outer =>
      let l := (l.insertAt c.position .key).openBlock c.column c.position .blockMappingStart
      some { l with candidates := none :: outer, keyAllowed := false }
    | _ =>
      if !l.inFlow && !l.keyAllowed then none
      else
        let l := l.openBlock l.cursor.column l.count .blockMappingStart
        some { l with keyAllowed := !l.inFlow }
  return (l.moveTo l.cursor.step).push .value

/-- An anchor, alias or tag. -/
def readProperty? (l : Lexer) (read : Cursor → Option (Token × Cursor)) : Option Lexer := do
  let l ← l.saveCandidate?
  let (token, c) ← read l.cursor
  return (({ l with keyAllowed := false }).moveTo c).push token

/-- A block scalar. -/
def readBlockScalar? (l : Lexer) (folded : Bool) : Option Lexer := do
  let l ← l.dropCandidate?
  let (text, c) ← blockScalar? folded l.indent l.cursor
  let style := if folded then ScalarStyle.quoted else .literal
  return (({ l with keyAllowed := true }).moveTo c).push (.scalar (String.ofList text) style)

/-- A quoted scalar. -/
def readQuotedScalar? (l : Lexer) (single : Bool) : Option Lexer := do
  let l ← l.saveCandidate?
  let (text, c) ← quotedScalar? single l.cursor
  return (({ l with keyAllowed := false }).moveTo c).push (.scalar (String.ofList text) .quoted)

/-- A plain scalar. -/
def readPlainScalar? (l : Lexer) : Option Lexer := do
  let l ← l.saveCandidate?
  let (text, broken, c) ← plainScalar? l.inFlow l.indent l.cursor
  return (({ l with keyAllowed := broken }).moveTo c).push (.scalar (String.ofList text) .plain)

/-- Characters that a plain scalar cannot begin with. -/
def isIndicator (c : Char) : Bool :=
  "-?:,[]\x7b\x7d#&*!|>'\"%@".toList.contains c || c.toNat == 0x60

/-- Whether a plain scalar begins here. -/
def plainBegins (l : Lexer) : Bool :=
  let c := l.cursor
  (!c.atGap && !c.nextIs isIndicator)
    || (c.sees '-' && !(c.ahead 1).any isBlank)
    || (!l.inFlow && (c.sees '?' || c.sees ':') && !c.gapAhead 1)

/-- Reads one token, with the starts and ends of blocks that go with it. -/
def readToken? (l : Lexer) : Option Lexer := do
  let l := skipToToken (l.cursor.rest.length + 1) l
  let l ← l.dropStale?
  let l := l.unindent (l.cursor.column + 1)
  let c := l.cursor
  match c.next with
  | none => l.readEnd?
  | some x =>
    if c.column == 0 && x == '%' then l.readDirective?
    else if c.seesMarker '-' then l.readDocumentMarker? .documentStart
    else if c.seesMarker '.' then l.readDocumentMarker? .documentEnd
    else if x == '[' then l.readFlowStart? .flowSequenceStart
    else if x == '{' then l.readFlowStart? .flowMappingStart
    else if x == ']' then l.readFlowEnd? .flowSequenceEnd
    else if x == '}' then l.readFlowEnd? .flowMappingEnd
    else if x == ',' then l.readFlowEntry?
    else if x == '-' && c.gapAhead 1 then l.readEntry?
    else if x == '?' && (l.inFlow || c.gapAhead 1) then l.readKey?
    else if x == ':' && (l.inFlow || c.gapAhead 1) then l.readValue?
    else if x == '*' then l.readProperty? fun c => (name? c).map fun (n, c) => (.alias n, c)
    else if x == '&' then l.readProperty? fun c => (name? c).map fun (n, c) => (.anchor n, c)
    else if x == '!' then l.readProperty? fun c => (tag? l.inFlow c).map fun (t, c) => (.tag t, c)
    else if x == '|' && !l.inFlow then l.readBlockScalar? false
    else if x == '>' && !l.inFlow then l.readBlockScalar? true
    else if x == '\'' then l.readQuotedScalar? true
    else if x == '"' then l.readQuotedScalar? false
    else if l.plainBegins then l.readPlainScalar?
    else none

/-- Reads the tokens up to the end of the text. -/
def readAll? : Nat → Lexer → Option Lexer
  | 0, _ => none
  | fuel + 1, l => do
    let l ← l.readToken?
    match l.tokens with
    | .streamEnd :: _ => return l
    | _ => readAll? fuel l

end Lexer

/-- The tokens of a text; `none` if it cannot be divided into tokens. -/
def tokens? (text : List Char) : Option (List Token) := do
  let l ← Lexer.readAll? (text.length + 2) { cursor := { rest := text } }
  return l.tokens.reverse

end ServiceGen.Yaml
