import ServiceGen.Number.Decimal
import ServiceGen.Text.Slice

/-!
# Tokens of a Template

A template is text with three kinds of tags: `{{ … }}` writes a value, `{% … %}` is a
statement and `{# … #}` a comment. A statement or comment takes
the line end after it with it, and the white space before it if nothing else stands before
it on its line. A hyphen inside a tag removes all white space on that side, and a plus sign
keeps it.
-/

namespace ServiceGen.Template

/-- A token. -/
inductive Token
  /-- Text that stands for itself. -/
  | data (text : String)
  /-- The start of a value tag. -/
  | openValue
  /-- The end of a value tag. -/
  | closeValue
  /-- The start of a statement. -/
  | openTag
  /-- The end of a statement. -/
  | closeTag
  | ident (name : String)
  | text (value : String)
  | int (value : Nat)
  | float (value : Binary64)
  /-- An operator or a bracket. -/
  | symbol (text : String)
deriving Inhabited, BEq

/-- What happens to the white space beside a tag. -/
inductive Trim
  /-- What the kind of the tag says. -/
  | usual
  /-- All of it goes. -/
  | remove
  /-- All of it stays. -/
  | keep
deriving DecidableEq

/-- What a character beside the delimiter of a tag asks for. -/
def Trim.ofChar? : Option Char → Trim
  | some '-' => .remove
  | some '+' => .keep
  | _ => .usual

/-- The kinds of tags. -/
inductive TagKind
  | value
  | statement
  | comment
deriving DecidableEq

/-- A place in a template. -/
structure Place where
  /-- The characters before the place, in reverse. -/
  before : List Char
  /-- The characters after it. -/
  rest : List Char

namespace Place

/-- The place `n` characters on. -/
def advance : Nat → Place → Place
  | 0, p => p
  | n + 1, p => match p.rest with
    | [] => p
    | c :: rest => advance n ⟨c :: p.before, rest⟩

/-- The place after the white space that follows. -/
def skipBlanks (p : Place) : Place :=
  p.advance (p.rest.takeWhile Text.Letter.isBlank).length

/-- The place after a line end that follows directly. -/
def skipLineEnd (p : Place) : Place :=
  match p.rest with
  | '\r' :: '\n' :: _ => p.advance 2
  | '\n' :: _ => p.advance 1
  | '\r' :: _ => p.advance 1
  | _ => p

end Place

/-- Whether a character ends a line. -/
def isLineEnd (c : Char) : Bool :=
  c == '\n' || c == '\r'

/-- Whether a text, given in reverse, ends with a line that is blank so far. -/
def lineIsBlank (before : List Char) : Bool :=
  (before.takeWhile (!isLineEnd ·)).all Text.Letter.isBlank

/-- A text without the white space after its last line end. -/
def dropIndent (cs : List Char) : List Char :=
  (cs.reverse.dropWhile fun c => Text.Letter.isBlank c && !isLineEnd c).reverse

/-- The kind of tag that begins with a brace and a character. -/
def tagKind? (c : Char) : Option TagKind :=
  if c == '{' then some .value
  else if c == '%' then some .statement
  else if c == '#' then some .comment
  else none

/-- The text up to the first tag, in reverse, and the kind of the tag. -/
def leadFrom (lead : List Char) : List Char → List Char × Option TagKind
  | '{' :: c :: rest =>
    match tagKind? c with
    | some kind => (lead, some kind)
    | none => leadFrom ('{' :: lead) (c :: rest)
  | c :: rest => leadFrom (c :: lead) rest
  | [] => (lead, none)

/-- The text up to the first tag, and the kind of the tag. -/
def lead (cs : List Char) : List Char × Option TagKind :=
  let (reversed, kind) := leadFrom [] cs
  (reversed.reverse, kind)

/-- What follows after a tag: whether white space is dropped there, and the place. -/
def afterTag (trim : Trim) (p : Place) : Bool × Place :=
  match trim with
  | .remove => (true, p)
  | .keep => (false, p)
  | .usual => (false, p.skipLineEnd)

/-- The number of characters of a statement that consists of one word and nothing else, with
the trimming before and after it; counted after the opening delimiter. -/
def bareTag? (word : String) (cs : List Char) : Option (Nat × Trim × Trim) := do
  let blank (cs : List Char) : List Char := cs.dropWhile Text.Letter.isBlank
  let start := Trim.ofChar? cs.head?
  let body := blank (if start = .usual then cs else cs.tail)
  if !word.toList.isPrefixOf body then none
  let after := blank (body.drop word.length)
  let stop := Trim.ofChar? after.head?
  let close := if stop = .usual then after else after.tail
  match close with
  | '%' :: '}' :: rest => return (cs.length - rest.length, start, stop)
  | _ => none

/-- The end of a raw block: its text, and the place and trimming after it. `passed` is the
text so far, in reverse. -/
def rawEnd? (passed : List Char) : Place → Nat → Option (List Char × Trim × Trim × Place)
  | _, 0 => none
  | p, fuel + 1 =>
    match p.rest with
    | '{' :: '%' :: rest =>
      match bareTag? "endraw" rest with
      | some (n, start, stop) => some (passed.reverse, start, stop, p.advance (n + 2))
      | none => rawEnd? ('%' :: '{' :: passed) (p.advance 2) fuel
    | c :: _ => rawEnd? (c :: passed) (p.advance 1) fuel
    | [] => none

/-- The text of a raw block as it is written out. -/
def rawText (start stop : Trim) (cs : List Char) : List Char :=
  let cs := match start with
    | .usual => (Place.skipLineEnd ⟨[], cs⟩).rest
    | .keep => cs
    | .remove => Text.trimStart cs
  match stop with
  | .usual => dropIndent cs
  | .keep => cs
  | .remove => Text.trimEnd cs

/-- The place after a comment, and the trimming there. -/
def commentEnd? : Place → Char → Nat → Option (Trim × Place)
  | _, _, 0 => none
  | p, last, fuel + 1 =>
    match p.rest with
    | '#' :: '}' :: _ => some (.ofChar? (some last), p.advance 2)
    | c :: _ => commentEnd? (p.advance 1) c fuel
    | [] => none

/-! ### Inside tags -/

/-- White space inside a tag. -/
def isTagBlank (c : Char) : Bool :=
  c == ' ' || c == '\t' || c == '\n' || c == '\r' || c.toNat == 0x0C

/-- Operators and brackets, the longer ones first. -/
def symbols : List String := [
  "//", "**", "==", "!=", ">=", "<=", "+", "-", "*", "/", "%", ".", ",", ":", "~", "|", "=", ">",
  "<", "(", ")", "[", "]", "\x7b", "\x7d"]

/-- The value of four hexadecimal digits. -/
def hexUnit? (digits : List Char) : Option Nat :=
  if digits.length == 4 then
    digits.foldl (fun acc c => acc.bind fun n =>
      if c.isDigit then some (16 * n + (c.toNat - 0x30))
      else if 'a' ≤ c && c ≤ 'f' then some (16 * n + (c.toNat - 0x57))
      else if 'A' ≤ c && c ≤ 'F' then some (16 * n + (c.toNat - 0x37))
      else none) (some 0)
  else none

/-- The character that a letter after a backslash denotes in a text. -/
def textEscape? (c : Char) : Option Char :=
  if c == '"' || c == '\\' || c == '/' || c == '\'' then some c
  else if c == 'b' then some (Char.ofNat 0x08)
  else if c == 'f' then some (Char.ofNat 0x0C)
  else if c == 'n' then some '\n'
  else if c == 'r' then some '\r'
  else if c == 't' then some '\t'
  else none

/-- The characters that a text between quotes denotes. -/
def unescape? : Nat → List Char → Option (List Char)
  | 0, _ => some []
  | _, [] => some []
  | fuel + 1, '\\' :: 'u' :: rest => do
    let unit ← hexUnit? (rest.take 4)
    let rest := rest.drop 4
    if 0xD800 ≤ unit && unit ≤ 0xDBFF then
      match rest with
      | '\\' :: 'u' :: more =>
        let low ← hexUnit? (more.take 4)
        if 0xDC00 ≤ low && low ≤ 0xDFFF then
          let code := 0x10000 + (unit - 0xD800) * 0x400 + (low - 0xDC00)
          return Char.ofNat code :: (← unescape? fuel (more.drop 4))
        else none
      | _ => none
    else if 0xDC00 ≤ unit && unit ≤ 0xDFFF then none
    else return Char.ofNat unit :: (← unescape? fuel rest)
  | fuel + 1, '\\' :: c :: rest => do
    return (← textEscape? c) :: (← unescape? fuel rest)
  | _ + 1, ['\\'] => none
  | fuel + 1, c :: rest => (unescape? fuel rest).map (c :: ·)

/-- The text up to a closing quote that no backslash precedes, and its length. -/
def quotedSpan? (quote : Char) : List Char → Option (List Char)
  | [] => none
  | '\\' :: c :: rest => (quotedSpan? quote rest).map fun cs => '\\' :: c :: cs
  | c :: rest => if c == quote then some [] else (quotedSpan? quote rest).map (c :: ·)

/-- How far a number has been read. -/
inductive NumberState
  | whole
  | places
  | exponent
  | exponentDigits
deriving DecidableEq

/-- The characters of a decimal number, and whether it has a fraction or an exponent. -/
def numberSpan (state : NumberState) : List Char → List Char × Bool
  | [] => ([], state ≠ .whole)
  | c :: rest =>
    let next : Option NumberState :=
      if c == '.' && state = .whole then some .places
      else if (c == 'e' || c == 'E') && (state = .whole || state = .places) then some .exponent
      else if (c == '+' || c == '-') && state = .exponent then some .exponentDigits
      else if c.isDigit then some (if state = .exponent then .exponentDigits else state)
      else if c == '_' then some state
      else none
    match next with
    | some state =>
      let (span, fractional) := numberSpan state rest
      (c :: span, fractional)
    | none => ([], state ≠ .whole)

/-- A number without the underscores between its digits. -/
def withoutUnderscores? (span : List Char) : Option (List Char) :=
  if span.getLast? == some '_' then none else some (span.filter (· != '_'))

/-- A number in base two, eight or sixteen after its mark, and the length with the mark. -/
def basedNumber? (base : Nat) (cs : List Char) : Option (Token × Nat) := do
  let value? (c : Char) : Option Nat :=
    let n := if c.isDigit then c.toNat - 0x30 else if c.isAlpha then c.toLower.toNat - 0x57 else 99
    if n < base then some n else none
  let span := cs.takeWhile fun c => c == '_' || c.isDigit || (base == 16 && (value? c).isSome)
  let digits ← (← withoutUnderscores? span).mapM value?
  if digits.isEmpty then none
  let n := digits.foldl (fun n d => base * n + d) 0
  if n < Nat.pow 2 128 then return (.int n, span.length + 2) else none

/-- A number, and its length. -/
def numberToken? (cs : List Char) : Option (Token × Nat) :=
  match cs with
  | '0' :: 'x' :: rest | '0' :: 'X' :: rest => basedNumber? 16 rest
  | '0' :: 'o' :: rest | '0' :: 'O' :: rest => basedNumber? 8 rest
  | '0' :: 'b' :: rest | '0' :: 'B' :: rest => basedNumber? 2 rest
  | _ => do
    let (span, fractional) := numberSpan .whole cs
    let plain ← withoutUnderscores? span
    if fractional then return (.float (← Decimal.read? plain), span.length)
    else
      let n := Decimal.natOfDigits plain
      if n < Nat.pow 2 128 then return (.int n, span.length) else none

/-- Whether a character may begin a name. -/
def startsName (c : Char) : Bool :=
  c.isAlpha || c == '_'

/-- The token at the start of a text inside a tag, and its length. -/
def innerToken? (cs : List Char) : Option (Token × Nat) := do
  let c ← cs.head?
  if c == '"' || c == '\'' then
    let span ← quotedSpan? c cs.tail
    return (.text (String.ofList (← unescape? (span.length + 1) span)), span.length + 2)
  else if c.isDigit then numberToken? cs
  else if startsName c then
    let name := cs.takeWhile fun c => startsName c || c.isDigit
    return (.ident (String.ofList name), name.length)
  else
    let symbol ← symbols.find? fun s => s.toList.isPrefixOf cs
    return (.symbol symbol, symbol.length)

/-- How a token changes the number of open brackets. -/
def bracketChange : Token → Int
  | .symbol s =>
    if ["(", "[", "\x7b"].contains s then 1 else if [")", "]", "\x7d"].contains s then -1 else 0
  | _ => 0

/-- The end of a tag at the start of a text: its length and the trimming after it. -/
def tagEnd? (kind : TagKind) (cs : List Char) : Option (Nat × Trim) :=
  match kind, cs with
  | .statement, '-' :: '%' :: '}' :: _ => some (3, .remove)
  | .statement, '+' :: '%' :: '}' :: _ => some (3, .keep)
  | .statement, '%' :: '}' :: _ => some (2, .usual)
  | .value, '-' :: '}' :: '}' :: _ => some (3, .remove)
  | .value, '}' :: '}' :: _ => some (2, .keep)
  | _, _ => none

/-- The tokens of a tag, and the trimming and place after it. `depth` is the number of open
brackets. -/
def tagTokens? (kind : TagKind) : Nat → Int → Place → Option (List Token × Trim × Place)
  | 0, _, _ => none
  | fuel + 1, depth, p =>
    let p := p.advance (p.rest.takeWhile isTagBlank).length
    match if depth == 0 then tagEnd? kind p.rest else none with
    | some (n, trim) => some ([], trim, p.advance n)
    | none => do
      let (token, n) ← innerToken? p.rest
      let (tokens, trim, after) ← tagTokens? kind fuel (depth + bracketChange token) (p.advance n)
      return (token :: tokens, trim, after)

/-- Text as a token, unless there is none. -/
def dataTokens (cs : List Char) : List Token :=
  if cs.isEmpty then [] else [.data (String.ofList cs)]

/-- The tokens from a place on. `trim` tells whether white space is dropped there. -/
def tokensFrom? : Nat → Bool → Place → Option (List Token)
  | 0, _, _ => none
  | fuel + 1, trim, p => do
    let p := if trim then p.skipBlanks else p
    let (text, kind) := lead p.rest
    match kind with
    | none => return dataTokens text
    | some kind =>
      let tag := p.advance text.length
      let inside := tag.advance 2
      let start := Trim.ofChar? inside.rest.head?
      let text := match start with
        | .remove => Text.trimEnd text
        | .keep => text
        | .usual =>
          if kind ≠ .value && lineIsBlank tag.before then dropIndent text else text
      let data := dataTokens text
      match kind with
      | .comment =>
        let (stop, after) ← commentEnd? inside ' ' (inside.rest.length + 1)
        let (trim, after) := afterTag stop after
        return data ++ (← tokensFrom? fuel trim after)
      | .statement =>
        match bareTag? "raw" inside.rest with
        | some (n, _, rawStart) =>
          let body := inside.advance n
          let (raw, rawStop, stop, after) ← rawEnd? [] body (body.rest.length + 1)
          let (trim, after) := afterTag stop after
          let raw := rawText rawStart rawStop raw
          return data ++ dataTokens raw ++ (← tokensFrom? fuel trim after)
        | none =>
          let body := if start = .usual then inside else inside.advance 1
          let (tokens, stop, after) ← tagTokens? .statement (body.rest.length + 1) 0 body
          let (trim, after) := afterTag stop after
          return data ++ .openTag :: tokens ++ .closeTag :: (← tokensFrom? fuel trim after)
      | .value =>
        let body := if start = .usual then inside else inside.advance 1
        let (tokens, stop, after) ← tagTokens? .value (body.rest.length + 1) 0 body
        return data ++ .openValue :: tokens ++ .closeValue
          :: (← tokensFrom? fuel (stop = .remove) after)

/-- The tokens of a template; `none` if it cannot be divided into tokens. -/
def tokens? (source : List Char) : Option (List Token) :=
  tokensFrom? (source.length + 1) false ⟨[], source⟩

end ServiceGen.Template
