import ServiceGen.Number.Decimal

/-!
# Scalars

A scalar of a YAML text is a text with a style and a tag. What it stands for depends on
what is asked for: any scalar is a text, but only a plain one, or a literal block with the
fitting tag, is a number or a truth value. Where nothing particular is asked for, `settle`
decides by the text itself.
-/

namespace ServiceGen

/-- How a scalar was written. -/
inductive ScalarStyle
  /-- Without quotes. -/
  | plain
  /-- As a block that keeps its line ends. -/
  | literal
  /-- In quotes or as a folded block. -/
  | quoted
deriving DecidableEq, Inhabited

/-- A scalar of a YAML text. -/
structure Scalar where
  /-- Its text. -/
  text : String
  /-- How it was written. -/
  style : ScalarStyle
  /-- Its tag, if it has one. -/
  tag : Option String
deriving DecidableEq, Inhabited

/-- What a scalar stands for when nothing particular is asked for. -/
inductive Settled
  | null
  | bool (value : Bool)
  /-- A number written without a minus sign. -/
  | natural (value : Nat)
  /-- A number written with a minus sign. -/
  | integer (value : Int)
  | float (value : Binary64)
  | text (value : String)

namespace Scalar

/-- The tag of a standard type. -/
def standardTag (name : String) : String :=
  "tag:yaml.org,2002:" ++ name

/-- Whether a tag is one that the document itself gives a meaning to. -/
def isLocalTag (tag : Option String) : Bool :=
  match tag with
  | some t => t.startsWith "!"
  | none => false

/-- Whether the scalar is written with nothing at all. -/
def isBare (s : Scalar) : Bool :=
  s.text.isEmpty && s.style == .plain

/-- Whether a text spells the absence of a value. -/
def spellsNull (text : String) : Bool :=
  ["null", "Null", "NULL", "~"].contains text

/-- The truth value that a text spells. -/
def readBool? (text : String) : Option Bool :=
  if ["true", "True", "TRUE"].contains text then some true
  else if ["false", "False", "FALSE"].contains text then some false
  else none

/-- Whether a text is a run of digits that a needless zero begins. -/
def isPaddedDigits (text : List Char) : Bool :=
  let digits := match text with
    | '-' :: rest => rest
    | '+' :: rest => rest
    | cs => cs
  match digits with
  | '0' :: c :: rest => (c :: rest).all Char.isDigit
  | _ => false

/-- The value of a digit in a base up to sixteen. -/
def digitIn? (base : Nat) (c : Char) : Option Nat :=
  let value :=
    if c.isDigit then c.toNat - 0x30
    else if 'a' ≤ c && c ≤ 'f' then c.toNat - 0x57
    else if 'A' ≤ c && c ≤ 'F' then c.toNat - 0x37
    else 99
  if value < base then some value else none

/-- The number that a text of at least one digit denotes in a base. -/
def natIn? (base : Nat) (digits : List Char) : Option Nat :=
  if digits.isEmpty then none
  else (digits.mapM (digitIn? base)).map fun ds => ds.foldl (fun n d => base * n + d) 0

/-- The number that digits with a mark for their base denote: `0x`, `0o` or `0b`. -/
def markedNat? : List Char → Option Nat
  | '0' :: 'x' :: digits => natIn? 16 digits
  | '0' :: 'o' :: digits => natIn? 8 digits
  | '0' :: 'b' :: digits => natIn? 2 digits
  | _ => none

/-- A text without a plus sign at its start. -/
def withoutPlus : List Char → List Char
  | '+' :: rest => rest
  | cs => cs

/-- The number below `bound` that a text without a minus sign denotes. -/
def readNatural? (bound : Nat) (text : String) : Option Nat :=
  let cs := text.toList
  let below (n : Nat) : Option Nat := if n < bound then some n else none
  match (markedNat? (withoutPlus cs)).bind below with
  | some n => some n
  | none =>
    if isPaddedDigits cs then none else (natIn? 10 (withoutPlus cs)).bind below

/-- The number, not below `-bound`, that a text with a minus sign denotes. -/
def readNegative? (bound : Nat) (text : String) : Option Int :=
  let within (n : Nat) : Option Int := if n ≤ bound then some (-(n : Int)) else none
  match text.toList with
  | '-' :: digits =>
    match (markedNat? digits).bind within with
    | some i => some i
    | none => if isPaddedDigits digits then none else (natIn? 10 digits).bind within
  | _ => none

/-- The number that a text with or without a sign denotes in 64 bits. -/
def readInteger? (text : String) : Option Int :=
  match readNegative? (Nat.pow 2 63) text with
  | some i => some i
  | none => (readNatural? (Nat.pow 2 63) text).map Int.ofNat

/-- The floating-point number that a text denotes. -/
def readFloat? (text : String) : Option Binary64 :=
  let (negative, rest) := Decimal.spanSign text.toList
  let unsigned := String.ofList rest
  if [".inf", ".Inf", ".INF"].contains unsigned then some (.infinite negative)
  else if [".nan", ".NaN", ".NAN"].contains text then some .nan
  else match Decimal.readMagnitude? negative rest with
    | some x => if x.isFinite then some x else none
    | none => none

/-- What a text stands for when nothing particular is asked for. A whole number that needs
more than 64 but at most 128 bits stands for nothing. -/
def settleText (text : String) : Option Settled :=
  if text.isEmpty || spellsNull text then some .null
  else if let some b := readBool? text then some (.bool b)
  else if let some n := readNatural? (Nat.pow 2 64) text then some (.natural n)
  else if let some i := readNegative? (Nat.pow 2 63) text then some (.integer i)
  else if (readNatural? (Nat.pow 2 128) text).isSome
      || (readNegative? (Nat.pow 2 127) text).isSome then none
  else match readFloat? text with
    | some x => some (if isPaddedDigits text.toList then .text text else .float x)
    | none => some (.text text)

/-- What a text stands for as a whole number. -/
def settleInteger (text : String) : Option Settled :=
  match readNatural? (Nat.pow 2 64) text with
  | some n => some (.natural n)
  | none => (readNegative? (Nat.pow 2 63) text).map .integer

/-- What a scalar stands for when nothing particular is asked for; `none` if its text does
not fit its tag, or the tag has a meaning of the document's own. -/
def settle (s : Scalar) : Option Settled :=
  if isLocalTag s.tag then none
  else match s.tag with
    | none => if s.style == .plain then settleText s.text else some (.text s.text)
    | some tag =>
      if tag == standardTag "bool" then (readBool? s.text).map .bool
      else if tag == standardTag "int" then settleInteger s.text
      else if tag == standardTag "float" then (readFloat? s.text).map .float
      else if tag == standardTag "null" then
        if spellsNull s.text then some .null else none
      else some (.text s.text)

/-- Whether the scalar may be read as a value of a standard type other than text. -/
def mayBe (s : Scalar) (type : String) : Bool :=
  s.style == .plain || (s.style == .literal && s.tag == some (standardTag type))

/-- Whether the scalar is the absence of an optional value; `none` if its tag says so and
its text does not. -/
def isAbsent? (s : Scalar) : Option Bool :=
  if s.style != .plain then some false
  else match s.tag with
    | some tag =>
      if tag == standardTag "null" then
        if spellsNull s.text then some true else none
      else some false
    | none => some (s.text.isEmpty || spellsNull s.text)

end Scalar

end ServiceGen
