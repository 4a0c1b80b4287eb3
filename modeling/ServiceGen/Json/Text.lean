import ServiceGen.Datum
import ServiceGen.Json.Number
import ServiceGen.Text.Utf8

/-!
# JSON Texts

Reading a JSON text into a `Datum`. The text must be well-formed throughout. Four faults
stay local (`Datum.unreadable`): a number that is too large, a string with half of a
surrogate pair, a string that is not UTF-8, and a collection below 127 others. They matter
only if the value is asked for.
-/

namespace ServiceGen.Json

/-- A text as bytes. -/
abbrev Bytes := List UInt8

/-- The byte of an ASCII character. -/
def byte (c : Char) : UInt8 :=
  c.toUInt8

/-- White space between the parts of a text. -/
def isSpace (b : UInt8) : Bool :=
  b == 0x20 || b == 0x0A || b == 0x0D || b == 0x09

/-- The text without the white space at its start. -/
def skipSpace (bytes : Bytes) : List UInt8 :=
  bytes.dropWhile isSpace

/-- Whether a byte is a digit. -/
def isDigitByte (b : UInt8) : Bool :=
  0x30 ≤ b && b ≤ 0x39

/-- The digits at the start of a text. -/
def takeDigits (bytes : Bytes) : List Char × List UInt8 :=
  let (digits, rest) := bytes.span isDigitByte
  (digits.map fun b => Char.ofNat b.toNat, rest)

/-- A part of a string: a byte that stands for itself, or an escaped code unit. -/
inductive StringUnit
  | byte (value : UInt8)
  | escaped (unit : Nat)

/-- The value of a hexadecimal digit. -/
def hexDigit? (b : UInt8) : Option Nat :=
  if isDigitByte b then some (b.toNat - 0x30)
  else if 0x61 ≤ b && b ≤ 0x66 then some (b.toNat - 0x57)
  else if 0x41 ≤ b && b ≤ 0x46 then some (b.toNat - 0x37)
  else none

/-- The code unit of four hexadecimal digits. -/
def hexUnit? (a b c d : UInt8) : Option Nat := do
  return (((← hexDigit? a) * 16 + (← hexDigit? b)) * 16 + (← hexDigit? c)) * 16 + (← hexDigit? d)

/-- The character that a letter after a backslash denotes. -/
def shortEscape? (b : UInt8) : Option UInt8 :=
  if b == 0x22 || b == 0x5C || b == 0x2F then some b
  else if b == byte 'b' then some 0x08
  else if b == byte 'f' then some 0x0C
  else if b == byte 'n' then some 0x0A
  else if b == byte 'r' then some 0x0D
  else if b == byte 't' then some 0x09
  else none

/-- The parts of a string up to its closing quote. -/
def stringUnits : Bytes → Option ((List StringUnit) × Bytes)
  | [] => none
  | 0x22 :: rest => some ([], rest)
  | 0x5C :: 0x75 :: a :: b :: c :: d :: rest => do
    let unit ← hexUnit? a b c d
    let (units, rest) ← stringUnits rest
    return (.escaped unit :: units, rest)
  | 0x5C :: b :: rest => do
    let b ← shortEscape? b
    let (units, rest) ← stringUnits rest
    return (.byte b :: units, rest)
  | b :: rest => do
    if b < 0x20 || b == 0x5C then none
    let (units, rest) ← stringUnits rest
    return (.byte b :: units, rest)

/-- Whether a code unit is the first half of a surrogate pair. -/
def isHighSurrogate (unit : Nat) : Bool :=
  0xD800 ≤ unit && unit ≤ 0xDBFF

/-- Whether a code unit is the second half of a surrogate pair. -/
def isLowSurrogate (unit : Nat) : Bool :=
  0xDC00 ≤ unit && unit ≤ 0xDFFF

/-- The bytes of a string; `none` if half of a surrogate pair stands alone. -/
def unitBytes? : List StringUnit → Option (List UInt8)
  | [] => some []
  | .byte b :: rest => (unitBytes? rest).map (b :: ·)
  | .escaped high :: .escaped low :: rest =>
    if isHighSurrogate high then
      if isLowSurrogate low then
        let code := 0x10000 + (high - 0xD800) * 0x400 + (low - 0xDC00)
        (unitBytes? rest).map (String.utf8EncodeChar (Char.ofNat code) ++ ·)
      else none
    else if isLowSurrogate high then none
    else (unitBytes? (.escaped low :: rest)).map (String.utf8EncodeChar (Char.ofNat high) ++ ·)
  | .escaped unit :: rest =>
    if isHighSurrogate unit || isLowSurrogate unit then none
    else (unitBytes? rest).map (String.utf8EncodeChar (Char.ofNat unit) ++ ·)

/-- A string after its opening quote. -/
def string (bytes : Bytes) : Option (Datum × Bytes) := do
  let (units, rest) ← stringUnits bytes
  match (unitBytes? units).bind Text.Utf8.decode? with
  | some cs => return (.text (String.ofList cs), rest)
  | none => return (.unreadable, rest)

/-- The fraction of a number: a point and at least one digit, or nothing. -/
def fraction (bytes : Bytes) : Option ((Option (List Char)) × Bytes) :=
  match bytes with
  | 0x2E :: rest =>
    let (digits, rest) := takeDigits rest
    if digits.isEmpty then none else some (some digits, rest)
  | _ => some (none, bytes)

/-- The exponent of a number: its sign and digits, or nothing. -/
def exponent (bytes : Bytes) : Option ((Option (Bool × List Char)) × Bytes) :=
  match bytes with
  | e :: rest =>
    if e == byte 'e' || e == byte 'E' then
      let (negative, rest) := match rest with
        | 0x2D :: rest => (true, rest)
        | 0x2B :: rest => (false, rest)
        | _ => (false, rest)
      let (digits, rest) := takeDigits rest
      if digits.isEmpty then none else some (some (negative, digits), rest)
    else some (none, bytes)
  | [] => some (none, [])

/-- A number after its sign. -/
def number (negative : Bool) (bytes : Bytes) : Option (Datum × Bytes) := do
  let (whole, rest) := takeDigits bytes
  match whole with
  | [] => none
  | '0' :: _ :: _ => none
  | _ =>
    let (places, rest) ← fraction rest
    let (exp, rest) ← exponent rest
    let (expNegative, expDigits) := exp.getD (false, [])
    let t : NumberText := {
      negative, whole, places := places.getD [], fractional := places.isSome || exp.isSome
      exponentNegative := expNegative, exponent := expDigits }
    match t.value? with
    | some (.natural n) => return (.natural n, rest)
    | some (.negative i) => return (.integer i, rest)
    | some (.float x) => return (.float x, rest)
    | none => return (.unreadable, rest)

/-- A fixed word at the start of a text. -/
def word (letters : String) (d : Datum) (bytes : Bytes) : Option (Datum × Bytes) :=
  let expected := letters.toList.map byte
  if expected.isPrefixOf bytes then some (d, bytes.drop expected.length) else none

/-- A collection at a given depth, which is readable only above the greatest depth. -/
def atDepth (depth : Nat) (d : Datum) : Datum :=
  if depth ≤ 127 then d else .unreadable

mutual

/-- A value below `depth` collections. `fuel` bounds the number of steps. -/
def value : Nat → Nat → Bytes → Option (Datum × Bytes)
  | 0, _, _ => none
  | fuel + 1, depth, bytes =>
    match skipSpace bytes with
    | 0x22 :: rest => string rest
    | 0x2D :: rest => number true rest
    | 0x5B :: rest =>
      match skipSpace rest with
      | 0x5D :: rest => some (atDepth (depth + 1) (.list .settled []), rest)
      | rest => do
        let (items, rest) ← elements fuel (depth + 1) rest
        return (atDepth (depth + 1) (.list .settled items), rest)
    | 0x7B :: rest =>
      match skipSpace rest with
      | 0x7D :: rest => some (atDepth (depth + 1) (.dict .settled []), rest)
      | rest => do
        let (entries, rest) ← members fuel (depth + 1) rest
        return (atDepth (depth + 1) (.dict .settled entries), rest)
    | b :: rest =>
      if isDigitByte b then number false (b :: rest)
      else if b == byte 't' then word "true" (.bool true) (b :: rest)
      else if b == byte 'f' then word "false" (.bool false) (b :: rest)
      else if b == byte 'n' then word "null" .null (b :: rest)
      else none
    | [] => none

/-- The elements of an array up to its end. -/
def elements : Nat → Nat → Bytes → Option ((List Datum) × Bytes)
  | 0, _, _ => none
  | fuel + 1, depth, bytes => do
    let (item, rest) ← value fuel depth bytes
    match skipSpace rest with
    | 0x2C :: rest =>
      let (items, rest) ← elements fuel depth rest
      return (item :: items, rest)
    | 0x5D :: rest => return ([item], rest)
    | _ => none

/-- The members of an object up to its end. -/
def members : Nat → Nat → Bytes → Option ((List (Datum × Datum)) × Bytes)
  | 0, _, _ => none
  | fuel + 1, depth, bytes =>
    match skipSpace bytes with
    | 0x22 :: rest => do
      let (key, rest) ← string rest
      match skipSpace rest with
      | 0x3A :: rest =>
        let (item, rest) ← value fuel depth rest
        match skipSpace rest with
        | 0x2C :: rest =>
          let (entries, rest) ← members fuel depth rest
          return ((key, item) :: entries, rest)
        | 0x7D :: rest => return ([(key, item)], rest)
        | _ => none
      | _ => none
    | _ => none

end

/-- The datum that a JSON text describes. -/
def parse? (bytes : Bytes) : Option Datum := do
  let (d, rest) ← value (2 * bytes.length + 2) 0 bytes
  if (skipSpace rest).isEmpty then some d else none

end ServiceGen.Json
