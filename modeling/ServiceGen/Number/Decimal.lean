import ServiceGen.Number.Binary64

/-!
# Decimal Texts of Numbers

Writing a number with the fewest digits that read back as the same number, and reading a
decimal text as the nearest number.

`shortest` looks at the grids of one, two, … seventeen significant digits in turn. On the
first grid that has a point among the reals that round to the number it takes the point
nearest to the number, and of two equally near ones the larger. The reals that round to a
number form an interval, with its ends exactly when the significand is even. Everything is
decided on natural numbers.
-/

namespace ServiceGen.Decimal

/-- The value of a digit. -/
def digitValue (c : Char) : Nat :=
  c.toNat - '0'.toNat

/-- The natural number a text of digits stands for. -/
def natOfDigits (digits : List Char) : Nat :=
  digits.foldl (fun n c => 10 * n + digitValue c) 0

/-- The digits of a natural number. -/
def digitsOf (n : Nat) : List Char :=
  (toString n).toList

/-- The reals that round to the number `m * 2 ^ e`, in units of `2 ^ (e - 2)`: from `low` to
`high`, with the ends if `closed`. -/
structure Cell where
  /-- The lower end. -/
  low : Nat
  /-- The number itself. -/
  middle : Nat
  /-- The upper end. -/
  high : Nat
  /-- Whether the ends round to the number too. -/
  closed : Bool

/-- The cell of a positive number. Below a power of two the numbers lie twice as dense, so
the lower half of its cell is half as wide. -/
def cellOf (m : Nat) (e : Int) : Cell where
  low := if m == Nat.pow 2 52 && e > Binary64.minExponent then 4 * m - 1 else 4 * m - 2
  middle := 4 * m
  high := 4 * m + 2
  closed := m % 2 == 0

/-- Whether the point `p * unit` lies in the cell, where the unit of the cell is `scale`. -/
def Cell.has (cell : Cell) (scale unit p : Nat) : Bool :=
  let x := p * unit
  if cell.closed then cell.low * scale ≤ x && x ≤ cell.high * scale
  else cell.low * scale < x && x < cell.high * scale

/-- The point of the grid with the given unit that lies in the cell, the nearest to the
number if there are two. -/
def Cell.nearest? (cell : Cell) (scale unit : Nat) : Option Nat :=
  let v := cell.middle * scale
  let below := v / unit
  let above := below + 1
  match cell.has scale unit below, cell.has scale unit above with
  | false, false => none
  | true, false => some below
  | false, true => some above
  | true, true => if 2 * (v - below * unit) < unit then some below else some above

/-- The number of decimal digits of a positive natural number. -/
def width (n : Nat) : Nat :=
  (digitsOf n).length

/-- The place of the first digit of `num / den`: the `p` with
`10 ^ (p - 1) ≤ num / den < 10 ^ p`. -/
def magnitude (num den : Nat) : Int :=
  let guess : Int := (width num : Int) - width den
  let atLeast (p : Int) : Bool := match p with
    | .ofNat k => den * Nat.pow 10 k ≤ num
    | .negSucc k => den ≤ num * Nat.pow 10 (k + 1)
  if atLeast guess then guess + 1 else guess

/-- The shortest decimal for a cell that is found on the grids of `n`, `n + 1`, …, at most
`fuel` of them: a natural number and the power of ten it counts. -/
def searchGrids (cell : Cell) (num den : Nat) (place : Int) (n : Nat) :
    Nat → Option (Nat × Int)
  | 0 => none
  | fuel + 1 =>
    let power := place - n
    let (scale, unit) := match power with
      | .ofNat k => (num, den * Nat.pow 10 k)
      | .negSucc k => (num * Nat.pow 10 (k + 1), den)
    match cell.nearest? scale unit with
    | some p => some (p, power)
    | none => searchGrids cell num den place (n + 1) fuel

/-- The shortest decimal `digits * 10 ^ power` that reads back as the positive number
`m * 2 ^ e`. -/
def shortest (m : Nat) (e : Int) : Nat × Int :=
  let (num, den) := Binary64.scaled 1 (e - 2)
  let place := magnitude (4 * m * num) den
  (searchGrids (cellOf m e) num den place 1 17).getD (0, 0)

/-- A decimal `digits * 10 ^ power` written with a point where it needs one and without an
exponent. Zeros at the end of the digits are dropped first. -/
def positional (digits : List Char) (power : Int) : List Char :=
  match power with
  | .ofNat k => digits ++ List.replicate k '0'
  | .negSucc k =>
    let places := k + 1
    if digits.length ≤ places then
      ['0', '.'] ++ List.replicate (places - digits.length) '0' ++ digits
    else
      digits.take (digits.length - places) ++ '.' :: digits.drop (digits.length - places)

/-- Digits without the zeros at their end, and the power of ten they count then. -/
def withoutTrailingZeros (digits : List Char) (power : Int) : List Char × Int :=
  let kept := (digits.reverse.dropWhile (· == '0')).reverse
  (kept, power + (digits.length - kept.length : Nat))

/-- The text of a number without its sign. -/
def magnitudeText : Binary64 → List Char
  | .nan => ['N', 'a', 'N']
  | .infinite _ => ['i', 'n', 'f']
  | .finite _ m e =>
    if m == 0 then ['0']
    else
      let (n, power) := shortest m e
      let (digits, power) := withoutTrailingZeros (digitsOf n) power
      positional digits power

/-- The text of a number: the fewest digits that read back, never an exponent, and no
fraction for a whole number. -/
def text (x : Binary64) : List Char :=
  if x.isNegative then '-' :: magnitudeText x else magnitudeText x

/-- The text of a number with at least one digit after a point, where it is finite. -/
def textWithPoint (x : Binary64) : List Char :=
  let plain := text x
  if x.isFinite && !plain.contains '.' then plain ++ ['.', '0'] else plain

/-- The text of a finite number with a fraction of one digit, where that is exact, and its
shortest text otherwise. -/
def tenths (x : Binary64) : List Char :=
  match x with
  | .finite negative m e =>
    if x.isWhole then
      let (n, d) := Binary64.scaled m e
      (if negative then ['-'] else []) ++ digitsOf (n / d) ++ ['.', '0']
    else text x
  | _ => text x

/-! ### Reading -/

/-- The digits at the start of a text, and the rest. -/
def spanDigits (cs : List Char) : List Char × List Char :=
  cs.span Char.isDigit

/-- A sign at the start of a text, and the rest. -/
def spanSign : List Char → Bool × List Char
  | '-' :: rest => (true, rest)
  | '+' :: rest => (false, rest)
  | cs => (false, cs)

/-- The exponent at the end of a decimal: nothing, or an `e`, a sign and digits. -/
def exponent? : List Char → Option Int
  | [] => some 0
  | c :: rest =>
    if c == 'e' || c == 'E' then
      let (negative, rest) := spanSign rest
      let (digits, rest) := spanDigits rest
      if digits.isEmpty || !rest.isEmpty then none
      else some (Binary64.signed negative (natOfDigits digits))
    else none

/-- The number nearest to an unsigned decimal: digits with at most one point among them,
and an exponent. -/
def readMagnitude? (negative : Bool) (cs : List Char) : Option Binary64 :=
  let (whole, rest) := spanDigits cs
  let (places, rest) := match rest with
    | '.' :: rest => spanDigits rest
    | _ => ([], rest)
  if whole.isEmpty && places.isEmpty then none
  else (exponent? rest).map fun exponent =>
    Binary64.ofDecimal negative (natOfDigits (whole ++ places)) (exponent - places.length)

/-- The number nearest to a decimal with an optional sign. -/
def read? (cs : List Char) : Option Binary64 :=
  let (negative, rest) := spanSign cs
  readMagnitude? negative rest

end ServiceGen.Decimal
