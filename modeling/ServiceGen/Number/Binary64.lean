/-!
# Binary Floating-Point Numbers

The numbers of the 64-bit binary format as exact values: a finite number is a sign, a
significand below `2 ^ 53` and an exponent of two, in the one form in which the significand
is at least `2 ^ 52` or the exponent is the least one. Every operation computes its exact
rational result and rounds it once, to the nearest number and on a tie to the one with an
even significand (`ofRatio`), so no floating-point arithmetic is involved.
-/

namespace ServiceGen

/-- A number of the 64-bit binary format. -/
inductive Binary64
  /-- The value `± significand * 2 ^ exponent`. -/
  | finite (negative : Bool) (significand : Nat) (exponent : Int)
  /-- An infinity. -/
  | infinite (negative : Bool)
  /-- Not a number. -/
  | nan
deriving DecidableEq, Inhabited

namespace Binary64

/-- The exponent of the smallest numbers. -/
def minExponent : Int := -1074

/-- The exponent of the largest numbers. -/
def maxExponent : Int := 971

/-- Zero with a sign. -/
def zero (negative : Bool) : Binary64 :=
  .finite negative 0 minExponent

/-- `n * 2 ^ e` as a quotient of natural numbers. -/
def scaled (n : Nat) (e : Int) : Nat × Nat :=
  match e with
  | .ofNat k => (n * Nat.pow 2 k, 1)
  | .negSucc k => (n, Nat.pow 2 (k + 1))

/-- The quotient of two natural numbers rounded to the nearest integer, on a tie to the
even one. -/
def roundQuotient (num den : Nat) : Nat :=
  let q := num / den
  let twice := 2 * (num % den)
  if twice < den then q
  else if twice == den && q % 2 == 0 then q
  else q + 1

/-- The significand and exponent of the number nearest to `num / den` when the exponent is
`e` or, where that leaves too many bits, larger. -/
def roundAt (negative : Bool) (num den : Nat) (e : Int) : Binary64 :=
  let (n, d) := match e with
    | .ofNat k => (num, den * Nat.pow 2 k)
    | .negSucc k => (num * Nat.pow 2 (k + 1), den)
  let m := roundQuotient n d
  let (m, e) := if m == Nat.pow 2 53 then (Nat.pow 2 52, e + 1) else (m, e)
  if e > maxExponent then .infinite negative else .finite negative m e

/-- The number nearest to `num / den`, for a positive `den`. -/
def ofRatio (negative : Bool) (num den : Nat) : Binary64 :=
  if num == 0 then zero negative
  else
    let low : Int := (num.log2 : Int) - den.log2 - 53
    let e := max low minExponent
    let (n, d) := match e with
      | .ofNat k => (num, den * Nat.pow 2 k)
      | .negSucc k => (num * Nat.pow 2 (k + 1), den)
    roundAt negative num den (if n / d < Nat.pow 2 53 then e else e + 1)

/-- The number nearest to a natural number. -/
def ofNat (n : Nat) : Binary64 :=
  ofRatio false n 1

/-- The number nearest to an integer. -/
def ofInt (i : Int) : Binary64 :=
  ofRatio (i < 0) i.natAbs 1

/-- The number nearest to `± digits * 10 ^ exponent`. Exponents far outside the range of
the format are decided without computing the power. -/
def ofDecimal (negative : Bool) (digits : Nat) (exponent : Int) : Binary64 :=
  if digits == 0 then zero negative
  else
    let size : Int := (digits.log2 : Int) / 4 + exponent
    if size > 400 then .infinite negative
    else if (digits.log2 : Int) + exponent < -400 then zero negative
    else match exponent with
      | .ofNat k => ofRatio negative (digits * Nat.pow 10 k) 1
      | .negSucc k => ofRatio negative digits (Nat.pow 10 (k + 1))

/-- Whether the number is finite. -/
def isFinite : Binary64 → Bool
  | .finite .. => true
  | _ => false

/-- Whether the sign is negative. -/
def isNegative : Binary64 → Bool
  | .finite negative .. => negative
  | .infinite negative => negative
  | .nan => false

/-- The opposite number. -/
def neg : Binary64 → Binary64
  | .finite negative m e => .finite (!negative) m e
  | .infinite negative => .infinite (!negative)
  | .nan => .nan

/-- The number without its sign. -/
def abs : Binary64 → Binary64
  | .finite _ m e => .finite false m e
  | .infinite _ => .infinite false
  | .nan => .nan

/-- The number that equals `value * 2 ^ e` rounded, with a given sign for zero. -/
def ofScaled (zeroNegative : Bool) (value : Int) (e : Int) : Binary64 :=
  if value == 0 then zero zeroNegative
  else
    let (n, d) := scaled value.natAbs e
    ofRatio (value < 0) n d

/-- The significand with its sign. -/
def signed (negative : Bool) (m : Nat) : Int :=
  if negative then -(m : Int) else m

/-- The sum of two numbers. -/
def add : Binary64 → Binary64 → Binary64
  | .nan, _ => .nan
  | _, .nan => .nan
  | .infinite a, .infinite b => if a == b then .infinite a else .nan
  | .infinite a, _ => .infinite a
  | _, .infinite b => .infinite b
  | .finite s m e, .finite t n f =>
    let low := min e f
    let left := signed s m * Nat.pow 2 (e - low).toNat
    let right := signed t n * Nat.pow 2 (f - low).toNat
    ofScaled (s && t) (left + right) low

/-- The difference of two numbers. -/
def sub (x y : Binary64) : Binary64 :=
  add x y.neg

/-- The product of two numbers. -/
def mul : Binary64 → Binary64 → Binary64
  | .nan, _ => .nan
  | _, .nan => .nan
  | .finite s m e, .finite t n f =>
    let (p, d) := scaled (m * n) (e + f)
    ofRatio (s != t) p d
  | .finite s m _, .infinite t => if m == 0 then .nan else .infinite (s != t)
  | .infinite s, .finite t n _ => if n == 0 then .nan else .infinite (s != t)
  | .infinite s, .infinite t => .infinite (s != t)

/-- The quotient of two numbers. -/
def div : Binary64 → Binary64 → Binary64
  | .nan, _ => .nan
  | _, .nan => .nan
  | .infinite _, .infinite _ => .nan
  | .infinite s, .finite t _ _ => .infinite (s != t)
  | .finite s _ _, .infinite t => zero (s != t)
  | .finite s m e, .finite t n f =>
    if n == 0 then (if m == 0 then .nan else .infinite (s != t))
    else
      let (p, d) := scaled m (e - f)
      ofRatio (s != t) p (d * n)

/-- The integer part of a finite number, toward zero. -/
def truncate? : Binary64 → Option Int
  | .finite negative m e =>
    let (n, d) := scaled m e
    some (signed negative (n / d))
  | _ => none

/-- Whether the number is finite and has no fractional part. -/
def isWhole : Binary64 → Bool
  | .finite _ m e =>
    let (n, d) := scaled m e
    n % d == 0
  | _ => false

/-- The integer part within the bounds `low` and `high`: numbers outside become the bound,
and a value that is not a number becomes zero. -/
def clampToInt (low high : Int) : Binary64 → Int
  | .nan => 0
  | .infinite negative => if negative then low else high
  | .finite negative m e =>
    let (n, d) := scaled m e
    max low (min high (signed negative (n / d)))

/-- The order of two numbers, where they have one: both zeros are equal, and a value that
is not a number is unordered. -/
def compare? : Binary64 → Binary64 → Option Ordering
  | .nan, _ => none
  | _, .nan => none
  | .infinite a, .infinite b => some (if a == b then .eq else if a then .lt else .gt)
  | .infinite a, .finite .. => some (if a then .lt else .gt)
  | .finite .., .infinite b => some (if b then .gt else .lt)
  | .finite s m e, .finite t n f =>
    let low := min e f
    some (compare (signed s m * Nat.pow 2 (e - low).toNat) (signed t n * Nat.pow 2 (f - low).toNat))

/-- Equality of the values: the two zeros are equal, and a value that is not a number
equals nothing. -/
def sameValue (x y : Binary64) : Bool :=
  compare? x y == some .eq

instance : BEq Binary64 := ⟨sameValue⟩

end Binary64

end ServiceGen
