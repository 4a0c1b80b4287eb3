import ServiceGen.Number.Decimal

/-!
# Numbers of JSON Texts

A number without a fraction and an exponent is a whole number while it fits 64 bits. Any
other number is a floating-point number, computed from the first digits that fit an unsigned
word of 64 bits (`Decimal.significand`) in steps that round one by one: the word becomes a
floating-point number and is multiplied with, or divided by, a power of ten, where a power
below `10 ^ -308` is split. A number that is too large has no value.
-/

namespace ServiceGen.Json

/-- The parts of a number as it is written. -/
structure NumberText where
  /-- Whether a minus sign stands before it. -/
  negative : Bool
  /-- The digits before the point. -/
  whole : List Char
  /-- The digits after the point, if there is one. -/
  places : List Char
  /-- Whether there is a point or an exponent. -/
  fractional : Bool
  /-- Whether the exponent is negative. -/
  exponentNegative : Bool
  /-- The digits of the exponent. -/
  exponent : List Char

/-- What a number stands for. -/
inductive NumberValue
  /-- A whole number without a sign. -/
  | natural (n : Nat)
  /-- A whole number below zero. -/
  | negative (i : Int)
  | float (x : Binary64)

/-- The first digits of a number that fit 64 bits, added to `n`, and how many digits do
not. -/
def takeWord (n : Nat) : List Char → Nat × Nat
  | [] => (n, 0)
  | c :: rest =>
    let next := 10 * n + Decimal.digitValue c
    if next < Nat.pow 2 64 then takeWord next rest else (n, rest.length + 1)

/-- The floating-point number for a word and a power of ten that divides it, at most 308 at
a time. `steps` bounds the number of divisions. -/
def divideByPower (x : Binary64) : Nat → Nat → Binary64
  | 0, _ => x
  | steps + 1, power =>
    if power ≤ 308 then x.div (Binary64.ofNat (Nat.pow 10 power))
    else if x == Binary64.zero false then x
    else divideByPower (x.div (Binary64.ofNat (Nat.pow 10 308))) steps (power - 308)

/-- The floating-point number for a word and a power of ten; `none` if it is too large. -/
def scaleByPower? (word : Nat) (power : Int) : Option Binary64 :=
  let x := Binary64.ofNat word
  match power with
  | .ofNat k =>
    if k ≤ 308 then
      let y := x.mul (Binary64.ofNat (Nat.pow 10 k))
      if y.isFinite then some y else none
    else if word == 0 then some x else none
  | .negSucc k => some (divideByPower x 8 (k + 1))

/-- The exponent as far as it fits 32 bits. -/
def NumberText.power? (t : NumberText) : Option Int :=
  let n := Decimal.natOfDigits t.exponent
  if n < Nat.pow 2 31 then some (Binary64.signed t.exponentNegative n) else none

/-- The magnitude of a number with a fraction, an exponent or too many digits. -/
def NumberText.magnitude? (t : NumberText) : Option Binary64 :=
  let (word, dropped) := takeWord 0 t.whole
  let (word, placesTaken) :=
    let (word', droppedPlaces) := takeWord word t.places
    (word', t.places.length - droppedPlaces)
  let start : Int := (dropped : Int) - placesTaken
  match t.power? with
  | none =>
    if word != 0 && !t.exponentNegative then none else some (Binary64.zero false)
  | some e =>
    let low : Int := -(Nat.pow 2 31)
    let high : Int := Nat.pow 2 31 - 1
    scaleByPower? word (max low (min high (start + e)))

/-- The value of a number; `none` if it is too large. A zero with a minus sign is a
floating-point number. -/
def NumberText.value? (t : NumberText) : Option NumberValue :=
  let n := Decimal.natOfDigits t.whole
  let float : Option NumberValue := t.magnitude?.map fun x =>
    .float (if t.negative then x.neg else x)
  if t.fractional || Nat.pow 2 64 ≤ n then float
  else if !t.negative then some (.natural n)
  else if n == 0 || Nat.pow 2 63 < n then some (.float (Binary64.ofNat n).neg)
  else some (.negative (-(n : Int)))

end ServiceGen.Json
