import ServiceGen.Template.Expr
import ServiceGen.Template.Filter

/-!
# Operators on Template Values

What the operators compute from the values of both operands. Whole numbers have 128 bits, and
a result outside their range is an error, as is a division of whole numbers by zero. One
floating-point operand makes the other one such a number too.
-/

namespace ServiceGen.Template

/-- Two operands of one kind. -/
inductive Operands
  | ints (left right : Int)
  | floats (left right : Binary64)
  | texts (left right : String)

namespace Operands

/-- Two values as operands of one kind, if they have one in common. -/
def of? (left right : Value) : Option Operands :=
  match left, right with
  | .text s, .text t => some (.texts s t)
  | left, right =>
    match left.number?, right.number? with
    | some (.inl i), some (.inl j) => some (.ints i j)
    | some _, some _ => do return .floats (← left.toFloat?) (← right.toFloat?)
    | _, _ => none

end Operands

namespace Arithmetic

/-- A whole number that fits into 128 bits. -/
def bounded? (i : Int) : Option Value :=
  if -(Nat.pow 2 127) ≤ i && i < Nat.pow 2 127 then some (.int i) else none

/-- A floating-point number without its fractional part. -/
def truncated (x : Binary64) : Binary64 :=
  match x with
  | .finite negative .. => (x.truncate?).elim x fun i =>
    if i == 0 then Binary64.zero negative else .ofInt i
  | _ => x

/-- The remainder of a division, with the sign of the dividend. -/
def remainder : Binary64 → Binary64 → Binary64
  | .finite s m e, .finite t n f =>
    if n == 0 then .nan
    else
      let low := min e f
      let left := Binary64.signed s m * Nat.pow 2 (e - low).toNat
      let right := Binary64.signed t n * Nat.pow 2 (f - low).toNat
      Binary64.ofScaled s (Int.tmod left right) low
  | .finite s m e, .infinite _ => .finite s m e
  | _, _ => .nan

/-- The whole quotient that leaves a remainder that is not negative. -/
def wholeQuotient (x y : Binary64) : Binary64 :=
  let q := truncated (x.div y)
  let r := remainder x y
  if Binary64.compare? r (Binary64.ofNat 0) == some .lt then
    if y.isNegative then q.add (.ofNat 1) else q.sub (.ofNat 1)
  else q

/-- A power with a whole exponent. -/
def power (x : Binary64) (exponent : Int) : Binary64 :=
  match x with
  | .finite negative m e =>
    let n := exponent.natAbs
    let (p, d) := Binary64.scaled m e
    let sign := negative && n % 2 == 1
    if 0 ≤ exponent then Binary64.ofRatio sign (Nat.pow p n) (Nat.pow d n)
    else if m == 0 then .infinite sign
    else Binary64.ofRatio sign (Nat.pow d n) (Nat.pow p n)
  | .infinite negative =>
    if exponent == 0 then .ofNat 1
    else if 0 < exponent then .infinite (negative && exponent % 2 == 1)
    else Binary64.zero (negative && exponent % 2 == 1)
  | .nan => if exponent == 0 then .ofNat 1 else .nan

/-- A power of whole numbers, if it fits into 128 bits. -/
def wholePower? (base exponent : Int) : Option Value :=
  if exponent < 0 || Nat.pow 2 32 ≤ exponent then none
  else if base.natAbs ≤ 1 then
    bounded? (Int.pow base (if exponent == 0 then 0 else 2 + exponent.toNat % 2))
  else if 128 ≤ exponent then none
  else bounded? (Int.pow base exponent.toNat)

/-- The sum of two numbers, or two texts or lists one after the other. -/
def add? (left right : Value) : Option Value :=
  match left, right with
  | .list xs, .list ys => some (.list (xs ++ ys))
  | left, right => do
    match ← Operands.of? left right with
    | .ints i j => bounded? (i + j)
    | .floats x y => some (.float (x.add y))
    | .texts s t => some (.text (s ++ t))

/-- The difference of two numbers. -/
def subtract? (left right : Value) : Option Value := do
  match ← Operands.of? left right with
  | .ints i j => bounded? (i - j)
  | .floats x y => some (.float (x.sub y))
  | .texts .. => none

/-- A text repeated some times. -/
def repeated? (s : String) : Value → Option Value
  | .int n =>
    if n < 0 then none
    else some (.text (String.join (List.replicate n.toNat s)))
  | _ => none

/-- The product of two numbers, or a text or list repeated some times. -/
def multiply? (left right : Value) : Option Value :=
  match left, right with
  | .text s, n => repeated? s n
  | n, .text s => repeated? s n
  | .list xs, .int n | .int n, .list xs =>
    if n < 0 then none else some (.list (List.replicate n.toNat xs).flatten)
  | left, right => do
    match ← Operands.of? left right with
    | .ints i j => bounded? (i * j)
    | .floats x y => some (.float (x.mul y))
    | .texts .. => none

/-- The quotient of two numbers, as a floating-point number. -/
def divide? (left right : Value) : Option Value := do
  return .float ((← left.toFloat?).div (← right.toFloat?))

/-- The whole quotient that leaves a remainder that is not negative. -/
def divideWhole? (left right : Value) : Option Value := do
  match ← Operands.of? left right with
  | .ints i j => if j == 0 then none else bounded? (Int.ediv i j)
  | .floats x y => some (.float (wholeQuotient x y))
  | .texts .. => none

/-- The remainder: of whole numbers never negative, of others with the sign of the dividend. -/
def remainder? (left right : Value) : Option Value := do
  match ← Operands.of? left right with
  | .ints i j => if j == 0 then none else bounded? (Int.emod i j)
  | .floats x y => some (.float (remainder x y))
  | .texts .. => none

/-- A number to the power of another. A floating-point base takes whole exponents only. -/
def power? (left right : Value) : Option Value := do
  match ← Operands.of? left right with
  | .ints i j => wholePower? i j
  | .floats x y => if y.isWhole then (y.truncate?).map fun n => .float (power x n) else none
  | .texts .. => none

/-- The negative of a number. -/
def negate? : Value → Option Value
  | .int i => bounded? (-i)
  | .float x => some (.float x.neg)
  | _ => none

/-- Whether a value is contained in another, which must not be undefined. -/
def isIn? (v : Value) : Value → Option Bool
  | .undefined => none
  | .silent => some false
  | container => Check.isIn? v container

/-- The value of an operator that needs the values of both operands. -/
def value? (op : Operator) (left right : Value) : Option Value :=
  match op with
  | .or | .and => none
  | .equal => some (.bool (left.same right))
  | .notEqual => some (.bool (!left.same right))
  | .less => some (.bool (left.order right == .lt))
  | .lessOrEqual => some (.bool (left.order right != .gt))
  | .greater => some (.bool (left.order right == .gt))
  | .greaterOrEqual => some (.bool (left.order right != .lt))
  | .isIn => (isIn? left right).map .bool
  | .isNotIn => (isIn? left right).map fun b => .bool (!b)
  | .concat => some (.text (left.toText ++ right.toText))
  | .add => add? left right
  | .subtract => subtract? left right
  | .multiply => multiply? left right
  | .divide => divide? left right
  | .divideWhole => divideWhole? left right
  | .remainder => remainder? left right
  | .power => power? left right

/-! ### Ranges -/

/-- A bound of a range: a whole number, or nothing. -/
def bound? : Value → Option (Option Int)
  | .none => some none
  | .int i => some (some i)
  | _ => none

/-- A position in a sequence of a given size, counted from the end if it is negative. -/
def clamp (low high size : Int) (i : Int) : Int :=
  max low (min high (if i < 0 then i + size else i))

/-- The positions of a range of a sequence. -/
def positions (size : Nat) (start stop : Option Int) (step : Int) : List Nat :=
  if 0 < step then
    let low := (start.map (clamp 0 size size)).getD 0
    let high := (stop.map (clamp 0 size size)).getD size
    (List.range ((high - low + step - 1) / step).toNat).map fun (k : Nat) => (low + k * step).toNat
  else
    let high := (start.map (clamp (-1) (size - 1) size)).getD (size - 1)
    let low := (stop.map (clamp (-1) (size - 1) size)).getD (-1)
    (List.range ((high - low - step - 1) / (-step)).toNat).map fun (k : Nat) =>
      (high + k * step).toNat

/-- The items of a list, or the characters of a text, in a range. -/
def slice? (v start stop step : Value) : Option Value := do
  let start ← bound? start
  let stop ← bound? stop
  let step := (← bound? step).getD 1
  if step == 0 then none
  match v with
  | .text s =>
    let cs := s.toList
    return .text (String.ofList ((positions cs.length start stop step).filterMap (cs[·]?)))
  | .list items => return .list ((positions items.length start stop step).filterMap (items[·]?))
  | .none | .silent => return .list []
  | _ => none

/-- The whole numbers from one to another, at most a hundred thousand. -/
def range? (low high step : Int) : Option Value :=
  if step == 0 then none
  else
    let count := if 0 < step then ((high - low + step - 1) / step).toNat
      else ((low - high - step - 1) / (-step)).toNat
    if 100000 < count then none
    else some (.list ((List.range count).map fun (k : Nat) => .int (low + k * step)))

end Arithmetic

end ServiceGen.Template
