import ServiceGen.Entries
import ServiceGen.Json
import ServiceGen.Text.Slice

/-!
# Values in Templates

The values that the expressions of a template have, how they are written out, and how they
compare. Numbers of both kinds compare by value. In a condition nothing, zero and whatever
is empty count as false.
-/

namespace ServiceGen.Template

/-- A value. -/
inductive Value
  /-- What a name without a value stands for. -/
  | undefined
  /-- What a condition without an alternative gives: undefined, but written as nothing. -/
  | silent
  | none
  | bool (value : Bool)
  | int (value : Int)
  | float (value : Binary64)
  | text (value : String)
  | list (items : List Value)
  | map (entries : List (Value × Value))
  /-- The state of a loop: the position, the number of items, the number of loops around it,
  and the items before and after. -/
  | loop (position size depth : Nat) (previous next : Value)
  /-- A routine that the template defines. -/
  | routine (index : Nat)
  /-- A function that every template has. -/
  | function (name : String)
  /-- A group of variables that may be assigned from anywhere. -/
  | cell (index : Nat)
deriving Inhabited

namespace Value

mutual

/-- A JSON value. The members of an object come in ascending order. -/
def ofJson : Json → Value
  | .null => .none
  | .bool b => .bool b
  | .int i => .int i
  | .float x => .float x
  | .text s => .text s
  | .list items => .list (ofItems items)
  | .object members =>
    .map ((ofMembers members).map fun (name, value) => (.text name, value))

/-- The items of a list. -/
def ofItems : List Json → List Value
  | [] => []
  | item :: rest => ofJson item :: ofItems rest

/-- The members of an object, ascending. -/
def ofMembers : List (String × Json) → Entries Value
  | [] => []
  | (name, value) :: rest => Entries.putSorted name (ofJson value) (ofMembers rest)

end

/-- Whether a value counts as true. -/
def isTrue : Value → Bool
  | .undefined | .silent | .none => false
  | .bool b => b
  | .int i => i != 0
  | .float x => !(x == Binary64.zero false)
  | .text s => !s.isEmpty
  | .list items => !items.isEmpty
  | .map entries => !entries.isEmpty
  | _ => true

/-- Whether a value is undefined. -/
def isUndefined : Value → Bool
  | .undefined | .silent => true
  | _ => false

/-- The text of a floating-point number. -/
def floatText (x : Binary64) : String :=
  String.ofList (Decimal.textWithPoint x)

/-- A text in quotes, as it is written inside a list. -/
def quoted (s : String) : String :=
  let mark := if s.toList.contains '\'' && !s.toList.contains '"' then '"' else '\''
  let escape (c : Char) : List Char :=
    if c == mark || c == '\\' then ['\\', c]
    else if c == '\n' then ['\\', 'n']
    else if c == '\r' then ['\\', 'r']
    else if c == '\t' then ['\\', 't']
    else [c]
  String.ofList (mark :: s.toList.flatMap escape ++ [mark])

/-- Brackets around the texts of items. -/
def bracketed (start stop : Char) (items : List String) : String :=
  String.singleton start ++ ", ".intercalate items ++ String.singleton stop

mutual

/-- A value as it is written inside a list. -/
def inner : Value → String
  | .undefined | .silent => "undefined"
  | .none => "None"
  | .bool b => if b then "True" else "False"
  | .int i => toString i
  | .float x => floatText x
  | .text s => quoted s
  | .list items => bracketed '[' ']' (innerItems items)
  | .map entries => bracketed '{' '}' (innerEntries entries)
  | .loop position size .. => "<loop " ++ toString position ++ "/" ++ toString size ++ ">"
  | .routine _ => "<routine>"
  | .function name => name
  | .cell _ => "<namespace>"

/-- The items of a list. -/
def innerItems : List Value → List String
  | [] => []
  | item :: rest => inner item :: innerItems rest

/-- The entries of a map. -/
def innerEntries : List (Value × Value) → List String
  | [] => []
  | (key, value) :: rest => (inner key ++ ": " ++ inner value) :: innerEntries rest

end

/-- The text of a value. -/
def toText : Value → String
  | .undefined | .silent => ""
  | .text s => s
  | v => inner v

/-- A number as a whole number and, if it is none, as a floating-point number. -/
def number? : Value → Option (Int ⊕ Binary64)
  | .bool b => some (.inl (if b then 1 else 0))
  | .int i => some (.inl i)
  | .float x => some (.inr x)
  | _ => Option.none

/-- A number as a floating-point number. -/
def toFloat? (v : Value) : Option Binary64 :=
  match v.number? with
  | some (.inl i) => some (.ofInt i)
  | some (.inr x) => some x
  | Option.none => Option.none

mutual

/-- Whether two values are equal. -/
def same : Value → Value → Bool
  | .undefined, v => v.isUndefined
  | .silent, v => v.isUndefined
  | .none, .none => true
  | .text a, .text b => a == b
  | .list a, .list b => sameItems a b
  | .map a, .map b => sameEntries a b
  | .routine a, .routine b => a == b
  | .cell a, .cell b => a == b
  | a, b =>
    match a.number?, b.number? with
    | some (.inl i), some (.inl j) => i == j
    | some (.inl i), some (.inr y) => Binary64.ofInt i == y
    | some (.inr x), some (.inl j) => x == Binary64.ofInt j
    | some (.inr x), some (.inr y) => x == y
    | _, _ => false

/-- Whether two lists have equal items. -/
def sameItems : List Value → List Value → Bool
  | [], [] => true
  | a :: as, b :: bs => same a b && sameItems as bs
  | _, _ => false

/-- Whether two maps have equal entries in the same order. -/
def sameEntries : List (Value × Value) → List (Value × Value) → Bool
  | [], [] => true
  | (k, a) :: as, (l, b) :: bs => same k l && same a b && sameEntries as bs
  | _, _ => false

end

/-- The rank of a kind of value in the order of values. -/
def rank : Value → Nat
  | .undefined | .silent => 0
  | .none => 1
  | .bool _ => 2
  | .int _ | .float _ => 3
  | .text _ => 4
  | .list _ => 6
  | .map _ => 7
  | _ => 8

mutual

/-- The order of two values: by kind, and within a kind by value. -/
def order : Value → Value → Ordering
  | .text a, .text b => compare a b
  | .list a, .list b => orderItems a b
  | a, b =>
    match a.number?, b.number? with
    | some (.inl i), some (.inl j) => compare i j
    | some (.inl i), some (.inr y) => (Binary64.compare? (.ofInt i) y).getD .lt
    | some (.inr x), some (.inl j) => (Binary64.compare? x (.ofInt j)).getD .lt
    | some (.inr x), some (.inr y) => (Binary64.compare? x y).getD .lt
    | _, _ => compare a.rank b.rank

/-- The order of two lists, by the first items that differ. -/
def orderItems : List Value → List Value → Ordering
  | [], [] => .eq
  | [], _ => .lt
  | _, [] => .gt
  | a :: as, b :: bs => (order a b).then (orderItems as bs)

end

/-- The items that a loop over a value goes through. -/
def items? : Value → Option (List Value)
  | .undefined | .silent | .none => some []
  | .list items => some items
  | .map entries => some (entries.map (·.1))
  | .text s => some (s.toList.map fun c => .text (String.singleton c))
  | _ => Option.none

/-- The value of a map under a key. -/
def valueUnder? (entries : List (Value × Value)) (key : Value) : Option Value :=
  (entries.find? fun (k, _) => same k key).map (·.2)

/-- Entries with a value under a key, in the place of the value it had. -/
def putEntry (key value : Value) : List (Value × Value) → List (Value × Value)
  | [] => [(key, value)]
  | (k, old) :: rest =>
    if same k key then (k, value) :: rest else (k, old) :: putEntry key value rest

/-- A position in a list, counted from its end if it is negative. -/
def position? (size : Nat) (i : Int) : Option Nat :=
  let j := if i < 0 then i + size else i
  if 0 ≤ j && j < size then some j.toNat else Option.none

/-- The number of items of a value. -/
def length? : Value → Option Nat
  | .text s => some s.length
  | .list items => some items.length
  | .map entries => some entries.length
  | _ => Option.none

/-- What the state of a loop has under a name. -/
def loopField (position size depth : Nat) (previous next : Value) : String → Value
  | "index" => .int (position + 1)
  | "index0" => .int position
  | "revindex" => .int (size - position : Nat)
  | "revindex0" => .int (size - position - 1 : Nat)
  | "first" => .bool (position == 0)
  | "last" => .bool (position + 1 == size)
  | "length" => .int size
  | "depth" => .int (depth + 1)
  | "depth0" => .int depth
  | "previtem" => previous
  | "nextitem" => next
  | _ => .undefined

/-- What a value has under a key or at a position; `undefined` if there is nothing. -/
def get (v key : Value) : Value :=
  match v, key with
  | .map entries, key => (valueUnder? entries key).getD .undefined
  | .list items, .int i => ((position? items.length i).bind (items[·]?)).getD .undefined
  | .text s, .int i =>
    ((position? s.length i).bind (s.toList[·]?)).elim .undefined fun c => .text (String.singleton c)
  | .loop position size depth previous next, .text name =>
    loopField position size depth previous next name
  | _, _ => .undefined

end Value

end ServiceGen.Template
