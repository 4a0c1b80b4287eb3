import ServiceGen.Datum.Scalar
import ServiceGen.Entries
import ServiceGen.Json

/-!
# Data Before Reading

A `Datum` is the tree that a JSON or YAML text describes, before a document is read from it.
Reading is by request: a reader asks a datum for a text, a number, a list, the fields of a
record, and the datum answers or the reading fails.

Two things are decided only when they are asked for. A YAML scalar is kept as it was
written (`scalar`), because what it stands for depends on the request; `settle` decides for
all scalars below a datum at once. And what a faulty text leaves behind (`unreadable`) is no
fault as long as nothing asks for it.

A YAML node may be an alias. Following one costs a unit of a budget, so that a text cannot
describe exponentially more than its size; and every request that enters a collection says
how many levels may still be entered, so that a node that contains itself is not read for
ever.
-/

namespace ServiceGen

/-- Where a collection comes from. -/
inductive Origin
  /-- A JSON text, or a settled collection: a list may stand for a record. -/
  | settled
  /-- A YAML text. A tag with a meaning of the document's own keeps it from being settled. -/
  | written (localTag : Bool)
deriving DecidableEq, Inhabited

/-- A tree that a text describes. -/
inductive Datum
  | null
  | bool (value : Bool)
  /-- A number written without a minus sign. -/
  | natural (value : Nat)
  /-- A number written with a minus sign. -/
  | integer (value : Int)
  | float (value : Binary64)
  | text (value : String)
  /-- A scalar of a YAML text. -/
  | scalar (value : Scalar)
  | list (origin : Origin) (items : List Datum)
  | dict (origin : Origin) (entries : List (Datum × Datum))
  /-- The node with the given number. -/
  | alias (node : Nat)
  /-- What a faulty text leaves behind. -/
  | unreadable
deriving Inhabited

/-- The nodes that aliases point at. -/
abbrev Anchors := List (Nat × Datum)

/-- A reading of data: it may look up anchors, spends a budget for that, and may fail. -/
abbrev Reading (α : Type) := ReaderT Anchors (StateT Nat Option) α

namespace Datum

/-- A reading that fails. -/
def refuse {α : Type} : Reading α :=
  fun _ _ => none

/-- A reading of a value that may be missing. -/
def require {α : Type} : Option α → Reading α
  | some x => pure x
  | none => refuse

/-- The datum itself, or the node that it is an alias of. -/
def follow : Datum → Reading Datum
  | .alias node => fun anchors budget =>
    match budget with
    | 0 => none
    | left + 1 => (anchors.lookup node).map fun target => (target, left)
  | d => pure d

/-- What a settled scalar is as a datum. -/
def ofSettled : Settled → Datum
  | .null => .null
  | .bool b => .bool b
  | .natural n => .natural n
  | .integer i => .integer i
  | .float x => .float x
  | .text s => .text s

/-- Decides what every scalar below a datum stands for, and follows every alias. `depth` is
the number of levels that may be entered. -/
def settle : Nat → Datum → Reading Datum
  | depth, d => do
    match ← follow d with
    | .scalar s => require (s.settle.map ofSettled)
    | .list origin items =>
      match depth with
      | 0 => refuse
      | depth + 1 =>
        if origin = .written true then refuse
        else return .list .settled (← items.mapM (settle depth))
    | .dict origin entries =>
      match depth with
      | 0 => refuse
      | depth + 1 =>
        if origin = .written true then refuse
        else return .dict .settled (← entries.mapM fun (k, v) =>
          return (← settle depth k, ← settle depth v))
    | .alias _ => refuse
    | .unreadable => refuse
    | d => return d

/-! ### Requests for single values -/

/-- The text that a datum stands for. -/
def readText (d : Datum) : Reading String := do
  match ← follow d with
  | .text s => return s
  | .scalar s => return s.text
  | _ => refuse

/-- The truth value that a datum stands for. -/
def readBool (d : Datum) : Reading Bool := do
  match ← follow d with
  | .bool b => return b
  | .scalar s => if s.mayBe "bool" then require (Scalar.readBool? s.text) else refuse
  | _ => refuse

/-- The natural number below `bound` that a datum stands for. -/
def readNat (bound : Nat) (d : Datum) : Reading Nat := do
  match ← follow d with
  | .natural n => if n < bound then return n else refuse
  | .integer i => if 0 ≤ i && i < bound then return i.toNat else refuse
  | .scalar s => if s.mayBe "int" then require (Scalar.readNatural? bound s.text) else refuse
  | _ => refuse

/-- The integer of 64 bits that a datum stands for. -/
def readInt (d : Datum) : Reading Int := do
  match ← follow d with
  | .natural n => if n < Nat.pow 2 63 then return n else refuse
  | .integer i => if -Nat.pow 2 63 ≤ i && i < Nat.pow 2 63 then return i else refuse
  | .scalar s => if s.mayBe "int" then require (Scalar.readInteger? s.text) else refuse
  | _ => refuse

/-- The floating-point number that a datum stands for. -/
def readFloat (d : Datum) : Reading Binary64 := do
  match ← follow d with
  | .natural n => return .ofNat n
  | .integer i => return .ofInt i
  | .float x => return x
  | .scalar s => if s.mayBe "float" then require (Scalar.readFloat? s.text) else refuse
  | _ => refuse

/-- A value that may be absent. -/
def readOptional {α : Type} (read : Datum → Reading α) (d : Datum) : Reading (Option α) := do
  match ← follow d with
  | .null => return none
  | .scalar s =>
    if ← require s.isAbsent? then return none else return some (← read (.scalar s))
  | d => return some (← read d)

/-! ### Requests for collections

Each takes the number of levels that may be entered, and reads the members with one level
less. A YAML scalar written with nothing at all is an empty collection. -/

/-- The members of a list. -/
def readList {α : Type} (depth : Nat) (read : Datum → Reading α) (d : Datum) :
    Reading (List α) := do
  match ← follow d with
  | .list _ items => if depth = 0 then refuse else items.mapM read
  | .scalar s => if s.isBare then return [] else refuse
  | _ => refuse

/-- The entries of a dictionary, in order, with repetitions. -/
def readEntries {α : Type} (depth : Nat) (read : Datum → Reading α) (d : Datum) :
    Reading (List (String × α)) := do
  match ← follow d with
  | .dict _ entries =>
    if depth = 0 then refuse
    else entries.mapM fun (k, v) => return (← readText k, ← read v)
  | .scalar s => if s.isBare then return [] else refuse
  | _ => refuse

/-- The field of a record that a key names: by its name, or by its position where the key is
a settled number. Any other key names none; `none` is a key of a kind that no field has. -/
def fieldOf? (names : List String) (settled : Bool) (key : Datum) : Reading (Option String) := do
  match ← follow key with
  | .text s => return if names.contains s then some s else none
  | .scalar s => return if names.contains s.text then some s.text else none
  | .natural n => if settled then return names[n]? else refuse
  | _ => refuse

/-- The fields of a record found so far, from the entries of a dictionary. A field may not
be given twice; what names no field is passed over. -/
def collectFields (names : List String) (settled : Bool) :
    List (Datum × Datum) → List (String × Datum) → Reading (List (String × Datum))
  | [], found => return found
  | (key, value) :: rest, found => do
    match ← fieldOf? names settled key with
    | none => collectFields names settled rest found
    | some name =>
      if (found.lookup name).isSome then refuse
      else collectFields names settled rest (found ++ [(name, value)])

/-- The fields of a record with the given names, those that are there. -/
def readFields (depth : Nat) (names : List String) (d : Datum) :
    Reading (List (String × Datum)) := do
  match ← follow d with
  | .dict origin entries =>
    if depth = 0 then refuse else collectFields names (origin = .settled) entries []
  | .list .settled items =>
    if depth = 0 || names.length < items.length then refuse else return names.zip items
  | .scalar s => if s.isBare then return [] else refuse
  | _ => refuse

/-- A field of a record that may be missing. -/
def fieldOr {α : Type} (fields : List (String × Datum)) (name : String) (missing : α)
    (read : Datum → Reading α) : Reading α :=
  match fields.lookup name with
  | some d => read d
  | none => return missing

/-- A field of a record that must be there. -/
def fieldOf {α : Type} (fields : List (String × Datum)) (name : String)
    (read : Datum → Reading α) : Reading α :=
  match fields.lookup name with
  | some d => read d
  | none => refuse

/-- Reads a datum in the first of two ways that does not fail. -/
def either {α : Type} (first second : Reading α) : Reading α :=
  fun anchors budget => (first anchors budget).orElse fun _ => second anchors budget

/-! ### JSON values -/

/-- A settled datum as a JSON value. Numbers that are infinite or none become null, and of
members with the same name the last one counts. -/
def readJson : Nat → Datum → Reading Json
  | depth, d => do
    match ← follow d with
    | .null => return .null
    | .bool b => return .bool b
    | .natural n => return .int n
    | .integer i => return .int i
    | .float x => return if x.isFinite then .float x else .null
    | .text s => return .text s
    | .scalar s =>
      match s.settle with
      | some .null => return .null
      | some (.bool b) => return .bool b
      | some (.natural n) => return .int n
      | some (.integer i) => return .int i
      | some (.float x) => return if x.isFinite then .float x else .null
      | some (.text t) => return .text t
      | none => refuse
    | .list origin items =>
      match depth with
      | 0 => refuse
      | depth + 1 =>
        if origin = .written true then refuse else return .list (← items.mapM (readJson depth))
    | .dict origin entries =>
      match depth with
      | 0 => refuse
      | depth + 1 =>
        if origin = .written true then refuse
        else
          let members ← entries.mapM fun (k, v) => return (← readText k, ← readJson depth v)
          return .object (Entries.ofList members)
    | _ => refuse

end Datum

namespace Json

mutual

/-- A JSON value as a datum. -/
def toDatum : Json → Datum
  | .null => .null
  | .bool b => .bool b
  | .int i => if 0 ≤ i then .natural i.toNat else .integer i
  | .float x => .float x
  | .text s => .text s
  | .list items => .list .settled (itemsToData items)
  | .object members => .dict .settled (membersToData members)

/-- The items of a list as data. -/
def itemsToData : List Json → List Datum
  | [] => []
  | item :: items => item.toDatum :: itemsToData items

/-- The members of an object as entries of a dictionary. -/
def membersToData : List (String × Json) → List (Datum × Datum)
  | [] => []
  | (name, value) :: members => (.text name, value.toDatum) :: membersToData members

end

end Json

end ServiceGen
