import ServiceGen.Entries

/-!
# TOML Tables

The table that a TOML text builds up statement by statement. A key is given a value once. A
table is opened by its header once, which is possible also after tables inside it have been
opened; what dotted keys or braces have made is closed to headers, and only dotted keys of the
same header extend what dotted keys have made.
-/

namespace ServiceGen.Toml

/-- How a table came about. -/
inductive Origin
  /-- It is on the way to a table with a header. -/
  | implied
  /-- It is on the way to a dotted key. -/
  | dotted
  /-- It has a header. -/
  | opened
deriving DecidableEq, Inhabited

/-- A value. -/
inductive Value
  | text (value : String)
  /-- A number, a truth value or a time. -/
  | scalar
  | list
  /-- A table in braces. -/
  | record (entries : List (String × Value))
  | table (origin : Origin) (entries : List (String × Value))
  /-- The tables with the same doubled header, the last one first. -/
  | tables (first : List (String × Value)) (rest : List (List (String × Value)))
deriving Inhabited

namespace Value

/-- The value under a key of a table. -/
def get? (v : Value) (key : String) : Option Value :=
  match v with
  | .record entries | .table _ entries => Entries.get? entries key
  | _ => none

/-- The text that a value is. -/
def text? : Value → Option String
  | .text s => some s
  | _ => none

end Value

/-- The entries of a table. -/
abbrev Fields := Entries Value

/-- Entries with a change made to a table inside them, on a path of tables. A table that is
missing on the way gets the given origin. A table that has a header is closed to dotted
keys. -/
def within (origin : Origin) (change : Origin → Fields → Option Fields) :
    List String → Origin → Fields → Option Fields
  | [], own, fields => change own fields
  | key :: path, _, fields => do
    match fields.get? key with
    | none =>
      let inner ← within origin change path origin []
      return fields.put key (.table origin inner)
    | some (.table own inner) =>
      if origin = .dotted && own = .opened then none
      let inner ← within origin change path own inner
      return fields.put key (.table own inner)
    | some (.tables first rest) =>
      let first ← within origin change path .opened first
      return fields.put key (.tables first rest)
    | some _ => none

/-- Entries with a value under a dotted key; `none` if it has one already. -/
def assign (path : List String) (key : String) (value : Value) (fields : Fields) :
    Option Fields :=
  within .dotted (fun own fields =>
    if (own = .dotted) != !path.isEmpty || fields.has key then none
    else some (fields.put key value)) path .opened fields

/-- Entries with a table opened by its header. -/
def openTable (path : List String) (key : String) (fields : Fields) : Option Fields :=
  within .implied (fun _ fields =>
    match fields.get? key with
    | none => some (fields.put key (.table .opened []))
    | some (.table .implied inner) => some (fields.put key (.table .opened inner))
    | some _ => none) path .opened fields

/-- Entries with a further table opened by its doubled header. -/
def openNext (path : List String) (key : String) (fields : Fields) : Option Fields :=
  within .implied (fun _ fields =>
    match fields.get? key with
    | none => some (fields.put key (.tables [] []))
    | some (.tables first rest) => some (fields.put key (.tables [] (first :: rest)))
    | some _ => none) path .opened fields

/-- Entries with a value under a dotted key of the table that was opened last. -/
def assignBelow (header path : List String) (key : String) (value : Value) (fields : Fields) :
    Option Fields :=
  within .implied (fun _ fields => assign path key value fields) header .opened fields

end ServiceGen.Toml
