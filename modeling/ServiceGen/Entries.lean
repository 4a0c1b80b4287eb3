/-!
# Entries by Name

Values under distinct names, in one of two orders: as they came (`ofList`), where a name
that comes again keeps its place and takes the new value, or ascending (`sortedOfList`).
-/

namespace ServiceGen

/-- Values under names. -/
abbrev Entries (α : Type) := List (String × α)

namespace Entries

variable {α : Type}

/-- The entries with a value under a name: in the place of the value that had the name, or
at the end. -/
def put (name : String) (value : α) : Entries α → Entries α
  | [] => [(name, value)]
  | (other, old) :: rest =>
    if other == name then (name, value) :: rest else (other, old) :: put name value rest

/-- The entries of a list of pairs, of which the last counts for each name. -/
def ofList (pairs : List (String × α)) : Entries α :=
  pairs.foldl (fun entries (name, value) => entries.put name value) []

/-- Ascending entries with a value under a name. -/
def putSorted (name : String) (value : α) : Entries α → Entries α
  | [] => [(name, value)]
  | (other, old) :: rest =>
    if name < other then (name, value) :: (other, old) :: rest
    else if name == other then (name, value) :: rest
    else (other, old) :: putSorted name value rest

/-- The ascending entries of a list of pairs, of which the last counts for each name. -/
def sortedOfList (pairs : List (String × α)) : Entries α :=
  pairs.foldl (fun entries (name, value) => entries.putSorted name value) []

/-- The names. -/
def names (entries : Entries α) : List String :=
  entries.map (·.1)

/-- The value under a name. -/
def get? (entries : Entries α) (name : String) : Option α :=
  List.lookup name entries

/-- Whether there is a value under a name. -/
def has (entries : Entries α) (name : String) : Bool :=
  entries.any (·.1 == name)

end Entries

/-- Ascending names without repetitions, with one more name. -/
def putName (name : String) : List String → List String
  | [] => [name]
  | other :: rest =>
    if name < other then name :: other :: rest
    else if name == other then other :: rest
    else other :: putName name rest

/-- The names of a list, ascending and without repetitions. -/
def sortedNames (names : List String) : List String :=
  names.foldl (fun sorted name => putName name sorted) []

end ServiceGen
