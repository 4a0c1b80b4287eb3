import ServiceGen.Proofs.Boxing
import ServiceGen.Proofs.ViewFields

/-!
# Fields behind Pointers

Breaking the cycles of structs changes as little as it can. A field is put behind a pointer only if
it lies on a cycle, and nothing else of it changes than its type; the other fields, and all that a
struct has beside its fields, stay (`Broken`). So structs without cycles stay as they are, and
breaking cycles a second time does nothing.

That no cycle is left is said of the names of types, and for that no struct may be named like a
pointer (`NoPointer`): a struct `Box<A>` would be taken for what a field behind a pointer to `A`
holds (`not_forall_acyclic_boxRecursive`). Names of structs have no punctuation in them, so none of
the structs that are generated is named so (`exists_collected_of_models`).

## Main results

* `broken_boxRecursive`: what becomes of each struct.
* `boxRecursive_eq_self`: structs without cycles stay.
* `breaksCycles_boxRecursive`: **cycles are broken**, and nothing else is changed.
-/

namespace ServiceGen.Model

variable {models : List Model} {m : Model}

/-- What becomes of a field of a model when cycles are broken. -/
inductive BoxedField (models : List Model) (m : Model) (f : Field) : Field → Prop
  /-- It stays. -/
  | kept : BoxedField models m f f
  /-- It lies on a cycle, and is put behind a pointer that is optional where the field is. -/
  | pointer {g : Field} (hcycle : OnCycle models m f)
      (hbase : g.baseType = "Box<" ++ f.baseType ++ ">")
      (htype : g.type = if f.required then g.baseType else "Option<" ++ g.baseType ++ ">")
      (hrest : g = { f with type := g.type, baseType := g.baseType }) : BoxedField models m f g

/-- What becomes of a model when cycles are broken. -/
structure Broken (models : List Model) (m broken : Model) : Prop where
  /-- The name stays. -/
  name : broken.name = m.name
  /-- The description stays. -/
  description : broken.description = m.description
  /-- The fields stay, or lie on cycles and are put behind pointers. -/
  fields : List.Forall₂ (BoxedField models m) m.fields broken.fields

/-- **What becomes of each struct.** -/
theorem broken_boxRecursive (hnames : (models.map (·.name)).Nodup) :
    List.Forall₂ (Broken models) models (boxRecursive models) := by
  rw [boxRecursive, List.forall₂_map_right_iff, List.forall₂_same]
  refine fun m hm => ⟨rfl, rfl, ?_⟩
  nth_rewrite 1 [← List.zipIdx_map_fst 0 m.fields]
  rw [List.forall₂_map_left_iff, List.forall₂_map_right_iff, List.forall₂_same]
  rintro ⟨f, i⟩ hf
  dsimp only
  split
  · rename_i hback
    rw [List.contains_iff_mem] at hback
    exact .pointer (onCycle_of_mem_back hnames hm (List.mem_zipIdx_iff_getElem?.mp hf) hback)
      rfl rfl rfl
  · exact .kept

/-- Where no struct holds itself, no field lies on a cycle. -/
theorem Acyclic.not_onCycle (h : Acyclic models) (m : Model) (f : Field) : ¬ OnCycle models m f :=
  fun hcycle => h m hcycle.transGen

/-- A struct of which no field lies on a cycle stays. -/
theorem Broken.eq_of_acyclic {broken : Model} (h : Broken models m broken)
    (hacyclic : Acyclic models) : m = broken := by
  have hfields : List.Forall₂ (· = ·) m.fields broken.fields := by
    refine h.fields.imp fun f g hfg => ?_
    cases hfg with
    | kept => rfl
    | pointer hcycle => exact absurd hcycle (hacyclic.not_onCycle m f)
  rw [List.forall₂_eq_eq_eq] at hfields
  obtain ⟨hname, hdescription, -⟩ := h
  cases m
  cases broken
  simp_all

/-- **Structs without cycles stay as they are.** -/
theorem boxRecursive_eq_self (hnames : (models.map (·.name)).Nodup) (h : Acyclic models) :
    boxRecursive models = models := by
  have hsame : List.Forall₂ (· = ·) models (boxRecursive models) :=
    (broken_boxRecursive hnames).imp fun m broken hbroken => hbroken.eq_of_acyclic h
  rw [List.forall₂_eq_eq_eq] at hsame
  exact hsame.symm

/-- **The models of a module** are structs whose cycles were broken: each had a name of its own, and
none was named like a pointer. -/
theorem exists_collected_of_models {r : Resolver} {module : ApiModule} {endpoints : List Endpoint}
    (hendpoints : r.endpoints module = .ok endpoints) (h : r.models endpoints = .ok models) :
    ∃ collected : List Model, models = boxRecursive collected ∧
      (collected.map (·.name)).Nodup ∧ NoPointer collected := by
  obtain ⟨entries, -, hentries, rfl⟩ :=
    Resolver.exists_wellNamed_of_models (Resolver.recordNamed_of_endpointsFrom hendpoints) h
  refine ⟨entries.map (·.2), rfl, ?_, noPointer_of_unpunctuated fun m hm => ?_⟩
  · rw [hentries.map_name]
    exact hentries.nodup
  · obtain ⟨entry, hentry, rfl⟩ := List.mem_map.mp hm
    rw [hentries.own entry hentry]
    exact hentries.unpunctuated entry hentry

/-- **Breaking the cycles of structs.** Of structs with names of their own, a field is put behind a
pointer only if it lies on a cycle, and nothing else changes; so those without cycles stay. If no
struct is named like a pointer, no struct holds itself by value afterwards, and breaking cycles
again changes nothing. -/
theorem breaksCycles_boxRecursive (hnames : (models.map (·.name)).Nodup) :
    List.Forall₂ (Broken models) models (boxRecursive models) ∧
      (Acyclic models → boxRecursive models = models) ∧
      (NoPointer models → Acyclic (boxRecursive models) ∧
        boxRecursive (boxRecursive models) = boxRecursive models) := by
  refine ⟨broken_boxRecursive hnames, boxRecursive_eq_self hnames, fun hpointer => ?_⟩
  have hacyclic := acyclic_boxRecursive hnames hpointer
  refine ⟨hacyclic, boxRecursive_eq_self ?_ hacyclic⟩
  rw [map_name_boxRecursive]
  exact hnames

/-- A field of a type that nothing else is said of. -/
def plainField (name type : String) (required : Bool) : Field where
  name
  ident := name
  type := if required then type else FieldType.optional type
  baseType := type
  required
  renamed := false
  validation := none
  description := none
  location := .body
  sample := "Default::default()"
  refs := []

/-- A team that is led by an employee of the team, and has others. -/
def staff : List Model :=
  [ ⟨"Employee", none, [plainField "name" "String" true, plainField "team" "Team" true]⟩,
    ⟨"Team", none,
      [plainField "lead" "Employee" false, plainField "members" "Vec<Employee>" true]⟩ ]

/-- The lead of a team is put behind a pointer, and that is enough. -/
theorem breaksCycles_boxRecursive_staff :
    Acyclic (boxRecursive staff) ∧ boxRecursive (boxRecursive staff) = boxRecursive staff ∧
      (boxRecursive staff).map (fun m => m.fields.map (·.type)) =
        [["String", "Team"], ["Option<Box<Employee>>", "Vec<Employee>"]] := by
  have hnames : (staff.map (·.name)).Nodup := by decide
  have hpointer : NoPointer staff := by
    unfold NoPointer
    decide
  obtain ⟨hacyclic, hagain⟩ := (breaksCycles_boxRecursive hnames).2.2 hpointer
  exact ⟨hacyclic, hagain, by decide⟩

/-- A struct that holds itself, and one that is named like a pointer to it and holds it, too. -/
def pointerNamed : List Model :=
  [⟨"A", none, [plainField "x" "A" true]⟩, ⟨"Box<A>", none, [plainField "y" "A" true]⟩]

/-- The field of `pointerNamed` that is put behind a pointer names the second struct then, which
holds the first. So there is a cycle still, and the field of the second is put behind a pointer the
next time. -/
theorem not_forall_acyclic_boxRecursive :
    (¬ ∀ models : List Model, (models.map (·.name)).Nodup → Acyclic (boxRecursive models)) ∧
      ¬ ∀ models : List Model, (models.map (·.name)).Nodup →
        boxRecursive (boxRecursive models) = boxRecursive models := by
  have hnames : (pointerNamed.map (·.name)).Nodup := by decide
  constructor
  · intro hall
    let first : Model := ⟨"A", none, [box (plainField "x" "A" true)]⟩
    let second : Model := ⟨"Box<A>", none, [plainField "y" "A" true]⟩
    have hboxed : boxRecursive pointerNamed = [first, second] := rfl
    have hacyclic := hall pointerNamed hnames
    rw [hboxed] at hacyclic
    have hthere : Holds [first, second] first second :=
      ⟨by simp, by simp, _, List.mem_singleton_self _, rfl⟩
    have hback : Holds [first, second] second first :=
      ⟨by simp, by simp, _, List.mem_singleton_self _, rfl⟩
    exact hacyclic first (.tail (.single hthere) hback)
  · intro hall
    have htypes := congrArg (·.map fun m => m.fields.map (·.baseType)) (hall pointerNamed hnames)
    exact absurd htypes (by decide)

end ServiceGen.Model
