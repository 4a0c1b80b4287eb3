import ServiceGen.Proofs.Compositions
import ServiceGen.Proofs.ViewFields

/-!
# Components That Fields Mention

A field mentions a component where the chain of its reference leads to a schema that deserves a
struct. The struct is declared if the component, looked up under the name that the reference
reads as, can be flattened. These are two questions, and a component may be mentioned and give
no struct: a composition that comes back to itself deserves a struct and has no fields, and a
reference may read as another name than it is followed to.

## Main results

* `Mentions.misread_or_endless`: **why a component that is mentioned gives no struct**; there is
  no other reason.
* `fieldInvariant_mentions`: every component that a view names is mentioned in this sense.
* `componentObject_eq_none_iff`: a component gives a struct exactly if it gives an object.
-/

namespace ServiceGen

/-! ### Components that give a struct -/

namespace Document

variable {d : Document} {component : String}

/-- A component that gives a struct: its chain leads to a schema, and no trail from it comes to
a component twice. -/
def GivesStruct (d : Document) (component : String) : Prop :=
  ∃ s, d.components.schemas.get? component = some s ∧ ¬ d.LosesTarget s ∧ ¬ d.ComesBack [] s

/-- The name that a reference to a schema that deserves a struct reads as. -/
def Mentions (d : Document) (component : String) : Prop :=
  ∃ s reference names t, s.reference = some reference ∧
    Reference.tailName reference = component ∧ d.Chain s names t ∧ t.reference = none ∧
      t.isModelLike = true

/-- A reference reads as the name of a component, but it is followed to another. -/
def Misread (d : Document) (component : String) : Prop :=
  ∃ reference other, Reference.tailName reference = component ∧
    Reference.componentName? .schemas reference = some other ∧ other ≠ component ∧
      other ∈ d.components.schemas.names

/-- The chain of a component leads to a composition that comes back to itself. -/
def Endless (d : Document) (component : String) : Prop :=
  ∃ s, d.components.schemas.get? component = some s ∧ d.CompositionRepeats s

/-- What gives a struct is a component. -/
theorem GivesStruct.mem_names (h : d.GivesStruct component) :
    component ∈ d.components.schemas.names := by
  obtain ⟨s, hget, -⟩ := h
  exact List.mem_map_of_mem (mem_of_get?_eq_some hget)

/-- **Why a component that is mentioned gives no struct.** It is not the component that the
reference was followed to, or that one is a composition without an end. -/
theorem Mentions.misread_or_endless (h : d.Mentions component) (hnone : ¬ d.GivesStruct component) :
    d.Misread component ∨ d.Endless component := by
  obtain ⟨s, reference, names, t, hreference, rfl, hchain, hend, -⟩ := h
  cases hchain with
  | here =>
      rw [hend] at hreference
      cases hreference
  | @step _ target _ name names hrefers hchain =>
      have hmem := hrefers.mem_names
      obtain ⟨reference', hreference', hname, hget⟩ := hrefers
      obtain rfl := Option.some.inj (hreference.symm.trans hreference')
      by_cases hread : name = Reference.tailName reference
      · rw [hread] at hget
        refine Or.inr ⟨target, hget, ?_⟩
        by_contra hcomposition
        refine hnone ⟨target, hget, hchain.not_losesTarget hend, fun hback => ?_⟩
        rcases comesBack_nil_iff.mp hback with hrepeats | hrepeats
        · exact hchain.not_chainRepeats (ends_of_reference_eq_none hend) hrepeats
        · exact hcomposition hrepeats
      · exact Or.inl ⟨reference, name, rfl, hname, hread, hmem⟩

end Document

/-! ### What is mentioned -/

/-- A schema of the kind of references has its reference. -/
theorem Schema.reference_of_kind_eq {s : Schema} {reference : String}
    (h : s.kind = .reference reference) : s.reference = some reference := by
  rw [kind] at h
  split at h
  · rename_i target htarget
    rw [htarget, SchemaKind.reference.inj h]
  · -- A schema that is no reference has another kind, whatever its type.
    split at h
    · cases h
    · split at h
      · cases h
      · cases h
      · cases h
      · split at h
        · cases h
        · split at h <;> cases h

namespace Resolver

variable {r : Resolver}

/-- The type of a schema mentions what a reference reads as that leads to a struct. -/
theorem mentions_of_typeWithin {room : Nat} {s : Schema} {use : TypeUse}
    (h : r.typeWithin room s = .ok use) : ∀ component ∈ use.refs, r.document.Mentions component := by
  induction room generalizing s use with
  | zero =>
      cases h
      simp
  | succ room ih =>
      rw [typeWithin] at h
      split at h
      · rename_i reference hkind
        obtain ⟨target, htarget, h⟩ := Outcome.bind_eq_ok.mp h
        cases target with
        | none =>
            cases h
            simp
        | some target =>
            dsimp only at h
            split at h
            · rename_i hmodel
              obtain rfl := Outcome.pure_eq_ok.mp h
              obtain ⟨names, hchain, hend⟩ := chain_of_resolveWithin_eq_some htarget
              rw [List.forall_mem_singleton]
              exact ⟨s, reference, names, target, Schema.reference_of_kind_eq hkind, rfl, hchain,
                hend, hmodel⟩
            · exact ih h
      · obtain ⟨inner, hinner, h⟩ := Outcome.bind_eq_ok.mp h
        cases h
        exact fun component hmem => ih hinner component hmem
      all_goals
        cases h
        simp

/-- **A field mentions** what a reference reads as that leads to a struct. -/
theorem fieldInvariant_mentions (r : Resolver) :
    r.FieldInvariant fun f => ∀ component ∈ f.refs, r.document.Mentions component where
  made h := by
    obtain ⟨use, huse, h⟩ := Outcome.bind_eq_ok.mp h
    obtain ⟨target, -, h⟩ := Outcome.bind_eq_ok.mp h
    cases h
    exact mentions_of_typeWithin huse
  apart {f} h := by
    rw [Endpoint.apart]
    split <;> exact h
  box h := h
  page {name item f} h := by
    simp only [Model.page, List.mem_cons, List.not_mem_nil, or_false] at h
    rcases h with rfl | rfl <;> simp

/-! ### Objects of components -/

/-- A component that gives an object gives a struct, whatever the room. -/
theorem givesStruct_of_componentObject (hr : r.strict = false) {component : String} {depth : Nat}
    {object : Schema} (h : r.componentObject component depth = .ok (some object)) :
    r.document.GivesStruct component := by
  rw [componentObject, component?] at h
  cases hget : r.document.components.schemas.get? component with
  | none =>
      rw [hget] at h
      cases h
  | some s =>
      rw [hget] at h
      exact ⟨s, hget, not_comesBack_of_concreteWithin_eq_some hr h⟩

/-- With enough room, a component gives an object exactly if it gives a struct. -/
theorem componentObject_eq_none_iff (hr : r.strict = false) {depth : Nat}
    (hroom : ∀ entry ∈ r.document.components.schemas,
      r.document.span [] entry.2 + 1 < r.room depth) (component : String) :
    r.componentObject component depth = .ok none ↔ ¬ r.document.GivesStruct component := by
  rw [componentObject, component?]
  cases hget : r.document.components.schemas.get? component with
  | none =>
      refine iff_of_true rfl ?_
      rintro ⟨s, hs, -⟩
      rw [hget] at hs
      cases hs
  | some s =>
      have hnone := concreteWithin_eq_none_iff hr (hroom _ (Document.mem_of_get?_eq_some hget))
      refine hnone.trans ⟨?_, fun h => ?_⟩
      · rintro hneither ⟨t, ht, hloses, hback⟩
        obtain rfl := Option.some.inj (hget.symm.trans ht)
        exact hneither.elim hloses hback
      · by_contra hneither
        rw [not_or] at hneither
        exact h ⟨s, hget, hneither⟩

end Resolver

end ServiceGen
