import Mathlib.Data.List.Nodup
import Mathlib.Data.List.Perm.Subperm

/-!
# Ways along References

Things that refer to named components, each to one at most, and components that are things of the
same kind: from a thing the references lead along one way (`Way`), past the components that are
named. Such a way comes to its end, or back to a component and then never to an end. So a way to an
end passes each component once (`nodup_of_forall_not`), and is no longer than there are components
(`length_le_of_nodup`).

Schemas refer to each other so, and the items of each other section of the components.
-/

namespace ServiceGen

/-- References from thing to thing, by the name of a component: a thing refers to one component at
most, and a component is one thing. -/
structure Referential {α : Type} (refers : α → String → α → Prop) : Prop where
  /-- A thing refers to one component. -/
  unique : ∀ {x y y' : α} {name name' : String},
    refers x name y → refers x name' y' → name = name' ∧ y = y'
  /-- A component is one thing. -/
  target : ∀ {x x' y y' : α} {name : String}, refers x name y → refers x' name y' → y = y'

/-- The way from a thing to another along references, past the components of the given names. -/
inductive Way {α : Type} (refers : α → String → α → Prop) : α → List String → α → Prop
  /-- A thing is at its own place. -/
  | here (x : α) : Way refers x [] x
  /-- A reference, and the way from its target. -/
  | step {x y z : α} {name : String} {names : List String} (hrefers : refers x name y)
      (hway : Way refers y names z) : Way refers x (name :: names) z

namespace Way

variable {α : Type} {refers : α → String → α → Prop} {x y z : α} {name : String}
  {names : List String}

/-- The names on a way are names of components. -/
theorem subset {components : List String}
    (hcomponents : ∀ {x name y}, refers x name y → name ∈ components) (h : Way refers x names y) :
    names ⊆ components := by
  induction h with
  | here => exact List.nil_subset _
  | step hrefers hway ih => exact List.cons_subset.mpr ⟨hcomponents hrefers, ih⟩

/-- **A way past each component once** is no longer than there are components. -/
theorem length_le_of_nodup {components : List String}
    (hcomponents : ∀ {x name y}, refers x name y → name ∈ components) (h : Way refers x names y)
    (hnodup : names.Nodup) : names.length ≤ components.length :=
  (List.subperm_of_subset hnodup (h.subset hcomponents)).length_le

variable (hrefers : Referential refers)
include hrefers

/-- **A way to an end** goes by all other places on the way. -/
theorem exists_append_of_forall_not {names' : List String} {y' : α} (h : Way refers x names y)
    (hy : ∀ name z, ¬ refers y name z) (h' : Way refers x names' y') :
    ∃ rest, names = names' ++ rest ∧ Way refers y' rest y := by
  induction h' generalizing names with
  | here x => exact ⟨names, rfl, h⟩
  | step hfirst' hway' ih =>
      cases h with
      | here => exact absurd hfirst' (hy _ _)
      | step hfirst hway =>
          obtain ⟨rfl, rfl⟩ := hrefers.unique hfirst hfirst'
          obtain ⟨rest, rfl, hrest⟩ := ih hway
          exact ⟨rest, rfl, hrest⟩

/-- There is one end, and one way to it. -/
theorem eq_of_forall_not {names' : List String} {y' : α} (h : Way refers x names y)
    (hy : ∀ name z, ¬ refers y name z) (h' : Way refers x names' y')
    (hy' : ∀ name z, ¬ refers y' name z) : names = names' ∧ y = y' := by
  obtain ⟨rest, rfl, hrest⟩ := h.exists_append_of_forall_not hrefers hy h'
  cases hrest with
  | here => exact ⟨List.append_nil _, rfl⟩
  | step hfirst hway => exact absurd hfirst (hy' _ _)

omit hrefers in
/-- A component on a way begins a shorter one. -/
theorem exists_of_mem (h : Way refers x names z) (hname : name ∈ names) :
    ∃ x' y rest, refers x' name y ∧ Way refers y rest z ∧ rest.length < names.length := by
  induction h with
  | here => cases hname
  | step hfirst hway ih =>
      rcases List.mem_cons.mp hname with rfl | hname
      · exact ⟨_, _, _, hfirst, hway, Nat.lt_succ_self _⟩
      · obtain ⟨x', y, rest, hlater, hrest, hlength⟩ := ih hname
        exact ⟨x', y, rest, hlater, hrest, Nat.lt_succ_of_lt hlength⟩

/-- **A way to an end comes to no component twice**: from there it would go on as it did before. -/
theorem nodup_of_forall_not (h : Way refers x names y) (hy : ∀ name z, ¬ refers y name z) :
    names.Nodup := by
  induction h with
  | here => exact List.nodup_nil
  | step hfirst hway ih =>
      refine List.nodup_cons.mpr ⟨fun hmem => ?_, ih hy⟩
      obtain ⟨x', y', rest, hagain, hrest, hlength⟩ := hway.exists_of_mem hmem
      obtain rfl := hrefers.target hfirst hagain
      obtain ⟨rfl, -⟩ := hway.eq_of_forall_not hrefers hy hrest hy
      exact absurd hlength (Nat.lt_irrefl _)

/-- **A way that comes to a component twice has no end.** -/
theorem nodup_of_way_to_end {names' : List String} {y' : α} (h : Way refers x names y)
    (hy : ∀ name z, ¬ refers y name z) (h' : Way refers x names' y') : names'.Nodup := by
  obtain ⟨rest, rfl, -⟩ := h.exists_append_of_forall_not hrefers hy h'
  exact (List.nodup_append.mp (h.nodup_of_forall_not hrefers hy)).1

end Way

end ServiceGen
