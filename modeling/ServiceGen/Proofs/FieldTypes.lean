import ServiceGen.Proofs.Settling

/-!
# Types of Fields That Have No End

The type of a field is looked for through references to components that are no models and through
the elements of arrays. One chain of references stops where it comes to a component again, but the
next one, from the elements of an array, begins anew: nothing of the way there is kept. So an array
whose elements lead back to it has a type that is as long as there is room for.

`Document.Elements` leads from a schema to the elements of the array that its chain ends at. Where
this comes back to a schema (`Document.ListsItself`) the type grows without end
(`exists_le_length_type`). Where it does not, it comes to an end, as each component that it passes
is a new one (`Document.acc_elements_of_visited`).

## Main results

* `typeOf_settles_iff`: **when the type of a field does not depend on the ceiling.**
* `not_forall_typeOf_settles`: it does for a component that is a list of itself.
-/

namespace ServiceGen

namespace Document

variable {d : Document} {names : List String} {s t u : Schema} {name : String}

/-- The chain of a schema ends at an array, whose elements are described by `t`. -/
def Elements (d : Document) (s t : Schema) : Prop :=
  ∃ names a, d.Chain s names a ∧ a.kind = .array (some t)

/-- A schema is an array whose elements, or those of an array further on, are described by a schema
that comes back to itself in this way. -/
def ListsItself (d : Document) (s : Schema) : Prop :=
  ∃ t, Relation.ReflTransGen d.Elements s t ∧ Relation.TransGen d.Elements t t

/-- A chain ends at the schema itself, or at that of a component. -/
theorem Chain.eq_or_exists_get? (h : d.Chain s names t) :
    s = t ∨ ∃ name, d.components.schemas.get? name = some t := by
  induction h with
  | here s => exact Or.inl rfl
  | @step s t u name names hrefers hchain ih =>
      rcases ih with rfl | hget
      · obtain ⟨-, -, -, hget⟩ := hrefers
        exact Or.inr ⟨name, hget⟩
      · exact Or.inr hget

/-- An array is no reference. -/
theorem reference_eq_none_of_kind {items : Option Schema} (h : s.kind = .array items) :
    s.reference = none := by
  cases hreference : s.reference with
  | none => rfl
  | some reference =>
      rw [Schema.kind, hreference] at h
      cases h

/-- A schema that lists itself leads to elements that do. -/
theorem ListsItself.exists_elements (h : d.ListsItself s) :
    ∃ t, d.Elements s t ∧ d.ListsItself t := by
  obtain ⟨u, hreach, hcycle⟩ := h
  rcases Relation.ReflTransGen.cases_head hreach with rfl | ⟨t, helements, hreach⟩
  · obtain ⟨t, helements, hreach⟩ := Relation.TransGen.head'_iff.mp hcycle
    exact ⟨t, helements, s, hreach, hcycle⟩
  · exact ⟨t, helements, u, hreach, hcycle⟩

/-- The elements of an array are smaller than the array. -/
theorem sizeOf_lt_of_kind_eq_array (h : s.kind = .array (some t)) : sizeOf t < sizeOf s := by
  have hitems := Schema.items_of_kind_eq_array h
  cases s
  dsimp only at hitems
  subst hitems
  simp only [Schema.mk.sizeOf_spec, Option.some.sizeOf_spec]
  omega

/-- **Elements come to an end unless a schema lists itself.** The components that are passed on the
way are `visited`: from each of them the elements lead to the schema. -/
theorem acc_elements_of_visited (visited : List String)
    (hvisited : ∀ name ∈ visited, ∃ a t, d.components.schemas.get? name = some a ∧
      a.kind = .array (some t) ∧ Relation.ReflTransGen d.Elements t s)
    (h : ¬ d.ListsItself s) : Acc (fun t s => d.Elements s t) s := by
  induction hspan : d.span visited s using Nat.strong_induction_on generalizing s visited with
  | h n ih =>
      subst hspan
      refine Acc.intro s fun t helements => ?_
      have hnext : ¬ d.ListsItself t := by
        rintro ⟨u, hreach, hcycle⟩
        exact h ⟨u, hreach.head helements, hcycle⟩
      obtain ⟨names, a, hchain, hkind⟩ := helements
      have hless := sizeOf_lt_of_kind_eq_array hkind
      rcases hchain.eq_or_exists_get? with rfl | ⟨name, hget⟩
      · refine ih _ (span_lt_of_sizeOf_lt hless) visited (fun name hname => ?_) hnext rfl
        obtain ⟨b, u, hb, hu, hreach⟩ := hvisited name hname
        exact ⟨b, u, hb, hu, hreach.tail ⟨names, s, hchain, hkind⟩⟩
      · -- A component that was passed before has the same elements: they lead back to themselves.
        have hnew : name ∉ visited := by
          intro hname
          obtain ⟨b, u, hb, hu, hreach⟩ := hvisited name hname
          obtain rfl : a = b := Option.some.inj (hget.symm.trans hb)
          obtain rfl : t = u := by
            rw [hkind] at hu
            cases hu
            rfl
          have hstep : d.Elements s t := ⟨names, a, hchain, hkind⟩
          exact hnext ⟨t, .refl, Relation.TransGen.tail' hreach hstep⟩
        have hfall : d.span (name :: visited) t < d.span visited s :=
          Nat.lt_trans (span_lt_of_sizeOf_lt hless) (span_lt_of_get? hget hnew)
        refine ih _ hfall (name :: visited) (fun other hother => ?_) hnext rfl
        rcases List.mem_cons.mp hother with rfl | hother
        · exact ⟨a, t, hget, hkind, .refl⟩
        · obtain ⟨b, u, hb, hu, hreach⟩ := hvisited other hother
          exact ⟨b, u, hb, hu, hreach.tail ⟨names, a, hchain, hkind⟩⟩

/-- **Elements come to an end exactly if a schema does not list itself.** -/
theorem acc_elements_iff : Acc (fun t s => d.Elements s t) s ↔ ¬ d.ListsItself s := by
  constructor
  · intro h
    induction h with
    | intro s _ ih =>
        intro hlists
        obtain ⟨t, helements, hlists⟩ := hlists.exists_elements
        exact ih t helements hlists
  · exact acc_elements_of_visited [] (by simp)

end Document

namespace Resolver

variable {d : Document} {s t : Schema}

/-! ### References and arrays -/

/-- A reference that leads to no schema has a type of no particular shape. -/
theorem typeWithin_of_resolve_eq_none {r : Resolver} {reference : String} {room : Nat}
    (h : s.reference = some reference) (hnone : r.resolveWithin (room + 1) s = .ok none) :
    r.typeWithin (room + 1) s = .ok ⟨FieldType.any, []⟩ := by
  have hkind : s.kind = .reference reference := by rw [Schema.kind, h]
  rw [typeWithin, hkind]
  dsimp only
  rw [hnone]
  rfl

/-- A reference that leads to a schema has its name as a type, or else the type of that schema. -/
theorem typeWithin_of_resolve_eq_some {r : Resolver} {reference : String} {room : Nat}
    (h : s.reference = some reference) (hsome : r.resolveWithin (room + 1) s = .ok (some t)) :
    r.typeWithin (room + 1) s =
      if t.isModelLike then
        .ok ⟨pascalCase (Reference.tailName reference), [Reference.tailName reference]⟩
      else r.typeWithin room t := by
  have hkind : s.kind = .reference reference := by rw [Schema.kind, h]
  rw [typeWithin, hkind]
  dsimp only
  rw [hsome]
  rfl

/-- The type of an array is the list of that of its elements. -/
theorem typeWithin_of_array {r : Resolver} (h : s.kind = .array (some t)) (room : Nat) :
    r.typeWithin (room + 1) s = (do
      let inner ← r.typeWithin room t
      return ⟨FieldType.list inner.type, inner.refs⟩) := by
  rw [typeWithin, h]

/-- An array is no model. -/
theorem isModelLike_of_array {items : Option Schema} (h : s.kind = .array items) :
    s.isModelLike = false := by
  have hall : s.allOf.isEmpty = true := by
    by_contra hcomposition
    have hcomposition : s.isComposition = true := by
      rw [Schema.isComposition, eq_false_of_ne_true hcomposition]
      rfl
    rw [Schema.kind, Document.reference_eq_none_of_kind h] at h
    simp only [hcomposition, if_true] at h
    cases h
  simp [Schema.isModelLike, h, hall]

/-- **The type of a schema is a list of the type of its elements**, which is found a step or two
later: one for the array, and one for the references on the way to it. -/
theorem exists_typeWithin_of_elements (h : d.Elements s t) :
    ∃ steps enough, 0 < steps ∧ ∀ ceiling room, enough ≤ room →
      (d.resolver ceiling).typeWithin (room + steps) s = (do
        let inner ← (d.resolver ceiling).typeWithin room t
        return ⟨FieldType.list inner.type, inner.refs⟩) := by
  obtain ⟨names, a, hchain, hkind⟩ := h
  have hend := Document.reference_eq_none_of_kind hkind
  cases hchain with
  | here => exact ⟨1, 0, Nat.one_pos, fun ceiling room _ => typeWithin_of_array hkind room⟩
  | @step _ u _ name names hrefers hchain =>
      refine ⟨2, names.length, Nat.two_pos, fun ceiling room hroom => ?_⟩
      have hresolve : (d.resolver ceiling).resolveWithin (room + 2) s = .ok (some a) :=
        resolveWithin_of_chain (.step hrefers hchain) hend (by rw [List.length_cons]; omega)
      obtain ⟨reference, hreference, -⟩ := hrefers
      rw [typeWithin_of_resolve_eq_some hreference hresolve, isModelLike_of_array hkind,
        if_neg Bool.false_ne_true]
      exact typeWithin_of_array hkind room

/-! ### Types without end -/

/-- A permissive resolver has a type for every schema. -/
theorem exists_typeWithin_eq_ok {r : Resolver} (hr : r.strict = false) (room : Nat) (s : Schema) :
    ∃ use, r.typeWithin room s = .ok use := by
  have hs : s.Confined fun _ => True := fun _ _ => trivial
  have htolerates := tolerates_typeWithin (r := r) (fun _ _ => trivial) room hs
  rw [permissive_eq_self hr] at htolerates
  exact htolerates.exists_ok

/-- The type of a list is longer than that of its items. -/
theorem length_lt_length_list (type : String) : type.length < (FieldType.list type).length := by
  rw [FieldType.list, String.length_append, String.length_append]
  exact Nat.lt_add_right _ (Nat.lt_add_of_pos_left (by decide))

/-- **The type of a schema that lists itself grows without end.** -/
theorem exists_le_length_type (h : d.ListsItself s) (n : Nat) :
    ∃ enough, ∀ ceiling room, enough ≤ room →
      ∃ use, (d.resolver ceiling).typeWithin room s = .ok use ∧ n ≤ use.type.length := by
  induction n generalizing s with
  | zero =>
      refine ⟨0, fun ceiling room _ => ?_⟩
      obtain ⟨use, huse⟩ := exists_typeWithin_eq_ok (r := d.resolver ceiling) rfl room s
      exact ⟨use, huse, Nat.zero_le _⟩
  | succ n ih =>
      obtain ⟨t, helements, ht⟩ := h.exists_elements
      obtain ⟨steps, enough, -, hstep⟩ := exists_typeWithin_of_elements helements
      obtain ⟨enough', hgrows⟩ := ih ht
      refine ⟨max enough enough' + steps, fun ceiling room hroom => ?_⟩
      obtain ⟨room, rfl⟩ := Nat.exists_eq_add_of_le' (Nat.le_trans (Nat.le_add_left steps _) hroom)
      have hroom : max enough enough' ≤ room := Nat.le_of_add_le_add_right hroom
      obtain ⟨use, huse, hlength⟩ := hgrows ceiling room (le_of_max_le_right hroom)
      refine ⟨⟨FieldType.list use.type, use.refs⟩, ?_, ?_⟩
      · rw [hstep ceiling room (le_of_max_le_left hroom), huse]
        rfl
      · exact Nat.succ_le_of_lt (Nat.lt_of_le_of_lt hlength (length_lt_length_list use.type))

/-- A type that grows without end is not the same under all ceilings from one on. -/
theorem not_exists_typeOf_of_listsItself (h : d.ListsItself s) :
    ¬ ∃ enough use, ∀ ceiling, enough ≤ ceiling →
      (d.resolver ceiling).typeOf s 0 = .ok use := by
  rintro ⟨enough, use, hsame⟩
  obtain ⟨enough', hgrows⟩ := exists_le_length_type h (use.type.length + 1)
  obtain ⟨longer, hlonger, hlength⟩ := hgrows (max enough enough') (max enough enough' + 1)
    (Nat.le_succ_of_le (Nat.le_max_right _ _))
  have huse := hsame (max enough enough') (Nat.le_max_left _ _)
  rw [typeOf, room] at huse
  obtain rfl := Except.ok.inj (huse.symm.trans hlonger)
  exact absurd hlength (Nat.not_succ_le_self _)

/-! ### Types that come to an end -/

/-- The type of a schema that is neither a reference nor an array with elements takes one step. -/
theorem exists_typeWithin_of_kind (hreference : s.reference = none)
    (hkind : ∀ t, s.kind ≠ .array (some t)) :
    ∃ use, ∀ (r : Resolver) room, r.typeWithin (room + 1) s = .ok use := by
  cases h : s.kind with
  | reference reference =>
      rw [Schema.kind, hreference] at h
      dsimp only at h
      split at h
      · cases h
      · split at h
        · cases h
        · cases h
        · cases h
        · repeat' split at h
          all_goals cases h
  | array items =>
      cases items with
      | none => exact ⟨_, fun r room => by rw [typeWithin, h]⟩
      | some t => exact absurd h (hkind t)
  | _ => exact ⟨_, fun r room => by rw [typeWithin, h]⟩

/-- The type of a schema that leads to no elements settles. -/
theorem exists_settles_type_of_not_elements (hnone : ∀ t, ¬ d.Elements s t) :
    ∃ use, Settles (fun ceiling room => (d.resolver ceiling).typeWithin room s) use := by
  cases hreference : s.reference with
  | none =>
      obtain ⟨use, huse⟩ := exists_typeWithin_of_kind hreference fun t hkind =>
        hnone t ⟨[], s, .here s, hkind⟩
      exact ⟨use, (Settles.pure use).step 0 fun ceiling room _ _ => huse _ room⟩
  | some reference =>
      obtain ⟨found, hfound⟩ := exists_settles_resolve d s
      cases found with
      | none =>
          obtain ⟨enough, hfound⟩ := hfound
          refine ⟨⟨FieldType.any, []⟩, (Settles.pure _).step enough
            fun ceiling room hroom hceiling => ?_⟩
          exact typeWithin_of_resolve_eq_none hreference
            (hfound _ _ (Nat.le_succ_of_le hroom) (Nat.succ_le_succ hceiling))
      | some target =>
          obtain ⟨names, hchain, hend⟩ := exists_chain_of_settles hfound
          obtain ⟨use, huse⟩ := exists_typeWithin_of_kind hend fun t hkind =>
            hnone t ⟨names, target, hchain, hkind⟩
          have htarget : Settles (fun ceiling room =>
              (d.resolver ceiling).typeWithin room target) use :=
            (Settles.pure use).step 0 fun ceiling room _ _ => huse _ room
          obtain ⟨enough, hfound⟩ := hfound
          have hstep : ∀ ceiling room, enough ≤ room → room ≤ ceiling →
              (d.resolver ceiling).typeWithin (room + 1) s = _ := fun ceiling room hroom hceiling =>
            typeWithin_of_resolve_eq_some hreference
              (hfound _ _ (Nat.le_succ_of_le hroom) (Nat.succ_le_succ hceiling))
          by_cases hmodel : target.isModelLike = true
          · simp only [hmodel, if_true] at hstep
            exact ⟨_, (Settles.pure _).step enough hstep⟩
          · simp only [hmodel, Bool.false_eq_true, if_false] at hstep
            exact ⟨use, htarget.step enough hstep⟩

/-- **The type of a schema settles if its elements come to an end.** -/
theorem exists_settles_type (h : Acc (fun t s => d.Elements s t) s) :
    ∃ use, Settles (fun ceiling room => (d.resolver ceiling).typeWithin room s) use := by
  induction h with
  | intro s _ ih =>
      by_cases helements : ∃ t, d.Elements s t
      · obtain ⟨t, helements⟩ := helements
        obtain ⟨inner, enough, hinner⟩ := ih t helements
        obtain ⟨steps, enough', hpos, hstep⟩ := exists_typeWithin_of_elements helements
        refine ⟨⟨FieldType.list inner.type, inner.refs⟩, max enough enough' + steps,
          fun ceiling room hroom hceiling => ?_⟩
        obtain ⟨room, rfl⟩ :=
          Nat.exists_eq_add_of_le' (Nat.le_trans (Nat.le_add_left steps _) hroom)
        have hroom : max enough enough' ≤ room := Nat.le_of_add_le_add_right hroom
        dsimp only at hinner ⊢
        rw [hstep ceiling room (le_of_max_le_right hroom),
          hinner ceiling room (le_of_max_le_left hroom) (by omega)]
        rfl
      · exact exists_settles_type_of_not_elements fun t ht => helements ⟨t, ht⟩

/-- **The type of a field does not depend on the ceiling**, from some ceiling on, exactly if its
schema does not list itself: if the elements of the arrays in it never come back to themselves
through the components that they refer to. -/
theorem typeOf_settles_iff (d : Document) (s : Schema) :
    (∃ enough use, ∀ ceiling, enough ≤ ceiling → (d.resolver ceiling).typeOf s 0 = .ok use) ↔
      ¬ d.ListsItself s := by
  constructor
  · exact fun hsame hlists => not_exists_typeOf_of_listsItself hlists hsame
  · intro h
    obtain ⟨use, enough, huse⟩ := exists_settles_type (Document.acc_elements_iff.mpr h)
    exact ⟨enough, use, fun ceiling hceiling =>
      huse ceiling (ceiling + 1) (Nat.le_succ_of_le hceiling) (Nat.le_refl _)⟩

/-- A component `Forest` that is an array of forests. -/
def forest : Document where
  components := {
    schemas := [
      ("Forest", {
        type := some (.single "array")
        items := some (.ofReference "#/components/schemas/Forest") })] }

/-- A reference to `Forest` lists itself. -/
theorem listsItself_forest : forest.ListsItself (.ofReference "#/components/schemas/Forest") := by
  have hstep : forest.Elements (.ofReference "#/components/schemas/Forest")
      (.ofReference "#/components/schemas/Forest") :=
    ⟨["Forest"], _, .step ⟨_, rfl, rfl, rfl⟩ (.here _), rfl⟩
  exact ⟨_, .refl, .single hstep⟩

/-- **A ceiling can decide on the type of a field**, however high it is: the type of a forest is a
list in a list, as often as there is room for. -/
theorem not_forall_typeOf_settles :
    ¬ ∀ (d : Document) (s : Schema), ∃ enough use, ∀ ceiling, enough ≤ ceiling →
      (d.resolver ceiling).typeOf s 0 = .ok use := fun h =>
  not_exists_typeOf_of_listsItself listsItself_forest (h forest _)

end Resolver

end ServiceGen
