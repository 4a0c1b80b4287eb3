import ServiceGen.Proofs.ParameterOverrides
import ServiceGen.Proofs.Settling

/-!
# Following References

References are followed in two ways. A chain of schemas is followed with the components on it kept,
and not past one of them again; the references of each other section of the components are followed
with nothing kept, and only the ceiling bounds them. Both find the same thing (`FindsEnds`): what a
way along references leads to, if that is no reference and the way is not longer than the ceiling
allows. Such a way comes to no component twice, so from a ceiling on that leaves room for all
components the ceiling does not matter any more, and a way that comes to a component twice leads to
nothing.

## Main results

* `resolveWithin_eq_some_iff`: how far a chain of schemas is followed.
* `FindsEnds.of_found_iff`: all that is said of following references, from what is found.
* `findsEnds`: **following references finds their ends**, in every section.
-/

namespace ServiceGen

/-! ### What following references finds -/

/-- What is found by following references from a thing, under a ceiling and from a depth on.
`value?` is what a thing has to give that is no reference, and `size` is the number of components
that are referred to. -/
structure FindsEnds {α β : Type} (refers : α → String → α → Prop) (value? : α → Option β)
    (size : Nat) (find : Nat → Nat → α → Except Failure (Option β)) : Prop where
  /-- A value is found exactly if the way to it is not longer than the ceiling allows. -/
  found_iff : ∀ ceiling depth x value, find ceiling depth x = .ok (some value) ↔
    ∃ names y, Way refers x names y ∧ value? y = some value ∧ depth + names.length ≤ ceiling
  /-- Following references never fails. -/
  exists_ok : ∀ ceiling depth x, ∃ found, find ceiling depth x = .ok found
  /-- The way to a value comes to no component twice. -/
  nodup : ∀ x names y value, Way refers x names y → value? y = some value → names.Nodup
  /-- Ceilings that leave room for all components are alike. -/
  steady : ∀ ceiling ceiling' depth x, depth + size ≤ ceiling → depth + size ≤ ceiling' →
    find ceiling depth x = find ceiling' depth x
  /-- Where the way comes to a component twice, nothing is found. -/
  looping : ∀ ceiling depth x names y, Way refers x names y → ¬ names.Nodup →
    find ceiling depth x = .ok none

/-- **All that is said of following references** follows from what is found. -/
theorem FindsEnds.of_found_iff {α β : Type} {refers : α → String → α → Prop}
    {value? : α → Option β} {components : List String}
    {find : Nat → Nat → α → Except Failure (Option β)} (hrefers : Referential refers)
    (hend : ∀ {y value}, value? y = some value → ∀ name z, ¬ refers y name z)
    (hcomponents : ∀ {x name y}, refers x name y → name ∈ components)
    (hfound : ∀ ceiling depth x value, find ceiling depth x = .ok (some value) ↔
      ∃ names y, Way refers x names y ∧ value? y = some value ∧ depth + names.length ≤ ceiling)
    (hok : ∀ ceiling depth x, ∃ found, find ceiling depth x = .ok found) :
    FindsEnds refers value? components.length find := by
  have hnodup : ∀ {x names y value}, Way refers x names y → value? y = some value →
      names.Nodup := fun hway hvalue => hway.nodup_of_forall_not hrefers (hend hvalue)
  refine ⟨hfound, hok, fun x names y value => hnodup, ?_, ?_⟩
  · -- The way to a value is not longer than there are components.
    have hkeeps : ∀ {ceiling ceiling' depth x value}, depth + components.length ≤ ceiling' →
        find ceiling depth x = .ok (some value) → find ceiling' depth x = .ok (some value) := by
      intro ceiling ceiling' depth x value hceiling h
      obtain ⟨names, y, hway, hvalue, -⟩ := (hfound ..).mp h
      have hlength := hway.length_le_of_nodup hcomponents (hnodup hway hvalue)
      exact (hfound ..).mpr ⟨names, y, hway, hvalue, by omega⟩
    intro ceiling ceiling' depth x hceiling hceiling'
    obtain ⟨found, h⟩ := hok ceiling depth x
    obtain ⟨found', h'⟩ := hok ceiling' depth x
    cases found with
    | some value => rw [h, hkeeps hceiling' h]
    | none =>
        cases found' with
        | some value => rw [h', hkeeps hceiling h']
        | none => rw [h, h']
  · intro ceiling depth x names y hway hrepeats
    obtain ⟨found, h⟩ := hok ceiling depth x
    cases found with
    | none => exact h
    | some value =>
        obtain ⟨names', y', hway', hvalue, -⟩ := (hfound ..).mp h
        exact absurd (hway'.nodup_of_way_to_end hrefers (hend hvalue) hway) hrepeats

/-! ### Schemas -/

/-- The schema, if it is given in place. -/
def Schema.item? (s : Schema) : Option Schema :=
  if s.reference.isNone then some s else none

/-- A schema gives itself unless it is a reference. -/
theorem Schema.item?_eq_some_iff {s t : Schema} :
    s.item? = some t ↔ s.reference = none ∧ s = t := by
  rw [item?]
  split <;> simp_all

namespace Resolver

variable {r : Resolver} {room : Nat} {active passed : List String} {s t : Schema}
  {names : List String}

/-- There was room for the chain that was followed. -/
theorem length_lt_of_follow (h : r.follow room active s = .ok (.found t passed))
    (hchain : r.document.Chain s names t) : names.length < room := by
  induction room generalizing active s names with
  | zero => cases h
  | succ room ih =>
      cases hchain with
      | here => exact Nat.succ_pos room
      | step hrefers hchain =>
          rw [follow_of_refers hrefers] at h
          split at h
          · cases h
          · exact Nat.succ_lt_succ (ih h hchain)

/-- **How far a chain of schemas is followed.** -/
theorem resolveWithin_eq_some_iff : r.resolveWithin room s = .ok (some t) ↔
    ∃ names, r.document.Chain s names t ∧ t.reference = none ∧ names.length < room := by
  constructor
  · intro h
    obtain ⟨names, hchain, hend⟩ := chain_of_resolveWithin_eq_some h
    obtain ⟨found, hfound, h⟩ := Outcome.bind_eq_ok.mp h
    cases found with
    | found target passed =>
        cases h
        exact ⟨names, hchain, hend, length_lt_of_follow hfound hchain⟩
    | missing => cases h
    | endless => cases h
  · rintro ⟨names, hchain, hend, hlength⟩
    exact resolveWithin_of_chain hchain hend hlength

end Resolver

/-! ### Items of the other sections -/

/-- An item is a reference to the component of a name, which is the item `next`. -/
def RefOr.Refers {α : Type} (target : Section) (items : Entries (RefOr α)) (x : RefOr α)
    (name : String) (next : RefOr α) : Prop :=
  ∃ reference, x = .reference reference ∧
    Reference.componentName? target reference = some name ∧ items.get? name = some next

namespace RefOr

variable {α : Type} {target : Section} {items : Entries (RefOr α)} {x y : RefOr α} {a : α}

/-- References between items. -/
theorem referential_refers (target : Section) (items : Entries (RefOr α)) :
    Referential (Refers target items) := by
  constructor
  · rintro x y y' name name' ⟨reference, rfl, hname, hget⟩ ⟨_, ⟨⟩, hname', hget'⟩
    obtain rfl : name = name' := Option.some.inj (hname.symm.trans hname')
    exact ⟨rfl, Option.some.inj (hget.symm.trans hget')⟩
  · rintro x x' y y' name ⟨-, -, -, hget⟩ ⟨-, -, -, hget'⟩
    exact Option.some.inj (hget.symm.trans hget')

theorem item?_eq_some_iff : x.item? = some a ↔ x = .item a := by
  cases x <;> simp [item?]

/-- References lead to a value in as many steps as there are components on the way to it. -/
theorem leadsTo_iff_way {steps : Nat} : LeadsTo target items x steps a ↔
    ∃ names, Way (Refers target items) x names (.item a) ∧ names.length = steps := by
  constructor
  · intro h
    induction h with
    | item value => exact ⟨[], .here _, rfl⟩
    | reference hname hnext h ih =>
        obtain ⟨names, hway, rfl⟩ := ih
        exact ⟨_ :: names, .step ⟨_, rfl, hname, hnext⟩ hway, rfl⟩
  · rintro ⟨names, hway, rfl⟩
    generalize hvalue : RefOr.item a = y at hway
    induction hway with
    | here =>
        subst hvalue
        exact .item a
    | step hrefers hway ih =>
        obtain ⟨reference, rfl, hname, hnext⟩ := hrefers
        exact .reference hname hnext (ih hvalue)

end RefOr

namespace Resolver

variable {α : Type} {r : Resolver}

/-- **Following the references of a section finds their ends.** -/
theorem findsEnds_followItem (d : Document) (target : Section) (items : Entries (RefOr α)) :
    FindsEnds (RefOr.Refers target items) RefOr.item? items.length fun ceiling depth x =>
      (d.resolver ceiling).followItem target items ((d.resolver ceiling).room depth) x := by
  have hsize : items.length = items.names.length := (List.length_map _).symm
  rw [hsize]
  refine FindsEnds.of_found_iff (RefOr.referential_refers target items) ?_ ?_ ?_ ?_
  · rintro y value hvalue name z ⟨reference, rfl, -⟩
    cases hvalue
  · rintro x name y ⟨-, -, -, hget⟩
    exact List.mem_map_of_mem (Document.mem_of_get?_eq_some hget)
  · intro ceiling depth x value
    have hroom : (d.resolver ceiling).room depth = ceiling + 1 - depth := rfl
    simp only [followItem_eq_some_iff, RefOr.leadsTo_iff_way, RefOr.item?_eq_some_iff, hroom]
    constructor
    · rintro ⟨-, hlength, names, hway, rfl⟩
      exact ⟨names, _, hway, rfl, by omega⟩
    · rintro ⟨names, y, hway, rfl, hlength⟩
      exact ⟨names.length, by omega, names, hway, rfl⟩
  · intro ceiling depth x
    exact exists_followItem_eq_ok rfl target items _ x

/-- **Following chains of schemas finds their ends.** -/
theorem findsEnds_resolve (d : Document) :
    FindsEnds d.Refers Schema.item? d.components.schemas.length fun ceiling depth s =>
      (d.resolver ceiling).resolve s depth := by
  have hsize : d.components.schemas.length = d.components.schemas.names.length :=
    (List.length_map _).symm
  rw [hsize]
  refine FindsEnds.of_found_iff d.referential_refers ?_ Document.Refers.mem_names ?_ ?_
  · intro s t hitem
    exact Document.ends_of_reference_eq_none (Schema.item?_eq_some_iff.mp hitem).1
  · intro ceiling depth s t
    have hroom : (d.resolver ceiling).room depth = ceiling + 1 - depth := rfl
    have hdocument : (d.resolver ceiling).document = d := rfl
    simp only [resolve, resolveWithin_eq_some_iff, hroom, hdocument, Schema.item?_eq_some_iff,
      Document.chain_iff_way]
    constructor
    · rintro ⟨names, hway, hend, hlength⟩
      exact ⟨names, t, hway, ⟨hend, rfl⟩, by omega⟩
    · rintro ⟨names, y, hway, ⟨hend, rfl⟩, hlength⟩
      exact ⟨names, hway, hend, by omega⟩
  · intro ceiling depth s
    exact exists_resolveWithin_eq_ok rfl _ s

end Resolver

/-- **Following references finds their ends**, for schemas as for parameters, request bodies and
responses: what the way along references leads to, exactly if that is no reference and the way is
not longer than the ceiling allows. -/
theorem Document.findsEnds (d : Document) :
    FindsEnds d.Refers Schema.item? d.components.schemas.length
        (fun ceiling depth s => (d.resolver ceiling).resolve s depth) ∧
      FindsEnds (RefOr.Refers .parameters d.components.parameters) RefOr.item?
        d.components.parameters.length
        (fun ceiling depth p => (d.resolver ceiling).parameter p depth) ∧
      FindsEnds (RefOr.Refers .requestBodies d.components.requestBodies) RefOr.item?
        d.components.requestBodies.length
        (fun ceiling depth b => (d.resolver ceiling).requestBody b depth) ∧
      FindsEnds (RefOr.Refers .responses d.components.responses) RefOr.item?
        d.components.responses.length
        (fun ceiling depth x => (d.resolver ceiling).response x depth) ∧
      ∀ ceiling depth s t, (d.resolver ceiling).resolve s depth = .ok (some t) →
        t.reference = none := by
  refine ⟨Resolver.findsEnds_resolve d, Resolver.findsEnds_followItem d _ _,
    Resolver.findsEnds_followItem d _ _, Resolver.findsEnds_followItem d _ _, ?_⟩
  intro ceiling depth s t h
  obtain ⟨names, hchain, hend⟩ := Resolver.chain_of_resolveWithin_eq_some h
  exact hend

end ServiceGen
