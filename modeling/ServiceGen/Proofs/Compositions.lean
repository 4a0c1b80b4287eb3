import ServiceGen.Proofs.Ceilings
import ServiceGen.Proofs.Chains
import ServiceGen.Proofs.Strictness

/-!
# Compositions That Come Back to Themselves

A *trail* leads from a schema along references, and from a composition to its branches. Where a
trail comes to a component twice, the composition has no end, and neither has anything that is
composed of it. Where no trail does, the trails are bounded: each reference on one takes a
component that was not there before, and each branch is smaller than the composition it is a
branch of (`Document.span`). So a walk with more room than that never runs out of it.

`Document.ComesBack` says that a trail comes back in the terms of a walk, which carries the
components it has passed; `comesBack_iff` says it in the terms of trails. The walk through one
branch is `Resolver.contributionWith`, with equations for each kind of schema, so that a
reference, a plain schema and a composition are treated alike at every level.

## Main results

* `blocked_of_comesBack`: a trail that comes back blocks the walk, whatever the room.
* `ne_blocked_of_not_comesBack`: nothing else does, with enough room.
* `flatten_eq_none_iff`: a composition is blocked by one of its branches alone.
* `concrete_eq_none_iff`: **when flattening gives nothing**, and what it gives otherwise.
-/

namespace ServiceGen

namespace Schema

/-- A schema is neither a reference nor composed of others. -/
structure Plain (s : Schema) : Prop where
  reference : s.reference = none
  allOf : s.allOf = []
  oneOf : s.oneOf = []
  anyOf : s.anyOf = []

variable {s : Schema}

/-- A plain schema is plain after it took in a branch. -/
theorem Plain.absorb (h : s.Plain) (branch : Schema) : (s.absorb branch).Plain :=
  ⟨h.reference, h.allOf, h.oneOf, h.anyOf⟩

/-- A plain schema is plain after it became an object. -/
theorem Plain.orObject (h : s.Plain) : s.orObject.Plain := by
  rw [Schema.orObject]
  split
  · exact ⟨h.reference, h.allOf, h.oneOf, h.anyOf⟩
  · exact h

end Schema

namespace Document

variable {d : Document} {active names : List String} {s t u : Schema} {name : String}

/-! ### Trails -/

/-- A trail from a schema to another, along references and from compositions to their branches,
past the components of the given names. -/
inductive Trail (d : Document) : Schema → List String → Schema → Prop
  /-- A schema is a trail by itself. -/
  | here (s : Schema) : Trail d s [] s
  /-- A reference, and a trail from its target. -/
  | reference {s t u : Schema} {name : String} {names : List String}
      (hrefers : d.Refers s name t) (htrail : Trail d t names u) : Trail d s (name :: names) u
  /-- A composition, and a trail from one of its branches. -/
  | branch {s b u : Schema} {names : List String} (hend : s.reference = none)
      (hbranch : b ∈ s.allOf) (htrail : Trail d b names u) : Trail d s names u

/-- The chain of a schema comes to a component twice. -/
def ChainRepeats (d : Document) (s : Schema) : Prop :=
  ∃ names t, d.Chain s names t ∧ ¬ names.Nodup

/-- The chain of a schema leads to a composition, and a trail that goes on from there comes to
a component that is on the chain, or to one component twice. -/
def CompositionRepeats (d : Document) (s : Schema) : Prop :=
  ∃ names t more u, d.Chain s names t ∧ t.reference = none ∧ t.allOf ≠ [] ∧
    d.Trail t more u ∧ ¬ (names ++ more).Nodup

/-- A trail from a schema comes to a component that is among `active`, or to one twice. -/
inductive ComesBack (d : Document) : List String → Schema → Prop
  /-- The schema refers to a component that was there before. -/
  | again {active : List String} {s t : Schema} {name : String} (hrefers : d.Refers s name t)
      (hactive : name ∈ active) : ComesBack d active s
  /-- A trail from the target of a reference comes back. -/
  | reference {active : List String} {s t : Schema} {name : String}
      (hrefers : d.Refers s name t) (hback : ComesBack d (name :: active) t) :
      ComesBack d active s
  /-- A trail from a branch of a composition comes back. -/
  | branch {active : List String} {s b : Schema} (hend : s.reference = none)
      (hbranch : b ∈ s.allOf) (hback : ComesBack d active b) : ComesBack d active s

/-- **Coming back, in terms of trails.** -/
theorem comesBack_iff : d.ComesBack active s ↔
    ∃ names t, d.Trail s names t ∧ (¬ names.Nodup ∨ ∃ name ∈ names, name ∈ active) := by
  constructor
  · intro h
    induction h with
    | @again active s t name hrefers hactive =>
        exact ⟨[name], t, .reference hrefers (.here t), Or.inr ⟨name, by simp, hactive⟩⟩
    | @reference active s t name hrefers hback ih =>
        obtain ⟨names, u, htrail, hrepeats⟩ := ih
        refine ⟨name :: names, u, .reference hrefers htrail, ?_⟩
        rcases hrepeats with hnodup | ⟨other, hother, hactive⟩
        · exact Or.inl fun h => hnodup (List.nodup_cons.mp h).2
        · rcases List.mem_cons.mp hactive with rfl | hactive
          · exact Or.inl fun h => (List.nodup_cons.mp h).1 hother
          · exact Or.inr ⟨other, List.mem_cons_of_mem name hother, hactive⟩
    | branch hend hbranch hback ih =>
        obtain ⟨names, u, htrail, hrepeats⟩ := ih
        exact ⟨names, u, .branch hend hbranch htrail, hrepeats⟩
  · rintro ⟨names, t, htrail, hrepeats⟩
    induction htrail generalizing active with
    | here s => simp at hrepeats
    | @reference s t u name names hrefers htrail ih =>
        by_cases hactive : name ∈ active
        · exact .again hrefers hactive
        · refine .reference hrefers (ih ?_)
          rcases hrepeats with hnodup | ⟨other, hother, hmem⟩
          · by_cases hname : name ∈ names
            · exact Or.inr ⟨name, hname, List.mem_cons_self⟩
            · exact Or.inl fun h => hnodup (List.nodup_cons.mpr ⟨hname, h⟩)
          · rcases List.mem_cons.mp hother with rfl | hother
            · exact absurd hmem hactive
            · exact Or.inr ⟨other, hother, List.mem_cons_of_mem name hmem⟩
    | branch hend hbranch htrail ih => exact .branch hend hbranch (ih hrepeats)

/-- A chain is the beginning of a trail. -/
theorem Chain.append_trail {more : List String} (h : d.Chain s names t)
    (htrail : d.Trail t more u) : d.Trail s (names ++ more) u := by
  induction h with
  | here s => exact htrail
  | step hrefers hchain ih => exact .reference hrefers (ih htrail)

/-- A trail is a chain, or it leads along one to a composition and on from there. -/
theorem Trail.chain_or_composition (h : d.Trail s names u) :
    d.Chain s names u ∨ ∃ before t more, names = before ++ more ∧ d.Chain s before t ∧
      t.reference = none ∧ t.allOf ≠ [] ∧ d.Trail t more u := by
  induction h with
  | here s => exact Or.inl (.here s)
  | @reference s t u name names hrefers htrail ih =>
      rcases ih with hchain | ⟨before, v, more, rfl, hchain, hend, hcomposition, hmore⟩
      · exact Or.inl (.step hrefers hchain)
      · exact Or.inr ⟨name :: before, v, more, rfl, .step hrefers hchain, hend, hcomposition,
          hmore⟩
  | @branch s b u names hend hbranch htrail ih =>
      exact Or.inr ⟨[], s, names, rfl, .here s, hend, List.ne_nil_of_mem hbranch,
        .branch hend hbranch htrail⟩

/-- A trail from a schema comes to a component twice on the chain of the schema, or beyond. -/
theorem comesBack_nil_iff : d.ComesBack [] s ↔ d.ChainRepeats s ∨ d.CompositionRepeats s := by
  rw [comesBack_iff]
  constructor
  · rintro ⟨names, u, htrail, hrepeats⟩
    have hnodup : ¬ names.Nodup := by simpa using hrepeats
    rcases htrail.chain_or_composition with
      hchain | ⟨before, t, more, rfl, hchain, hend, hcomposition, hmore⟩
    · exact Or.inl ⟨names, u, hchain, hnodup⟩
    · exact Or.inr ⟨before, t, more, u, hchain, hend, hcomposition, hmore, hnodup⟩
  · rintro (⟨names, t, hchain, hnodup⟩ | ⟨names, t, more, u, hchain, -, -, htrail, hnodup⟩)
    · have htrail := hchain.append_trail (.here t)
      rw [List.append_nil] at htrail
      exact ⟨names, t, htrail, Or.inl hnodup⟩
    · exact ⟨names ++ more, u, hchain.append_trail htrail, Or.inl hnodup⟩

/-- A chain that cannot go on is the only one, so no chain of its schema comes to a component
twice. -/
theorem Chain.not_chainRepeats (h : d.Chain s names t) (ht : d.Ends t) : ¬ d.ChainRepeats s := by
  rintro ⟨names', t', hchain', hnodup⟩
  rw [chain_iff_way] at h hchain'
  exact hnodup (h.nodup_of_way_to_end d.referential_refers ht hchain')

/-- A schema whose chain leads nowhere does not come back: the chain comes to no component
twice, and no composition is at its end. -/
theorem not_comesBack_of_losesTarget (h : d.LosesTarget s) : ¬ d.ComesBack [] s := by
  rw [comesBack_nil_iff]
  rintro (hrepeats | ⟨names, t, -, -, hchain, hend, -⟩)
  · obtain ⟨names, t, hchain, hnowhere⟩ := h
    exact hchain.not_chainRepeats hnowhere.2 hrepeats
  · exact hchain.not_losesTarget hend h

/-! ### Bounds -/

/-- The components that a walk has not passed. -/
def unvisited (d : Document) (active : List String) : Finset String :=
  d.components.schemas.names.toFinset \ active.toFinset

/-- A bound on the trails from a schema that come to no component of `active`: each component
that is left takes no more than all the schemas, and then there is the schema itself. -/
noncomputable def span (d : Document) (active : List String) (s : Schema) : Nat :=
  (d.unvisited active).card * (sizeOf d.components.schemas + 1) + sizeOf s

/-- A component that a walk passes is not left to it. -/
theorem card_unvisited_lt (hname : name ∈ d.components.schemas.names) (hnew : name ∉ active) :
    (d.unvisited (name :: active)).card < (d.unvisited active).card := by
  have hmem : name ∈ d.unvisited active := by simp [unvisited, hname, hnew]
  have herase : d.unvisited (name :: active) = (d.unvisited active).erase name := by
    ext other
    simp only [unvisited, Finset.mem_sdiff, List.mem_toFinset, List.mem_cons, Finset.mem_erase]
    tauto
  rw [herase]
  exact Finset.card_erase_lt_of_mem hmem

/-- What is left to walk falls on the way to a component that was not there before. -/
theorem span_lt_of_get? (hget : d.components.schemas.get? name = some t) (hnew : name ∉ active) :
    d.span (name :: active) t < d.span active s := by
  have hentry := mem_of_get?_eq_some hget
  have hcard := card_unvisited_lt (List.mem_map_of_mem hentry : name ∈ _) hnew
  have hsize : sizeOf t < sizeOf d.components.schemas := by
    have hlist := List.sizeOf_lt_of_mem hentry
    have hsnd : sizeOf t < sizeOf (name, t) := by simp
    omega
  have hmul := Nat.mul_le_mul_right (sizeOf d.components.schemas + 1) (Nat.succ_le_of_lt hcard)
  rw [Nat.succ_mul] at hmul
  rw [span, span]
  omega

/-- What is left to walk falls on the way to a part of a schema. -/
theorem span_lt_of_sizeOf_lt (h : sizeOf t < sizeOf s) : d.span active t < d.span active s :=
  Nat.add_lt_add_left h _

/-- The trails from the target of a new reference are shorter. -/
theorem span_lt_of_refers (h : d.Refers s name t) (hnew : name ∉ active) :
    d.span (name :: active) t < d.span active s := by
  obtain ⟨-, -, -, hget⟩ := h
  exact span_lt_of_get? hget hnew

/-- The trails from a branch of a composition are shorter. -/
theorem span_lt_of_mem {b : Schema} (h : b ∈ s.allOf) : d.span active b < d.span active s := by
  have hbranch := List.sizeOf_lt_of_mem h
  refine span_lt_of_sizeOf_lt ?_
  cases s
  simp only [Schema.mk.sizeOf_spec]
  dsimp only at hbranch
  omega

/-- The trails from all components have a bound in common. -/
theorem exists_span_le (d : Document) :
    ∃ reach, ∀ entry ∈ d.components.schemas, d.span [] entry.2 ≤ reach :=
  ⟨(d.components.schemas.map fun entry => d.span [] entry.2).sum, fun _ hentry =>
    List.single_le_sum (fun _ _ => Nat.zero_le _) _ (List.mem_map_of_mem hentry)⟩

end Document

namespace Resolver

open Document (LeadsNowhere LosesTarget ComesBack ChainRepeats CompositionRepeats)

variable {r : Resolver} {room : Nat} {active : List String} {s t : Schema} {name : String}
  {f : List String → Schema → Except Failure (Option Schema)}

/-! ### What a branch contributes -/

/-- A reference contributes what its target does, unless that was there before. -/
theorem contributionWith_of_refers (h : r.document.Refers s name t) :
    r.contributionWith f (room + 1) active s =
      if active.contains name then .ok .blocked
      else r.contributionWith f room (name :: active) t := by
  rw [contributionWith, contributionWith, follow_of_refers h]
  split <;> rfl

/-- A permissive resolver lets a reference without a target contribute nothing. -/
theorem contributionWith_of_leadsNowhere (hr : r.strict = false)
    (h : r.document.LeadsNowhere s) :
    r.contributionWith f (room + 1) active s = .ok .nothing := by
  obtain ⟨reference, habsent⟩ := exists_follow_eq_absent h room active
  rw [contributionWith, habsent, absent_eq_ok_iff.mpr ⟨hr, rfl⟩]
  rfl

/-- A plain schema contributes itself. -/
theorem contributionWith_of_plain (hend : s.reference = none) (hplain : s.allOf = []) :
    r.contributionWith f (room + 1) active s = .ok (.shape s) := by
  rw [contributionWith, follow_of_reference_eq_none hend, Outcome.ok_bind]
  dsimp only
  rw [if_pos (List.isEmpty_iff.mpr hplain)]
  rfl

/-- A composition contributes what it is flattened to. -/
theorem contributionWith_of_composition (hend : s.reference = none)
    (hcomposition : s.allOf ≠ []) :
    r.contributionWith f (room + 1) active s = (do
      match ← f active s with
      | some merged => return .shape merged
      | none => return .blocked) := by
  rw [contributionWith, follow_of_reference_eq_none hend, Outcome.ok_bind]
  dsimp only
  refine (if_neg (by simpa using hcomposition)).trans (bind_congr fun merged => ?_)
  cases merged <;> rfl

/-- A permissive resolver always says what a branch contributes. -/
theorem exists_contribution_eq_ok (hr : r.strict = false) (k room : Nat) (active : List String)
    (branch : Schema) : ∃ c, r.contributionWith (r.flatten k) room active branch = .ok c := by
  have hlinks : ∀ link ∈ r.document.components.links, True := fun _ _ => trivial
  have hbranch : branch.Confined fun _ => True := fun _ _ => trivial
  have h := tolerates_contributionWith hlinks
    (fun active _ => tolerates_flatten hlinks k active) room active hbranch
  rw [permissive_eq_self hr] at h
  exact h.exists_ok

/-! ### One branch blocks a composition -/

/-- Branches are not merged exactly if one of them is blocked. -/
theorem mergeBranches_eq_none_iff {contribution : Schema → Except Failure Contribution}
    (hok : ∀ branch, ∃ c, contribution branch = .ok c) (branches : List Schema) (acc : Schema) :
    mergeBranches contribution branches acc = .ok none ↔
      ∃ branch ∈ branches, contribution branch = .ok .blocked := by
  induction branches generalizing acc with
  | nil => simp [mergeBranches]
  | cons branch rest ih =>
      obtain ⟨c, hc⟩ := hok branch
      rw [mergeBranches, hc, Outcome.ok_bind]
      simp only [List.mem_cons, exists_eq_or_imp, hc]
      cases c with
      | shape schema => simpa using ih (acc.absorb schema)
      | nothing => simpa using ih acc
      | blocked => simp [Outcome.pure_eq_ok]

/-- **A composition is blocked by one of its branches alone.** -/
theorem flatten_eq_none_iff (hr : r.strict = false) :
    r.flatten (room + 1) active s = .ok none ↔
      ∃ branch ∈ s.allOf, r.contribution room active branch = .ok .blocked := by
  refine Iff.trans ?_
    (mergeBranches_eq_none_iff (exists_contribution_eq_ok hr room room active) s.allOf {})
  rw [flatten]
  constructor
  · intro h
    obtain ⟨merged, hmerged, h⟩ := Outcome.bind_eq_ok.mp h
    cases merged with
    | none => exact hmerged
    | some merged => cases h
  · intro h
    exact Outcome.bind_eq_ok.mpr ⟨none, h, rfl⟩

/-! ### What blocks a walk -/

/-- **A trail that comes back blocks the walk**, whatever the room. -/
theorem blocked_of_comesBack (hr : r.strict = false) (h : r.document.ComesBack active s)
    (k room : Nat) : r.contributionWith (r.flatten k) room active s = .ok .blocked := by
  induction h generalizing k room with
  | @again active s t name hrefers hactive =>
      cases room with
      | zero => rfl
      | succ room =>
          rw [contributionWith_of_refers hrefers, if_pos (List.contains_iff_mem.mpr hactive)]
  | reference hrefers hback ih =>
      cases room with
      | zero => rfl
      | succ room =>
          rw [contributionWith_of_refers hrefers, ih]
          split <;> rfl
  | @branch active s b hend hbranch hback ih =>
      cases room with
      | zero => rfl
      | succ room =>
          have hnone : r.flatten k active s = .ok none := by
            cases k with
            | zero => rfl
            | succ k => exact (flatten_eq_none_iff hr).mpr ⟨b, hbranch, ih k k⟩
          rw [contributionWith_of_composition hend (List.ne_nil_of_mem hbranch), hnone]
          rfl

/-- **Nothing else blocks a walk**, with enough room. -/
theorem ne_blocked_of_not_comesBack (hr : r.strict = false)
    (h : ¬ r.document.ComesBack active s) {k room : Nat} (hk : r.document.span active s < k)
    (hroom : r.document.span active s < room) :
    r.contributionWith (r.flatten k) room active s ≠ .ok .blocked := by
  -- The bound falls along each reference to a new component and to each branch.
  induction hspan : r.document.span active s using Nat.strong_induction_on
    generalizing active s k room with
  | h n ih =>
      subst hspan
      obtain ⟨room, rfl⟩ : ∃ m, room = m + 1 := ⟨room - 1, by omega⟩
      obtain ⟨k, rfl⟩ : ∃ m, k = m + 1 := ⟨k - 1, by omega⟩
      rcases r.document.reference_cases s with hend | ⟨name, t, hrefers⟩ | hnowhere
      · by_cases hplain : s.allOf = []
        · rw [contributionWith_of_plain hend hplain]
          simp
        · rw [contributionWith_of_composition hend hplain]
          intro hblocked
          obtain ⟨merged, hmerged, hblocked⟩ := Outcome.bind_eq_ok.mp hblocked
          cases merged with
          | some merged => cases hblocked
          | none =>
              obtain ⟨branch, hbranch, hcontribution⟩ := (flatten_eq_none_iff hr).mp hmerged
              have hless : r.document.span active branch < r.document.span active s :=
                r.document.span_lt_of_mem hbranch
              exact ih _ hless (fun hback => h (.branch hend hbranch hback)) (by omega)
                (by omega) rfl hcontribution
      · by_cases hactive : name ∈ active
        · exact absurd (.again hrefers hactive) h
        · have hless := r.document.span_lt_of_refers hrefers hactive
          rw [contributionWith_of_refers hrefers,
            if_neg (fun hmem => hactive (List.contains_iff_mem.mp hmem))]
          exact ih _ hless (fun hback => h (.reference hrefers hback)) (by omega) (by omega) rfl
      · rw [contributionWith_of_leadsNowhere hr hnowhere]
        simp

/-! ### Flattening -/

/-- Flattening gives what a branch contributes to a composition. -/
theorem concreteWithin_eq (room : Nat) (s : Schema) :
    r.concreteWithin room s = (do
      match ← r.contributionWith (r.flatten (room - 1)) room [] s with
      | .shape found => return some found
      | _ => return none) := by
  rw [concreteWithin, contributionWith, bind_assoc]
  refine bind_congr fun found => ?_
  cases found with
  | missing => rfl
  | endless => rfl
  | found target active =>
      dsimp only
      split
      · rfl
      · cases r.flatten (room - 1) active target with
        | error failure => rfl
        | ok merged => cases merged <;> rfl

/-- A flattened composition is neither a reference nor composed of others. -/
theorem plain_of_flatten_eq_some {merged : Schema}
    (h : r.flatten room active s = .ok (some merged)) : merged.Plain := by
  obtain ⟨less, found, hfound, rfl⟩ := exists_of_flatten_eq_some h
  have hplain : found.Plain := of_mergeBranches_eq_some (P := Schema.Plain)
    (fun branch hacc => hacc.absorb branch) ⟨rfl, rfl, rfl, rfl⟩ hfound
  exact Schema.Plain.orObject (hplain.absorb _)

/-- What flattening gives is no reference and has no branches. -/
theorem of_concreteWithin_eq_some {found : Schema}
    (h : r.concreteWithin room s = .ok (some found)) :
    found.reference = none ∧ found.allOf = [] := by
  rw [concreteWithin_eq] at h
  obtain ⟨c, hc, h⟩ := Outcome.bind_eq_ok.mp h
  cases contributed_of_contributionWith_eq_ok hc with
  | plain hchain hend hplain =>
      cases h
      exact ⟨hend, hplain⟩
  | composition hchain hend hcomposition hmerged =>
      cases h
      have hplain := plain_of_flatten_eq_some hmerged
      exact ⟨hplain.reference, hplain.allOf⟩
  | nothing hloses => cases h
  | blocked => cases h

/-- Whatever the room, what gives something has a target and does not come back. -/
theorem not_comesBack_of_concreteWithin_eq_some (hr : r.strict = false) {found : Schema}
    (h : r.concreteWithin room s = .ok (some found)) :
    ¬ r.document.LosesTarget s ∧ ¬ r.document.ComesBack [] s := by
  rw [concreteWithin_eq] at h
  obtain ⟨c, hc, h⟩ := Outcome.bind_eq_ok.mp h
  have hback : r.document.ComesBack [] s → c = .blocked := fun hback =>
    Except.ok.inj (hc.symm.trans (blocked_of_comesBack hr hback _ _))
  cases contributed_of_contributionWith_eq_ok hc with
  | plain hchain hend hplain =>
      exact ⟨hchain.not_losesTarget hend, fun h => nomatch hback h⟩
  | composition hchain hend hcomposition hmerged =>
      exact ⟨hchain.not_losesTarget hend, fun h => nomatch hback h⟩
  | nothing hloses => cases h
  | blocked => cases h

/-- Flattening gives nothing if the schema is blocked or its target is missing. -/
theorem concreteWithin_eq_none_iff (hr : r.strict = false)
    (hroom : r.document.span [] s + 1 < room) :
    r.concreteWithin room s = .ok none ↔ r.document.LosesTarget s ∨ r.document.ComesBack [] s := by
  obtain ⟨c, hc⟩ := exists_contribution_eq_ok hr (room - 1) room [] s
  rw [concreteWithin_eq, hc, Outcome.ok_bind]
  constructor
  · intro h
    by_cases hback : r.document.ComesBack [] s
    · exact Or.inr hback
    · cases contributed_of_contributionWith_eq_ok hc with
      | plain hchain hend hplain => cases h
      | composition hchain hend hcomposition hmerged => cases h
      | nothing hloses => exact Or.inl hloses
      | blocked =>
          exact absurd hc (ne_blocked_of_not_comesBack hr hback (by omega) (by omega))
  · intro hneither
    cases c with
    | shape found =>
        have hfound : r.concreteWithin room s = .ok (some found) := by
          rw [concreteWithin_eq, hc]
          rfl
        obtain ⟨hloses, hback⟩ := not_comesBack_of_concreteWithin_eq_some hr hfound
        exact absurd hneither (not_or.mpr ⟨hloses, hback⟩)
    | nothing => rfl
    | blocked => rfl

/-- Flattening a composition gives nothing exactly if one of its branches is blocked. -/
theorem concreteWithin_composition_eq_none_iff (hr : r.strict = false)
    (hend : s.reference = none) (room : Nat) :
    r.concreteWithin (room + 2) s = .ok none ↔
      ∃ branch ∈ s.allOf, r.contribution room [] branch = .ok .blocked := by
  rw [← flatten_eq_none_iff hr, concreteWithin, follow_of_reference_eq_none hend,
    Outcome.ok_bind]
  dsimp only
  split
  · rename_i hplain
    constructor
    · rintro ⟨⟩
    · intro h
      obtain ⟨branch, hbranch, -⟩ := (flatten_eq_none_iff hr).mp h
      rw [List.isEmpty_iff.mp hplain] at hbranch
      cases hbranch
  · exact Iff.rfl

/-- **When flattening gives nothing, and what it gives otherwise.** Under every sufficiently
high ceiling it gives nothing exactly if the chain of the schema ends at a missing target or
comes to a component twice, or leads to a composition from which a trail comes to a component
that is on the way already. So a composition gives nothing because of one of its branches
alone, whose target is there: neither a component that several branches have in common nor a
missing target is a reason. What is given is no reference and has no branches. -/
theorem concrete_eq_none_iff (d : Document) (s : Schema) :
    ∃ enough, ∀ ceiling, enough ≤ ceiling →
      (∃ outcome, (d.resolver ceiling).concrete s 0 = .ok outcome) ∧
      ((d.resolver ceiling).concrete s 0 = .ok none ↔
        d.LosesTarget s ∨ d.ChainRepeats s ∨ d.CompositionRepeats s) ∧
      (s.reference = none →
        ((d.resolver ceiling).concrete s 0 = .ok none ↔
          ∃ branch ∈ s.allOf, ¬ d.LosesTarget branch ∧
            (d.resolver ceiling).concrete { s with allOf := [branch] } 0 = .ok none)) ∧
      ∀ found, (d.resolver ceiling).concrete s 0 = .ok (some found) →
        found.reference = none ∧ found.allOf = [] := by
  refine ⟨d.span [] s + 1, fun ceiling hceiling => ?_⟩
  obtain ⟨room, rfl⟩ : ∃ room, ceiling = room + 1 := ⟨ceiling - 1, by omega⟩
  have hr : (d.resolver (room + 1)).strict = false := rfl
  refine ⟨?_, ?_, fun hend => ?_, fun found => of_concreteWithin_eq_some⟩
  · have hconfined : s.Confined fun _ => True := fun _ _ => trivial
    have htolerates := tolerates_concreteWithin (r := d.resolver (room + 1)) (fun _ _ => trivial)
      (room + 2) hconfined
    rw [permissive_eq_self hr] at htolerates
    exact htolerates.exists_ok
  · rw [← Document.comesBack_nil_iff]
    have hroom : d.span [] s + 1 < room + 2 := Nat.succ_lt_succ hceiling
    exact concreteWithin_eq_none_iff hr hroom
  · have halone : ∀ branch ∈ s.allOf,
        ((d.resolver (room + 1)).concrete { s with allOf := [branch] } 0 = .ok none ↔
          (d.resolver (room + 1)).contribution room [] branch = .ok .blocked) := by
      intro branch hbranch
      have hbranches := concreteWithin_composition_eq_none_iff hr
        (s := { s with allOf := [branch] }) hend room
      exact hbranches.trans (by simp)
    refine (concreteWithin_composition_eq_none_iff hr hend room).trans ?_
    constructor
    · rintro ⟨branch, hbranch, hblocked⟩
      refine ⟨branch, hbranch, fun hloses => ?_, (halone branch hbranch).mpr hblocked⟩
      have hless : d.span [] branch < d.span [] s := d.span_lt_of_mem hbranch
      have hroom : d.span [] branch < room := by omega
      exact ne_blocked_of_not_comesBack hr (Document.not_comesBack_of_losesTarget hloses) hroom
        hroom hblocked
    · rintro ⟨branch, hbranch, -, hnone⟩
      exact ⟨branch, hbranch, (halone branch hbranch).mp hnone⟩

end Resolver

end ServiceGen
