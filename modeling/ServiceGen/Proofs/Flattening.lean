import ServiceGen.Proofs.Compositions

/-!
# Flattening Where a Reference Leads

A walk keeps the components it has passed, and is blocked where a trail comes back to one of them.
Otherwise they do not matter: a composition that is flattened after some components were passed is
flattened to the same schema after others, as long as no trail comes back to those
(`flatten_of_not_comesBack`).

The components on the way to a composition are such. If a trail from the composition came back to
one of them, it would go on as the way did, to the composition and back once more, so the trail
would come to that component twice, and the composition could not be flattened at all. So a
composition that was found along a reference is flattened to what the reference is.

## Main results

* `Document.ComesBack.of_chain`: what comes back to the way to a schema comes back by itself.
* `concreteWithin_of_resolveWithin`: **flattening where a reference leads** is flattening the
  reference.
-/

namespace ServiceGen

namespace Document

variable {d : Document} {s t u : Schema} {name : String} {names more : List String}

/-- Trails go on from their ends. -/
theorem Trail.append (h : d.Trail s names t) (htrail : d.Trail t more u) :
    d.Trail s (names ++ more) u := by
  induction h with
  | here s => exact htrail
  | reference hrefers _ ih => exact .reference hrefers (ih htrail)
  | branch hend hbranch _ ih => exact .branch hend hbranch (ih htrail)

/-- A trail to a component ends at its schema. -/
theorem Trail.exists_of_mem (h : d.Trail s names u) (hname : name ∈ names) :
    ∃ before t, d.Trail s (before ++ [name]) t ∧ d.components.schemas.get? name = some t := by
  induction h with
  | here s => cases hname
  | @reference s t u first names hrefers htrail ih =>
      rcases List.mem_cons.mp hname with rfl | hname
      · exact ⟨[], t, .reference hrefers (.here t), hrefers.get?_eq_some⟩
      · obtain ⟨before, v, hbefore, hget⟩ := ih hname
        exact ⟨first :: before, v, .reference hrefers hbefore, hget⟩
  | branch hend hbranch htrail ih =>
      obtain ⟨before, v, hbefore, hget⟩ := ih hname
      exact ⟨before, v, .branch hend hbranch hbefore, hget⟩

/-- From a component on its way, a chain goes on to its end. -/
theorem Chain.exists_of_mem (h : d.Chain s names u) (hname : name ∈ names) :
    ∃ t rest, d.components.schemas.get? name = some t ∧ d.Chain t rest u := by
  obtain ⟨x, t, rest, hrefers, hway, -⟩ := (chain_iff_way.mp h).exists_of_mem hname
  exact ⟨t, rest, hrefers.get?_eq_some, chain_iff_way.mpr hway⟩

/-- **What comes back to the way to a schema comes back by itself**: from the way it goes on to the
schema once more. -/
theorem ComesBack.of_chain (h : d.ComesBack names.reverse t) (hchain : d.Chain s names t) :
    d.ComesBack [] t := by
  rw [comesBack_iff] at h ⊢
  obtain ⟨passed, u, htrail, hnodup | ⟨name, hname, hmem⟩⟩ := h
  · exact ⟨passed, u, htrail, Or.inl hnodup⟩
  · obtain ⟨before, v, hbefore, hget⟩ := htrail.exists_of_mem hname
    obtain ⟨v', rest, hget', hrest⟩ := hchain.exists_of_mem (List.mem_reverse.mp hmem)
    obtain rfl : v = v' := Option.some.inj (hget.symm.trans hget')
    refine ⟨before ++ [name] ++ (rest ++ (before ++ [name])), v,
      hbefore.append (hrest.append_trail hbefore), Or.inl fun hnodup => ?_⟩
    have hdisjoint := (List.nodup_append.mp hnodup).2.2
    exact hdisjoint name (by simp) name (by simp) rfl

end Document

namespace Resolver

open Document (ComesBack)

variable {r : Resolver} {room : Nat} {active active' : List String} {s t merged : Schema}

/-! ### The components that were passed -/

/-- A branch that was not blocked contributes the same after other components, where no trail comes
back to those, if what it leads to is flattened to the same. -/
theorem contributionWith_of_not_comesBack
    {f : List String → Schema → Except Failure (Option Schema)} {c : Contribution}
    (hf : ∀ {active active' s merged}, s.reference = none → ¬ r.document.ComesBack active' s →
      f active s = .ok (some merged) → f active' s = .ok (some merged))
    (hback : ¬ r.document.ComesBack active' s) (hc : c ≠ .blocked)
    (h : r.contributionWith f room active s = .ok c) :
    r.contributionWith f room active' s = .ok c := by
  induction room generalizing active active' s with
  | zero =>
      cases h
      exact absurd rfl hc
  | succ room ih =>
      rcases r.document.reference_cases s with hend | ⟨name, t, hrefers⟩ | hnowhere
      · by_cases hplain : s.allOf = []
        · rw [contributionWith_of_plain hend hplain] at h ⊢
          exact h
        · rw [contributionWith_of_composition hend hplain] at h ⊢
          obtain ⟨found, hfound, h⟩ := Outcome.bind_eq_ok.mp h
          cases found with
          | none =>
              cases h
              exact absurd rfl hc
          | some merged => exact Outcome.bind_eq_ok.mpr ⟨some merged, hf hend hback hfound, h⟩
      · have hnew : name ∉ active' := fun hmem => hback (.again hrefers hmem)
        rw [contributionWith_of_refers hrefers] at h ⊢
        rw [if_neg (fun hmem => hnew (List.contains_iff_mem.mp hmem))]
        split at h
        · cases h
          exact absurd rfl hc
        · exact ih (fun hlater => hback (.reference hrefers hlater)) h
      · -- A strict resolver fails at a missing target.
        obtain ⟨reference, habsent⟩ := exists_follow_eq_absent hnowhere room active
        obtain ⟨found, hfound, -⟩ := Outcome.bind_eq_ok.mp h
        have hr : r.strict = false := (absent_eq_ok_iff.mp (habsent.symm.trans hfound)).1
        rw [contributionWith_of_leadsNowhere hr hnowhere] at h ⊢
        exact h

/-- Branches are merged to the same, if those that are not blocked contribute the same. -/
theorem mergeBranches_congr {f g : Schema → Except Failure Contribution} {branches : List Schema}
    {acc : Schema}
    (hfg : ∀ branch ∈ branches, ∀ c, c ≠ .blocked → f branch = .ok c → g branch = .ok c)
    (h : mergeBranches f branches acc = .ok (some merged)) :
    mergeBranches g branches acc = .ok (some merged) := by
  induction branches generalizing acc with
  | nil => exact h
  | cons branch rest ih =>
      rw [List.forall_mem_cons] at hfg
      obtain ⟨c, hc, h⟩ := Outcome.bind_eq_ok.mp h
      refine Outcome.bind_eq_ok.mpr ⟨c, hfg.1 c ?_ hc, ?_⟩
      · rintro rfl
        cases h
      · cases c with
        | shape schema => exact ih hfg.2 h
        | nothing => exact ih hfg.2 h
        | blocked => cases h

/-- **The components that were passed do not matter**, where no trail comes back to them. -/
theorem flatten_of_not_comesBack (hend : s.reference = none)
    (hback : ¬ r.document.ComesBack active' s)
    (h : r.flatten room active s = .ok (some merged)) :
    r.flatten room active' s = .ok (some merged) := by
  induction room generalizing active active' s merged with
  | zero => cases h
  | succ room ih =>
      obtain ⟨found, hfound, h⟩ := Outcome.bind_eq_ok.mp h
      cases found with
      | none => cases h
      | some found =>
          refine Outcome.bind_eq_ok.mpr ⟨some found, mergeBranches_congr ?_ hfound, h⟩
          exact fun branch hbranch c hc hcontribution => contributionWith_of_not_comesBack ih
            (fun hlater => hback (.branch hend hbranch hlater)) hc hcontribution

/-! ### The end of a chain -/

/-- What gives something does not come back, whether the resolver is strict or not. -/
theorem not_comesBack_of_concreteWithin (h : r.concreteWithin room s = .ok (some merged)) :
    ¬ r.document.ComesBack [] s := by
  have hs : s.Confined fun _ => True := fun _ _ => trivial
  have htolerates := tolerates_concreteWithin (r := r) (fun _ _ => trivial) room hs
  rw [h] at htolerates
  exact (not_comesBack_of_concreteWithin_eq_some rfl htolerates.eq_ok).2

/-- **Flattening where a reference leads** is flattening the reference. -/
theorem concreteWithin_of_resolveWithin (h : r.resolveWithin room s = .ok (some t))
    (hmerged : r.concreteWithin room t = .ok (some merged)) :
    r.concreteWithin room s = .ok (some merged) := by
  obtain ⟨found, hfound, h⟩ := Outcome.bind_eq_ok.mp h
  cases followed_of_follow_eq_ok hfound with
  | missing => cases h
  | endless => cases h
  | @found names _ hchain hend =>
      cases h
      have hback : ¬ r.document.ComesBack (names.reverse ++ []) t := by
        rw [List.append_nil]
        exact fun hback => not_comesBack_of_concreteWithin hmerged (hback.of_chain hchain)
      refine Outcome.bind_eq_ok.mpr ⟨_, hfound, ?_⟩
      cases room with
      | zero => cases hmerged
      | succ room =>
          rw [concreteWithin, follow_of_reference_eq_none hend, Outcome.ok_bind] at hmerged
          dsimp only at hmerged ⊢
          split
          · rename_i hplain
            rw [if_pos hplain] at hmerged
            exact hmerged
          · rename_i hcomposition
            rw [if_neg hcomposition] at hmerged
            exact flatten_of_not_comesBack hend hback hmerged

end Resolver

end ServiceGen
