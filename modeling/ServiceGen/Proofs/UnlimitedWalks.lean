import ServiceGen.Proofs.Settling

/-!
# Walks without Limits

A walk that neither has a ceiling nor keeps the components it has passed goes on for as long as
there are references to follow. It is described here by what it gives where it is cut off after some
steps: no result at all if it is cut off too early, unlike a limited walk, which then finds nothing.
So a result is that of the walk as a whole, and the walk comes to an end with a result if it gives
it whenever it is not cut off too early (`Halts`).

`Document.chainEnd` follows a chain of references in this way, and `Document.flattened` merges
compositions. Where the references of a schema lead to no component that they lead back to
(`Document.ReachesCycle`) these walks come to an end with what the limited ones settle on
(`halts_chainEnd_of_settles`, `halts_flattened_of_settles`). No limit matters there, neither the
ceiling nor the components passed before.

What can be met on a walk from a schema has only links that the schema leads to
(`Document.Encloses`), so it reaches no cycle that the schema does not reach.
-/

namespace ServiceGen

open Relation (TransGen)

/-! ### Walks that are cut off -/

section Halts

variable {α β : Type} {walk : Nat → Option α} {a : α}

/-- A walk **halts** with a result: it gives that unless it is cut off too early. -/
def Halts (walk : Nat → Option α) (a : α) : Prop :=
  ∃ enough, ∀ steps, enough ≤ steps → walk steps = some a

theorem Halts.pure (a : α) : Halts (fun _ => some a) a :=
  ⟨0, fun _ _ => rfl⟩

/-- A sequence comes to an end as its steps do. -/
theorem Halts.bind {next : Nat → α → Option β} {b : β} (h : Halts walk a)
    (hnext : Halts (next · a) b) : Halts (fun steps => walk steps >>= next steps) b := by
  obtain ⟨enough, h⟩ := h
  obtain ⟨enough', hnext⟩ := hnext
  refine ⟨max enough enough', fun steps hsteps => ?_⟩
  dsimp only
  rw [h steps (le_of_max_le_left hsteps)]
  exact hnext steps (le_of_max_le_right hsteps)

/-- A walk halts with another result if that is made of it. -/
theorem Halts.map (h : Halts walk a) (f : α → β) :
    Halts (fun steps => do return f (← walk steps)) (f a) :=
  h.bind (.pure (f a))

/-- A walk that goes on with another comes to an end if that does. -/
theorem Halts.step {next : Nat → Option α} (h : Halts next a)
    (hstep : ∀ steps, walk (steps + 1) = next steps) : Halts walk a := by
  obtain ⟨enough, h⟩ := h
  refine ⟨enough + 1, fun steps hsteps => ?_⟩
  obtain ⟨steps, rfl⟩ := Nat.exists_eq_add_of_le' (Nat.le_trans (Nat.le_add_left 1 _) hsteps)
  rw [hstep]
  exact h steps (Nat.le_of_add_le_add_right hsteps)

end Halts

/-- A schema with what a branch adds to it, if the branch has a schema. -/
def Schema.absorb? (acc : Schema) (branch : Option Schema) : Schema :=
  branch.elim acc acc.absorb

/-- The schema that a branch contributes, if it does. -/
def Contribution.schema? : Contribution → Option Schema
  | .shape schema => some schema
  | _ => none

namespace Document

variable {d : Document} {s t u : Schema} {name : String} {names : List String}

/-! ### Cycles of references -/

/-- The schema of the component that a reference names. -/
def target? (d : Document) (reference : String) : Option Schema :=
  (Reference.componentName? .schemas reference).bind d.components.schemas.get?

/-- One of the references in a schema names a component whose schema is `t`. -/
def LeadsTo (d : Document) (s t : Schema) : Prop :=
  ∃ reference ∈ s.references, d.target? reference = some t

/-- The references in a schema lead to one that they lead back to. -/
def ReachesCycle (d : Document) (s : Schema) : Prop :=
  ∃ t, TransGen d.LeadsTo s t ∧ TransGen d.LeadsTo t t

/-- A link leads to nothing but what is reached from a schema. -/
def Reached (d : Document) (s : Schema) (link : Link) : Prop :=
  ∀ t, d.target? link.2 = some t → TransGen d.LeadsTo s t

/-- A schema that refers to another has a reference with that target. -/
theorem target?_of_refers (h : d.Refers s name t) :
    ∃ reference, s.reference = some reference ∧ d.target? reference = some t := by
  obtain ⟨reference, hreference, hname, hget⟩ := h
  exact ⟨reference, hreference, Option.bind_eq_some_iff.mpr ⟨name, hname, hget⟩⟩

/-- A schema that leads nowhere has a reference without a target. -/
theorem target?_of_leadsNowhere (h : d.LeadsNowhere s) :
    ∃ reference, s.reference = some reference ∧ d.target? reference = none := by
  obtain ⟨reference, hreference⟩ := Option.isSome_iff_exists.mp h.1
  refine ⟨reference, hreference, Option.eq_none_iff_forall_ne_some.mpr fun t ht => ?_⟩
  obtain ⟨name, hname, hget⟩ := Option.bind_eq_some_iff.mp ht
  exact h.2 name t ⟨reference, hreference, hname, hget⟩

/-- A schema leads to all that its own links lead to. -/
theorem confined_reached (d : Document) (s : Schema) : s.Confined (d.Reached s) := by
  intro link hlink t ht
  obtain ⟨reference, hmem, rfl⟩ := List.mem_map.mp hlink
  exact .single ⟨reference, hmem, ht⟩

/-- What is reached from a schema is closed under all that leads on. -/
theorem closed_reached (d : Document) (s : Schema) : d.Closed (d.Reached s) := by
  intro s' name t hs' hrefers link hlink u hu
  obtain ⟨reference, hreference, htarget⟩ := target?_of_refers hrefers
  obtain ⟨other, hmem, rfl⟩ := List.mem_map.mp hlink
  exact .tail (hs'.reference hreference t htarget) ⟨other, hmem, hu⟩

/-- What is reached from a schema with links that another leads to is reached from that. -/
theorem transGen_of_confined (h : t.Confined (d.Reached s)) (ht : TransGen d.LeadsTo t u) :
    TransGen d.LeadsTo s u := by
  induction ht with
  | single hstep =>
      obtain ⟨reference, hmem, htarget⟩ := hstep
      exact h (.schemas, reference) (List.mem_map_of_mem hmem) _ htarget
  | tail _ hstep ih => exact ih.tail hstep

/-- A schema **encloses** another if every property of its links that is passed on along references
holds of the links of the other. -/
def Encloses (d : Document) (s t : Schema) : Prop :=
  ∀ P, d.Closed P → s.Confined P → t.Confined P

/-- What is enclosed by what is enclosed is enclosed. -/
theorem Encloses.trans (hst : d.Encloses s t) (htu : d.Encloses t u) : d.Encloses s u :=
  fun P hP hs => htu P hP (hst P hP hs)

/-- What a schema encloses reaches no cycle that the schema does not. -/
theorem Encloses.not_reachesCycle (h : d.Encloses s t) (hs : ¬ d.ReachesCycle s) :
    ¬ d.ReachesCycle t := by
  rintro ⟨u, hreach, hcycle⟩
  have ht : t.Confined (d.Reached s) := h _ (d.closed_reached s) (d.confined_reached s)
  exact hs ⟨u, transGen_of_confined ht hreach, hcycle⟩

/-- A schema encloses what is at the end of its chain. -/
theorem encloses_of_chain (h : d.Chain s names t) : d.Encloses s t :=
  fun _ hP hs => hP.chain h hs

/-! ### Trails -/

/-- To refer to a schema is to lead to it. -/
theorem transGen_of_refers (h : d.Refers s name t) : TransGen d.LeadsTo s t := by
  obtain ⟨reference, hreference, htarget⟩ := target?_of_refers h
  exact (d.confined_reached s).reference hreference t htarget

/-- A composition encloses its branches. -/
theorem encloses_of_mem_allOf {b : Schema} (h : b ∈ s.allOf) : d.Encloses s b :=
  fun _ _ hs => hs.allOf h

/-- A trail leads to the components that it passes. -/
theorem Trail.transGen (h : d.Trail s names t) (hname : name ∈ names)
    (hget : d.components.schemas.get? name = some u) : TransGen d.LeadsTo s u := by
  induction h with
  | here s => cases hname
  | @reference s t v other names hrefers htrail ih =>
      rcases List.mem_cons.mp hname with rfl | hname
      · obtain ⟨-, -, -, hget'⟩ := id hrefers
        obtain rfl : t = u := Option.some.inj (hget'.symm.trans hget)
        exact transGen_of_refers hrefers
      · exact (transGen_of_refers hrefers).trans (ih hname)
  | @branch s b v names hend hbranch htrail ih =>
      have hb : b.Confined (d.Reached s) := (d.confined_reached s).allOf hbranch
      exact transGen_of_confined hb (ih hname)

/-- **A trail that comes to a component twice reaches a cycle.** -/
theorem Trail.reachesCycle (h : d.Trail s names t) (hrepeats : ¬ names.Nodup) :
    d.ReachesCycle s := by
  induction h with
  | here s => exact absurd List.nodup_nil hrepeats
  | @reference s t v name names hrefers htrail ih =>
      by_cases hname : name ∈ names
      · obtain ⟨-, -, -, hget⟩ := id hrefers
        exact ⟨t, transGen_of_refers hrefers, htrail.transGen hname hget⟩
      · obtain ⟨u, hreach, hcycle⟩ := ih fun h => hrepeats (List.nodup_cons.mpr ⟨hname, h⟩)
        exact ⟨u, (transGen_of_refers hrefers).trans hreach, hcycle⟩
  | branch hend hbranch htrail ih =>
      by_contra hs
      exact (encloses_of_mem_allOf hbranch).not_reachesCycle hs (ih hrepeats)

/-- Without a cycle in reach no composition comes back to itself. -/
theorem not_comesBack_of_not_reachesCycle (h : ¬ d.ReachesCycle s) : ¬ d.ComesBack [] s := by
  rw [comesBack_iff]
  rintro ⟨names, t, htrail, hrepeats⟩
  exact h (htrail.reachesCycle (by simpa using hrepeats))

/-! ### Walks -/

/-- The schema at the end of a chain of references, if that takes fewer than the given steps. -/
def chainEnd (d : Document) : Nat → Schema → Option (Option Schema)
  | 0, _ => none
  | steps + 1, s =>
    match s.reference with
    | none => some (some s)
    | some reference =>
      match d.target? reference with
      | none => some none
      | some target => d.chainEnd steps target

/-- The schema at the end of a chain of references, with the branches of compositions merged, if
that takes fewer than the given steps. -/
def flattened (d : Document) : Nat → Schema → Option (Option Schema)
  | 0, _ => none
  | steps + 1, s =>
    match s.reference with
    | some reference =>
      match d.target? reference with
      | none => some none
      | some target => d.flattened steps target
    | none =>
      if s.allOf.isEmpty then some (some s)
      else do
        let merged ← s.allOf.foldlM
          (fun acc branch => do return acc.absorb? (← d.flattened steps branch)) ({} : Schema)
        return some (merged.absorb { s with allOf := [] }).orObject

/-- A walk that takes one step for each reference ends as it does from the end of a chain. -/
theorem Chain.halts {α : Type} {walk : Nat → Schema → Option α} {a : α}
    (hstep : ∀ {s name t}, d.Refers s name t → ∀ steps, walk (steps + 1) s = walk steps t)
    (h : d.Chain s names t) (hhalts : Halts (walk · t) a) : Halts (walk · s) a := by
  induction h with
  | here => exact hhalts
  | step hrefers hchain ih => exact (ih hhalts).step (hstep hrefers)

/-- A reference takes one step of the unlimited walk. -/
theorem chainEnd_of_refers (h : d.Refers s name t) (steps : Nat) :
    d.chainEnd (steps + 1) s = d.chainEnd steps t := by
  obtain ⟨reference, hreference, htarget⟩ := target?_of_refers h
  simp only [chainEnd, hreference, htarget]

/-- The walk along a chain halts at its end. -/
theorem halts_chainEnd_of_chain (h : d.Chain s names t) (hend : t.reference = none) :
    Halts (d.chainEnd · s) (some t) := by
  refine h.halts chainEnd_of_refers ((Halts.pure _).step fun steps => ?_)
  simp only [chainEnd, hend]

/-- The walk along a chain halts where the target is missing. -/
theorem halts_chainEnd_of_losesTarget (h : d.LosesTarget s) : Halts (d.chainEnd · s) none := by
  obtain ⟨names, t, hchain, hnowhere⟩ := h
  obtain ⟨reference, hreference, htarget⟩ := target?_of_leadsNowhere hnowhere
  refine hchain.halts chainEnd_of_refers ((Halts.pure _).step fun steps => ?_)
  simp only [chainEnd, hreference, htarget]

/-- A reference takes one step of the unlimited composition. -/
theorem flattened_of_refers (h : d.Refers s name t) (steps : Nat) :
    d.flattened (steps + 1) s = d.flattened steps t := by
  obtain ⟨reference, hreference, htarget⟩ := target?_of_refers h
  simp only [flattened, hreference, htarget]

/-- The composition of a chain without an end halts with nothing. -/
theorem halts_flattened_of_losesTarget (h : d.LosesTarget s) : Halts (d.flattened · s) none := by
  obtain ⟨names, t, hchain, hnowhere⟩ := h
  obtain ⟨reference, hreference, htarget⟩ := target?_of_leadsNowhere hnowhere
  refine hchain.halts flattened_of_refers ((Halts.pure _).step fun steps => ?_)
  simp only [flattened, hreference, htarget]

/-- What is no composition halts as it is. -/
theorem halts_flattened_of_plain (hend : s.reference = none) (hplain : s.allOf = []) :
    Halts (d.flattened · s) (some s) := by
  refine (Halts.pure _).step fun steps => ?_
  simp [flattened, hend, hplain]

/-- A composition is flattened to what its branches are merged to. -/
theorem halts_flattened_of_composition {merged : Schema} (hend : s.reference = none)
    (hcomposition : s.allOf ≠ [])
    (h : Halts (fun steps => s.allOf.foldlM
      (fun acc branch => do return acc.absorb? (← d.flattened steps branch)) ({} : Schema))
      merged) :
    Halts (d.flattened · s) (some (merged.absorb { s with allOf := [] }).orObject) := by
  refine (h.map fun merged => some (merged.absorb { s with allOf := [] }).orObject).step
    fun steps => ?_
  simp only [flattened, hend]
  exact if_neg (by simpa using hcomposition)

end Document

namespace Resolver

variable {r : Resolver} {d : Document} {s t : Schema} {room : Nat} {active : List String}

/-! ### What a limited walk finds -/

/-- Branches are merged as without limits, if each contributes what it does without them. -/
theorem halts_foldlM_of_mergeBranches {contribution : Schema → Except Failure Contribution}
    {walk : Nat → Schema → Option (Option Schema)} {branches : List Schema} {acc merged : Schema}
    (h : ∀ branch ∈ branches, ∀ c, contribution branch = .ok c → c ≠ .blocked →
      Halts (walk · branch) c.schema?)
    (hmerged : mergeBranches contribution branches acc = .ok (some merged)) :
    Halts (fun steps => branches.foldlM
      (fun acc branch => do return acc.absorb? (← walk steps branch)) acc) merged := by
  induction branches generalizing acc with
  | nil =>
      cases hmerged
      exact Halts.pure _
  | cons branch rest ih =>
      rw [List.forall_mem_cons] at h
      obtain ⟨c, hc, hmerged⟩ := Outcome.bind_eq_ok.mp hmerged
      simp only [List.foldlM_cons, bind_assoc, pure_bind]
      cases c with
      | shape schema => exact (h.1 _ hc (by simp)).bind (ih h.2 hmerged)
      | nothing => exact (h.1 _ hc (by simp)).bind (ih h.2 hmerged)
      | blocked => cases hmerged

/-- What a branch contributes, it contributes without limits, if compositions are flattened as
without them. -/
theorem halts_flattened_of_contributionWith
    {flatten : List String → Schema → Except Failure (Option Schema)} {c : Contribution}
    (hflatten : ∀ {active s merged}, s.reference = none → s.allOf ≠ [] →
      flatten active s = .ok (some merged) → Halts (r.document.flattened · s) (some merged))
    (h : r.contributionWith flatten room active s = .ok c) (hc : c ≠ .blocked) :
    Halts (r.document.flattened · s) c.schema? := by
  cases contributed_of_contributionWith_eq_ok h with
  | plain hchain hend hplain =>
      exact hchain.halts Document.flattened_of_refers
        (Document.halts_flattened_of_plain hend hplain)
  | composition hchain hend hcomposition hmerged =>
      exact hchain.halts Document.flattened_of_refers (hflatten hend hcomposition hmerged)
  | nothing hloses => exact Document.halts_flattened_of_losesTarget hloses
  | blocked => exact absurd rfl hc

/-- **What a composition is flattened to, it is without limits.** -/
theorem halts_flattened_of_flatten {merged : Schema} (hend : s.reference = none)
    (hcomposition : s.allOf ≠ []) (h : r.flatten room active s = .ok (some merged)) :
    Halts (r.document.flattened · s) (some merged) := by
  induction room generalizing active s merged with
  | zero => cases h
  | succ room ih =>
      obtain ⟨acc, hacc, h⟩ := Outcome.bind_eq_ok.mp h
      cases acc with
      | none => cases h
      | some acc =>
          cases h
          have hbranches := halts_foldlM_of_mergeBranches
            (fun branch _ c hbranch hc => halts_flattened_of_contributionWith ih hbranch hc) hacc
          exact Document.halts_flattened_of_composition hend hcomposition hbranches

/-! ### What a limited walk settles on -/

/-- A schema encloses what flattening it settles on. -/
theorem encloses_of_settles_concrete
    (h : Settles (fun ceiling room => (d.resolver ceiling).concreteWithin room s) (some t)) :
    d.Encloses s t := by
  obtain ⟨enough, h⟩ := h
  have hsome := h enough enough (Nat.le_refl _) (Nat.le_succ _)
  exact fun P hP hs => confined_of_concreteWithin (r := d.resolver enough) hP hs hsome

/-- What flattening a composition settles on is neither a reference nor composed of others. -/
theorem plain_of_settles_concrete (hend : s.reference = none) (hcomposition : s.allOf ≠ [])
    (h : Settles (fun ceiling room => (d.resolver ceiling).concreteWithin room s) (some t)) :
    t.Plain := by
  obtain ⟨enough, h⟩ := h
  have hsome := h enough enough (Nat.le_refl _) (Nat.le_succ _)
  dsimp only at hsome
  rw [concreteWithin_eq] at hsome
  obtain ⟨c, hc, hsome⟩ := Outcome.bind_eq_ok.mp hsome
  cases contributed_of_contributionWith_eq_ok hc with
  | plain hchain _ hplain =>
      cases hchain with
      | here => exact absurd hplain hcomposition
      | step hrefers _ => exact absurd hrefers (Document.ends_of_reference_eq_none hend _ _)
  | composition _ _ _ hmerged =>
      cases hsome
      exact plain_of_flatten_eq_some hmerged
  | nothing => cases hsome
  | blocked => cases hsome

/-- Where no chain has an end, nothing is flattened. -/
theorem concreteWithin_eq_none_of_resolveWithin (h : r.resolveWithin room s = .ok none) :
    r.concreteWithin room s = .ok none := by
  obtain ⟨found, hfound, h⟩ := Outcome.bind_eq_ok.mp h
  cases found with
  | found t passed => cases h
  | missing => rw [concreteWithin, hfound]; rfl
  | endless => rw [concreteWithin, hfound]; rfl

/-- A schema that reaches no cycle and is flattened to nothing, with enough room, has no target. -/
theorem losesTarget_of_concreteWithin {ceiling : Nat} (h : ¬ d.ReachesCycle s)
    (hroom : d.span [] s + 1 < room)
    (hnone : (d.resolver ceiling).concreteWithin room s = .ok none) : d.LosesTarget s := by
  have hr : (d.resolver ceiling).strict = false := rfl
  have hcauses := (concreteWithin_eq_none_iff hr hroom).mp hnone
  exact hcauses.resolve_right (Document.not_comesBack_of_not_reachesCycle h)

/-- **Following a chain settles on its end**, if the schema reaches no cycle. -/
theorem halts_chainEnd_of_settles {found : Option Schema}
    (hsettles : Settles (fun ceiling room => (d.resolver ceiling).resolveWithin room s) found)
    (h : ¬ d.ReachesCycle s) : Halts (d.chainEnd · s) found := by
  obtain ⟨enough, hfound⟩ := hsettles
  have hroom := hfound (enough + d.span [] s + 2) (enough + d.span [] s + 2) (by omega) (by omega)
  cases found with
  | some t =>
      obtain ⟨names, hchain, hend⟩ := chain_of_resolveWithin_eq_some hroom
      exact Document.halts_chainEnd_of_chain hchain hend
  | none =>
      have hnone := concreteWithin_eq_none_of_resolveWithin hroom
      have hspan : d.span [] s + 1 < enough + d.span [] s + 2 := by omega
      exact Document.halts_chainEnd_of_losesTarget (losesTarget_of_concreteWithin h hspan hnone)

/-- **Flattening settles on what is merged without limits**, if the schema reaches no cycle. -/
theorem halts_flattened_of_settles {found : Option Schema}
    (hsettles : Settles (fun ceiling room => (d.resolver ceiling).concreteWithin room s) found)
    (h : ¬ d.ReachesCycle s) : Halts (d.flattened · s) found := by
  obtain ⟨enough, hfound⟩ := hsettles
  have hroom := hfound (enough + d.span [] s + 2) (enough + d.span [] s + 2) (by omega) (by omega)
  cases found with
  | some t =>
      dsimp only at hroom
      rw [concreteWithin_eq] at hroom
      obtain ⟨c, hc, hroom⟩ := Outcome.bind_eq_ok.mp hroom
      cases c with
      | shape schema =>
          cases hroom
          exact halts_flattened_of_contributionWith halts_flattened_of_flatten hc (by simp)
      | nothing => cases hroom
      | blocked => cases hroom
  | none =>
      have hspan : d.span [] s + 1 < enough + d.span [] s + 2 := by omega
      exact Document.halts_flattened_of_losesTarget (losesTarget_of_concreteWithin h hspan hroom)

end Resolver

end ServiceGen
