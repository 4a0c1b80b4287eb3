import ServiceGen.Proofs.Sequencing
import ServiceGen.Proofs.Ways
import ServiceGen.Resolver

/-!
# Chains of References

A schema refers to one component at most. Following its reference, then that of the component,
and so on, is a *chain*. `Document.Chain` says what chains there are without a resolver, and
`Resolver.follow` goes along one, as far as there is room and as long as no component comes
again.

## Main results

* `Chain.nodup_of_ends`: such a chain comes to no component twice.
* `follow_of_chain`: **a chain past new components is followed**, one step of room for each.
* `followed_of_follow_eq_ok`: what a walk that was followed has found.
* `contributed_of_contributionWith_eq_ok`: what a branch of a composition has contributed.
-/

namespace ServiceGen

namespace Document

variable {d : Document} {s t u : Schema} {name : String} {names : List String}

/-- A schema is a reference to the component of a name, whose schema is `t`. -/
def Refers (d : Document) (s : Schema) (name : String) (t : Schema) : Prop :=
  ∃ reference, s.reference = some reference ∧
    Reference.componentName? .schemas reference = some name ∧
      d.components.schemas.get? name = some t

/-- A schema is a reference without a target. -/
def LeadsNowhere (d : Document) (s : Schema) : Prop :=
  s.reference.isSome ∧ ∀ name t, ¬ d.Refers s name t

/-- A chain of references from a schema to another, past the components of the given names. -/
inductive Chain (d : Document) : Schema → List String → Schema → Prop
  /-- A schema is a chain by itself. -/
  | here (s : Schema) : Chain d s [] s
  /-- A reference, and a chain from its target. -/
  | step {s t u : Schema} {name : String} {names : List String} (hrefers : d.Refers s name t)
      (hchain : Chain d t names u) : Chain d s (name :: names) u

/-- The chain of a schema leads to a reference without a target. -/
def LosesTarget (d : Document) (s : Schema) : Prop :=
  ∃ names t, d.Chain s names t ∧ d.LeadsNowhere t

/-- A chain cannot go on from a schema. -/
def Ends (d : Document) (s : Schema) : Prop :=
  ∀ name t, ¬ d.Refers s name t

/-! ### Single references -/

/-- A schema is no reference, or it refers to a component, or it leads nowhere. -/
theorem reference_cases (d : Document) (s : Schema) :
    s.reference = none ∨ (∃ name t, d.Refers s name t) ∨ d.LeadsNowhere s := by
  by_cases hrefers : ∃ name t, d.Refers s name t
  · exact Or.inr (Or.inl hrefers)
  · cases hreference : s.reference with
    | none => exact Or.inl rfl
    | some reference =>
        refine Or.inr (Or.inr ⟨by simp [hreference], fun name t h => hrefers ⟨name, t, h⟩⟩)

/-- A schema that is no reference is its own end. -/
theorem ends_of_reference_eq_none (h : s.reference = none) : d.Ends s := by
  rintro name t ⟨reference, hreference, -⟩
  rw [h] at hreference
  cases hreference

/-- What leads nowhere is a reference. -/
theorem LeadsNowhere.reference_ne_none (h : d.LeadsNowhere s) : s.reference ≠ none := by
  intro hnone
  have hsome := h.1
  rw [hnone] at hsome
  cases hsome

/-- A schema refers to one component, and a component has one schema. -/
theorem Refers.unique {name' : String} {t' : Schema} (h : d.Refers s name t)
    (h' : d.Refers s name' t') : name = name' ∧ t = t' := by
  obtain ⟨reference, hreference, hname, hget⟩ := h
  obtain ⟨reference', hreference', hname', hget'⟩ := h'
  obtain rfl : reference = reference' := Option.some.inj (hreference.symm.trans hreference')
  obtain rfl : name = name' := Option.some.inj (hname.symm.trans hname')
  exact ⟨rfl, Option.some.inj (hget.symm.trans hget')⟩

/-- What a schema refers to is the schema of the component. -/
theorem Refers.get?_eq_some (h : d.Refers s name t) : d.components.schemas.get? name = some t := by
  obtain ⟨-, -, -, hget⟩ := h
  exact hget

/-- A name refers to one component only. -/
theorem Refers.target_unique {s' t' : Schema} (h : d.Refers s name t)
    (h' : d.Refers s' name t') : t = t' :=
  Option.some.inj (h.get?_eq_some.symm.trans h'.get?_eq_some)

/-! ### Ends of chains -/

/-- References between schemas. -/
theorem referential_refers (d : Document) : Referential d.Refers :=
  ⟨Refers.unique, Refers.target_unique⟩

/-- A chain is a way along references. -/
theorem chain_iff_way : d.Chain s names t ↔ Way d.Refers s names t := by
  constructor
  · intro h
    induction h with
    | here s => exact .here s
    | step hrefers hchain ih => exact .step hrefers ih
  · intro h
    induction h with
    | here s => exact .here s
    | step hrefers hway ih => exact .step hrefers ih

/-- Chains that cannot go on have one end, past one list of components. -/
theorem Chain.eq_of_ends {names' : List String} {t' : Schema} (h : d.Chain s names t)
    (h' : d.Chain s names' t') (ht : d.Ends t) (ht' : d.Ends t') : names = names' ∧ t = t' := by
  rw [chain_iff_way] at h h'
  exact h.eq_of_forall_not d.referential_refers ht h' ht'

/-- **A chain that cannot go on comes to no component twice.** -/
theorem Chain.nodup_of_ends (h : d.Chain s names t) (ht : d.Ends t) : names.Nodup :=
  (chain_iff_way.mp h).nodup_of_forall_not d.referential_refers ht

/-- The chain of a schema leads to a schema that is no reference, or nowhere, but not both. -/
theorem Chain.not_losesTarget (h : d.Chain s names t) (ht : t.reference = none) :
    ¬ d.LosesTarget s := by
  rintro ⟨names', t', hchain, hnowhere⟩
  obtain ⟨-, rfl⟩ := h.eq_of_ends hchain (ends_of_reference_eq_none ht) hnowhere.2
  exact hnowhere.reference_ne_none ht

/-! ### Components -/

/-- A component that has a schema is among the components. -/
theorem mem_of_get?_eq_some {α : Type} {entries : Entries α} {value : α}
    (h : entries.get? name = some value) : (name, value) ∈ entries := by
  obtain ⟨before, after, rfl, -⟩ := List.lookup_eq_some_iff.mp h
  exact List.mem_append_right before List.mem_cons_self

/-- What is referred to has a component's name. -/
theorem Refers.mem_names (h : d.Refers s name t) : name ∈ d.components.schemas.names :=
  List.mem_map_of_mem (mem_of_get?_eq_some h.get?_eq_some)

end Document

namespace Resolver

open Document (Refers LeadsNowhere Chain LosesTarget)

variable {r : Resolver} {room : Nat} {active : List String} {s t : Schema} {name : String}
  {names : List String}

/-! ### Steps of a walk -/

/-- A reference has a target when its name is a component's. -/
theorem target?_eq_some_iff {reference : String} :
    r.target? reference = some (name, t) ↔
      Reference.componentName? .schemas reference = some name ∧
        r.document.components.schemas.get? name = some t := by
  simp only [target?, component?, Option.bind_eq_bind, Option.pure_def, Option.bind_eq_some_iff,
    Option.some.injEq, Prod.mk.injEq]
  constructor
  · rintro ⟨other, hother, schema, hschema, rfl, rfl⟩
    exact ⟨hother, hschema⟩
  · rintro ⟨hname, hget⟩
    exact ⟨name, hname, t, hget, rfl, rfl⟩

/-- A schema that is no reference is the end of a walk. -/
theorem follow_of_reference_eq_none (h : s.reference = none) :
    r.follow (room + 1) active s = .ok (.found s active) := by
  rw [follow, h]

/-- A walk goes on from the target of a reference, unless it was there before. -/
theorem follow_of_refers (h : r.document.Refers s name t) :
    r.follow (room + 1) active s =
      if active.contains name then .ok .endless else r.follow room (name :: active) t := by
  obtain ⟨reference, hreference, htarget⟩ := h
  simp only [follow, hreference, target?_eq_some_iff.mpr htarget]

/-- What comes of a reference without a target is a result only if the resolver is permissive. -/
theorem absent_eq_ok_iff {α : Type} {reference : String} {a b : α} :
    r.absent reference a = .ok b ↔ r.strict = false ∧ a = b := by
  rw [absent]
  cases r.strict <;> simp

/-- A walk ends at a reference without a target. -/
theorem exists_follow_eq_absent (h : r.document.LeadsNowhere s) (room : Nat)
    (active : List String) :
    ∃ reference, r.follow (room + 1) active s = r.absent reference .missing := by
  obtain ⟨reference, hreference⟩ := Option.isSome_iff_exists.mp h.1
  have htarget : r.target? reference = none := by
    rw [Option.eq_none_iff_forall_not_mem]
    rintro ⟨name, t⟩ hmem
    exact h.2 name t ⟨reference, hreference, target?_eq_some_iff.mp hmem⟩
  exact ⟨reference, by simp only [follow, hreference, htarget]⟩

/-! ### Walks -/

/-- **A chain past new components is followed**, one step of room for each of them. -/
theorem follow_of_chain (h : r.document.Chain s names t) (hnodup : names.Nodup)
    (hnew : ∀ name ∈ names, name ∉ active) :
    r.follow (names.length + room) active s = r.follow room (names.reverse ++ active) t := by
  induction h generalizing active with
  | here s => simp
  | @step s t u name names hrefers hchain ih =>
      obtain ⟨hname, hnodup⟩ := List.nodup_cons.mp hnodup
      have hlength : (name :: names).length + room = names.length + room + 1 := by
        rw [List.length_cons]
        omega
      have hcontains : active.contains name = false := by
        simpa using hnew name List.mem_cons_self
      rw [hlength, follow_of_refers hrefers, hcontains, if_neg Bool.false_ne_true,
        ih hnodup fun other hother hactive => ?_]
      · simp
      · rcases List.mem_cons.mp hactive with rfl | hactive
        · exact hname hother
        · exact hnew other (List.mem_cons_of_mem name hother) hactive

/-- What a walk from a schema has found, seen from the document. -/
inductive Followed (d : Document) (active : List String) (s : Schema) : Lookup → Prop
  /-- The end of a chain, past the components on it. -/
  | found {names : List String} {t : Schema} (hchain : d.Chain s names t)
      (hend : t.reference = none) : Followed d active s (.found t (names.reverse ++ active))
  /-- A reference without a target. -/
  | missing (hloses : d.LosesTarget s) : Followed d active s .missing
  /-- Nothing: it came back to a component, or there was no room. -/
  | endless : Followed d active s .endless

/-- **What a walk that was followed has found.** -/
theorem followed_of_follow_eq_ok {found : Lookup} (h : r.follow room active s = .ok found) :
    Followed r.document active s found := by
  induction room generalizing active s with
  | zero =>
      cases h
      exact .endless
  | succ room ih =>
      rcases r.document.reference_cases s with hnone | ⟨name, t, hrefers⟩ | hnowhere
      · rw [follow_of_reference_eq_none hnone] at h
        cases h
        exact .found (.here s) hnone
      · rw [follow_of_refers hrefers] at h
        split at h
        · cases h
          exact .endless
        · cases ih h with
          | @found names u hchain hend =>
              have hfound : Followed r.document active s
                  (.found u ((name :: names).reverse ++ active)) :=
                .found (.step hrefers hchain) hend
              simpa using hfound
          | missing hloses =>
              obtain ⟨names, u, hchain, hend⟩ := hloses
              exact .missing ⟨name :: names, u, .step hrefers hchain, hend⟩
          | endless => exact .endless
      · obtain ⟨reference, habsent⟩ := exists_follow_eq_absent hnowhere room active
        rw [habsent, absent_eq_ok_iff] at h
        obtain ⟨-, rfl⟩ := h
        exact .missing ⟨[], s, .here s, hnowhere⟩

/-- What a schema is resolved to is the end of its chain. -/
theorem chain_of_resolveWithin_eq_some (h : r.resolveWithin room s = .ok (some t)) :
    ∃ names, r.document.Chain s names t ∧ t.reference = none := by
  obtain ⟨found, hfound, h⟩ := Outcome.bind_eq_ok.mp h
  cases followed_of_follow_eq_ok hfound with
  | found hchain hend =>
      cases h
      exact ⟨_, hchain, hend⟩
  | missing hloses => cases h
  | endless => cases h

/-! ### What a branch contributes -/

/-- What a branch has contributed, seen from the document: what its chain leads to, flattened
where that is a composition. -/
inductive Contributed (d : Document)
    (flatten : List String → Schema → Except Failure (Option Schema)) (active : List String)
    (branch : Schema) : Contribution → Prop
  /-- A plain schema. -/
  | plain {names : List String} {t : Schema} (hchain : d.Chain branch names t)
      (hend : t.reference = none) (hplain : t.allOf = []) :
      Contributed d flatten active branch (.shape t)
  /-- What a composition is flattened to. -/
  | composition {names : List String} {t merged : Schema} (hchain : d.Chain branch names t)
      (hend : t.reference = none) (hcomposition : t.allOf ≠ [])
      (hmerged : flatten (names.reverse ++ active) t = .ok (some merged)) :
      Contributed d flatten active branch (.shape merged)
  /-- Nothing, as the target is missing. -/
  | nothing (hloses : d.LosesTarget branch) : Contributed d flatten active branch .nothing
  /-- Nothing, as the branch is blocked. -/
  | blocked : Contributed d flatten active branch .blocked

/-- **What a branch has contributed.** -/
theorem contributed_of_contributionWith_eq_ok
    {f : List String → Schema → Except Failure (Option Schema)} {c : Contribution}
    (h : r.contributionWith f room active s = .ok c) : Contributed r.document f active s c := by
  obtain ⟨found, hfound, h⟩ := Outcome.bind_eq_ok.mp h
  cases followed_of_follow_eq_ok hfound with
  | @found names t hchain hend =>
      dsimp only at h
      split at h
      · rename_i hplain
        cases h
        exact .plain hchain hend (List.isEmpty_iff.mp hplain)
      · rename_i hcomposition
        obtain ⟨merged, hmerged, h⟩ := Outcome.bind_eq_ok.mp h
        cases merged with
        | none =>
            cases h
            exact .blocked
        | some merged =>
            cases h
            exact .composition hchain hend (by simpa using hcomposition) hmerged
  | missing hloses =>
      cases h
      exact .nothing hloses
  | endless =>
      cases h
      exact .blocked

/-! ### What branches are merged to -/

/-- **What absorbing a branch keeps, merging branches keeps.** -/
theorem of_mergeBranches_eq_some {P : Schema → Prop}
    (habsorb : ∀ {acc} branch, P acc → P (acc.absorb branch))
    {contribution : Schema → Except Failure Contribution} {branches : List Schema}
    {acc merged : Schema} (hacc : P acc)
    (h : mergeBranches contribution branches acc = .ok (some merged)) : P merged := by
  induction branches generalizing acc with
  | nil =>
      cases h
      exact hacc
  | cons branch rest ih =>
      obtain ⟨c, -, h⟩ := Outcome.bind_eq_ok.mp h
      cases c with
      | shape schema => exact ih (habsorb schema hacc) h
      | nothing => exact ih hacc h
      | blocked => cases h

/-- A flattened composition is merged from its branches, and then from what stands beside them. -/
theorem exists_of_flatten_eq_some {merged : Schema}
    (h : r.flatten room active s = .ok (some merged)) :
    ∃ less found, mergeBranches (r.contribution less active) s.allOf {} = .ok (some found) ∧
      merged = (found.absorb { s with allOf := [] }).orObject := by
  cases room with
  | zero => cases h
  | succ room =>
      obtain ⟨found, hfound, h⟩ := Outcome.bind_eq_ok.mp h
      cases found with
      | none => cases h
      | some found =>
          cases h
          exact ⟨room, found, hfound, rfl⟩

end Resolver

end ServiceGen
