import ServiceGen.Proofs.Outlines
import ServiceGen.Proofs.UnlimitedWalks

/-!
# Walks through Responses

The walk to the shape of a response does not follow a reference again that it has followed in the
same role. That is enough for it to come to an end without a ceiling. A role is left for good, in a
role there are references to follow for the first time only as long as there are references in the
document, and between two of them the branches of choices get smaller. What a composition is
flattened to is no part of it, but neither a reference nor a composition either, so that the walk
leaves the role there or ends.

`Document.outline` is the same walk without limits: it has no ceiling, and keeps nothing of what it
has followed. Where the schema of the response reaches no cycle, the walk with limits never meets
one (`Document.Clear`), and comes to the same end.

## Main results

* `exists_answers`: **every walk has an end**, and which it is where no limit matters.
* `responseShape_settles`: **the outline of a response does not depend on the ceiling.**
-/

namespace ServiceGen

open Resolver (Settles OutlineSettles payload? page? ne_element_of_page?)

/-! ### Roles -/

/-- The rank of a role. A walk never goes back to a role of a higher one. -/
def Role.rank : Role → Nat
  | .top => 2
  | .payload => 1
  | .element => 0

variable {role : Role} {properties : List (String × Schema)}

/-- Elements come last among the roles. -/
theorem rank_element_lt (h : role ≠ .element) : Role.element.rank < role.rank := by
  cases role with
  | top => decide
  | payload => decide
  | element => exact absurd rfl h

/-- What a record wraps comes after it among the roles. -/
theorem rank_payload_lt {data : Schema} (h : payload? role properties = some data) :
    Role.payload.rank < role.rank := by
  cases role with
  | top => decide
  | payload => cases h
  | element => cases h

namespace Document

variable {d : Document} {typePrefix : String} {refName : Option String} {s t : Schema} {role : Role}
  {active : List (String × Role)} {o : Option ShapeOutline} {names : List String}

/-! ### The walk without limits -/

/-- The outline of the shape of a schema in a role, if the walk to it takes fewer than the given
steps. `refName` is the struct name of the reference that led to the schema. -/
def outline (d : Document) (typePrefix : String) :
    Nat → Option String → Schema → Role → Option (Option ShapeOutline)
  | 0, _, _, _ => none
  | steps + 1, refName, s, role =>
    let go := d.outline typePrefix steps
    match s.reference with
    | some reference => do
      match ← d.chainEnd steps s with
      | none => return none
      | some target => go (some (pascalCase (Reference.tailName reference))) target role
    | none =>
      if !s.allOf.isEmpty then do
        match ← d.flattened steps s with
        | none => return none
        | some merged => go refName merged role
      else if !s.oneOf.isEmpty || !s.anyOf.isEmpty then
        (s.oneOf ++ s.anyOf).findSomeM? fun branch => go none branch role
      else match s.kind with
        | .object properties =>
          match payload? role properties with
          | some data => go none data .payload
          | none =>
            match page? role properties with
            | some list => do
              match (← d.chainEnd steps list).bind Schema.elements? with
              | some items => return (← go none items .element).map ShapeOutline.asPage
              | none => return s.ownOutline? typePrefix refName role
            | none => some (s.ownOutline? typePrefix refName role)
        | .array (some items) =>
          if role = .element then some none
          else do return (← go none items .element).map ShapeOutline.asList
        | _ => some none

/-- The outline of a reference is that of the end of its chain, named after the reference. -/
theorem outline_of_reference {reference : String} (hreference : s.reference = some reference)
    (steps : Nat) :
    d.outline typePrefix (steps + 1) refName s role = (do
      match ← d.chainEnd steps s with
      | none => return none
      | some target =>
        d.outline typePrefix steps (some (pascalCase (Reference.tailName reference))) target
          role) := by
  rw [outline, hreference]

/-- The outline of a composition is that of what it is put together to. -/
theorem outline_of_composition (hend : s.reference = none) (hall : s.allOf ≠ []) (steps : Nat) :
    d.outline typePrefix (steps + 1) refName s role = (do
      match ← d.flattened steps s with
      | none => return none
      | some merged => d.outline typePrefix steps refName merged role) := by
  rw [outline, hend]
  exact if_pos (by simpa using hall)

/-- The outline of a choice is that of the first branch that has one. -/
theorem outline_of_choice (hend : s.reference = none) (hall : s.allOf = [])
    (hchoice : s.oneOf ++ s.anyOf ≠ []) (steps : Nat) :
    d.outline typePrefix (steps + 1) refName s role =
      (s.oneOf ++ s.anyOf).findSomeM? fun branch =>
        d.outline typePrefix steps none branch role := by
  rw [outline, hend]
  exact (if_neg (by simp [hall])).trans (if_pos (by simpa [or_iff_not_imp_left] using hchoice))

/-- The walk from an object goes on to its payload or to the elements of its list, or it ends. -/
theorem outline_of_object (hkind : s.kind = .object s.properties) (steps : Nat) :
    d.outline typePrefix (steps + 1) refName s role =
      match payload? role s.properties with
      | some data => d.outline typePrefix steps none data .payload
      | none =>
        match page? role s.properties with
        | some list => do
          match (← d.chainEnd steps list).bind Schema.elements? with
          | some items =>
            return (← d.outline typePrefix steps none items .element).map ShapeOutline.asPage
          | none => return s.ownOutline? typePrefix refName role
        | none => some (s.ownOutline? typePrefix refName role) := by
  obtain ⟨hend, hall, hone, hany⟩ := Schema.of_kind_eq_object hkind
  rw [outline, hend]
  simp only [hall, hone, hany, hkind, Bool.not_true, Bool.or_self, Bool.false_eq_true, if_false]

/-- The walk from what is no object goes on to its elements, if it is an array, or it ends. -/
theorem outline_of_plain (hplain : s.Plain) (hobject : ∀ properties, s.kind ≠ .object properties)
    (steps : Nat) :
    d.outline typePrefix (steps + 1) refName s role =
      match s.kind with
      | .array (some items) =>
        if role = .element then some none
        else do
          return (← d.outline typePrefix steps none items .element).map ShapeOutline.asList
      | _ => some none := by
  rw [outline, hplain.reference]
  simp only [hplain.allOf, hplain.oneOf, hplain.anyOf, List.isEmpty_nil, Bool.not_true,
    Bool.or_self, Bool.false_eq_true, if_false]
  cases hkind : s.kind with
  | object properties => exact absurd hkind (hobject properties)
  | array items => cases items <;> rfl
  | _ => rfl

/-- The walk to the first outline of branches comes to an end if those from all of them do. -/
theorem halts_findSomeM? {walk : Nat → Schema → Option (Option ShapeOutline)}
    {outline : Schema → Option ShapeOutline} {branches : List Schema}
    (h : ∀ branch ∈ branches, Halts (walk · branch) (outline branch)) :
    Halts (fun steps => branches.findSomeM? (walk steps)) (branches.findSome? outline) := by
  induction branches with
  | nil => exact Halts.pure none
  | cons branch rest ih =>
      obtain ⟨hbranch, hrest⟩ := List.forall_mem_cons.mp h
      simp only [List.findSomeM?, List.findSome?_cons]
      refine hbranch.bind ?_
      cases outline branch with
      | none => exact ih hrest
      | some found => exact Halts.pure (some found)

/-! ### Where no limit matters -/

/-- No limit matters on a walk that has come to a schema: it reaches no cycle, and what its own
references lead to is reached from each reference that was followed on the way. -/
structure Clear (d : Document) (active : List (String × Role)) (s : Schema) : Prop where
  acyclic : ¬ d.ReachesCycle s
  passed : ∀ key ∈ active, ∀ t, d.target? key.1 = some t → s.Confined (d.Reached t)

/-- What is enclosed leads back to nothing that the whole does not lead back to. -/
theorem Clear.encloses (h : d.Clear active s) (hencloses : d.Encloses s t) : d.Clear active t where
  acyclic := hencloses.not_reachesCycle h.acyclic
  passed := fun key hkey u hu => hencloses _ (d.closed_reached u) (h.passed key hkey u hu)

/-- A reference that is followed reaches all that is found at the end of its chain. -/
theorem Clear.followed (h : d.Clear active s) {reference : String}
    (hreference : s.reference = some reference) (hchain : d.Chain s names t)
    (hend : t.reference = none) : d.Clear ((reference, role) :: active) t := by
  have hclear := h.encloses (encloses_of_chain hchain)
  refine ⟨hclear.acyclic, List.forall_mem_cons.mpr ⟨fun u hu => ?_, hclear.passed⟩⟩
  cases hchain with
  | here => rw [hreference] at hend; cases hend
  | @step _ v _ name names hrefers hchain =>
      obtain ⟨other, hother, htarget⟩ := target?_of_refers hrefers
      obtain rfl : reference = other := Option.some.inj (hreference.symm.trans hother)
      obtain rfl : v = u := Option.some.inj (htarget.symm.trans hu)
      exact encloses_of_chain hchain _ (d.closed_reached v) (d.confined_reached v)

/-- **A reference that was followed before has no target**: otherwise it would lead back to that. -/
theorem Clear.target?_eq_none (h : d.Clear active s) {reference : String}
    (hreference : s.reference = some reference) (hactive : (reference, role) ∈ active) :
    d.target? reference = none := by
  refine Option.eq_none_iff_forall_ne_some.mpr fun t ht => h.acyclic ⟨t, ?_, ?_⟩
  · exact (d.confined_reached s).reference hreference t ht
  · exact (h.passed _ hactive t ht).reference hreference t ht

/-! ### Answers -/

/-- The outline of a schema is `o` with enough room, and without limits where none matters. -/
structure Answers (d : Document) (typePrefix : String) (refName : Option String) (s : Schema)
    (role : Role) (active : List (String × Role)) (o : Option ShapeOutline) : Prop where
  settles : OutlineSettles d typePrefix refName s role active o
  halts : d.Clear active s → Halts (d.outline typePrefix · refName s role) o

/-- **There is an answer for a reference** if there is one for its target, while it is followed. -/
theorem exists_answers_of_reference {reference : String}
    (hreference : s.reference = some reference)
    (ih : ∀ refName t, (reference, role) ∉ active → d.Encloses s t →
      ∃ o, d.Answers typePrefix refName t role ((reference, role) :: active) o) :
    ∃ o, d.Answers typePrefix refName s role active o := by
  by_cases hactive : (reference, role) ∈ active
  · refine ⟨none, Resolver.outlineSettles_of_mem hreference hactive, fun hclear => ?_⟩
    have hnone := hclear.target?_eq_none hreference hactive
    have hend : Halts (d.chainEnd · s) none := (Halts.pure none).step fun steps => by
      simp only [chainEnd, hreference, hnone]
    refine Halts.step ?_ (outline_of_reference hreference)
    exact hend.bind (Halts.pure none)
  · obtain ⟨found, hfound⟩ := Resolver.exists_settles_resolve d s
    have hend : d.Clear active s → Halts (d.chainEnd · s) found := fun hclear =>
      Resolver.halts_chainEnd_of_settles hfound hclear.acyclic
    cases found with
    | none =>
        refine ⟨none, Resolver.outlineSettles_of_resolve_none hreference hactive hfound,
          fun hclear => Halts.step ?_ (outline_of_reference hreference)⟩
        exact (hend hclear).bind (Halts.pure none)
    | some t =>
        obtain ⟨names, hchain, ht⟩ := Resolver.exists_chain_of_settles hfound
        obtain ⟨o, ho⟩ := ih (some (pascalCase (Reference.tailName reference))) t hactive
          (encloses_of_chain hchain)
        refine ⟨o, Resolver.outlineSettles_of_resolve_some hreference hactive hfound ho.settles,
          fun hclear => ?_⟩
        have hhalts := ho.halts (hclear.followed hreference hchain ht)
        exact ((hend hclear).bind hhalts).step (outline_of_reference hreference)

/-- **There is an answer for a composition** if there is one for what it is put together to. -/
theorem exists_answers_of_composition (hend : s.reference = none) (hall : s.allOf ≠ [])
    (ih : ∀ t, t.Plain → d.Encloses s t → ∃ o, d.Answers typePrefix refName t role active o) :
    ∃ o, d.Answers typePrefix refName s role active o := by
  obtain ⟨found, hfound⟩ := Resolver.exists_settles_concrete d s
  have hflattened : d.Clear active s → Halts (d.flattened · s) found := fun hclear =>
    Resolver.halts_flattened_of_settles hfound hclear.acyclic
  cases found with
  | none =>
      refine ⟨none, Resolver.outlineSettles_of_concrete_none hend hall hfound,
        fun hclear => Halts.step ?_ (outline_of_composition hend hall)⟩
      exact (hflattened hclear).bind (Halts.pure none)
  | some t =>
      have hencloses := Resolver.encloses_of_settles_concrete hfound
      obtain ⟨o, ho⟩ := ih t (Resolver.plain_of_settles_concrete hend hall hfound) hencloses
      refine ⟨o, Resolver.outlineSettles_of_concrete_some hend hall hfound ho.settles,
        fun hclear => ?_⟩
      have hhalts := ho.halts (hclear.encloses hencloses)
      exact ((hflattened hclear).bind hhalts).step (outline_of_composition hend hall)

/-- **There is an answer for a choice** if there is one for each branch. -/
theorem exists_answers_of_choice (hend : s.reference = none) (hall : s.allOf = [])
    (hchoice : s.oneOf ++ s.anyOf ≠ [])
    (ih : ∀ branch ∈ s.oneOf ++ s.anyOf, ∃ o, d.Answers typePrefix none branch role active o) :
    ∃ o, d.Answers typePrefix refName s role active o := by
  choose! outlines houtlines using ih
  refine ⟨_, Resolver.outlineSettles_of_choice hend hall hchoice
    fun branch hbranch => (houtlines branch hbranch).settles, fun hclear => ?_⟩
  have hbranches : ∀ branch ∈ s.oneOf ++ s.anyOf,
      Halts (d.outline typePrefix · none branch role) (outlines branch) := fun branch hbranch =>
    (houtlines branch hbranch).halts (hclear.encloses fun _ _ hs => hs.choice hbranch)
  exact (halts_findSomeM? hbranches).step (outline_of_choice hend hall hchoice)

/-- There is an answer for a record that wraps another if there is one for that. -/
theorem exists_answers_of_payload {data : Schema} (hkind : s.kind = .object s.properties)
    (hpayload : payload? role s.properties = some data)
    (ih : d.Encloses s data → ∃ o, d.Answers typePrefix none data .payload active o) :
    ∃ o, d.Answers typePrefix refName s role active o := by
  have hencloses : d.Encloses s data := fun _ _ hs =>
    hs.lookup (Resolver.lookup_of_payload? hpayload)
  obtain ⟨o, ho⟩ := ih hencloses
  refine ⟨o, Resolver.outlineSettles_of_payload hkind hpayload ho.settles, fun hclear => ?_⟩
  refine (ho.halts (hclear.encloses hencloses)).step fun steps => ?_
  rw [outline_of_object hkind, hpayload]

/-- There is an answer for a page if there is one for what it lists. -/
theorem exists_answers_of_page {list : Schema} (hkind : s.kind = .object s.properties)
    (hpayload : payload? role s.properties = none) (hpage : page? role s.properties = some list)
    (ih : ∀ items, d.Encloses s items → ∃ o, d.Answers typePrefix none items .element active o) :
    ∃ o, d.Answers typePrefix refName s role active o := by
  have hlist : d.Encloses s list := fun _ _ hs => hs.lookup (Resolver.lookup_of_page? hpage)
  obtain ⟨found, hfound⟩ := Resolver.exists_settles_resolve d list
  have hend : d.Clear active s → Halts (d.chainEnd · list) found := fun hclear =>
    Resolver.halts_chainEnd_of_settles hfound (hclear.encloses hlist).acyclic
  have hstep : ∀ steps, d.outline typePrefix (steps + 1) refName s role = (do
      match (← d.chainEnd steps list).bind Schema.elements? with
      | some items =>
        return (← d.outline typePrefix steps none items .element).map ShapeOutline.asPage
      | none => return s.ownOutline? typePrefix refName role) := fun steps => by
    rw [outline_of_object hkind, hpayload, hpage]
  cases hitems : found.bind Schema.elements? with
  | none =>
      refine ⟨_, Resolver.outlineSettles_of_page_none hkind hpayload hpage hfound hitems,
        fun hclear => ((hend hclear).bind ?_).step hstep⟩
      rw [hitems]
      exact Halts.pure _
  | some items =>
      obtain ⟨target, rfl, htarget⟩ := Option.bind_eq_some_iff.mp hitems
      obtain ⟨names, hchain, -⟩ := Resolver.exists_chain_of_settles hfound
      have hencloses : d.Encloses s items := (hlist.trans (encloses_of_chain hchain)).trans
        fun _ _ hs => hs.elements (Schema.kind_of_elements? htarget)
      obtain ⟨o, ho⟩ := ih items hencloses
      refine ⟨_, Resolver.outlineSettles_of_page hkind hpayload hpage hfound hitems ho.settles,
        fun hclear => ((hend hclear).bind ?_).step hstep⟩
      rw [hitems]
      exact (ho.halts (hclear.encloses hencloses)).map (Option.map ShapeOutline.asPage)

/-- There is an answer for an array if there is one for its elements. -/
theorem exists_answers_of_array {items : Schema} (hplain : s.Plain)
    (hkind : s.kind = .array (some items)) (hrole : role ≠ .element)
    (ih : d.Encloses s items → ∃ o, d.Answers typePrefix none items .element active o) :
    ∃ o, d.Answers typePrefix refName s role active o := by
  have hencloses : d.Encloses s items := fun _ _ hs => hs.elements hkind
  obtain ⟨o, ho⟩ := ih hencloses
  refine ⟨_, Resolver.outlineSettles_of_array hplain hkind hrole ho.settles, fun hclear => ?_⟩
  have hhalts := (ho.halts (hclear.encloses hencloses)).map (Option.map ShapeOutline.asList)
  refine hhalts.step fun steps => ?_
  rw [outline_of_plain hplain (by simp [hkind]), hkind]
  exact if_neg hrole

/-- A schema that is neither a reference nor composed of others has an answer, if what it encloses
has one in every role that is left. -/
theorem exists_answers_of_plain (hplain : s.Plain)
    (ih : ∀ t role', role'.rank < role.rank → d.Encloses s t →
      ∃ o, d.Answers typePrefix none t role' active o) :
    ∃ o, d.Answers typePrefix refName s role active o := by
  by_cases hobject : ∃ properties, s.kind = .object properties
  · obtain ⟨properties, hkind⟩ := hobject
    obtain rfl := Schema.properties_of_kind_eq_object hkind
    cases hpayload : payload? role s.properties with
    | some data =>
        exact exists_answers_of_payload hkind hpayload (ih data .payload (rank_payload_lt hpayload))
    | none =>
        cases hpage : page? role s.properties with
        | some list =>
            exact exists_answers_of_page hkind hpayload hpage fun items =>
              ih items .element (rank_element_lt (ne_element_of_page? hpage))
        | none =>
            refine ⟨_, Resolver.outlineSettles_of_record hkind hpayload hpage, fun _ => ?_⟩
            refine (Halts.pure _).step fun steps => ?_
            rw [outline_of_object hkind, hpayload, hpage]
  · have hobject : ∀ properties, s.kind ≠ .object properties := not_exists.mp hobject
    by_cases harray : ∃ items, role ≠ .element ∧ s.kind = .array (some items)
    · obtain ⟨items, hrole, hkind⟩ := harray
      exact exists_answers_of_array hplain hkind hrole (ih items .element (rank_element_lt hrole))
    · have hends : role = .element ∨ ∀ items, s.kind ≠ .array (some items) := by
        rw [or_iff_not_imp_left]
        exact fun hrole items hkind => harray ⟨items, hrole, hkind⟩
      refine ⟨none, Resolver.outlineSettles_of_kind hplain hobject hends, fun _ => ?_⟩
      refine (Halts.pure none).step fun steps => ?_
      rw [outline_of_plain hplain hobject]
      split
      · exact if_pos (hends.resolve_right fun h => h _ ‹_›)
      · rfl

/-! ### Every walk has an end -/

/-- The references that are left to a walk in a role. -/
def unfollowed (references : Finset String) (role : Role) (active : List (String × Role)) :
    Finset String :=
  references.filter fun reference => (reference, role) ∉ active

/-- With each reference that is followed, there are fewer left. -/
theorem card_unfollowed_lt {references : Finset String} {reference : String}
    (hmem : reference ∈ references) (hnew : (reference, role) ∉ active) :
    (unfollowed references role ((reference, role) :: active)).card
      < (unfollowed references role active).card := by
  refine Finset.card_lt_card ⟨?_, ?_⟩
  · intro other hother
    simp only [unfollowed, Finset.mem_filter, List.mem_cons, not_or] at hother ⊢
    exact ⟨hother.1, hother.2.2⟩
  · intro hsubset
    have hleft := hsubset (Finset.mem_filter.mpr ⟨hmem, hnew⟩)
    exact (Finset.mem_filter.mp hleft).2 List.mem_cons_self

/-- The branches of a choice are smaller than the schema. -/
theorem sizeOf_lt_of_mem_choice {branch : Schema} (h : branch ∈ s.oneOf ++ s.anyOf) :
    sizeOf branch < sizeOf s := by
  rcases List.mem_append.mp h with h | h
  all_goals
    have hlist := List.sizeOf_lt_of_mem h
    cases s
    simp only [Schema.mk.sizeOf_spec]
    dsimp only at hlist
    omega

/-- **Every schema has an answer** in every role, whatever cycles of references there are. -/
theorem exists_answers {references : Finset String}
    (hcomponents : ∀ link ∈ d.components.links, link.2 ∈ references) (typePrefix : String)
    (refName : Option String) (s : Schema) (role : Role) (active : List (String × Role))
    (hs : s.Confined (·.2 ∈ references)) : ∃ o, d.Answers typePrefix refName s role active o := by
  have hclosed : d.Closed (·.2 ∈ references) := closed_of_forall hcomponents
  have hlower : ∀ t role', role'.rank < role.rank → t.Confined (·.2 ∈ references) →
      ∃ o, d.Answers typePrefix none t role' active o := fun t role' hrank ht =>
    exists_answers hcomponents typePrefix none t role' active ht
  cases hreference : s.reference with
  | some reference =>
      refine exists_answers_of_reference hreference fun refName t hnew hencloses => ?_
      have hmem : reference ∈ references := hs.reference hreference
      have hless := card_unfollowed_lt hmem hnew
      exact exists_answers hcomponents typePrefix refName t role ((reference, role) :: active)
        (hencloses _ hclosed hs)
  | none =>
      by_cases hall : s.allOf = []
      · by_cases hchoice : s.oneOf ++ s.anyOf = []
        · obtain ⟨hone, hany⟩ := List.append_eq_nil_iff.mp hchoice
          have hplain : s.Plain := ⟨hreference, hall, hone, hany⟩
          exact exists_answers_of_plain hplain fun t role' hrank hencloses =>
            hlower t role' hrank (hencloses _ hclosed hs)
        · refine exists_answers_of_choice hreference hall hchoice fun branch hbranch => ?_
          have hless := sizeOf_lt_of_mem_choice hbranch
          exact exists_answers hcomponents typePrefix none branch role active (hs.choice hbranch)
      · refine exists_answers_of_composition hreference hall fun t hplain hencloses => ?_
        refine exists_answers_of_plain hplain fun u role' hrank hencloses' => ?_
        exact hlower u role' hrank ((hencloses.trans hencloses') _ hclosed hs)
termination_by (role.rank, (unfollowed references role active).card, sizeOf s)
decreasing_by
  · exact Prod.Lex.left _ _ hrank
  · exact Prod.Lex.right _ (Prod.Lex.right _ hless)
  · exact Prod.Lex.right _ (Prod.Lex.left _ _ hless)

/-- Every schema of a response has an answer. -/
theorem exists_answers_top (d : Document) (typePrefix : String) (s : Schema) :
    ∃ o, d.Answers typePrefix none s .top [] o := by
  let references := ((s.links ++ d.components.links).map (·.2)).toFinset
  have hmem : ∀ link ∈ s.links ++ d.components.links, link.2 ∈ references := fun link hlink =>
    List.mem_toFinset.mpr (List.mem_map_of_mem hlink)
  exact exists_answers (fun link hlink => hmem link (List.mem_append_right _ hlink)) typePrefix none
    s .top [] fun link hlink => hmem link (List.mem_append_left _ hlink)

end Document

/-- An outline with a description for where it has none. -/
def ShapeOutline.describe (outline : ShapeOutline) (description : Option String) : ShapeOutline :=
  { outline with description := outline.description.or description }

namespace Resolver

variable {d : Document} {op : Operation} {typePrefix : String} {ceiling : Nat}
  {entry : RefOr Response} {response : Response} {schema : Schema} {o : Option ShapeOutline}

/-- The outline of a response is that of its schema, with the description of the response. -/
theorem responseShape_outline (hentry : op.responses.get? "200" = some entry)
    (hresponse : (d.resolver ceiling).response entry 0 = .ok (some response))
    (hschema : jsonSchema? response.content = some schema)
    (houtline : (d.resolver ceiling).outlineWithin typePrefix ceiling none schema .top [] = .ok o) :
    ∃ shape, (d.resolver ceiling).responseShape op typePrefix = .ok shape ∧
      shape.map ResponseShape.outline = o.map (·.describe (lineOf? response.description)) := by
  obtain ⟨shape, hshape, rfl⟩ := outlineWithin_eq_ok.mp houtline
  have hroom : (d.resolver ceiling).room 1 = ceiling := rfl
  refine ⟨shape.map fun shape =>
    { shape with description := shape.description.or (lineOf? response.description) }, ?_, ?_⟩
  · rw [responseShape, hentry]
    dsimp only
    rw [hresponse, Outcome.ok_bind]
    dsimp only
    rw [hschema]
    dsimp only
    rw [hroom, hshape]
    rfl
  · cases shape <;> rfl

/-- An operation without a schema for its response has no shape. -/
theorem responseShape_eq_none {found : Option Response}
    (hentry : op.responses.get? "200" = some entry)
    (hresponse : (d.resolver ceiling).response entry 0 = .ok found)
    (hschema : found.bind (jsonSchema? ·.content) = none) :
    (d.resolver ceiling).responseShape op typePrefix = .ok none := by
  rw [responseShape, hentry]
  dsimp only
  rw [hresponse, Outcome.ok_bind]
  cases found with
  | none => rfl
  | some response =>
      rw [Option.bind_some] at hschema
      dsimp only
      rw [hschema]
      rfl

/-- **The outline of a response does not depend on the ceiling**, from some ceiling on, whatever
cycles of references there are. Where the schema of the response reaches none, the outline is that
of the walk without limits, which neither has a ceiling nor keeps the references it has followed. -/
theorem responseShape_settles (d : Document) (op : Operation) (typePrefix : String) :
    ∃ enough outline, ∀ ceiling, enough ≤ ceiling →
      (∃ shape, (d.resolver ceiling).responseShape op typePrefix = .ok shape ∧
        shape.map ResponseShape.outline = outline) ∧
      ∀ entry response schema, op.responses.get? "200" = some entry →
        (d.resolver ceiling).response entry 0 = .ok (some response) →
        jsonSchema? response.content = some schema → ¬ d.ReachesCycle schema →
        ∃ walked, Halts (d.outline typePrefix · none schema .top) walked ∧
          outline = walked.map (·.describe (lineOf? response.description)) := by
  cases hentry : op.responses.get? "200" with
  | none =>
      refine ⟨0, none, fun ceiling _ => ⟨⟨none, ?_, rfl⟩, by rintro entry response schema ⟨⟩⟩⟩
      rw [responseShape, hentry]
      rfl
  | some entry =>
      obtain ⟨found, enough, hfound⟩ := exists_settles_response d entry
      have hresponse : ∀ ceiling, enough ≤ ceiling →
          (d.resolver ceiling).response entry 0 = .ok found := fun ceiling hceiling =>
        hfound ceiling (ceiling + 1) (Nat.le_succ_of_le hceiling) (Nat.le_refl _)
      cases hschema : found.bind (jsonSchema? ·.content) with
      | none =>
          refine ⟨enough, none, fun ceiling hceiling => ⟨⟨none, ?_, rfl⟩, ?_⟩⟩
          · exact responseShape_eq_none hentry (hresponse ceiling hceiling) hschema
          · rintro other response schema ⟨⟩ hother hjson -
            obtain rfl := Except.ok.inj ((hresponse ceiling hceiling).symm.trans hother)
            rw [Option.bind_some, hjson] at hschema
            cases hschema
      | some schema =>
          obtain ⟨response, rfl, hjson⟩ := Option.bind_eq_some_iff.mp hschema
          obtain ⟨o, ⟨enough', houtline⟩, hhalts⟩ := d.exists_answers_top typePrefix schema
          refine ⟨max enough enough', o.map (·.describe (lineOf? response.description)),
            fun ceiling hceiling => ⟨?_, ?_⟩⟩
          · have hfound := hresponse ceiling (le_of_max_le_left hceiling)
            exact responseShape_outline hentry hfound hjson
              (houtline ceiling ceiling (le_of_max_le_right hceiling) (Nat.le_succ _))
          · rintro other response' schema' ⟨⟩ hother hjson' hacyclic
            have hfound := hresponse ceiling (le_of_max_le_left hceiling)
            obtain ⟨⟩ := Except.ok.inj (hfound.symm.trans hother)
            obtain rfl : schema = schema' := Option.some.inj (hjson.symm.trans hjson')
            exact ⟨o, hhalts ⟨hacyclic, by simp⟩, rfl⟩

/-- A component `Node` that is an envelope around itself. -/
def nested : Document where
  components := {
    schemas := [
      ("Node", {
        type := some (.single "object")
        properties := [("data", .ofReference "#/components/schemas/Node")] })] }

/-- The payload of a node is a node, and that is a record. -/
example : (nested.resolver 12).outlineWithin "Get" 12 none
    (.ofReference "#/components/schemas/Node") .top [] =
      .ok (some ⟨"Node", none, false, false, true, [("data", false)]⟩) := rfl

end Resolver

end ServiceGen
