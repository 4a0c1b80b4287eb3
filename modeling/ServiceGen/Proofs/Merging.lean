import Mathlib.Data.List.Induction
import ServiceGen.Proofs.Chains

/-!
# What a Composition Means

A composition is merged level by level: each branch that is a composition itself becomes one
schema first, and what stands beside the branches comes last. This module proves that the
levels leave no trace. The *leaves* of a composition (`Document.Leaves`) are the plain schemas
that its branches lead to, in order, each composition among them with its own part at its end;
and the merged schema says what the leaves say, one after the other (`Schema.Gathers`).

The first definition of a name wins at every level, so merging is associative: adding the names
of a merged list is adding the names of its parts in turn (`addNames_addNames`). What else a
merged schema could differ in from its leaves, a repeated name or an empty description, does not
show when it is absorbed (`Schema.StandsFor`).

## Main results

* `Gathers.absorb`: a branch that stands for some leaves is absorbed as these are.
* `Leaves.unique`: a composition has one sequence of leaves.
* `gathers_of_concrete_eq_some`: **a merged schema is the sum of its leaves.**
-/

namespace ServiceGen

namespace Schema

variable {s acc branch merged : Schema} {leaves more : List Schema}

/-! ### Names -/

/-- Names are added one list after the other. -/
theorem addNames_append (names xs ys : List String) :
    addNames names (xs ++ ys) = addNames (addNames names xs) ys := by
  induction xs generalizing names with
  | nil => rfl
  | cons x xs ih => exact ih _

/-- Adding names loses none and invents none. -/
theorem mem_addNames {names xs : List String} {name : String} :
    name ∈ addNames names xs ↔ name ∈ names ∨ name ∈ xs := by
  induction xs generalizing names with
  | nil => simp [addNames]
  | cons x xs ih =>
      rw [addNames, ih]
      split
      · rename_i hmem
        rw [List.contains_iff_mem] at hmem
        constructor
        · rintro (hname | hname)
          · exact Or.inl hname
          · exact Or.inr (List.mem_cons_of_mem x hname)
        · rintro (hname | hname)
          · exact Or.inl hname
          · rcases List.mem_cons.mp hname with rfl | hname
            · exact Or.inl hmem
            · exact Or.inr hname
      · simp [or_assoc]

/-- **Adding names is associative.** -/
theorem addNames_addNames (names xs ys : List String) :
    addNames names (addNames xs ys) = addNames (addNames names xs) ys := by
  induction ys generalizing xs with
  | nil => rfl
  | cons y ys ih =>
      rw [addNames, ih, addNames]
      congr 1
      by_cases hmem : y ∈ xs
      · rw [if_pos (List.contains_iff_mem.mpr hmem),
          if_pos (List.contains_iff_mem.mpr (mem_addNames.mpr (Or.inr hmem)))]
      · rw [if_neg (fun h => hmem (List.contains_iff_mem.mp h)), addNames_append]
        rfl

/-- Adding names to none keeps the first of each. -/
theorem addNames_nil (xs : List String) : addNames [] xs = xs.eraseDups := by
  induction xs using List.reverseRecOn with
  | nil => rfl
  | append_singleton xs x ih =>
      rw [addNames_append, ih, List.eraseDups_append, addNames]
      by_cases hmem : x ∈ xs
      · rw [if_pos (List.contains_iff_mem.mpr (List.mem_eraseDups.mpr hmem))]
        simp [addNames, List.removeAll, hmem]
      · rw [if_neg (fun h => hmem (List.mem_eraseDups.mp (List.contains_iff_mem.mp h)))]
        simp [addNames, List.removeAll, hmem, List.eraseDups_cons]

/-- Names with more are the first of each name of both. -/
theorem addNames_eraseDups (xs ys : List String) :
    addNames xs.eraseDups ys = (xs ++ ys).eraseDups := by
  rw [← addNames_nil, ← addNames_nil, addNames_append]

/-- Names that stand there twice are added once. -/
theorem addNames_of_eraseDups (names xs : List String) :
    addNames names xs.eraseDups = addNames names xs := by
  rw [← addNames_nil, addNames_addNames]
  rfl

/-! ### Properties -/

/-- Adding properties adds their names. -/
theorem map_addProperties (properties branch : List (String × Schema)) :
    (addProperties properties branch).map (·.1) =
      addNames (properties.map (·.1)) (branch.map (·.1)) := by
  induction branch generalizing properties with
  | nil => rfl
  | cons entry rest ih =>
      obtain ⟨name, schema⟩ := entry
      rw [addProperties, ih, List.map_cons, addNames]
      congr 1
      have hhas : Entries.has properties name = (properties.map (·.1)).contains name := by
        rw [Bool.eq_iff_iff, List.contains_iff_mem]
        simp [Entries.has]
      rw [hhas]
      split
      · rfl
      · simp

/-- **The first definition of a name wins.** -/
theorem lookup_addProperties (properties branch : List (String × Schema)) (name : String) :
    (addProperties properties branch).lookup name = (properties ++ branch).lookup name := by
  induction branch generalizing properties with
  | nil => rw [addProperties, List.append_nil]
  | cons entry rest ih =>
      obtain ⟨other, schema⟩ := entry
      rw [addProperties, ih]
      split
      · rename_i hhas
        rw [List.lookup_append, List.lookup_append]
        by_cases hname : name = other
        · subst hname
          have hsome : (properties.lookup name).isSome := by
            obtain ⟨entry, hentry, heq⟩ := List.any_eq_true.mp hhas
            exact List.lookup_isSome_iff.mpr
              ⟨entry, hentry, beq_iff_eq.mpr (eq_of_beq heq).symm⟩
          obtain ⟨value, hvalue⟩ := Option.isSome_iff_exists.mp hsome
          rw [hvalue, Option.some_or, Option.some_or]
        · rw [List.lookup_cons, beq_eq_false_iff_ne.mpr hname]
      · rw [List.append_assoc]
        rfl

/-! ### Merged schemas -/

/-- What a schema says about itself, if anything. -/
def remark? (s : Schema) : Option String :=
  s.description.filter fun text => !text.isEmpty

/-- What stands beside the branches of a composition. -/
def own (s : Schema) : Schema :=
  { s with allOf := [] }

/-- A merged schema says what its leaves say, one after the other. -/
structure Gathers (merged : Schema) (leaves : List Schema) : Prop where
  /-- Each name of a property stands once, in the order of the first definitions. -/
  names : merged.properties.map (·.1) = ((leaves.flatMap (·.properties)).map (·.1)).eraseDups
  /-- A property has its first definition. -/
  definitions : ∀ name, merged.properties.lookup name =
    (leaves.flatMap (·.properties)).lookup name
  /-- What any leaf requires is required once. -/
  required : merged.required = (leaves.flatMap (·.required)).eraseDups
  /-- The first description that says something is the description. -/
  description : merged.description = leaves.findSome? remark?

/-- A branch adds to a schema what some leaves add to it. -/
structure StandsFor (branch : Schema) (leaves : List Schema) : Prop where
  /-- The same names. -/
  names : ∀ names, addNames names (branch.properties.map (·.1)) =
    addNames names ((leaves.flatMap (·.properties)).map (·.1))
  /-- The same definitions. -/
  definitions : ∀ name, branch.properties.lookup name =
    (leaves.flatMap (·.properties)).lookup name
  /-- The same requirements. -/
  required : ∀ names, addNames names branch.required =
    addNames names (leaves.flatMap (·.required))
  /-- The same description. -/
  remark : branch.remark? = leaves.findSome? remark?

/-- A schema stands for itself. -/
theorem standsFor_self (s : Schema) : StandsFor s [s] := by
  refine ⟨fun names => ?_, fun name => ?_, fun names => ?_, ?_⟩
  · simp
  · simp
  · simp
  · cases hremark : s.remark? <;> simp [hremark]

/-- A remark is a description that is not empty. -/
theorem of_remark?_eq_some {text : String} (h : s.remark? = some text) :
    s.description = some text ∧ text.isEmpty = false := by
  rw [remark?, Option.filter_eq_some_iff] at h
  simpa using h

/-- A description that is gathered says something. -/
theorem Gathers.remark?_eq (h : merged.Gathers leaves) : merged.remark? = merged.description := by
  rw [remark?, h.description]
  cases hfound : leaves.findSome? remark? with
  | none => rfl
  | some text =>
      obtain ⟨leaf, -, hleaf⟩ := List.exists_of_findSome?_eq_some hfound
      simp [(of_remark?_eq_some hleaf).2]

/-- A merged schema stands for its leaves. -/
theorem Gathers.standsFor (h : merged.Gathers leaves) : merged.StandsFor leaves := by
  refine ⟨fun names => ?_, h.definitions, fun names => ?_, ?_⟩
  · rw [h.names, addNames_of_eraseDups]
  · rw [h.required, addNames_of_eraseDups]
  · rw [h.remark?_eq, h.description]

/-- Nothing has been gathered at first. -/
theorem gathers_nil : Gathers {} [] :=
  ⟨rfl, fun _ => rfl, rfl, rfl⟩

/-- A description that says something stays, and another takes its place otherwise. -/
theorem description_absorb (h : acc.remark? = acc.description) :
    (acc.absorb branch).description = acc.description.or branch.remark? := by
  rw [Schema.absorb]
  dsimp only
  cases hdescription : acc.description with
  | none =>
      cases hbranch : branch.description with
      | none => simp [remark?, hbranch]
      | some text =>
          by_cases hempty : text.isEmpty <;> simp [remark?, hbranch, hempty, Option.filter]
  | some text =>
      rw [hdescription] at h
      have hnonempty := (of_remark?_eq_some h).2
      simp [hnonempty]

/-- **A branch that stands for some leaves is absorbed as these are.** -/
theorem Gathers.absorb (h : acc.Gathers leaves) (hbranch : branch.StandsFor more) :
    (acc.absorb branch).Gathers (leaves ++ more) := by
  refine ⟨?_, fun name => ?_, ?_, ?_⟩
  · show (addProperties acc.properties branch.properties).map (·.1) = _
    rw [map_addProperties, hbranch.names, h.names, addNames_eraseDups, List.flatMap_append,
      List.map_append]
  · show (addProperties acc.properties branch.properties).lookup name = _
    rw [lookup_addProperties, List.lookup_append, h.definitions, hbranch.definitions,
      List.flatMap_append, List.lookup_append]
  · show addNames acc.required branch.required = _
    rw [hbranch.required, h.required, addNames_eraseDups, List.flatMap_append]
  · rw [description_absorb h.remark?_eq, h.description, hbranch.remark, List.findSome?_append]

/-- An object by default gathers what it did before. -/
theorem Gathers.orObject (h : merged.Gathers leaves) : merged.orObject.Gathers leaves := by
  rw [Schema.orObject]
  split
  · exact ⟨h.names, h.definitions, h.required, h.description⟩
  · exact h

/-! ### Types -/

/-- A schema has no type, or one that says something. -/
def TypeSays (s : Schema) : Prop :=
  s.type = none ∨ s.primaryType?.isSome

/-- Only a type that says something is absorbed. -/
theorem TypeSays.absorb (h : acc.TypeSays) (branch : Schema) : (acc.absorb branch).TypeSays := by
  rw [TypeSays, Schema.absorb, primaryType?]
  dsimp only
  split
  · rename_i htake
    rw [Bool.and_eq_true] at htake
    exact Or.inr htake.2
  · exact h

/-- An object by default has a type. -/
theorem TypeSays.primaryType?_orObject (h : s.TypeSays) : s.orObject.primaryType?.isSome := by
  have hobject : (SchemaType.single "object").primary?.isSome := by decide
  rw [Schema.orObject]
  split
  · exact hobject
  · rename_i hsome
    rcases h with hnone | htype
    · exact absurd (by simp [hnone]) hsome
    · exact htype

end Schema

namespace Document

variable {d : Document}

/-- The leaves of some branches, in order: the plain schemas that they lead to, and for each
composition that they lead to its own leaves and what stands beside its branches. A branch
whose target is missing has none. -/
inductive Leaves (d : Document) : List Schema → List Schema → Prop
  /-- No branches have no leaves. -/
  | nil : Leaves d [] []
  /-- A branch whose target is missing. -/
  | missing {branch : Schema} {rest leaves : List Schema} (hloses : d.LosesTarget branch)
      (hrest : Leaves d rest leaves) : Leaves d (branch :: rest) leaves
  /-- A branch that leads to a plain schema. -/
  | plain {branch t : Schema} {names : List String} {rest leaves : List Schema}
      (hchain : d.Chain branch names t) (hend : t.reference = none) (hplain : t.allOf = [])
      (hrest : Leaves d rest leaves) : Leaves d (branch :: rest) (t :: leaves)
  /-- A branch that leads to a composition. -/
  | composition {branch t : Schema} {names : List String} {rest inner leaves : List Schema}
      (hchain : d.Chain branch names t) (hend : t.reference = none)
      (hcomposition : t.allOf ≠ []) (hinner : Leaves d t.allOf inner)
      (hrest : Leaves d rest leaves) :
      Leaves d (branch :: rest) (inner ++ t.own :: leaves)

/-- **Branches have one sequence of leaves.** -/
theorem Leaves.unique {branches leaves leaves' : List Schema} (h : d.Leaves branches leaves)
    (h' : d.Leaves branches leaves') : leaves = leaves' := by
  induction h generalizing leaves' with
  | nil =>
      cases h'
      rfl
  | missing hloses hrest ih =>
      cases h' with
      | missing hloses' hrest' => exact ih hrest'
      | plain hchain' hend' => exact absurd hloses (hchain'.not_losesTarget hend')
      | composition hchain' hend' => exact absurd hloses (hchain'.not_losesTarget hend')
  | plain hchain hend hplain hrest ih =>
      cases h' with
      | missing hloses' hrest' => exact absurd hloses' (hchain.not_losesTarget hend)
      | plain hchain' hend' hplain' hrest' =>
          obtain ⟨-, rfl⟩ := hchain.eq_of_ends hchain' (ends_of_reference_eq_none hend)
            (ends_of_reference_eq_none hend')
          rw [ih hrest']
      | composition hchain' hend' hcomposition' =>
          obtain ⟨-, rfl⟩ := hchain.eq_of_ends hchain' (ends_of_reference_eq_none hend)
            (ends_of_reference_eq_none hend')
          exact absurd hplain hcomposition'
  | composition hchain hend hcomposition hinner hrest ihinner ih =>
      cases h' with
      | missing hloses' hrest' => exact absurd hloses' (hchain.not_losesTarget hend)
      | plain hchain' hend' hplain' =>
          obtain ⟨-, rfl⟩ := hchain.eq_of_ends hchain' (ends_of_reference_eq_none hend)
            (ends_of_reference_eq_none hend')
          exact absurd hplain' hcomposition
      | composition hchain' hend' hcomposition' hinner' hrest' =>
          obtain ⟨-, rfl⟩ := hchain.eq_of_ends hchain' (ends_of_reference_eq_none hend)
            (ends_of_reference_eq_none hend')
          rw [ihinner hinner', ih hrest']

end Document

namespace Resolver

variable {r : Resolver} {room : Nat} {active : List String} {s t merged : Schema}

/-- The branches of a composition are merged to what their leaves say, if those that are
compositions are flattened to what theirs say. -/
theorem gathers_of_mergeBranches {f : List String → Schema → Except Failure (Option Schema)}
    (hflatten : ∀ active s merged, f active s = .ok (some merged) →
      ∃ leaves, r.document.Leaves s.allOf leaves ∧ merged.Gathers (leaves ++ [s.own]))
    {branches before : List Schema} {acc : Schema} (hacc : acc.Gathers before)
    (h : mergeBranches (r.contributionWith f room active) branches acc = .ok (some merged)) :
    ∃ leaves, r.document.Leaves branches leaves ∧ merged.Gathers (before ++ leaves) := by
  induction branches generalizing acc before with
  | nil =>
      cases h
      exact ⟨[], .nil, by simpa using hacc⟩
  | cons branch rest ih =>
      obtain ⟨c, hc, h⟩ := Outcome.bind_eq_ok.mp h
      cases contributed_of_contributionWith_eq_ok hc with
      | @plain names t hchain hend hplain =>
          obtain ⟨leaves, hleaves, hmerged⟩ := ih (hacc.absorb (Schema.standsFor_self t)) h
          exact ⟨t :: leaves, .plain hchain hend hplain hleaves, by simpa using hmerged⟩
      | @composition names t nested hchain hend hcomposition hnested =>
          obtain ⟨inner, hinner, hgathers⟩ := hflatten _ _ _ hnested
          obtain ⟨leaves, hleaves, hmerged⟩ := ih (hacc.absorb hgathers.standsFor) h
          exact ⟨inner ++ t.own :: leaves,
            .composition hchain hend hcomposition hinner hleaves, by simpa using hmerged⟩
      | nothing hloses =>
          obtain ⟨leaves, hleaves, hmerged⟩ := ih hacc h
          exact ⟨leaves, .missing hloses hleaves, hmerged⟩
      | blocked => cases h

/-- **A flattened composition says what its leaves say**, then what stands beside its
branches. -/
theorem gathers_of_flatten_eq_some (h : r.flatten room active s = .ok (some merged)) :
    ∃ leaves, r.document.Leaves s.allOf leaves ∧ merged.Gathers (leaves ++ [s.own]) := by
  induction room generalizing active s merged with
  | zero => cases h
  | succ room ih =>
      obtain ⟨found, hfound, h⟩ := Outcome.bind_eq_ok.mp h
      cases found with
      | none => cases h
      | some found =>
          cases h
          obtain ⟨leaves, hleaves, hgathers⟩ := gathers_of_mergeBranches
            (fun active s merged hflatten => ih hflatten) Schema.gathers_nil hfound
          exact ⟨leaves, hleaves, (hgathers.absorb (Schema.standsFor_self s.own)).orObject⟩

/-- A flattened composition has a type. -/
theorem primaryType?_of_flatten_eq_some (h : r.flatten room active s = .ok (some merged)) :
    merged.primaryType?.isSome := by
  obtain ⟨less, found, hfound, rfl⟩ := exists_of_flatten_eq_some h
  have htype : found.TypeSays :=
    of_mergeBranches_eq_some (fun branch hacc => hacc.absorb branch) (Or.inl rfl) hfound
  exact (htype.absorb _).primaryType?_orObject

/-- **A merged schema is the sum of its leaves.** What a schema that leads to a composition is
flattened to, from any depth on and under any ceiling, has the properties, requirements and
description of the leaves of the composition, one after the other, and then of what stands
beside its branches; and it has a type. -/
theorem gathers_of_concrete_eq_some {depth : Nat} (hresolve : r.resolve s depth = .ok (some t))
    (hcomposition : t.allOf ≠ []) (h : r.concrete s depth = .ok (some merged)) :
    ∃ leaves, (∀ other, r.document.Leaves t.allOf other ↔ other = leaves) ∧
      merged.Gathers (leaves ++ [t.own]) ∧ merged.primaryType?.isSome := by
  obtain ⟨found, hfound, hresolve⟩ := Outcome.bind_eq_ok.mp hresolve
  rw [concrete, concreteWithin, hfound, Outcome.ok_bind] at h
  cases found with
  | missing => cases h
  | endless => cases h
  | found target active =>
      cases hresolve
      dsimp only at h
      rw [if_neg (by simpa using hcomposition)] at h
      obtain ⟨leaves, hleaves, hgathers⟩ := gathers_of_flatten_eq_some h
      refine ⟨leaves, fun other => ⟨fun hother => hother.unique hleaves, ?_⟩, hgathers,
        primaryType?_of_flatten_eq_some h⟩
      rintro rfl
      exact hleaves

/-- Components with a composition `Order`, whose first branch is one as well. That has an alias
and a missing target among its branches, and properties in common with the others. -/
def nestedOrder : Document where
  components := {
    schemas := [
      ("Item", {
        required := ["id"]
        properties := [("id", .ofType "integer"), ("name", .ofType "string")] }),
      ("Alias", .ofReference "#/components/schemas/Item"),
      ("Named", {
        allOf := [.ofReference "#/components/schemas/Missing",
          .ofReference "#/components/schemas/Alias"]
        required := ["name", "id"]
        description := some "Named"
        properties := [("name", .ofType "integer")] }),
      ("Order", {
        allOf := [.ofReference "#/components/schemas/Named",
          .ofReference "#/components/schemas/Item"]
        required := ["total"]
        description := some "Order"
        properties := [("total", .ofType "number")] })] }

/-- The component `Order` is merged from its leaves: `Item`, what stands beside the branches of
`Named`, `Item` once more, and what stands beside its own branches. -/
theorem gathers_of_concrete_eq_some_nestedOrder :
    ∃ t merged,
      resolve { document := nestedOrder } (.ofReference "#/components/schemas/Order") 0
        = .ok (some t) ∧ t.allOf ≠ [] ∧
      concrete { document := nestedOrder } (.ofReference "#/components/schemas/Order") 0
        = .ok (some merged) ∧
      (∃ leaves, (∀ other, nestedOrder.Leaves t.allOf other ↔ other = leaves) ∧
        merged.Gathers (leaves ++ [t.own]) ∧ merged.primaryType?.isSome) ∧
      merged.properties.map (·.1) = ["id", "name", "total"] ∧
        merged.required = ["id", "name", "total"] ∧ merged.description = some "Named" := by
  refine ⟨_, _, rfl, ?_, rfl, ?_, rfl, rfl, rfl⟩
  · exact List.cons_ne_nil _ _
  · have hresolve : resolve { document := nestedOrder }
        (.ofReference "#/components/schemas/Order") 0 = .ok (some _) := rfl
    exact gathers_of_concrete_eq_some hresolve (List.cons_ne_nil _ _) rfl

end Resolver

end ServiceGen
