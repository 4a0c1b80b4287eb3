import ServiceGen.Proofs.Sequencing
import ServiceGen.Resolver

/-!
# Resolvers with Different Ceilings

A ceiling says how much room a walk has. Two resolvers of one document that treat references
without a target alike differ in nothing else, so their walks differ only where the room of one
is used up. There a walk has a result of its own, which says that nothing was found, and every
function that meets this result passes it on: no composition is made of fewer branches because
one of them is out of reach.

`Hides` relates an outcome with less room to that with more: they are the same, failures
included, or the first one is that result. The relation is kept by sequencing (`Hides.bind`), so
there is one lemma for each function that follows references, in the order of their
definitions.

## Main results

* `hides_resolveWithin`, `hides_concreteWithin`, `hides_mergeAllOf`: what less room hides.
* `eq_some_of_le`: **what is found under a ceiling** is found under every higher one, from
  every smaller depth.
-/

namespace ServiceGen

/-- A resolver of a document with a ceiling, permissive unless it is said to be strict. -/
def Document.resolver (d : Document) (ceiling : Nat) (strict : Bool := false) : Resolver where
  document := d
  maxDepth := ceiling
  strict := strict

namespace Resolver

/-- An outcome with less room beside that with more, where `nothing` is the result of a walk
whose room is used up. -/
inductive Hides {α : Type} (nothing : α) : Except Failure α → Except Failure α → Prop
  /-- For want of room nothing was found. -/
  | hidden (y : Except Failure α) : Hides nothing (.ok nothing) y
  /-- The outcomes are the same. -/
  | same (x : Except Failure α) : Hides nothing x x

variable {α β : Type}

/-! ### Sequencing -/

/-- **Sequencing keeps the relation**, where nothing comes of nothing. -/
theorem Hides.bind {nothing : α} {nothing' : β} {x y : Except Failure α}
    {f g : α → Except Failure β} (h : Hides nothing x y) (hf : ∀ a, Hides nothing' (f a) (g a))
    (hnothing : f nothing = .ok nothing') : Hides nothing' (x >>= f) (y >>= g) := by
  cases h with
  | hidden y =>
      have hbind : (Except.ok nothing >>= f) = .ok nothing' := hnothing
      rw [hbind]
      exact .hidden _
  | same x =>
      cases x with
      | error failure => exact .same _
      | ok a => exact hf a

/-- What was found with less room is found with more. -/
theorem Hides.eq_some {x y : Except Failure (Option α)} {a : α} (h : Hides none x y)
    (hx : x = .ok (some a)) : y = .ok (some a) := by
  cases h with
  | hidden y => cases hx
  | same x => exact hx

/-! ### Following references -/

variable {d : Document} {strict : Bool} {ceiling ceiling' room room' : Nat}

/-- Following a chain with more room changes the answer only where the chain had no end. -/
theorem hides_follow (h : room ≤ room') (active : List String) (schema : Schema) :
    Hides .endless ((d.resolver ceiling strict).follow room active schema)
      ((d.resolver ceiling' strict).follow room' active schema) := by
  induction room generalizing room' active schema with
  | zero => exact .hidden _
  | succ room ih =>
      obtain ⟨room', rfl⟩ := Nat.exists_eq_add_of_le' h
      rw [follow, ← Nat.add_assoc, follow]
      split
      · exact .same _
      · have htarget : (d.resolver ceiling' strict).target? = (d.resolver ceiling strict).target? :=
          rfl
        rw [htarget]
        split
        · exact .same _
        · split
          · exact .same _
          · exact ih (by omega) _ _

/-- A schema resolved with more room is the same, or was none before. -/
theorem hides_resolveWithin (h : room ≤ room') (schema : Schema) :
    Hides none ((d.resolver ceiling strict).resolveWithin room schema)
      ((d.resolver ceiling' strict).resolveWithin room' schema) := by
  rw [resolveWithin, resolveWithin]
  exact (hides_follow h [] schema).bind (fun found => .same _) rfl

/-- Branches merge to the same when each contributes the same or was blocked. -/
theorem hides_mergeBranches {f g : Schema → Except Failure Contribution}
    (h : ∀ branch, Hides .blocked (f branch) (g branch)) (branches : List Schema) (acc : Schema) :
    Hides none (mergeBranches f branches acc) (mergeBranches g branches acc) := by
  induction branches generalizing acc with
  | nil => exact .same _
  | cons branch rest ih =>
      rw [mergeBranches, mergeBranches]
      refine (h branch).bind (fun contribution => ?_) rfl
      cases contribution with
      | shape schema => exact ih _
      | nothing => exact ih _
      | blocked => exact .same _

/-- A branch contributes the same with more room, or was blocked. -/
theorem hides_contributionWith {f g : List String → Schema → Except Failure (Option Schema)}
    (hf : ∀ active schema, Hides none (f active schema) (g active schema)) (h : room ≤ room')
    (active : List String) (branch : Schema) :
    Hides .blocked ((d.resolver ceiling strict).contributionWith f room active branch)
      ((d.resolver ceiling' strict).contributionWith g room' active branch) := by
  rw [contributionWith, contributionWith]
  refine (hides_follow h active branch).bind (fun found => ?_) rfl
  cases found with
  | missing => exact .same _
  | endless => exact .same _
  | found schema active =>
      dsimp only
      split
      · exact .same _
      · exact (hf active schema).bind (fun merged => .same _) rfl

/-- A flattened schema is the same with more room, or was none before. -/
theorem hides_flatten (h : room ≤ room') (active : List String) (schema : Schema) :
    Hides none ((d.resolver ceiling strict).flatten room active schema)
      ((d.resolver ceiling' strict).flatten room' active schema) := by
  induction room generalizing room' active schema with
  | zero => exact .hidden _
  | succ room ih =>
      obtain ⟨room', rfl⟩ := Nat.exists_eq_add_of_le' h
      rw [flatten, ← Nat.add_assoc, flatten]
      have hroom : room ≤ room' + room := by omega
      refine (hides_mergeBranches (hides_contributionWith (fun active schema => ih hroom _ _)
        hroom active) _ _).bind (fun merged => .same _) rfl

/-- A concrete schema is the same with more room, or was none before. -/
theorem hides_concreteWithin (h : room ≤ room') (schema : Schema) :
    Hides none ((d.resolver ceiling strict).concreteWithin room schema)
      ((d.resolver ceiling' strict).concreteWithin room' schema) := by
  rw [concreteWithin, concreteWithin]
  refine (hides_follow h [] schema).bind (fun found => ?_) rfl
  cases found with
  | missing => exact .same _
  | endless => exact .same _
  | found target active =>
      dsimp only
      split
      · exact .same _
      · exact hides_flatten (Nat.sub_le_sub_right h 1) _ _

/-- An item of a section is the same with more room, or was none before. -/
theorem hides_followItem (h : room ≤ room') (target : Section) (items : Entries (RefOr α))
    (item : RefOr α) :
    Hides none ((d.resolver ceiling strict).followItem target items room item)
      ((d.resolver ceiling' strict).followItem target items room' item) := by
  induction room generalizing room' item with
  | zero => exact .hidden _
  | succ room ih =>
      obtain ⟨room', rfl⟩ := Nat.exists_eq_add_of_le' h
      rw [← Nat.add_assoc]
      cases item with
      | item value => exact .same _
      | reference reference =>
          rw [followItem, followItem]
          split
          · exact ih (by omega) _
          · exact .same _

/-! ### Ceilings -/

variable {depth depth' : Nat}

/-- A higher ceiling and a smaller depth leave no less room. -/
theorem room_le_room (d : Document) (strict : Bool) (hceiling : ceiling ≤ ceiling')
    (hdepth : depth' ≤ depth) :
    (d.resolver ceiling strict).room depth ≤ (d.resolver ceiling' strict).room depth' := by
  show ceiling + 1 - depth ≤ ceiling' + 1 - depth'
  omega

/-- Merging from a smaller depth below a higher ceiling gives the same, or gave none before. -/
theorem hides_mergeAllOf (hceiling : ceiling ≤ ceiling') (hdepth : depth' ≤ depth)
    (branches : List Schema) :
    Hides none ((d.resolver ceiling strict).mergeAllOf branches depth)
      ((d.resolver ceiling' strict).mergeAllOf branches depth') := by
  have hroom := room_le_room d strict hceiling hdepth
  rw [mergeAllOf, mergeAllOf]
  cases hless : (d.resolver ceiling strict).room depth with
  | zero => exact .hidden _
  | succ room =>
      cases hmore : (d.resolver ceiling' strict).room depth' with
      | zero => omega
      | succ room' =>
          have hle : room ≤ room' := by omega
          exact hides_mergeBranches
            (hides_contributionWith (fun _ _ => hides_flatten hle _ _) hle []) _ _

/-- **A ceiling can hide a schema but never alter one.** What is found under a ceiling from some
depth on, by following a schema, by flattening it or by merging branches, is found just so
under every higher ceiling and from every smaller depth. -/
theorem eq_some_of_le (hceiling : ceiling ≤ ceiling') (hdepth : depth' ≤ depth) (found : Schema) :
    (∀ schema, (d.resolver ceiling strict).resolve schema depth = .ok (some found) →
        (d.resolver ceiling' strict).resolve schema depth' = .ok (some found)) ∧
      (∀ schema, (d.resolver ceiling strict).concrete schema depth = .ok (some found) →
        (d.resolver ceiling' strict).concrete schema depth' = .ok (some found)) ∧
      (∀ branches, (d.resolver ceiling strict).mergeAllOf branches depth = .ok (some found) →
        (d.resolver ceiling' strict).mergeAllOf branches depth' = .ok (some found)) := by
  have hroom := room_le_room d strict hceiling hdepth
  refine ⟨fun schema h => ?_, fun schema h => ?_, fun branches h => ?_⟩
  · exact (hides_resolveWithin hroom schema).eq_some h
  · exact (hides_concreteWithin hroom schema).eq_some h
  · exact (hides_mergeAllOf hceiling hdepth branches).eq_some h

/-- A component `Book` that is composed of an alias of `Item` and of a property beside it. -/
def aliasedBook : Document where
  components := {
    schemas := [
      ("Item", { required := ["id"], properties := [("id", .ofType "integer")] }),
      ("Alias", .ofReference "#/components/schemas/Item"),
      ("Book", {
        allOf := [.ofReference "#/components/schemas/Alias"]
        properties := [("title", .ofType "string")] })] }

/-- The component `Book`, found with just enough room, is found so with more. -/
theorem eq_some_of_le_aliasedBook :
    ∃ found, (aliasedBook.resolver 5).concrete (.ofReference "#/components/schemas/Book") 1
        = .ok (some found) ∧
      (aliasedBook.resolver 9).concrete (.ofReference "#/components/schemas/Book") 0
        = .ok (some found) ∧
      found.properties.map (·.1) = ["id", "title"] := by
  refine ⟨_, rfl, ?_, ?_⟩
  · have hceiling : 5 ≤ 9 := by decide
    have hdepth : 0 ≤ 1 := by decide
    exact (eq_some_of_le hceiling hdepth _).2.1 _ rfl
  · rfl

end Resolver

end ServiceGen
