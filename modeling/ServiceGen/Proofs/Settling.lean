import ServiceGen.Proofs.Compositions

/-!
# Walks That Settle

A walk settles on a result if it gives that result whenever it has enough room, whatever the ceiling
is that leaves it this room (`Resolver.Settles`). Settling passes from the steps of a walk to the
walk (`Settles.step`), so it is shown along the recursion of a walk, and a whole walk settles if its
recursion comes to an end without the ceiling.

Following a chain and flattening a composition do (`exists_settles_resolve`,
`exists_settles_concrete`): each stops at a component that is on its way already. A chain that ends
is followed to its end (`resolveWithin_of_chain`).
-/

namespace ServiceGen.Resolver

variable {α β : Type}

/-- **A walk settles** on a result: it gives that with enough room, under every ceiling that leaves
it so much. -/
def Settles (walk : Nat → Nat → Except Failure α) (a : α) : Prop :=
  ∃ enough, ∀ ceiling room, enough ≤ room → room ≤ ceiling + 1 → walk ceiling room = .ok a

/-! ### Steps -/

/-- A result that needs no room. -/
theorem Settles.pure (a : α) : Settles (fun _ _ => .ok a) a :=
  ⟨0, fun _ _ _ _ => rfl⟩

/-- What is made of the result of a walk settles as the walk does. -/
theorem Settles.map {walk : Nat → Nat → Except Failure α} {a : α} (h : Settles walk a)
    (f : α → β) : Settles (fun ceiling room => do return f (← walk ceiling room)) (f a) := by
  obtain ⟨enough, h⟩ := h
  refine ⟨enough, fun ceiling room hroom hceiling => ?_⟩
  have hwalk := h ceiling room hroom hceiling
  dsimp only
  rw [hwalk]
  rfl

/-- **A walk that goes on with another settles** if that does, where with enough room it goes on so
and the ceiling is above it. -/
theorem Settles.step {walk next : Nat → Nat → Except Failure α} {a : α} (h : Settles next a)
    (enough : Nat) (hstep : ∀ ceiling room, enough ≤ room → room ≤ ceiling →
      walk ceiling (room + 1) = next ceiling room) : Settles walk a := by
  obtain ⟨enough', h⟩ := h
  refine ⟨max enough enough' + 1, fun ceiling room hroom hceiling => ?_⟩
  obtain ⟨room, rfl⟩ := Nat.exists_eq_add_of_le' (Nat.le_trans (Nat.le_add_left 1 _) hroom)
  have hroom := Nat.le_of_add_le_add_right hroom
  rw [hstep ceiling room (le_of_max_le_left hroom) (Nat.le_of_add_le_add_right hceiling)]
  exact h ceiling room (le_of_max_le_right hroom) (Nat.le_of_succ_le hceiling)

/-- Walks from all elements of a list settle together. -/
theorem Settles.forall_mem {walk : β → Nat → Nat → Except Failure α} {result : β → α}
    {bs : List β} (h : ∀ b ∈ bs, Settles (walk b) (result b)) :
    ∃ enough, ∀ ceiling room, enough ≤ room → room ≤ ceiling + 1 →
      ∀ b ∈ bs, walk b ceiling room = .ok (result b) := by
  induction bs with
  | nil => exact ⟨0, by simp⟩
  | cons b bs ih =>
      rw [List.forall_mem_cons] at h
      obtain ⟨enough, hb⟩ := h.1
      obtain ⟨enough', hbs⟩ := ih h.2
      refine ⟨max enough enough', fun ceiling room hroom hceiling => ?_⟩
      exact List.forall_mem_cons.mpr ⟨hb ceiling room (le_of_max_le_left hroom) hceiling,
        hbs ceiling room (le_of_max_le_right hroom) hceiling⟩

/-! ### Walks that find something or nothing -/

/-- **A walk settles if less room only hides what it finds**: either it finds something with some
room, and then so with more, or it never does. -/
theorem exists_settles {walk : Nat → Nat → Except Failure (Option α)}
    (hok : ∀ ceiling room, ∃ found, walk ceiling room = .ok found)
    (hhides : ∀ ceiling ceiling' room room', room ≤ room' →
      Hides none (walk ceiling room) (walk ceiling' room')) : ∃ found, Settles walk found := by
  by_cases h : ∃ ceiling room a, walk ceiling room = .ok (some a)
  · obtain ⟨ceiling, room, a, ha⟩ := h
    exact ⟨some a, room, fun ceiling' room' hroom _ =>
      (hhides ceiling ceiling' room room' hroom).eq_some ha⟩
  · refine ⟨none, 0, fun ceiling room _ _ => ?_⟩
    obtain ⟨found, hfound⟩ := hok ceiling room
    cases found with
    | none => exact hfound
    | some a => exact absurd ⟨ceiling, room, a, hfound⟩ h

/-! ### Permissive resolvers -/

section Permissive

variable {r : Resolver} (hr : r.strict = false)
include hr

/-- A permissive resolver never fails to follow a chain. -/
theorem exists_resolveWithin_eq_ok (room : Nat) (s : Schema) :
    ∃ found, r.resolveWithin room s = .ok found := by
  have hs : s.Confined fun _ => True := fun _ _ => trivial
  have htolerates := tolerates_resolveWithin (r := r) (fun _ _ => trivial) room hs
  rw [permissive_eq_self hr] at htolerates
  exact htolerates.exists_ok

/-- A permissive resolver never fails to flatten. -/
theorem exists_concreteWithin_eq_ok (room : Nat) (s : Schema) :
    ∃ found, r.concreteWithin room s = .ok found := by
  have hs : s.Confined fun _ => True := fun _ _ => trivial
  have htolerates := tolerates_concreteWithin (r := r) (fun _ _ => trivial) room hs
  rw [permissive_eq_self hr] at htolerates
  exact htolerates.exists_ok

/-- A permissive resolver never fails to follow references to items. -/
theorem exists_followItem_eq_ok (target : Section) (items : Entries (RefOr α)) (room : Nat)
    (x : RefOr α) : ∃ found, r.followItem target items room x = .ok found := by
  induction room generalizing x with
  | zero => exact ⟨none, rfl⟩
  | succ room ih =>
      cases x with
      | item value => exact ⟨some value, rfl⟩
      | reference reference =>
          rw [followItem]
          split
          · exact ih _
          · exact ⟨none, absent_eq_ok_iff.mpr ⟨hr, rfl⟩⟩

end Permissive

variable {d : Document} {s t : Schema} {names : List String}

/-- **Following a chain settles.** -/
theorem exists_settles_resolve (d : Document) (s : Schema) :
    ∃ found, Settles (fun ceiling room => (d.resolver ceiling).resolveWithin room s) found := by
  exact exists_settles (fun ceiling room => exists_resolveWithin_eq_ok rfl room s)
    fun ceiling ceiling' room room' hroom => hides_resolveWithin hroom s

/-- What following a chain settles on is at the end of the chain. -/
theorem exists_chain_of_settles
    (h : Settles (fun ceiling room => (d.resolver ceiling).resolveWithin room s) (some t)) :
    ∃ names, d.Chain s names t ∧ t.reference = none := by
  obtain ⟨enough, h⟩ := h
  exact chain_of_resolveWithin_eq_some (h enough enough (Nat.le_refl _) (Nat.le_succ _))

/-- **Flattening settles.** -/
theorem exists_settles_concrete (d : Document) (s : Schema) :
    ∃ found, Settles (fun ceiling room => (d.resolver ceiling).concreteWithin room s) found := by
  exact exists_settles (fun ceiling room => exists_concreteWithin_eq_ok rfl room s)
    fun ceiling ceiling' room room' hroom => hides_concreteWithin hroom s

/-- **Following references to responses settles.** -/
theorem exists_settles_response (d : Document) (x : RefOr Response) :
    ∃ found, Settles (fun ceiling room =>
      (d.resolver ceiling).followItem .responses d.components.responses room x) found := by
  exact exists_settles (fun ceiling room => exists_followItem_eq_ok rfl _ _ room x)
    fun ceiling ceiling' room room' hroom => hides_followItem hroom _ _ x

/-- A chain that ends is followed to its end, with more room than there are references on it. -/
theorem resolveWithin_of_chain {r : Resolver} (h : r.document.Chain s names t)
    (hend : t.reference = none) {room : Nat} (hroom : names.length < room) :
    r.resolveWithin room s = .ok (some t) := by
  have hnodup := h.nodup_of_ends (Document.ends_of_reference_eq_none hend)
  obtain ⟨more, rfl⟩ : ∃ more, room = names.length + (more + 1) :=
    ⟨room - names.length - 1, by omega⟩
  rw [resolveWithin, follow_of_chain h hnodup (by simp), follow_of_reference_eq_none hend]
  rfl

end ServiceGen.Resolver
