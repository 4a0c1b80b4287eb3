import ServiceGen.Datum

/-!
# What Readings Yield

`Yields` says what all values that a reading gives have in common, whatever the anchors and the
budget. It says nothing of whether there is such a value, so a refusal yields anything.

## Main results

* `Yields.bind`, `Yields.either`: readings that are put together.
* `yields_readOptional`, `yields_readList`, `yields_readEntries`: requests for collections yield
  what the readings of their members do.
* `yields_readNat`, `yields_readInt`: **numbers are within their bounds.**
-/

namespace ServiceGen

open Datum

variable {α β : Type}

/-! ### What readings yield -/

namespace Reading

variable {P : α → Prop} {Q : β → Prop} {m : Reading β} {f : β → Reading α}

/-- All that a reading gives has a property. -/
def Yields (P : α → Prop) (m : Reading α) : Prop :=
  ∀ anchors budget a left, m anchors budget = some (a, left) → P a

theorem yields_any {m : Reading α} : Yields (fun _ => True) m :=
  fun _ _ _ _ _ => trivial

theorem yields_pure {a : α} (h : P a) : Yields P (pure a) := by
  rintro anchors budget _ _ ⟨⟩
  exact h

theorem yields_refuse : Yields P refuse := by
  rintro anchors budget _ _ ⟨⟩

/-- **One reading after the other** gives what the second does. -/
theorem Yields.bind (hm : Yields Q m) (hf : ∀ b, Q b → Yields P (f b)) : Yields P (m >>= f) := by
  intro anchors budget a left h
  obtain ⟨⟨b, spent⟩, hb, ha⟩ := Option.bind_eq_some_iff.mp h
  exact hf b (hm _ _ _ _ hb) _ _ _ _ ha

/-- What comes first need not matter. -/
theorem yields_bind (hf : ∀ b, Yields P (f b)) : Yields P (m >>= f) :=
  yields_any.bind fun b _ => hf b

theorem yields_require {o : Option α} (h : ∀ a ∈ o, P a) : Yields P (require o) := by
  cases o with
  | none => exact yields_refuse
  | some a => exact yields_pure (h a rfl)

/-- Of two ways of reading, what either gives. -/
theorem Yields.either {first second : Reading α} (hfirst : Yields P first)
    (hsecond : Yields P second) : Yields P (either first second) := by
  intro anchors budget a left h
  rw [Datum.either] at h
  cases hread : first anchors budget with
  | none =>
      rw [hread] at h
      exact hsecond _ _ _ _ h
  | some found =>
      rw [hread] at h
      exact hfirst _ _ _ _ (hread.trans h)

/-- Readings one by one give what each of them gives. -/
theorem yields_mapM {read : β → Reading α} (h : ∀ b, Yields P (read b)) (xs : List β) :
    Yields (fun ys => ∀ y ∈ ys, P y) (xs.mapM read) := by
  induction xs with
  | nil => exact yields_pure (List.forall_mem_nil _)
  | cons x xs ih =>
      rw [List.mapM_cons]
      exact (h x).bind fun y hy => ih.bind fun ys hys =>
        yields_pure (List.forall_mem_cons.mpr ⟨hy, hys⟩)

section Requests

variable {read : Datum → Reading α} (h : ∀ d, Yields P (read d))
include h

/-- A field that may be missing is read, or is what stands for it. -/
theorem yields_fieldOr {fields : List (String × Datum)} {name : String} {missing : α}
    (hmissing : P missing) : Yields P (fieldOr fields name missing read) := by
  rw [fieldOr]
  split
  · exact h _
  · exact yields_pure hmissing

/-- A field is read, or nothing is given. -/
theorem yields_fieldOf {fields : List (String × Datum)} {name : String} :
    Yields P (fieldOf fields name read) := by
  rw [fieldOf]
  split
  · exact h _
  · exact yields_refuse

/-- An optional value is what is read of it. -/
theorem yields_readOptional (d : Datum) :
    Yields (fun found => ∀ a ∈ found, P a) (readOptional read d) := by
  have hsome : ∀ d, Yields (fun found => ∀ a ∈ found, P a) (do return some (← read d)) :=
    fun d => (h d).bind fun a ha => yields_pure (by simpa using ha)
  have hnone : Yields (fun found => ∀ a ∈ found, P a) (pure (none : Option α)) :=
    yields_pure (by simp)
  rw [readOptional]
  refine yields_bind fun d => ?_
  split
  · exact hnone
  · refine yields_bind fun absent => ?_
    split
    · exact hnone
    · exact hsome _
  · exact hsome _

/-- The items of a list are what is read of them. -/
theorem yields_readList (depth : Nat) (d : Datum) :
    Yields (fun xs => ∀ a ∈ xs, P a) (readList depth read d) := by
  rw [readList]
  refine yields_bind fun d => ?_
  split
  · split
    · exact yields_refuse
    · exact yields_mapM h _
  · split
    · exact yields_pure (List.forall_mem_nil _)
    · exact yields_refuse
  · exact yields_refuse

/-- The values of entries are what is read of them. -/
theorem yields_readEntries (depth : Nat) (d : Datum) :
    Yields (fun entries => ∀ entry ∈ entries, P entry.2) (readEntries depth read d) := by
  rw [readEntries]
  refine yields_bind fun d => ?_
  split
  · split
    · exact yields_refuse
    · refine yields_mapM (P := fun entry : String × α => P entry.2) (fun entry => ?_) _
      exact yields_bind fun name => (h _).bind fun a ha => yields_pure ha
  · split
    · exact yields_pure (List.forall_mem_nil _)
    · exact yields_refuse
  · exact yields_refuse

end Requests

/-! ### Numbers within bounds -/

/-- A natural number in a text is read within its bound. -/
theorem lt_of_mem_readNatural? {bound n : Nat} {text : String}
    (h : n ∈ Scalar.readNatural? bound text) : n < bound := by
  have hbelow : ∀ {found : Option Nat},
      (found.bind fun n => if n < bound then some n else none) = some n → n < bound := by
    intro found hfound
    obtain ⟨k, -, hk⟩ := Option.bind_eq_some_iff.mp hfound
    obtain ⟨hlt, ⟨⟩⟩ := Option.ite_none_right_eq_some.mp hk
    exact hlt
  rw [Option.mem_def, Scalar.readNatural?] at h
  split at h
  · obtain rfl := Option.some.inj h
    exact hbelow ‹_›
  · split at h
    · cases h
    · exact hbelow h

/-- A number with a minus sign is not positive, and within its bound. -/
theorem of_mem_readNegative? {bound : Nat} {i : Int} {text : String}
    (h : i ∈ Scalar.readNegative? bound text) : -(bound : Int) ≤ i ∧ i ≤ 0 := by
  have hwithin : ∀ {found : Option Nat},
      (found.bind fun n => if n ≤ bound then some (-(n : Int)) else none) = some i →
        -(bound : Int) ≤ i ∧ i ≤ 0 := by
    intro found hfound
    obtain ⟨k, -, hk⟩ := Option.bind_eq_some_iff.mp hfound
    obtain ⟨hle, ⟨⟩⟩ := Option.ite_none_right_eq_some.mp hk
    omega
  rw [Option.mem_def, Scalar.readNegative?] at h
  split at h
  · split at h
    · obtain rfl := Option.some.inj h
      exact hwithin ‹_›
    · split at h
      · cases h
      · exact hwithin h
  · cases h

/-- A natural number is read within its bound, whatever it is written as. -/
theorem yields_readNat (bound : Nat) (d : Datum) : Yields (· < bound) (readNat bound d) := by
  rw [readNat]
  refine yields_bind fun d => ?_
  split
  · split
    · exact yields_pure ‹_›
    · exact yields_refuse
  · split
    · rename_i i hi
      rw [Bool.and_eq_true, decide_eq_true_eq, decide_eq_true_eq] at hi
      exact yields_pure (by omega)
    · exact yields_refuse
  · split
    · exact yields_require fun n hn => lt_of_mem_readNatural? hn
    · exact yields_refuse
  · exact yields_refuse

/-- An integer fits in 64 bits. -/
def FitsInt (i : Int) : Prop :=
  -Nat.pow 2 63 ≤ i ∧ i < Nat.pow 2 63

/-- A natural number of 63 bits is an integer of 64. -/
theorem fitsInt_natCast {n : Nat} (h : n < Nat.pow 2 63) : FitsInt n :=
  ⟨by omega, Int.ofNat_lt.mpr h⟩

/-- An integer in a text is read within 64 bits. -/
theorem fitsInt_of_mem_readInteger? {i : Int} {text : String}
    (h : i ∈ Scalar.readInteger? text) : FitsInt i := by
  rw [Option.mem_def, Scalar.readInteger?] at h
  split at h
  · obtain rfl := Option.some.inj h
    obtain ⟨hlow, hhigh⟩ := of_mem_readNegative? ‹_›
    exact ⟨hlow, Int.lt_of_le_of_lt hhigh (by decide)⟩
  · obtain ⟨n, hn, rfl⟩ := Option.map_eq_some_iff.mp h
    exact fitsInt_natCast (lt_of_mem_readNatural? hn)

/-- An integer is read within 64 bits, whatever it is written as. -/
theorem yields_readInt (d : Datum) : Yields FitsInt (readInt d) := by
  rw [readInt]
  refine yields_bind fun d => ?_
  split
  · split
    · exact yields_pure (fitsInt_natCast ‹_›)
    · exact yields_refuse
  · split
    · rename_i i hi
      rw [Bool.and_eq_true, decide_eq_true_eq, decide_eq_true_eq] at hi
      exact yields_pure hi
    · exact yields_refuse
  · split
    · exact yields_require fun n hn => fitsInt_of_mem_readInteger? hn
    · exact yields_refuse
  · exact yields_refuse

end Reading

end ServiceGen
