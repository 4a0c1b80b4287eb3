import ServiceGen.Failure

/-!
# Sequencing

Inversion of sequenced steps. A sequence of outcomes succeeds if each of its steps does
(`Outcome.bind_eq_ok`). Work with a state runs step by step as well: `Stateful.runIn_bind`
says what a sequence does. Two properties of work pass from the steps to the sequence:
`Stateful.FailsOnly`, that every failure is of one kind, and `Stateful.Moves`, that the state
after it is related to the one before it. `Work` and `Generation` are both `Stateful`.
-/

namespace ServiceGen

/-! ### Outcomes -/

namespace Outcome

variable {ε α β : Type} {x : Except ε α} {f : α → Except ε β}

/-- A sequence goes on from a result. -/
theorem ok_bind (a : α) (f : α → Except ε β) : (Except.ok a >>= f) = f a := rfl

/-- A sequence succeeds if both steps do. -/
theorem bind_eq_ok {b : β} : x >>= f = .ok b ↔ ∃ a, x = .ok a ∧ f a = .ok b := by
  cases x with
  | error failure =>
      constructor
      · rintro ⟨⟩
      · rintro ⟨a, ⟨⟩, -⟩
  | ok a =>
      constructor
      · intro h
        exact ⟨a, rfl, h⟩
      · rintro ⟨_, ⟨⟩, h⟩
        exact h

/-- A result by itself succeeds with that result. -/
theorem pure_eq_ok {a b : α} : (pure a : Except ε α) = .ok b ↔ a = b :=
  Except.ok.injEq a b ▸ Iff.rfl

/-- What is computed of a result tells that there is one. -/
theorem exists_of_map_toOption {observe : α → β} {b : β}
    (h : x.toOption.map observe = some b) : ∃ a, x = .ok a ∧ observe a = b := by
  cases x with
  | error failure => cases h
  | ok a => exact ⟨a, rfl, Option.some.inj h⟩

/-- An optional result that is changed afterwards was there before. -/
theorem of_optionMap_eq_ok {x : Except ε (Option α)} {change : α → β} {b : β}
    (h : (do return (← x).map change) = Except.ok (some b)) :
    ∃ a, x = .ok (some a) ∧ change a = b := by
  obtain ⟨found, hfound, h⟩ := bind_eq_ok.mp h
  cases found with
  | none => cases h
  | some a => exact ⟨a, hfound, Option.some.inj (pure_eq_ok.mp h)⟩

/-- Work on all elements of a list fails as the work on one does. -/
theorem of_mapM_eq_error {P : ε → Prop} (h : ∀ a failure, f a = .error failure → P failure)
    {as : List α} {failure : ε} (hmap : as.mapM f = .error failure) : P failure := by
  induction as with
  | nil => cases hmap
  | cons a as ih =>
      rw [List.mapM_cons] at hmap
      cases hb : f a with
      | error other =>
          rw [hb] at hmap
          cases hmap
          exact h a failure hb
      | ok b =>
          rw [hb] at hmap
          cases hbs : as.mapM f with
          | error other =>
              rw [hbs] at hmap
              cases hmap
              exact ih hbs
          | ok bs =>
              rw [hbs] at hmap
              cases hmap

/-- The results of work on all elements of a list are results of the work on one. -/
theorem forall_of_mapM_eq_ok {P : β → Prop} (h : ∀ a b, f a = .ok b → P b) {as : List α}
    {bs : List β} (hmap : as.mapM f = .ok bs) : ∀ b ∈ bs, P b := by
  induction as generalizing bs with
  | nil =>
      cases hmap
      simp
  | cons a as ih =>
      rw [List.mapM_cons] at hmap
      obtain ⟨b, hb, hmap⟩ := bind_eq_ok.mp hmap
      obtain ⟨cs, hcs, hmap⟩ := bind_eq_ok.mp hmap
      cases hmap
      exact List.forall_mem_cons.mpr ⟨h a b hb, ih hcs⟩

/-- The results of work on all elements of a list, seen from the elements. -/
theorem map_of_mapM_eq_ok {γ : Type} {p : β → γ} {q : α → γ}
    (h : ∀ a b, f a = .ok b → p b = q a) {as : List α} {bs : List β}
    (hmap : as.mapM f = .ok bs) : bs.map p = as.map q := by
  induction as generalizing bs with
  | nil =>
      cases hmap
      rfl
  | cons a as ih =>
      rw [List.mapM_cons] at hmap
      obtain ⟨b, hb, hmap⟩ := bind_eq_ok.mp hmap
      obtain ⟨cs, hcs, hmap⟩ := bind_eq_ok.mp hmap
      cases hmap
      rw [List.map_cons, List.map_cons, h a b hb, ih hcs]

end Outcome

/-! ### Work with a state -/

/-- Work that changes a state and may fail. -/
abbrev Stateful (σ : Type) := ExceptT Failure (StateM σ)

namespace Stateful

variable {σ α β : Type}

/-- What work gives in a state, and the state after it. -/
def runIn (work : Stateful σ α) (s : σ) : Except Failure α × σ :=
  (work.run).run s

/-- A sequence runs its second step in the state after the first, unless that failed. -/
theorem runIn_bind (work : Stateful σ α) (next : α → Stateful σ β) (s : σ) :
    runIn (work >>= next) s =
      match runIn work s with
      | (.ok a, s') => runIn (next a) s'
      | (.error failure, s') => (.error failure, s') := by
  rw [runIn, runIn, ExceptT.run_bind, StateT.run_bind]
  generalize (work.run).run s = outcome
  obtain ⟨result, s'⟩ := outcome
  cases result <;> rfl

/-- Looking at the state. -/
theorem runIn_get_bind (next : σ → Stateful σ α) (s : σ) :
    runIn (MonadState.get >>= next) s = runIn (next s) s := rfl

/-- Work after work that succeeds. -/
theorem runIn_bind_of_ok {work : Stateful σ α} {next : α → Stateful σ β} {s s' : σ} {a : α}
    (h : runIn work s = (.ok a, s')) : runIn (work >>= next) s = runIn (next a) s' := by
  rw [runIn_bind, h]

/-- A sequence succeeds if both steps do. -/
theorem runIn_bind_eq_ok {work : Stateful σ α} {next : α → Stateful σ β} {s t : σ} {b : β}
    (h : runIn (work >>= next) s = (.ok b, t)) :
    ∃ a s', runIn work s = (.ok a, s') ∧ runIn (next a) s' = (.ok b, t) := by
  rw [runIn_bind] at h
  generalize runIn work s = outcome at h
  obtain ⟨result, s'⟩ := outcome
  cases result with
  | ok a => exact ⟨a, s', rfl, h⟩
  | error failure => cases h

/-- The results of work on all elements of a list, seen from the elements. -/
theorem map_of_runIn_mapM {γ : Type} {f : α → Stateful σ β} {p : β → γ} {q : α → γ}
    (h : ∀ a b s t, runIn (f a) s = (.ok b, t) → p b = q a) {as : List α} {bs : List β}
    {s t : σ} (hmap : runIn (as.mapM f) s = (.ok bs, t)) : bs.map p = as.map q := by
  induction as generalizing bs s with
  | nil =>
      cases hmap
      rfl
  | cons a as ih =>
      rw [List.mapM_cons] at hmap
      obtain ⟨b, s₁, hb, hmap⟩ := runIn_bind_eq_ok hmap
      obtain ⟨cs, s₂, hcs, hmap⟩ := runIn_bind_eq_ok hmap
      cases hmap
      rw [List.map_cons, List.map_cons, h a b s s₁ hb, ih hcs]

/-- Work on all elements of a list that changes nothing gives all outcomes. -/
theorem runIn_mapM_of_unchanged {f : α → Stateful σ β} {outcome : α → Except Failure β} {s : σ}
    {as : List α} (h : ∀ a ∈ as, runIn (f a) s = (outcome a, s)) :
    runIn (as.mapM f) s = (as.mapM outcome, s) := by
  induction as with
  | nil => rfl
  | cons a as ih =>
      obtain ⟨hfirst, hothers⟩ := List.forall_mem_cons.mp h
      rw [List.mapM_cons, List.mapM_cons, runIn_bind, hfirst]
      cases outcome a with
      | error failure => rfl
      | ok b =>
          dsimp only
          rw [runIn_bind, ih hothers]
          cases as.mapM outcome <;> rfl

/-! ### Kinds of failures -/

/-- Every failure of some work satisfies a property. -/
def FailsOnly (P : Failure → Prop) (work : Stateful σ α) : Prop :=
  ∀ s failure s', runIn work s = (.error failure, s') → P failure

variable {P : Failure → Prop}

/-- A result by itself is no failure. -/
theorem FailsOnly.pure (a : α) : FailsOnly P (Pure.pure a : Stateful σ α) := by
  rintro s failure s' ⟨⟩

/-- Reading the state does not fail. -/
theorem FailsOnly.get : FailsOnly P (MonadState.get : Stateful σ σ) := by
  rintro s failure s' ⟨⟩

/-- Setting the state does not fail. -/
theorem FailsOnly.set (s : σ) : FailsOnly P (MonadStateOf.set s : Stateful σ PUnit) := by
  rintro s failure s' ⟨⟩

/-- A failure by itself. -/
theorem FailsOnly.throw {failure : Failure} (h : P failure) :
    FailsOnly P (MonadExcept.throw failure : Stateful σ α) := by
  rintro s failure s' ⟨⟩
  exact h

/-- **A sequence fails as its steps do.** -/
theorem FailsOnly.bind {work : Stateful σ α} {next : α → Stateful σ β}
    (hwork : FailsOnly P work) (hnext : ∀ a, FailsOnly P (next a)) :
    FailsOnly P (work >>= next) := by
  intro s failure t h
  rw [runIn_bind] at h
  cases houtcome : runIn work s with
  | mk result s' =>
      rw [houtcome] at h
      cases result with
      | ok a => exact hnext a s' failure t h
      | error other =>
          cases h
          exact hwork s failure t houtcome

/-- Work on all elements of a list fails as the work on one does. -/
theorem FailsOnly.mapM {f : α → Stateful σ β} (h : ∀ a, FailsOnly P (f a)) (as : List α) :
    FailsOnly P (as.mapM f) := by
  induction as with
  | nil => exact FailsOnly.pure []
  | cons a as ih =>
      rw [List.mapM_cons]
      exact (h a).bind fun b => ih.bind fun bs => FailsOnly.pure (b :: bs)

/-- A loop over a list fails as its body does. -/
theorem FailsOnly.forIn {f : α → β → Stateful σ (ForInStep β)}
    (h : ∀ a b, FailsOnly P (f a b)) (as : List α) (b : β) :
    FailsOnly P (ForIn.forIn as b f) := by
  induction as generalizing b with
  | nil => exact FailsOnly.pure b
  | cons a as ih =>
      rw [List.forIn_cons]
      refine (h a b).bind fun step => ?_
      cases step with
      | done b => exact FailsOnly.pure b
      | yield b => exact ih b

/-! ### What becomes of the state -/

/-- Work takes every state to one that is related to it, whether it fails or not. -/
def Moves (R : σ → σ → Prop) (work : Stateful σ α) : Prop :=
  ∀ s, R s (runIn work s).2

/-- What some work keeps is kept by its run. -/
theorem Moves.of_runIn {R : σ → σ → Prop} {work : Stateful σ α} (h : Moves R work)
    {outcome : Except Failure α} {s t : σ} (hrun : runIn work s = (outcome, t)) : R s t := by
  have hmoved := h s
  rwa [hrun] at hmoved

/-- A relation that adds up over steps. -/
structure Cumulative (R : σ → σ → Prop) : Prop where
  refl : ∀ s, R s s
  trans : ∀ {s t u}, R s t → R t u → R s u

/-- A relation between parts of the states adds up as well. -/
theorem Cumulative.comap {τ : Type} {R : τ → τ → Prop} (hR : Cumulative R) (part : σ → τ) :
    Cumulative fun s t => R (part s) (part t) where
  refl s := hR.refl (part s)
  trans h h' := hR.trans h h'

variable {R : σ → σ → Prop}

/-- A result by itself changes nothing. -/
theorem Moves.pure (hR : Cumulative R) (a : α) : Moves R (Pure.pure a : Stateful σ α) :=
  fun s => hR.refl s

/-- **A sequence moves the state as its steps do.** -/
theorem Moves.bind (hR : Cumulative R) {work : Stateful σ α} {next : α → Stateful σ β}
    (hwork : Moves R work) (hnext : ∀ a, Moves R (next a)) : Moves R (work >>= next) := by
  intro s
  rw [runIn_bind]
  have hfirst := hwork s
  cases houtcome : runIn work s with
  | mk result s' =>
      rw [houtcome] at hfirst
      cases result with
      | ok a => exact hR.trans hfirst (hnext a s')
      | error failure => exact hfirst

/-- Work on all elements of a list moves the state as the work on one does. -/
theorem Moves.mapM (hR : Cumulative R) {f : α → Stateful σ β} {as : List α}
    (h : ∀ a ∈ as, Moves R (f a)) : Moves R (as.mapM f) := by
  induction as with
  | nil => exact .pure hR []
  | cons a as ih =>
      rw [List.forall_mem_cons] at h
      rw [List.mapM_cons]
      exact .bind hR h.1 fun b => .bind hR (ih h.2) fun bs => .pure hR (b :: bs)

/-- A loop over a list moves the state as its body does. -/
theorem Moves.forIn (hR : Cumulative R) {f : α → β → Stateful σ (ForInStep β)} {as : List α}
    (h : ∀ a ∈ as, ∀ b, Moves R (f a b)) (b : β) : Moves R (ForIn.forIn as b f) := by
  induction as generalizing b with
  | nil => exact .pure hR b
  | cons a as ih =>
      rw [List.forall_mem_cons] at h
      rw [List.forIn_cons]
      refine .bind hR (h.1 b) fun step => ?_
      cases step with
      | done b => exact .pure hR b
      | yield b => exact ih h.2 b

end Stateful

end ServiceGen
