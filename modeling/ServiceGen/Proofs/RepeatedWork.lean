import ServiceGen.Proofs.Conservation
import ServiceGen.Proofs.IndexLines

/-!
# Repeated Work

Work that has been done and is asked for again, after other work on the same files. Registering and
declaring change nothing then and say so (`runIn_changeFile_again`), and a file that was written is
skipped (`Writer.exists?_of_runIn_write`). Each of these needs to know what other work may do to the
files that it looks at.
-/

namespace ServiceGen

open Stateful (runIn Moves Cumulative)
open Workspace (Conserves cumulative_conserves Inside)
open Layout (wireNames indexNames helperNames fileNames ownNames moduleDirs)

/-! ### Changing a file again -/

namespace Registration

variable {change : String → Outcome × String} {outcome : Outcome} {w w' w'' : Workspace}
  {root path : String} {names : List String}

/-- What a change says of a file that it need not change. -/
def Answers (change : String → Outcome × String) (outcome : Outcome) : Option FileContent → Prop
  | none => outcome = .fileMissing
  | some (.text text) => (change text).1 = outcome ∧ outcome ≠ .inserted
  | some (.binary _) => False

/-- A change that is asked for again says that it was made, or what it said before. -/
def IsSettled (change : String → Outcome × String) : Prop :=
  ∀ text, (change (change text).2).1 = (change text).1.again

/-- What a change says of a text stays true of the next. -/
def SaysSame (change : String → Outcome × String) (text next : String) : Prop :=
  (change text).1 ≠ .inserted → (change next).1 = (change text).1

/-- The edits of a project that leave what a change says of a file. -/
def Respecting (names : List String) (change : String → Outcome × String) : EditRule :=
  fun others before text =>
    others = names → ∃ old, before = some (.text old) ∧ SaysSame change old text

/-- What was not inserted is reported the same again. -/
theorem Outcome.again_of_ne (h : outcome ≠ .inserted) : outcome.again = outcome := by
  cases outcome with
  | inserted => exact absurd rfl h
  | _ => rfl

theorem Outcome.again_ne_inserted (outcome : Outcome) : outcome.again ≠ .inserted := by
  cases outcome <;> decide

/-- A change that only answers leaves the file alone. -/
theorem runIn_changeFile_of_answers (h : Answers change outcome (w.file? path)) :
    runIn (changeFile path change) w = (.ok outcome, w) := by
  rw [runIn_changeFile]
  cases hfile : w.file? path with
  | none =>
      rw [hfile] at h
      rw [h]
  | some content =>
      rw [hfile] at h
      cases content with
      | binary bytes => cases h
      | text text =>
          dsimp only
          rw [if_neg (h.1 ▸ h.2), h.1]

/-- A change that was made is answered for. -/
theorem answers_of_runIn_changeFile (hempty : path.isEmpty = false) (hchange : IsSettled change)
    (h : runIn (changeFile path change) w = (.ok outcome, w')) :
    Answers change outcome.again (w'.file? path) := by
  obtain ⟨hsaid, htext, ⟨rfl, hkept⟩ | ⟨text, hfile, hinserted, hwrite⟩⟩ :=
    of_runIn_changeFile_eq_ok h
  · rw [Outcome.again_of_ne hkept]
    cases hfile : w'.file? path with
    | none => rwa [hfile] at hsaid
    | some content =>
        cases content with
        | binary bytes => exact absurd hfile (htext bytes)
        | text text =>
            rw [hfile] at hsaid
            exact ⟨hsaid.symm, hkept⟩
  · rw [hfile, said, hinserted] at hsaid
    rw [Workspace.file?_of_withText hempty hwrite, hsaid, ← hinserted]
    exact ⟨hchange text, Outcome.again_ne_inserted _⟩

/-- What is answered stays so while the file is edited. -/
theorem Answers.edits {A : EditRule} {place : List String} {before after : Option FileContent}
    (h : Answers change outcome before)
    (hA : ∀ before text, A place before text → ∃ old, before = some (.text old) ∧
      SaysSame change old text)
    (hedits : Edits A place before after) : Answers change outcome after := by
  induction hedits with
  | refl => exact h
  | tail _ hstep ih =>
      obtain ⟨text, hedit, rfl⟩ := hstep
      obtain ⟨old, rfl, hkeeps⟩ := hA _ text hedit
      exact ⟨(hkeeps (ih.1 ▸ ih.2)).trans ih.1, ih.2⟩

/-- **A change that is asked for again**, after other work on the project that leaves what it says,
changes nothing. -/
theorem runIn_changeFile_again (hpath : Inside root path names) (hchange : IsSettled change)
    (hrun : runIn (changeFile path change) w = (.ok outcome, w')) (hsettled : w'.Settled root)
    (hlater : Conserves root (Respecting names change) w' w'') :
    runIn (changeFile path change) w'' = (.ok outcome.again, w'') := by
  have hedits := (hlater hsettled).edits_file? (hpath.settled_iff.mpr hsettled)
  rw [hpath.place] at hedits
  have hanswers := answers_of_runIn_changeFile hpath.isEmpty_eq_false hchange hrun
  refine runIn_changeFile_of_answers (hanswers.edits (fun before text hedit => ?_) hedits)
  exact (below_append_iff (T := Respecting names change)).mp hedit rfl

/-! ### Declarations -/

/-- A declaration is inserted where no line declares the module. -/
theorem fst_declareModule_eq (text name : String) : (declareModule text name).1 =
    if (Text.lines text.toList).any (declares name) then .alreadyPresent else .inserted := by
  rw [declareModule_eq]
  split <;> rfl

/-- A declaration that is asked for again is there. -/
theorem isSettled_declareModule {name : String} (hname : '\n' ∉ name.toList) :
    IsSettled (declareModule · name) := by
  intro text
  rw [fst_declareModule_eq, if_pos (declared_declareModule_self text hname), fst_declareModule_eq]
  split <;> rfl

/-- Other declarations keep one. -/
theorem saysSame_declareModule {other : String} (hother : '\n' ∉ other.toList)
    (name text : String) : SaysSame (declareModule · name) text (declareModule text other).2 := by
  intro h
  rw [fst_declareModule_eq] at h ⊢
  by_cases hdeclared : (Text.lines text.toList).any (declares name) = true
  · rw [fst_declareModule_eq, if_pos hdeclared, if_pos (declared_declareModule hdeclared hother)]
  · rw [if_neg hdeclared] at h
    exact absurd rfl h

end Registration

/-! ### Writing a file again -/

namespace Writer

variable {path : String} {w w' : Workspace}

/-- A file that is said to be written has its content. -/
theorem file?_of_runIn_write (writer : Writer) {content : String} {force : Bool}
    (hempty : path.isEmpty = false)
    (h : runIn (writer.write path content force) w = (.ok .written, w')) :
    w'.file? path = some (.text (writer.contentFor path content)) := by
  rw [runIn_write] at h
  split at h
  · cases h
  · obtain ⟨_, made, -, h⟩ := Stateful.runIn_bind_eq_ok h
    obtain ⟨_, written, hwrite, h⟩ := Stateful.runIn_bind_eq_ok h
    cases h
    rw [Work.runIn_write] at hwrite
    cases htext : made.withText path (writer.contentFor path content) with
    | error fault =>
        rw [htext] at hwrite
        cases hwrite
    | ok final =>
        rw [htext] at hwrite
        cases hwrite
        exact Workspace.file?_of_withText hempty htext

/-- A file that was to be written is there. -/
theorem exists?_of_runIn_write (writer : Writer) {content : String} {force : Bool}
    {outcome : WriteOutcome} (hempty : path.isEmpty = false)
    (h : runIn (writer.write path content force) w = (.ok outcome, w')) :
    w'.exists? path = true := by
  cases outcome with
  | written => exact Workspace.exists?_of_file? (writer.file?_of_runIn_write hempty h)
  | skipped =>
      rw [runIn_write] at h
      split at h
      · rename_i hskip
        cases h
        exact (Bool.and_eq_true _ _ ▸ hskip : _ ∧ _).2
      · obtain ⟨_, made, -, h⟩ := Stateful.runIn_bind_eq_ok h
        obtain ⟨_, written, -, h⟩ := Stateful.runIn_bind_eq_ok h
        cases h

/-- Without force an existing file is skipped. -/
theorem runIn_write_of_exists (writer : Writer) (content : String)
    (h : w.exists? path = true) :
    runIn (writer.write path content false) w = (.ok .skipped, w) := by
  rw [runIn_write, if_pos (by simpa using h)]

end Writer

end ServiceGen
