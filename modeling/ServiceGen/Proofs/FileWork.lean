import ServiceGen.Proofs.Evolution
import ServiceGen.Registration.Files
import ServiceGen.Writer

/-!
# Work on the Files of a Project

What each piece of work does to a workspace (`runIn_changeFile`, `Writer.runIn_write` and
others), and that it conserves a project: the workspace evolves by a rule about the files below
the root (`Workspace.Conserves`), if nothing on the way to the root is left before it is there.
-/

namespace ServiceGen

open Stateful (runIn Moves Cumulative)

/-! ### Conserved projects -/

/-- The edits of a project: those of a rule about places seen from a base. -/
def Below (base : List String) (T : EditRule) : EditRule := fun place before text =>
  ∃ names, place = base ++ names ∧ T names before text

/-- The edits of the file with some names. -/
theorem below_append_iff {base names : List String} {T : EditRule} {before : Option FileContent}
    {text : String} : Below base T (base ++ names) before text ↔ T names before text := by
  constructor
  · rintro ⟨others, hplace, hedit⟩
    exact List.append_cancel_left hplace ▸ hedit
  · intro hedit
    exact ⟨names, rfl, hedit⟩

namespace Workspace

variable {root path : String} {T T' : EditRule} {names : List String}

/-- **A project is conserved**: the workspace evolves by a rule about the files below its root,
if nothing on the way to the root is left before it is there. -/
def Conserves (root : String) (T : EditRule) (w w' : Workspace) : Prop :=
  w.Settled root → Evolves (Below (w.place root) T) w w'

/-- What conserves a project adds up. -/
theorem cumulative_conserves (root : String) (T : EditRule) :
    Cumulative (Conserves root T) where
  refl w _ := .refl _ w
  trans {w w' w''} h h' hsettled := by
    have hfirst := h hsettled
    have hnext := h' (hfirst.settled hsettled)
    rw [hfirst.place] at hnext
    exact hfirst.trans hnext

/-- What conserves by one rule does so by any wider one. -/
theorem Conserves.mono {w w' : Workspace} (h : Conserves root T w w')
    (hT : ∀ names before text, T names before text → T' names before text) :
    Conserves root T' w w' :=
  fun hsettled => (h hsettled).mono fun _ before text ⟨names, hplace, hedit⟩ =>
    ⟨names, hplace, hT names before text hedit⟩

/-- Writing to a file of a project conserves it. -/
theorem conserves_withText {w w' : Workspace} {text : String} (hpath : Inside root path names)
    (h : w.withText path text = .ok w')
    (hedit : w.Settled root → T names (w.tree.contentAt? (w.place path)) text) :
    Conserves root T w w' :=
  fun hsettled => evolves_withText h ⟨names, hpath.place w, hedit hsettled⟩

end Workspace

open Workspace (Conserves Inside cumulative_conserves)

/-! ### Single steps -/

namespace Work

variable {α : Type}

/-- A fault is reported with its action and path. -/
theorem runIn_orFault (action : FileAction) (path : String) (outcome : Except FileFault α)
    (w : Workspace) :
    runIn (orFault action path outcome) w = (outcome.mapError (.file action path), w) := by
  cases outcome <;> rfl

/-- Reading gives the text of the file and changes nothing. -/
theorem runIn_read (path : String) (action : FileAction) (w : Workspace) :
    runIn (read path action) w = ((w.text path).mapError (.file action path), w) := by
  rw [read, Stateful.runIn_get_bind, runIn_orFault]

/-- Writing puts the text in place, or fails and changes nothing. -/
theorem runIn_write (path text : String) (action : FileAction) (w : Workspace) :
    runIn (write path text action) w =
      match w.withText path text with
      | .ok w' => (.ok (), w')
      | .error fault => (.error (.file action path fault), w) := by
  rw [write, Stateful.runIn_get_bind]
  cases w.withText path text <;> rfl

/-- Directories are made, or nothing is changed. -/
theorem runIn_makeDirectories (path : String) (w : Workspace) :
    runIn (makeDirectories path) w =
      match w.withDirectories path with
      | .ok w' => (.ok (), w')
      | .error fault => (.error (.file .createDirectory path fault), w) := by
  rw [makeDirectories, Stateful.runIn_get_bind]
  cases w.withDirectories path <;> rfl

end Work

/-! ### Rewriting files -/

namespace Registration

variable {root path : String} {T : EditRule} {names : List String}
  {change : String → Outcome × String}

/-- **What changing a file does**: nothing if it is missing, it fails if the file holds no text,
and otherwise the text is replaced where the change inserts something. -/
theorem runIn_changeFile (path : String) (change : String → Outcome × String) (w : Workspace) :
    runIn (changeFile path change) w =
      match w.file? path with
      | none => (.ok .fileMissing, w)
      | some (.binary _) => (.error (.file .read path .notText), w)
      | some (.text text) =>
        if (change text).1 = .inserted then
          match w.withText path (change text).2 with
          | .ok w' => (.ok .inserted, w')
          | .error fault => (.error (.file .write path fault), w)
        else (.ok (change text).1, w) := by
  rw [changeFile, Stateful.runIn_get_bind, Workspace.isFile_eq]
  cases hfile : w.file? path with
  | none => rfl
  | some content =>
      rw [Option.isSome_some, if_neg (by simp), Stateful.runIn_bind, Work.runIn_read,
        Workspace.text_eq hfile]
      cases content with
      | binary bytes => rfl
      | text text =>
          change runIn (do
              if (change text).1 = .inserted then Work.write path (change text).2
              return (change text).1) w = _
          dsimp only
          split
          · rename_i hinserted
            rw [Stateful.runIn_bind, Work.runIn_write, hinserted]
            cases w.withText path (change text).2 <;> rfl
          · rfl

/-- What a change says of a file. -/
def said (change : String → Outcome × String) : Option FileContent → Outcome
  | some (.text text) => (change text).1
  | _ => .fileMissing

/-- **What a change of a file does and says**, if it succeeds. -/
theorem of_runIn_changeFile_eq_ok {outcome : Outcome} {w w' : Workspace}
    (h : runIn (changeFile path change) w = (.ok outcome, w')) :
    outcome = said change (w.file? path) ∧
      (∀ bytes, w.file? path ≠ some (.binary bytes)) ∧
      (w' = w ∧ outcome ≠ .inserted ∨
        ∃ text, w.file? path = some (.text text) ∧ (change text).1 = .inserted ∧
          w.withText path (change text).2 = .ok w') := by
  rw [runIn_changeFile] at h
  cases hfile : w.file? path with
  | none =>
      rw [hfile] at h
      cases h
      exact ⟨rfl, by simp, Or.inl ⟨rfl, by decide⟩⟩
  | some content =>
      rw [hfile] at h
      cases content with
      | binary bytes => cases h
      | text text =>
          dsimp only at h
          split at h
          · rename_i hinserted
            cases hwrite : w.withText path (change text).2 with
            | error fault =>
                rw [hwrite] at h
                cases h
            | ok made =>
                rw [hwrite] at h
                cases h
                exact ⟨hinserted.symm, by simp, Or.inr ⟨text, rfl, hinserted, hwrite⟩⟩
          · rename_i hkept
            cases h
            exact ⟨rfl, by simp, Or.inl ⟨rfl, hkept⟩⟩

/-- **Changing a file of a project** conserves it. -/
theorem moves_changeFile (hpath : Inside root path names)
    (hedit : ∀ text, (change text).1 = .inserted → T names (some (.text text)) (change text).2) :
    Moves (Conserves root T) (changeFile path change) := by
  intro w
  have hrefl := (cumulative_conserves root T).refl w
  rw [runIn_changeFile]
  cases hfile : w.file? path with
  | none => exact hrefl
  | some content =>
      cases content with
      | binary bytes => exact hrefl
      | text text =>
          dsimp only
          split
          · rename_i hinserted
            cases hwrite : w.withText path (change text).2 with
            | error fault => exact hrefl
            | ok w' =>
                refine Workspace.conserves_withText hpath hwrite fun _ => ?_
                rw [(Workspace.file?_eq_some_iff.mp hfile).2.2]
                exact hedit text hinserted
          · exact hrefl

end Registration

/-! ### Writing files -/

namespace Writer

variable {root path content : String} {T : EditRule} {names : List String}

/-- Makes the directory of a file. -/
def makeParent (path : String) : Work Unit :=
  match Path.parent? path.toList with
  | some (c :: cs) => Work.makeDirectories (String.ofList (c :: cs))
  | _ => pure ()

/-- Making a directory is an evolution, whatever the rule. -/
theorem evolves_makeParent (A : EditRule) (path : String) (w : Workspace) :
    Evolves A w (runIn (makeParent path) w).2 := by
  rw [makeParent]
  split
  · rw [Work.runIn_makeDirectories]
    split
    · rename_i w' hmade
      exact Workspace.evolves_withDirectories hmade
    · exact .refl A w
  · exact .refl A w

/-- **Where no file was seen there is none** after an evolution that edits no text, as the
making of directories is. -/
theorem contentAt?_of_exists?_eq_false {w w' : Workspace} (hpath : Inside root path names)
    (hsettled : w.Settled root) (hfree : w.exists? path = false)
    (hevolves : Evolves (fun _ _ _ => False) w w')
    (hlocate : w'.locate path = .ok (w'.place path)) :
    w'.tree.contentAt? (w'.place path) = none := by
  have hcontent := (hevolves.edits_contentAt? (w.place path)).eq_of_forall_not fun _ _ => id
  rw [hevolves.place, hcontent]
  cases hthere : w.tree.contentAt? (w.place path) with
  | none => rfl
  | some content =>
      -- A file at this place was there before, and the path led to it.
      have hsome : (w.tree.at? (w.place path)).isSome := by
        rw [FileTree.contentAt?_eq_some_iff.mp hthere]
        rfl
      have hbefore := hevolves.locate_before (hpath.settled_iff.mpr hsettled) hlocate hsome
      rw [Workspace.exists?_eq_true_iff.mpr ⟨hpath.isEmpty_eq_false, hbefore, hsome⟩] at hfree
      cases hfree

/-- **What writing a file does**: nothing if it is there and not to be replaced. -/
theorem runIn_write (writer : Writer) (path content : String) (force : Bool) (w : Workspace) :
    runIn (writer.write path content force) w =
      if !force && w.exists? path then (.ok .skipped, w)
      else runIn (do
        makeParent path
        Work.write path (writer.contentFor path content) .writeFile
        return .written) w := by
  rw [write, Stateful.runIn_get_bind, makeParent]
  by_cases hskip : (!force && w.exists? path) = true
  · rw [if_pos hskip, if_pos hskip]
    rfl
  · rw [if_neg hskip, if_neg hskip]
    cases Path.parent? path.toList with
    | none => rw [pure_bind]
    | some parent =>
        cases parent with
        | nil => rw [pure_bind]
        | cons c cs => dsimp only

/-- **Writing a file of a project** conserves it, if the rule allows for a new file, and for
any text if files are replaced. -/
theorem moves_write (writer : Writer) (content : String) {force : Bool}
    (hpath : Inside root path names)
    (hedit : ∀ before text, before = none ∨ force = true → T names before text) :
    Moves (Conserves root T) (writer.write path content force) := by
  intro w hsettled
  rw [runIn_write]
  split
  · exact .refl _ w
  · rename_i hwritten
    have hmade := evolves_makeParent (Below (w.place root) T) path w
    have hnothing := evolves_makeParent (fun _ _ _ => False) path w
    rw [Stateful.runIn_bind]
    generalize runIn (makeParent path) w = made at hmade hnothing
    obtain ⟨outcome, w'⟩ := made
    cases outcome with
    | error failure => exact hmade
    | ok done =>
        dsimp only
        rw [Stateful.runIn_bind, Work.runIn_write]
        cases hwrite : w'.withText path (writer.contentFor path content) with
        | error fault => exact hmade
        | ok w'' =>
            refine hmade.trans (Workspace.evolves_withText hwrite
              ⟨names, hmade.place path ▸ hpath.place w, hedit _ _ ?_⟩)
            cases hforce : force with
            | true => exact Or.inr rfl
            | false =>
                left
                rw [hforce] at hwritten
                exact contentAt?_of_exists?_eq_false hpath hsettled (by simpa using hwritten)
                  hnothing (Workspace.of_withText_eq_ok hwrite).1

end Writer

end ServiceGen
