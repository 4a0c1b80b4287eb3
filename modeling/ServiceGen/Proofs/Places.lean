import ServiceGen.Proofs.FileSets
import ServiceGen.Proofs.FileTrees
import ServiceGen.Workspace

/-!
# Places of Paths

Where a path leads is decided by its pieces alone (`Workspace.place`); whether it leads there is
decided by the tree, which must have a directory at every place that is passed on the way
(`locate_eq_ok_iff`). A place that is passed is above the end, or a piece `..` leads away from
it (`prefix_or_mem_departed`). So a path whose pieces `..` lead away from places that are there
leads to whatever is at its place (`Settled.locate_eq_ok`).

`Inside` says how a path continues that of a root: the places of a project are those of its
root with some names after them, and lead away from the same places as the root does.
-/

namespace ServiceGen

namespace Workspace

/-! ### Walking by pieces alone -/

/-- Where a piece leads from a place, innermost name first. -/
def turn (piece : List Char) (place : List String) : List String :=
  if piece == ['.'] then place
  else if piece == ['.', '.'] then place.tail
  else String.ofList piece :: place

/-- Where pieces lead from a place. -/
def walked : List (List Char) → List String → List String
  | [], place => place
  | piece :: pieces, place => walked pieces (turn piece place)

/-- The places that a walk passes: those in which it takes its pieces. -/
def passed : List (List Char) → List String → List (List String)
  | [], _ => []
  | piece :: pieces, place => place :: passed pieces (turn piece place)

/-- The places that pieces `..` lead away from. -/
def departed : List (List Char) → List String → List (List String)
  | [], _ => []
  | piece :: pieces, place =>
    if piece = ['.', '.'] then place :: departed pieces (turn piece place)
    else departed pieces (turn piece place)

section Walks

variable {tree : FileTree} {piece : List Char} {pieces more : List (List Char)}
  {place goal above : List String}

/-- A way is walked piece by piece. -/
theorem walked_append : walked (pieces ++ more) place = walked more (walked pieces place) := by
  induction pieces generalizing place with
  | nil => rfl
  | cons piece pieces ih => exact ih

/-- What is left on a way is left on its first part, or on the other one from there. -/
theorem departed_append :
    departed (pieces ++ more) place =
      departed pieces place ++ departed more (walked pieces place) := by
  induction pieces generalizing place with
  | nil => rfl
  | cons piece pieces ih =>
      rw [List.cons_append, departed, departed, ih, walked]
      split <;> rfl

/-- What is passed on a way is passed on its first part, or on the other one from there. -/
theorem passed_append :
    passed (pieces ++ more) place =
      passed pieces place ++ passed more (walked pieces place) := by
  induction pieces generalizing place with
  | nil => rfl
  | cons piece pieces ih =>
      rw [List.cons_append, passed, passed, ih, walked, List.cons_append]

/-- **A walk succeeds** if there is a directory at every place that it passes. -/
theorem walk_eq_ok_iff : walk tree pieces place = .ok goal ↔
    goal = walked pieces place ∧
      ∀ above ∈ passed pieces place,
        ∃ entries, tree.at? above.reverse = some (.directory entries) := by
  induction pieces generalizing place with
  | nil => simp [walk, walked, passed, eq_comm]
  | cons piece pieces ih =>
      have hturn : (if piece == ['.'] then walk tree pieces place
          else if piece == ['.', '.'] then walk tree pieces place.tail
          else walk tree pieces (String.ofList piece :: place)) =
            walk tree pieces (turn piece place) := by
        rw [turn]
        split
        · rfl
        · split <;> rfl
      rw [walk, walked, passed, List.forall_mem_cons]
      split
      · rename_i hnone
        simp [hnone]
      · rename_i content hfile
        simp [hfile]
      · rename_i entries hdirectory
        rw [hturn, ih, hdirectory]
        simp

/-- A place on the way is above the end, or a piece `..` leads away from it. -/
theorem suffix_or_mem_departed (h : above <:+ place) :
    above <:+ walked pieces place ∨ above ∈ departed pieces place := by
  induction pieces generalizing place with
  | nil => exact Or.inl h
  | cons piece pieces ih =>
      rw [walked, departed]
      by_cases hup : piece = ['.', '.']
      · subst hup
        rw [if_pos rfl]
        cases place with
        | nil => exact Or.inl (List.suffix_nil.mp h ▸ List.nil_suffix)
        | cons name rest =>
            rcases List.suffix_cons_iff.mp h with rfl | h
            · exact Or.inr List.mem_cons_self
            · exact (ih h).imp id (List.mem_cons_of_mem _)
      · rw [if_neg hup]
        refine ih (h.trans ?_)
        rw [turn]
        split
        · exact List.suffix_rfl
        · rw [if_neg (by simpa using hup)]
          exact List.suffix_cons _ _

/-- The places that a walk passes are on the way. -/
theorem of_mem_passed (h : above ∈ passed pieces place) :
    above <:+ walked pieces place ∨ above ∈ departed pieces place := by
  induction pieces generalizing place with
  | nil => cases h
  | cons piece pieces ih =>
      rcases List.mem_cons.mp h with rfl | h
      · exact suffix_or_mem_departed List.suffix_rfl
      · rw [walked, departed]
        refine (ih h).imp id fun hmem => ?_
        split
        · exact List.mem_cons_of_mem _ hmem
        · exact hmem

/-- The places that a walk leads away from are passed by it. -/
theorem mem_passed_of_mem_departed (h : above ∈ departed pieces place) :
    above ∈ passed pieces place := by
  induction pieces generalizing place with
  | nil => cases h
  | cons piece pieces ih =>
      rw [departed] at h
      split at h
      · rcases List.mem_cons.mp h with rfl | h
        · exact List.mem_cons_self
        · exact List.mem_cons_of_mem _ (ih h)
      · exact List.mem_cons_of_mem _ (ih h)

/-- All places above some place are directories. -/
def Grounded (tree : FileTree) (place : List String) : Prop :=
  ∀ above, above <:+ place → above ≠ place →
    ∃ entries, tree.at? above.reverse = some (.directory entries)

/-- With each piece of a way one stands in a directory still, if it leads on from one. -/
theorem Grounded.turn (h : Grounded tree place)
    (hhere : ∃ entries, tree.at? place.reverse = some (.directory entries))
    (piece : List Char) : Grounded tree (turn piece place) := by
  have hall : ∀ above, above <:+ place →
      ∃ entries, tree.at? above.reverse = some (.directory entries) := by
    intro above habove
    by_cases heq : above = place
    · exact heq ▸ hhere
    · exact h above habove heq
  rw [Workspace.turn]
  split
  · exact h
  · split
    · intro above habove _
      exact hall above (habove.trans (List.tail_suffix place))
    · intro above habove hne
      exact hall above ((List.suffix_cons_iff.mp habove).resolve_left hne)

/-- A walk that succeeds ends at a place with directories above it, if it begins at one. -/
theorem grounded_of_walk (hplace : Grounded tree place) (h : walk tree pieces place = .ok goal) :
    Grounded tree goal := by
  obtain ⟨rfl, hpassed⟩ := walk_eq_ok_iff.mp h
  clear h
  induction pieces generalizing place with
  | nil => exact hplace
  | cons piece pieces ih =>
      rw [passed, List.forall_mem_cons] at hpassed
      exact ih (hplace.turn hpassed.1 piece) hpassed.2

end Walks

/-! ### Places of paths -/

variable {w : Workspace} {path root : String}

/-- The pieces of a path, seen from the directory that one works in. -/
def route (w : Workspace) (path : String) : List (List Char) :=
  pieces (Path.append w.dir.toList path.toList)

/-- The place that a path leads to, if it leads anywhere. -/
def place (w : Workspace) (path : String) : List String :=
  (walked (w.route path) []).reverse

/-- **Nothing on the way is left before it is there**: every place that a piece `..` of the
path leads away from is there. -/
def Settled (w : Workspace) (path : String) : Prop :=
  ∀ above ∈ departed (w.route path) [], (w.tree.at? above.reverse).isSome

/-- **A path is located** at its place, if there is a directory at every place passed. -/
theorem locate_eq_ok_iff {goal : List String} : w.locate path = .ok goal ↔
    goal = w.place path ∧ ∀ above ∈ passed (w.route path) [],
      ∃ entries, w.tree.at? above.reverse = some (.directory entries) := by
  have hlocate : w.locate path = (walk w.tree (w.route path) []).map List.reverse := rfl
  rw [hlocate, place]
  cases hwalk : walk w.tree (w.route path) [] with
  | error fault =>
      constructor
      · rintro ⟨⟩
      · rintro ⟨-, hpassed⟩
        rw [walk_eq_ok_iff.mpr ⟨rfl, hpassed⟩] at hwalk
        cases hwalk
  | ok goal =>
      obtain ⟨rfl, hpassed⟩ := walk_eq_ok_iff.mp hwalk
      rw [Except.map, Except.ok.injEq, eq_comm]
      exact (and_iff_left hpassed).symm

/-- A path that is located is settled. -/
theorem settled_of_locate {goal : List String} (h : w.locate path = .ok goal) :
    w.Settled path := by
  obtain ⟨-, hpassed⟩ := locate_eq_ok_iff.mp h
  intro above habove
  obtain ⟨entries, hentries⟩ := hpassed above (mem_passed_of_mem_departed habove)
  rw [hentries]
  rfl

/-- There are directories above the place of a path that is located. -/
theorem exists_directory_of_locate {goal above rest : List String} {name : String}
    (h : w.locate path = .ok goal) (hgoal : goal = above ++ name :: rest) :
    ∃ entries, w.tree.at? above = some (.directory entries) := by
  obtain ⟨rfl, hpassed⟩ := locate_eq_ok_iff.mp h
  have hground : Grounded w.tree (walked (w.route path) []) := by
    refine grounded_of_walk (fun above habove hne => ?_) (walk_eq_ok_iff.mpr ⟨rfl, hpassed⟩)
    exact absurd (List.suffix_nil.mp habove) hne
  have hend : walked (w.route path) [] = (name :: rest).reverse ++ above.reverse := by
    rw [← List.reverse_append, ← hgoal, place, List.reverse_reverse]
  obtain ⟨entries, hentries⟩ := hground above.reverse (hend ▸ List.suffix_append _ _) (by
    intro heq
    have hlength := congrArg List.length (heq.trans hend)
    simp only [List.length_append, List.length_reverse, List.length_cons] at hlength
    omega)
  exact ⟨entries, List.reverse_reverse above ▸ hentries⟩

/-- **What is at the place of a path is what the path leads to**, if nothing on the way is
left before it is there: all places passed are directories once they are there. -/
theorem Settled.locate_eq_ok (hsettled : w.Settled path)
    (hthere : (w.tree.at? (w.place path)).isSome)
    (hdirectory : ∀ above ∈ passed (w.route path) [], (w.tree.at? above.reverse).isSome →
      ∃ entries, w.tree.at? above.reverse = some (.directory entries)) :
    w.locate path = .ok (w.place path) := by
  refine locate_eq_ok_iff.mpr ⟨rfl, fun above habove => hdirectory above habove ?_⟩
  rcases of_mem_passed habove with hsuffix | hdeparted
  · obtain ⟨before, hbefore⟩ := hsuffix
    have hwhole : (w.tree.at? (above.reverse ++ before.reverse)).isSome := by
      rw [← List.reverse_append, hbefore]
      exact hthere
    exact FileTree.exists_at?_of_prefix hwhole
  · exact hsettled above hdeparted

/-! ### Places inside a project -/

/-- The pieces of a path that are not empty. -/
def named (path : List Char) : List (List Char) :=
  (Text.splitAtChar '/' path).filter (!·.isEmpty)

theorem named_append_slash (before rest : List Char) :
    named (before ++ '/' :: rest) = named before ++ named rest := by
  rw [named, Text.splitAtChar, Text.splitBy_append_sep (by decide), List.filter_append]
  rfl

/-- The opening of a path in a directory has the pieces of the directory. -/
theorem named_opening (dir rest : List Char) :
    named (Path.opening dir ++ rest) = named dir ++ named rest := by
  rw [Path.opening]
  split
  · rename_i hempty
    rw [List.isEmpty_iff.mp hempty]
    rfl
  · split
    · rename_i hslash
      obtain ⟨before, rfl⟩ := List.getLast?_eq_some_iff.mp (by simpa using hslash)
      rw [List.append_assoc, List.singleton_append, named_append_slash, named_append_slash]
      simp [named, Text.splitAtChar, Text.splitBy]
    · rw [List.append_assoc, List.singleton_append, named_append_slash]

/-- A path ends alike wherever it is seen from. -/
theorem getLast?_append {path : List Char} (h : path ≠ []) (dir : List Char) :
    (Path.append dir path).getLast? = path.getLast? := by
  rw [Path.append]
  split
  · rfl
  · split
    · exact List.getLast?_append_of_ne_nil _ h
    · rw [← List.singleton_append, ← List.append_assoc, List.getLast?_append_of_ne_nil _ h]

/-- The pieces of a path inside a directory. -/
theorem named_append {path : List Char} (h : Path.isAbsolute path = false) (dir : List Char) :
    named (Path.append dir path) = named dir ++ named path := by
  rw [Path.append_of_relative h, named_opening]

/-- The pieces of a path inside a directory that is seen from another one. -/
theorem named_append_append {path : List Char} (h : Path.isAbsolute path = false)
    (outer dir : List Char) :
    named (Path.append outer (Path.append dir path)) =
      named (Path.append outer dir) ++ named path := by
  by_cases hdir : Path.isAbsolute dir = true
  · have hpath : Path.isAbsolute (Path.append dir path) = true := by
      cases dir with
      | nil => cases hdir
      | cons c dir =>
          rw [Path.append_of_relative h, Path.opening, if_neg (by simp)]
          split <;> exact hdir
    have houter : ∀ other, Path.isAbsolute other = true → Path.append outer other = other := by
      intro other hother
      rw [Path.append, hother, Bool.true_or, if_pos rfl]
    rw [houter _ hpath, houter _ hdir, named_append h]
  · have hrelative : Path.isAbsolute dir = false := by simpa using hdir
    have hpath : Path.isAbsolute (Path.append dir path) = false := by
      rw [Path.append_of_relative h, Path.opening]
      split
      · exact h
      · cases dir with
        | nil => contradiction
        | cons c dir => split <;> exact hrelative
    rw [named_append hpath, named_append hrelative, named_append h, List.append_assoc]

/-- A name that is a piece of a path and no direction. -/
structure Plain (name : String) : Prop where
  nonempty : name.toList ≠ []
  unslashed : '/' ∉ name.toList
  ne_here : name.toList ≠ ['.']
  ne_up : name.toList ≠ ['.', '.']

/-- A plain name is a single piece. -/
theorem Plain.named {name : String} (h : Plain name) : named name.toList = [name.toList] := by
  rw [Workspace.named, Text.splitAtChar_eq_singleton h.unslashed,
    List.filter_cons_of_pos (by simp [h.nonempty]), List.filter_nil]

/-- Plain names lead further down. -/
theorem walked_plain {names : List String} (h : ∀ name ∈ names, Plain name)
    (start : List String) :
    walked (names.map String.toList) start = names.reverse ++ start := by
  induction names generalizing start with
  | nil => rfl
  | cons name names ih =>
      obtain ⟨hname, hnames⟩ := List.forall_mem_cons.mp h
      rw [List.map_cons, walked, ih hnames, turn, if_neg (by simpa using hname.ne_here),
        if_neg (by simpa using hname.ne_up), String.ofList_toList, List.reverse_cons,
        List.append_assoc, List.singleton_append]

/-- Plain names lead into directories and out of none. -/
theorem departed_plain {names : List String} (h : ∀ name ∈ names, Plain name)
    (start : List String) : departed (names.map String.toList) start = [] := by
  induction names generalizing start with
  | nil => rfl
  | cons name names ih =>
      obtain ⟨hname, hnames⟩ := List.forall_mem_cons.mp h
      rw [List.map_cons, departed, if_neg hname.ne_up, ih hnames]

/-- A path continues that of a root with some names. -/
structure Inside (root path : String) (names : List String) : Prop where
  /-- The pieces of the path, wherever it is seen from. -/
  named : ∀ dir, named (Path.append dir path.toList) =
    named (Path.append dir root.toList) ++ names.map String.toList
  plain : ∀ name ∈ names, Plain name
  nonempty : path.toList ≠ []
  unslashed : path.toList.getLast? ≠ some '/'

/-- A path inside a root is not empty. -/
theorem Inside.isEmpty_eq_false {names : List String} (h : Inside root path names) :
    path.isEmpty = false := by
  cases hempty : path.isEmpty with
  | false => rfl
  | true =>
      rw [String.isEmpty_iff.mp hempty] at h
      exact absurd rfl h.nonempty

/-- A path ends with the name that it is made with. -/
theorem getLast?_joinPath {name : String} (h : Plain name) (dir : String) :
    (joinPath dir name).toList ≠ [] ∧ (joinPath dir name).toList.getLast? ≠ some '/' := by
  rw [Path.toList_joinPath (Path.isAbsolute_of_not_mem h.unslashed)]
  refine ⟨by simp [h.nonempty], ?_⟩
  rw [List.getLast?_append_of_ne_nil _ h.nonempty]
  exact fun hlast => h.unslashed (List.mem_of_getLast? hlast)

/-- A name in the root. -/
theorem inside_joinPath {name : String} (h : Plain name) (root : String) :
    Inside root (joinPath root name) [name] where
  named dir := by
    rw [joinPath, String.toList_ofList,
      named_append_append (Path.isAbsolute_of_not_mem h.unslashed), h.named]
    rfl
  plain := List.forall_mem_singleton.mpr h
  nonempty := (getLast?_joinPath h root).1
  unslashed := (getLast?_joinPath h root).2

/-- A name further inside. -/
theorem Inside.joinPath {name : String} {names : List String} (hpath : Inside root path names)
    (h : Plain name) : Inside root (joinPath path name) (names ++ [name]) where
  named dir := by
    rw [ServiceGen.joinPath, String.toList_ofList,
      named_append_append (Path.isAbsolute_of_not_mem h.unslashed), hpath.named, h.named,
      List.map_append, List.append_assoc]
    rfl
  plain := List.forall_mem_append.mpr ⟨hpath.plain, List.forall_mem_singleton.mpr h⟩
  nonempty := (getLast?_joinPath h path).1
  unslashed := (getLast?_joinPath h path).2

/-- Where the pieces of a path lead, with or without a slash at its end. -/
theorem walked_route (w : Workspace) (path : String) (start : List String) :
    walked (w.route path) start =
        walked (Workspace.named (Path.append w.dir.toList path.toList)) start ∧
      departed (w.route path) start =
        departed (Workspace.named (Path.append w.dir.toList path.toList)) start := by
  rw [route, pieces]
  split
  · rw [walked_append, departed_append]
    simp [walked, turn, departed, Workspace.named]
  · exact ⟨rfl, rfl⟩

/-- **The place of a path inside a project** is that of its root with the names after it. -/
theorem Inside.place {names : List String} (h : Inside root path names) (w : Workspace) :
    w.place path = w.place root ++ names := by
  rw [Workspace.place, Workspace.place, (walked_route w path []).1, (walked_route w root []).1,
    h.named, walked_append, walked_plain h.plain, List.reverse_append, List.reverse_reverse]

/-- A path inside a project leads away from the places that its root leads away from. -/
theorem Inside.settled_iff {names : List String} (h : Inside root path names) :
    w.Settled path ↔ w.Settled root := by
  rw [Settled, Settled, (walked_route w path []).2, (walked_route w root []).2, h.named,
    departed_append, departed_plain h.plain, List.append_nil]

end Workspace

end ServiceGen
