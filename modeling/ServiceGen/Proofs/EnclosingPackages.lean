import ServiceGen.Manifest
import ServiceGen.Proofs.Evolution

/-!
# Enclosing Packages

The package of a directory is looked up by the text of its path: in the path itself, and in what is
left of it when the last segment is removed, and so on (`exists_of_firstPackage`). As long as
segments are names this goes up in the tree. A segment `..` is a step down, though, when it is
removed: the search goes on in the directory that it leads away from, which need not be above
the one that was asked for. So the package that is found may be one that does not enclose the
directory (`exists_packageRoot_not_isNearest`).

On the other hand the search visits every place above the start that is not above what it finds
(`exists_walked_of_suffix`). So what it finds either is the nearest package, or a `..` of the path
leads away from it (`isNearest_or_mem_departed`).
-/

namespace ServiceGen

/-! ### Paths above a path -/

namespace Path

variable {path above : Chars} {pieces : List Chars}

/-- A path in an absolute directory is absolute. -/
theorem isAbsolute_append {dir : Chars} (h : isAbsolute dir = true) (path : Chars) :
    isAbsolute (append dir path) = true := by
  cases dir with
  | nil => cases h
  | cons c dir =>
      rw [append]
      split
      · rename_i hpath
        simpa using hpath
      · split <;> exact h

/-- An absolute path begins with a slash. -/
theorem exists_cons_of_isAbsolute (h : isAbsolute path = true) : ∃ rest, path = '/' :: rest := by
  cases path with
  | nil => cases h
  | cons c rest => exact ⟨rest, by simpa [isAbsolute] using h⟩

/-- The pieces before the idle ones at the end are pieces. -/
theorem mem_of_mem_dropIdleEnd {piece : Chars} (h : piece ∈ dropIdleEnd pieces) :
    piece ∈ pieces :=
  List.mem_reverse.mp ((List.dropWhile_sublist _).mem (List.mem_reverse.mp h))

/-- The segments are not at the end that is removed. -/
theorem filter_dropIdleEnd (pieces : List Chars) :
    (dropIdleEnd pieces).filter (!isIdle ·) = pieces.filter (!isIdle ·) := by
  have hcut : pieces = dropIdleEnd pieces ++ (pieces.reverse.takeWhile isIdle).reverse := by
    rw [dropIdleEnd, ← List.reverse_append, List.takeWhile_append_dropWhile, List.reverse_reverse]
  have hidle : (pieces.reverse.takeWhile isIdle).reverse.filter (!isIdle ·) = [] := by
    rw [List.filter_eq_nil_iff]
    intro piece hpiece
    simpa using List.mem_takeWhile_imp (List.mem_reverse.mp hpiece)
  conv_rhs => rw [hcut]
  rw [List.filter_append, hidle, List.append_nil]

/-- What is left ends with a segment. -/
theorem isIdle_of_dropIdleEnd {before : List Chars} {last : Chars}
    (h : dropIdleEnd pieces = before ++ [last]) : isIdle last = false := by
  have hfirst := List.head?_dropWhile_not isIdle pieces.reverse
  have hreverse : pieces.reverse.dropWhile isIdle = last :: before.reverse := by
    rw [← List.reverse_reverse (pieces.reverse.dropWhile isIdle), ← dropIdleEnd, h,
      List.reverse_append]
    rfl
  rw [hreverse] at hfirst
  exact hfirst

/-- The pieces of an absolute path are kept when it is written. -/
theorem segments_unsplit (h : ∀ piece ∈ pieces, '/' ∉ piece) :
    segments (unsplit .root pieces) = pieces.filter (!isIdle ·) := by
  rw [unsplit, segments, split]
  cases pieces with
  | nil => rfl
  | cons piece pieces =>
      have hjoin : Text.splitAtChar '/' (Text.join ['/'] (piece :: pieces)) = piece :: pieces :=
        Text.splitBy_join (beq_self_eq_true '/') (List.cons_ne_nil _ _) fun piece hpiece c hc =>
          beq_eq_false_iff_ne.mpr fun heq => h piece hpiece (heq ▸ hc)
      rw [hjoin]

/-- **The path above an absolute one** has its segments but the last. -/
theorem segments_of_parent? (habsolute : isAbsolute path = true) (h : parent? path = some above) :
    isAbsolute above = true ∧ ∃ last, segments path = segments above ++ [last] := by
  obtain ⟨rest, rfl⟩ := exists_cons_of_isAbsolute habsolute
  rw [parent?, split] at h
  dsimp only at h
  rcases List.eq_nil_or_concat (dropIdleEnd (Text.splitAtChar '/' rest)) with
    hnil | ⟨before, last, hkept⟩
  · rw [hnil] at h
    cases h
  · rw [List.concat_eq_append] at hkept
    have habove : above = unsplit .root (dropIdleEnd before) := by
      rw [hkept] at h
      split at h
      · simp_all
      · rw [List.dropLast_concat] at h
        exact (Option.some.inj h).symm
    have hslash : ∀ piece ∈ dropIdleEnd before, '/' ∉ piece := by
      intro piece hpiece hmem
      have hpieces : piece ∈ dropIdleEnd (Text.splitAtChar '/' rest) :=
        hkept ▸ List.mem_append_left _ (mem_of_mem_dropIdleEnd hpiece)
      simpa using (Text.of_mem_splitBy (mem_of_mem_dropIdleEnd hpieces) hmem).2
    refine ⟨habove ▸ rfl, last, ?_⟩
    calc segments ('/' :: rest)
        = (dropIdleEnd (Text.splitAtChar '/' rest)).filter (!isIdle ·) :=
          (filter_dropIdleEnd _).symm
      _ = before.filter (!isIdle ·) ++ [last] := by
          rw [hkept, List.filter_append,
            List.filter_cons_of_pos (by rw [isIdle_of_dropIdleEnd hkept]; rfl), List.filter_nil]
      _ = segments above ++ [last] := by
          rw [habove, segments_unsplit hslash, filter_dropIdleEnd]

end Path

/-! ### Places of absolute paths -/

namespace Workspace

variable {w : Workspace} {pieces : List (List Char)} {place above : List String} {path : List Char}

/-- Pieces `.` lead nowhere. -/
theorem walked_filter (pieces : List (List Char)) (place : List String) :
    walked (pieces.filter (· != ['.'])) place = walked pieces place ∧
      departed (pieces.filter (· != ['.'])) place = departed pieces place := by
  induction pieces generalizing place with
  | nil => exact ⟨rfl, rfl⟩
  | cons piece pieces ih =>
      by_cases hhere : piece = ['.']
      · subst hhere
        rw [List.filter_cons_of_neg (by decide)]
        exact ih place
      · rw [List.filter_cons_of_pos (by simpa using hhere), walked, walked, departed, departed,
          (ih _).1, (ih _).2]
        exact ⟨rfl, rfl⟩

/-- Where an absolute path leads is decided by its segments. -/
theorem walked_segments (h : Path.isAbsolute path = true) (place : List String) :
    walked (Workspace.pieces path) place = walked (Path.segments path) place ∧
      departed (Workspace.pieces path) place = departed (Path.segments path) place := by
  obtain ⟨rest, rfl⟩ := Path.exists_cons_of_isAbsolute h
  have hnamed : Workspace.named ('/' :: rest) = Workspace.named rest :=
    named_append_slash [] rest
  have hsegments : (Workspace.named rest).filter (· != ['.']) = Path.segments ('/' :: rest) := by
    rw [Workspace.named, List.filter_filter, Path.segments, Path.split]
    refine List.filter_congr fun piece _ => ?_
    rw [Path.isIdle, Bool.not_or, Bool.and_comm]
    rfl
  have hpieces : (Workspace.pieces ('/' :: rest)).filter (· != ['.']) =
      Path.segments ('/' :: rest) := by
    rw [← hsegments, ← hnamed, Workspace.pieces]
    split
    · rw [List.filter_append, List.filter_cons_of_neg (by decide), List.filter_nil,
        List.append_nil]
      rfl
    · rfl
  rw [← hpieces, (walked_filter _ _).1, (walked_filter _ _).2]
  exact ⟨rfl, rfl⟩

/-- The place of an absolute path is the same wherever one works. -/
theorem route_ofList (h : Path.isAbsolute path = true) (w : Workspace) :
    w.route (String.ofList path) = Workspace.pieces path := by
  rw [route, String.toList_ofList, Path.append, h, Bool.true_or, if_pos rfl]

/-- The place of an absolute path is the way that its pieces take. -/
theorem place_ofList (h : Path.isAbsolute path = true) (w : Workspace) :
    w.place (String.ofList path) = (walked (Path.segments path) []).reverse := by
  rw [place, route_ofList h, (walked_segments h []).1]

/-- Every piece `..` among some leads away from a directory. -/
def LeavesDirectories (tree : FileTree) (pieces : List (List Char)) : Prop :=
  ∀ above ∈ departed pieces [], ∃ entries, tree.at? above.reverse = some (.directory entries)

/-- A path that leads anywhere leaves directories only. -/
theorem leavesDirectories_of_locate {path : String} {goal : List String}
    (h : w.locate path = .ok goal) : LeavesDirectories w.tree (w.route path) :=
  fun above hmem => (locate_eq_ok_iff.mp h).2 above (mem_passed_of_mem_departed hmem)

/-- A way leaves directories only if it does so on to a further place. -/
theorem LeavesDirectories.of_append {tree : FileTree} {more : List (List Char)}
    (h : LeavesDirectories tree (pieces ++ more)) : LeavesDirectories tree pieces :=
  fun above hmem => h above (departed_append ▸ List.mem_append_left _ hmem)

/-- Without two points, a way leaves no directory. -/
theorem departed_eq_nil (h : ['.', '.'] ∉ pieces) (place : List String) :
    departed pieces place = [] := by
  induction pieces generalizing place with
  | nil => rfl
  | cons piece pieces ih =>
      rw [List.mem_cons, not_or] at h
      rw [departed, if_neg (Ne.symm h.1), ih h.2]

/-- **A walk comes past** all places above its end that are not above its start. -/
theorem exists_walked_of_suffix (h : above <:+ walked pieces place) :
    above <:+ place ∨ ∃ before, before <+: pieces ∧ before ≠ [] ∧ walked before place = above := by
  -- Seen from the end, a step that does not come from the place comes from below it.
  induction pieces using List.reverseRecOn with
  | nil => exact Or.inl h
  | append_singleton pieces piece ih =>
      rw [walked_append] at h
      by_cases hend : above = turn piece (walked pieces place)
      · exact Or.inr ⟨_, List.prefix_rfl, by simp, by rw [walked_append, hend]; rfl⟩
      · have hbefore : above <:+ walked pieces place := by
          change above <:+ turn piece (walked pieces place) at h
          rw [turn] at h hend
          split at h
          · exact h
          · split at h
            · exact h.trans (List.tail_suffix _)
            · rename_i hhere hup
              rw [if_neg hhere, if_neg hup] at hend
              exact (List.suffix_cons_iff.mp h).resolve_left hend
        refine (ih hbefore).imp_right ?_
        rintro ⟨before, hprefix, hne, hwalked⟩
        exact ⟨before, hprefix.trans (List.prefix_append _ _), hne, hwalked⟩

end Workspace

namespace Manifest

variable {w : Workspace} {dir start root name crate : String}

/-! ### Places with packages -/

/-- Whether a place has a manifest that names a package. -/
def HasPackage (tree : FileTree) (place : List String) (name : String) : Prop :=
  ∃ text manifest, tree.contentAt? (place ++ [fileName]) = some (.text text) ∧
    Toml.parse? text = some manifest ∧ packageName? manifest = some name

/-- A place is the nearest one with a package, among a place and those above it. -/
structure IsNearest (tree : FileTree) (start place : List String) : Prop where
  above : place <+: start
  package : ∃ name, HasPackage tree place name
  nearest : ∀ other name, place <+: other → other <+: start → HasPackage tree other name →
    other = place

/-- The name of a manifest is a plain one. -/
theorem plain_fileName : Workspace.Plain fileName := ⟨by decide, by decide, by decide, by decide⟩

/-- What is found in a directory is what its manifest says. -/
theorem packageIn_eq (w : Workspace) (dir : String) : packageIn w dir =
    match w.file? (joinPath dir fileName) with
    | none => .ok none
    | some (.binary _) => .error (.unreadable .notText)
    | some (.text text) =>
      match Toml.parse? text with
      | some manifest => .ok (packageName? manifest)
      | none => .error (.malformed (joinPath dir fileName)) := by
  rw [packageIn, Workspace.isFile_eq]
  cases hfile : w.file? (joinPath dir fileName) with
  | none => rfl
  | some content =>
      rw [Workspace.text_eq hfile]
      cases content <;> rfl

/-- A package that is read of a manifest is the one in that directory. -/
theorem hasPackage_of_packageIn (h : packageIn w dir = .ok (some name)) :
    HasPackage w.tree (w.place dir) name := by
  rw [packageIn_eq] at h
  split at h
  · cases h
  · cases h
  · rename_i text hfile
    have hcontent := (Workspace.file?_eq_some_iff.mp hfile).2.2
    rw [(Workspace.inside_joinPath plain_fileName dir).place w] at hcontent
    split at h
    · rename_i manifest hparse
      exact ⟨text, manifest, hcontent, hparse, Except.ok.inj h⟩
    · cases h

/-- **A package is found** in a directory, if nothing on the way is left before it is there. -/
theorem packageIn_of_hasPackage (hthere : Workspace.LeavesDirectories w.tree (w.route dir))
    (h : HasPackage w.tree (w.place dir) name) : packageIn w dir = .ok (some name) := by
  obtain ⟨text, manifest, hcontent, hparse, hname⟩ := h
  have hinside := Workspace.inside_joinPath plain_fileName dir
  have hroute : w.route (joinPath dir fileName) =
      Workspace.named (Path.append w.dir.toList dir.toList) ++ [fileName.toList] := by
    rw [Workspace.route, Workspace.pieces, Workspace.getLast?_append hinside.nonempty,
      if_neg (by simpa using hinside.unslashed)]
    exact hinside.named w.dir.toList
  have hbelow : (w.tree.at? (w.place dir ++ [fileName])).isSome := by
    rw [FileTree.contentAt?_eq_some_iff.mp hcontent]
    rfl
  -- What is passed on the way to the manifest is above it, or was left by a step up.
  have hlocate : w.locate (joinPath dir fileName) = .ok (w.place (joinPath dir fileName)) := by
    refine Workspace.locate_eq_ok_iff.mpr ⟨rfl, fun above habove => ?_⟩
    rw [hroute, Workspace.passed_append] at habove
    have hway : above <:+ Workspace.walked (w.route dir) [] ∨
        above ∈ Workspace.departed (w.route dir) [] := by
      rw [(Workspace.walked_route w dir []).1, (Workspace.walked_route w dir []).2]
      rcases List.mem_append.mp habove with habove | habove
      · exact Workspace.of_mem_passed habove
      · exact Or.inl (List.mem_singleton.mp habove ▸ List.suffix_rfl)
    rcases hway with ⟨before, hbefore⟩ | hdeparted
    · have hplace : w.place dir = above.reverse ++ before.reverse := by
        rw [Workspace.place, ← hbefore, List.reverse_append]
      rw [hplace, List.append_assoc] at hbelow
      cases hrest : before.reverse ++ [fileName] with
      | nil => simp at hrest
      | cons first rest => exact FileTree.exists_directory_of_at? (hrest ▸ hbelow)
    · exact hthere above hdeparted
  have hfile : w.file? (joinPath dir fileName) = some (.text text) :=
    Workspace.file?_eq_some_iff.mpr
      ⟨hinside.isEmpty_eq_false, hlocate, (hinside.place w).symm ▸ hcontent⟩
  rw [packageIn_eq, hfile]
  dsimp only
  rw [hparse]
  exact congrArg Except.ok hname

/-- A place at which nothing was found has no package, if nothing on the way is left before it is
there. -/
theorem not_hasPackage_of_packageIn {path : Path.Chars} (habsolute : Path.isAbsolute path = true)
    (hthere : Workspace.LeavesDirectories w.tree (Path.segments path))
    (hnone : packageIn w (String.ofList path) = .ok none) (name : String) :
    ¬ HasPackage w.tree (Workspace.walked (Path.segments path) []).reverse name := by
  intro hpackage
  rw [Workspace.LeavesDirectories, ← (Workspace.walked_segments habsolute []).2,
    ← Workspace.route_ofList habsolute w] at hthere
  rw [← Workspace.place_ofList habsolute w] at hpackage
  rw [packageIn_of_hasPackage hthere hpackage] at hnone
  cases hnone

/-! ### The search -/

/-- **What the search finds** and what it has passed. -/
theorem exists_of_firstPackage {n : Nat} {path : Path.Chars}
    (habsolute : Path.isAbsolute path = true)
    (h : firstPackage w ((Path.ancestors n path).map String.ofList) = .ok (some (root, name))) :
    ∃ found rest, root = String.ofList found ∧ Path.isAbsolute found = true ∧
      packageIn w root = .ok (some name) ∧ Path.segments path = Path.segments found ++ rest ∧
      ∀ before, before <+: rest → before ≠ [] → ∃ passed, Path.isAbsolute passed = true ∧
        Path.segments passed = Path.segments found ++ before ∧
        packageIn w (String.ofList passed) = .ok none := by
  induction n generalizing path with
  | zero => cases h
  | succ n ih =>
      rw [Path.ancestors, List.map_cons, firstPackage] at h
      obtain ⟨outcome, hpackage, h⟩ := Outcome.bind_eq_ok.mp h
      cases outcome with
      | some other =>
          obtain ⟨rfl, rfl⟩ := Prod.mk.inj (Option.some.inj (Except.ok.inj h))
          refine ⟨path, [], rfl, habsolute, hpackage, (List.append_nil _).symm, ?_⟩
          exact fun before hbefore hne => absurd (List.prefix_nil.mp hbefore) hne
      | none =>
          cases hparent : Path.parent? path with
          | none =>
              rw [hparent] at h
              cases h
          | some above =>
              rw [hparent] at h
              obtain ⟨habove, last, hlast⟩ := Path.segments_of_parent? habsolute hparent
              obtain ⟨found, rest, hroot, hfound, hname, hsegments, hpassed⟩ := ih habove h
              refine ⟨found, rest ++ [last], hroot, hfound, hname, ?_, fun before hbefore hne => ?_⟩
              · rw [hlast, hsegments, List.append_assoc]
              · rcases List.prefix_concat_iff.mp hbefore with rfl | hbefore
                · exact ⟨path, habsolute, by rw [hlast, hsegments, List.append_assoc], hpackage⟩
                · exact hpassed before hbefore hne

/-- **What the walk upwards finds**: the first directory with a package, of those that the text of
the path names before any is left. -/
theorem exists_of_packageRoot (hdir : Path.isAbsolute w.dir.toList = true)
    (h : packageRoot w start = .ok (root, crate)) :
    ∃ found rest name, root = String.ofList found ∧ crate = ModuleView.crateIdent name ∧
      Path.isAbsolute found = true ∧
      Path.segments (Path.append w.dir.toList start.toList) = Path.segments found ++ rest ∧
      packageIn w root = .ok (some name) ∧
      ∀ before, before <+: rest → before ≠ [] → ∃ passed, Path.isAbsolute passed = true ∧
        Path.segments passed = Path.segments found ++ before ∧
        packageIn w (String.ofList passed) = .ok none := by
  obtain ⟨outcome, hfirst, h⟩ := Outcome.bind_eq_ok.mp h
  cases outcome with
  | none => cases h
  | some package =>
      obtain ⟨rfl, rfl⟩ := Prod.mk.inj (Except.ok.inj h)
      rw [joinPath, String.toList_ofList] at hfirst
      obtain ⟨found, rest, hroot, hfound, hname, hsegments, hpassed⟩ :=
        exists_of_firstPackage (Path.isAbsolute_append hdir start.toList) hfirst
      exact ⟨found, rest, _, hroot, rfl, hfound, hsegments, hname, hpassed⟩

/-- **Where the search ends**, if it has passed what continues a path: at the nearest package, or at
a place that a `..` leads away from and that is not above the start. -/
theorem isNearest_or_departs {found : Path.Chars} {rest : List Path.Chars}
    (hfound : Path.isAbsolute found = true)
    (hthere : Workspace.LeavesDirectories w.tree (Path.segments found ++ rest))
    (hname : packageIn w (String.ofList found) = .ok (some name))
    (hpassed : ∀ before, before <+: rest → before ≠ [] → ∃ passed,
      Path.isAbsolute passed = true ∧ Path.segments passed = Path.segments found ++ before ∧
      packageIn w (String.ofList passed) = .ok none) :
    IsNearest w.tree (Workspace.walked (Path.segments found ++ rest) []).reverse
        (Workspace.walked (Path.segments found) []).reverse ∨
      Workspace.walked (Path.segments found) [] ∈
          Workspace.departed (Path.segments found ++ rest) [] ∧
        ¬ Workspace.walked (Path.segments found) [] <:+
          Workspace.walked (Path.segments found ++ rest) [] := by
  have hpackage := hasPackage_of_packageIn hname
  rw [Workspace.place_ofList hfound] at hpackage
  by_cases habove : Workspace.walked (Path.segments found) [] <:+
      Workspace.walked (Path.segments found ++ rest) []
  · left
    refine ⟨List.reverse_prefix.mpr habove, ⟨name, hpackage⟩, ?_⟩
    intro other name' hother hend hhere
    obtain ⟨place, rfl⟩ : ∃ place : List String, other = place.reverse :=
      ⟨_, (List.reverse_reverse other).symm⟩
    rw [List.reverse_prefix] at hother hend
    rw [Workspace.walked_append] at hend
    rcases Workspace.exists_walked_of_suffix hend with hback | ⟨before, hbefore, hne, hwalked⟩
    · rw [hback.sublist.antisymm hother.sublist]
    · -- The search has been at this place and has found nothing there.
      obtain ⟨passed, habsolute, hsegments, hnone⟩ := hpassed before hbefore hne
      obtain ⟨after, rfl⟩ := hbefore
      rw [← List.append_assoc, ← hsegments] at hthere
      refine absurd hhere ?_
      rw [← hwalked, ← Workspace.walked_append, ← hsegments]
      exact not_hasPackage_of_packageIn habsolute hthere.of_append hnone name'
  · refine Or.inr ⟨?_, habove⟩
    rw [Workspace.departed_append]
    rw [Workspace.walked_append] at habove
    exact List.mem_append_right _
      ((Workspace.suffix_or_mem_departed List.suffix_rfl).resolve_left habove)

/-- **The package that is found for a directory** is the nearest one that encloses it, or a `..` of
the path of the directory leads away from it and it does not enclose the directory. So it is the
nearest one where the path has no `..`. This needs that a `..` leads away from directories only,
as it does in a path that leads anywhere. -/
theorem isNearest_or_mem_departed (hdir : Path.isAbsolute w.dir.toList = true)
    (hthere : Workspace.LeavesDirectories w.tree (w.route start))
    (h : packageRoot w start = .ok (root, crate)) :
    (∃ name, HasPackage w.tree (w.place root) name ∧ crate = ModuleView.crateIdent name) ∧
      (IsNearest w.tree (w.place start) (w.place root) ∨
        (w.place root).reverse ∈ Workspace.departed (w.route start) [] ∧
          ¬ w.place root <+: w.place start) ∧
      (['.', '.'] ∉ w.route start → IsNearest w.tree (w.place start) (w.place root)) := by
  obtain ⟨found, rest, name, rfl, rfl, hfound, hsegments, hname, hpassed⟩ :=
    exists_of_packageRoot hdir h
  obtain ⟨hwalked, hdeparted⟩ :=
    Workspace.walked_segments (Path.isAbsolute_append hdir start.toList) []
  have hstart : w.place start =
      (Workspace.walked (Path.segments found ++ rest) []).reverse := by
    rw [Workspace.place, Workspace.route, hwalked, hsegments]
  have hleft : Workspace.departed (w.route start) [] =
      Workspace.departed (Path.segments found ++ rest) [] := by
    rw [Workspace.route, hdeparted, hsegments]
  have hends : IsNearest w.tree (w.place start) (w.place (String.ofList found)) ∨
      (w.place (String.ofList found)).reverse ∈ Workspace.departed (w.route start) [] ∧
        ¬ w.place (String.ofList found) <+: w.place start := by
    rw [Workspace.LeavesDirectories, hleft] at hthere
    rw [Workspace.place_ofList hfound, hstart, hleft, List.reverse_prefix, List.reverse_reverse]
    exact isNearest_or_departs hfound hthere hname hpassed
  refine ⟨⟨name, hasPackage_of_packageIn hname, rfl⟩, hends, fun hno => ?_⟩
  refine hends.resolve_right fun haway => ?_
  rw [Workspace.departed_eq_nil hno] at haway
  exact absurd haway.1 List.not_mem_nil

/-! ### A package inside another one -/

/-- A package inside another one and a directory beside it, seen from that package. -/
def nestedPackages : Workspace where
  tree := .directory
    [("Cargo.toml", .file (.text "[package]\nname = \"outer\"\n")),
      ("lab", .directory
        [("app", .directory [("Cargo.toml", .file (.text "[package]\nname = \"app\"\n"))]),
          ("other", .directory [])])]
  dir := "/lab/app"

/-- A path that leads out of the package and back into it. -/
theorem isNearest_or_mem_departed_back :
    IsNearest nestedPackages.tree (nestedPackages.place "../other/../app/src")
      (nestedPackages.place "/lab/app/../other/../app") := by
  have hsearch : (packageRoot nestedPackages "../other/../app/src").toOption.map id =
      some ("/lab/app/../other/../app", "app") := by decide +kernel
  obtain ⟨_, hroot, rfl⟩ := Outcome.exists_of_map_toOption hsearch
  have hlocate : nestedPackages.locate "../other/../app/src" = .ok ["lab", "app", "src"] := rfl
  have hthere := Workspace.leavesDirectories_of_locate hlocate
  exact (isNearest_or_mem_departed (by decide) hthere hroot).2.1.resolve_right
    fun h => h.2 (by decide)

/-- **What is found need not enclose the directory**: seen from the package, the search for the
directory beside it ends in that package, and not in the one around both. -/
theorem exists_packageRoot_not_isNearest :
    ¬ ∀ (w : Workspace) (start root crate : String), Path.isAbsolute w.dir.toList = true →
      packageRoot w start = .ok (root, crate) →
        IsNearest w.tree (w.place start) (w.place root) := by
  intro h
  have hsearch : (packageRoot nestedPackages "../other").toOption.map id =
      some ("/lab/app", "app") := by decide +kernel
  obtain ⟨_, hroot, rfl⟩ := Outcome.exists_of_map_toOption hsearch
  have hnearest := h nestedPackages "../other" "/lab/app" "app" (by decide) hroot
  exact absurd hnearest.above (by decide)

end Manifest

end ServiceGen
