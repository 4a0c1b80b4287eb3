import ServiceGen.Proofs.Places

/-!
# Evolving Workspaces

A workspace evolves by making directories and writing texts to files: `Evolves` says that
nothing is lost on the way, and that what becomes of the file at a place is a chain of edits
(`Edits`) that a rule allows at this place. Both steps are such (`evolves_withDirectories`,
`evolves_withText`), and steps add up (`Evolves.trans`).

What a path leads to then evolves as well (`Evolves.edits_file?`), if nothing on the way of the
path is left before it is there. Otherwise a path can come to lead to a file that has been there
all along.
-/

namespace ServiceGen

open Relation (ReflTransGen)

/-- Which texts may be written to a file at a place, given what it holds so far. -/
abbrev EditRule := List String → Option FileContent → String → Prop

/-- A chain of edits that a rule allows at a place. -/
def Edits (A : EditRule) (place : List String) : Option FileContent → Option FileContent → Prop :=
  ReflTransGen fun before after => ∃ text, A place before text ∧ after = some (.text text)

theorem Edits.refl {A : EditRule} {place : List String} (content : Option FileContent) :
    Edits A place content content :=
  ReflTransGen.refl

theorem Edits.single {A : EditRule} {place : List String} {before : Option FileContent}
    {text : String} (h : A place before text) : Edits A place before (some (.text text)) :=
  ReflTransGen.single ⟨text, h, rfl⟩

/-- Edits are also those that a wider rule allows. -/
theorem Edits.mono {A B : EditRule} {place : List String} {before after : Option FileContent}
    (h : Edits A place before after)
    (hAB : ∀ before text, A place before text → B place before text) :
    Edits B place before after :=
  ReflTransGen.mono (fun _ _ ⟨text, hA, hafter⟩ => ⟨text, hAB _ text hA, hafter⟩) _ _ h

/-- Where nothing may be written, nothing changes. -/
theorem Edits.eq_of_forall_not {A : EditRule} {place : List String}
    {before after : Option FileContent} (h : Edits A place before after)
    (hA : ∀ before text, ¬ A place before text) : after = before := by
  rcases ReflTransGen.cases_head h with heq | ⟨_, ⟨text, hedit, -⟩, -⟩
  · exact heq.symm
  · exact absurd hedit (hA before text)

/-- What edits bring up is a text. -/
theorem Edits.exists_text {A : EditRule} {place : List String} {content : FileContent}
    (h : Edits A place none (some content)) : ∃ text, content = .text text := by
  rcases ReflTransGen.cases_tail h with heq | ⟨_, -, text, -, heq⟩
  · cases heq
  · exact ⟨text, Option.some.inj heq⟩

/-- What is there stays there. -/
theorem Edits.exists_content {A : EditRule} {place : List String} {content : FileContent}
    {after : Option FileContent} (h : Edits A place (some content) after) :
    ∃ content', after = some content' := by
  rcases ReflTransGen.cases_tail h with heq | ⟨_, -, text, -, heq⟩
  · exact ⟨content, heq⟩
  · exact ⟨.text text, heq⟩

/-- Edits of a text are a chain of changes, as the rule allows them. -/
theorem Edits.exists_reflTransGen {A : EditRule} {place : List String} {R : String → String → Prop}
    (hA : ∀ old text, A place (some (.text old)) text → R old text) {old : String}
    {after : Option FileContent} (h : Edits A place (some (.text old)) after) :
    ∃ new, after = some (.text new) ∧ ReflTransGen R old new := by
  induction h with
  | refl => exact ⟨old, rfl, .refl⟩
  | tail _ hstep ih =>
      obtain ⟨text, hedit, rfl⟩ := hstep
      obtain ⟨new, rfl, hchain⟩ := ih
      exact ⟨text, rfl, hchain.tail (hA new text hedit)⟩

/-! ### Something new in a tree -/

namespace FileTree

/-- What the file at a place holds. -/
def contentAt? (tree : FileTree) (place : List String) : Option FileContent :=
  match tree.at? place with
  | some (.file content) => some content
  | _ => none

/-- The content at a place is that of the file there. -/
theorem contentAt?_eq_some_iff {tree : FileTree} {place : List String} {content : FileContent} :
    tree.contentAt? place = some content ↔ tree.at? place = some (.file content) := by
  rw [contentAt?]
  split
  · rename_i other h
    simp [h]
  · rename_i h
    constructor
    · rintro ⟨⟩
    · intro hfile
      exact absurd hfile (h content)

/-- A file with a text, or else a directory without entries. -/
def leaf : Option String → FileTree
  | some text => .file (.text text)
  | none => .empty

/-- Only a leaf with a text is a file. -/
theorem isFile_leaf (t : Option String) : (leaf t).isFile = t.isSome := by
  cases t <;> rfl

theorem at?_leaf_cons (t : Option String) (name : String) (rest : List String) :
    (leaf t).at? (name :: rest) = none := by
  cases t <;> rfl

/-- A leaf has one file if it has a text, and else none. -/
theorem mem_files_leaf {t : Option String} {f : List String × FileContent} :
    f ∈ (leaf t).files ↔ ∃ text, t = some text ∧ f = ([], .text text) := by
  cases t with
  | none =>
      have hempty : (leaf none).files = [] := rfl
      simp [hempty]
  | some text =>
      have hfile : (leaf (some text)).files = [([], .text text)] := rfl
      simp [hfile]

/-! ### A new leaf -/

section Leaf

variable {tree : FileTree} {place : List String} {t : Option String}

/-- A place for a new leaf: its directory is there, and it is free or that of a file. -/
structure Open (tree : FileTree) (place : List String) : Prop where
  ground : ∀ above name rest, place = above ++ name :: rest →
    ∃ entries, tree.at? above = some (directory entries)
  free : ∀ found, tree.at? place = some found → found.isFile = true

/-- What is put at an open place is there. -/
theorem Open.at?_put_self (h : Open tree place) :
    (put (leaf t) place tree).at? place = some (leaf t) := by
  rcases List.eq_nil_or_concat place with rfl | ⟨above, name, hplace⟩
  · rw [at?_nil]
    rfl
  · rw [List.concat_eq_append] at hplace
    subst hplace
    obtain ⟨entries, hentries⟩ := h.ground above name [] rfl
    rw [at?_put_append hentries, at?_nil]

/-- Places that are not above the new leaf lead to what they led to. -/
theorem Open.at?_put_of_not_prefix (h : Open tree place) {other : List String}
    (hother : ¬ other <+: place) :
    (put (leaf t) place tree).at? other = tree.at? other := by
  by_cases hbelow : place <+: other
  · obtain ⟨rest, rfl⟩ := hbelow
    cases rest with
    | nil => exact absurd (by rw [List.append_nil]) hother
    | cons name rest =>
        rw [at?_append, h.at?_put_self, Option.bind_some, at?_leaf_cons, at?_append]
        cases hfound : tree.at? place with
        | none => rfl
        | some found =>
            cases found with
            | file content => rfl
            | directory entries => cases h.free _ hfound
  · rcases List.eq_nil_or_concat place with rfl | ⟨above, name, hplace⟩
    · exact absurd List.nil_prefix hbelow
    · rw [List.concat_eq_append] at hplace
      subst hplace
      obtain ⟨entries, hentries⟩ := h.ground above name [] rfl
      exact at?_put_of_unrelated hentries hbelow hother

end Leaf

end FileTree

/-- **A workspace evolves**: what is there stays, directories stay directories and files files,
and whatever becomes of a file is a chain of edits that the rule allows at its place. -/
structure Evolves (A : EditRule) (w w' : Workspace) : Prop where
  dir : w'.dir = w.dir
  stays : ∀ {place found}, w.tree.at? place = some found →
    ∃ found', w'.tree.at? place = some found' ∧ found'.isFile = found.isFile ∧
      ∀ rest content, (rest, content) ∈ found.files →
        ∃ content', (rest, content') ∈ found'.files ∧
          Edits A (place ++ rest) (some content) (some content')
  comes : ∀ {place found'}, w'.tree.at? place = some found' →
    ∀ rest content', (rest, content') ∈ found'.files →
      (∃ found content, w.tree.at? place = some found ∧ (rest, content) ∈ found.files ∧
        Edits A (place ++ rest) (some content) (some content')) ∨
      Edits A (place ++ rest) none (some content')

namespace Evolves

variable {A B : EditRule} {w w' w'' : Workspace} {place : List String} {path : String}

theorem refl (A : EditRule) (w : Workspace) : Evolves A w w where
  dir := rfl
  stays {_ found} h := ⟨found, h, rfl, fun _ content hmem => ⟨content, hmem, .refl _⟩⟩
  comes {_ found} h := fun _ content hmem => Or.inl ⟨found, content, h, hmem, .refl _⟩

/-- Evolutions follow one another. -/
theorem trans (h : Evolves A w w') (h' : Evolves A w' w'') : Evolves A w w'' where
  dir := h'.dir.trans h.dir
  stays {place found} hfound := by
    obtain ⟨found', hfound', hkind, hfiles⟩ := h.stays hfound
    obtain ⟨found'', hfound'', hkind', hfiles'⟩ := h'.stays hfound'
    refine ⟨found'', hfound'', hkind'.trans hkind, fun rest content hmem => ?_⟩
    obtain ⟨content', hmem', hedits⟩ := hfiles rest content hmem
    obtain ⟨content'', hmem'', hedits'⟩ := hfiles' rest content' hmem'
    exact ⟨content'', hmem'', ReflTransGen.trans hedits hedits'⟩
  comes {place found''} hfound'' := by
    intro rest content'' hmem''
    rcases h'.comes hfound'' rest content'' hmem'' with
      ⟨found', content', hfound', hmem', hedits'⟩ | hedits'
    · rcases h.comes hfound' rest content' hmem' with
        ⟨found, content, hfound, hmem, hedits⟩ | hedits
      · exact Or.inl ⟨found, content, hfound, hmem, ReflTransGen.trans hedits hedits'⟩
      · exact Or.inr (ReflTransGen.trans hedits hedits')
    · exact Or.inr hedits'

/-- An evolution is also one that a wider rule allows. -/
theorem mono (h : Evolves A w w')
    (hAB : ∀ place before text, A place before text → B place before text) :
    Evolves B w w' where
  dir := h.dir
  stays {place found} hfound := by
    obtain ⟨found', hfound', hkind, hfiles⟩ := h.stays hfound
    refine ⟨found', hfound', hkind, fun rest content hmem => ?_⟩
    obtain ⟨content', hmem', hedits⟩ := hfiles rest content hmem
    exact ⟨content', hmem', hedits.mono (hAB _)⟩
  comes {place found'} hfound' := fun rest content' hmem' =>
    (h.comes hfound' rest content' hmem').imp
      (fun ⟨found, content, hfound, hmem, hedits⟩ =>
        ⟨found, content, hfound, hmem, hedits.mono (hAB _)⟩)
      fun hedits => hedits.mono (hAB _)

/-! ### Steps -/

section Put

open FileTree

variable {t : Option String}

/-- A file that was at the place of a new leaf is edited. -/
theorem exists_edits_of_at? (hopen : Open w.tree place)
    (hkind : ∀ found, w.tree.at? place = some found → t.isSome)
    (hedit : ∀ text, t = some text → A place (w.tree.contentAt? place) text)
    {old : FileTree} {rest : List String} {content : FileContent}
    (hold : w.tree.at? place = some old) (hmem : (rest, content) ∈ old.files) :
    rest = [] ∧ ∃ text, t = some text ∧
      Edits A place (some content) (some (.text text)) := by
  obtain ⟨text, htext⟩ := Option.isSome_iff_exists.mp (hkind old hold)
  cases old with
  | directory entries => cases hopen.free _ hold
  | file other =>
      obtain ⟨rfl, rfl⟩ := Prod.mk.inj (List.mem_singleton.mp (files_file other ▸ hmem))
      refine ⟨rfl, text, htext, .single ?_⟩
      exact contentAt?_eq_some_iff.mpr hold ▸ hedit text htext

/-- What stands on the way to a new leaf, or at its place, stays a directory or a file. -/
theorem isFile_put_leaf {above further : List String} (hopen : Open w.tree (above ++ further))
    (hkind : ∀ found, w.tree.at? (above ++ further) = some found → t.isSome) {found : FileTree}
    (hfound : w.tree.at? above = some found) :
    (FileTree.put (leaf t) further found).isFile = found.isFile := by
  cases further with
  | nil =>
      rw [List.append_nil] at hopen hkind
      rw [FileTree.put, isFile_leaf, hkind found hfound, hopen.free found hfound]
  | cons name further =>
      obtain ⟨entries, hentries⟩ := hopen.ground above name further rfl
      obtain rfl := Option.some.inj (hfound.symm.trans hentries)
      rfl

/-- Files on the way to a new leaf stay, and a file at its place is edited. -/
theorem stays_above {above further : List String} (hopen : Open w.tree (above ++ further))
    (hkind : ∀ found, w.tree.at? (above ++ further) = some found → t.isSome)
    (hedit : ∀ text, t = some text →
      A (above ++ further) (w.tree.contentAt? (above ++ further)) text)
    {found : FileTree} (hfound : w.tree.at? above = some found) {rest : List String}
    {content : FileContent} (hmem : (rest, content) ∈ found.files) :
    ∃ content', (rest, content') ∈ (FileTree.put (leaf t) further found).files ∧
      Edits A (above ++ rest) (some content) (some content') := by
  rcases mem_files_put_of_mem (leaf t) further hmem with hstays | ⟨old, r, hold, rfl, hbelow⟩
  · exact ⟨content, hstays, .refl _⟩
  · have hplace : w.tree.at? (above ++ further) = some old := by
      rw [at?_append, hfound, Option.bind_some, hold]
    obtain ⟨rfl, text, htext, hedits⟩ := exists_edits_of_at? hopen hkind hedit hplace hbelow
    have hself := hopen.at?_put_self (t := t)
    rw [at?_append, at?_put_above hfound, Option.bind_some] at hself
    rw [List.append_nil]
    have hleaf := mem_files_of_at? hself (mem_files_leaf.mpr ⟨text, htext, rfl⟩)
    rw [List.append_nil] at hleaf
    exact ⟨.text text, hleaf, hedits⟩

/-- The file that a new leaf is comes of an edit of what was at its place. -/
theorem edits_leaf (hedit : ∀ text, t = some text → A place (w.tree.contentAt? place) text)
    {rest : List String} {content : FileContent} (hmem : (rest, content) ∈ (leaf t).files) :
    rest = [] ∧ Edits A place (w.tree.contentAt? place) (some content) := by
  obtain ⟨text, htext, hfile⟩ := mem_files_leaf.mp hmem
  obtain ⟨rfl, rfl⟩ := Prod.mk.inj hfile
  exact ⟨rfl, .single (hedit text htext)⟩

/-- Files on the way to a new leaf were there before, or hold its text. -/
theorem comes_above {above further : List String} (hopen : Open w.tree (above ++ further))
    (hedit : ∀ text, t = some text →
      A (above ++ further) (w.tree.contentAt? (above ++ further)) text)
    {found' : FileTree}
    (hfound' : (FileTree.put (leaf t) (above ++ further) w.tree).at? above = some found')
    {rest : List String} {content' : FileContent} (hmem' : (rest, content') ∈ found'.files) :
    (∃ found content, w.tree.at? above = some found ∧ (rest, content) ∈ found.files ∧
        Edits A (above ++ rest) (some content) (some content')) ∨
      Edits A (above ++ rest) none (some content') := by
  cases hfound : w.tree.at? above with
  | some found =>
      rw [at?_put_above hfound, Option.some.injEq] at hfound'
      subst hfound'
      rcases of_mem_files_put hmem' with hold | ⟨r, rfl, hleaf⟩
      · exact Or.inl ⟨found, content', rfl, hold, .refl _⟩
      · obtain ⟨rfl, hedits⟩ := edits_leaf hedit hleaf
        rw [List.append_nil]
        cases hcontent : w.tree.contentAt? (above ++ further) with
        | none => exact Or.inr (hcontent ▸ hedits)
        | some content =>
            have hfile := contentAt?_eq_some_iff.mp hcontent
            rw [at?_append, hfound, Option.bind_some] at hfile
            have hmem := mem_files_of_at? hfile (files_file content ▸ List.mem_singleton_self _)
            rw [List.append_nil] at hmem
            exact Or.inl ⟨found, content, rfl, hmem, hcontent ▸ hedits⟩
  | none =>
      cases further with
      | cons name further =>
          obtain ⟨entries, hentries⟩ := hopen.ground above name further rfl
          rw [hfound] at hentries
          cases hentries
      | nil =>
          rw [List.append_nil] at hopen hedit hfound'
          obtain rfl := Option.some.inj (hopen.at?_put_self.symm.trans hfound')
          obtain ⟨rfl, hedits⟩ := edits_leaf hedit hmem'
          rw [contentAt?, hfound] at hedits
          rw [List.append_nil]
          exact Or.inr hedits

/-- **A new leaf** is an evolution, if its text may be written to its place. -/
theorem put (hopen : Open w.tree place)
    (hkind : ∀ found, w.tree.at? place = some found → t.isSome)
    (hedit : ∀ text, t = some text → A place (w.tree.contentAt? place) text) :
    Evolves A w { w with tree := FileTree.put (leaf t) place w.tree } where
  dir := rfl
  stays {other found} hfound := by
    by_cases hprefix : other <+: place
    · obtain ⟨further, rfl⟩ := hprefix
      exact ⟨_, at?_put_above hfound, isFile_put_leaf hopen hkind hfound,
        fun rest content => stays_above hopen hkind hedit hfound⟩
    · exact ⟨found, (hopen.at?_put_of_not_prefix hprefix).trans hfound, rfl,
        fun _ content hmem => ⟨content, hmem, .refl _⟩⟩
  comes {other found'} hfound' rest content' hmem' := by
    by_cases hprefix : other <+: place
    · obtain ⟨further, rfl⟩ := hprefix
      exact comes_above hopen hedit hfound' hmem'
    · rw [hopen.at?_put_of_not_prefix hprefix] at hfound'
      exact Or.inl ⟨found', content', hfound', hmem', .refl _⟩

end Put

end Evolves

namespace Workspace

variable {A : EditRule} {w w' : Workspace} {path : String}

/-- A path that is located ends at a place for a leaf, if there is no directory. -/
theorem open_of_locate {place : List String} (h : w.locate path = .ok place)
    (hfree : ∀ entries, w.tree.at? place ≠ some (.directory entries)) :
    FileTree.Open w.tree place where
  ground above name rest hplace := exists_directory_of_locate h hplace
  free found hfound := by
    cases found with
    | file content => rfl
    | directory entries => exact absurd hfound (hfree entries)

/-- A path without a slash at its end has none to remove there. -/
theorem ofList_dropWhile_slash (h : path.toList.getLast? ≠ some '/') :
    String.ofList (path.toList.reverse.dropWhile (· == '/')).reverse = path := by
  have hkept : path.toList.reverse.dropWhile (· == '/') = path.toList.reverse := by
    cases hreverse : path.toList.reverse with
    | nil => rfl
    | cons c cs =>
        have hlast : path.toList.getLast? = some c := by
          rw [← List.head?_reverse, hreverse, List.head?_cons]
        refine List.dropWhile_cons_of_neg ?_
        rw [beq_iff_eq]
        rintro rfl
        exact h hlast
  rw [hkept, List.reverse_reverse, String.ofList_toList]

/-- What writing a text does. -/
theorem of_withText_eq_ok {text : String} (h : w.withText path text = .ok w') :
    w.locate path = .ok (w.place path) ∧ FileTree.Open w.tree (w.place path) ∧
      w' = { w with tree := FileTree.put (.file (.text text)) (w.place path) w.tree } := by
  rw [withText] at h
  obtain ⟨place, hplace, h⟩ := Outcome.bind_eq_ok.mp h
  by_cases hslash : path.toList.getLast? = some '/'
  · rw [if_pos (by simpa using hslash)] at h
    cases h
  · rw [if_neg (by simpa using hslash)] at h
    rw [ofList_dropWhile_slash hslash] at hplace
    obtain rfl := (locate_eq_ok_iff.mp hplace).1
    refine ⟨hplace, open_of_locate hplace fun entries hentries => ?_, ?_⟩
    · simp only [hentries] at h
      cases h
    · cases hfound : w.tree.at? (w.place path) with
      | none =>
          simp only [hfound] at h
          exact (Except.ok.inj h).symm
      | some found =>
          cases found with
          | file content =>
              simp only [hfound] at h
              exact (Except.ok.inj h).symm
          | directory entries =>
              simp only [hfound] at h
              cases h

/-- What making a directory does. -/
theorem of_withDirectory_eq_ok (h : w.withDirectory path = .ok w') :
    FileTree.Open w.tree (w.place path) ∧ w.tree.at? (w.place path) = none ∧
      w' = { w with tree := FileTree.put .empty (w.place path) w.tree } := by
  obtain ⟨place, hplace, h⟩ := Outcome.bind_eq_ok.mp h
  obtain rfl := (locate_eq_ok_iff.mp hplace).1
  split at h
  · cases h
  · rename_i hnone
    refine ⟨open_of_locate hplace fun entries hentries => ?_, hnone, (Except.ok.inj h).symm⟩
    rw [hnone] at hentries
    cases hentries

/-- **Writing a text** is an evolution. -/
theorem evolves_withText {text : String} (h : w.withText path text = .ok w')
    (hedit : A (w.place path) (w.tree.contentAt? (w.place path)) text) : Evolves A w w' := by
  obtain ⟨-, hopen, rfl⟩ := of_withText_eq_ok h
  exact Evolves.put (t := some text) hopen (fun _ _ => rfl) (by
    rintro _ ⟨⟩
    exact hedit)

/-- **Making a directory** edits no file. -/
theorem evolves_withDirectory (h : w.withDirectory path = .ok w') : Evolves A w w' := by
  obtain ⟨hopen, hnone, rfl⟩ := of_withDirectory_eq_ok h
  exact Evolves.put (t := none) hopen
    (fun found hfound => by rw [hnone] at hfound; cases hfound) (by rintro _ ⟨⟩)

/-- **Making directories** is an evolution, whatever the rule. -/
theorem evolves_withDirectories (h : w.withDirectories path = .ok w') : Evolves A w w' := by
  rw [withDirectories] at h
  generalize (Path.allAncestors path.toList).map String.ofList = paths at h
  induction paths generalizing w' with
  | nil =>
      cases h
      exact .refl A w
  | cons path above ih =>
      rw [withDirectoriesFrom] at h
      split at h
      · cases h
        exact .refl A w
      · split at h
        · rename_i made hmade
          cases h
          exact evolves_withDirectory hmade
        · obtain ⟨w₁, habove, h⟩ := Outcome.bind_eq_ok.mp h
          refine (ih habove).trans ?_
          split at h
          · rename_i made hmade
            cases h
            exact evolves_withDirectory hmade
          · split at h
            · cases h
              exact .refl A _
            · cases h
        · split at h
          · cases h
            exact .refl A w
          · cases h

/-! ### What a path leads to -/

/-- What a path leads to is what is at its place, if it leads there. -/
theorem look_eq_ok_iff {node : FileTree} : w.look path = .ok node ↔
    path.isEmpty = false ∧ w.locate path = .ok (w.place path) ∧
      w.tree.at? (w.place path) = some node := by
  rw [look]
  by_cases hempty : path.isEmpty = true
  · rw [if_pos hempty, hempty]
    constructor
    · rintro ⟨⟩
    · rintro ⟨⟨⟩, -⟩
  · have hnonempty : path.isEmpty = false := by simpa using hempty
    rw [if_neg hempty, hnonempty]
    constructor
    · intro h
      obtain ⟨place, hplace, h⟩ := Outcome.bind_eq_ok.mp h
      obtain rfl := (locate_eq_ok_iff.mp hplace).1
      split at h
      · rename_i found hfound
        cases h
        exact ⟨rfl, hplace, hfound⟩
      · cases h
    · rintro ⟨-, hplace, hnode⟩
      refine Outcome.bind_eq_ok.mpr ⟨w.place path, hplace, ?_⟩
      rw [hnode]
      rfl

/-- What the file that a path leads to holds. -/
def file? (w : Workspace) (path : String) : Option FileContent :=
  (w.content path).toOption

/-- The content of a path is that of the file that it leads to. -/
theorem content_eq_ok_iff {content : FileContent} :
    w.content path = .ok content ↔ w.look path = .ok (.file content) := by
  rw [Workspace.content, Outcome.bind_eq_ok]
  constructor
  · rintro ⟨found, hfound, h⟩
    cases found with
    | file other =>
        cases h
        exact hfound
    | directory entries => cases h
  · intro h
    exact ⟨_, h, rfl⟩

/-- **What a path leads to** is the file at its place, if the way there goes through directories
only. -/
theorem file?_eq_some_iff {content : FileContent} : w.file? path = some content ↔
    path.isEmpty = false ∧ w.locate path = .ok (w.place path) ∧
      w.tree.contentAt? (w.place path) = some content := by
  rw [FileTree.contentAt?_eq_some_iff, ← look_eq_ok_iff, ← content_eq_ok_iff, file?]
  cases w.content path with
  | error fault => simp [Except.toOption]
  | ok other => simp [Except.toOption]

/-- A path that is located leads to the file at its place. -/
theorem file?_of_locate (hempty : path.isEmpty = false)
    (hlocate : w.locate path = .ok (w.place path)) :
    w.file? path = w.tree.contentAt? (w.place path) := by
  refine Option.ext fun content => ?_
  rw [file?_eq_some_iff]
  exact ⟨fun h => h.2.2, fun h => ⟨hempty, hlocate, h⟩⟩

/-- A path leads to a file if there is something in it. -/
theorem isFile_eq (w : Workspace) (path : String) : w.isFile path = (w.file? path).isSome := by
  rw [isFile, file?, Workspace.content]
  cases w.look path with
  | error fault => rfl
  | ok found => cases found <;> rfl

/-- The text of a file is what it holds, unless that is no text. -/
theorem text_eq {content : FileContent} (h : w.file? path = some content) :
    w.text path = match content.text? with
      | some text => .ok text
      | none => .error .notText := by
  rw [file?_eq_some_iff, FileTree.contentAt?_eq_some_iff, ← look_eq_ok_iff,
    ← content_eq_ok_iff] at h
  rw [text, h]
  cases content <;> rfl

/-- A path leads somewhere if there is something at its place, and the way there goes through
directories only. -/
theorem exists?_eq_true_iff : w.exists? path = true ↔
    path.isEmpty = false ∧ w.locate path = .ok (w.place path) ∧
      (w.tree.at? (w.place path)).isSome := by
  rw [exists?]
  cases hlook : w.look path with
  | ok node =>
      obtain ⟨hempty, hplace, hnode⟩ := look_eq_ok_iff.mp hlook
      simp [hempty, hplace, hnode, Except.toOption]
  | error fault =>
      refine iff_of_false (by simp [Except.toOption]) ?_
      rintro ⟨hempty, hplace, hnode⟩
      obtain ⟨node, hnode⟩ := Option.isSome_iff_exists.mp hnode
      rw [look_eq_ok_iff.mpr ⟨hempty, hplace, hnode⟩] at hlook
      cases hlook

/-- A file that a path leads to is there. -/
theorem exists?_of_file? {content : FileContent} (h : w.file? path = some content) :
    w.exists? path = true := by
  obtain ⟨hempty, hplace, hcontent⟩ := file?_eq_some_iff.mp h
  rw [exists?_eq_true_iff, FileTree.contentAt?_eq_some_iff.mp hcontent]
  exact ⟨hempty, hplace, rfl⟩

/-- A path with a slash at its end leads to no file. -/
theorem getLast?_of_file? {content : FileContent} (h : w.file? path = some content) :
    path.toList.getLast? ≠ some '/' := by
  intro hslash
  obtain ⟨-, hlocate, hcontent⟩ := file?_eq_some_iff.mp h
  obtain ⟨-, hpassed⟩ := locate_eq_ok_iff.mp hlocate
  have hne : path.toList ≠ [] := by
    intro hnil
    rw [hnil] at hslash
    cases hslash
  have hlast := (getLast?_append hne w.dir.toList).trans hslash
  -- The last piece is taken in the place that the path leads to.
  have hroute : w.route path =
      Workspace.named (Path.append w.dir.toList path.toList) ++ [['.']] := by
    rw [route, pieces, if_pos (by simpa using hlast)]
    rfl
  obtain ⟨entries, hentries⟩ := hpassed (w.place path).reverse (by
    rw [place, List.reverse_reverse, (walked_route w path []).1, hroute, passed_append]
    exact List.mem_append_right _ (List.mem_singleton_self _))
  rw [List.reverse_reverse, FileTree.contentAt?_eq_some_iff.mp hcontent] at hentries
  cases hentries

/-- **A file that is there can be written.** -/
theorem exists_withText {content : FileContent} (h : w.file? path = some content) (text : String) :
    ∃ w', w.withText path text = .ok w' := by
  obtain ⟨-, hlocate, hcontent⟩ := file?_eq_some_iff.mp h
  have hslash := getLast?_of_file? h
  refine ⟨{ w with tree := FileTree.put (.file (.text text)) (w.place path) w.tree }, ?_⟩
  rw [withText, ofList_dropWhile_slash hslash, hlocate, Outcome.ok_bind,
    if_neg (by simpa using hslash)]
  dsimp only
  rw [FileTree.contentAt?_eq_some_iff.mp hcontent]
  rfl

end Workspace

namespace Evolves

variable {A : EditRule} {w w' : Workspace} {path : String}

theorem route (h : Evolves A w w') (path : String) : w'.route path = w.route path := by
  rw [Workspace.route, Workspace.route, h.dir]

/-- A path has the same place all along. -/
theorem place (h : Evolves A w w') (path : String) : w'.place path = w.place path := by
  rw [Workspace.place, Workspace.place, h.route]

/-- What is there stays there. -/
theorem isSome_at? (h : Evolves A w w') {place : List String} (hthere : (w.tree.at? place).isSome) :
    (w'.tree.at? place).isSome := by
  obtain ⟨found, hfound⟩ := Option.isSome_iff_exists.mp hthere
  obtain ⟨found', hfound', -⟩ := h.stays hfound
  exact Option.isSome_iff_exists.mpr ⟨found', hfound'⟩

/-- A directory stays one. -/
theorem exists_directory (h : Evolves A w w') {place : List String}
    (hdirectory : ∃ entries, w.tree.at? place = some (.directory entries)) :
    ∃ entries, w'.tree.at? place = some (.directory entries) := by
  obtain ⟨entries, hentries⟩ := hdirectory
  obtain ⟨found', hfound', hkind, -⟩ := h.stays hentries
  cases found' with
  | file content => cases hkind
  | directory entries' => exact ⟨entries', hfound'⟩

/-- A directory was one before, if it was there. -/
theorem exists_directory_before (h : Evolves A w w') {place : List String}
    (hthere : (w.tree.at? place).isSome)
    (hdirectory : ∃ entries, w'.tree.at? place = some (.directory entries)) :
    ∃ entries, w.tree.at? place = some (.directory entries) := by
  obtain ⟨found, hfound⟩ := Option.isSome_iff_exists.mp hthere
  obtain ⟨entries, hentries⟩ := hdirectory
  obtain ⟨found', hfound', hkind, -⟩ := h.stays hfound
  obtain rfl := Option.some.inj (hentries.symm.trans hfound')
  cases found with
  | file content => cases hkind
  | directory entries => exact ⟨entries, hfound⟩

/-- A settled path stays settled. -/
theorem settled (h : Evolves A w w') (hsettled : w.Settled path) : w'.Settled path := by
  intro above habove
  rw [h.route] at habove
  exact h.isSome_at? (hsettled above habove)

/-- A path that leads to its place still does. -/
theorem locate (h : Evolves A w w') (hlocate : w.locate path = .ok (w.place path)) :
    w'.locate path = .ok (w'.place path) := by
  obtain ⟨-, hpassed⟩ := Workspace.locate_eq_ok_iff.mp hlocate
  refine Workspace.locate_eq_ok_iff.mpr ⟨rfl, fun above habove => ?_⟩
  rw [h.route] at habove
  exact h.exists_directory (hpassed above habove)

/-- A path that is located was so before, if its place was there and nothing on the way is
left before it is there. -/
theorem locate_before (h : Evolves A w w') (hsettled : w.Settled path)
    (hlocate : w'.locate path = .ok (w'.place path))
    (hthere : (w.tree.at? (w.place path)).isSome) : w.locate path = .ok (w.place path) := by
  refine hsettled.locate_eq_ok hthere fun above habove hsome => ?_
  obtain ⟨-, hpassed⟩ := Workspace.locate_eq_ok_iff.mp hlocate
  rw [h.route] at hpassed
  exact h.exists_directory_before hsome (hpassed above habove)

/-- What a path leads to stays there. -/
theorem exists? (h : Evolves A w w') (hexists : w.exists? path = true) :
    w'.exists? path = true := by
  obtain ⟨hempty, hlocate, hthere⟩ := Workspace.exists?_eq_true_iff.mp hexists
  exact Workspace.exists?_eq_true_iff.mpr
    ⟨hempty, h.locate hlocate, h.place path ▸ h.isSome_at? hthere⟩

/-- What becomes of the file at a place. -/
theorem edits_contentAt? (h : Evolves A w w') (place : List String) :
    Edits A place (w.tree.contentAt? place) (w'.tree.contentAt? place) := by
  cases hcontent : w.tree.contentAt? place with
  | some content =>
      obtain ⟨found', hfound', hkind, hfiles⟩ :=
        h.stays (FileTree.contentAt?_eq_some_iff.mp hcontent)
      obtain ⟨content', hmem', hedits⟩ := hfiles [] content
        (FileTree.files_file content ▸ List.mem_singleton_self _)
      cases found' with
      | directory entries => cases hkind
      | file other =>
          obtain ⟨-, rfl⟩ := Prod.mk.inj (List.mem_singleton.mp (FileTree.files_file other ▸ hmem'))
          rw [List.append_nil] at hedits
          rw [FileTree.contentAt?_eq_some_iff.mpr hfound']
          exact hedits
  | none =>
      cases hcontent' : w'.tree.contentAt? place with
      | none => exact .refl none
      | some content' =>
          rcases h.comes (FileTree.contentAt?_eq_some_iff.mp hcontent') [] content'
            (FileTree.files_file content' ▸ List.mem_singleton_self _) with
            ⟨found, content, hfound, hmem, -⟩ | hedits
          · cases found with
            | file other =>
                rw [FileTree.contentAt?_eq_some_iff.mpr hfound] at hcontent
                cases hcontent
            | directory entries =>
                obtain ⟨entry, -, rest, hplace, -⟩ := FileTree.mem_files_directory.mp hmem
                cases hplace
          · rwa [List.append_nil] at hedits

/-- **What becomes of the file that a path leads to**, if nothing on the way is left before it
is there. -/
theorem edits_file? (h : Evolves A w w') (hsettled : w.Settled path) :
    Edits A (w.place path) (w.file? path) (w'.file? path) := by
  have hedits := h.edits_contentAt? (w.place path)
  rw [← h.place path] at hedits ⊢
  cases hfile : w.file? path with
  | some content =>
      obtain ⟨hempty, hlocate, -⟩ := Workspace.file?_eq_some_iff.mp hfile
      rw [h.place, ← Workspace.file?_of_locate hempty hlocate, ← h.place,
        ← Workspace.file?_of_locate hempty (h.locate hlocate), hfile] at hedits
      exact hedits
  | none =>
      cases hfile' : w'.file? path with
      | none => exact .refl none
      | some content' =>
          obtain ⟨hempty, hlocate, hcontent'⟩ := Workspace.file?_eq_some_iff.mp hfile'
          rw [hcontent'] at hedits
          cases hcontent : w.tree.contentAt? (w'.place path) with
          | none => exact hcontent ▸ hedits
          | some content =>
              have hthere : (w.tree.at? (w.place path)).isSome := by
                rw [← h.place, FileTree.contentAt?_eq_some_iff.mp hcontent]
                rfl
              rw [Workspace.file?_of_locate hempty (h.locate_before hsettled hlocate hthere),
                ← h.place, hcontent] at hfile
              cases hfile

end Evolves

/-- A text that is written is there. -/
theorem Workspace.file?_of_withText {w w' : Workspace} {path text : String}
    (hempty : path.isEmpty = false) (h : w.withText path text = .ok w') : w'.file? path = some (.text text) := by
  have hevolves : Evolves (fun _ _ _ => True) w w' := evolves_withText h trivial
  obtain ⟨hlocate, hopen, rfl⟩ := of_withText_eq_ok h
  rw [file?_of_locate hempty (hevolves.locate hlocate), hevolves.place,
    FileTree.contentAt?_eq_some_iff]
  exact FileTree.Open.at?_put_self (t := some text) hopen

end ServiceGen
