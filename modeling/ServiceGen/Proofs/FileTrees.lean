import ServiceGen.FileTree
import ServiceGen.Proofs.Chains

/-!
# Changing File Trees

What putting something at a place of a tree changes. A place whose directory is there then
leads to what was put (`at?_put_append`), the places above it still lead to directories
(`at?_put_above`), and all others lead to what they led to (`at?_put_of_unrelated`).

The same for the files of a tree, each with its place: those outside the place stay
(`mem_files_put_of_mem`), and no others come up but those put there (`of_mem_files_put`).
-/

namespace ServiceGen

/-! ### Ascending entries -/

namespace Entries

variable {α : Type} {name : String} {value : α} {entries : Entries α}

/-- The entry that was put is found. -/
theorem get?_putSorted_self : (entries.putSorted name value).get? name = some value := by
  induction entries with
  | nil => simp [putSorted, get?]
  | cons entry rest ih =>
      obtain ⟨other, old⟩ := entry
      rw [putSorted]
      split
      · simp [get?]
      · split
        · simp [get?]
        · rename_i hne
          rw [get?, List.lookup_cons, (by simpa using hne : (name == other) = false)]
          exact ih

/-- Putting an entry leaves those of other names. -/
theorem get?_putSorted_of_ne {other : String} (h : other ≠ name) :
    (entries.putSorted name value).get? other = entries.get? other := by
  have hother : (other == name) = false := by simpa using h
  induction entries with
  | nil => simp [putSorted, get?, h]
  | cons entry rest ih =>
      obtain ⟨found, old⟩ := entry
      rw [putSorted]
      split
      · rw [get?, List.lookup_cons, hother]
        rfl
      · split
        · rename_i heq
          obtain rfl : name = found := by simpa using heq
          simp [get?, List.lookup_cons, hother]
        · rw [get?, get?, List.lookup_cons, List.lookup_cons]
          split
          · rfl
          · exact ih

theorem mem_putSorted_self : (name, value) ∈ entries.putSorted name value :=
  Document.mem_of_get?_eq_some get?_putSorted_self

/-- The entries are the ones before and the new one. -/
theorem of_mem_putSorted {entry : String × α} (h : entry ∈ entries.putSorted name value) :
    entry = (name, value) ∨ entry ∈ entries := by
  induction entries with
  | nil => exact Or.inl (List.mem_singleton.mp h)
  | cons first rest ih =>
      obtain ⟨other, old⟩ := first
      rw [putSorted] at h
      split at h
      · exact List.mem_cons.mp h
      · split at h
        · exact (List.mem_cons.mp h).imp id (List.mem_cons_of_mem _)
        · rcases List.mem_cons.mp h with rfl | h
          · exact Or.inr List.mem_cons_self
          · exact (ih h).imp id (List.mem_cons_of_mem _)

/-- An entry stays unless it is the one found under the name. -/
theorem mem_putSorted_of_mem (name : String) (value : α) {entry : String × α}
    (h : entry ∈ entries) :
    entry ∈ entries.putSorted name value ∨
      entry.1 = name ∧ entries.get? name = some entry.2 := by
  induction entries with
  | nil => cases h
  | cons first rest ih =>
      obtain ⟨other, old⟩ := first
      rw [putSorted]
      split
      · exact Or.inl (List.mem_cons_of_mem _ h)
      · split
        · rename_i heq
          obtain rfl : name = other := by simpa using heq
          rcases List.mem_cons.mp h with rfl | h
          · exact Or.inr ⟨rfl, by simp [get?]⟩
          · exact Or.inl (List.mem_cons_of_mem _ h)
        · rename_i hne
          rcases List.mem_cons.mp h with rfl | h
          · exact Or.inl List.mem_cons_self
          · refine (ih h).imp (List.mem_cons_of_mem _) fun hfound => ⟨hfound.1, ?_⟩
            rw [get?, List.lookup_cons, (by simpa using hne : (name == other) = false)]
            exact hfound.2

end Entries

namespace FileTree

variable {tree node found : FileTree} {name : String} {place rest : List String}

/-! ### Places -/

theorem at?_cons (entries : List (String × FileTree)) :
    (directory entries).at? (name :: place) =
      (Entries.get? entries name).bind (at? place) := rfl

/-- What stands at a place further on. -/
theorem at?_append (tree : FileTree) (place rest : List String) :
    tree.at? (place ++ rest) = (tree.at? place).bind (at? rest) := by
  induction place generalizing tree with
  | nil => rw [at?_nil, List.nil_append, Option.bind_some]
  | cons name place ih =>
      cases tree with
      | file content => rfl
      | directory entries =>
          rw [List.cons_append, at?_cons, at?_cons, Option.bind_assoc]
          exact Option.bind_congr fun below _ => ih below

/-- What is further on than something that is there is there as well. -/
theorem exists_at?_of_prefix (h : (tree.at? (place ++ rest)).isSome) :
    (tree.at? place).isSome := by
  rw [at?_append] at h
  exact Option.isSome_of_isSome_bind h

/-- What something stands below is a directory. -/
theorem exists_directory_of_at? (h : (tree.at? (place ++ name :: rest)).isSome) :
    ∃ entries, tree.at? place = some (directory entries) := by
  obtain ⟨above, habove⟩ := Option.isSome_iff_exists.mp <| exists_at?_of_prefix h
  rw [at?_append, habove, Option.bind_some] at h
  cases above with
  | file content => cases h
  | directory entries => exact ⟨entries, habove⟩

/-- **What is above a place** stays there, changed further on. -/
theorem at?_put_above (h : tree.at? place = some found) :
    (put node (place ++ rest) tree).at? place = some (put node rest found) := by
  induction place generalizing tree with
  | nil =>
      rw [at?_nil, Option.some.injEq] at h
      rw [h, List.nil_append, at?_nil]
  | cons name place ih =>
      cases tree with
      | file content => cases h
      | directory entries =>
          rw [at?_cons] at h
          obtain ⟨below, hbelow, h⟩ := Option.bind_eq_some_iff.mp h
          rw [List.cons_append, put, at?_cons, Entries.get?_putSorted_self, Option.bind_some,
            hbelow, Option.getD_some]
          exact ih h

/-- **What was put at a place is there**, if the directory of the place was. -/
theorem at?_put_append {entries : List (String × FileTree)}
    (h : tree.at? place = some (directory entries)) :
    (put node (place ++ [name]) tree).at? (place ++ name :: rest) = node.at? rest := by
  rw [at?_append, at?_put_above h, Option.bind_some, put, at?_cons, Entries.get?_putSorted_self,
    Option.bind_some, put]

/-- **Places beside and below others stay.** -/
theorem at?_put_of_unrelated {entries : List (String × FileTree)} {other : List String}
    (h : tree.at? place = some (directory entries)) (hbelow : ¬ place ++ [name] <+: other)
    (habove : ¬ other <+: place ++ [name]) :
    (put node (place ++ [name]) tree).at? other = tree.at? other := by
  induction place generalizing tree other with
  | nil =>
      rw [at?_nil, Option.some.injEq] at h
      cases other with
      | nil => exact absurd List.nil_prefix habove
      | cons first others =>
          have hne : first ≠ name := by
            rintro rfl
            exact hbelow (by simp)
          rw [h, List.nil_append, put, at?_cons, at?_cons, Entries.get?_putSorted_of_ne hne]
  | cons step place ih =>
      cases tree with
      | file content => cases h
      | directory below =>
          obtain ⟨next, hnext, hplace⟩ := Option.bind_eq_some_iff.mp h
          cases other with
          | nil => exact absurd List.nil_prefix habove
          | cons first others =>
              rw [List.cons_append, put, at?_cons, at?_cons]
              by_cases heq : first = step
              · subst heq
                rw [List.cons_append, List.cons_prefix_cons] at hbelow habove
                rw [Entries.get?_putSorted_self, hnext, Option.getD_some, Option.bind_some,
                  Option.bind_some]
                exact ih hplace (fun hprefix => hbelow ⟨rfl, hprefix⟩)
                  fun hprefix => habove ⟨rfl, hprefix⟩
              · rw [Entries.get?_putSorted_of_ne heq]

/-! ### Files -/

mutual

/-- Files below a place further on. -/
theorem filesBelow_append (place rest : List String) (tree : FileTree) :
    filesBelow (place ++ rest) tree =
      (filesBelow rest tree).map fun file => (place ++ file.1, file.2) := by
  cases tree with
  | file content => rfl
  | directory entries => exact filesOf_append place rest entries

/-- Files of entries below a place further on. -/
theorem filesOf_append (place rest : List String) (entries : List (String × FileTree)) :
    filesOf (place ++ rest) entries =
      (filesOf rest entries).map fun file => (place ++ file.1, file.2) := by
  cases entries with
  | nil => rfl
  | cons entry entries =>
      obtain ⟨name, below⟩ := entry
      rw [filesOf, filesOf, List.map_append, ← filesOf_append place rest entries,
        ← filesBelow_append place (rest ++ [name]) below, List.append_assoc]

end

theorem files_file (content : FileContent) : (file content).files = [([], content)] := rfl

/-- The files of a directory are those of its entries. -/
theorem mem_files_directory {entries : List (String × FileTree)}
    {f : List String × FileContent} :
    f ∈ (directory entries).files ↔
      ∃ entry ∈ entries, ∃ rest, f.1 = entry.1 :: rest ∧ (rest, f.2) ∈ entry.2.files := by
  change f ∈ filesOf [] entries ↔ _
  induction entries with
  | nil => simp [filesOf]
  | cons entry entries ih =>
      obtain ⟨name, below⟩ := entry
      have hbelow : filesBelow [name] below =
          below.files.map fun file => (name :: file.1, file.2) :=
        filesBelow_append [name] [] below
      rw [filesOf, List.mem_append, List.nil_append, hbelow, ih, List.mem_map]
      simp only [List.mem_cons, exists_eq_or_imp]
      refine or_congr_left ⟨?_, ?_⟩
      · rintro ⟨⟨rest, content⟩, hmem, rfl⟩
        exact ⟨rest, rfl, hmem⟩
      · rintro ⟨rest, hplace, hmem⟩
        exact ⟨(rest, f.2), hmem, Prod.ext hplace.symm rfl⟩

/-- **Files stay** unless they are at or below the place. -/
theorem mem_files_put_of_mem (node : FileTree) (place : List String) {content : FileContent}
    {home : List String} (h : (home, content) ∈ tree.files) :
    (home, content) ∈ (put node place tree).files ∨
      ∃ old rest, tree.at? place = some old ∧ home = place ++ rest ∧
        (rest, content) ∈ old.files := by
  induction place generalizing tree home with
  | nil => exact Or.inr ⟨tree, home, at?_nil tree, rfl, h⟩
  | cons name place ih =>
      cases tree with
      | file other => exact Or.inl h
      | directory entries =>
          obtain ⟨⟨first, below⟩, hentry, rest, hplace, hbelow⟩ := mem_files_directory.mp h
          obtain rfl : home = first :: rest := hplace
          rcases Entries.mem_putSorted_of_mem name
            (put node place ((Entries.get? entries name).getD empty)) hentry with
            hstays | ⟨rfl, hfound⟩
          · exact Or.inl (mem_files_directory.mpr ⟨_, hstays, rest, rfl, hbelow⟩)
          · rcases ih hbelow with hstays | ⟨old, further, hold, rfl, hmem⟩
            · refine Or.inl (mem_files_directory.mpr ⟨_, Entries.mem_putSorted_self, rest, rfl, ?_⟩)
              rw [hfound]
              exact hstays
            · refine Or.inr ⟨old, further, ?_, rfl, hmem⟩
              rw [at?_cons, hfound]
              exact hold

/-- **Only what is put comes up** among the files. -/
theorem of_mem_files_put {place : List String} {content : FileContent} {home : List String}
    (h : (home, content) ∈ (put node place tree).files) :
    (home, content) ∈ tree.files ∨
      ∃ rest, home = place ++ rest ∧ (rest, content) ∈ node.files := by
  induction place generalizing tree home with
  | nil => exact Or.inr ⟨home, rfl, h⟩
  | cons name place ih =>
      cases tree with
      | file other => exact Or.inl h
      | directory entries =>
          obtain ⟨⟨first, below⟩, hentry, rest, hplace, hbelow⟩ := mem_files_directory.mp h
          obtain rfl : home = first :: rest := hplace
          rcases Entries.of_mem_putSorted hentry with heq | hstays
          · obtain ⟨rfl, rfl⟩ := Prod.mk.inj heq
            rcases ih hbelow with hold | ⟨further, rfl, hmem⟩
            · cases hfound : Entries.get? entries first with
              | none =>
                  rw [hfound] at hold
                  cases hold
              | some old =>
                  rw [hfound] at hold
                  exact Or.inl (mem_files_directory.mpr
                    ⟨_, Document.mem_of_get?_eq_some hfound, rest, rfl, hold⟩)
            · exact Or.inr ⟨further, rfl, hmem⟩
          · exact Or.inl (mem_files_directory.mpr ⟨_, hstays, rest, rfl, hbelow⟩)

/-- The files of what stands at a place are files of the tree. -/
theorem mem_files_of_at? {content : FileContent} (h : tree.at? place = some found)
    (hmem : (rest, content) ∈ found.files) : (place ++ rest, content) ∈ tree.files := by
  induction place generalizing tree with
  | nil =>
      rw [at?_nil, Option.some.injEq] at h
      exact h ▸ hmem
  | cons name place ih =>
      cases tree with
      | file other => cases h
      | directory entries =>
          rw [at?_cons] at h
          obtain ⟨below, hbelow, h⟩ := Option.bind_eq_some_iff.mp h
          exact mem_files_directory.mpr
            ⟨_, Document.mem_of_get?_eq_some hbelow, place ++ rest, rfl, ih h⟩

end FileTree

end ServiceGen
