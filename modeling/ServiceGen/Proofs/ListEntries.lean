import ServiceGen.Proofs.Insertion

/-!
# Entries of Registration Lists

The entries of a list are what stands between its commas, those in parentheses apart (`entries`).
A comma that is in no parentheses cuts a list in two (`pieces_append_comma`), and the end of a list
is an entry only if something stands there (`entries_append_comma`, `entries_append_blanks`). What
is found as a list closes the parentheses that it opens (`nesting_of_closeFrom`), and it still does
when it has grown by an item that does (`Grows.nesting_eq_zero`).
-/

namespace ServiceGen

/-! ### White space -/

namespace Text

variable {cs blanks : List Char} {c : Char}

/-- Blanks at the end are trimmed. -/
theorem trimEnd_append_blanks (h : Blank blanks) (cs : List Char) :
    trimEnd (cs ++ blanks) = trimEnd cs := by
  rw [trimEnd, List.reverse_append, List.dropWhile_append_of_pos fun c hc =>
    h c (List.mem_reverse.mp hc), trimEnd]

/-- A character that is no blank ends the trimmed text. -/
theorem trimEnd_concat (hc : Letter.isBlank c = false) (cs : List Char) :
    trimEnd (cs ++ [c]) = cs ++ [c] := by
  rw [trimEnd, List.reverse_concat, List.dropWhile_cons_of_neg (by simp [hc]),
    ← List.reverse_concat, List.reverse_reverse]

/-- White space at the end is trimmed. -/
theorem trim_append_blanks (h : Blank blanks) (cs : List Char) : trim (cs ++ blanks) = trim cs := by
  rw [trim, trim, trimStart, trimStart, List.dropWhile_append]
  split
  · rename_i hempty
    rw [List.isEmpty_iff.mp hempty, ← List.nil_append (blanks.dropWhile _),
      trimEnd_append_blanks fun c hc => h c ((List.dropWhile_suffix _).subset hc)]
  · exact trimEnd_append_blanks h _

/-- White space at the start is trimmed. -/
theorem trim_blanks_append (h : Blank blanks) (cs : List Char) : trim (blanks ++ cs) = trim cs := by
  rw [trim, trimStart, List.dropWhile_append_of_pos h, trim, trimStart]

/-- Blanks trim to nothing. -/
theorem trim_of_blank (h : Blank cs) : trim cs = [] := by
  have happend := trim_append_blanks h []
  rw [List.nil_append] at happend
  rw [happend]
  rfl

/-- What ends with a letter is not trimmed at its end. -/
theorem trim_concat_ne_nil (hc : Letter.isBlank c = false) (cs : List Char) :
    trim (cs ++ [c]) ≠ [] := by
  rw [trim, trimStart, List.dropWhile_append]
  split
  · rw [List.dropWhile_cons_of_neg (by simp [hc]), ← List.nil_append [c], trimEnd_concat hc]
    simp
  · rw [trimEnd_concat hc]
    simp

/-- What has no white space in it is not trimmed. -/
theorem trim_of_not_blank (h : ∀ c ∈ cs, Letter.isBlank c = false) : trim cs = cs := by
  have hstart : trimStart cs = cs := by
    cases cs with
    | nil => rfl
    | cons c rest => exact List.dropWhile_cons_of_neg (by simp [h c List.mem_cons_self])
  rw [trim, hstart]
  rcases List.eq_nil_or_concat' cs with rfl | ⟨before, c, rfl⟩
  · rfl
  · exact trimEnd_concat (h c (by simp)) before

end Text

namespace Registration

open Text (Blank)

/-! ### Entries -/

/-- How many parentheses are open after a character. -/
def deeper (depth : Nat) (c : Char) : Nat :=
  if c = '(' then depth + 1 else if c = ')' then depth - 1 else depth

/-- How many parentheses are open after a text, unless it closes one that is not open. -/
def nesting : Nat → List Char → Option Nat
  | depth, [] => some depth
  | depth, c :: rest => if c = ')' ∧ depth = 0 then none else nesting (deeper depth c) rest

/-- The pieces of a list: what stands between its commas, those in parentheses apart. -/
def pieces : Nat → List Char → List (List Char)
  | _, [] => [[]]
  | depth, c :: rest =>
    if c = ',' ∧ depth = 0 then [] :: pieces depth rest
    else match pieces (deeper depth c) rest with
      | [] => [[c]]
      | piece :: others => (c :: piece) :: others

/-- The entries of a list: its pieces without the white space around them. A last one that is
empty stands for the end of the list only. -/
def entries (interior : List Char) : List (List Char) :=
  let trimmed := (pieces 0 interior).map Text.trim
  if trimmed.getLast? = some [] then trimmed.dropLast else trimmed

variable {before interior rest blanks : List Char} {depth : Nat} {c : Char}

/-- The depth behind two texts is counted through the first, then the second. -/
theorem nesting_append (depth : Nat) (before rest : List Char) :
    nesting depth (before ++ rest) = (nesting depth before).bind (nesting · rest) := by
  induction before generalizing depth with
  | nil => rfl
  | cons c before ih =>
      rw [List.cons_append, nesting, nesting]
      split
      · rfl
      · exact ih _

/-- A text without parentheses opens and closes none. -/
theorem nesting_of_not_mem (hopen : '(' ∉ rest) (hclose : ')' ∉ rest) (depth : Nat) :
    nesting depth rest = some depth := by
  induction rest with
  | nil => rfl
  | cons c rest ih =>
      rw [List.mem_cons, not_or] at hopen hclose
      rw [nesting, if_neg fun h => hclose.1 h.1.symm, deeper, if_neg (Ne.symm hopen.1),
        if_neg (Ne.symm hclose.1), ih hopen.2 hclose.2]

theorem nesting_of_blank (h : Blank blanks) (depth : Nat) : nesting depth blanks = some depth :=
  nesting_of_not_mem (fun hmem => (ne_parenthesis_of_isBlank (h _ hmem)).1 rfl)
    (fun hmem => (ne_parenthesis_of_isBlank (h _ hmem)).2 rfl) depth

/-- White space opens and closes nothing. -/
theorem nesting_append_blanks (h : Blank blanks) (depth : Nat) (before : List Char) :
    nesting depth (before ++ blanks) = nesting depth before := by
  rw [nesting_append]
  cases nesting depth before with
  | none => rfl
  | some after => exact nesting_of_blank h after

/-- A comma opens and closes nothing. -/
theorem nesting_append_comma (depth : Nat) (before rest : List Char) :
    nesting depth (before ++ ',' :: rest) = nesting depth (before ++ rest) := by
  rw [nesting_append, nesting_append]
  rfl

/-- **A list that is closed is closed when it has grown** by an item that closes what it opens. -/
theorem Grows.nesting_eq_zero {item grown : List Char} (h : Grows item interior grown)
    (hitem : nesting 0 item = some 0) (hinterior : nesting 0 interior = some 0) :
    nesting 0 grown = some 0 := by
  have hline : ∀ {entries gap blanks : List Char}, Blank gap → Blank blanks →
      nesting 0 entries = some 0 →
        nesting 0 (entries ++ '\n' :: (gap ++ item ++ ',' :: blanks)) = some 0 := by
    intro entries gap blanks hgap hblanks hentries
    have hgap : Blank ('\n' :: gap) := List.forall_mem_cons.mpr ⟨by decide, hgap⟩
    have hregroup : entries ++ '\n' :: (gap ++ item ++ ',' :: blanks) =
        (entries ++ '\n' :: gap ++ item) ++ ',' :: blanks := by simp
    rw [hregroup, nesting_append_comma, nesting_append_blanks hblanks, nesting_append,
      nesting_append_blanks hgap, hentries]
    exact hitem
  cases h with
  | first => exact hitem
  | behind _ hgap hblanks =>
      rw [nesting_append_blanks hblanks] at hinterior
      exact hline hgap hblanks hinterior
  | @behindEntry before rest gap blanks c _ _ _ _ _ hgap hblanks =>
      have hregroup : before ++ c :: (rest ++ blanks) = (before ++ [c] ++ rest) ++ blanks := by simp
      rw [hregroup, nesting_append_blanks hblanks, ← nesting_append_comma] at hinterior
      simpa using hline hgap hblanks hinterior

/-- **A list that is closed** closes what it opens, and nothing else. -/
theorem nesting_of_closeFrom {size : Nat} {cs : List Char} (h : closeFrom depth cs = some size) :
    nesting depth (cs.take size) = some 0 := by
  induction cs generalizing depth size with
  | nil =>
      rw [closeFrom] at h
      cases h
  | cons c rest ih =>
      rw [closeFrom.eq_def] at h
      dsimp only at h
      split at h
      · rename_i hopen
        obtain ⟨n, hn, rfl⟩ := Option.map_eq_some_iff.mp h
        rw [List.take_succ_cons, nesting, if_neg (by simp [hopen]), deeper, if_pos hopen, ih hn]
      · rename_i hopen
        split at h
        · rename_i hclose
          cases depth with
          | zero =>
              cases h
              rfl
          | succ depth =>
              obtain ⟨n, hn, rfl⟩ := Option.map_eq_some_iff.mp h
              rw [List.take_succ_cons, nesting, if_neg (by simp), deeper, if_neg hopen,
                if_pos hclose, Nat.add_sub_cancel, ih hn]
        · rename_i hclose
          obtain ⟨n, hn, rfl⟩ := Option.map_eq_some_iff.mp h
          rw [List.take_succ_cons, nesting, if_neg (by simp [hclose]), deeper, if_neg hopen,
            if_neg hclose, ih hn]

/-- Behind what closes what it opens, the list is closed. -/
theorem closeFrom_of_nesting (h : nesting depth interior = some 0) (rest : List Char) :
    closeFrom depth (interior ++ ')' :: rest) = some interior.length := by
  induction interior generalizing depth with
  | nil =>
      obtain rfl := Option.some.inj h
      rfl
  | cons c interior ih =>
      rw [nesting] at h
      split at h
      · cases h
      · rename_i hbelow
        rw [deeper] at h
        rw [List.cons_append, closeFrom.eq_def]
        dsimp only
        split
        · rename_i hopen
          rw [if_pos hopen] at h
          rw [ih h]
          rfl
        · rename_i hopen
          rw [if_neg hopen] at h
          split
          · rename_i hclose
            rw [if_pos hclose] at h
            cases depth with
            | zero => exact absurd ⟨hclose, rfl⟩ hbelow
            | succ depth =>
                rw [Nat.add_sub_cancel] at h
                dsimp only
                rw [ih h]
                rfl
          · rename_i hclose
            rw [if_neg hclose] at h
            rw [ih h]
            rfl

/-- Every text has a first piece. -/
theorem pieces_ne_nil (depth : Nat) (cs : List Char) : pieces depth cs ≠ [] := by
  cases cs with
  | nil => exact List.cons_ne_nil _ _
  | cons c rest =>
      rw [pieces]
      split
      · exact List.cons_ne_nil _ _
      · split <;> exact List.cons_ne_nil _ _

/-- A comma that is in no parentheses cuts the pieces in two. -/
theorem pieces_append_comma (h : nesting depth before = some 0) (rest : List Char) :
    pieces depth (before ++ ',' :: rest) = pieces depth before ++ pieces 0 rest := by
  induction before generalizing depth with
  | nil =>
      obtain rfl := Option.some.inj h
      rfl
  | cons c before ih =>
      rw [nesting] at h
      split at h
      · cases h
      · rw [List.cons_append, pieces, pieces]
        split
        · rename_i hcomma
          obtain ⟨rfl, rfl⟩ := hcomma
          exact congrArg ([] :: ·) (ih h)
        · rw [ih h]
          cases hpieces : pieces (deeper depth c) before with
          | nil => exact absurd hpieces (pieces_ne_nil _ _)
          | cons piece others => rfl

/-- A text without a comma is one piece. -/
theorem pieces_of_not_mem (hmore : ',' ∉ rest) (depth : Nat) : pieces depth rest = [rest] := by
  induction rest generalizing depth with
  | nil => rfl
  | cons c rest ih =>
      rw [List.mem_cons, not_or] at hmore
      rw [pieces, if_neg fun h => hmore.1 h.1.symm, ih hmore.2]

/-- What is put behind a list goes to its last piece, if it has no comma. -/
theorem exists_pieces_append (hmore : ',' ∉ rest) (depth : Nat) (cs : List Char) :
    ∃ init last, pieces depth cs = init ++ [last] ∧
      pieces depth (cs ++ rest) = init ++ [last ++ rest] := by
  induction cs generalizing depth with
  | nil => exact ⟨[], [], rfl, pieces_of_not_mem hmore depth⟩
  | cons c cs ih =>
      rw [List.cons_append, pieces, pieces]
      split
      · obtain ⟨init, last, hcs, happend⟩ := ih depth
        exact ⟨[] :: init, last, by rw [hcs]; rfl, by rw [happend]; rfl⟩
      · obtain ⟨init, last, hcs, happend⟩ := ih (deeper depth c)
        rw [hcs, happend]
        cases init with
        | nil => exact ⟨[], c :: last, rfl, rfl⟩
        | cons piece init => exact ⟨(c :: piece) :: init, last, rfl, rfl⟩

theorem comma_not_mem_of_blank (h : Blank blanks) : ',' ∉ blanks := fun hmem =>
  absurd (h _ hmem) (by decide)

/-- The end of a list that is ended by a comma is no entry. -/
theorem entries_append_comma (hnesting : nesting 0 before = some 0) (hblanks : Blank blanks) :
    entries (before ++ ',' :: blanks) = (pieces 0 before).map Text.trim := by
  rw [entries, pieces_append_comma hnesting, pieces_of_not_mem (comma_not_mem_of_blank hblanks),
    List.map_append, List.map_singleton, Text.trim_of_blank hblanks]
  simp

/-- A last entry without a comma is one. -/
theorem entries_append_blanks (hc : Text.Letter.isBlank c = false) (hcomma : c ≠ ',')
    (hblanks : Blank blanks) :
    entries (before ++ c :: blanks) = (pieces 0 (before ++ [c])).map Text.trim := by
  have hsingle : ',' ∉ [c] := by simpa using Ne.symm hcomma
  obtain ⟨init, last, -, hconcat⟩ := exists_pieces_append hsingle 0 before
  obtain ⟨init', last', hconcat', happend⟩ :=
    exists_pieces_append (comma_not_mem_of_blank hblanks) 0 (before ++ [c])
  obtain ⟨rfl, hlast⟩ := List.append_inj' (hconcat.symm.trans hconcat') rfl
  obtain rfl := List.singleton_inj.mp hlast
  have hregroup : before ++ c :: blanks = before ++ [c] ++ blanks := by simp
  rw [entries, hregroup, happend, hconcat, List.map_append, List.map_append, List.map_singleton,
    List.map_singleton, Text.trim_append_blanks hblanks]
  rw [if_neg (by simpa using Text.trim_concat_ne_nil hc last)]

end Registration

end ServiceGen
