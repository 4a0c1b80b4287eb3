import ServiceGen.Proofs.Interiors
import ServiceGen.Proofs.Lexemes

/-!
# Insertion of Items

Adding an item to a list adds a word to the lexemes of the source and nothing else
(`lex_insertItemChars`), whatever commas, line feeds and indentation come with it. So an item that
was added is found again, and what became of another item before is what becomes of it afterwards
(`insertItem_again`, `insertItem_other`).
-/

namespace ServiceGen

namespace Registration

open Text (Blank)

/-! ### Lexemes of the parts of a list -/

theorem isBreak_of_isBlank {c : Char} (h : Text.Letter.isBlank c = true) : isBreak c = true := by
  rw [isBreak, h, Bool.true_or]

theorem ne_parenthesis_of_isBlank {c : Char} (h : Text.Letter.isBlank c = true) :
    c ≠ '(' ∧ c ≠ ')' := by
  constructor <;> rintro rfl <;> exact absurd h (by decide)

/-- White space before a source. -/
theorem lex_blanks_append {blanks : List Char} (h : Blank blanks) (cs : List Char) :
    lex (blanks ++ cs) = lex cs := by
  induction blanks with
  | nil => rfl
  | cons c blanks ih =>
      obtain ⟨hc, hblanks⟩ := List.forall_mem_cons.mp h
      obtain ⟨hopen, hclose⟩ := ne_parenthesis_of_isBlank hc
      have hcut := lex_append_break (isBreak_of_isBlank hc) hopen hclose [] (blanks ++ cs)
      rw [List.cons_append, ← List.nil_append (c :: (blanks ++ cs)), hcut, ih hblanks]
      rfl

/-- Blanks have no words. -/
theorem lex_of_blanks {blanks : List Char} (h : Blank blanks) : lex blanks = [] := by
  have happend := lex_blanks_append h []
  rw [List.append_nil] at happend
  rw [happend]
  rfl

/-- White space behind a source. -/
theorem lex_append_blanks {blanks : List Char} (h : Blank blanks) (cs : List Char) :
    lex (cs ++ blanks) = lex cs := by
  cases blanks with
  | nil => rw [List.append_nil]
  | cons c blanks =>
      obtain ⟨hc, hblanks⟩ := List.forall_mem_cons.mp h
      obtain ⟨hopen, hclose⟩ := ne_parenthesis_of_isBlank hc
      rw [lex_append_break (isBreak_of_isBlank hc) hopen hclose, lex_of_blanks hblanks,
        List.append_nil]

/-- What has no code in it begins with white space or a comment. -/
theorem Uncoded.isBreak {c : Char} {more : List Char} (h : Uncoded (c :: more)) :
    isBreak c = true ∧ c ≠ '(' ∧ c ≠ ')' := by
  obtain ⟨space, comment, hsplit, hspace, hcomment⟩ := h
  cases space with
  | cons d space =>
      obtain ⟨rfl, -⟩ := List.cons.inj hsplit
      have hd := hspace c List.mem_cons_self
      exact ⟨isBreak_of_isBlank hd, ne_parenthesis_of_isBlank hd⟩
  | nil =>
      rw [List.nil_append] at hsplit
      subst hsplit
      obtain rfl : '/' = c := (List.cons_prefix_cons.mp (hcomment.resolve_left (by simp))).1
      decide

/-- A comma behind the code of a line changes no lexeme. -/
theorem lex_append_comma {rest : List Char} (h : Uncoded rest) (before : List Char) :
    lex (before ++ ',' :: rest) = lex (before ++ rest) := by
  rw [lex_append_break (by decide) (by decide) (by decide)]
  cases rest with
  | nil =>
      rw [List.append_nil]
      exact List.append_nil _
  | cons c more =>
      obtain ⟨hc, hopen, hclose⟩ := h.isBreak
      have hmore := lex_append_break hc hopen hclose [] more
      rw [List.nil_append] at hmore
      rw [lex_append_break hc hopen hclose, hmore]
      rfl

/-- **An item that is added to a list** adds a word to its lexemes. -/
theorem Grows.lex_eq {item interior grown : List Char} (h : Grows item interior grown)
    (hne : item ≠ []) (hitem : Unbroken item) :
    lex grown = lex interior ++ [.word item] := by
  have hword : lex item = [.word item] := by
    rw [lex, lexFrom_of_unbroken hitem, List.nil_append, Lexeme.ofWord, if_neg (by simpa using hne)]
  have hline : ∀ {gap blanks : List Char}, Blank gap → Blank blanks → ∀ entries : List Char,
      lex (entries ++ '\n' :: (gap ++ item ++ ',' :: blanks)) = lex entries ++ [.word item] := by
    intro gap blanks hgap hblanks entries
    rw [lex_append_break (by decide) (by decide) (by decide),
      lex_append_break (by decide) (by decide) (by decide), lex_blanks_append hgap, hword,
      lex_of_blanks hblanks, List.append_nil]
  cases h with
  | first hblanks => rw [hword, lex_of_blanks hblanks, List.nil_append]
  | behind _ hgap hblanks => rw [hline hgap hblanks, lex_append_blanks hblanks]
  | @behindEntry before rest gap blanks c hc hcomma hcode hrest hentries hgap hblanks =>
      have hregroup : before ++ c :: ',' :: (rest ++ '\n' :: (gap ++ item ++ ',' :: blanks)) =
          ((before ++ [c]) ++ ',' :: rest) ++ '\n' :: (gap ++ item ++ ',' :: blanks) := by simp
      have hregroup' : before ++ c :: (rest ++ blanks) = (before ++ [c] ++ rest) ++ blanks := by
        simp
      rw [hregroup, hregroup', hline hgap hblanks, lex_append_comma hrest,
        lex_append_blanks hblanks]

/-! ### Insertion -/

/-- A list ends at a closing parenthesis. -/
theorem exists_drop_of_closeFrom {depth size : Nat} {cs : List Char}
    (h : closeFrom depth cs = some size) : ∃ rest, cs.drop size = ')' :: rest := by
  induction cs generalizing depth size with
  | nil =>
      rw [closeFrom] at h
      cases h
  | cons c rest ih =>
      rw [closeFrom.eq_def] at h
      dsimp only at h
      split at h
      · obtain ⟨n, hn, rfl⟩ := Option.map_eq_some_iff.mp h
        exact ih hn
      · split at h
        · rename_i hclose
          cases depth with
          | zero =>
              cases h
              exact ⟨rest, by rw [List.drop_zero, hclose]⟩
          | succ depth =>
              obtain ⟨n, hn, rfl⟩ := Option.map_eq_some_iff.mp h
              exact ih hn
        · obtain ⟨n, hn, rfl⟩ := Option.map_eq_some_iff.mp h
          exact ih hn

/-- A list that is found cuts the source in parts. -/
theorem of_findList?_eq_some {source : List Char} {markers : List (List Char)} {site : ListSite}
    (h : findList? source markers = some site) :
    site.marker ∈ markers ∧ (∃ rest, site.after = ')' :: rest) ∧
      source = site.before ++ site.marker ++ site.interior ++ site.after := by
  rw [findList?] at h
  obtain ⟨⟨marker, start⟩, hfound, h⟩ := Option.bind_eq_some_iff.mp h
  obtain ⟨other, hother, hstart⟩ := List.exists_of_findSome?_eq_some hfound
  obtain ⟨i, hi, heq⟩ := Option.map_eq_some_iff.mp hstart
  cases heq
  obtain ⟨size, hsize, h⟩ := Option.bind_eq_some_iff.mp h
  cases h
  refine ⟨hother, exists_drop_of_closeFrom hsize, ?_⟩
  obtain ⟨more, hmore⟩ := Text.prefix_drop_of_indexOf? hi
  have hinside : source.drop (start + marker.length) = more := by
    rw [← List.drop_drop, ← hmore, List.drop_left]
  dsimp only
  rw [hinside, List.append_assoc _ (more.take size), List.take_append_drop, List.append_assoc,
    hmore, List.take_append_drop]

/-- **Insertion adds a word** to the lexemes of a source, if it inserts anything. -/
theorem lex_insertItemChars {source item : List Char} {bodies : List (List Char)} (hne : item ≠ [])
    (hitem : Unbroken item)
    (h : (insertItemChars source item (bodies.map (· ++ ['(']))).1 = .inserted) :
    ∃ before after, lex source = before ++ after ∧
      lex (insertItemChars source item (bodies.map (· ++ ['(']))).2 =
        before ++ .word item :: after := by
  rw [insertItemChars] at h ⊢
  split at h
  · cases h
  · split at h
    · cases h
    · rename_i hfresh _ site hsite
      rw [if_neg hfresh]
      obtain ⟨hmarker, ⟨rest, hafter⟩, hsource⟩ := of_findList?_eq_some hsite
      obtain ⟨body, -, hbody⟩ := List.mem_map.mp hmarker
      obtain ⟨done, hdone⟩ := exists_lex_append_open (site.before ++ body)
      have hcut : ∀ interior, lex (site.before ++ site.marker ++ interior ++ site.after) =
          done ++ (lex interior ++ .closing :: lex rest) := by
        intro interior
        have hregroup : site.before ++ site.marker ++ interior ++ site.after =
            (site.before ++ body) ++ '(' :: (interior ++ ')' :: rest) := by
          rw [← hbody, hafter]
          simp
        rw [hregroup, hdone, lex_append_close]
      refine ⟨done ++ lex site.interior, .closing :: lex rest, ?_, ?_⟩
      · rw [hsource, hcut, List.append_assoc]
      · dsimp only
        rw [hcut, (grows_extendInterior site item).lex_eq hne hitem, List.append_assoc,
          List.append_assoc, List.singleton_append]

/-! ### What becomes of an item -/

/-- What is said of an entry that was asked for before. -/
def Outcome.again : Outcome → Outcome
  | .inserted => .alreadyPresent
  | outcome => outcome

section Items

variable {source item other : List Char} {bodies otherBodies : List (List Char)}

/-- An item is there if it occurs in a lexeme. -/
theorem contains_iff_exists_lexeme (hne : item ≠ []) (hitem : Unbroken item) (source : List Char) :
    Text.contains item source = true ↔ ∃ lexeme ∈ lex source, item <:+: lexeme.text :=
  Text.contains_iff.trans (infix_lexFrom_iff hne hitem [] source)

/-- What an attempt to add an item says, in lexemes. -/
theorem fst_insertItemChars (hbodies : ∀ body ∈ bodies, Unbroken body) (source item : List Char) :
    (insertItemChars source item (bodies.map (· ++ ['(']))).1 =
      if Text.contains item source then .alreadyPresent
      else if hasList bodies (lex source) then .inserted else .markerNotFound := by
  rw [insertItemChars, ← isSome_findList? hbodies]
  split
  · rfl
  · cases findList? source (bodies.map (· ++ ['('])) <;> rfl

/-- An attempt that adds nothing leaves the source as it is. -/
theorem snd_insertItemChars {markers : List (List Char)}
    (h : (insertItemChars source item markers).1 ≠ .inserted) :
    (insertItemChars source item markers).2 = source := by
  rw [insertItemChars] at h ⊢
  split
  · rfl
  · rename_i hfresh
    rw [if_neg hfresh] at h
    cases hlist : findList? source markers with
    | none => rfl
    | some site =>
        rw [hlist] at h
        exact absurd rfl h

/-- **An item that was added is there.** -/
theorem contains_insertItemChars (hne : item ≠ []) (hitem : Unbroken item)
    (h : (insertItemChars source item (bodies.map (· ++ ['(']))).1 = .inserted) :
    Text.contains item (insertItemChars source item (bodies.map (· ++ ['(']))).2 = true := by
  obtain ⟨before, after, -, hlex⟩ := lex_insertItemChars hne hitem h
  rw [contains_iff_exists_lexeme hne hitem, hlex]
  exact ⟨.word item, by simp, List.infix_rfl⟩

/-- **Adding one item** changes nothing for another that does not occur in it. -/
theorem fst_insertItemChars_of_other (hitem : Unbroken item) (hne : item ≠ [])
    (hother : Unbroken other) (hne' : other ≠ []) (hapart : ¬ item <:+: other)
    (hbodies : ∀ body ∈ bodies, Unbroken body) (source : List Char) :
    (insertItemChars (insertItemChars source other (otherBodies.map (· ++ ['(']))).2 item
        (bodies.map (· ++ ['(']))).1 =
      (insertItemChars source item (bodies.map (· ++ ['(']))).1 := by
  by_cases hinserted : (insertItemChars source other (otherBodies.map (· ++ ['(']))).1 = .inserted
  · obtain ⟨before, after, hlex, hlex'⟩ := lex_insertItemChars hne' hother hinserted
    have hcontains : Text.contains item
        (insertItemChars source other (otherBodies.map (· ++ ['(']))).2 =
          Text.contains item source := by
      rw [Bool.eq_iff_iff, contains_iff_exists_lexeme hne hitem,
        contains_iff_exists_lexeme hne hitem, hlex, hlex']
      simp [or_and_right, exists_or, Lexeme.text, hapart]
    rw [fst_insertItemChars hbodies, fst_insertItemChars hbodies, hcontains, hlex', hlex,
      hasList_append_word]
  · rw [snd_insertItemChars hinserted]

end Items

/-! ### Items as strings -/

/-- An item: a word that no break ends. -/
structure IsItem (item : String) : Prop where
  nonempty : item.toList ≠ []
  unbroken : Unbroken item.toList

/-- Markers that end with a parenthesis. -/
def AreMarkers (markers : List String) : Prop :=
  ∃ bodies : List (List Char), (∀ body ∈ bodies, Unbroken body) ∧
    markers.map String.toList = bodies.map (· ++ ['('])

theorem areMarkers_logicMarkers : AreMarkers logicMarkers :=
  ⟨["provide_logic!".toList, "provide!".toList], by decide, rfl⟩

theorem areMarkers_handlerMarkers : AreMarkers handlerMarkers :=
  ⟨["provide_handlers!".toList, "provide!".toList], by decide, rfl⟩

section Strings

variable {item other : String} {markers otherMarkers : List String}

theorem fst_insertItem (source item : String) (markers : List String) :
    (insertItem source item markers).1 =
      (insertItemChars source.toList item.toList (markers.map String.toList)).1 := rfl

theorem toList_snd_insertItem (source item : String) (markers : List String) :
    (insertItem source item markers).2.toList =
      (insertItemChars source.toList item.toList (markers.map String.toList)).2 :=
  String.toList_ofList

/-- **An item that is asked for again** is there if it was added before. -/
theorem insertItem_again (hitem : IsItem item) (hmarkers : AreMarkers markers) (source : String) :
    (insertItem (insertItem source item markers).2 item markers).1 =
      (insertItem source item markers).1.again := by
  obtain ⟨bodies, -, hchars⟩ := hmarkers
  rw [fst_insertItem, fst_insertItem, toList_snd_insertItem, hchars]
  by_cases h : (insertItemChars source.toList item.toList (bodies.map (· ++ ['(']))).1 = .inserted
  · have hcontains := contains_insertItemChars hitem.nonempty hitem.unbroken h
    rw [h, insertItemChars, if_pos hcontains]
    rfl
  · rw [snd_insertItemChars h]
    cases houtcome : (insertItemChars source.toList item.toList (bodies.map (· ++ ['(']))).1 with
    | inserted => exact absurd houtcome h
    | alreadyPresent => rfl
    | markerNotFound => rfl
    | fileMissing => rfl

/-- **What is said of an item** does not change when another is added. -/
theorem insertItem_other (hitem : IsItem item) (hother : IsItem other)
    (hapart : ¬ item.toList <:+: other.toList) (hmarkers : AreMarkers markers)
    (hotherMarkers : AreMarkers otherMarkers) (source : String) :
    (insertItem (insertItem source other otherMarkers).2 item markers).1 =
      (insertItem source item markers).1 := by
  obtain ⟨bodies, hbodies, hchars⟩ := hmarkers
  obtain ⟨otherBodies, -, hotherChars⟩ := hotherMarkers
  rw [fst_insertItem, fst_insertItem, toList_snd_insertItem, hchars, hotherChars]
  exact fst_insertItemChars_of_other hitem.unbroken hitem.nonempty hother.unbroken hother.nonempty
    hapart hbodies source.toList

end Strings

end Registration

end ServiceGen
