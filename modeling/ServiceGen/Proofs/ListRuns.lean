import ServiceGen.Proofs.ListEntries

/-!
# Runs of Items

An item that is added to a list without comments becomes its last entry: the list is cut right
behind the entry that was the last, and a comma, white space, the item and another comma are put
there (`Extends`). The next search finds the same list (`findList?_extended`), and there is no
comment in it, so the end of the last entry is found again.

What occurs in a source does so between its breaks, and adds up over them. So an item that is added
occurs once more than before, and no other item does (`Extends.occurrences_eq`).

## Main results

* `Inserted.concat`: what one more item does.
* `entries_insertItems`: **a run of items** adds each of them once, in the order in which they come.
-/

namespace ServiceGen.Registration

open Text (Blank occurrences)

variable {before interior rest blanks item : List Char} {c : Char}

/-! ### A longer list -/

/-- An item: a word that is no part of a comment. -/
structure IsEntry (item : List Char) : Prop where
  nonempty : item ≠ []
  unblank : ∀ c ∈ item, Text.Letter.isBlank c = false
  comma_not_mem : ',' ∉ item
  open_not_mem : '(' ∉ item
  close_not_mem : ')' ∉ item
  uncommented : ¬ ['/', '/'] <:+: item

/-- A list with an item behind its entries. -/
inductive Extends (item : List Char) : List Char → List Char → Prop
  /-- The first entry. -/
  | first {blanks : List Char} (hblanks : Blank blanks) : Extends item blanks item
  /-- An entry behind the comma that ends the last one. -/
  | behindComma {before gap blanks : List Char} (hgap : Blank gap) (hblanks : Blank blanks) :
      Extends item (before ++ ',' :: blanks) (before ++ ',' :: (gap ++ item ++ ',' :: blanks))
  /-- An entry behind a last one that is given a comma. -/
  | behindEntry {before gap blanks : List Char} {c : Char} (hc : Text.Letter.isBlank c = false)
      (hcomma : c ≠ ',') (hgap : Blank gap) (hblanks : Blank blanks) :
      Extends item (before ++ c :: blanks)
        (before ++ [c] ++ ',' :: (gap ++ item ++ ',' :: blanks))

/-- **An item that is added to a list without comments** stands behind its entries. -/
theorem Grows.extends {grown : List Char} (h : Grows item interior grown)
    (hcode : ¬ ['/', '/'] <:+: interior) : Extends item interior grown := by
  have hnewline : ∀ {gap : List Char}, Blank gap → Blank ('\n' :: gap) := fun hgap =>
    List.forall_mem_cons.mpr ⟨by decide, hgap⟩
  cases h with
  | first hblanks => exact .first hblanks
  | @behind entries gap blanks hentries hgap hblanks =>
      rcases hentries with hcomment | hcomma
      · exact absurd (hcomment.trans (List.prefix_append _ _).isInfix) hcode
      · obtain ⟨before, rfl⟩ := List.getLast?_eq_some_iff.mp hcomma
        have hextends : Extends item (before ++ ',' :: blanks)
            (before ++ ',' :: ('\n' :: gap ++ item ++ ',' :: blanks)) :=
          .behindComma (hnewline hgap) hblanks
        simpa using hextends
  | @behindEntry before rest gap blanks c hc hcomma _ _ hentries hgap hblanks =>
      rcases hentries with rfl | hcomment
      · have hextends : Extends item (before ++ c :: blanks)
            (before ++ [c] ++ ',' :: ('\n' :: gap ++ item ++ ',' :: blanks)) :=
          .behindEntry hc hcomma (hnewline hgap) hblanks
        simpa using hextends
      · exact absurd (hcomment.trans ⟨before ++ [c], blanks, by simp⟩) hcode

section Extended

variable {extended : List Char}

/-- An entry after a gap has no comma and no parenthesis. -/
theorem IsEntry.blank_append_not_mem {gap : List Char} (hitem : IsEntry item) (hgap : Blank gap) :
    ',' ∉ gap ++ item ∧ '(' ∉ gap ++ item ∧ ')' ∉ gap ++ item := by
  simp only [List.mem_append, not_or]
  exact ⟨⟨comma_not_mem_of_blank hgap, hitem.comma_not_mem⟩,
    ⟨fun h => (ne_parenthesis_of_isBlank (hgap _ h)).1 rfl, hitem.open_not_mem⟩,
    ⟨fun h => (ne_parenthesis_of_isBlank (hgap _ h)).2 rfl, hitem.close_not_mem⟩⟩

/-- **An item that is added is the last entry.** -/
theorem Extends.entries_eq (h : Extends item interior extended) (hitem : IsEntry item)
    (hnesting : nesting 0 interior = some 0) : entries extended = entries interior ++ [item] := by
  have hadded : ∀ {gap blanks : List Char}, Blank gap → Blank blanks → ∀ {before : List Char},
      nesting 0 before = some 0 → entries (before ++ ',' :: (gap ++ item ++ ',' :: blanks)) =
        (pieces 0 before).map Text.trim ++ [item] := by
    intro gap blanks hgap hblanks before hbefore
    obtain ⟨hcomma, hopen, hclose⟩ := hitem.blank_append_not_mem hgap
    have hwhole : nesting 0 (before ++ ',' :: (gap ++ item)) = some 0 := by
      rw [nesting_append_comma, nesting_append, hbefore]
      exact nesting_of_not_mem hopen hclose 0
    have hregroup : before ++ ',' :: (gap ++ item ++ ',' :: blanks) =
        (before ++ ',' :: (gap ++ item)) ++ ',' :: blanks := by simp
    rw [hregroup, entries_append_comma hwhole hblanks, pieces_append_comma hbefore,
      pieces_of_not_mem hcomma, List.map_append, List.map_singleton, Text.trim_blanks_append hgap,
      Text.trim_of_not_blank hitem.unblank]
  cases h with
  | first hblanks =>
      have hempty : entries interior = [] := by
        rw [entries, pieces_of_not_mem (comma_not_mem_of_blank hblanks), List.map_singleton,
          Text.trim_of_blank hblanks]
        rfl
      rw [hempty, entries, pieces_of_not_mem hitem.comma_not_mem, List.map_singleton,
        Text.trim_of_not_blank hitem.unblank, if_neg (by simpa using hitem.nonempty)]
      rfl
  | @behindComma before gap blanks hgap hblanks =>
      have hbefore : nesting 0 before = some 0 := by
        rw [nesting_append_comma, nesting_append] at hnesting
        obtain ⟨after, hafter, hblank⟩ := Option.bind_eq_some_iff.mp hnesting
        rw [nesting_of_blank hblanks] at hblank
        rwa [← hblank]
      rw [hadded hgap hblanks hbefore, entries_append_comma hbefore hblanks]
  | @behindEntry before gap blanks c hc hcomma hgap hblanks =>
      have hbefore : nesting 0 (before ++ [c]) = some 0 := by
        rw [← List.singleton_append, ← List.append_assoc, nesting_append] at hnesting
        obtain ⟨after, hafter, hblank⟩ := Option.bind_eq_some_iff.mp hnesting
        rw [nesting_of_blank hblanks] at hblank
        rwa [← hblank]
      rw [hadded hgap hblanks hbefore, entries_append_blanks hc hcomma hblanks]

section Occurrences

variable {needle gap : List Char} (hne : needle ≠ [])
  (hneedle : ∀ c ∈ needle, Text.Letter.isBlank c = false)

include hneedle in
theorem not_mem_of_isBlank (hc : Text.Letter.isBlank c = true) : c ∉ needle := by
  intro hmem
  rw [hneedle c hmem] at hc
  cases hc

include hne hneedle

/-- What is no white space does not occur in white space. -/
theorem occurrences_of_blank (hblanks : Blank blanks) : occurrences needle blanks = 0 := by
  rw [Text.occurrences_eq_zero_iff hne]
  intro h
  obtain ⟨c, hc⟩ := List.exists_mem_of_ne_nil needle hne
  exact not_mem_of_isBlank hneedle (hblanks c (h.subset hc)) hc

/-- White space in front adds no occurrence. -/
theorem occurrences_blank_append (hgap : Blank gap) (cs : List Char) :
    occurrences needle (gap ++ cs) = occurrences needle cs := by
  induction gap with
  | nil => rfl
  | cons c gap ih =>
      obtain ⟨hc, hgap⟩ := List.forall_mem_cons.mp hgap
      have hcut := Text.occurrences_append_cons hne (not_mem_of_isBlank hneedle hc) [] (gap ++ cs)
      rw [List.nil_append, occurrences, Nat.zero_add] at hcut
      rw [List.cons_append, hcut, ih hgap]

/-- White space behind adds no occurrence. -/
theorem occurrences_append_blank (hblanks : Blank blanks) (cs : List Char) :
    occurrences needle (cs ++ blanks) = occurrences needle cs := by
  cases blanks with
  | nil => rw [List.append_nil]
  | cons c blanks =>
      obtain ⟨hc, hblanks⟩ := List.forall_mem_cons.mp hblanks
      rw [Text.occurrences_append_cons hne (not_mem_of_isBlank hneedle hc),
        occurrences_of_blank hne hneedle hblanks, Nat.add_zero]

end Occurrences

/-- **What occurs in a list** occurs there and in the item afterwards. -/
theorem Extends.occurrences_eq {needle : List Char} (h : Extends item interior extended)
    (hne : needle ≠ []) (hneedle : ∀ c ∈ needle, Text.Letter.isBlank c = false)
    (hcomma : ',' ∉ needle) :
    occurrences needle extended = occurrences needle interior + occurrences needle item := by
  have hadded : ∀ {gap blanks : List Char}, Blank gap → Blank blanks → ∀ before : List Char,
      occurrences needle (before ++ ',' :: (gap ++ item ++ ',' :: blanks)) =
        occurrences needle before + occurrences needle item := by
    intro gap blanks hgap hblanks before
    rw [Text.occurrences_append_cons hne hcomma, Text.occurrences_append_cons hne hcomma,
      occurrences_blank_append hne hneedle hgap, occurrences_of_blank hne hneedle hblanks,
      Nat.add_zero]
  cases h with
  | first hblanks => rw [occurrences_of_blank hne hneedle hblanks, Nat.zero_add]
  | behindComma hgap hblanks =>
      rw [hadded hgap hblanks, Text.occurrences_append_cons hne hcomma,
        occurrences_of_blank hne hneedle hblanks, Nat.add_zero]
  | @behindEntry before gap blanks c hc hcomma' hgap hblanks =>
      rw [hadded hgap hblanks, ← occurrences_append_blank hne hneedle hblanks (before ++ [c]),
        List.append_assoc, List.singleton_append]

end Extended

/-! ### The list in its source -/

/-- The first of some markers that occurs in a source, and where. -/
def firstMarker? (source : List Char) (markers : List (List Char)) : Option (List Char × Nat) :=
  markers.findSome? fun m => (Text.indexOf? m source).map (m, ·)

/-- A list is found where the first marker is, if what it opens is closed. -/
theorem findList?_eq_some_iff {source : List Char} {markers : List (List Char)} {site : ListSite} :
    findList? source markers = some site ↔
      firstMarker? source markers = some (site.marker, site.before.length) ∧
        nesting 0 site.interior = some 0 ∧ (∃ rest, site.after = ')' :: rest) ∧
          source = site.before ++ site.marker ++ site.interior ++ site.after := by
  constructor
  · intro h
    obtain ⟨-, hafter, hsource⟩ := of_findList?_eq_some h
    rw [findList?] at h
    obtain ⟨⟨marker, start⟩, hfound, h⟩ := Option.bind_eq_some_iff.mp h
    obtain ⟨size, hsize, h⟩ := Option.bind_eq_some_iff.mp h
    obtain ⟨other, -, hstart⟩ := List.exists_of_findSome?_eq_some hfound
    obtain ⟨i, hi, heq⟩ := Option.map_eq_some_iff.mp hstart
    cases heq
    cases h
    have hlength : (source.take start).length = start :=
      List.length_take_of_le (Text.le_length_of_indexOf? hi)
    refine ⟨hfound.trans ?_, nesting_of_closeFrom hsize, hafter, hsource⟩
    rw [hlength]
  · rintro ⟨hfound, hnesting, ⟨rest, hafter⟩, hsource⟩
    have hinside : source.drop (site.before.length + site.marker.length) =
        site.interior ++ ')' :: rest := by
      rw [hsource, hafter, List.append_assoc (_ ++ _), List.drop_left' (by simp)]
    have hsize := closeFrom_of_nesting hnesting rest
    rw [findList?]
    refine Option.bind_eq_some_iff.mpr ⟨(site.marker, site.before.length), hfound, ?_⟩
    refine Option.bind_eq_some_iff.mpr ⟨site.interior.length, by rw [hinside, hsize], ?_⟩
    rw [hinside, List.take_left, List.drop_left, ← hafter, hsource, List.append_assoc,
      List.append_assoc, List.take_left]
    rfl

/-- What is found first is found first in another source, if what is not found there is not found
here. -/
theorem firstMarker?_eq_some {source other : List Char} {markers : List (List Char)}
    {marker : List Char} {start : Nat} (h : firstMarker? source markers = some (marker, start))
    (hnone : ∀ m ∈ markers, Text.indexOf? m source = none → Text.indexOf? m other = none)
    (hsome : Text.indexOf? marker source = some start → Text.indexOf? marker other = some start) :
    firstMarker? other markers = some (marker, start) := by
  induction markers with
  | nil => cases h
  | cons m markers ih =>
      obtain ⟨hm, hmarkers⟩ := List.forall_mem_cons.mp hnone
      rw [firstMarker?, List.findSome?_cons] at h ⊢
      cases hfound : Text.indexOf? m source with
      | none =>
          rw [hfound] at h
          rw [hm hfound]
          exact ih h hmarkers
      | some i =>
          rw [hfound] at h
          cases h
          rw [hsome hfound]
          rfl

section Inserting

variable {source : List Char} {bodies : List (List Char)} {site : ListSite}

/-- A word occurs before a list, in it and behind it. -/
theorem occurrences_site {needle body rest : List Char} (hne : needle ≠ []) (hopen : '(' ∉ needle)
    (hclose : ')' ∉ needle) (before interior : List Char) :
    occurrences needle (before ++ (body ++ ['(']) ++ interior ++ ')' :: rest) =
      occurrences needle (before ++ body) +
        (occurrences needle interior + occurrences needle rest) := by
  have hregroup : before ++ (body ++ ['(']) ++ interior ++ ')' :: rest =
      (before ++ body) ++ '(' :: (interior ++ ')' :: rest) := by simp
  rw [hregroup, Text.occurrences_append_cons hne hopen, Text.occurrences_append_cons hne hclose]

/-- A marker occurs where a list is opened, in the list and behind it. -/
theorem occurrences_marker_site {other body rest : List Char} (hother : Unbroken other)
    (before interior : List Char) :
    occurrences (other ++ ['(']) (before ++ (body ++ ['(']) ++ interior ++ ')' :: rest) =
      occurrences (other ++ ['(']) (before ++ body ++ ['(']) +
        (occurrences (other ++ ['(']) interior + occurrences (other ++ ['(']) rest) := by
  have hregroup : before ++ (body ++ ['(']) ++ interior ++ ')' :: rest =
      (before ++ body) ++ '(' :: (interior ++ ')' :: rest) := by simp
  have hclose : ')' ∉ other ++ ['('] := by
    simpa using hother.not_mem isBreak_close
  rw [hregroup, Text.occurrences_append_end (hother.not_mem isBreak_open),
    Text.occurrences_append_cons (by simp) hclose]

/-- **The list that an item is added to** is found again, with the item behind its entries. -/
theorem findList?_extended (hbodies : ∀ body ∈ bodies, Unbroken body)
    (hfind : findList? source (bodies.map (· ++ ['('])) = some site) {extended : List Char}
    (hextends : Extends item site.interior extended) (hclosed : nesting 0 extended = some 0)
    (hitem : IsEntry item) :
    findList? (site.before ++ site.marker ++ extended ++ site.after) (bodies.map (· ++ ['('])) =
      some { site with interior := extended } := by
  obtain ⟨hmarker, -⟩ := of_findList?_eq_some hfind
  obtain ⟨body, -, hbody⟩ := List.mem_map.mp hmarker
  obtain ⟨hfound, -, ⟨rest, hafter⟩, hsource⟩ := findList?_eq_some_iff.mp hfind
  refine findList?_eq_some_iff.mpr
    ⟨?_, hclosed, ⟨rest, hafter⟩, rfl⟩
  refine firstMarker?_eq_some hfound (fun m hm hnone => ?_) fun hstart => ?_
  · obtain ⟨other, hother, rfl⟩ := List.mem_map.mp hm
    have hunbroken := hbodies other hother
    have hblank : ∀ c ∈ other ++ ['('], Text.Letter.isBlank c = false := by
      intro c hc
      rcases List.mem_append.mp hc with hc | hc
      · cases hisBlank : Text.Letter.isBlank c with
        | false => rfl
        | true => exact absurd hc (hunbroken.not_mem (isBreak_of_isBlank hisBlank))
      · obtain rfl := List.mem_singleton.mp hc
        decide
    have hcomma : ',' ∉ other ++ ['('] := by
      simpa using hunbroken.not_mem (by decide)
    have hitemNone : occurrences (other ++ ['(']) item = 0 := by
      rw [Text.occurrences_eq_zero_iff (by simp)]
      exact fun h => hitem.open_not_mem (h.subset (by simp))
    rw [Text.indexOf?_eq_none_iff, ← Text.occurrences_eq_zero_iff (by simp)] at hnone ⊢
    rw [hsource, hafter, ← hbody, occurrences_marker_site hunbroken] at hnone
    rw [hafter, ← hbody, occurrences_marker_site hunbroken,
      hextends.occurrences_eq (by simp) hblank hcomma, hitemNone, Nat.add_zero]
    exact hnone
  · rw [hsource, List.append_assoc, List.append_assoc] at hstart
    rw [List.append_assoc, List.append_assoc]
    exact Text.indexOf?_append_self hstart _

/-- **An item that is new to a source** is added to its list. -/
theorem insertItemChars_extended (hbodies : ∀ body ∈ bodies, Unbroken body)
    (hfind : findList? source (bodies.map (· ++ ['('])) = some site)
    (hcode : ¬ ['/', '/'] <:+: site.interior) (hitem : IsEntry item) (hnew : ¬ item <:+: source) :
    ∃ interior, insertItemChars source item (bodies.map (· ++ ['('])) =
        (.inserted, site.before ++ site.marker ++ interior ++ site.after) ∧
      Extends item site.interior interior ∧
      findList? (site.before ++ site.marker ++ interior ++ site.after) (bodies.map (· ++ ['('])) =
        some { site with interior } := by
  have hgrows := grows_extendInterior site item
  have hextends := hgrows.extends hcode
  have hclosed : nesting 0 (extendInterior site item) = some 0 :=
    hgrows.nesting_eq_zero (nesting_of_not_mem hitem.open_not_mem hitem.close_not_mem 0)
      (findList?_eq_some_iff.mp hfind).2.1
  refine ⟨extendInterior site item, ?_, hextends,
    findList?_extended hbodies hfind hextends hclosed hitem⟩
  rw [insertItemChars, if_neg (by rwa [Text.contains_iff]), hfind]

/-- **A word occurs in a source with an item more** as often as in the source and in the item. -/
theorem occurrences_extended (hfind : findList? source (bodies.map (· ++ ['('])) = some site)
    {word extended : List Char} (hextends : Extends item site.interior extended)
    (hword : IsEntry word) :
    occurrences word (site.before ++ site.marker ++ extended ++ site.after) =
      occurrences word source + occurrences word item := by
  obtain ⟨-, -, ⟨rest, hafter⟩, hsource⟩ := findList?_eq_some_iff.mp hfind
  obtain ⟨body, -, hbody⟩ := List.mem_map.mp (of_findList?_eq_some hfind).1
  rw [hsource, hafter, ← hbody,
    occurrences_site hword.nonempty hword.open_not_mem hword.close_not_mem,
    occurrences_site hword.nonempty hword.open_not_mem hword.close_not_mem,
    hextends.occurrences_eq hword.nonempty hword.unblank hword.comma_not_mem]
  omega

end Inserting

/-! ### Runs -/

/-- A source with items added one after the other. -/
def insertAll (source : List Char) (markers items : List (List Char)) : List Char :=
  items.foldl (fun text item => (insertItemChars text item markers).2) source

/-- What becomes of a source and its list when some of the items that may be added are: the list
stands where it did, without comments, the items are its last entries, and each occurs once. -/
structure Inserted (markers : List (List Char)) (site : ListSite) (all items : List (List Char))
    (text : List Char) : Prop where
  exists_findList? : ∃ interior, findList? text markers = some { site with interior } ∧
    ¬ ['/', '/'] <:+: interior ∧ entries interior = entries site.interior ++ items.eraseDups
  occurrences_eq : ∀ item ∈ all, occurrences item text = if item ∈ items then 1 else 0

section Runs

variable {source : List Char} {bodies all items : List (List Char)} {site : ListSite}

theorem unblank_comment : ∀ c ∈ ['/', '/'], Text.Letter.isBlank c = false :=
  List.forall_mem_cons.mpr ⟨by decide, List.forall_mem_singleton.mpr (by decide)⟩

/-- An item that was added is there. -/
theorem Inserted.insertItemChars_eq {markers : List (List Char)} {text : List Char}
    (h : Inserted markers site all items text) (hitem : IsEntry item) (hall : item ∈ all)
    (hmem : item ∈ items) : insertItemChars text item markers = (.alreadyPresent, text) := by
  have hcount := h.occurrences_eq item hall
  rw [if_pos hmem] at hcount
  have hinfix : item <:+: text := by
    by_contra hno
    rw [(Text.occurrences_eq_zero_iff hitem.nonempty).mpr hno] at hcount
    cases hcount
  rw [insertItemChars, if_pos (Text.contains_iff.mpr hinfix)]

/-- The distinct items with another one are those that were there, and that one if it was not. -/
theorem eraseDups_concat {α : Type} [BEq α] [LawfulBEq α] (items : List α) (item : α) :
    (items ++ [item]).eraseDups = if item ∈ items then items.eraseDups
      else items.eraseDups ++ [item] := by
  rw [List.eraseDups_append]
  by_cases hmem : item ∈ items <;> simp [List.removeAll, hmem, List.eraseDups_cons]

/-- **One more item** is added, unless it was before. -/
theorem Inserted.concat (hbodies : ∀ body ∈ bodies, Unbroken body) {text : List Char}
    (h : Inserted (bodies.map (· ++ ['('])) site all items text)
    (hitems : ∀ item ∈ all, IsEntry item)
    (hapart : ∀ item ∈ all, ∀ other ∈ all, item ≠ other → ¬ item <:+: other) (hall : item ∈ all) :
    Inserted (bodies.map (· ++ ['('])) site all (items ++ [item])
      (insertItemChars text item (bodies.map (· ++ ['(']))).2 := by
  have hitem := hitems item hall
  by_cases hmem : item ∈ items
  · rw [h.insertItemChars_eq hitem hall hmem]
    refine ⟨?_, fun other hother => ?_⟩
    · rw [eraseDups_concat, if_pos hmem]
      exact h.exists_findList?
    · have hsame : other ∈ items ++ [item] ↔ other ∈ items := by
        simp only [List.mem_append, List.mem_singleton, or_iff_left_iff_imp]
        rintro rfl
        exact hmem
      simp only [hsame]
      exact h.occurrences_eq other hother
  · have hcount := h.occurrences_eq item hall
    rw [if_neg hmem, Text.occurrences_eq_zero_iff hitem.nonempty] at hcount
    obtain ⟨interior, hfind, hcode, hentries⟩ := h.exists_findList?
    obtain ⟨extended, hinsert, hextends, hagain⟩ :=
      insertItemChars_extended hbodies hfind hcode hitem hcount
    have hnesting := (findList?_eq_some_iff.mp hfind).2.1
    rw [hinsert]
    refine ⟨⟨extended, hagain, ?_, ?_⟩, fun other hother => ?_⟩
    · rw [← Text.occurrences_eq_zero_iff (by simp)] at hcode ⊢
      rw [hextends.occurrences_eq (by simp) unblank_comment (by simp), hcode, Nat.zero_add,
        Text.occurrences_eq_zero_iff (by simp)]
      exact hitem.uncommented
    · rw [hextends.entries_eq hitem hnesting, hentries, eraseDups_concat, if_neg hmem,
        List.append_assoc]
    · have hadded := occurrences_extended hfind hextends (hitems other hother)
      dsimp only at hadded ⊢
      rw [hadded, h.occurrences_eq other hother]
      by_cases heq : other = item
      · subst heq
        rw [if_neg hmem, if_pos (by simp), Text.occurrences_self hitem.nonempty]
      · have hnone := (Text.occurrences_eq_zero_iff (hitems other hother).nonempty).mpr
          (hapart other hother item hall heq)
        have hsame : other ∈ items ++ [item] ↔ other ∈ items := by simp [heq]
        simp only [hsame, hnone, Nat.add_zero]

/-- **A run of items.** -/
theorem inserted_insertAll (hbodies : ∀ body ∈ bodies, Unbroken body)
    (hfind : findList? source (bodies.map (· ++ ['('])) = some site)
    (hcode : ¬ ['/', '/'] <:+: site.interior) (hitems : ∀ item ∈ all, IsEntry item)
    (hfresh : ∀ item ∈ all, ¬ item <:+: source)
    (hapart : ∀ item ∈ all, ∀ other ∈ all, item ≠ other → ¬ item <:+: other)
    (hall : ∀ item ∈ items, item ∈ all) :
    Inserted (bodies.map (· ++ ['('])) site all items
      (insertAll source (bodies.map (· ++ ['('])) items) := by
  -- The items that were added so far are those at the front.
  induction items using List.reverseRecOn with
  | nil =>
      refine ⟨⟨site.interior, hfind, hcode, by simp⟩, fun item hitem => ?_⟩
      rw [if_neg (List.not_mem_nil)]
      exact (Text.occurrences_eq_zero_iff (hitems item hitem).nonempty).mpr (hfresh item hitem)
  | append_singleton items item ih =>
      have hbefore := ih fun other hother => hall other (List.mem_append_left _ hother)
      rw [insertAll, List.foldl_concat]
      exact hbefore.concat hbodies hitems hapart (hall item (by simp))

end Runs

/-! ### Runs on strings -/

/-- A source with items added one after the other. -/
def insertItems (source : String) (items markers : List String) : String :=
  items.foldl (fun text item => (insertItem text item markers).2) source

theorem toList_insertItems (source : String) (items markers : List String) :
    (insertItems source items markers).toList =
      insertAll source.toList (markers.map String.toList) (items.map String.toList) := by
  induction items generalizing source with
  | nil => rfl
  | cons item items ih =>
      rw [insertItems, List.foldl_cons, ← insertItems, ih, toList_snd_insertItem]
      rfl

/-- **A run of items adds each of them once**, in the order in which they come, to a list without
comments in it: the entries of the list are those that it had and the distinct items behind them,
whatever the list looks like. Each item occurs once in the source then, and adding it again changes
nothing. -/
theorem entries_insertItems {markers : List String}
    (hmarkers : markers = logicMarkers ∨ markers = handlerMarkers) (source : String)
    (items : List String) (site : ListSite)
    (hfind : findList? source.toList (markers.map String.toList) = some site)
    (hcode : ¬ ['/', '/'] <:+: site.interior) (hitems : ∀ item ∈ items, IsEntry item.toList)
    (hfresh : ∀ item ∈ items, ¬ item.toList <:+: source.toList)
    (hapart : ∀ item ∈ items, ∀ other ∈ items, item ≠ other → ¬ item.toList <:+: other.toList) :
    (∃ interior, findList? (insertItems source items markers).toList (markers.map String.toList) =
        some { site with interior } ∧
      entries interior = entries site.interior ++ (items.map String.toList).eraseDups) ∧
    (∀ item ∈ items, occurrences item.toList (insertItems source items markers).toList = 1) ∧
    ∀ item ∈ items, insertItem (insertItems source items markers) item markers =
      (.alreadyPresent, insertItems source items markers) := by
  obtain ⟨bodies, hbodies, hchars⟩ : AreMarkers markers := by
    rcases hmarkers with rfl | rfl
    · exact areMarkers_logicMarkers
    · exact areMarkers_handlerMarkers
  have hchar : ∀ item ∈ items.map String.toList, IsEntry item :=
    List.forall_mem_map.mpr hitems
  have hrun : Inserted (bodies.map (· ++ ['('])) site (items.map String.toList)
      (items.map String.toList) (insertItems source items markers).toList := by
    rw [toList_insertItems, hchars]
    refine inserted_insertAll hbodies (hchars ▸ hfind) hcode hchar
      (List.forall_mem_map.mpr hfresh) ?_ fun item => id
    refine List.forall_mem_map.mpr fun item hitem => ?_
    refine List.forall_mem_map.mpr fun other hother hne => ?_
    exact hapart item hitem other hother fun heq => hne (congrArg String.toList heq)
  obtain ⟨interior, hagain, -, hentries⟩ := hrun.exists_findList?
  rw [hchars]
  refine ⟨⟨interior, hagain, hentries⟩, fun item hitem => ?_, fun item hitem => ?_⟩
  · have hmem := List.mem_map_of_mem (f := String.toList) hitem
    rw [hrun.occurrences_eq _ hmem, if_pos hmem]
  · have hmem := List.mem_map_of_mem (f := String.toList) hitem
    have hthere := hrun.insertItemChars_eq (hitems item hitem) hmem hmem
    rw [insertItem, hchars, hthere]
    simp only [String.ofList_toList]

/-- Two items, one of them twice, in a list of one entry. -/
theorem entries_insertItems_twice :
    ∃ interior, findList? (insertItems "provide!(a::A)" ["b::B", "c::C", "b::B"] logicMarkers).toList
        (logicMarkers.map String.toList) =
          some ⟨[], "provide!(".toList, interior, [')']⟩ ∧
      entries interior = ["a::A".toList, "b::B".toList, "c::C".toList] := by
  have hblanks : ∀ item ∈ ["b::B", "c::C", "b::B"],
      (item.toList.all fun c => !Text.Letter.isBlank c) = true := by decide
  have hitems : ∀ item ∈ ["b::B", "c::C", "b::B"], IsEntry item.toList := by
    intro item hitem
    have hunblank : ∀ c ∈ item.toList, Text.Letter.isBlank c = false := by
      simpa using hblanks item hitem
    have hitem : item = "b::B" ∨ item = "c::C" ∨ item = "b::B" := by simpa using hitem
    rcases hitem with rfl | rfl | rfl <;>
      exact ⟨by decide, hunblank, by decide, by decide, by decide, by decide⟩
  obtain ⟨⟨interior, hfind, hentries⟩, -, -⟩ :=
    entries_insertItems (Or.inl rfl) "provide!(a::A)" ["b::B", "c::C", "b::B"]
      ⟨[], "provide!(".toList, "a::A".toList, [')']⟩ rfl (by decide) hitems (by decide) (by decide)
  exact ⟨interior, hfind, hentries.trans (by decide)⟩

end ServiceGen.Registration
