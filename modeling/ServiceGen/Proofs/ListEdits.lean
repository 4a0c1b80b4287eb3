import ServiceGen.Proofs.ListRuns

/-!
# Edits of Registration Lists

Registration files are written by hand, so adding an item changes as little as it can. An attempt
that adds nothing leaves the source as it is. One that does keeps what is before the list, the
opening of the list and everything from its close on, and what is between them grows by the item
(`Grows`).

The list is the one that the first of the markers opens that occurs, at its first occurrence. If the
item closes the parentheses that it opens, the list is closed where it was before.

## Main results

* `adds_of_findList?`: an item is added to the list that is found.
* `edits_insertItem`: **what adding an item does to a source.**
-/

namespace ServiceGen.Registration

variable {source item interior grown : List Char} {markers : List (List Char)} {site : ListSite}

/-- What a list has grown by is in it. -/
theorem Grows.infix (h : Grows item interior grown) : item <:+: grown := by
  cases h with
  | first => exact List.infix_rfl
  | @behind entries gap blanks => exact ⟨entries ++ '\n' :: gap, ',' :: blanks, by simp⟩
  | @behindEntry before rest gap blanks c =>
      exact ⟨before ++ c :: ',' :: (rest ++ '\n' :: gap), ',' :: blanks, by simp⟩

/-- An item is added to a list of a source, which gives a text. -/
structure Adds (source item : List Char) (markers : List (List Char)) (site : ListSite)
    (grown text : List Char) : Prop where
  /-- The list is opened by the first of the markers that occurs, where that occurs first. -/
  marker : firstMarker? source markers = some (site.marker, site.before.length)
  /-- The list and what is around it make up the source. -/
  parts : source = site.before ++ site.marker ++ site.interior ++ site.after
  /-- The list is closed behind its interior. -/
  closed : closeFrom 0 (site.interior ++ site.after) = some site.interior.length
  /-- The interior grows by the item. -/
  grows : Grows item site.interior grown
  /-- What is around the interior is kept. -/
  kept : text = site.before ++ site.marker ++ grown ++ site.after
  /-- The item is in the text. -/
  added : item <:+: text
  /-- Behind an item that closes what it opens, the list is closed where it was. -/
  closed_grown : nesting 0 item = some 0 → closeFrom 0 (grown ++ site.after) = some grown.length

/-- An item is added to the list that is found. -/
theorem adds_of_findList? (h : findList? source markers = some site) (item : List Char) :
    Adds source item markers site (extendInterior site item)
      (site.before ++ site.marker ++ extendInterior site item ++ site.after) := by
  obtain ⟨hmarker, hnesting, ⟨rest, hafter⟩, hsource⟩ := findList?_eq_some_iff.mp h
  have hgrows := grows_extendInterior site item
  refine ⟨hmarker, hsource, ?_, hgrows, rfl, ?_, fun hitem => ?_⟩
  · rw [hafter]
    exact closeFrom_of_nesting hnesting rest
  · exact hgrows.infix.trans ⟨site.before ++ site.marker, site.after, rfl⟩
  · rw [hafter]
    exact closeFrom_of_nesting (hgrows.nesting_eq_zero hitem hnesting) rest

/-- **What adding an item does to a source**, whatever the source, the item and the markers are: an
attempt that adds nothing leaves it as it is, and one that does keeps what is around the interior
of a list. -/
theorem edits_insertItem (source item : String) (markers : List String) :
    match insertItem source item markers with
    | (.inserted, text) => ∃ site grown,
        Adds source.toList item.toList (markers.map String.toList) site grown text.toList
    | (_, text) => text = source := by
  rw [insertItem, insertItemChars]
  by_cases hthere : Text.contains item.toList source.toList = true
  · rw [if_pos hthere]
    exact String.ofList_toList
  · rw [if_neg hthere]
    cases hlist : findList? source.toList (markers.map String.toList) with
    | none => exact String.ofList_toList
    | some site =>
        refine ⟨site, extendInterior site item.toList, ?_⟩
        rw [String.toList_ofList]
        exact adds_of_findList? hlist item.toList

/-- The comma of an entry comes before a comment, and not into one. -/
example : insertItem "provide!(\n  a::A // first\n  // b::B,\n)" "c::C" logicMarkers =
    (.inserted, "provide!(\n  a::A, // first\n  // b::B,\n  c::C,\n)") := by decide

end ServiceGen.Registration
