import Mathlib.Data.List.Perm.Subperm
import ServiceGen.Source.ImportOrder

/-!
# Imports That a Parser Finds

What is asked of a parser about a source (`SourceParser.ReadsImports`): the imports that it finds
there are parts of the source, one behind the other, and it finds them again where they are put in
another order. No more is asked. So what it takes for an import, and how it reads what stands around
the imports, is left to the parser; but two imports with one text must name the same
(`SourceParser.ReadsImports.eq_of_text_eq`), for they can change places without changing the source.
-/

namespace ServiceGen.Source

/-! ### Texts between places -/

section Places

variable {source : List Char} {a b c : Nat}

/-- The texts between three places make up the text between the first and the last. -/
theorem textBetween_append (source : List Char) (hab : a ≤ b) (hbc : b ≤ c) :
    textBetween source a b ++ textBetween source b c = textBetween source a c := by
  have hfirst : textBetween source a b = (textBetween source a c).take (b - a) := by
    rw [textBetween, textBetween, ← List.drop_take, List.take_take, Nat.min_eq_left hbc]
  have hsecond : textBetween source b c = (textBetween source a c).drop (b - a) := by
    rw [textBetween, textBetween, List.drop_drop, Nat.add_sub_cancel' hab]
  rw [hfirst, hsecond, List.take_append_drop]

/-- Between a place and itself there is no text. -/
@[simp]
theorem textBetween_self (source : List Char) (a : Nat) : textBetween source a a = [] := by
  rw [textBetween, List.drop_eq_nil_iff]
  exact List.length_take_le a source

/-- A text is that before a place, that between it and another one, and that behind. -/
theorem take_append_textBetween_append_drop (source : List Char) (hab : a ≤ b) :
    source.take a ++ textBetween source a b ++ source.drop b = source := by
  have hstart : textBetween source 0 a = source.take a := List.drop_zero
  have hfront : textBetween source 0 b = source.take b := List.drop_zero
  rw [← hstart, textBetween_append source (Nat.zero_le a) hab, hfront, List.take_append_drop]

/-- The text in the middle of three stands between its ends. -/
theorem textBetween_of_append (start text tail : List Char) :
    textBetween (start ++ text ++ tail) start.length (start ++ text).length = text := by
  rw [textBetween, List.take_left, List.drop_left]

end Places

/-! ### The imports that items begin with -/

namespace TopItem

variable {items : List TopItem} {found : List FoundImport}

/-- The leading imports are those before the first item that is none. -/
theorem leading_eq_iff : leading items = found ↔
    ∃ rest, items = found.map TopItem.found ++ rest ∧ ∀ i, rest.head? ≠ some (.found i) := by
  induction items generalizing found with
  | nil =>
    constructor
    · rintro rfl
      exact ⟨[], rfl, by simp⟩
    · rintro ⟨rest, hrest, -⟩
      exact (List.map_eq_nil_iff.mp (List.append_eq_nil_iff.mp hrest.symm).1).symm
  | cons item items ih =>
    cases item with
    | other =>
      constructor
      · rintro rfl
        exact ⟨.other :: items, rfl, by simp⟩
      · rintro ⟨rest, hrest, -⟩
        cases found with
        | nil => rfl
        | cons i found => cases hrest
    | found i =>
      rw [leading]
      constructor
      · intro h
        obtain ⟨rest, hrest, hhead⟩ := ih.mp rfl
        exact ⟨rest, by rw [← h, List.map_cons, List.cons_append, ← hrest], hhead⟩
      · rintro ⟨rest, hrest, hhead⟩
        cases found with
        | nil =>
          obtain rfl : TopItem.found i :: items = rest := hrest
          exact absurd rfl (hhead i)
        | cons j found =>
          obtain ⟨hij, htail⟩ := List.cons.inj hrest
          rw [TopItem.found.inj hij, ih.mpr ⟨rest, htail, hhead⟩]

end TopItem

/-! ### What is asked of a parser -/

/-- Imports stand in a source, one behind the other. -/
structure StandIn (source : List Char) (found : List FoundImport) : Prop where
  /-- The text of each is that between its places. -/
  text : ∀ i ∈ found, i.start ≤ i.stop ∧ i.stop ≤ source.length ∧
    textBetween source i.start i.stop = i.text
  /-- None begins before the end of another one. -/
  apart : found.Pairwise fun i j => i.stop ≤ j.start

/-- The same imports in another order, of which repetitions may be left out. -/
structure Rearranged (imports arranged : List Import) : Prop where
  subperm : arranged.Subperm imports
  mem : ∀ i ∈ imports, i ∈ arranged

/-- The places of imports with one character between any two, from a place on. -/
def placesFrom (place : Nat) : List Import → List (Nat × Nat)
  | [] => []
  | i :: rest =>
    (place, place + i.text.length) :: placesFrom (place + i.text.length + 1) rest

namespace SourceParser

variable {parser : SourceParser} {source : List Char} {found : List FoundImport}

/-- A parser finds these imports at the beginning of a source: what follows them there is another
item, or none. -/
def Finds (parser : SourceParser) (source : List Char) (found : List FoundImport) : Prop :=
  ∃ items, parser.parse source = some (found.map TopItem.found ++ items) ∧
    ∀ i, items.head? ≠ some (.found i)

/-- What a parser finds are the leading imports of the items. -/
theorem finds_iff : parser.Finds source found ↔
    ∃ items, parser.parse source = some items ∧ TopItem.leading items = found := by
  constructor
  · rintro ⟨items, hparse, hhead⟩
    exact ⟨_, hparse, TopItem.leading_eq_iff.mpr ⟨items, rfl, hhead⟩⟩
  · rintro ⟨items, hparse, hleading⟩
    obtain ⟨rest, rfl, hhead⟩ := TopItem.leading_eq_iff.mp hleading
    exact ⟨rest, hparse, hhead⟩

/-- A parser finds the same imports each time. -/
theorem Finds.unique {other : List FoundImport} (h : parser.Finds source found)
    (hother : parser.Finds source other) : found = other := by
  obtain ⟨items, hparse, rfl⟩ := finds_iff.mp h
  obtain ⟨items', hparse', rfl⟩ := finds_iff.mp hother
  rw [Option.some.inj (hparse.symm.trans hparse')]

/-- **What is asked of a parser** about a source. -/
structure ReadsImports (parser : SourceParser) (source : List Char) : Prop where
  /-- The imports that it finds stand in the source. -/
  standIn : ∀ {found}, parser.Finds source found → StandIn source found
  /-- With a line break between any two, it finds them again in another order. -/
  rearranged : ∀ {found first last}, parser.Finds source found → found.head? = some first →
    found.getLast? = some last → ∀ {arranged}, Rearranged (found.map FoundImport.entry) arranged →
      ∃ found', parser.Finds (source.take first.start ++ Text.join ['\n'] (arranged.map (·.text))
          ++ source.drop last.stop) found' ∧
        found'.map FoundImport.entry = arranged ∧
        found'.map (fun i => (i.start, i.stop)) = placesFrom first.start arranged

/-- **Imports are known by their texts.** -/
theorem ReadsImports.eq_of_text_eq (h : parser.ReadsImports source)
    (hfound : parser.Finds source found) {i j : Import} (hi : i ∈ found.map FoundImport.entry)
    (hj : j ∈ found.map FoundImport.entry) (htext : i.text = j.text) : i = j := by
  by_contra hne
  obtain ⟨first, hfirst⟩ : ∃ first, found.head? = some first := by
    cases found with
    | nil => cases hi
    | cons first rest => exact ⟨first, rfl⟩
  obtain ⟨last, hlast⟩ : ∃ last, found.getLast? = some last := by
    cases hlast : found.getLast? with
    | none =>
      rw [List.getLast?_eq_none_iff] at hlast
      rw [hlast] at hi
      cases hi
    | some last => exact ⟨last, rfl⟩
  have hj' : j ∈ (found.map FoundImport.entry).erase i :=
    (List.mem_erase_of_ne fun heq => hne heq.symm).mpr hj
  -- Both may stand first with the other one behind it, and the source is the same then.
  have hperm : (found.map FoundImport.entry).Perm
      (i :: j :: ((found.map FoundImport.entry).erase i).erase j) :=
    (List.perm_cons_erase hi).trans ((List.perm_cons_erase hj').cons i)
  have hswap := hperm.trans (List.Perm.swap j i _)
  obtain ⟨a, ha, hentries, -⟩ := h.rearranged hfound hfirst hlast
    ⟨hperm.symm.subperm, fun k hk => hperm.mem_iff.mp hk⟩
  obtain ⟨b, hb, hentries', -⟩ := h.rearranged hfound hfirst hlast
    ⟨hswap.symm.subperm, fun k hk => hswap.mem_iff.mp hk⟩
  simp only [List.map_cons, htext] at ha hb
  rw [ha.unique hb, hentries'] at hentries
  exact hne (List.cons.inj hentries).1.symm

end SourceParser

end ServiceGen.Source
