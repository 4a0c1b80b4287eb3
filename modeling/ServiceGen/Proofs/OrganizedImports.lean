import Mathlib.Data.Prod.Lex
import Mathlib.Data.String.Basic
import ServiceGen.Proofs.Occurrences
import ServiceGen.Proofs.RecognizedImports
import ServiceGen.Proofs.Words

/-!
# Organized Imports

What organizing the imports of a source does (`Organized`), whatever parser finds them, as long as
it is one that reads imports (`SourceParser.ReadsImports`): the text around them stays, each of
their texts is kept once, they are in order, and nothing is lost between them. The parser finds them
in the result in their order, so that organizing it again changes nothing.

Two things are not what they seem. The text of an import is removed from the others at its first
occurrence, which may stand in another import or in a comment; but however it is removed, no more
than its characters are gone, so that what is not white space can not be made up for
(`isBlankWithout_iff`). And imports are in order by what they name and then by their text,
while repetitions are found by the text alone; but imports with one text name the same, so that
repetitions stand side by side.

## Main results

* `isBlankWithout_iff`: **when nothing is lost** between imports.
* `SourceParser.organizeImports_eq_ok_iff`: **when organizing imports succeeds, and what it does**.
-/

namespace ServiceGen

open Text

/-! ### Removing texts -/

namespace Text

variable {needle cs : List Char}

open scoped List in
/-- A text is removed as a whole, or is not there. -/
theorem removeFirst_eq_self_or_perm (needle cs : List Char) :
    removeFirst needle cs = cs ∨ (needle ++ removeFirst needle cs).Perm cs := by
  unfold removeFirst
  cases h : indexOf? needle cs with
  | none => exact .inl rfl
  | some i =>
    right
    obtain ⟨rest, hrest⟩ := prefix_drop_of_indexOf? h
    have hdrop : cs.drop (i + needle.length) = rest := by
      rw [← List.drop_drop, ← hrest, List.drop_left]
    dsimp only
    rw [hdrop]
    calc needle ++ (cs.take i ++ rest)
      _ = needle ++ cs.take i ++ rest := (List.append_assoc ..).symm
      _ ~ cs.take i ++ needle ++ rest := List.perm_append_comm.append_right rest
      _ = cs := by rw [List.append_assoc, hrest, List.take_append_drop]

/-- No more than a text is lost where it is removed. -/
theorem countP_le_removeFirst (p : Char → Bool) (needle cs : List Char) :
    cs.countP p ≤ needle.countP p + (removeFirst needle cs).countP p := by
  obtain h | h := removeFirst_eq_self_or_perm needle cs
  · rw [h]
    exact Nat.le_add_left _ _
  · rw [← List.countP_append, h.countP_eq]

/-- A text behind others is removed, and of these as many are left as there were. -/
theorem exists_removeFirst_append {p : Char → Bool} {before : List Char}
    (hbefore : before.all p = true) (needle rest : List Char) :
    ∃ before', before'.all p = true ∧
      removeFirst needle (before ++ (needle ++ rest)) = before' ++ rest := by
  induction before with
  | nil =>
    refine ⟨[], rfl, ?_⟩
    rw [List.nil_append, removeFirst, indexOf?_eq_some_zero (List.prefix_append _ _)]
    simp
  | cons c before ih =>
    rw [List.all_cons, Bool.and_eq_true] at hbefore
    by_cases hhere : needle <+: c :: (before ++ (needle ++ rest))
    · -- The text begins earlier, so that the characters before it stand at its end.
      have hshort : needle <+: c :: before ++ needle := by
        have hother : c :: before ++ needle <+: c :: (before ++ (needle ++ rest)) := by
          rw [← List.append_assoc before, ← List.cons_append, ← List.cons_append]
          exact List.prefix_append _ rest
        refine List.prefix_of_prefix_length_le hhere hother ?_
        simp only [List.length_append, Nat.le_add_left]
      obtain ⟨left, hleft⟩ := hshort
      have hperm : left.Perm (c :: before) := by
        have hall : (needle ++ left).Perm (needle ++ (c :: before)) :=
          hleft ▸ List.perm_append_comm
        exact (List.perm_append_left_iff needle).mp hall
      refine ⟨left, ?_, ?_⟩
      · rw [hperm.all_eq, List.all_cons, hbefore.1, hbefore.2]
        rfl
      · have hsplit : c :: (before ++ (needle ++ rest)) = needle ++ (left ++ rest) := by
          rw [← List.append_assoc needle, hleft]
          simp
        rw [List.cons_append, removeFirst, indexOf?_eq_some_zero hhere, hsplit]
        simp
    · obtain ⟨before', hbefore', hremoved⟩ := ih hbefore.2
      refine ⟨c :: before', by rw [List.all_cons, hbefore.1, hbefore']; rfl, ?_⟩
      rw [List.cons_append, removeFirst, indexOf?_cons_eq_map hhere]
      rw [removeFirst] at hremoved
      cases hindex : indexOf? needle (before ++ (needle ++ rest)) with
      | none => rw [hindex] at hremoved; simpa using hremoved
      | some i =>
        rw [hindex] at hremoved
        have hstep : i + 1 + needle.length = i + needle.length + 1 := by omega
        simpa [hstep] using hremoved

end Text

namespace Source

/-! ### The text between imports -/

section Gaps

variable {items : List (List Char × Import)}

/-- If nothing but white space is left when the imports are removed, then nothing but white space
stands between them. -/
theorem isBlankText_of_isBlankWithout
    (h : isBlankWithout (items.map (·.2)) (items.flatMap Import.afterGap) = true) :
    ∀ item ∈ items, isBlankText item.1 = true := by
  -- the characters that are no white space, of which each removal takes those of one text
  let p : Char → Bool := fun c => !Letter.isBlank c
  have hremoved (imports : List Import) (cs : List Char) :
      cs.countP p ≤ (imports.map fun i => i.text.countP p).sum +
        (imports.foldl (fun gaps i => removeFirst i.text gaps) cs).countP p := by
    induction imports generalizing cs with
    | nil => simp
    | cons i imports ih =>
      have hfirst := countP_le_removeFirst p i.text cs
      have hrest := ih (removeFirst i.text cs)
      simp only [List.map_cons, List.sum_cons, List.foldl_cons]
      omega
  have hblock (items : List (List Char × Import)) :
      (items.flatMap Import.afterGap).countP p =
        (items.map fun item => item.1.countP p).sum +
          (items.map fun item => item.2.text.countP p).sum := by
    induction items with
    | nil => rfl
    | cons item items ih =>
      simp only [List.flatMap_cons, Import.afterGap, List.countP_append, ih, List.map_cons,
        List.sum_cons]
      omega
  have hleft : ((items.map (·.2)).foldl (fun gaps i => removeFirst i.text gaps)
      (items.flatMap Import.afterGap)).countP p = 0 := by
    rw [List.countP_eq_zero]
    intro c hc
    simpa [p] using List.all_eq_true.mp h c hc
  have hsum : (items.map fun item => item.1.countP p).sum = 0 := by
    have hle := hremoved (items.map (·.2)) (items.flatMap Import.afterGap)
    rw [hleft, hblock, List.map_map] at hle
    simp only [Function.comp_def] at hle
    omega
  intro item hitem
  have hzero := List.sum_eq_zero_iff.mp hsum _ (List.mem_map_of_mem hitem)
  rw [isBlankText, List.all_eq_true]
  intro c hc
  simpa [p] using List.countP_eq_zero.mp hzero c hc

/-- If nothing but white space stands between imports, then nothing else is left behind white space
when they are removed. -/
theorem isBlankWithout_append (before : List Char)
    (h : ∀ item ∈ items, isBlankText item.1 = true) (hbefore : isBlankText before = true) :
    isBlankWithout (items.map (·.2)) (before ++ items.flatMap Import.afterGap) = true := by
  induction items generalizing before with
  | nil => simpa [isBlankWithout] using hbefore
  | cons item items ih =>
    obtain ⟨hgap, hgaps⟩ := List.forall_mem_cons.mp h
    have hblank : (before ++ item.1).all Letter.isBlank = true := by
      rw [List.all_append, Bool.and_eq_true]
      exact ⟨hbefore, hgap⟩
    obtain ⟨before', hbefore', hremoved⟩ :=
      exists_removeFirst_append hblank item.2.text (items.flatMap Import.afterGap)
    have hsplit : before ++ (item :: items).flatMap Import.afterGap =
        before ++ item.1 ++ (item.2.text ++ items.flatMap Import.afterGap) := by
      simp [Import.afterGap]
    rw [hsplit, isBlankWithout, List.map_cons, List.foldl_cons, hremoved]
    exact ih before' hgaps hbefore'

/-- **Nothing but white space is left** when imports are removed exactly if nothing but white space
stands between them. -/
theorem isBlankWithout_iff :
    isBlankWithout (items.map (·.2)) (items.flatMap Import.afterGap) = true ↔
      ∀ item ∈ items, isBlankText item.1 = true :=
  ⟨isBlankText_of_isBlankWithout, fun h => isBlankWithout_append [] h rfl⟩

end Gaps

/-! ### The order of imports -/

namespace Import

variable {i j : Import} {l : List Import}

/-- What imports are in order by. -/
def key (i : Import) : String ×ₗ String :=
  toLex (String.ofList i.tree, String.ofList i.text)

/-- Imports are told apart by their keys. -/
theorem key_injective : Function.Injective key := by
  rintro ⟨tree, text⟩ ⟨tree', text'⟩ h
  simpa [key, String.ofList_inj] using h

/-- Imports are ordered by their keys. -/
theorem before_iff : i.before j = true ↔ i.key ≤ j.key := by
  simp [before, key, Prod.Lex.toLex_le_toLex]

/-- Sorted imports have growing keys. -/
theorem pairwise_mergeSort_before (l : List Import) :
    (l.mergeSort before).Pairwise fun i j => i.key ≤ j.key := by
  refine (List.pairwise_mergeSort (fun i j k hij hjk => ?_) (fun i j => ?_) l).imp before_iff.mp
  · exact before_iff.mpr ((before_iff.mp hij).trans (before_iff.mp hjk))
  · rw [Bool.or_eq_true_iff, before_iff, before_iff]
    exact le_total i.key j.key

end Import

section Repeats

variable {l : List Import}

/-- Imports that are known by their texts and in order keep one of each. -/
theorem pairwise_withoutRepeats (hl : l.Pairwise fun i j => i.key ≤ j.key)
    (htext : ∀ i ∈ l, ∀ j ∈ l, i.text = j.text → i = j) :
    ((withoutRepeats l).Pairwise fun i j => i.key < j.key) ∧ ∀ i, i ∈ withoutRepeats l ↔ i ∈ l := by
  fun_induction withoutRepeats l with
  | case1 a b rest heq ih =>
    -- the second is the first
    obtain rfl : a = b := htext a (by simp) b (by simp) (by simpa using heq)
    obtain ⟨hsorted, hmem⟩ := ih (List.pairwise_cons.mp hl).2 fun i hi j hj =>
      htext i (List.mem_cons_of_mem a hi) j (List.mem_cons_of_mem a hj)
    exact ⟨hsorted, fun i => by simp [hmem]⟩
  | case2 a b rest hne ih =>
    obtain ⟨hfirst, hrest⟩ := List.pairwise_cons.mp hl
    obtain ⟨hsorted, hmem⟩ := ih hrest fun i hi j hj =>
      htext i (List.mem_cons_of_mem a hi) j (List.mem_cons_of_mem a hj)
    have hlt : a.key < b.key := by
      refine lt_of_le_of_ne (hfirst b (by simp)) fun heq => hne ?_
      rw [Import.key_injective heq, beq_self_eq_true]
    refine ⟨List.pairwise_cons.mpr ⟨fun i hi => ?_, hsorted⟩, fun i => by simp [hmem]⟩
    obtain rfl | hi := List.mem_cons.mp ((hmem i).mp hi)
    · exact hlt
    · exact hlt.trans_le ((List.pairwise_cons.mp hrest).1 i hi)
  | case3 l hshort =>
    match l, hshort with
    | [], _ => simp
    | [a], _ => simp
    | a :: b :: rest, hshort => exact (hshort a b rest rfl).elim

/-- Imports with different texts are kept. -/
theorem withoutRepeats_eq_self (hl : l.Pairwise fun i j => i.text ≠ j.text) :
    withoutRepeats l = l := by
  fun_induction withoutRepeats l with
  | case1 a b rest heq =>
    exact absurd (by simpa using heq) ((List.pairwise_cons.mp hl).1 b (by simp))
  | case2 a b rest hne ih => rw [ih (List.pairwise_cons.mp hl).2]
  | case3 => rfl

end Repeats


/-- Imports that are known by their texts are in order then, and none is lost. -/
theorem pairwise_inOrder {imports : List Import}
    (htext : ∀ i ∈ imports, ∀ j ∈ imports, i.text = j.text → i = j) :
    ((inOrder imports).Pairwise fun i j => i.key < j.key) ∧
      ∀ i, i ∈ inOrder imports ↔ i ∈ imports := by
  have hmem (i : Import) : i ∈ imports.mergeSort Import.before ↔ i ∈ imports := List.mem_mergeSort
  simp only [← hmem] at htext ⊢
  exact pairwise_withoutRepeats (Import.pairwise_mergeSort_before imports) htext

/-- Imports in order with different texts stay as they are. -/
theorem inOrder_eq_self {imports : List Import}
    (hsorted : imports.Pairwise fun i j => i.key < j.key)
    (htext : imports.Pairwise fun i j => i.text ≠ j.text) : inOrder imports = imports := by
  rw [inOrder, List.mergeSort_of_pairwise (hsorted.imp fun hlt => Import.before_iff.mpr hlt.le),
    withoutRepeats_eq_self htext]

/-- Imports in order are known by what they are. -/
theorem eq_of_pairwise_key {l l' : List Import} (hl : l.Pairwise fun i j => i.key < j.key)
    (hl' : l'.Pairwise fun i j => i.key < j.key) (h : ∀ i, i ∈ l ↔ i ∈ l') : l = l' := by
  refine List.map_injective_iff.mpr Import.key_injective
    (List.Pairwise.eq_of_mem_iff (List.pairwise_map.mpr hl) (List.pairwise_map.mpr hl') ?_)
  intro key
  simp only [List.mem_map, h]

/-! ### The text from the first import to the last -/

/-- Imports with the text before each, of which the first is that from a place on. -/
def gapped (source : List Char) (place : Nat) : List FoundImport → List (List Char × Import)
  | [] => []
  | i :: rest => (textBetween source place i.start, i.entry) :: gapped source i.stop rest

section Gapped

variable {source : List Char} {place : Nat} {found : List FoundImport} {first last : FoundImport}

/-- The imports with the text before each are the imports. -/
theorem map_snd_gapped (source : List Char) (place : Nat) (found : List FoundImport) :
    (gapped source place found).map (·.2) = found.map FoundImport.entry := by
  induction found generalizing place with
  | nil => rfl
  | cons i found ih => rw [gapped, List.map_cons, List.map_cons, ih]

/-- The last import ends no sooner than any other. -/
theorem StandIn.stop_le_last (h : StandIn source found) (hlast : found.getLast? = some last) :
    ∀ i ∈ found, i.stop ≤ last.stop := by
  intro i hi
  obtain ⟨before, rfl⟩ := List.getLast?_eq_some_iff.mp hlast
  rcases List.mem_append.mp hi with hi | hi
  · have hapart := (List.pairwise_append.mp h.apart).2.2 i hi last (by simp)
    exact hapart.trans (h.text last (by simp)).1
  · rw [List.mem_singleton.mp hi]

/-- **Imports that stand in a source make up its text** from a place before the first to the end of
the last. -/
theorem StandIn.flatMap_gapped (h : StandIn source found) (hlast : found.getLast? = some last)
    (hplace : ∀ i ∈ found, place ≤ i.start) :
    (gapped source place found).flatMap Import.afterGap = textBetween source place last.stop := by
  induction found generalizing place with
  | nil => cases hlast
  | cons i found ih =>
    obtain ⟨⟨hle, -, htext⟩, hrest⟩ := List.forall_mem_cons.mp h.text
    obtain ⟨hapart, hpairwise⟩ := List.pairwise_cons.mp h.apart
    have hstart := hplace i List.mem_cons_self
    have hown : textBetween source place i.start ++ i.entry.text =
        textBetween source place i.stop := by
      rw [FoundImport.entry, ← htext, textBetween_append source hstart hle]
    rw [gapped, List.flatMap_cons, Import.afterGap, hown]
    cases found with
    | nil =>
      obtain rfl := Option.some.inj hlast
      simp [gapped]
    | cons j found =>
      rw [List.getLast?_cons_cons] at hlast
      rw [ih ⟨hrest, hpairwise⟩ hlast hapart]
      refine textBetween_append source (hstart.trans hle) ?_
      exact h.stop_le_last (by rwa [List.getLast?_cons_cons]) i List.mem_cons_self

/-- The text before each import is white space if that before the first is and that between any two
neighbours. -/
theorem isBlankText_gapped_iff :
    (∀ item ∈ gapped source place found, isBlankText item.1 = true) ↔
      (∀ i ∈ found.head?, isBlankText (textBetween source place i.start) = true) ∧
        found.IsChain fun i j => isBlankText (textBetween source i.stop j.start) = true := by
  induction found generalizing place with
  | nil => simp [gapped]
  | cons i found ih =>
    rw [gapped, List.forall_mem_cons, ih, List.isChain_cons]
    simp

/-- **Nothing but white space is left between the imports** of a source exactly if nothing but white
space stands between neighbours. -/
theorem StandIn.isBlankWithout_iff (h : StandIn source found) (hfirst : found.head? = some first)
    (hlast : found.getLast? = some last) :
    isBlankWithout (found.map FoundImport.entry) (textBetween source first.start last.stop) = true ↔
      found.IsChain fun i j => isBlankText (textBetween source i.stop j.start) = true := by
  have hplace : ∀ i ∈ found, first.start ≤ i.start := by
    obtain ⟨rest, rfl⟩ := List.head?_eq_some_iff.mp hfirst
    obtain ⟨hapart, -⟩ := List.pairwise_cons.mp h.apart
    refine List.forall_mem_cons.mpr ⟨le_rfl, fun i hi => ?_⟩
    exact (h.text first List.mem_cons_self).1.trans (hapart i hi)
  rw [← h.flatMap_gapped hlast hplace, ← map_snd_gapped source first.start found,
    Source.isBlankWithout_iff, isBlankText_gapped_iff, hfirst]
  simp [isBlankText]

end Gapped

/-! ### Places of imports in order -/

section PlacesFrom

/-- The first import begins at the place that the places are counted from. -/
theorem start_of_placesFrom {place : Nat} {imports : List Import} {found : List FoundImport}
    {first : FoundImport}
    (h : found.map (fun i => (i.start, i.stop)) = placesFrom place imports)
    (hfirst : found.head? = some first) : first.start = place := by
  obtain ⟨rest, rfl⟩ := List.head?_eq_some_iff.mp hfirst
  cases imports with
  | nil => cases h
  | cons i imports =>
    rw [List.map_cons, placesFrom] at h
    exact congrArg Prod.fst (List.cons.inj h).1

/-- The last import ends behind all the texts and the line breaks between them. -/
theorem stop_of_placesFrom {place : Nat} {imports : List Import} {found : List FoundImport}
    {last : FoundImport}
    (h : found.map (fun i => (i.start, i.stop)) = placesFrom place imports)
    (hlast : found.getLast? = some last) :
    last.stop = place + (join ['\n'] (imports.map (·.text))).length := by
  induction imports generalizing place found with
  | nil =>
    rw [placesFrom, List.map_eq_nil_iff] at h
    subst h
    cases hlast
  | cons i imports ih =>
    obtain ⟨j, found, rfl⟩ := List.exists_cons_of_ne_nil (l := found) (by rintro rfl; cases h)
    rw [List.map_cons, placesFrom] at h
    obtain ⟨hplace, hrest⟩ := List.cons.inj h
    cases imports with
    | nil =>
      obtain rfl : found = [] := List.map_eq_nil_iff.mp hrest
      obtain rfl := Option.some.inj hlast
      exact congrArg Prod.snd hplace
    | cons next imports =>
      obtain ⟨k, found, rfl⟩ := List.exists_cons_of_ne_nil (l := found) (by rintro rfl; cases hrest)
      rw [List.getLast?_cons_cons] at hlast
      have hstop := ih hrest hlast
      simp only [List.map_cons, join_cons_cons, List.length_append, List.length_singleton] at hstop ⊢
      omega

/-- Between the first import and the last stand the texts with a line break between any two. -/
theorem textBetween_of_placesFrom {front : List Char} {imports : List Import}
    {found : List FoundImport} {first last : FoundImport} (tail : List Char)
    (h : found.map (fun i => (i.start, i.stop)) = placesFrom front.length imports)
    (hfirst : found.head? = some first) (hlast : found.getLast? = some last) :
    textBetween (front ++ join ['\n'] (imports.map (·.text)) ++ tail) first.start last.stop =
      join ['\n'] (imports.map (·.text)) := by
  rw [start_of_placesFrom h hfirst, stop_of_placesFrom h hlast, ← List.length_append]
  exact textBetween_of_append front _ tail

end PlacesFrom

/-! ### Organizing -/

/-- What organizing a source makes of it, with these imports found in it and these kept. -/
structure Organized (source : List Char) (found : List FoundImport) (kept : List Import)
    (out : List Char) : Prop where
  /-- Only the text from the first import to the last is another. -/
  around : ∀ first last, found.head? = some first → found.getLast? = some last →
    out = source.take first.start ++ join ['\n'] (kept.map (·.text)) ++ source.drop last.stop
  /-- Without imports, nothing is. -/
  eq_self : found = [] → out = source
  /-- What is kept names what it did. -/
  mem_entries : ∀ i ∈ kept, i ∈ found.map FoundImport.entry
  /-- No text of an import is lost, and none is new. -/
  mem_texts : ∀ text, text ∈ kept.map (·.text) ↔ text ∈ found.map (·.text)
  /-- Each of them is there once. -/
  nodup_texts : (kept.map (·.text)).Nodup
  /-- They are in order by what they name, and then by their text. -/
  pairwise_key : kept.Pairwise fun i j => i.key < j.key
  /-- Nothing but white space stood between them. -/
  isBlankText : found.IsChain fun i j => isBlankText (textBetween source i.stop j.start) = true

namespace SourceParser

variable {parser : SourceParser} {source out : List Char} {found : List FoundImport}
  {first last : FoundImport}

/-- Imports are put in order only where they are found. -/
theorem exists_finds_of_sortImports_eq_ok (h : parser.sortImports source = .ok out) :
    ∃ found, parser.Finds source found := by
  cases hparse : parser.parse source with
  | none => rw [sortImports, hparse] at h; cases h
  | some items => exact ⟨_, finds_iff.mpr ⟨items, hparse, rfl⟩⟩

/-- A source that begins with no import stays as it is. -/
theorem sortImports_of_finds_nil (h : parser.Finds source []) :
    parser.sortImports source = .ok source := by
  obtain ⟨items, hparse, hleading⟩ := finds_iff.mp h
  simp only [sortImports, hparse, hleading]
  rfl

/-- The imports of a source are put in order if they are not lost otherwise. -/
theorem sortImports_of_finds (h : parser.Finds source found) (hfirst : found.head? = some first)
    (hlast : found.getLast? = some last) :
    parser.sortImports source =
      if isBlankWithout (found.map FoundImport.entry)
          (textBetween source first.start last.stop) then
        .ok (source.take first.start
          ++ join ['\n'] ((inOrder (found.map FoundImport.entry)).map (·.text))
          ++ source.drop last.stop)
      else .error .textBetweenImports := by
  obtain ⟨items, hparse, rfl⟩ := finds_iff.mp h
  simp only [sortImports, hparse, hfirst, hlast]
  cases isBlankWithout ((TopItem.leading items).map FoundImport.entry)
    (textBetween source first.start last.stop) <;> rfl

/-- **A source whose imports are in order stays as it is.** -/
theorem sortImports_eq_self {front tail : List Char} {imports : List Import}
    (h : parser.Finds (front ++ join ['\n'] (imports.map (·.text)) ++ tail) found)
    (hentries : found.map FoundImport.entry = imports)
    (hplaces : found.map (fun i => (i.start, i.stop)) = placesFrom front.length imports)
    (hsorted : imports.Pairwise fun i j => i.key < j.key)
    (htext : imports.Pairwise fun i j => i.text ≠ j.text) :
    parser.sortImports (front ++ join ['\n'] (imports.map (·.text)) ++ tail) =
      .ok (front ++ join ['\n'] (imports.map (·.text)) ++ tail) := by
  cases hfirst : found.head? with
  | none =>
    obtain rfl := List.head?_eq_none_iff.mp hfirst
    exact sortImports_of_finds_nil h
  | some first =>
    obtain ⟨last, hlast⟩ : ∃ last, found.getLast? = some last :=
      ⟨_, List.getLast?_eq_some_getLast (List.ne_nil_of_mem (List.mem_of_mem_head? hfirst))⟩
    have hbetween := textBetween_of_placesFrom tail hplaces hfirst hlast
    have hblank : isBlankWithout imports (join ['\n'] (imports.map (·.text))) = true := by
      have hspaced := isBlankWithout_iff.mpr fun _ => isBlankText_of_mem_spaced (l := imports)
      rwa [map_snd_spaced, flatMap_afterGap_spaced] at hspaced
    have hle : first.start ≤ last.stop := by
      rw [start_of_placesFrom hplaces hfirst, stop_of_placesFrom hplaces hlast]
      exact Nat.le_add_right _ _
    have hself := take_append_textBetween_append_drop
      (front ++ join ['\n'] (imports.map (·.text)) ++ tail) hle
    rw [hbetween] at hself
    rw [sortImports_of_finds h hfirst hlast, hentries, hbetween, if_pos hblank,
      inOrder_eq_self hsorted htext, hself]

namespace ReadsImports

variable (h : parser.ReadsImports source) (hfound : parser.Finds source found)

include h hfound

/-- The imports of a source in order: none is lost, and each follows the one before. -/
theorem pairwise_inOrder :
    ((inOrder (found.map FoundImport.entry)).Pairwise fun i j => i.key < j.key) ∧
      ∀ i, i ∈ inOrder (found.map FoundImport.entry) ↔ i ∈ found.map FoundImport.entry :=
  Source.pairwise_inOrder fun _ hi _ hj htext => h.eq_of_text_eq hfound hi hj htext

/-- The imports of a source in order have different texts. -/
theorem pairwise_text_inOrder :
    (inOrder (found.map FoundImport.entry)).Pairwise fun i j => i.text ≠ j.text := by
  obtain ⟨hsorted, hmem⟩ := h.pairwise_inOrder hfound
  refine hsorted.imp_of_mem fun hi hj hlt htext => hlt.ne (congrArg _ ?_)
  exact h.eq_of_text_eq hfound ((hmem _).mp hi) ((hmem _).mp hj) htext

/-- To put the imports of a source in order is to put them in another one. -/
theorem rearranged_inOrder :
    Rearranged (found.map FoundImport.entry) (inOrder (found.map FoundImport.entry)) := by
  obtain ⟨hsorted, hmem⟩ := h.pairwise_inOrder hfound
  have hnodup : (inOrder (found.map FoundImport.entry)).Nodup :=
    hsorted.imp fun hlt heq => hlt.ne (congrArg _ heq)
  exact ⟨hnodup.subperm fun i hi => (hmem i).mp hi, fun i hi => (hmem i).mpr hi⟩

/-- The imports that a source begins with, kept in order, are what organizing it keeps. -/
theorem organized
    (hblank : found.IsChain fun i j => isBlankText (textBetween source i.stop j.start) = true)
    (haround : ∀ first last, found.head? = some first → found.getLast? = some last →
      out = source.take first.start
        ++ join ['\n'] ((inOrder (found.map FoundImport.entry)).map (·.text))
        ++ source.drop last.stop)
    (hself : found = [] → out = source) :
    Organized source found (inOrder (found.map FoundImport.entry)) out := by
  obtain ⟨hsorted, hmem⟩ := h.pairwise_inOrder hfound
  refine ⟨haround, hself, fun i hi => (hmem i).mp hi, fun text => ?_, ?_, hsorted, hblank⟩
  · simp only [List.mem_map, hmem, exists_exists_and_eq_and]
    rfl
  · exact List.pairwise_map.mpr (h.pairwise_text_inOrder hfound)

/-- **What is organized is read as the imports in their order, and stays as it is.** -/
theorem sortImports_again (hfirst : found.head? = some first) (hlast : found.getLast? = some last)
    (hout : out = source.take first.start
      ++ join ['\n'] ((inOrder (found.map FoundImport.entry)).map (·.text))
      ++ source.drop last.stop) :
    (∃ found', parser.Finds out found' ∧
        found'.map FoundImport.entry = inOrder (found.map FoundImport.entry)) ∧
      parser.sortImports out = .ok out := by
  obtain ⟨found', hfound', hentries, hplaces⟩ :=
    h.rearranged hfound hfirst hlast (h.rearranged_inOrder hfound)
  have hle : first.start ≤ source.length := by
    obtain ⟨hstart, hstop, -⟩ := (h.standIn hfound).text first (List.mem_of_mem_head? hfirst)
    exact hstart.trans hstop
  rw [← List.length_take_of_le hle] at hplaces
  subst hout
  refine ⟨⟨found', hfound', hentries⟩, ?_⟩
  exact sortImports_eq_self hfound' hentries hplaces (h.pairwise_inOrder hfound).1
    (h.pairwise_text_inOrder hfound)

/-- What is put in order is organized, and stays as it is from then on. -/
theorem organized_of_sortImports_eq_ok (hout : parser.sortImports source = .ok out) :
    Organized source found (inOrder (found.map FoundImport.entry)) out ∧
      (∃ found', parser.Finds out found' ∧
        found'.map FoundImport.entry = inOrder (found.map FoundImport.entry)) ∧
      parser.sortImports out = .ok out := by
  cases hfirst : found.head? with
  | none =>
    obtain rfl := List.head?_eq_none_iff.mp hfirst
    obtain rfl : source = out := Except.ok.inj ((sortImports_of_finds_nil hfound).symm.trans hout)
    have hnil : inOrder [] = [] := by simp [inOrder, withoutRepeats]
    exact ⟨h.organized hfound List.isChain_nil (by simp) fun _ => rfl,
      ⟨[], hfound, hnil.symm⟩, hout⟩
  | some first =>
    have hne : found ≠ [] := List.ne_nil_of_mem (List.mem_of_mem_head? hfirst)
    obtain ⟨last, hlast⟩ : ∃ last, found.getLast? = some last :=
      ⟨_, List.getLast?_eq_some_getLast hne⟩
    rw [sortImports_of_finds hfound hfirst hlast] at hout
    split at hout
    case isFalse => cases hout
    case isTrue hblank =>
      obtain rfl := Except.ok.inj hout
      refine ⟨?_, h.sortImports_again hfound hfirst hlast rfl⟩
      refine h.organized hfound
        (((h.standIn hfound).isBlankWithout_iff hfirst hlast).mp hblank) ?_ (fun hnil => absurd hnil hne)
      intro first' last' hfirst' hlast'
      obtain rfl := Option.some.inj (hfirst.symm.trans hfirst')
      obtain rfl := Option.some.inj (hlast.symm.trans hlast')
      rfl

/-- A source is put in order as it is organized. -/
theorem sortImports_of_organized {kept : List Import} (horganized : Organized source found kept out) :
    parser.sortImports source = .ok out := by
  obtain ⟨hsorted, hmem⟩ := h.pairwise_inOrder hfound
  cases hfirst : found.head? with
  | none =>
    obtain rfl := List.head?_eq_none_iff.mp hfirst
    rw [sortImports_of_finds_nil hfound, horganized.eq_self rfl]
  | some first =>
    obtain ⟨last, hlast⟩ : ∃ last, found.getLast? = some last :=
      ⟨_, List.getLast?_eq_some_getLast (List.ne_nil_of_mem (List.mem_of_mem_head? hfirst))⟩
    have hblank := ((h.standIn hfound).isBlankWithout_iff hfirst hlast).mpr horganized.isBlankText
    -- Only one list of imports is in order and has these texts.
    have hkept : kept = inOrder (found.map FoundImport.entry) := by
      refine eq_of_pairwise_key horganized.pairwise_key hsorted fun i => ?_
      rw [hmem]
      refine ⟨horganized.mem_entries i, fun hi => ?_⟩
      have htext : i.text ∈ found.map (·.text) := by
        obtain ⟨j, hj, rfl⟩ := List.mem_map.mp hi
        exact List.mem_map_of_mem hj
      obtain ⟨j, hj, heq⟩ := List.mem_map.mp ((horganized.mem_texts i.text).mpr htext)
      rwa [← h.eq_of_text_eq hfound (horganized.mem_entries j hj) hi heq]
    rw [sortImports_of_finds hfound hfirst hlast, if_pos hblank, ← hkept,
      ← horganized.around first last hfirst hlast]

end ReadsImports

/-- Organizing a source is to put the imports of its text in order. -/
theorem organizeImports_eq_ok {source out : String} :
    parser.organizeImports source = .ok out ↔ parser.sortImports source.toList = .ok out.toList := by
  rw [organizeImports]
  cases parser.sortImports source.toList with
  | error failure => simp [Except.map]
  | ok cs => simp [Except.map, String.ext_iff]

/-- **What organizing the imports of a source does**, with any parser that reads them: it succeeds
exactly if nothing but white space stands between the imports that the source begins with, and then
they are kept in order. They are found in the result as they are there, and organizing them again
changes nothing. -/
theorem organizeImports_eq_ok_iff {source out : String} (h : parser.ReadsImports source.toList) :
    parser.organizeImports source = .ok out ↔
      ∃ found kept, parser.Finds source.toList found ∧
        Organized source.toList found kept out.toList ∧
        (∃ found', parser.Finds out.toList found' ∧ found'.map FoundImport.entry = kept) ∧
        parser.organizeImports out = .ok out := by
  simp only [organizeImports_eq_ok]
  constructor
  · intro hout
    obtain ⟨found, hfound⟩ := exists_finds_of_sortImports_eq_ok hout
    exact ⟨found, _, hfound, h.organized_of_sortImports_eq_ok hfound hout⟩
  · rintro ⟨found, kept, hfound, horganized, -, -⟩
    exact h.sortImports_of_organized hfound horganized

/-- The same import is kept once, and the imports stand in order. -/
theorem organizeImports_eq_ok_iff_repeated :
    interpreterLine "use b;\nuse a;\nuse b;\n".toList = 0 ∧
      ∃ found kept, recognizer.Finds "use b;\nuse a;\nuse b;\n".toList found ∧
        Organized "use b;\nuse a;\nuse b;\n".toList found kept "use a;\nuse b;\n".toList ∧
        (∃ found', recognizer.Finds "use a;\nuse b;\n".toList found' ∧
          found'.map FoundImport.entry = kept) ∧
        recognizer.organizeImports "use a;\nuse b;\n" = .ok "use a;\nuse b;\n" :=
  have hline : interpreterLine "use b;\nuse a;\nuse b;\n".toList = 0 := by decide +kernel
  ⟨hline, (organizeImports_eq_ok_iff (recognizer_readsImports hline)).mp (by cbv)⟩

end SourceParser

end Source

end ServiceGen
