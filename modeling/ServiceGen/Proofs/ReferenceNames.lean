import ServiceGen.Proofs.Chains
import ServiceGen.Proofs.Words

/-!
# Names That References Read As

A reference is followed to the component that its last segment denotes, and the struct of a
component is named after what the reference reads as. These are two readings of the same segment
(`toList_eq_of_componentName?`, `toList_tailName`), and the second leaves out number signs at its
front. Number signs separate words, so the struct has the name of the component in either reading
(`pascalCase_tailName`). The component itself, however, is looked up under what the reference reads
as once more, and then the readings have to be the same
(`tailName_eq_iff`, `not_forall_tailName_eq`).
-/

namespace ServiceGen

namespace Text

/-! ### Last pieces -/

/-- What follows the last separator of a text. -/
theorem reverse_takeWhile_reverse {sep : Char} {last : List Char} (h : sep ∉ last)
    (before : List Char) :
    ((before ++ sep :: last).reverse.takeWhile (· != sep)).reverse = last := by
  have hlast : ∀ c ∈ last.reverse, (c != sep) = true := by
    intro c hc
    rw [List.mem_reverse] at hc
    exact bne_iff_ne.mpr fun heq => h (heq ▸ hc)
  rw [List.reverse_append, List.reverse_cons, List.append_assoc,
    List.takeWhile_append_of_pos hlast]
  simp

/-- What stands before and after the first occurrence of a character. -/
theorem eq_of_cutAtChar? {sep : Char} {cs before after : List Char}
    (h : cutAtChar? sep cs = some (before, after)) : cs = before ++ sep :: after := by
  induction cs generalizing before with
  | nil => cases h
  | cons c rest ih =>
      rw [cutAtChar?] at h
      split at h
      · rename_i hsep
        cases h
        rw [eq_of_beq hsep]
        rfl
      · obtain ⟨⟨first, last⟩, hrest, heq⟩ := Option.map_eq_some_iff.mp h
        cases heq
        rw [ih hrest]
        rfl

/-- Separators at the front of a name add no word. -/
theorem nameWords_seps_append {seps : List Char} (h : ∀ c ∈ seps, Letter.isWord c = false)
    (cs : List Char) : nameWords (seps ++ cs) = nameWords cs := by
  induction seps with
  | nil => rfl
  | cons sep rest ih =>
      obtain ⟨hsep, hrest⟩ := List.forall_mem_cons.mp h
      exact (nameWords_append_sep hsep [] _).trans (ih hrest)

end Text

namespace Reference

/-! ### Number signs at the front -/

/-- A hash is no escape. -/
theorem unescapePercent_hash (bytes : List UInt8) :
    unescapePercent (0x23 :: bytes) = 0x23 :: unescapePercent bytes := by
  match bytes with
  | [] => rfl
  | [_] => rfl
  | _ :: _ :: _ => rfl

/-- A hash is decoded by itself. -/
theorem decodeLossy_hash (bytes : List UInt8) :
    Text.Utf8.decodeLossy (0x23 :: bytes) = '#' :: Text.Utf8.decodeLossy bytes := by
  match bytes with
  | [] => rfl
  | [_] => rfl
  | [_, _] => rfl
  | _ :: _ :: _ :: _ => rfl

/-- **A number sign stands for itself** in a segment. -/
theorem decodeSegment_hash (segment : List Char) :
    decodeSegment ('#' :: segment) = '#' :: decodeSegment segment := by
  have hreplace : ∀ (c : Char) (replacement cs : List Char),
      Text.replace ['~', c] replacement ('#' :: cs) =
        '#' :: Text.replace ['~', c] replacement cs := fun _ _ _ => rfl
  have hencode : ∀ cs, Text.Utf8.encode ('#' :: cs) = 0x23 :: Text.Utf8.encode cs := fun _ => rfl
  rw [decodeSegment, decodeSegment, hreplace, hreplace, hencode, unescapePercent_hash,
    decodeLossy_hash]

/-- What the number signs at the front of a segment come to: they stand before the name that the
rest of it denotes. -/
theorem decodeSegment_eq_append (segment : List Char) :
    decodeSegment segment =
      segment.takeWhile (· == '#') ++ decodeSegment (segment.dropWhile (· == '#')) := by
  induction segment with
  | nil => rfl
  | cons c rest ih =>
      rw [List.takeWhile_cons, List.dropWhile_cons]
      split
      · rename_i hc
        rw [List.cons_append, ← ih, eq_of_beq hc, decodeSegment_hash]
      · rfl

/-- The words of a segment are those behind the number signs at its front. -/
theorem nameWords_decodeSegment (segment : List Char) :
    Text.nameWords (decodeSegment (segment.dropWhile (· == '#'))) =
      Text.nameWords (decodeSegment segment) := by
  have hsigns : ∀ c ∈ segment.takeWhile (· == '#'), Text.Letter.isWord c = false := by
    intro c hc
    obtain rfl : c = '#' := by simpa using List.mem_takeWhile_imp hc
    decide
  rw [decodeSegment_eq_append segment, Text.nameWords_seps_append hsigns]

/-! ### Both readings -/

/-- What stands behind the last slash of a reference. -/
def lastSegment (reference : String) : List Char :=
  (reference.toList.reverse.takeWhile (· != '/')).reverse

/-- A reference reads as what its last segment denotes without the number signs at its front. -/
theorem toList_tailName (reference : String) :
    (tailName reference).toList = decodeSegment ((lastSegment reference).dropWhile (· == '#')) :=
  String.toList_ofList

/-- **A reference is followed to what its last segment denotes.** -/
theorem toList_eq_of_componentName? {target : Section} {reference name : String}
    (h : componentName? target reference = some name) :
    name.toList = decodeSegment (lastSegment reference) := by
  rw [componentName?] at h
  obtain ⟨⟨before, fragment⟩, hcut, h⟩ := Option.bind_eq_some_iff.mp h
  dsimp only at h
  split at h
  · rename_i root key segment hpieces
    split at h
    · have hname : name.toList = decodeSegment segment := by
        split at h
        · cases h
        · cases h
          rw [String.toList_ofList]
      have hslash : '/' ∉ segment := by
        intro hmem
        have hpiece : segment ∈ Text.splitAtChar '/' (fragment.dropWhile (· == '/')) := by
          rw [hpieces]
          simp
        exact absurd (Text.of_mem_splitBy hpiece hmem).2 (by decide)
      -- The reference ends with the segment, behind its last slash.
      have hbody := Text.join_splitAtChar '/' (fragment.dropWhile (· == '/'))
      rw [hpieces] at hbody
      have hreference : reference.toList = (before ++ '#' :: fragment.takeWhile (· == '/') ++ root
          ++ '/' :: key) ++ '/' :: segment := by
        have hfragment : fragment = fragment.takeWhile (· == '/') ++
            Text.join ['/'] [root, key, segment] := by
          rw [hbody, List.takeWhile_append_dropWhile]
        rw [Text.eq_of_cutAtChar? hcut]
        nth_rewrite 1 [hfragment]
        simp [Text.join]
      rw [lastSegment, hreference, Text.reverse_takeWhile_reverse hslash, hname]
    · cases h
  · cases h

/-- A reference reads as a name with the words of the component that it is followed to. -/
theorem nameWords_tailName {target : Section} {reference name : String}
    (h : componentName? target reference = some name) :
    Text.nameWords (tailName reference).toList = Text.nameWords name.toList := by
  rw [toList_tailName, nameWords_decodeSegment, toList_eq_of_componentName? h]

/-- The struct that a reference reads as is named after the component that it is followed to. -/
theorem pascalCase_tailName {target : Section} {reference name : String}
    (h : componentName? target reference = some name) :
    pascalCase (tailName reference) = pascalCase name := by
  rw [pascalCase, pascalCase, Text.pascal, Text.pascal, nameWords_tailName h]

/-- **When a reference reads as the component that it is followed to**: exactly if its last segment
does not begin with a number sign. In any case the component has the number signs of the segment
before the name that the reference reads as. -/
theorem tailName_eq_iff {target : Section} {reference name : String}
    (h : componentName? target reference = some name) :
    name = String.ofList ((lastSegment reference).takeWhile (· == '#')) ++ tailName reference ∧
      (tailName reference = name ↔ (lastSegment reference).head? ≠ some '#') := by
  have hname : name =
      String.ofList ((lastSegment reference).takeWhile (· == '#')) ++ tailName reference := by
    rw [← String.toList_inj, String.toList_append, String.toList_ofList, toList_tailName,
      ← decodeSegment_eq_append, toList_eq_of_componentName? h]
  refine ⟨hname, ?_⟩
  -- The names are the same exactly if there are no number signs to be left out.
  have hsigns : tailName reference = name ↔ (lastSegment reference).takeWhile (· == '#') = [] := by
    rw [← String.toList_inj, hname, String.toList_append, String.toList_ofList,
      List.self_eq_append_left]
  rw [hsigns]
  cases lastSegment reference with
  | nil => simp
  | cons c rest => simp [List.takeWhile_cons]

/-- A file before the fragment, more slashes than one, and number signs that are not at the front
of the last segment. -/
theorem tailName_eq_iff_book :
    componentName? .schemas "api/shop.yaml#//components/schemas/%23Old~1Book#2" =
        some "#Old/Book#2" ∧
      tailName "api/shop.yaml#//components/schemas/%23Old~1Book#2" = "#Old/Book#2" := by
  have h : componentName? .schemas "api/shop.yaml#//components/schemas/%23Old~1Book#2" =
      some "#Old/Book#2" := by decide +kernel
  exact ⟨h, (tailName_eq_iff h).2.mpr (by decide +kernel)⟩

/-- **The two readings may differ**: a component `#Book` is found under its name, and reads as
`Book`. -/
theorem not_forall_tailName_eq :
    ¬ ∀ reference name, componentName? .schemas reference = some name →
      tailName reference = name := by
  intro h
  have hfound : componentName? .schemas "#/components/schemas/#Book" = some "#Book" := by
    decide +kernel
  exact absurd (h _ _ hfound) (by decide +kernel)

end Reference

/-- A reference that leads to a schema reads as a component of the document. -/
theorem Resolver.exists_component_of_resolveWithin {r : Resolver} {room : Nat}
    {schema target : Schema} {reference : String} (hreference : schema.reference = some reference)
    (h : r.resolveWithin room schema = .ok (some target)) :
    ∃ component ∈ r.document.components.schemas.names,
      Reference.componentName? .schemas reference = some component := by
  obtain ⟨names, hchain, hend⟩ := chain_of_resolveWithin_eq_some h
  cases hchain with
  | here =>
      rw [hend] at hreference
      cases hreference
  | @step _ next _ name names hrefers hchain =>
      have hmem := hrefers.mem_names
      obtain ⟨reference', hreference', hname, -⟩ := hrefers
      obtain rfl := Option.some.inj (hreference.symm.trans hreference')
      exact ⟨name, hmem, hname⟩

end ServiceGen
