import ServiceGen.ModuleName
import ServiceGen.Entries
import ServiceGen.Proofs.Words
import ServiceGen.Proofs.Plural

/-!
# Canonical Module Names

The generator spells the names of modules in one way: a name that can stand as it is, without
capitals (`Canonical`). Tags are normalized to such names (`canonical_of_ofTag?`), and so are
paths, where their first segment can be a module name at all (`canonical_of_moduleName?`).

Names are compared up to the case of ASCII letters. Among names without capitals that is
equality (`same_iff_eq`), and a text that a canonical name is compared with successfully is
normalized to that name (`ofTag?_of_same`).
-/

namespace ServiceGen

/-! ### Names that can stand as they are -/

/-- The characters of names that can stand as they are. -/
def IsModuleChar (c : Char) : Prop :=
  c.isAlphanum = true ∨ c = '_' ∨ c = '-'

instance (c : Char) : Decidable (IsModuleChar c) :=
  inferInstanceAs (Decidable (_ ∨ _))

/-- Such a character is ASCII. -/
theorem IsModuleChar.isAscii {c : Char} (h : IsModuleChar c) :
    Text.Letter.isAscii c = true := by
  rcases h with h | rfl | rfl
  · exact Text.Letter.isAscii_of_isAlphanum h
  · decide
  · decide

/-- Such a character is no white space. -/
theorem IsModuleChar.isBlank {c : Char} (h : IsModuleChar c) :
    Text.Letter.isBlank c = false := by
  rcases h with h | rfl | rfl
  · by_contra hblank
    have hword := Text.Letter.isWord_eq_false_of_isBlank (by simpa using hblank)
    rw [Text.Letter.isWord_of_isAscii (Text.Letter.isAscii_of_isAlphanum h), h] at hword
    cases hword
  · decide
  · decide

/-- A name that can stand as it is has letters, digits, underscores and hyphens in it. -/
theorem of_mem_of_isModuleSafe {name : String} (h : isModuleSafe name = true) {c : Char}
    (hc : c ∈ name.toList) : IsModuleChar c := by
  rw [isModuleSafe] at h
  cases hcs : name.toList with
  | nil =>
      rw [hcs] at hc
      cases hc
  | cons first rest =>
      rw [hcs] at h hc
      rw [Bool.and_eq_true, List.all_eq_true] at h
      rcases List.mem_cons.mp hc with rfl | hc
      · exact Or.inl (by simp [Char.isAlphanum, h.1])
      · simpa [IsModuleChar, or_assoc] using h.2 c hc

namespace Text

/-- A text without white space is trimmed already. -/
theorem trim_eq_self {cs : List Char} (h : ∀ c ∈ cs, Letter.isBlank c = false) :
    trim cs = cs := by
  have hdrop : ∀ ds : List Char, (∀ c ∈ ds, Letter.isBlank c = false) →
      ds.dropWhile Letter.isBlank = ds := by
    intro ds hds
    cases ds with
    | nil => rfl
    | cons d rest => rw [List.dropWhile_cons_of_neg (by simp [hds d List.mem_cons_self])]
  rw [trim, trimStart, hdrop cs h, trimEnd, hdrop _ fun c hc => h c (List.mem_reverse.mp hc),
    List.reverse_reverse]

/-- Trimming keeps the letters and numbers of a text. -/
theorem filter_isWord_trim (cs : List Char) :
    (trim cs).filter Letter.isWord = cs.filter Letter.isWord := by
  have hdrop : ∀ ds : List Char,
      (ds.dropWhile Letter.isBlank).filter Letter.isWord = ds.filter Letter.isWord := by
    intro ds
    induction ds with
    | nil => rfl
    | cons d rest ih =>
        by_cases hd : Letter.isBlank d = true
        · rw [List.dropWhile_cons_of_pos hd, ih,
            List.filter_cons_of_neg (by simp [Letter.isWord_eq_false_of_isBlank hd])]
        · rw [List.dropWhile_cons_of_neg hd]
  rw [trim, trimEnd, trimStart, List.filter_reverse, hdrop, List.filter_reverse,
    List.reverse_reverse, hdrop]

end Text

/-! ### Canonical names -/

namespace ModuleName

/-- The spelling of module names that the generator uses itself. -/
structure Canonical (name : String) : Prop where
  /-- The name can stand as it is. -/
  safe : isModuleSafe name = true
  /-- It has no capitals. -/
  small : ∀ c ∈ name.toList, c.isUpper = false

/-- A canonical name is plain. -/
theorem Canonical.isPlain {name : String} (h : Canonical name) : Text.IsPlain name.toList :=
  fun c hc => ⟨(of_mem_of_isModuleSafe h.safe hc).isAscii, h.small c hc⟩

/-- A name that can stand as it is has no white space around it. -/
theorem trimmed_of_isModuleSafe {name : String} (h : isModuleSafe name = true) :
    trimmed name = name := by
  rw [trimmed, Text.trim_eq_self fun c hc => (of_mem_of_isModuleSafe h hc).isBlank,
    String.ofList_toList]

/-- Names are the same if their forms without capitals are. -/
theorem same_iff {a b : String} :
    same a b = true ↔ a.toList.map Char.toLower = b.toList.map Char.toLower := by
  rw [same, Text.equalIgnoringAsciiCase, beq_iff_eq]

/-- **Among names without capitals, to be the same is to be equal.** -/
theorem same_iff_eq {a b : String} (ha : ∀ c ∈ a.toList, c.isUpper = false)
    (hb : ∀ c ∈ b.toList, c.isUpper = false) : same a b = true ↔ a = b := by
  rw [same_iff, Text.Letter.map_toLower_eq_self ha, Text.Letter.map_toLower_eq_self hb,
    String.toList_inj]

/-! ### Names of tags -/

/-- A tag has a module name if it is ASCII and one of its two forms can stand as it is. -/
theorem ofTag?_eq_some_iff {tag name : String} :
    ofTag? tag = some name ↔
      (Text.trim tag.toList).all Text.Letter.isAscii = true ∧ isModuleSafe name = true ∧
        (name = String.ofList (Text.asciiLower (Text.trim tag.toList)) ∨
          isModuleSafe (String.ofList (Text.asciiLower (Text.trim tag.toList))) = false ∧
            name = String.ofList (Text.snake (Text.trim tag.toList))) := by
  simp only [ofTag?]
  generalize (Text.trim tag.toList).all Text.Letter.isAscii = ascii
  generalize String.ofList (Text.asciiLower (Text.trim tag.toList)) = lower
  generalize String.ofList (Text.snake (Text.trim tag.toList)) = snake
  cases ascii with
  | false => simp
  | true =>
      by_cases hlower : isModuleSafe lower = true
      · simp only [hlower, if_true, Option.some.injEq]
        constructor
        · rintro rfl
          exact ⟨trivial, hlower, Or.inl rfl⟩
        · rintro ⟨-, -, rfl | ⟨hfalse, -⟩⟩
          · rfl
          · cases hfalse
      · have hlower' : isModuleSafe lower = false := by simpa using hlower
        simp only [hlower', if_true, Bool.false_eq_true, if_false]
        split
        · rename_i hsnake
          constructor
          · rintro ⟨⟩
            exact ⟨trivial, hsnake, Or.inr ⟨trivial, rfl⟩⟩
          · rintro ⟨-, hname, rfl | ⟨-, rfl⟩⟩
            · exact absurd hname hlower
            · rfl
        · rename_i hsnake
          constructor
          · rintro ⟨⟩
          · rintro ⟨-, hname, rfl | ⟨-, rfl⟩⟩
            · exact absurd hname hlower
            · exact absurd hname hsnake

/-- **Tags have canonical names.** -/
theorem canonical_of_ofTag? {tag name : String} (h : ofTag? tag = some name) :
    Canonical name := by
  obtain ⟨-, hsafe, hname⟩ := ofTag?_eq_some_iff.mp h
  refine ⟨hsafe, fun c hc => ?_⟩
  rcases hname with rfl | ⟨-, rfl⟩
  · rw [String.toList_ofList, Text.asciiLower] at hc
    obtain ⟨d, -, rfl⟩ := List.mem_map.mp hc
    exact Char.isUpper_toLower_eq_false d
  · rw [String.toList_ofList] at hc
    exact Text.isUpper_eq_false_of_mem_snake hc

/-- **A tag that is compared with a canonical name successfully has that name.** -/
theorem ofTag?_of_same {tag name : String} (hname : Canonical name)
    (h : same (trimmed tag) name = true) : ofTag? tag = some name := by
  rw [same_iff, Text.Letter.map_toLower_eq_self hname.small, trimmed, String.toList_ofList] at h
  have hlower : name = String.ofList (Text.asciiLower (Text.trim tag.toList)) := by
    rw [Text.asciiLower, h, String.ofList_toList]
  refine ofTag?_eq_some_iff.mpr ⟨List.all_eq_true.mpr fun c hc => ?_, hname.safe, Or.inl hlower⟩
  rw [← Text.Letter.isAscii_toLower]
  exact (hname.isPlain _ (h ▸ List.mem_map_of_mem hc)).1

/-- A canonical name is the name of itself as a tag. -/
theorem Canonical.ofTag?_eq {name : String} (h : Canonical name) : ofTag? name = some name := by
  refine ofTag?_of_same h ?_
  rw [trimmed_of_isModuleSafe h.safe, same_iff]

/-! ### Names of paths -/

/-- The name of a path has no capitals. -/
theorem small_of_moduleName? {path name : String}
    (h : PathTemplate.moduleName? path = some name) : ∀ c ∈ name.toList, c.isUpper = false := by
  simp only [PathTemplate.moduleName?, Option.map_eq_some_iff] at h
  obtain ⟨segment, hfind, rfl⟩ := h
  obtain ⟨bare, -, rfl⟩ := List.mem_map.mp (List.mem_of_find?_eq_some hfind)
  intro c hc
  rw [String.toList_ofList] at hc
  exact Text.Letter.isUpper_eq_false_of_mem_lowerText hc

/-- **Paths have canonical names**, where their names can stand as they are. -/
theorem canonical_of_moduleName? {path name : String}
    (h : PathTemplate.moduleName? path = some name) (hsafe : isModuleSafe name = true) :
    Canonical name :=
  ⟨hsafe, small_of_moduleName? h⟩

/-- A snake-case form is canonical, where it can stand as it is. -/
theorem canonical_snakeCase {name : String} (h : isModuleSafe (snakeCase name) = true) :
    Canonical (snakeCase name) := by
  refine ⟨h, fun c hc => ?_⟩
  rw [snakeCase, String.toList_ofList] at hc
  exact Text.isUpper_eq_false_of_mem_snake hc

end ModuleName

/-! ### Lists of names -/

/-- One more name among ascending names. -/
theorem mem_putName {name other : String} {names : List String} :
    other ∈ putName name names ↔ other = name ∨ other ∈ names := by
  induction names with
  | nil => simp [putName]
  | cons first rest ih =>
      rw [putName]
      split
      · rw [List.mem_cons]
      · split
        · rename_i hfirst
          rw [← eq_of_beq hfirst, List.mem_cons, ← or_assoc, or_self]
        · rw [List.mem_cons, List.mem_cons, ih, or_left_comm]

/-- The ascending names of a list are its names. -/
@[simp] theorem mem_sortedNames {name : String} {names : List String} :
    name ∈ sortedNames names ↔ name ∈ names := by
  have hfold : ∀ start : List String,
      name ∈ names.foldl (fun sorted name => putName name sorted) start ↔
        name ∈ start ∨ name ∈ names := by
    induction names with
    | nil => simp
    | cons first rest ih =>
        intro start
        rw [List.foldl_cons, ih, mem_putName, List.mem_cons, or_assoc, or_left_comm]
  rw [sortedNames, hfold]
  simp

/-- Ascending names stay so with one more name. -/
theorem pairwise_putName {name : String} {names : List String} (h : names.Pairwise (· < ·)) :
    (putName name names).Pairwise (· < ·) := by
  induction names with
  | nil => exact List.pairwise_singleton _ _
  | cons other rest ih =>
      obtain ⟨hfirst, hrest⟩ := List.pairwise_cons.mp h
      rw [putName]
      split
      · rename_i hlt
        refine List.pairwise_cons.mpr ⟨fun x hx => ?_, h⟩
        rcases List.mem_cons.mp hx with rfl | hx
        · exact hlt
        · exact lt_trans hlt (hfirst x hx)
      · rename_i hlt
        split
        · exact h
        · rename_i hne
          refine List.pairwise_cons.mpr ⟨fun x hx => ?_, ih hrest⟩
          rcases mem_putName.mp hx with rfl | hx
          · exact lt_of_le_of_ne (not_lt.mp hlt) fun heq => hne (beq_iff_eq.mpr heq.symm)
          · exact hfirst x hx

/-- The names of a list are ascending. -/
theorem pairwise_sortedNames (names : List String) :
    (sortedNames names).Pairwise (· < ·) :=
  List.foldlRecOn names _ List.Pairwise.nil fun _ h _ _ => pairwise_putName h

/-- The names of a list come once each. -/
theorem nodup_sortedNames (names : List String) : (sortedNames names).Nodup :=
  (pairwise_sortedNames names).imp ne_of_lt

end ServiceGen
