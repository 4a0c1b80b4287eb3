import ServiceGen.Analysis.ModuleView
import ServiceGen.Proofs.FileSets
import ServiceGen.Proofs.Insertion
import ServiceGen.Proofs.Stems

/-!
# Registered Items

The two items that are registered for a module (`logicItem`, `handlerItem`): paths of names in
snake case and Pascal case. No break stands in them, as no letter changes case into white space
(`inRanges_blank_of_mem_toLower`, `inRanges_blank_of_mem_toUpper`), and no item occurs in
another one (`not_infix_of_mem_itemsOf`): neither in the other one of its module nor in those of
other stems.
-/

namespace ServiceGen

/-! ### Letters do not become white space -/

namespace Text

namespace Letter

/-- No code point of some ranges is an image of runs. -/
def imagesAvoid (ranges : List (Nat × Nat)) (runs : List (Nat × Nat × Nat × Nat)) : Bool :=
  runs.all fun (first, last, _, image) =>
    ranges.all fun r => decide (image + last - first < r.1) || decide (r.2 < image)

/-- No code point of some ranges is in an expansion. -/
def expansionsAvoid (ranges : List (Nat × Nat)) (expansions : List (Nat × List Nat)) : Bool :=
  expansions.all fun (_, codes) => codes.all fun code =>
    ranges.all fun r => decide (code < r.1) || decide (r.2 < code)

/-- No form of a letter is white space past ASCII. -/
theorem forms_avoid_blanks :
    imagesAvoid blankRanges lowerImages = true ∧
      expansionsAvoid blankRanges lowerExpansions = true ∧
      imagesAvoid blankRanges upperImages = true ∧
        expansionsAvoid blankRanges upperExpansions = true := by
  decide

/-- A code point that is apart from some ranges is no character of them. -/
theorem inRanges_ofNat_eq_false {ranges : List (Nat × Nat)} {code : Nat}
    (hc : isAscii (Char.ofNat code) = false) (h : ∀ r ∈ ranges, code < r.1 ∨ r.2 < code) :
    inRanges ranges (Char.ofNat code) = false := by
  have hvalid : code.isValidChar := by
    by_contra hinvalid
    rw [Char.ofNat, dif_neg hinvalid] at hc
    cases hc
  refine List.any_eq_false.mpr fun r hr => ?_
  rw [Char.toNat_ofNat, if_pos hvalid, Bool.and_eq_true, decide_eq_true_eq, decide_eq_true_eq]
  have := h r hr
  omega

/-- What a letter outside ASCII is changed into by tables that avoid white space. -/
theorem inRanges_eq_false_of_mem_changed {ranges : List (Nat × Nat)}
    {runs : List (Nat × Nat × Nat × Nat)} {expansions : List (Nat × List Nat)} {c d : Char}
    (hruns : imagesAvoid ranges runs = true)
    (hexpansions : expansionsAvoid ranges expansions = true)
    (hd : inRanges ranges d = false) (hc : isAscii c = false)
    (h : c ∈ match expansions.lookup d.toNat with
      | some codes => codes.map Char.ofNat
      | none => [((imageIn runs d.toNat).map Char.ofNat).getD d]) :
    inRanges ranges c = false := by
  split at h
  · rename_i codes hlookup
    obtain ⟨code, hcode, rfl⟩ := List.mem_map.mp h
    have hmem : (d.toNat, codes) ∈ expansions := by
      obtain ⟨before, after, rfl, -⟩ := List.lookup_eq_some_iff.mp hlookup
      exact List.mem_append_right before List.mem_cons_self
    refine inRanges_ofNat_eq_false hc fun r hr => ?_
    have havoid := List.all_eq_true.mp (List.all_eq_true.mp (List.all_eq_true.mp hexpansions _ hmem)
      code hcode) r hr
    simpa using havoid
  · rw [List.mem_singleton] at h
    cases himage : imageIn runs d.toNat with
    | none =>
        rw [himage, Option.map_none, Option.getD_none] at h
        exact h ▸ hd
    | some image =>
        rw [himage, Option.map_some, Option.getD_some] at h
        subst h
        obtain ⟨first, last, step, base, hmem, hfirst, hlast, rfl⟩ := exists_run_of_imageIn himage
        refine inRanges_ofNat_eq_false hc fun r hr => ?_
        have havoid := List.all_eq_true.mp (List.all_eq_true.mp hruns _ hmem) r hr
        simp only [Bool.or_eq_true, decide_eq_true_eq] at havoid
        omega

/-- A letter or number outside ASCII is no white space. -/
theorem inRanges_blank_of_isWord {d : Char} (hd : isWord d = true) (hda : isAscii d = false) :
    inRanges blankRanges d = false := by
  by_contra hblank
  have hisBlank : isBlank d = true := by
    rw [isBlank, if_neg (by simp [hda])]
    simpa using hblank
  rw [isWord_eq_false_of_isBlank hisBlank] at hd
  cases hd

/-- No small form of a letter or digit is white space. -/
theorem inRanges_blank_of_mem_toLower {c d : Char} (hd : isWord d = true) (h : c ∈ toLower d)
    (hc : isAscii c = false) : inRanges blankRanges c = false := by
  have hda := isAscii_eq_false_of_mem_toLower h hc
  rw [toLower, if_neg (by simp [hda])] at h
  exact inRanges_eq_false_of_mem_changed forms_avoid_blanks.1 forms_avoid_blanks.2.1
    (inRanges_blank_of_isWord hd hda) hc h

/-- No capital form of one is. -/
theorem inRanges_blank_of_mem_toUpper {c d : Char} (hd : isWord d = true) (h : c ∈ toUpper d)
    (hc : isAscii c = false) : inRanges blankRanges c = false := by
  by_cases hda : isAscii d = true
  · rw [toUpper_of_isAscii hda, List.mem_singleton] at h
    rw [isWord_of_isAscii hda, ← isAlphanum_toUpper, ← h] at hd
    rw [isAscii_of_isAlphanum hd] at hc
    cases hc
  · rw [toUpper, if_neg hda] at h
    exact inRanges_eq_false_of_mem_changed forms_avoid_blanks.2.2.1 forms_avoid_blanks.2.2.2
      (inRanges_blank_of_isWord hd (by simpa using hda)) hc h

end Letter

end Text

/-! ### Names have no breaks -/

namespace Registration

/-- A character of a name is no break. -/
theorem isBreak_eq_false {c : Char}
    (hascii : Text.Letter.isAscii c = true → c.isAlphanum = true ∨ c = '_')
    (hblank : Text.Letter.isAscii c = false →
      Text.Letter.inRanges Text.Letter.blankRanges c = false) : isBreak c = false := by
  have hmarks : ∀ p : Char → Bool, ['(', ')', ',', '/'].all (!p ·) = true → p c = true →
      ['(', ')', ',', '/'].contains c = false := by
    intro p hall hc
    rw [List.contains_eq_mem, decide_eq_false_iff_not]
    intro hmem
    have hno := List.all_eq_true.mp hall c hmem
    rw [hc] at hno
    cases hno
  by_cases hc : Text.Letter.isAscii c = true
  · rcases hascii hc with halnum | rfl
    · have hword : Text.Letter.isBlank c = false := by
        by_contra hno
        have hnoWord := Text.Letter.isWord_eq_false_of_isBlank (by simpa using hno)
        rw [Text.Letter.isWord_of_isAscii hc, halnum] at hnoWord
        cases hnoWord
      rw [isBreak, hword, hmarks Char.isAlphanum (by decide) halnum]
      rfl
    · decide
  · have hpast : Text.Letter.isAscii c = false := by simpa using hc
    rw [isBreak, hmarks (!Text.Letter.isAscii ·) (by decide) (by simp [hpast]),
      Text.Letter.isBlank, if_neg hc, hblank hpast]
    rfl

/-- A word in lower case is unbroken. -/
theorem unbroken_lowerWord {word : List Char} (h : ∀ d ∈ word, Text.Letter.isWord d = true) :
    Unbroken (Text.lowerWord word) := by
  intro c hc
  rcases Text.mem_lowerWord hc with rfl | ⟨d, hd, hdc⟩
  · decide
  · exact isBreak_eq_false
      (fun hascii => Or.inl (Text.Letter.isAlphanum_of_mem_toLower (h d hd) hdc hascii))
      (Text.Letter.inRanges_blank_of_mem_toLower (h d hd) hdc)

/-- **A name in snake case has no breaks.** -/
theorem unbroken_snake (cs : List Char) : Unbroken (Text.snake cs) := by
  intro c hc
  rcases Text.mem_join hc with hc | ⟨piece, hpiece, hc⟩
  · rw [List.mem_singleton.mp hc]
    decide
  · obtain ⟨word, hword, rfl⟩ := List.mem_map.mp hpiece
    exact unbroken_lowerWord (fun d hd => (Text.of_mem_nameWords hword hd).2) c hc

/-- **A name in Pascal case has no breaks.** -/
theorem unbroken_pascal (cs : List Char) : Unbroken (Text.pascal cs) := by
  intro c hc
  obtain ⟨word, hword, hc⟩ := List.mem_flatMap.mp hc
  have hletters : ∀ d ∈ word, Text.Letter.isWord d = true :=
    fun d hd => (Text.of_mem_nameWords hword hd).2
  cases word with
  | nil => cases hc
  | cons first rest =>
      obtain ⟨hfirst, hrest⟩ := List.forall_mem_cons.mp hletters
      rcases List.mem_append.mp hc with hc | hc
      · exact isBreak_eq_false
          (fun hascii => Or.inl (Text.Letter.isAlphanum_of_mem_toUpper hfirst hc hascii))
          (Text.Letter.inRanges_blank_of_mem_toUpper hfirst hc)
      · exact unbroken_lowerWord hrest c hc

end Registration

/-! ### The items of a module -/

namespace ModuleView

open Registration (IsItem Unbroken unbroken_snake unbroken_pascal)

variable {view : ModuleView} {name : String}

/-- What is registered for the business logic of a module. -/
def logicItem (view : ModuleView) : String :=
  "logic::" ++ view.module ++ "::" ++ view.logicType ++ "::new"

/-- What is registered for the routes of a module. -/
def handlerItem (view : ModuleView) : String :=
  "handlers::" ++ view.module ++ "::" ++ view.handlerType ++ "::new"

/-- A path of names is an item. -/
theorem isItem_path {scope suffix : String} (hscope : Unbroken scope.toList)
    (hne : scope.toList ≠ []) (hsuffix : Unbroken suffix.toList) (name : String) :
    IsItem
      (scope ++ snakeCase name ++ "::" ++ (pascalCase (snakeCase name) ++ suffix) ++ "::new") where
  nonempty := by simp [String.toList_append, hne]
  unbroken := by
    have hsnake : Unbroken (snakeCase name).toList := by
      rw [snakeCase, String.toList_ofList]
      exact unbroken_snake _
    have hpascal : Unbroken (pascalCase (snakeCase name)).toList := by
      rw [pascalCase, String.toList_ofList]
      exact unbroken_pascal _
    have happend : ∀ {a b : List Char}, Unbroken a → Unbroken b → Unbroken (a ++ b) :=
      fun ha hb => List.forall_mem_append.mpr ⟨ha, hb⟩
    simp only [String.toList_append]
    exact happend (happend (happend (happend hscope hsnake) (by decide))
      (happend hpascal hsuffix)) (by decide)

theorem isItem_logicItem (h : view.module = snakeCase name) : IsItem view.logicItem := by
  rw [logicItem, logicType, pascal, h]
  exact isItem_path (by decide) (by decide) (by decide) name

theorem isItem_handlerItem (h : view.module = snakeCase name) : IsItem view.handlerItem := by
  rw [handlerItem, handlerType, pascal, h]
  exact isItem_path (by decide) (by decide) (by decide) name

/-- The parts of a path of names, between its colons. -/
theorem splitAtChar_path {scope stem type last : List Char} (hscope : ':' ∉ scope)
    (hstem : ':' ∉ stem) (htype : ':' ∉ type) (hlast : ':' ∉ last) :
    Text.splitAtChar ':'
        (scope ++ "::".toList ++ stem ++ "::".toList ++ type ++ "::".toList ++ last) =
      [scope, [], stem, [], type, [], last] := by
  have hpair : ∀ {piece : List Char} (rest : List Char), ':' ∉ piece →
      Text.splitAtChar ':' (piece ++ "::".toList ++ rest) =
        piece :: [] :: Text.splitAtChar ':' rest := by
    intro piece rest hpiece
    have hcolons : piece ++ "::".toList ++ rest = piece ++ ':' :: ([] ++ ':' :: rest) := by simp
    rw [hcolons, Text.splitAtChar_append_cons hpiece, Text.splitAtChar_append_cons (by simp)]
  simp only [List.append_assoc] at hpair ⊢
  rw [hpair _ hscope, hpair _ hstem, hpair _ htype, Text.splitAtChar_eq_singleton hlast]

/-- **A path of names that occurs in another one** has the same names, but for the first: both have
as many colons, so none is left for what comes before and after. -/
theorem eq_of_path_infix {scope scope' stem stem' type type' last : List Char}
    (hscope : ':' ∉ scope) (hscope' : ':' ∉ scope') (hstem : ':' ∉ stem) (hstem' : ':' ∉ stem')
    (htype : ':' ∉ type) (htype' : ':' ∉ type') (hlast : ':' ∉ last)
    (h : scope ++ "::".toList ++ stem ++ "::".toList ++ type ++ "::".toList ++ last <:+:
      scope' ++ "::".toList ++ stem' ++ "::".toList ++ type' ++ "::".toList ++ last) :
    stem = stem' ∧ type = type' := by
  have hcount : ∀ {a b c : List Char}, ':' ∉ a → ':' ∉ b → ':' ∉ c →
      (a ++ "::".toList ++ b ++ "::".toList ++ c ++ "::".toList ++ last).count ':' = 6 := by
    intro a b c ha hb hc
    simp only [List.count_append, List.count_eq_zero.mpr ha, List.count_eq_zero.mpr hb,
      List.count_eq_zero.mpr hc, List.count_eq_zero.mpr hlast]
    decide
  obtain ⟨before, after, heq⟩ := h
  have hnone : before.count ':' = 0 ∧ after.count ':' = 0 := by
    have hcolons := congrArg (List.count ':') heq
    rw [List.count_append, List.count_append, hcount hscope hstem htype,
      hcount hscope' hstem' htype'] at hcolons
    omega
  rw [List.count_eq_zero, List.count_eq_zero] at hnone
  have hbefore : ':' ∉ before ++ scope := by simp [hnone.1, hscope]
  have hafter : ':' ∉ last ++ after := by simp [hnone.2, hlast]
  have hparts := congrArg (Text.splitAtChar ':') heq
  have hregroup :
      before ++ (scope ++ "::".toList ++ stem ++ "::".toList ++ type ++ "::".toList ++ last) ++
          after =
        before ++ scope ++ "::".toList ++ stem ++ "::".toList ++ type ++ "::".toList ++
          (last ++ after) := by
    simp only [List.append_assoc]
  rw [hregroup, splitAtChar_path hbefore hstem htype hafter,
    splitAtChar_path hscope' hstem' htype' hlast] at hparts
  simp only [List.cons.injEq] at hparts
  exact ⟨hparts.2.2.1, hparts.2.2.2.2.1⟩

/-- The path of a constructor that is registered for the module of a stem. -/
def itemOf (scope stem suffix : String) : String :=
  scope ++ "::" ++ stem ++ "::" ++ (pascalCase stem ++ suffix) ++ "::new"

theorem logicItem_eq (view : ModuleView) :
    view.logicItem = itemOf "logic" view.module "Logic" := rfl

theorem handlerItem_eq (view : ModuleView) :
    view.handlerItem = itemOf "handlers" view.module "Handler" := rfl

/-- A stem has no colon. -/
theorem not_mem_colon_snakeCase (name : String) : ':' ∉ (snakeCase name).toList := by
  rw [snakeCase, String.toList_ofList]
  exact Text.not_mem_snake (by decide) (by decide) (by decide) _

/-- **An item occurs in another one** only if both are of one stem and one kind. -/
theorem eq_of_itemOf_infix {scope scope' stem stem' suffix suffix' : String}
    (hscope : ':' ∉ scope.toList) (hscope' : ':' ∉ scope'.toList) (hstem : ':' ∉ stem.toList)
    (hstem' : ':' ∉ stem'.toList) (hsuffix : ':' ∉ suffix.toList) (hsuffix' : ':' ∉ suffix'.toList)
    (h : (itemOf scope stem suffix).toList <:+: (itemOf scope' stem' suffix').toList) :
    stem = stem' ∧ suffix = suffix' := by
  have htype : ∀ {stem suffix : String}, ':' ∉ suffix.toList →
      ':' ∉ (pascalCase stem ++ suffix).toList := by
    intro stem suffix hsuffix
    rw [String.toList_append, List.mem_append, not_or]
    refine ⟨fun hmem => ?_, hsuffix⟩
    rw [pascalCase, String.toList_ofList] at hmem
    have halnum := Text.unpunctuated_pascal _ ':' hmem (by decide)
    revert halnum
    decide
  have hparts : ∀ scope stem suffix : String, (itemOf scope stem suffix).toList =
      scope.toList ++ "::".toList ++ stem.toList ++ "::".toList ++
        (pascalCase stem ++ suffix).toList ++ "::".toList ++ "new".toList := by
    intro scope stem suffix
    rw [itemOf]
    simp only [String.toList_append, List.append_assoc]
    rfl
  rw [hparts, hparts] at h
  obtain ⟨hstems, htypes⟩ := eq_of_path_infix hscope hscope' hstem hstem' (htype hsuffix)
    (htype hsuffix') (by decide) h
  obtain rfl := String.toList_inj.mp hstems
  rw [String.toList_append, String.toList_append] at htypes
  exact ⟨rfl, String.toList_inj.mp (List.append_cancel_left htypes)⟩

/-- The two kinds of items: the scope, the ending of the type and the openings of the list. -/
def itemKinds : List (String × String × List String) :=
  [("logic", "Logic", Registration.logicMarkers),
    ("handlers", "Handler", Registration.handlerMarkers)]

/-- What is registered for the module of a stem, each item with the openings of its list. -/
def itemsOf (stem : String) : List (String × List String) :=
  itemKinds.map fun kind => (itemOf kind.1 stem kind.2.1, kind.2.2)

/-- **No registered item occurs in another one**, be it one of the same stem for the other list or
one of another stem. -/
theorem not_infix_of_mem_itemsOf {stem stem' item item' : String} {markers markers' : List String}
    (hstem : ':' ∉ stem.toList) (hstem' : ':' ∉ stem'.toList)
    (hitem : (item, markers) ∈ itemsOf stem) (hitem' : (item', markers') ∈ itemsOf stem')
    (hne : stem ≠ stem' ∨ markers ≠ markers') : ¬ item.toList <:+: item'.toList := by
  intro hinfix
  obtain ⟨kind, hkind, heq⟩ := List.mem_map.mp hitem
  obtain ⟨kind', hkind', heq'⟩ := List.mem_map.mp hitem'
  obtain ⟨rfl, rfl⟩ := Prod.mk.inj heq
  obtain ⟨rfl, rfl⟩ := Prod.mk.inj heq'
  have hcolons : ∀ kind ∈ itemKinds, ':' ∉ kind.1.toList ∧ ':' ∉ kind.2.1.toList := by decide
  obtain ⟨rfl, hsuffix⟩ := eq_of_itemOf_infix (hcolons kind hkind).1 (hcolons kind' hkind').1 hstem
    hstem' (hcolons kind hkind).2 (hcolons kind' hkind').2 hinfix
  have hkinds : ∀ kind ∈ itemKinds, ∀ kind' ∈ itemKinds, kind.2.1 = kind'.2.1 →
      kind.2.2 = kind'.2.2 := by decide
  exact hne.elim (absurd rfl) (absurd (hkinds kind hkind kind' hkind' hsuffix))

/-- The items of a stem are items, and their lists have openings. -/
theorem isItem_of_mem_itemsOf {item : String} {markers : List String}
    (hitem : (item, markers) ∈ itemsOf (snakeCase name)) :
    IsItem item ∧ Registration.AreMarkers markers := by
  simp only [itemsOf, itemKinds, List.map_cons, List.map_nil, List.mem_cons, List.not_mem_nil,
    or_false, Prod.mk.injEq] at hitem
  rcases hitem with ⟨rfl, rfl⟩ | ⟨rfl, rfl⟩
  · have hpath := @isItem_path "logic::" "Logic" (by decide) (by decide) (by decide) name
    exact ⟨hpath, Registration.areMarkers_logicMarkers⟩
  · have hpath := @isItem_path "handlers::" "Handler" (by decide) (by decide) (by decide) name
    exact ⟨hpath, Registration.areMarkers_handlerMarkers⟩

theorem logicItem_mem_itemsOf (view : ModuleView) :
    (view.logicItem, Registration.logicMarkers) ∈ itemsOf view.module := by
  rw [logicItem_eq]
  exact List.mem_cons_self

theorem handlerItem_mem_itemsOf (view : ModuleView) :
    (view.handlerItem, Registration.handlerMarkers) ∈ itemsOf view.module := by
  rw [handlerItem_eq]
  exact List.mem_cons_of_mem _ List.mem_cons_self

/-- **The item of the business logic does not occur in that of the routes**, nor the other way
round. -/
theorem not_infix_logicItem_handlerItem (h : view.module = snakeCase name) :
    ¬ view.logicItem.toList <:+: view.handlerItem.toList ∧
      ¬ view.handlerItem.toList <:+: view.logicItem.toList := by
  have hmodule : ':' ∉ view.module.toList := h ▸ not_mem_colon_snakeCase name
  have hlists : Registration.logicMarkers ≠ Registration.handlerMarkers := by decide
  exact ⟨not_infix_of_mem_itemsOf hmodule hmodule view.logicItem_mem_itemsOf
      view.handlerItem_mem_itemsOf (Or.inr hlists),
    not_infix_of_mem_itemsOf hmodule hmodule view.handlerItem_mem_itemsOf
      view.logicItem_mem_itemsOf (Or.inr hlists.symm)⟩

end ModuleView

end ServiceGen
