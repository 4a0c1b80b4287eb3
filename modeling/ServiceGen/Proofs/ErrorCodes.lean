import ServiceGen.Proofs.ViewSources

/-!
# Error Codes of a Module

Of the declarations with the same name the first counts (`counted`), and those that count are
sorted by their codes. The sort is stable (`pairwise_mergeSort_of_pairwise`), so variants with the
same code stay in the order of their declaration: that of the place where a name is declared first
(`placeOf`). A status that no declaration gives is made of the code, and is always one of HTTP.

## Main results

* `enumerates_ofModule`: **what the error codes of a module are**, in which order they come, and
  what they have of their declarations.
-/

namespace ServiceGen

open scoped List

/-! ### Sorting by a key -/

section Key

variable {α : Type} (key : α → Int)

theorem leByKey_trans (a b c : α) (hab : decide (key a ≤ key b) = true)
    (hbc : decide (key b ≤ key c) = true) : decide (key a ≤ key c) = true :=
  decide_eq_true ((of_decide_eq_true hab).trans (of_decide_eq_true hbc))

theorem leByKey_total (a b : α) : (decide (key a ≤ key b) || decide (key b ≤ key a)) = true := by
  rw [Bool.or_eq_true, decide_eq_true_eq, decide_eq_true_eq]
  exact Int.le_total _ _

/-- The elements with one key stay as they are. -/
theorem filter_mergeSort_key (as : List α) (k : Int) :
    (as.mergeSort fun a b => decide (key a ≤ key b)).filter (key · = k) =
      as.filter (key · = k) := by
  have hsorted : (as.filter (key · = k)).Pairwise fun a b => decide (key a ≤ key b) = true := by
    refine List.pairwise_of_forall_mem_list fun a ha b hb => decide_eq_true ?_
    rw [List.mem_filter, decide_eq_true_eq] at ha hb
    exact (ha.2.trans hb.2.symm).le
  have hsub := (List.sublist_mergeSort (leByKey_trans key) (leByKey_total key) hsorted
    List.filter_sublist).filter (key · = k)
  simp only [List.filter_filter, Bool.and_self] at hsub
  exact (hsub.eq_of_length ((List.mergeSort_perm _ _).filter _).length_eq.symm).symm

/-- **Sorting by a key is stable**: elements with the same key keep an order that all are in. -/
theorem pairwise_mergeSort_of_pairwise {R : α → α → Prop} {as : List α} (h : as.Pairwise R) :
    (as.mergeSort fun a b => decide (key a ≤ key b)).Pairwise fun a b =>
      key a < key b ∨ key a = key b ∧ R a b := by
  have hsorted := List.pairwise_mergeSort (leByKey_trans key) (leByKey_total key) as
  rw [List.pairwise_iff_forall_sublist] at hsorted ⊢
  intro a b hab
  rcases (of_decide_eq_true (hsorted hab)).lt_or_eq with hlt | heq
  · exact Or.inl hlt
  · have hkept : [a, b] <+ as.filter (key · = key b) := by
      rw [← filter_mergeSort_key]
      simpa [heq] using hab.filter (key · = key b)
    exact Or.inr ⟨heq, List.pairwise_iff_forall_sublist.mp (h.filter _) hkept⟩

end Key

namespace ErrorVariant

/-! ### Declarations that count -/

/-- The place of the first declaration under a name. -/
def placeOf (codes : List ErrorCode) (name : String) : Nat :=
  codes.findIdx fun e => pascalCase e.name == name

/-- The first declaration under a name. -/
def declared? (codes : List ErrorCode) (name : String) : Option ErrorCode :=
  codes.find? fun e => pascalCase e.name == name

/-- A declaration that counts has a name with words that no earlier one has, and no name is lost. -/
theorem mem_names_counted {seen : List String} {codes : List ErrorCode} {name : String} :
    (∃ e ∈ counted seen codes, pascalCase e.name = name) ↔
      name ≠ "" ∧ name ∉ seen ∧ ∃ e ∈ codes, pascalCase e.name = name := by
  induction codes generalizing seen with
  | nil => simp [counted]
  | cons first rest ih =>
      rw [counted]
      by_cases hskip : pascalCase first.name = "" ∨ pascalCase first.name ∈ seen
      · rw [if_pos (by simpa [String.isEmpty_iff] using hskip), ih]
        grind
      · rw [if_neg (by simpa [String.isEmpty_iff] using hskip)]
        simp only [List.mem_cons, exists_eq_or_imp, ih]
        grind

/-- A declaration that counts is not named like what was left out before it. -/
theorem ne_name_of_mem_counted {seen : List String} {codes : List ErrorCode} {e : ErrorCode}
    (h : e ∈ counted seen codes) {name : String} (hskip : name = "" ∨ name ∈ seen) :
    name ≠ pascalCase e.name := by
  obtain ⟨hne, hnew, -⟩ := mem_names_counted.mp ⟨e, h, rfl⟩
  rintro rfl
  exact hskip.elim hne hnew

/-- Whether a declaration is left out. -/
theorem counted_cons (seen : List String) (first : ErrorCode) (rest : List ErrorCode) :
    ((pascalCase first.name = "" ∨ pascalCase first.name ∈ seen) ∧
        counted seen (first :: rest) = counted seen rest) ∨
      counted seen (first :: rest) = first :: counted (pascalCase first.name :: seen) rest := by
  rw [counted]
  by_cases hskip : pascalCase first.name = "" ∨ pascalCase first.name ∈ seen
  · exact Or.inl ⟨hskip, if_pos (by simpa [String.isEmpty_iff] using hskip)⟩
  · exact Or.inr (if_neg (by simpa [String.isEmpty_iff] using hskip))

/-- **A declaration that counts** is the first under its name. -/
theorem declared?_of_mem_counted {seen : List String} {codes : List ErrorCode} {e : ErrorCode}
    (h : e ∈ counted seen codes) : declared? codes (pascalCase e.name) = some e := by
  induction codes generalizing seen with
  | nil => cases h
  | cons first rest ih =>
      have hrest : ∀ {seen}, e ∈ counted seen rest →
          (pascalCase first.name = "" ∨ pascalCase first.name ∈ seen) →
            declared? (first :: rest) (pascalCase e.name) = some e := by
        intro seen hmem hskip
        rw [declared?, List.find?_cons_of_neg (by simpa using ne_name_of_mem_counted hmem hskip)]
        exact ih hmem
      rcases counted_cons seen first rest with ⟨hskip, heq⟩ | heq
      · rw [heq] at h
        exact hrest h hskip
      · rw [heq] at h
        rcases List.mem_cons.mp h with rfl | h
        · exact List.find?_cons_of_pos (beq_self_eq_true _)
        · exact hrest h (Or.inr List.mem_cons_self)

/-- **The declarations that count** come in the order of the places of their names. -/
theorem pairwise_placeOf_counted (seen : List String) (codes : List ErrorCode) :
    (counted seen codes).Pairwise fun a b =>
      placeOf codes (pascalCase a.name) < placeOf codes (pascalCase b.name) := by
  induction codes generalizing seen with
  | nil => exact .nil
  | cons first rest ih =>
      have hplace : ∀ {seen e}, e ∈ counted seen rest →
          (pascalCase first.name = "" ∨ pascalCase first.name ∈ seen) →
            placeOf (first :: rest) (pascalCase e.name) = placeOf rest (pascalCase e.name) + 1 := by
        intro seen e hmem hskip
        rw [placeOf, List.findIdx_cons, beq_false_of_ne (ne_name_of_mem_counted hmem hskip)]
        rfl
      have hrest : ∀ {seen}, (pascalCase first.name = "" ∨ pascalCase first.name ∈ seen) →
          (counted seen rest).Pairwise fun a b =>
            placeOf (first :: rest) (pascalCase a.name) <
              placeOf (first :: rest) (pascalCase b.name) := by
        intro seen hskip
        refine (ih seen).imp_of_mem fun ha hb hlt => ?_
        rw [hplace ha hskip, hplace hb hskip]
        exact Nat.succ_lt_succ hlt
      rcases counted_cons seen first rest with ⟨hskip, heq⟩ | heq
      · rw [heq]
        exact hrest hskip
      · rw [heq]
        refine .cons (fun e he => ?_) (hrest (Or.inr List.mem_cons_self))
        rw [hplace he (Or.inr List.mem_cons_self), placeOf, List.findIdx_cons, beq_self_eq_true]
        exact Nat.succ_pos _

/-! ### What a variant has of its declaration -/

/-- A variant has the code, the message and the status of a declaration, as far as this has them:
the name stands in for a blank message, and the code gives the status that is missing. -/
structure Presents (v : ErrorVariant) (e : ErrorCode) : Prop where
  name : v.name = pascalCase e.name
  code : v.code = e.code
  named : Text.isBlankText e.message.toList = true → v.message = e.name
  message : Text.isBlankText e.message.toList = false →
    v.message = String.ofList (Text.singleLine e.message.toList)
  status : v.status = e.status.getD (statusOf e.code)

/-- An error code is presented as it was declared. -/
theorem presents_ofDeclaration (e : ErrorCode) :
    Presents (ofDeclaration (pascalCase e.name) e) e where
  name := rfl
  code := rfl
  named h := if_pos h
  message h := if_neg (Bool.eq_false_iff.mp h)
  status := rfl

/-- **A status that is made of a code** is one of HTTP. -/
theorem statusOf_mem (code : Int) : 100 ≤ statusOf code ∧ statusOf code ≤ 599 := by
  rw [statusOf]
  split
  · omega
  · decide

/-- The common variants have codes in order, distinct names and statuses of HTTP. -/
theorem common_check :
    common.Pairwise (fun v w => v.code < w.code) ∧ (common.map (·.name)).Nodup ∧
      ∀ v ∈ common, v.name ≠ "" ∧ 100 ≤ v.status ∧ v.status ≤ 599 := by
  decide

/-! ### The error codes of a module -/

/-- How the variants of a module come from the declarations for it. -/
structure Enumerates (codes : List ErrorCode) (variants : List ErrorVariant) : Prop where
  /-- There are some. -/
  ne_nil : variants ≠ []
  /-- They ascend by code, and with the same code in the order of declaration. -/
  sorted : variants.Pairwise fun v w =>
    v.code < w.code ∨ v.code = w.code ∧ placeOf codes v.name < placeOf codes w.name
  /-- Their names are distinct. -/
  nodup : (variants.map (·.name)).Nodup
  /-- Their names have words. -/
  name_ne : ∀ v ∈ variants, v.name ≠ ""
  /-- If a declaration has a name with words, the variants have just these names. -/
  mem_names : (∃ e ∈ codes, pascalCase e.name ≠ "") →
    ∀ name, name ∈ variants.map (·.name) ↔ name ≠ "" ∧ ∃ e ∈ codes, pascalCase e.name = name
  /-- Then each presents the first declaration under its name. -/
  presents : (∃ e ∈ codes, pascalCase e.name ≠ "") →
    ∀ v ∈ variants, ∃ e, declared? codes v.name = some e ∧ v.Presents e
  /-- Otherwise they are the common ones. -/
  eq_common : (∀ e ∈ codes, pascalCase e.name = "") → variants = common
  /-- A status that is not declared is one of HTTP. -/
  status : ∀ v ∈ variants,
    (∃ e, declared? codes v.name = some e ∧ e.status = some v.status) ∨
      100 ≤ v.status ∧ v.status ≤ 599

/-- The common variants are those of declarations of which none has a name with words. -/
theorem enumerates_common {codes : List ErrorCode} (h : ∀ e ∈ codes, pascalCase e.name = "") :
    Enumerates codes common where
  ne_nil := List.cons_ne_nil _ _
  sorted := common_check.1.imp Or.inl
  nodup := common_check.2.1
  name_ne v hv := (common_check.2.2 v hv).1
  mem_names := fun ⟨e, he, hne⟩ => absurd (h e he) hne
  presents := fun ⟨e, he, hne⟩ => absurd (h e he) hne
  eq_common _ := rfl
  status v hv := Or.inr (common_check.2.2 v hv).2

/-- The variants of the declarations that count, sorted by their codes. -/
theorem enumerates_counted {codes : List ErrorCode} (h : ∃ e ∈ codes, pascalCase e.name ≠ "") :
    Enumerates codes (((counted [] codes).map fun e =>
      ofDeclaration (pascalCase e.name) e).mergeSort fun v w => decide (v.code ≤ w.code)) := by
  generalize hvariants : (counted [] codes).map (fun e => ofDeclaration (pascalCase e.name) e) =
    variants
  have hplaces : variants.Pairwise fun v w => placeOf codes v.name < placeOf codes w.name := by
    rw [← hvariants, List.pairwise_map]
    exact pairwise_placeOf_counted [] codes
  have hnames : ∀ name, name ∈ variants.map (·.name) ↔
      name ≠ "" ∧ ∃ e ∈ codes, pascalCase e.name = name := by
    intro name
    rw [← hvariants, List.map_map, List.mem_map]
    simpa [ofDeclaration] using @mem_names_counted [] codes name
  have hpresents : ∀ v ∈ variants, ∃ e, declared? codes v.name = some e ∧ v.Presents e := by
    rw [← hvariants]
    refine List.forall_mem_map.mpr fun e he => ?_
    exact ⟨e, declared?_of_mem_counted he, presents_ofDeclaration e⟩
  have hperm := List.mergeSort_perm variants fun v w => decide (v.code ≤ w.code)
  have hmem : ∀ name, name ∈ (variants.mergeSort fun v w => decide (v.code ≤ w.code)).map (·.name) ↔
      name ∈ variants.map (·.name) := fun name => (hperm.map _).mem_iff
  constructor
  case ne_nil =>
    intro hnil
    obtain ⟨e, he, hne⟩ := h
    have hname := (hnames _).mpr ⟨hne, e, he, rfl⟩
    rw [← hmem, hnil] at hname
    cases hname
  case sorted => exact pairwise_mergeSort_of_pairwise (·.code) hplaces
  case nodup =>
    rw [(hperm.map _).nodup_iff]
    refine List.Pairwise.map _ (fun v w hlt heq => ?_) hplaces
    rw [heq] at hlt
    exact lt_irrefl _ hlt
  case name_ne =>
    intro v hv
    exact ((hnames v.name).mp (List.mem_map_of_mem (hperm.mem_iff.mp hv))).1
  case mem_names => exact fun _ name => (hmem name).trans (hnames name)
  case presents => exact fun _ v hv => hpresents v (hperm.mem_iff.mp hv)
  case eq_common => exact fun hnone => absurd h (by simpa using hnone)
  case status =>
    intro v hv
    obtain ⟨e, hdeclared, hv⟩ := hpresents v (hperm.mem_iff.mp hv)
    rw [hv.status]
    cases hstatus : e.status with
    | some status => exact Or.inl ⟨e, hdeclared, hstatus⟩
    | none => exact Or.inr (statusOf_mem _)

/-- **The error codes of a module.** There are some, they ascend by code and then in the order of
declaration, and their names are distinct. If any declaration has a name with words, they have the
names of all declarations, those of the module before those of its operations, and each presents
the first declaration under its name; otherwise they are the common ones. A status that is not
declared is one of HTTP. -/
theorem enumerates_ofModule (own : List ErrorCode) (endpoints : List Endpoint) :
    Enumerates (own ++ endpoints.flatMap (·.errorCodes)) (ofModule own endpoints) := by
  rw [ofModule]
  generalize own ++ endpoints.flatMap (·.errorCodes) = codes
  rw [distinct_eq]
  by_cases h : ∃ e ∈ codes, pascalCase e.name ≠ ""
  · have hsome : ((counted [] codes).map fun e =>
        ofDeclaration (pascalCase e.name) e).isEmpty = false := by
      obtain ⟨e, he, hne⟩ := h
      obtain ⟨first, hfirst, -⟩ := mem_names_counted.mpr ⟨hne, List.not_mem_nil, e, he, rfl⟩
      rw [List.isEmpty_eq_false_iff]
      exact List.ne_nil_of_mem (List.mem_map_of_mem hfirst)
    rw [hsome, if_neg Bool.false_ne_true]
    exact enumerates_counted h
  · have hnone : ∀ e ∈ codes, pascalCase e.name = "" := by simpa using h
    have hcounted : counted [] codes = [] := by
      refine List.eq_nil_iff_forall_not_mem.mpr fun e he => ?_
      obtain ⟨hne, -, first, hfirst, heq⟩ := mem_names_counted.mp ⟨e, he, rfl⟩
      exact hne (heq ▸ hnone first hfirst)
    have hsorted : (common.mergeSort fun v w => decide (v.code ≤ w.code)) = common :=
      List.mergeSort_of_pairwise (common_check.1.imp fun hlt => decide_eq_true hlt.le)
    rw [hcounted, List.map_nil, List.isEmpty_nil, if_pos rfl, hsorted]
    exact enumerates_common hnone

end ErrorVariant

end ServiceGen
