import ServiceGen.Scaffold
import ServiceGen.OperationKind
import ServiceGen.Proofs.Generation
import ServiceGen.Proofs.PrimaryModules

/-!
# Modules of Scaffold Documents

The document that stands in for a missing one is made from the snake-case form of a name, and
the module of that document is then extracted by the name as it was given. The two meet
exactly if the name keeps its spelling in snake case, up to capitals and the white space around
it (`KeepsSpelling`): the tags of the five operations are compared with the name as it is, and
the paths, which name the plural, match only where the tags do (`plural_eq_of_same`).

## Main results

* `hasOperation_scaffold_iff`: which names the five operations belong to.
* `scaffold_operations_iff`: for a name that keeps its spelling, the module has one operation
  of each usual role; **for any other name it is empty**, and generating it fails.
-/

namespace ServiceGen

open ModuleName (Canonical same trimmed)

/-! ### Paths without braces -/

namespace PathTemplate

/-- Text without opening braces stands for itself. -/
theorem scanFrom_append {text : List Char} (h : '\x7b' ∉ text) (rest : List Char) :
    scanFrom none (text ++ rest) = text.map .char ++ scanFrom none rest := by
  induction text with
  | nil => rfl
  | cons c text ih =>
      rw [List.mem_cons, not_or] at h
      rw [List.cons_append, scanFrom, if_neg (Ne.symm h.1), ih h.2]
      rfl

/-- Text without opening braces has no placeholders in it. -/
theorem placeholders_append {text : String} (h : '\x7b' ∉ text.toList) (rest : String) :
    placeholders (text ++ rest) = placeholders rest := by
  rw [placeholders, scan, String.toList_append, scanFrom_append h, List.filterMap_append,
    List.filterMap_map]
  exact List.append_left_eq_self.mpr (List.filterMap_eq_nil_iff.mpr fun c _ => rfl)

/-- A name for a path is a segment of it that is no placeholder. -/
theorem of_moduleName?_eq_some {path name : String} (h : moduleName? path = some name) :
    ∃ segment ∈ segments path, Text.trim segment ≠ [] ∧
      name.toList = Text.Letter.lowerText (Text.trim segment) ∧
        isPlaceholderSegment name.toList = false := by
  simp only [moduleName?, Option.map_eq_some_iff] at h
  obtain ⟨lower, hfind, rfl⟩ := h
  obtain ⟨bare, hbare, rfl⟩ := List.mem_map.mp (List.mem_of_find?_eq_some hfind)
  rw [List.mem_filter] at hbare
  obtain ⟨segment, hsegment, rfl⟩ := List.mem_map.mp hbare.1
  have hplaceholder := List.find?_some hfind
  rw [Bool.and_eq_true, Bool.not_eq_true'] at hplaceholder
  rw [String.toList_ofList]
  exact ⟨segment, hsegment, by simpa using hbare.2, rfl, hplaceholder.2⟩

end PathTemplate

/-! ### Names that keep their spelling -/

/-- A name that is its own snake-case form, up to capitals and the white space around it. -/
def ModuleName.KeepsSpelling (name : String) : Prop :=
  same (snakeCase name) (trimmed name) = true

instance (name : String) : Decidable (ModuleName.KeepsSpelling name) :=
  inferInstanceAs (Decidable (_ = true))

namespace Scaffold

variable {name : String}

/-- The plural in the paths of a scaffold document is written in the characters of module
names. -/
theorem isModuleChar_of_mem_plural (h : isModuleSafe (snakeCase name) = true) {c : Char}
    (hc : c ∈ (pluralOf (snakeCase name)).toList) : IsModuleChar c := by
  rw [pluralOf, String.toList_ofList] at hc
  rcases (Text.plural_cases (ModuleName.canonical_snakeCase h).isPlain).of_mem hc with hc | hlow
  · exact of_mem_of_isModuleSafe h hc
  · exact Or.inl (by simp [Char.isAlphanum, Char.isAlpha, hlow])

/-- The plural in the paths of a scaffold document has no capitals. -/
theorem isPlain_plural (h : isModuleSafe (snakeCase name) = true) :
    Text.IsPlain (pluralOf (snakeCase name)).toList := by
  have hplain := (ModuleName.canonical_snakeCase h).isPlain
  rw [pluralOf, String.toList_ofList]
  exact (Text.plural_cases hplain).isPlain hplain

/-- **A plural matches only where the name does.** If a name is the plural of its snake-case
form, up to capitals, then that plural is the snake-case form. -/
theorem plural_eq_of_same (h : isModuleSafe (snakeCase name) = true)
    (hsame : same (pluralOf (snakeCase name)) (trimmed name) = true) :
    pluralOf (snakeCase name) = snakeCase name := by
  have hplain := (ModuleName.canonical_snakeCase h).isPlain
  have hcase := Text.plural_cases hplain
  rw [ModuleName.same_iff, pluralOf, String.toList_ofList, (hcase.isPlain hplain).map_toLower,
    trimmed, String.toList_ofList] at hsame
  -- The name is ASCII where it is not white space, since its plural is.
  have hascii : ∀ c ∈ Text.trim name.toList, Text.Letter.isAscii c = true := by
    intro c hc
    rw [← Text.Letter.isAscii_toLower]
    exact (hcase.isPlain hplain _ (hsame ▸ List.mem_map_of_mem hc)).1
  have hword : ∀ c ∈ name.toList, Text.Letter.isWord c = true → Text.Letter.isAscii c = true := by
    intro c hc hword
    have hmem : c ∈ name.toList.filter Text.Letter.isWord := List.mem_filter.mpr ⟨hc, hword⟩
    rw [← Text.filter_isWord_trim] at hmem
    exact hascii c (List.mem_filter.mp hmem).1
  -- So plural and name have the same letters, which no ending would leave as they are.
  have hletters : (Text.plural (snakeCase name).toList).filter Text.Letter.isWord =
      (snakeCase name).toList.filter Text.Letter.isWord := by
    rw [hsame, snakeCase, String.toList_ofList, Text.filter_isWord_snake hword,
      ← Text.filter_isWord_trim name.toList, List.filter_map]
    refine congrArg (List.map Char.toLower) (List.filter_congr fun c hc => ?_)
    rw [Function.comp_apply, Text.Letter.isWord_of_isAscii (hascii c hc),
      Text.Letter.isWord_of_isAscii (by rw [Text.Letter.isAscii_toLower, hascii c hc]),
      Text.Letter.isAlphanum_toLower]
  rw [pluralOf, hcase.eq_of_filter_eq hletters, String.ofList_toList]

/-- The two paths of a scaffold document with a plural. -/
def paths (plural : String) : List String :=
  ["/" ++ plural, resourcePath plural]

/-- The segments of the two paths: nothing before the first slash, the plural, and the
placeholder of one resource. -/
theorem segments_paths {plural : String} (h : '/' ∉ plural.toList) {path : String}
    (hpath : path ∈ paths plural) {segment : List Char}
    (hsegment : segment ∈ PathTemplate.segments path) :
    segment = [] ∨ segment = plural.toList ∨ segment = "\x7bid\x7d".toList := by
  rcases List.mem_pair.mp hpath with rfl | rfl
  · have hsegments : PathTemplate.segments ("/" ++ plural) = [[], plural.toList] := by
      rw [PathTemplate.segments, String.toList_append]
      exact congrArg ([] :: ·) (Text.splitAtChar_eq_singleton h)
    rw [hsegments] at hsegment
    exact (List.mem_pair.mp hsegment).imp_right Or.inl
  · have hsegments : PathTemplate.segments (resourcePath plural) =
        [[], plural.toList, "\x7bid\x7d".toList] := by
      rw [PathTemplate.segments, resourcePath, String.toList_append, String.toList_append]
      exact congrArg ([] :: ·) (Text.splitAtChar_append_cons h _)
    rw [hsegments] at hsegment
    simpa using hsegment

/-- The name of a scaffold path, if it has one, is the plural. -/
theorem eq_plural_of_moduleName? (h : isModuleSafe (snakeCase name) = true) {path other : String}
    (hpath : path ∈ paths (pluralOf (snakeCase name)))
    (hname : PathTemplate.moduleName? path = some other) :
    other = pluralOf (snakeCase name) := by
  have hchars : ∀ c ∈ (pluralOf (snakeCase name)).toList, IsModuleChar c :=
    fun c hc => isModuleChar_of_mem_plural h hc
  have hplain := isPlain_plural h
  generalize pluralOf (snakeCase name) = plural at hpath hchars hplain ⊢
  have hslash : '/' ∉ plural.toList := by
    intro hmem
    exact absurd (hchars '/' hmem) (by decide)
  obtain ⟨segment, hsegment, hne, hother, hplaceholder⟩ :=
    PathTemplate.of_moduleName?_eq_some hname
  rcases segments_paths hslash hpath hsegment with hnil | hplural | hresource
  · rw [hnil] at hne
    exact absurd rfl hne
  · rw [← String.toList_inj, hother, hplural,
      Text.trim_eq_self fun c hc => (hchars c hc).isBlank, hplain.lowerText_eq]
  · have hid : PathTemplate.isPlaceholderSegment
        (Text.Letter.lowerText (Text.trim "\x7bid\x7d".toList)) = true := by decide
    rw [hother, hresource, hid] at hplaceholder
    cases hplaceholder

/-! ### The five operations -/

/-- **Which names the operations of a scaffold document belong to**: those that keep their
spelling. The paths add nothing to what the tags say. -/
theorem hasOperation_scaffold_iff (h : isModuleSafe (snakeCase name) = true) {op : Operation}
    {path : String} (htags : op.tags = [snakeCase name])
    (hpath : path ∈ paths (pluralOf (snakeCase name))) :
    ApiModule.hasOperation name op path = true ↔ ModuleName.KeepsSpelling name := by
  have htag : (op.tags.any fun tag => same (trimmed tag) (trimmed name)
      || (ModuleName.ofTag? tag).any (same · (trimmed name))) =
        same (snakeCase name) (trimmed name) := by
    rw [htags, List.any_cons, List.any_nil, Bool.or_false,
      (ModuleName.canonical_snakeCase h).ofTag?_eq, ModuleName.trimmed_of_isModuleSafe h,
      Option.any_some, Bool.or_self]
  rw [ApiModule.hasOperation, htag, Bool.or_eq_true, Option.any_eq_true]
  constructor
  · rintro (hkeeps | ⟨other, hother, hsame⟩)
    · exact hkeeps
    · rw [eq_plural_of_moduleName? h hpath hother] at hsame
      rwa [ModuleName.KeepsSpelling, ← plural_eq_of_same h hsame]
  · exact Or.inl

/-- The methods, paths and tags of the operations of a scaffold document. -/
def outline (plural tag : String) : List (String × String × List String) :=
  [("GET", "/" ++ plural, [tag]), ("POST", "/" ++ plural, [tag]),
    ("GET", resourcePath plural, [tag]), ("PUT", resourcePath plural, [tag]),
    ("DELETE", resourcePath plural, [tag])]

/-- All of them have the same tag, and one of the two paths. -/
theorem of_mem_outline {plural tag : String} {entry : String × String × List String}
    (h : entry ∈ outline plural tag) : entry.2.1 ∈ paths plural ∧ entry.2.2 = [tag] := by
  revert entry
  simp [outline, paths]

/-- The operations of a scaffold document: their methods, paths and tags. -/
theorem routes_of_document_eq_ok {d : Document} (h : document name = .ok d) :
    isModuleSafe (snakeCase name) = true ∧
      d.routes.map (fun r => (r.method, r.path, r.operation.tags)) =
        outline (pluralOf (snakeCase name)) (snakeCase name) := by
  rw [document] at h
  split at h
  · cases h
  · rename_i hsafe
    split at h
    · cases h
    · cases h
      exact ⟨by simpa using hsafe, rfl⟩

/-- **The operations of a scaffold document stand or fall together.** -/
theorem hasOperation_of_mem_routes {d : Document} (h : document name = .ok d) {r : Route}
    (hr : r ∈ d.routes) :
    ApiModule.hasOperation name r.operation r.path = true ↔ ModuleName.KeepsSpelling name := by
  obtain ⟨hsafe, hroutes⟩ := routes_of_document_eq_ok h
  have hmem := List.mem_map_of_mem (f := fun r : Route => (r.method, r.path, r.operation.tags)) hr
  rw [hroutes] at hmem
  obtain ⟨hpath, htags⟩ := of_mem_outline hmem
  exact hasOperation_scaffold_iff hsafe htags hpath

/-- Of the paths of a scaffold document, that of one resource has a placeholder. -/
theorem hasPlaceholder_paths {plural : String} (h : '\x7b' ∉ plural.toList) :
    PathTemplate.hasPlaceholder ("/" ++ plural) = false ∧
      PathTemplate.hasPlaceholder (resourcePath plural) = true := by
  have hslash : '\x7b' ∉ ("/" ++ plural).toList := by
    rw [String.toList_append, List.mem_append, not_or]
    exact ⟨by decide, h⟩
  constructor
  · rw [PathTemplate.hasPlaceholder, ← String.append_empty (s := "/" ++ plural),
      PathTemplate.placeholders_append hslash]
    decide
  · rw [PathTemplate.hasPlaceholder, resourcePath, PathTemplate.placeholders_append hslash]
    decide

/-- The roles that the operations of a resource usually have. -/
def usualKinds : List OperationKind :=
  [.list, .create, .getById, .update, .delete]

/-- The operations of a scaffold document have the usual roles. -/
theorem kinds_of_document_eq_ok {d : Document} (h : document name = .ok d) :
    d.routes.map (fun r => OperationKind.classify r.method (PathTemplate.hasPlaceholder r.path)) =
      usualKinds := by
  obtain ⟨hsafe, hroutes⟩ := routes_of_document_eq_ok h
  have hbrace : '\x7b' ∉ (pluralOf (snakeCase name)).toList := by
    intro hmem
    exact absurd (isModuleChar_of_mem_plural hsafe hmem) (by decide)
  obtain ⟨hcollection, hresource⟩ := hasPlaceholder_paths hbrace
  have hkinds := congrArg (List.map fun x : String × String × List String =>
    OperationKind.classify x.1 (PathTemplate.hasPlaceholder x.2.1)) hroutes
  rw [List.map_map] at hkinds
  refine Eq.trans hkinds ?_
  simp only [outline, List.map_cons, List.map_nil, hcollection, hresource]
  decide

end Scaffold

/-! ### Modules of scaffold documents -/

/-- The role of an operation of a module. -/
def ModuleOperation.kind (o : ModuleOperation) : OperationKind :=
  .classify o.method (PathTemplate.hasPlaceholder o.path)

namespace Scaffold

variable {name : String} {d : Document}

/-- The module of a name that keeps its spelling has an operation of each usual role. -/
theorem kinds_of_keepsSpelling (h : document name = .ok d)
    (hkeeps : ModuleName.KeepsSpelling name) :
    (ApiModule.ofDocument d name).operations.map ModuleOperation.kind = usualKinds := by
  have hall : d.routes.filter (fun r => ApiModule.hasOperation name r.operation r.path) =
      d.routes :=
    List.filter_eq_self.mpr fun r hr => (hasOperation_of_mem_routes h hr).mpr hkeeps
  rw [ApiModule.ofDocument, hall, List.map_map]
  exact kinds_of_document_eq_ok h

/-- The module of a name that does not keep its spelling is empty. -/
theorem operations_of_not_keepsSpelling (h : document name = .ok d)
    (hkeeps : ¬ ModuleName.KeepsSpelling name) :
    (ApiModule.ofDocument d name).operations = [] := by
  have hnone : d.routes.filter (fun r => ApiModule.hasOperation name r.operation r.path) = [] :=
    List.filter_eq_nil_iff.mpr fun r hr hop => hkeeps ((hasOperation_of_mem_routes h hr).mp hop)
  rw [ApiModule.ofDocument, hnone, List.map_nil]

/-- A run for a module that is made up fails for want of operations exactly if the module is
empty. -/
theorem noOperations_iff_isEmpty (h : document name = .ok d) (g : Generator) (s : Session)
    (hreserved : Layout.isReserved name = false) :
    ((g.generateModule none name).runOn s).1 = .error (.noOperations name) ↔
      (ApiModule.ofDocument d name).isEmpty = true := by
  have hview : g.view none name =
      if (ApiModule.ofDocument d name).isEmpty then .error (.noOperations name)
      else ModuleView.build (ApiModule.ofDocument d name) g.options.package (g.resolver d) := by
    rw [Generator.view_eq, hreserved, Generator.documentFor, h]
    rfl
  rw [Generation.runOn_eq_runIn]
  constructor
  · intro hrun
    cases houtcome : Stateful.runIn (g.generateModule none name) s with
    | mk outcome t =>
        rw [houtcome] at hrun
        obtain rfl : outcome = .error (.noOperations name) := hrun
        rcases Generator.of_generateModule_eq_error houtcome with hfailure | houtput
        · rw [hview] at hfailure
          by_contra hempty
          rw [if_neg hempty] at hfailure
          obtain ⟨-, reference, -, hreference⟩ := Resolver.of_build_eq_error hfailure
          cases hreference
        · exact absurd houtput id
  · intro hempty
    rw [if_pos hempty] at hview
    have hrun := Generator.runIn_generateModule g none name s
    rw [hview] at hrun
    exact congrArg Prod.fst hrun

/-- **Which made-up modules have operations.** The module of a scaffold document has one
operation of each usual role if its name keeps its spelling in snake case, and is empty for
every other name. So a run on a name that is not reserved fails for want of operations exactly
where the name does not keep its spelling. -/
theorem scaffold_operations_iff (h : document name = .ok d) :
    ((ApiModule.ofDocument d name).operations.map ModuleOperation.kind = usualKinds ↔
        ModuleName.KeepsSpelling name) ∧
      ((ApiModule.ofDocument d name).isEmpty = true ↔ ¬ ModuleName.KeepsSpelling name) ∧
      ∀ (g : Generator) (s : Session), Layout.isReserved name = false →
        (((g.generateModule none name).runOn s).1 = .error (.noOperations name) ↔
          ¬ ModuleName.KeepsSpelling name) := by
  have hempty : (ApiModule.ofDocument d name).isEmpty = true ↔
      ¬ ModuleName.KeepsSpelling name := by
    constructor
    · intro hnone hkeeps
      have hkinds := kinds_of_keepsSpelling h hkeeps
      rw [List.isEmpty_iff.mp hnone] at hkinds
      cases hkinds
    · intro hkeeps
      exact List.isEmpty_iff.mpr (operations_of_not_keepsSpelling h hkeeps)
  refine ⟨⟨fun hkinds => ?_, kinds_of_keepsSpelling h⟩, hempty, fun g s hreserved => ?_⟩
  · by_contra hkeeps
    rw [operations_of_not_keepsSpelling h hkeeps] at hkinds
    cases hkinds
  · rw [noOperations_iff_isEmpty h g s hreserved, hempty]

/-- The made-up module `book` has an operation of each usual role. -/
theorem book_operations : ∃ d, document "book" = .ok d ∧
    (ApiModule.ofDocument d "book").operations.map ModuleOperation.kind = usualKinds := by
  obtain ⟨d, hd⟩ : ∃ d, document "book" = .ok d := ⟨_, rfl⟩
  exact ⟨d, hd, (scaffold_operations_iff hd).1.mpr (by decide)⟩

/-- The made-up module `OrderItem` has no operations: its document tags them `order_item`. -/
theorem not_forall_scaffold_operations : ¬ ∀ (name : String) (d : Document),
    document name = .ok d →
      (ApiModule.ofDocument d name).operations.map ModuleOperation.kind = usualKinds := by
  intro hall
  obtain ⟨d, hd⟩ : ∃ d, document "OrderItem" = .ok d := ⟨_, rfl⟩
  have hkinds := hall "OrderItem" d hd
  rw [operations_of_not_keepsSpelling hd (by decide)] at hkinds
  cases hkinds

end Scaffold

end ServiceGen
