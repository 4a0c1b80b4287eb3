import ServiceGen.Proofs.Declarations
import ServiceGen.Proofs.FunctionNames
import ServiceGen.Proofs.IdentifierLetters
import ServiceGen.Proofs.StructNames
import ServiceGen.Proofs.ViewSources

/-!
# Names of Types as Identifiers

The identifiers of fields and methods are repaired where they begin with a digit. The names of
types are not: each is some other name put in Pascal case (`TypeOrigin`), and for a method it is
the name without the repair, since underscores separate words. So a type has an identifier for a
name exactly if what it is named after begins with a letter, and has no letter that no identifier
may have.

The operationIds, components and error codes of a document are named in ASCII. Only a path may
bring other letters into a name, where a method is named after it.

## Main results

* `isIdentifier_typeNames_iff`: **which names of types are identifiers.**
* `not_forall_isIdentifier_typeNames`: those of a request `2fa`, a component `3DModel` and an error
  code `404NotFound` are not.
-/

namespace ServiceGen

open Text (AsciiLed Spellable beginsWithLetter leading?)

/-! ### Repaired names -/

/-- An underscore in front of a name does not lead it. -/
theorem Text.leading?_cons_underscore (cs : List Char) : leading? ('_' :: cs) = leading? cs :=
  List.find?_cons_of_neg (by decide)

/-- A repair does not change what a name begins with. -/
theorem IsForm.asciiLed_plainIdentifier {form : List Char} (h : IsForm form)
    (hled : AsciiLed form) :
    AsciiLed (plainIdentifier (repairIdentifier form)).toList ∧
      beginsWithLetter (plainIdentifier (repairIdentifier form)).toList =
        beginsWithLetter form := by
  have hguard : leading? (guardDigit form) = leading? form := by
    rcases guardDigit_eq form with heq | heq
    · rw [heq]
    · rw [heq, Text.leading?_cons_underscore]
  have hled : AsciiLed (guardDigit form) ∧
      beginsWithLetter (guardDigit form) = beginsWithLetter form :=
    ⟨by rwa [AsciiLed, hguard], by rw [beginsWithLetter, hguard, beginsWithLetter]⟩
  rcases h.toList_plainIdentifier_repairIdentifier with heq | heq
  · rwa [heq]
  · rw [heq, ← hled.2]
    exact hled.1.append ['_']

/-- The identifier of a name begins with a letter exactly if the name does, up to the repair. -/
theorem asciiLed_fieldIdentifier {name : String} (h : AsciiLed name.toList) :
    AsciiLed (plainIdentifier (fieldIdentifier name)).toList ∧
      beginsWithLetter (plainIdentifier (fieldIdentifier name)).toList =
        beginsWithLetter name.toList := by
  obtain ⟨hled, hletter⟩ := h.snake
  have hform : identifierForm name = Text.snake name.toList := by
    rw [identifierForm]
    split
    · rename_i hnil
      obtain ⟨c, hc, -⟩ := hled
      rw [hnil] at hc
      cases hc
    · rfl
  rw [fieldIdentifier_eq, ← hletter, ← hform]
  exact (isForm_identifierForm name).asciiLed_plainIdentifier (hform ▸ hled)

/-- What is left of an identifier without its mark is spelled with the same letters. -/
theorem dropRawMarks_subset (cs : List Char) : dropRawMarks cs ⊆ cs := by
  fun_induction dropRawMarks cs with
  | case1 rest ih => exact fun c hc => List.mem_cons_of_mem _ (List.mem_cons_of_mem _ (ih hc))
  | case2 => exact List.Subset.refl _

/-- A name keeps its letters when it is made plain. -/
theorem spellable_plainIdentifier {name : String} (h : Spellable name.toList) :
    Spellable (plainIdentifier name).toList := by
  rw [plainIdentifier, String.toList_ofList]
  exact h.mono (dropRawMarks_subset _)

/-- The identifier of a name is spelled with its letters. -/
theorem spellable_fieldIdentifier {name : String} (h : Spellable name.toList) :
    Spellable (fieldIdentifier name).toList := by
  have hmark : Spellable ['_'] := Text.spellable_of_all (by decide)
  have hform : Spellable (identifierForm name) := by
    rw [identifierForm]
    split
    · exact Text.spellable_of_all (by decide)
    · exact fun c hc _ => Text.forall_snake.mpr h c hc
  have hguard : Spellable (String.ofList (guardDigit (identifierForm name))).toList := by
    rw [String.toList_ofList]
    rcases guardDigit_eq (identifierForm name) with heq | heq
    · rwa [heq]
    · rw [heq, ← List.singleton_append]
      exact Text.spellable_append.mpr ⟨hmark, hform⟩
  rw [fieldIdentifier_eq, repairIdentifier_eq]
  split
  · rw [String.toList_append]
    exact Text.spellable_append.mpr ⟨hguard, hmark⟩
  · split
    · rw [String.toList_append]
      exact Text.spellable_append.mpr ⟨Text.spellable_of_all (by decide), hguard⟩
    · exact hguard

/-! ### Names of methods -/

/-- The words of roles and methods are ASCII, and begin with a letter. -/
theorem asciiLed_of_mem_roleWords {word : String} (h : word ∈ roleWords) :
    AsciiLed word.toList ∧ beginsWithLetter word.toList = true ∧ Spellable word.toList := by
  have hall : (roleWords.all fun word => word.toList.all Text.Letter.isAscii
      && beginsWithLetter word.toList) = true := by
    decide
  have hword := List.all_eq_true.mp hall word h
  rw [Bool.and_eq_true, List.all_eq_true] at hword
  obtain ⟨c, hc, -⟩ := Option.any_eq_true _ _ |>.mp hword.2
  exact ⟨⟨c, hc, hword.1 c (List.mem_of_find?_eq_some hc)⟩, hword.2,
    Text.spellable_of_ascii hword.1⟩

/-- A name that ASCII letters and digits are in, and nothing past ASCII. -/
def AsciiName (name : String) : Prop :=
  (∀ c ∈ name.toList, Text.Letter.isAscii c = true) ∧ ∃ c ∈ name.toList, c.isAlphanum = true

instance (name : String) : Decidable (AsciiName name) :=
  decidable_of_iff ((name.toList.all Text.Letter.isAscii && name.toList.any Char.isAlphanum) = true)
    (by rw [Bool.and_eq_true, List.all_eq_true, List.any_eq_true, AsciiName])

namespace AsciiName

variable {name : String}

/-- An ASCII name has an ASCII letter first. -/
theorem asciiLed (h : AsciiName name) : AsciiLed name.toList :=
  Text.asciiLed_of_ascii h.1 h.2

/-- An ASCII name can be spelled. -/
theorem spellable (h : AsciiName name) : Spellable name.toList :=
  Text.spellable_of_ascii h.1

/-- An ASCII name is not blank. -/
theorem isBlankText (h : AsciiName name) : Text.isBlankText name.toList = false := by
  obtain ⟨c, hc, halnum⟩ := h.2
  refine List.all_eq_false.mpr ⟨c, hc, fun hblank => ?_⟩
  have hword := Text.Letter.isWord_eq_false_of_isBlank hblank
  rw [Text.Letter.isWord_of_isAscii (h.1 c hc), halnum] at hword
  cases hword

end AsciiName

/-- The static segments of a path have its letters. -/
theorem PathTemplate.subset_of_mem_staticSegments {path segment : String}
    (h : segment ∈ staticSegments path) : segment.toList ⊆ path.toList := by
  obtain ⟨piece, hpiece, rfl⟩ := List.mem_map.mp h
  rw [String.toList_ofList]
  exact fun c hc => (Text.of_mem_splitBy (List.mem_filter.mp hpiece).1 hc).1

namespace ModuleOperation

variable {o : ModuleOperation}

/-- **What the base name of an operation begins with**: what its identifier begins with if it has
one, and a letter if it has none. -/
theorem asciiLed_baseName (hmethod : o.method ∈ PathItem.methods)
    (hid : ∀ id ∈ o.operation.operationId, AsciiName id) :
    AsciiLed (plainIdentifier o.baseName).toList ∧
      beginsWithLetter (plainIdentifier o.baseName).toList =
        o.operation.operationId.all fun id => beginsWithLetter id.toList := by
  cases hop : o.operation.operationId with
  | some id =>
      have hname := hid id hop
      rw [baseName, baseMethodName_of_operationId hop hname.isBlankText, Option.all_some]
      exact asciiLed_fieldIdentifier hname.asciiLed
  | none =>
      rw [Option.all_none]
      have hbase := baseName_baseMethodName hmethod o.path o.operation
      rw [show baseMethodName o.method o.path o.operation = o.baseName from rfl] at hbase
      generalize o.baseName = base at hbase
      cases hbase with
      | identifier hid =>
          rw [hop] at hid
          cases hid
      | role hword =>
          rw [plainIdentifier_of_unmarked (roleWords_check hword).1]
          exact ⟨(asciiLed_of_mem_roleWords hword).1, (asciiLed_of_mem_roleWords hword).2.1⟩
      | @roleWith word hword rest =>
          obtain ⟨hled, hletter, -⟩ := asciiLed_of_mem_roleWords hword
          rw [toList_plainIdentifier_role hword, ← hletter]
          exact hled.append _

/-- The names that operations have by their roles are ASCII. -/
theorem spellable_of_defaultMethodName? {kind : OperationKind} {name : String}
    (h : kind.defaultMethodName? = some name) : Spellable name.toList := by
  cases kind with
  | other => cases h
  | _ => exact Option.some.inj h ▸ Text.spellable_of_all (by decide)

/-- A name that is made of a method and of segments is spelled with their letters. -/
theorem spellable_methodNameOf {method : String} {segments : List String}
    (hmethod : method ∈ PathItem.methods) (h : ∀ s ∈ segments, Spellable s.toList) :
    Spellable (methodNameOf method segments).toList := by
  have hword := (asciiLed_of_mem_roleWords (lowerText_mem_roleWords hmethod)).2.2
  rw [String.toList_ofList] at hword
  rw [methodNameOf, String.toList_ofList]
  intro c hc
  rcases Text.mem_join hc with hsep | ⟨piece, hpiece, hmem⟩
  · exact Text.spellable_of_all (by decide) c hsep
  · rcases List.mem_cons.mp hpiece with rfl | hpiece
    · exact hword c hmem
    · obtain ⟨segment, hsegment, rfl⟩ := List.mem_map.mp (List.mem_filter.mp hpiece).1
      exact fun _ => Text.forall_snake.mpr (h segment hsegment) c hmem

/-- **What the base name of an operation is spelled with**: the letters of its identifier, or else
those of its path. -/
theorem spellable_baseName (hmethod : o.method ∈ PathItem.methods)
    (hid : ∀ id ∈ o.operation.operationId, AsciiName id) (hpath : Spellable o.path.toList) :
    Spellable o.baseName.toList := by
  have hsegments : ∀ s ∈ PathTemplate.staticSegments o.path, Spellable s.toList :=
    fun s hs => hpath.mono (PathTemplate.subset_of_mem_staticSegments hs)
  rw [baseName, baseMethodName]
  split
  · rename_i id hfilter
    exact spellable_fieldIdentifier (hid id (Option.filter_eq_some_iff.mp hfilter).1).spellable
  · split
    · rename_i name hname
      exact spellable_of_defaultMethodName? hname
    · dsimp only
      split
      · exact spellable_methodNameOf hmethod fun s hs => hsegments s (List.mem_of_mem_drop hs)
      · exact spellable_methodNameOf hmethod hsegments

end ModuleOperation

/-- A number is written in digits. -/
theorem Text.spellable_toString (n : Nat) : Spellable (toString n).toList := by
  intro c hc _
  rw [Nat.toString_eq_ofList_toDigits, String.toList_ofList] at hc
  have hdigit := Nat.isDigit_of_mem_toDigits (by decide) (by decide) hc
  exact Letter.isIdentifierContinue_of_isAlphanum (by simp [Char.isAlphanum, hdigit])

/-- **A chosen name** begins as the base name does, and is spelled with the letters of that and of
the path. -/
theorem Chosen.asciiLed_and_spellable {used : List String} {base path name : String}
    (h : Chosen used base path name) (hmarked : WellMarked base)
    (hled : AsciiLed (plainIdentifier base).toList) :
    AsciiLed (plainIdentifier name).toList ∧
      beginsWithLetter (plainIdentifier name).toList =
        beginsWithLetter (plainIdentifier base).toList ∧
      (Spellable base.toList → Spellable path.toList → Spellable name.toList) := by
  -- What follows the base name stands behind an underscore.
  have hbehind : ∀ rest : String, AsciiLed (plainIdentifier base ++ "_" ++ rest).toList ∧
      beginsWithLetter (plainIdentifier base ++ "_" ++ rest).toList =
        beginsWithLetter (plainIdentifier base).toList ∧
      (Spellable base.toList → Spellable rest.toList →
        Spellable (plainIdentifier base ++ "_" ++ rest).toList) := by
    intro rest
    rw [String.toList_append, String.toList_append, List.append_assoc]
    obtain ⟨hled, hletter⟩ := hled.append ("_".toList ++ rest.toList)
    refine ⟨hled, hletter, fun hbase hrest => ?_⟩
    exact Text.spellable_append.mpr ⟨spellable_plainIdentifier hbase,
      Text.spellable_append.mpr ⟨Text.spellable_of_all (by decide), hrest⟩⟩
  cases h with
  | base => exact ⟨hled, rfl, fun hbase _ => hbase⟩
  | segment _ hname =>
      obtain ⟨last, hlast, rfl⟩ := Option.map_eq_some_iff.mp hname
      obtain ⟨hled, hletter, hspelled⟩ := hbehind last
      obtain ⟨hled, hsame⟩ := asciiLed_fieldIdentifier hled
      refine ⟨hled, hsame.trans hletter, fun hbase hpath => spellable_fieldIdentifier ?_⟩
      exact hspelled hbase (hpath.mono
        (PathTemplate.subset_of_mem_staticSegments (List.mem_of_getLast? hlast)))
  | @numbered n =>
      obtain ⟨hled, hletter, hspelled⟩ := hbehind (toString n)
      have hplain : plainIdentifier (numberedName base n) = numberedName base n := by
        refine plainIdentifier_of_unmarked ?_
        rw [numberedName, String.toList_append, String.toList_append, List.append_assoc]
        exact unmarked_append hmarked.unmarked_plainIdentifier _
      rw [hplain]
      exact ⟨hled, hletter, fun hbase _ => hspelled hbase (Text.spellable_toString n)⟩

/-! ### Given names -/

/-- The names that a document gives: those of its operations, its components and its error
codes. -/
def Document.givenNames (d : Document) : List String :=
  d.routes.filterMap (·.operation.operationId) ++ d.components.schemas.names ++
    (d.errorCodes ++ d.routes.flatMap (·.operation.errorCodes)).map (·.name)

/-- The names of components are given. -/
theorem Document.mem_givenNames_of_mem_names {d : Document} {name : String}
    (h : name ∈ d.components.schemas.names) : name ∈ d.givenNames :=
  List.mem_append_left _ (List.mem_append_right _ h)

namespace ApiModule

variable {d : Document} {name : String}

/-- The identifiers of a module's operations are given. -/
theorem operationId_mem_givenNames {o : ModuleOperation} (h : o ∈ (ofDocument d name).operations) :
    ∀ id ∈ o.operation.operationId, id ∈ d.givenNames := by
  obtain ⟨route, hroute, -, rfl⟩ := mem_operations_ofDocument.mp h
  intro id hid
  refine List.mem_append_left _ (List.mem_append_left _ ?_)
  exact List.mem_filterMap.mpr ⟨route, hroute, hid⟩

/-- The names of a module's error codes are given. -/
theorem name_mem_givenNames {e : ErrorCode} (h : e ∈ (ofDocument d name).declaredCodes) :
    e.name ∈ d.givenNames := by
  refine List.mem_append_right _ (List.mem_map_of_mem ?_)
  rcases List.mem_append.mp h with howner | hoperation
  · exact List.mem_append_left _ (List.mem_filter.mp howner).1
  · obtain ⟨o, ho, he⟩ := List.mem_flatMap.mp hoperation
    obtain ⟨route, hroute, -, rfl⟩ := mem_operations_ofDocument.mp ho
    exact List.mem_append_right _ (List.mem_flatMap.mpr ⟨route, hroute, he⟩)

end ApiModule

/-! ### Types of a view -/

namespace ModuleView

/-- The names of types in a view: those of its structs, and those of its error codes. -/
def typeNames (v : ModuleView) : List String :=
  v.declared.map (·.name) ++ v.errors.map (·.name)

/-- The endings of an operation's types. -/
def typeEndings : List String :=
  ["Request", "Response", "Item", "Data"]

/-- What a type is named after. -/
inductive TypeOrigin (d : Document) (v : ModuleView) : String → String → Prop
  /-- A type of an operation is named after its method. -/
  | operation {e : Endpoint} {ending : String} (he : e ∈ v.endpoints)
      (hending : ending ∈ typeEndings) : TypeOrigin d v e.testName (e.typePrefix ++ ending)
  /-- The struct of a component is named after it. -/
  | component {name : String} (hname : name ∈ d.components.schemas.names) :
      TypeOrigin d v name (pascalCase name)
  /-- The variant of an error code is named after it. -/
  | errorCode {name : String} (hname : name ∈ d.givenNames) : TypeOrigin d v name (pascalCase name)
  /-- A common error code has a name of its own. -/
  | common {variant : ErrorVariant} (hvariant : variant ∈ ErrorVariant.common) :
      TypeOrigin d v variant.name variant.name

variable {name package : String} {r : Resolver} {v : ModuleView}

/-- A struct that an operation answers with is named after the operation or a component. -/
theorem exists_typeOrigin_of_mem_recordTypes {e : Endpoint} (he : e ∈ v.endpoints)
    (hnamed : Model.RecordNamed r.document.components.schemas.names e) {type : String}
    (h : type ∈ e.recordTypes) : ∃ source, TypeOrigin r.document v source type := by
  rw [Endpoint.recordTypes] at h
  cases hresponse : e.response with
  | none =>
      rw [hresponse] at h
      cases h
  | some shape =>
      have hrecord : ∃ source, TypeOrigin r.document v source shape.typeName := by
        have hname := hnamed shape hresponse
        generalize shape.typeName = type at hname
        cases hname with
        | component hname => exact ⟨_, .component hname⟩
        | item => exact ⟨_, .operation he (by decide)⟩
        | data => exact ⟨_, .operation he (by decide)⟩
      rw [hresponse] at h
      dsimp only at h
      split at h
      · rename_i hpaginated
        rcases List.mem_cons.mp h with rfl | h
        · exact hrecord
        · have hpage : e.responseType = e.typePrefix ++ "Response" := by
            rw [Endpoint.responseType, hresponse]
            simp only [hpaginated, if_true]
          rw [List.mem_singleton.mp h, hpage]
          exact ⟨_, .operation he (by decide)⟩
      · rw [List.mem_singleton.mp h]
        exact hrecord

/-- **Every type is named after something.** -/
theorem exists_typeOrigin (h : build (.ofDocument r.document name) package r = .ok v) :
    ∀ type ∈ v.typeNames, ∃ source, TypeOrigin r.document v source type := by
  intro type htype
  rcases List.mem_append.mp htype with hstruct | hcode
  · obtain ⟨models, hendpoints, hmodels, -, hdeclares⟩ := exists_models_of_build h
    have hnamed := Resolver.recordNamed_of_endpointsFrom hendpoints
    rcases (hdeclares type).mp (List.mem_map.mp hstruct) with hrequest | hmodel
    · obtain ⟨e, he, rfl⟩ := List.mem_map.mp hrequest
      exact ⟨_, .operation (List.mem_filter.mp he).1 (by decide)⟩
    · obtain ⟨m, hm, rfl⟩ := List.mem_map.mp hmodel
      rcases Resolver.exists_source_of_mem_models hnamed hmodels m hm with
        ⟨e, he, hrecord⟩ | ⟨component, hstruct⟩
      · exact exists_typeOrigin_of_mem_recordTypes he (hnamed e he) hrecord
      · rw [hstruct.name_eq]
        exact ⟨_, .component hstruct.mem_names⟩
  · obtain ⟨variant, hvariant, rfl⟩ := List.mem_map.mp hcode
    rcases (mem_errors_iff h).mp hvariant with ⟨e, he, rfl⟩ | ⟨-, hcommon⟩
    · have hgiven := ApiModule.name_mem_givenNames (ErrorVariant.counted_subset _ _ he)
      exact ⟨_, .errorCode hgiven⟩
    · exact ⟨_, .common hcommon⟩

/-- **What the method of an operation is named like**: it begins as the identifier of the operation
does, and any other letters come from its path. -/
theorem asciiLed_testName {d : Document} (hnames : ∀ given ∈ d.givenNames, AsciiName given)
    {o : ModuleOperation} (ho : o ∈ (ApiModule.ofDocument d name).operations) {e : Endpoint}
    (h : e.Presents o) : AsciiLed e.testName.toList ∧
      beginsWithLetter e.testName.toList =
        (o.operation.operationId.all fun id => beginsWithLetter id.toList) ∧
      (Spellable o.path.toList → Spellable e.testName.toList) := by
  have hmethod := ApiModule.method_mem_of_mem_ofDocument ho
  have hid : ∀ id ∈ o.operation.operationId, AsciiName id := fun id hid =>
    hnames id (ApiModule.operationId_mem_givenNames ho id hid)
  obtain ⟨hled, hletter⟩ := o.asciiLed_baseName hmethod hid
  have hmarked := (baseName_baseMethodName hmethod o.path o.operation).wellMarked
  obtain ⟨used, hchosen⟩ := h.chosen
  obtain ⟨hled, hsame, hspelled⟩ := hchosen.asciiLed_and_spellable hmarked hled
  refine ⟨hled, hsame.trans hletter, fun hpath => ?_⟩
  exact spellable_plainIdentifier (hspelled (o.spellable_baseName hmethod hid hpath) hpath)

/-- The names of the common error codes are identifiers. -/
theorem isIdentifier_of_mem_common {variant : ErrorVariant} (h : variant ∈ ErrorVariant.common) :
    isIdentifier variant.name = true ∧ beginsWithLetter variant.name.toList = true ∧
      Spellable variant.name.toList := by
  have hall : (ErrorVariant.common.all fun variant => isIdentifier variant.name
      && (beginsWithLetter variant.name.toList
        && variant.name.toList.all Text.Letter.isAscii)) = true := by
    decide
  have hvariant := List.all_eq_true.mp hall variant h
  rw [Bool.and_eq_true, Bool.and_eq_true] at hvariant
  exact ⟨hvariant.1, hvariant.2.1, Text.spellable_of_all hvariant.2.2⟩

/-- **When the name of a type is an identifier**, by what it is named after. -/
theorem TypeOrigin.isIdentifier_iff (h : build (.ofDocument r.document name) package r = .ok v)
    (hnames : ∀ given ∈ r.document.givenNames, AsciiName given) {source type : String}
    (horigin : TypeOrigin r.document v source type) :
    isIdentifier type = true ↔
      beginsWithLetter source.toList = true ∧ Spellable source.toList := by
  have hgiven : ∀ {given}, given ∈ r.document.givenNames → (isIdentifier (pascalCase given) = true ↔
      beginsWithLetter given.toList = true ∧ Spellable given.toList) := by
    intro given hmem
    have hempty : "".toList.all Char.isAlphanum = true := rfl
    have hplain := isIdentifier_pascal_iff (hnames given hmem).asciiLed hempty
    rwa [String.append_empty] at hplain
  cases horigin with
  | @operation e ending he hending =>
      obtain ⟨o, ho, hpresents⟩ := exists_presents h he
      have hletters : (typeEndings.all fun ending => ending.toList.all Char.isAlphanum) = true := by
        decide
      exact isIdentifier_pascal_iff (asciiLed_testName hnames ho hpresents).1
        (List.all_eq_true.mp hletters ending hending)
  | component hname => exact hgiven (Document.mem_givenNames_of_mem_names hname)
  | errorCode hname => exact hgiven hname
  | common hvariant =>
      obtain ⟨hident, hboth⟩ := isIdentifier_of_mem_common hvariant
      exact iff_of_true hident hboth

/-- **Which names of types are identifiers**, where operations, components and error codes have
names in ASCII. Each is named after the method of an operation, or after a component or error code,
and is an identifier exactly if that begins with a letter and has none that no identifier may have.
A method begins as the identifier of its operation does, and any letters past ASCII are those of its
path. So all names are identifiers if those that are given begin with a letter, and no path has a
letter that no identifier may have. -/
theorem isIdentifier_typeNames_iff (h : build (.ofDocument r.document name) package r = .ok v)
    (hnames : ∀ given ∈ r.document.givenNames, AsciiName given) :
    (∀ type ∈ v.typeNames, ∃ source, TypeOrigin r.document v source type) ∧
      (∀ source type, TypeOrigin r.document v source type →
        (isIdentifier type = true ↔
          beginsWithLetter source.toList = true ∧ Spellable source.toList)) ∧
      List.Forall₂ (fun o e =>
        beginsWithLetter e.testName.toList =
            (o.operation.operationId.all fun id => beginsWithLetter id.toList) ∧
          (Spellable o.path.toList → Spellable e.testName.toList))
        (ApiModule.ofDocument r.document name).operations v.endpoints ∧
      ((∀ given ∈ r.document.givenNames, beginsWithLetter given.toList = true) →
        (∀ o ∈ (ApiModule.ofDocument r.document name).operations, Spellable o.path.toList) →
          ∀ type ∈ v.typeNames, isIdentifier type = true) := by
  have horigins := exists_typeOrigin h
  have hidents := fun source type => @TypeOrigin.isIdentifier_iff _ _ _ _ h hnames source type
  refine ⟨horigins, hidents, ?_, fun hletters hpaths type htype => ?_⟩
  · have hall := (List.forall₂_and_left _ _).mpr ⟨fun o ho => ho, forall₂_presents h⟩
    exact hall.imp fun o e hboth => (asciiLed_testName hnames hboth.1 hboth.2).2
  · obtain ⟨source, horigin⟩ := horigins type htype
    refine (hidents source type horigin).mpr ?_
    cases horigin with
    | @operation e _ he _ =>
        obtain ⟨o, ho, hpresents⟩ := exists_presents h he
        obtain ⟨-, hletter, hspelled⟩ := asciiLed_testName hnames ho hpresents
        refine ⟨hletter.trans ?_, hspelled (hpaths o ho)⟩
        have hids := ApiModule.operationId_mem_givenNames ho
        cases hid : o.operation.operationId with
        | none => rfl
        | some id => exact hletters id (hids id hid)
    | component hname =>
        have hmem := Document.mem_givenNames_of_mem_names hname
        exact ⟨hletters _ hmem, (hnames _ hmem).spellable⟩
    | errorCode hname => exact ⟨hletters _ hname, (hnames _ hname).spellable⟩
    | common hvariant => exact (isIdentifier_of_mem_common hvariant).2

/-- A document of one search for books, with a request, a response that is a component, and an
error code. -/
def oneSearch (operation component code : String) : Document where
  paths := [("/books/search", { get := some {
    tags := ["book"]
    operationId := some operation
    parameters := [.item { name := "page", schema := some (.ofType "integer") }]
    responses := [("200", .item { content := [("application/json",
      { schema := some (.ofReference ("#/components/schemas/" ++ component)) })] })]
    errorCodes := [{ code := 40402, name := code }] } })]
  components := { schemas := [(component,
    { type := some (.single "object"), properties := [("title", .ofType "string")] })] }

/-- The types of a search are identifiers where all its names begin with a letter. -/
theorem isIdentifier_typeNames_search :
    ∃ v, build (.ofDocument (oneSearch "search2" "book" "no_book") "book") "shop"
        { document := oneSearch "search2" "book" "no_book" } = .ok v ∧
      v.typeNames = ["Search2Request", "Book", "NoBook"] ∧
        ∀ type ∈ v.typeNames, isIdentifier type = true := by
  let d := oneSearch "search2" "book" "no_book"
  have hview : ((build (.ofDocument d "book") "shop" { document := d }).toOption.map
      typeNames) = some ["Search2Request", "Book", "NoBook"] := by
    decide +kernel
  obtain ⟨v, hv, htypes⟩ := Outcome.exists_of_map_toOption hview
  have hnames : ∀ given ∈ d.givenNames, AsciiName given := by decide
  obtain ⟨-, -, -, hall⟩ := isIdentifier_typeNames_iff (r := { document := d }) hv hnames
  refine ⟨v, hv, htypes, hall (by decide) fun o ho => ?_⟩
  have hpath : o.path = "/books/search" := by
    have hpaths : (ApiModule.ofDocument d "book").operations.map (·.path) = ["/books/search"] := by
      decide
    exact List.mem_singleton.mp (hpaths ▸ List.mem_map_of_mem ho)
  rw [hpath]
  exact Text.spellable_of_all (by decide)

/-- The request struct of an operation `2fa` has no identifier for a name, nor has the struct of a
component `3DModel` or the variant of an error code `404NotFound`. -/
theorem not_forall_isIdentifier_typeNames :
    (¬ ∀ (r : Resolver) (name package : String) (v : ModuleView),
      (∀ given ∈ r.document.givenNames, AsciiName given) →
        build (.ofDocument r.document name) package r = .ok v →
          ∀ s ∈ v.requests, isIdentifier s.name = true) ∧
    (¬ ∀ (r : Resolver) (name package : String) (v : ModuleView),
      (∀ given ∈ r.document.givenNames, AsciiName given) →
        build (.ofDocument r.document name) package r = .ok v →
          ∀ s ∈ v.models, isIdentifier s.name = true) ∧
    ¬ ∀ (r : Resolver) (name package : String) (v : ModuleView),
      (∀ given ∈ r.document.givenNames, AsciiName given) →
        build (.ofDocument r.document name) package r = .ok v →
          ∀ variant ∈ v.errors, isIdentifier variant.name = true := by
  let d := oneSearch "2fa" "3DModel" "404NotFound"
  have hview : ((build (.ofDocument d "book") "shop" { document := d }).toOption.map fun v =>
      (v.requests.map (·.name), v.models.map (·.name), v.errors.map (·.name))) =
        some (["2faRequest"], ["3dModel"], ["404notFound"]) := by
    decide +kernel
  obtain ⟨v, hv, htypes⟩ := Outcome.exists_of_map_toOption hview
  rw [Prod.mk.injEq, Prod.mk.injEq] at htypes
  obtain ⟨hrequests, hmodels, herrors⟩ := htypes
  have hnames : ∀ given ∈ d.givenNames, AsciiName given := by decide
  refine ⟨fun hall => ?_, fun hall => ?_, fun hall => ?_⟩
  · have hidents := hall { document := d } "book" "shop" v hnames hv
    rw [← List.forall_mem_map (P := fun type => isIdentifier type = true), hrequests] at hidents
    exact absurd (hidents _ List.mem_cons_self) (by decide)
  · have hidents := hall { document := d } "book" "shop" v hnames hv
    rw [← List.forall_mem_map (P := fun type => isIdentifier type = true), hmodels] at hidents
    exact absurd (hidents _ List.mem_cons_self) (by decide)
  · have hidents := hall { document := d } "book" "shop" v hnames hv
    rw [← List.forall_mem_map (P := fun type => isIdentifier type = true), herrors] at hidents
    exact absurd (hidents _ List.mem_cons_self) (by decide)

end ModuleView

end ServiceGen
