import ServiceGen.Proofs.MethodNames
import ServiceGen.Proofs.Strictness

/-!
# Functions of the Generated Code

The generated files declare a function for each operation: a method of the business logic, a
handler, and tests. The method names of a module are distinct, and they are well-marked, so they
stay distinct without the raw mark. But the business logic has a constructor, too, and the names
in use do not hold its name.

## Main results

* `nodup_handlerNames`: **handlers and tests have distinct names**, and the search for a free
  number ends.
* `nodup_logicFunctions_iff`: the functions of the business logic have distinct names exactly if
  no operation has an identifier that is the word `new`.
* `not_forall_nodup_logicFunctions`: they have not where an operation has it.
-/

namespace ServiceGen

namespace Text

/-! ### Words of identifiers -/

/-- Where a snake-case form is one word, what stands behind a first word adds nothing. -/
theorem snake_of_snake_append {before rest form : List Char}
    (h : snake (before ++ '_' :: rest) = form) (hform : '_' ∉ form) (hne : nameWords before ≠ []) :
    snake before = form := by
  have hwords : nameWords (before ++ '_' :: rest) = nameWords before ++ nameWords rest :=
    nameWords_append_sep (by decide) before rest
  have hrest : nameWords rest = [] := by
    have hlength := length_le_one_of_not_mem_join (h ▸ hform : '_' ∉ snake (before ++ '_' :: rest))
    rw [hwords, List.length_map, List.length_append] at hlength
    have hpos := List.length_pos_iff.mpr hne
    exact List.length_eq_zero_iff.mp (by omega)
  rw [← h, snake, snake, hwords, hrest, List.append_nil]

/-- A snake-case form that is not empty has a letter or number in it. -/
theorem exists_isWord_of_snake_ne_nil {cs : List Char} (h : snake cs ≠ []) :
    ∃ c ∈ snake cs, Letter.isWord c = true := by
  obtain ⟨word, hword⟩ : ∃ word, word ∈ nameWords cs := by
    refine List.exists_mem_of_ne_nil _ fun hnil => h ?_
    rw [snake, hnil]
    rfl
  obtain ⟨d, hd⟩ := List.exists_mem_of_ne_nil _ (ne_nil_of_mem_nameWords hword)
  have hmem : ∀ c ∈ lowerWord word, c ∈ snake cs :=
    fun c hc => mem_join_of_mem (List.mem_map_of_mem hword) hc
  rcases toLower_subset_lowerWord hd with hsubset | ⟨-, hsigma⟩
  · obtain ⟨c, hc⟩ := List.exists_mem_of_ne_nil _ (Letter.toLower_ne_nil d)
    rcases Letter.isWord_of_mem_toLower (of_mem_nameWords hword hd).2 hc with hisWord | hi
    · exact ⟨c, hmem c (hsubset hc), hisWord⟩
    · exact ⟨'i', hmem 'i' (hsubset hi), by decide⟩
  · exact ⟨'ς', hmem 'ς' hsigma, by decide⟩

/-- A blank name has no words. -/
theorem nameWords_of_blank {cs : List Char} (h : isBlankText cs = true) : nameWords cs = [] := by
  by_contra hne
  obtain ⟨word, hword⟩ := List.exists_mem_of_ne_nil _ hne
  obtain ⟨c, hc⟩ := List.exists_mem_of_ne_nil _ (ne_nil_of_mem_nameWords hword)
  obtain ⟨hmem, hletter⟩ := of_mem_nameWords hword hc
  rw [Letter.isWord_eq_false_of_isBlank (List.all_eq_true.mp h c hmem)] at hletter
  cases hletter

end Text

/-- The form of an identifier has a word. -/
theorem nameWords_identifierForm_ne_nil (name : String) :
    Text.nameWords (identifierForm name) ≠ [] := by
  rw [identifierForm]
  split
  · decide
  · rename_i hne
    obtain ⟨c, hc, hword⟩ := Text.exists_isWord_of_snake_ne_nil hne
    exact Text.nameWords_ne_nil hc hword

/-- A repair changes no words. -/
theorem nameWords_plainIdentifier_repairIdentifier {form : List Char} (h : IsForm form) :
    Text.nameWords (plainIdentifier (repairIdentifier form)).toList = Text.nameWords form := by
  have hguard : Text.nameWords (guardDigit form) = Text.nameWords form := by
    rcases guardDigit_eq form with heq | heq
    · rw [heq]
    · rw [heq]
      exact Text.nameWords_append_sep (by decide) [] form
  rcases h.toList_plainIdentifier_repairIdentifier with heq | heq
  · rw [heq, hguard]
  · rw [heq, Text.nameWords_append_sep (by decide), hguard]
    exact List.append_nil _

/-! ### The constructor -/

/-- The name of the constructor. -/
def constructorName : String := "new"

theorem identifierForm_constructorName :
    identifierForm constructorName = constructorName.toList := by
  decide

theorem fieldIdentifier_constructorName : fieldIdentifier constructorName = constructorName := by
  decide

/-- The identifier of a name is that of the constructor exactly if its snake-case form is. -/
theorem fieldIdentifier_eq_constructorName_iff {name : String} :
    fieldIdentifier name = constructorName ↔ snakeCase name = constructorName := by
  rw [← fieldIdentifier_constructorName, fieldIdentifier_eq_iff, identifierForm_constructorName,
    fieldIdentifier_constructorName, snakeCase, identifierForm]
  split
  · rename_i hnil
    rw [hnil]
    decide
  · rw [← String.toList_inj, String.toList_ofList]

/-- No word of a role or method is the constructor's. -/
theorem snake_ne_of_mem_roleWords {word : String} (h : word ∈ roleWords) :
    Text.nameWords word.toList ≠ [] ∧ Text.snake word.toList ≠ constructorName.toList := by
  have hall : (roleWords.all fun word => !(Text.nameWords word.toList).isEmpty
      && Text.snake word.toList != constructorName.toList) = true := by
    decide
  have hword := List.all_eq_true.mp hall word h
  simpa using hword

/-- The words of a base name that begins with a role or method, and then those that follow. -/
theorem toList_plainIdentifier_role {word : String} (h : word ∈ roleWords) (rest : String) :
    (plainIdentifier (word ++ "_" ++ rest)).toList = word.toList ++ '_' :: rest.toList := by
  have hlist : (word ++ "_" ++ rest).toList = word.toList ++ '_' :: rest.toList := by
    rw [String.toList_append, String.toList_append, List.append_assoc]
    rfl
  rw [plainIdentifier_of_unmarked, hlist]
  rw [hlist]
  exact unmarked_append (roleWords_check h).1 _

namespace BaseName

variable {op : Operation} {base : String}

/-- The base of a method name has words. -/
theorem nameWords_ne_nil (h : BaseName op base) :
    Text.nameWords (plainIdentifier base).toList ≠ [] := by
  cases h with
  | @identifier id _ =>
      rw [fieldIdentifier_eq, nameWords_plainIdentifier_repairIdentifier (isForm_identifierForm id)]
      exact nameWords_identifierForm_ne_nil id
  | role hword =>
      rw [plainIdentifier_of_unmarked (roleWords_check hword).1]
      exact (snake_ne_of_mem_roleWords hword).1
  | roleWith hword rest =>
      rw [toList_plainIdentifier_role hword, Text.nameWords_append_sep (by decide)]
      exact List.append_ne_nil_of_left_ne_nil (snake_ne_of_mem_roleWords hword).1 _

/-- **A base name that reads as the constructor's name** is that of the operation's identifier. -/
theorem exists_operationId (h : BaseName op base)
    (hsnake : Text.snake (plainIdentifier base).toList = constructorName.toList) :
    ∃ id, op.operationId = some id ∧ snakeCase id = constructorName := by
  cases h with
  | @identifier id hid =>
      refine ⟨id, hid, ?_⟩
      have hform : Text.snake (identifierForm id) = constructorName.toList := by
        rw [← hsnake, Text.snake, Text.snake, fieldIdentifier_eq,
          nameWords_plainIdentifier_repairIdentifier (isForm_identifierForm id)]
      rw [identifierForm] at hform
      split at hform
      · exact absurd hform (by decide)
      · have hascii : constructorName.toList.all Text.Letter.isAscii = true := by decide
        rw [snakeCase, Text.snake_eq_of_snake_snake hform (by decide)
          (List.all_eq_true.mp hascii) (by decide) (by decide), String.ofList_toList]
  | role hword =>
      rw [plainIdentifier_of_unmarked (roleWords_check hword).1] at hsnake
      exact absurd hsnake (snake_ne_of_mem_roleWords hword).2
  | roleWith hword rest =>
      rw [toList_plainIdentifier_role hword] at hsnake
      have hfirst := Text.snake_of_snake_append hsnake (by decide)
        (snake_ne_of_mem_roleWords hword).1
      exact absurd hfirst (snake_ne_of_mem_roleWords hword).2

end BaseName

/-- **The constructor's name is chosen** only for a base name that reads as it. -/
theorem Chosen.snake_base {used : List String} {op : Operation} {base path name : String}
    (hbase : BaseName op base) (h : Chosen used base path name) (hname : name = constructorName) :
    Text.snake (plainIdentifier base).toList = constructorName.toList := by
  cases h with
  | base =>
      rw [hname]
      decide
  | segment _ hsegment =>
      obtain ⟨last, -, hlast⟩ := Option.map_eq_some_iff.mp hsegment
      rw [hname, fieldIdentifier_eq_constructorName_iff, snakeCase, ← String.toList_inj,
        String.toList_ofList, String.toList_append, String.toList_append,
        List.append_assoc] at hlast
      exact Text.snake_of_snake_append hlast (by decide) hbase.nameWords_ne_nil
  | @numbered n =>
      have hmark := underscore_mem_numberedName base n
      rw [hname] at hmark
      exact absurd hmark (by decide)

/-- An operation whose identifier is the constructor's name has it as its base name. -/
theorem ModuleOperation.baseName_eq_constructorName {o : ModuleOperation} {id : String}
    (hid : o.operation.operationId = some id) (h : snakeCase id = constructorName) :
    o.baseName = constructorName := by
  have hblank : Text.isBlankText id.toList = false := by
    rw [← Bool.not_eq_true]
    intro hblank
    rw [snakeCase, Text.snake, Text.nameWords_of_blank hblank] at h
    exact absurd h (by decide)
  rw [baseName, baseMethodName_of_operationId hid hblank]
  exact fieldIdentifier_eq_constructorName_iff.mpr h

/-- **The constructor's name is a method name** exactly where it is the identifier of an
operation. -/
theorem constructorName_mem_methodNames_iff {operations : List ModuleOperation}
    (h : ∀ o ∈ operations, o.method ∈ PathItem.methods) :
    constructorName ∈ methodNames [] operations ↔
      ∃ o ∈ operations, ∃ id, o.operation.operationId = some id ∧
        snakeCase id = constructorName := by
  constructor
  · intro hmem
    obtain ⟨o, ho, before, hchosen⟩ := exists_chosen_of_mem_methodNames hmem
    have hbase : BaseName o.operation o.baseName :=
      baseName_baseMethodName (h o ho) o.path o.operation
    exact ⟨o, ho, hbase.exists_operationId (hchosen.snake_base hbase rfl)⟩
  · rintro ⟨o, ho, id, hid, hsnake⟩
    rw [← o.baseName_eq_constructorName hid hsnake]
    exact (baseName_mem_methodNames ho).resolve_right List.not_mem_nil

/-! ### Functions of a view -/

/-- The functions of the business logic: its constructor, and one for each operation. -/
def ModuleView.logicFunctions (v : ModuleView) : List String :=
  constructorName :: v.endpoints.map (·.methodName)

namespace ModuleView

variable {d : Document} {name package : String} {r : Resolver} {v : ModuleView}

/-- The method names of a view are those of a run over the operations of its module. -/
theorem map_methodName_of_build {m : ApiModule} (h : build m package r = .ok v) :
    v.endpoints.map (·.methodName) = methodNames [] m.operations := by
  obtain ⟨endpoints, hendpoints, h⟩ := Outcome.bind_eq_ok.mp h
  obtain ⟨models, -, h⟩ := Outcome.bind_eq_ok.mp h
  cases h
  exact Resolver.map_methodName_of_endpointsFrom hendpoints

/-- The tests of a module have different names. -/
theorem nodup_map_testName (h : build (.ofDocument d name) package r = .ok v) :
    (v.endpoints.map (·.testName)).Nodup := by
  have hnames := map_methodName_of_build h
  have htests : v.endpoints.map (·.testName) =
      (v.endpoints.map (·.methodName)).map plainIdentifier := by
    rw [List.map_map]
    rfl
  rw [htests, hnames]
  refine nodup_methodNames.1.map_on fun a ha b hb heq => ?_
  have hmarked : ∀ other ∈ methodNames [] (ApiModule.ofDocument d name).operations,
      WellMarked other := fun other hother =>
    wellMarked_of_mem_methodNames (fun o ho => (baseName_baseMethodName
      (ApiModule.method_mem_of_mem_ofDocument ho) o.path o.operation).wellMarked) hother
  exact (hmarked a ha).eq_of_plainIdentifier (hmarked b hb) heq

/-- **Handlers and tests have distinct names**, though these leave out the raw mark of the method
names. And the search for a free number always ends: there is a least one, at most two past the
number of names in use, and it is taken where the base name and the one with a segment of the
path are in use. -/
theorem nodup_handlerNames (h : build (.ofDocument d name) package r = .ok v) :
    (v.endpoints.map (·.handlerName)).Nodup ∧ (v.endpoints.map (·.testName)).Nodup ∧
      ∀ (base path : String) (used : List String), ∃ n ≤ used.length + 2,
        IsLeast {n | 2 ≤ n ∧ numberedName base n ∉ used} n ∧
          (base ∈ used → (∀ taken ∈ segmentName? base path, taken ∈ used) →
            uniqueName base path used = numberedName base n) := by
  have htests := nodup_map_testName h
  refine ⟨?_, htests, fun base path used => ?_⟩
  · have hhandlers : v.endpoints.map (·.handlerName) =
        (v.endpoints.map (·.testName)).map (· ++ "_handler") := by
      rw [List.map_map]
      rfl
    rw [hhandlers]
    exact htests.map (Text.injective_append "_handler")
  · obtain ⟨n, hbound, hleast⟩ := exists_isLeast_numberedName base used
    exact ⟨n, hbound, hleast, (chosen_uniqueName base path used).eq_numberedName hleast⟩

/-- Three operations of books: two that read a list, and one whose identifier is a reserved
word. -/
def reservedOperation : Document where
  paths := [
    ("/books", { get := some { tags := ["book"] } }),
    ("/books/archived", { get := some { tags := ["book"] } }),
    ("/books/{id}", { get := some { tags := ["book"], operationId := some "type" } })]

/-- Their method names are apart with and without the raw mark. -/
theorem nodup_handlerNames_reserved :
    ∃ v, build (.ofDocument reservedOperation "book") "shop" { document := reservedOperation } =
        .ok v ∧ v.endpoints.map (·.methodName) = ["list", "list_archived", "r#type"] ∧
      (v.endpoints.map (·.handlerName)).Nodup ∧ (v.endpoints.map (·.testName)).Nodup ∧
        ∀ (base path : String) (used : List String), ∃ n ≤ used.length + 2,
          IsLeast {n | 2 ≤ n ∧ numberedName base n ∉ used} n ∧
            (base ∈ used → (∀ taken ∈ segmentName? base path, taken ∈ used) →
              uniqueName base path used = numberedName base n) := by
  obtain ⟨v, hv⟩ := Resolver.exists_build_eq_ok (r := { document := reservedOperation }) rfl
    (.ofDocument reservedOperation "book") "shop"
  have hnames : methodNames [] (ApiModule.ofDocument reservedOperation "book").operations =
      ["list", "list_archived", "r#type"] := by
    decide
  exact ⟨v, hv, (map_methodName_of_build hv).trans hnames, nodup_handlerNames hv⟩

/-- **When the functions of the business logic have distinct names.** Those of the operations
always have, and the constructor has another name exactly if no operation has an identifier whose
snake-case form is the constructor's name. -/
theorem nodup_logicFunctions_iff (h : build (.ofDocument d name) package r = .ok v) :
    (v.endpoints.map (·.methodName)).Nodup ∧
      (v.logicFunctions.Nodup ↔ ∀ o ∈ (ApiModule.ofDocument d name).operations,
        ∀ id, o.operation.operationId = some id → snakeCase id ≠ constructorName) := by
  have hnodup : (v.endpoints.map (·.methodName)).Nodup := by
    rw [map_methodName_of_build h]
    exact nodup_methodNames.1
  have hnames := constructorName_mem_methodNames_iff fun o =>
    @ApiModule.method_mem_of_mem_ofDocument d name o
  refine ⟨hnodup, ?_⟩
  rw [logicFunctions, List.nodup_cons, map_methodName_of_build h, hnames]
  constructor
  · intro hnone o ho id hid hsnake
    exact hnone.1 ⟨o, ho, id, hid, hsnake⟩
  · intro hall
    refine ⟨?_, nodup_methodNames.1⟩
    rintro ⟨o, ho, id, hid, hsnake⟩
    exact hall o ho id hid hsnake

/-- A document of one operation of books with an identifier. -/
def identified (id : String) : Document where
  paths := [("/books", { post := some { tags := ["book"], operationId := some id } })]

/-- The identifier `renew` is apart from the constructor. -/
theorem nodup_logicFunctions_iff_renew :
    ∃ v, build (.ofDocument (identified "renew") "book") "shop" { document := identified "renew" } =
        .ok v ∧ v.logicFunctions = [constructorName, "renew"] ∧ v.logicFunctions.Nodup := by
  obtain ⟨v, hv⟩ := Resolver.exists_build_eq_ok (r := { document := identified "renew" }) rfl
    (.ofDocument (identified "renew") "book") "shop"
  have hnames : methodNames [] (ApiModule.ofDocument (identified "renew") "book").operations =
      ["renew"] := by
    decide
  have hids : (ApiModule.ofDocument (identified "renew") "book").operations.map
      (·.operation.operationId) = [some "renew"] := by
    decide
  refine ⟨v, hv, ?_, (nodup_logicFunctions_iff hv).2.mpr fun o ho id hid => ?_⟩
  · rw [logicFunctions, map_methodName_of_build hv, hnames]
  · have hmem : some id ∈ [some "renew"] := by
      rw [← hids, ← hid]
      exact List.mem_map_of_mem ho
    rw [Option.some.inj (List.mem_singleton.mp hmem)]
    decide

/-- The identifier `new` gives the business logic two functions of that name. -/
theorem not_forall_nodup_logicFunctions : ¬ ∀ (d : Document) (name package : String) (r : Resolver)
    (v : ModuleView), build (.ofDocument d name) package r = .ok v → v.logicFunctions.Nodup := by
  intro hall
  obtain ⟨v, hv⟩ := Resolver.exists_build_eq_ok (r := { document := identified "new" }) rfl
    (.ofDocument (identified "new") "book") "shop"
  have hnames : methodNames [] (ApiModule.ofDocument (identified "new") "book").operations =
      [constructorName] := by
    decide
  have hnodup := hall _ _ _ _ v hv
  rw [logicFunctions, map_methodName_of_build hv, hnames] at hnodup
  exact (List.nodup_cons.mp hnodup).1 (List.mem_singleton_self _)

end ModuleView

end ServiceGen
