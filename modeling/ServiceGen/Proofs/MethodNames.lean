import ServiceGen.Analysis.Endpoint
import ServiceGen.Proofs.Identifiers
import ServiceGen.Proofs.Models
import ServiceGen.Proofs.PrimaryModules

/-!
# Method Names of a Module

The operations of a module get their method names one after the other. Each has a base name of
its own (`BaseName`), and takes the first of three that is not in use yet (`Chosen`): the base
name, the base name with the last static segment of its path, or the base name with the least
free number from two on. There always is a free number, because the names in use are finitely
many and no two numbers give the same name (`exists_isLeast_numberedName`).

So a step takes a name that is not in use (`Chosen.not_mem`), and a run over the operations gives
each its own (`nodup_methodNames`). And a step keeps names well-marked (`Chosen.wellMarked`), from
which all names of a run are (`wellMarked_of_mem_methodNames`).
-/

namespace ServiceGen

/-! ### Numbers behind names -/

/-- A base name with a number behind it. -/
def numberedName (base : String) (n : Nat) : String :=
  plainIdentifier base ++ "_" ++ toString n

/-- Different numbers give different names. -/
theorem numberedName_injective (base : String) : Function.Injective (numberedName base) := by
  intro i j h
  have hdigits : (toString i).toList = (toString j).toList := by
    have hlist := congrArg String.toList h
    simp only [numberedName, String.toList_append] at hlist
    exact List.append_cancel_left hlist
  have hvalue := congrArg (fun digits => Nat.ofDigitChars 10 digits 0) hdigits
  simpa [Nat.toString_eq_ofList_toDigits] using hvalue

/-- A numbered name holds an underscore. -/
theorem underscore_mem_numberedName (base : String) (n : Nat) :
    '_' ∈ (numberedName base n).toList := by
  rw [numberedName, String.toList_append, String.toList_append]
  exact List.mem_append_left _ (List.mem_append_right _ (List.mem_singleton_self _))

/-- Among one number more than there are names in use, one is free. -/
theorem exists_numberedName_not_mem (base : String) (used : List String) :
    ∃ n < used.length + 1, numberedName base (n + 2) ∉ used := by
  by_contra hall
  push Not at hall
  have hsubset :
      (List.range (used.length + 1)).map (fun n => numberedName base (n + 2)) ⊆ used := by
    intro name hname
    obtain ⟨n, hn, rfl⟩ := List.mem_map.mp hname
    exact hall n (List.mem_range.mp hn)
  have hnodup : ((List.range (used.length + 1)).map fun n => numberedName base (n + 2)).Nodup := by
    refine List.nodup_range.map fun i j h => ?_
    have hsum := numberedName_injective base h
    omega
  have hlength := (hnodup.subperm hsubset).length_le
  rw [List.length_map, List.length_range] at hlength
  omega

/-- **The search for a free number ends**: there is a least one, at most two past the number of
names in use. -/
theorem exists_isLeast_numberedName (base : String) (used : List String) :
    ∃ n ≤ used.length + 2, IsLeast {n | 2 ≤ n ∧ numberedName base n ∉ used} n := by
  have hfree : ∃ n, numberedName base (n + 2) ∉ used := by
    obtain ⟨n, -, hn⟩ := exists_numberedName_not_mem base used
    exact ⟨n, hn⟩
  refine ⟨Nat.find hfree + 2, ?_, ⟨Nat.le_add_left 2 _, Nat.find_spec hfree⟩, ?_⟩
  · obtain ⟨n, hn, hnot⟩ := exists_numberedName_not_mem base used
    have hmin := Nat.find_min' hfree hnot
    omega
  · rintro k ⟨hk, hnot⟩
    have hmin : Nat.find hfree ≤ k - 2 := by
      refine Nat.find_min' hfree ?_
      rwa [Nat.sub_add_cancel hk]
    omega

/-! ### One name -/

/-- A base name with the last static segment of a path behind it, if the path has one. -/
def segmentName? (base path : String) : Option String :=
  (PathTemplate.staticSegments path).getLast?.map fun last =>
    fieldIdentifier (plainIdentifier base ++ "_" ++ last)

/-- How a name is chosen, given the names that are in use. -/
inductive Chosen (used : List String) (base path : String) : String → Prop
  /-- The base name. -/
  | base (hfree : base ∉ used) : Chosen used base path base
  /-- The base name with a segment of the path. -/
  | segment {name : String} (hused : base ∈ used) (hname : segmentName? base path = some name)
      (hfree : name ∉ used) : Chosen used base path name
  /-- The base name with the least free number. -/
  | numbered {n : Nat} (hused : base ∈ used)
      (hsegment : ∀ name ∈ segmentName? base path, name ∈ used)
      (hleast : IsLeast {n | 2 ≤ n ∧ numberedName base n ∉ used} n) :
      Chosen used base path (numberedName base n)

/-- The first candidate that is free is the one with the least free number. -/
theorem find?_numberedNames {base : String} {used : List String} {n : Nat}
    (hbound : n ≤ used.length + 2)
    (hleast : IsLeast {n | 2 ≤ n ∧ numberedName base n ∉ used} n) :
    ((List.range (used.length + 1)).map fun n => numberedName base (n + 2)).find?
      (!used.contains ·) = some (numberedName base n) := by
  obtain ⟨⟨htwo, hfree⟩, hmin⟩ := hleast
  rw [List.find?_map, Option.map_eq_some_iff]
  refine ⟨n - 2, List.find?_range_eq_some.mpr ⟨?_, ?_, ?_⟩, ?_⟩
  · simpa [Nat.sub_add_cancel htwo] using hfree
  · rw [List.mem_range]
    omega
  · intro k hk
    by_contra hnot
    have hlow := hmin (show k + 2 ∈ {n | 2 ≤ n ∧ numberedName base n ∉ used} from
      ⟨Nat.le_add_left 2 k, by simpa using hnot⟩)
    omega
  · rw [Nat.sub_add_cancel htwo]

/-- **The unique name is one of the three**, in their order. -/
theorem chosen_uniqueName (base path : String) (used : List String) :
    Chosen used base path (uniqueName base path used) := by
  obtain ⟨n, hbound, hleast⟩ := exists_isLeast_numberedName base used
  have hnumbered : (((List.range (used.length + 1)).map fun n =>
      plainIdentifier base ++ "_" ++ toString (n + 2)).find? (!used.contains ·)).getD base =
        numberedName base n :=
    congrArg (Option.getD · base) (find?_numberedNames hbound hleast)
  rw [uniqueName]
  dsimp only
  rw [hnumbered]
  split
  · rename_i hfree
    exact .base (by simpa using hfree)
  · rename_i hused
    have hbase : base ∈ used := by simpa using hused
    split
    · rename_i last hlast
      have hname : segmentName? base path =
          some (fieldIdentifier (plainIdentifier base ++ "_" ++ last)) := by
        rw [segmentName?, hlast, Option.map_some]
      split
      · rename_i hfree
        exact .segment hbase hname (by simpa using hfree)
      · rename_i htaken
        refine .numbered hbase (fun name hmem => ?_) hleast
        rw [hname] at hmem
        rw [← Option.some.inj hmem]
        simpa using htaken
    · rename_i hnone
      refine .numbered hbase (fun name hmem => ?_) hleast
      rw [segmentName?, hnone] at hmem
      cases hmem

namespace Chosen

variable {used : List String} {base path name : String}

/-- **A chosen name is not in use.** -/
theorem not_mem (h : Chosen used base path name) : name ∉ used := by
  cases h with
  | base hfree => exact hfree
  | segment _ _ hfree => exact hfree
  | numbered _ _ hleast => exact hleast.1.2

/-- **A chosen name is well-marked** if the base name is. -/
theorem wellMarked (hbase : WellMarked base) (h : Chosen used base path name) :
    WellMarked name := by
  cases h with
  | base => exact hbase
  | segment _ hname =>
      obtain ⟨last, -, rfl⟩ := Option.map_eq_some_iff.mp hname
      exact wellMarked_fieldIdentifier _
  | @numbered n =>
      refine .plain ?_ (not_mem_rawableWords (underscore_mem_numberedName base n))
      rw [numberedName, String.toList_append, String.toList_append, List.append_assoc]
      exact unmarked_append hbase.unmarked_plainIdentifier _

/-- **The number is taken** where the other two names are in use. -/
theorem eq_numberedName (h : Chosen used base path name) {n : Nat}
    (hleast : IsLeast {n | 2 ≤ n ∧ numberedName base n ∉ used} n) (hused : base ∈ used)
    (hsegment : ∀ taken ∈ segmentName? base path, taken ∈ used) : name = numberedName base n := by
  cases h with
  | base hfree => exact absurd hused hfree
  | segment _ hname hfree => exact absurd (hsegment name hname) hfree
  | numbered _ _ hother => rw [hother.unique hleast]

/-- Where the base name is in use, it is not the one that is chosen. -/
theorem base_eq_or_mem (h : Chosen used base path name) : base = name ∨ base ∈ used := by
  cases h with
  | base => exact Or.inl rfl
  | segment hused => exact Or.inr hused
  | numbered hused => exact Or.inr hused

end Chosen

/-! ### Base names -/

/-- The words that base names begin with, unless they are made from an identifier: the first
words of the roles, and the methods. -/
def roleWords : List String :=
  ["list", "create", "get", "update", "delete", "post", "put", "patch"]

/-- What the base name of an operation is. -/
inductive BaseName (op : Operation) : String → Prop
  /-- The operation has an identifier. -/
  | identifier {id : String} (hid : op.operationId = some id) : BaseName op (fieldIdentifier id)
  /-- The operation has a role or a method that is one word. -/
  | role {word : String} (hword : word ∈ roleWords) : BaseName op word
  /-- More follows the word. -/
  | roleWith {word : String} (hword : word ∈ roleWords) (rest : String) :
      BaseName op (word ++ "_" ++ rest)

/-- No word of a role begins with the raw mark or is a keyword. -/
theorem roleWords_check {word : String} (h : word ∈ roleWords) :
    ¬ rawMark <+: word.toList ∧ word ∉ rawableWords := by
  have hall : (roleWords.all fun word =>
      word.toList.all Char.isAlpha && !rawableWords.contains word) = true := by
    decide
  have hword := List.all_eq_true.mp hall word h
  rw [Bool.and_eq_true, List.all_eq_true] at hword
  refine ⟨unmarked_of_not_mem fun hmem => absurd (hword.1 '#' hmem) (by decide), ?_⟩
  simpa using hword.2

/-- A base name has the raw mark in front, if at all, and only as a keyword. -/
theorem BaseName.wellMarked {op : Operation} {name : String} (h : BaseName op name) :
    WellMarked name := by
  cases h with
  | identifier => exact wellMarked_fieldIdentifier _
  | role hword => exact .plain (roleWords_check hword).1 (roleWords_check hword).2
  | roleWith hword rest =>
      refine .plain ?_ (not_mem_rawableWords ?_)
      · rw [String.toList_append, String.toList_append, List.append_assoc]
        exact unmarked_append (roleWords_check hword).1 _
      · rw [String.toList_append, String.toList_append]
        exact List.mem_append_left _ (List.mem_append_right _ (List.mem_singleton_self _))

/-- The base name of an operation with an identifier is that of its identifier. -/
theorem baseMethodName_of_operationId {method path id : String} {op : Operation}
    (hid : op.operationId = some id) (hblank : Text.isBlankText id.toList = false) :
    baseMethodName method path op = fieldIdentifier id := by
  rw [baseMethodName, hid, Option.filter_some_pos (by rw [hblank]; rfl)]

/-- A method name that is made of a method begins with it. -/
theorem methodNameOf_eq (method : String) (segments : List String) :
    methodNameOf method segments = String.ofList (Text.Letter.lowerText method.toList) ∨
      ∃ rest, methodNameOf method segments =
        String.ofList (Text.Letter.lowerText method.toList) ++ "_" ++ rest := by
  rw [methodNameOf]
  cases (segments.map fun s => Text.snake s.toList).filter (!·.isEmpty) with
  | nil => exact Or.inl rfl
  | cons word words =>
      refine Or.inr ⟨String.ofList (Text.join ['_'] (word :: words)), ?_⟩
      rw [Text.join_cons_cons, String.ofList_append, String.ofList_append]

/-- The methods of HTTP are words of roles. -/
theorem lowerText_mem_roleWords {method : String} (h : method ∈ PathItem.methods) :
    String.ofList (Text.Letter.lowerText method.toList) ∈ roleWords := by
  have hall : (PathItem.methods.all fun method =>
      roleWords.contains (String.ofList (Text.Letter.lowerText method.toList))) = true := by
    decide
  exact List.contains_iff_mem.mp (List.all_eq_true.mp hall method h)

/-- The default name of a role is a base. -/
theorem baseName_of_role {op : Operation} {kind : OperationKind} {name : String}
    (h : kind.defaultMethodName? = some name) : BaseName op name := by
  have hid : "get_by_id" = "get" ++ "_" ++ "by_id" := by decide
  cases kind with
  | list => exact Option.some.inj h ▸ .role (by decide)
  | create => exact Option.some.inj h ▸ .role (by decide)
  | getById =>
      rw [← Option.some.inj h, OperationKind.label, hid]
      exact .roleWith (by decide) "by_id"
  | update => exact Option.some.inj h ▸ .role (by decide)
  | delete => exact Option.some.inj h ▸ .role (by decide)
  | other => cases h

/-- **The base name of an operation** comes from its identifier, or begins with the word of its
role or its method. -/
theorem baseName_baseMethodName {method : String} (h : method ∈ PathItem.methods) (path : String)
    (op : Operation) : BaseName op (baseMethodName method path op) := by
  have hmethod : ∀ segments, BaseName op (methodNameOf method segments) := by
    intro segments
    rcases methodNameOf_eq method segments with heq | ⟨rest, heq⟩
    · rw [heq]
      exact .role (lowerText_mem_roleWords h)
    · rw [heq]
      exact .roleWith (lowerText_mem_roleWords h) rest
  rw [baseMethodName]
  split
  · rename_i id hid
    exact .identifier (Option.filter_eq_some_iff.mp hid).1
  · split
    · rename_i name hname
      exact baseName_of_role hname
    · dsimp only
      split
      · exact hmethod _
      · exact hmethod _

/-! ### All names of a module -/

/-- The base name of an operation of a module. -/
def ModuleOperation.baseName (o : ModuleOperation) : String :=
  baseMethodName o.method o.path o.operation

/-- The operations of a document have its methods. -/
theorem ApiModule.method_mem_of_mem_ofDocument {d : Document} {name : String} {o : ModuleOperation}
    (h : o ∈ (ofDocument d name).operations) : o.method ∈ PathItem.methods := by
  obtain ⟨route, hroute, -, rfl⟩ := mem_operations_ofDocument.mp h
  obtain ⟨⟨path, item⟩, -, hroute⟩ := List.mem_flatMap.mp hroute
  obtain ⟨⟨method, op⟩, hop, rfl⟩ := List.mem_map.mp hroute
  obtain ⟨other, hmethod, hop⟩ := List.mem_filterMap.mp hop
  obtain ⟨found, -, heq⟩ := Option.map_eq_some_iff.mp hop
  obtain ⟨rfl, -⟩ := Prod.mk.inj heq
  exact hmethod

/-- The names of operations, one after the other. -/
def methodNames (used : List String) : List ModuleOperation → List String
  | [] => []
  | o :: rest =>
    let name := uniqueName o.baseName o.path used
    name :: methodNames (name :: used) rest

/-- The names do not depend on what the analysis finds. -/
theorem Resolver.map_methodName_of_endpointsFrom {r : Resolver} {used : List String}
    {operations : List ModuleOperation} {endpoints : List Endpoint}
    (h : r.endpointsFrom used operations = .ok endpoints) :
    endpoints.map (·.methodName) = methodNames used operations := by
  induction operations generalizing used endpoints with
  | nil =>
      cases h
      rfl
  | cons o rest ih =>
      rw [endpointsFrom] at h
      obtain ⟨first, hfirst, h⟩ := Outcome.bind_eq_ok.mp h
      obtain ⟨others, hothers, h⟩ := Outcome.bind_eq_ok.mp h
      cases h
      rw [List.map_cons, ih hothers, (analyzed_of_endpointNamed hfirst).methodName]
      rfl

variable {used : List String} {operations : List ModuleOperation} {name : String}

/-- **A run names each operation differently**, and as none before it. -/
theorem nodup_methodNames :
    (methodNames used operations).Nodup ∧ ∀ name ∈ methodNames used operations, name ∉ used := by
  induction operations generalizing used with
  | nil => exact ⟨List.nodup_nil, by simp [methodNames]⟩
  | cons o rest ih =>
      obtain ⟨hnodup, hapart⟩ := @ih (uniqueName o.baseName o.path used :: used)
      have hfirst := (chosen_uniqueName o.baseName o.path used).not_mem
      rw [methodNames]
      refine ⟨List.nodup_cons.mpr ⟨fun hmem => ?_, hnodup⟩, List.forall_mem_cons.mpr
        ⟨hfirst, fun name hname hused => ?_⟩⟩
      · exact hapart _ hmem List.mem_cons_self
      · exact hapart name hname (List.mem_cons_of_mem _ hused)

/-- A name of a run is chosen for one of the operations. -/
theorem exists_chosen_of_mem_methodNames (h : name ∈ methodNames used operations) :
    ∃ o ∈ operations, ∃ before, Chosen before o.baseName o.path name := by
  induction operations generalizing used with
  | nil => cases h
  | cons o rest ih =>
      rw [methodNames] at h
      rcases List.mem_cons.mp h with rfl | h
      · exact ⟨o, List.mem_cons_self, used, chosen_uniqueName _ _ _⟩
      · obtain ⟨other, hother, hchosen⟩ := ih h
        exact ⟨other, List.mem_cons_of_mem o hother, hchosen⟩

/-- Each base name is the name of some operation in the end, or was in use before. -/
theorem baseName_mem_methodNames {o : ModuleOperation} (h : o ∈ operations) :
    o.baseName ∈ methodNames used operations ∨ o.baseName ∈ used := by
  induction operations generalizing used with
  | nil => cases h
  | cons first rest ih =>
      rw [methodNames, List.mem_cons]
      rcases List.mem_cons.mp h with rfl | h
      · rcases (chosen_uniqueName o.baseName o.path used).base_eq_or_mem with heq | hused
        · exact Or.inl (Or.inl heq)
        · exact Or.inr hused
      · rcases @ih (uniqueName first.baseName first.path used :: used) h with hname | hused
        · exact Or.inl (Or.inr hname)
        · rcases List.mem_cons.mp hused with heq | hused
          · exact Or.inl (Or.inl heq)
          · exact Or.inr hused

/-- **The names of a run are well-marked** if the base names are. -/
theorem wellMarked_of_mem_methodNames (hbase : ∀ o ∈ operations, WellMarked o.baseName)
    (h : name ∈ methodNames used operations) : WellMarked name := by
  obtain ⟨o, ho, before, hchosen⟩ := exists_chosen_of_mem_methodNames h
  exact hchosen.wellMarked (hbase o ho)

end ServiceGen
