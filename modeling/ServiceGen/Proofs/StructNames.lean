import ServiceGen.Proofs.PascalCase
import ServiceGen.Proofs.ValueGraph
import ServiceGen.Proofs.ViewFields

/-!
# Names of Structs

The types of a module declare a request struct for each operation that has a request, and the
models. The models are collected under their names, and those that are named like a request struct
are left out. The request structs are named after the methods, in Pascal case. Methods have
distinct names, but Pascal case does not keep all of them apart.

## Main results

* `nodup_declared_iff`: **structs have distinct names** exactly if the operations with a request
  differ in the prefixes of their types, and what that says of the names of ASCII methods.
* `not_forall_nodup_declared`: two structs may have the same name, where two methods differ only
  in an underscore before a digit.
-/

namespace ServiceGen

/-- Two maps that tell the elements of a list apart in the same way. -/
theorem nodup_map_iff_of_forall {α β γ : Type} {as : List α} {f : α → β} {g : α → γ}
    (h : ∀ a ∈ as, ∀ b ∈ as, (f a = f b ↔ g a = g b)) :
    (as.map f).Nodup ↔ (as.map g).Nodup := by
  rw [List.Nodup, List.Nodup, List.pairwise_map, List.pairwise_map]
  exact List.Pairwise.iff_of_mem fun {a b} ha hb => not_congr (h a ha b hb)

namespace ModuleView

variable {m : ApiModule} {package : String} {r : Resolver} {v : ModuleView}

/-- The operations that have a request struct. -/
def requesting (v : ModuleView) : List Endpoint :=
  v.endpoints.filter (·.hasRequest)

/-- The request structs have the names of the requests. -/
theorem map_name_requests (v : ModuleView) :
    v.requests.map (·.name) = v.requesting.map (·.requestType) := by
  rw [requests, List.map_map]
  rfl

/-- **The models of a view** have distinct names, and none is named like a request struct. -/
theorem nodup_models (h : build m package r = .ok v) :
    (v.models.map (·.name)).Nodup ∧
      (v.requests.map (·.name)).Disjoint (v.models.map (·.name)) := by
  obtain ⟨endpoints, hendpoints, h⟩ := Outcome.bind_eq_ok.mp h
  obtain ⟨models, hmodels, h⟩ := Outcome.bind_eq_ok.mp h
  cases h
  obtain ⟨entries, -, hentries, rfl⟩ := Resolver.exists_wellNamed_of_models
    (Resolver.recordNamed_of_endpointsFrom hendpoints) hmodels
  constructor
  · refine List.Nodup.sublist (List.filter_sublist.map _) ?_
    rw [Model.map_name_boxRecursive, hentries.map_name]
    exact hentries.nodup
  · rw [map_name_requests]
    intro name htaken hname
    obtain ⟨model, hmodel, rfl⟩ := List.mem_map.mp hname
    have hkept := (List.mem_filter.mp hmodel).2
    simp only [Bool.not_eq_true', List.contains_eq_mem, decide_eq_false_iff_not] at hkept
    exact hkept htaken

/-- Request structs are told apart by what their names begin with. -/
theorem nodup_requests_iff :
    (v.requests.map (·.name)).Nodup ↔ (v.requesting.map (·.typePrefix)).Nodup := by
  have hnames : v.requests.map (·.name) =
      (v.requesting.map (·.typePrefix)).map (· ++ "Request") := by
    rw [map_name_requests, List.map_map]
    rfl
  rw [hnames, List.nodup_map_iff (Text.injective_append "Request")]

/-- The prefixes of types are told apart by the words of ASCII methods. -/
theorem nodup_typePrefix_iff {endpoints : List Endpoint}
    (h : ∀ e ∈ endpoints, ∀ c ∈ e.testName.toList, Text.Letter.isAscii c = true) :
    (endpoints.map (·.typePrefix)).Nodup ↔
      (endpoints.map fun e => Text.pascalWords e.testName.toList).Nodup := by
  refine nodup_map_iff_of_forall fun e he f hf => ?_
  exact Text.pascalCase_eq_iff (h e he) (h f hf)

/-- **When the structs of a module have distinct names.** The models always have, and none is
named like a request struct. All structs have exactly if the operations with a request differ in
the prefixes of their types. Where the names of their methods are ASCII, that is where these have
different words, once each word that begins with a digit is written behind the one before it. -/
theorem nodup_declared_iff (h : build m package r = .ok v) :
    (v.models.map (·.name)).Nodup ∧
      ((v.declared.map (·.name)).Nodup ↔ (v.requesting.map (·.typePrefix)).Nodup) ∧
      ((∀ e ∈ v.requesting, ∀ c ∈ e.testName.toList, Text.Letter.isAscii c = true) →
        ((v.declared.map (·.name)).Nodup ↔
          (v.requesting.map fun e => Text.pascalWords e.testName.toList).Nodup)) := by
  obtain ⟨hmodels, hapart⟩ := nodup_models h
  have hdeclared :
      (v.declared.map (·.name)).Nodup ↔ (v.requesting.map (·.typePrefix)).Nodup := by
    rw [declared, List.map_append, List.nodup_append', nodup_requests_iff]
    exact ⟨fun hall => hall.1, fun hrequests => ⟨hrequests, hmodels, hapart⟩⟩
  exact ⟨hmodels, hdeclared, fun hascii => hdeclared.trans (nodup_typePrefix_iff hascii)⟩

/-- A document of two searches for books with identifiers, each for a page. -/
def searches (first second : String) : Document :=
  let page : RefOr Parameter := .item { name := "page", schema := some (.ofType "integer") }
  let search (id : String) : PathItem :=
    { get := some { tags := ["book"], operationId := some id, parameters := [page] } }
  { paths := [("/books/search", search first), ("/books/seek", search second)] }

/-- The searches `search2` and `search_3` have distinct request structs. -/
theorem nodup_declared_iff_search :
    ∃ v, build (.ofDocument (searches "search2" "search_3") "book") "shop"
        { document := searches "search2" "search_3" } = .ok v ∧
      v.requesting.map (·.testName) = ["search2", "search_3"] ∧
        (v.declared.map (·.name)).Nodup := by
  have hview : ((build (.ofDocument (searches "search2" "search_3") "book") "shop"
      { document := searches "search2" "search_3" }).toOption.map
        fun v => v.requesting.map (·.testName)) = some ["search2", "search_3"] := by
    decide
  obtain ⟨v, hv, hnames⟩ := Outcome.exists_of_map_toOption hview
  have hascii : ∀ e ∈ v.requesting, ∀ c ∈ e.testName.toList, Text.Letter.isAscii c = true := by
    intro e he c hc
    have hmem : e.testName ∈ ["search2", "search_3"] := hnames ▸ List.mem_map_of_mem he
    have hall : (["search2", "search_3"].all fun name =>
        name.toList.all Text.Letter.isAscii) = true := by
      decide
    exact List.all_eq_true.mp (List.all_eq_true.mp hall _ hmem) c hc
  have hwords : (v.requesting.map fun e => Text.pascalWords e.testName.toList) =
      (v.requesting.map (·.testName)).map fun name => Text.pascalWords name.toList := by
    simp only [List.map_map, Function.comp_def]
  refine ⟨v, hv, hnames, ((nodup_declared_iff hv).2.2 hascii).mpr ?_⟩
  rw [hwords, hnames]
  decide

/-- The searches `search2` and `search_2` have request structs of the same name. -/
theorem not_forall_nodup_declared : ¬ ∀ (d : Document) (name package : String) (r : Resolver)
    (v : ModuleView), build (.ofDocument d name) package r = .ok v →
      (v.declared.map (·.name)).Nodup := by
  intro hall
  let d := searches "search2" "search_2"
  have hview : ((build (.ofDocument d "book") "shop" { document := d }).toOption.map
      fun v => v.declared.map (·.name)) = some ["Search2Request", "Search2Request"] := by
    decide
  obtain ⟨v, hv, hnames⟩ := Outcome.exists_of_map_toOption hview
  have hnodup := hall _ _ _ _ v hv
  rw [hnames] at hnodup
  exact absurd hnodup (by decide)

end ModuleView

end ServiceGen
