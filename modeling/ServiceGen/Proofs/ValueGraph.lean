import ServiceGen.Proofs.BoxedFields
import ServiceGen.Proofs.Strictness

/-!
# Structs That Hold Themselves

The types of a module declare its request structs and its models. A cycle of structs that hold
each other by value does not compile, so the models are collected with their cycles broken
(`ServiceGen.Model.boxRecursive`). The request structs are not among them, and they are made of
the fields of a component as they are.

## Main results

* `acyclic_models`: the models of a view hold each other without a cycle.
* `acyclic_declared_iff`: **all declared structs do exactly if** no request struct holds itself.
* `not_forall_acyclic_declared`: one may, where a component is named like the request struct
  that its fields go into.
-/

namespace ServiceGen

open Model (Holds Acyclic)
open Relation (TransGen ReflTransGen)

namespace ModuleView

/-- The request structs that the types of a module declare. -/
def requests (v : ModuleView) : List Model :=
  (v.endpoints.filter (·.hasRequest)).map fun e => ⟨e.requestType, none, e.requestFields⟩

/-- All structs that the types of a module declare. -/
def declared (v : ModuleView) : List Model :=
  v.requests ++ v.models

end ModuleView

/-! ### Cycles through some of the structs -/

namespace Model

/-- A way from struct to struct stays among some of them, or comes to one of the others. -/
theorem transGen_holds_append {first second : List Model} {s t : Model}
    (h : TransGen (Holds (first ++ second)) s t) :
    TransGen (Holds second) s t ∨ ∃ u ∈ first,
      ReflTransGen (Holds (first ++ second)) s u ∧
        ReflTransGen (Holds (first ++ second)) u t := by
  induction h with
  | single hst =>
      rename_i t
      rcases List.mem_append.mp hst.1 with hs | hs
      · exact Or.inr ⟨s, hs, .refl, .single hst⟩
      · rcases List.mem_append.mp hst.2.1 with ht | ht
        · exact Or.inr ⟨t, ht, .single hst, .refl⟩
        · exact Or.inl (.single ⟨hs, ht, hst.2.2⟩)
  | tail hst htu ih =>
      rename_i t u
      rcases ih with ih | ⟨x, hx, hsx, hxt⟩
      · rcases List.mem_append.mp htu.1 with ht | ht
        · exact Or.inr ⟨t, ht, hst.to_reflTransGen, .single htu⟩
        · rcases List.mem_append.mp htu.2.1 with hu | hu
          · exact Or.inr ⟨u, hu, (hst.tail htu).to_reflTransGen, .refl⟩
          · exact Or.inl (ih.tail ⟨ht, hu, htu.2.2⟩)
      · exact Or.inr ⟨x, hx, hsx, hxt.tail htu⟩

/-- **Structs are free of cycles** if some of them are and none of the others is on a cycle. -/
theorem acyclic_append_iff {first second : List Model} (hsecond : Acyclic second) :
    Acyclic (first ++ second) ↔ ∀ s ∈ first, ¬ TransGen (Holds (first ++ second)) s s := by
  constructor
  · intro h s _
    exact h s
  · intro h s hcycle
    rcases transGen_holds_append hcycle with hinner | ⟨u, hu, hsu, hus⟩
    · exact hsecond s hinner
    · exact h u hu (.trans_right hus (.trans_left hcycle hsu))

end Model

namespace ModuleView

variable {m : ApiModule} {package : String} {r : Resolver}

/-- **The models of a view hold each other without a cycle.** -/
theorem acyclic_models {v : ModuleView} (h : build m package r = .ok v) : Acyclic v.models := by
  obtain ⟨endpoints, hendpoints, h⟩ := Outcome.bind_eq_ok.mp h
  obtain ⟨models, hmodels, h⟩ := Outcome.bind_eq_ok.mp h
  cases h
  obtain ⟨collected, rfl, hnames, hpointer⟩ :=
    Model.exists_collected_of_models hendpoints hmodels
  exact (Model.acyclic_boxRecursive hnames hpointer).mono List.filter_sublist.subset

/-- **When the types of a module can be laid out.** A permissive resolver always gives a view;
its models hold each other without a cycle, and all its structs do exactly if no request struct
holds itself, directly or through others. -/
theorem acyclic_declared_iff (h : r.strict = false) (m : ApiModule) (package : String) :
    ∃ v, build m package r = .ok v ∧ Acyclic v.models ∧
      (Acyclic v.declared ↔ ∀ s ∈ v.requests, ¬ TransGen (Holds v.declared) s s) := by
  obtain ⟨v, hv⟩ := Resolver.exists_build_eq_ok h m package
  exact ⟨v, hv, acyclic_models hv, Model.acyclic_append_iff (acyclic_models hv)⟩

/-- A document of one operation, `createNode`, whose body is a component that holds itself. -/
def recursiveBody (component : String) : Document where
  paths := [("/nodes", {
    post := some {
      tags := ["node"]
      operationId := some "createNode"
      requestBody := some (.item { content := [("application/json", {
        schema := some (.ofReference ("#/components/schemas/" ++ component)) })] }) } })]
  components := {
    schemas := [(component, {
      type := some (.single "object")
      properties := [("parent", .ofReference ("#/components/schemas/" ++ component))] })] }

/-- The view of a body `Node`, which becomes a model beside the request struct. -/
theorem acyclic_declared_iff_node :
    ∃ v, build (ApiModule.ofDocument (recursiveBody "Node") "node") "shop"
        { document := recursiveBody "Node" } = .ok v ∧ Acyclic v.models ∧
      (Acyclic v.declared ↔ ∀ s ∈ v.requests, ¬ TransGen (Holds v.declared) s s) :=
  acyclic_declared_iff rfl _ _

/-- A body named like the request struct of its operation makes that struct hold itself. -/
theorem not_forall_acyclic_declared : ¬ ∀ (m : ApiModule) (package : String) (r : Resolver)
    (v : ModuleView), r.strict = false → build m package r = .ok v → Acyclic v.declared := by
  intro hall
  let d := recursiveBody "CreateNodeRequest"
  obtain ⟨v, hv⟩ := Resolver.exists_build_eq_ok (r := { document := d }) rfl
    (ApiModule.ofDocument d "node") "shop"
  have hdeclared : v.declared.map (fun s => (s.name, s.fields.map (·.baseType))) =
      [("CreateNodeRequest", ["CreateNodeRequest"])] := by
    have hview : ((build (ApiModule.ofDocument d "node") "shop" { document := d }).toOption.map
        fun v => v.declared.map fun s => (s.name, s.fields.map (·.baseType))) =
          some [("CreateNodeRequest", ["CreateNodeRequest"])] := by
      decide +kernel
    rw [hv] at hview
    exact Option.some.inj hview
  obtain ⟨s, hs, hstruct⟩ := List.mem_map.mp (hdeclared ▸ List.mem_singleton_self _)
  rw [Prod.mk.injEq] at hstruct
  obtain ⟨f, hf, hbase⟩ := List.mem_map.mp (hstruct.2 ▸ List.mem_singleton_self _)
  exact hall _ _ _ v rfl hv s (.single ⟨hs, hs, f, hf, hbase.trans hstruct.1.symm⟩)

end ModuleView

end ServiceGen
