import ServiceGen.Proofs.Declarations
import ServiceGen.Proofs.FieldTypes
import ServiceGen.Proofs.PascalCase

/-!
# Structs Named after Components

A reference to a component that deserves a struct has the struct's name for a type, and the struct
is named after the component in Pascal case, however the reference is written. Pascal case does not
keep all components apart: `user_profile` and `UserProfile` have one struct, and that of `string`
is named like the type of texts. A field that refers to this one has the sample and the rules of a
text.

A view declares a struct of each name once. Where no other component has the name, the struct has
the fields of the component, unless a response already has a record of that name.

## Main results

* `structNames_identify_iff`: **when the names of structs tell components apart.**
* `not_forall_structNames_identify`: they do not for `user_profile` and `UserProfile`, nor is that
  of `string` apart from the type of texts.
-/

namespace ServiceGen

/-! ### The first letter of a struct's name -/

namespace Text

/-- A name in Pascal case does not begin with a small letter of ASCII. -/
theorem isLower_eq_false_of_head?_pascal {cs : List Char} {c : Char}
    (h : (pascal cs).head? = some c) : c.isLower = false := by
  rw [pascal] at h
  cases hwords : nameWords cs with
  | nil =>
      rw [hwords] at h
      cases h
  | cons first others =>
      have hne : first ≠ [] := ne_nil_of_mem_nameWords (hwords ▸ List.mem_cons_self)
      obtain ⟨d, rest, rfl⟩ := List.exists_cons_of_ne_nil hne
      obtain ⟨u, more, hupper⟩ := List.exists_cons_of_ne_nil (Letter.toUpper_ne_nil d)
      rw [hwords, List.flatMap_cons, capitalizeWord, hupper] at h
      refine Letter.isLower_eq_false_of_mem_toUpper (d := d) ?_
      rw [hupper, ← Option.some.inj h]
      exact List.mem_cons_self

end Text

/-! ### Samples and rules by the name of a type -/

/-- No name in Pascal case is a type whose name begins with a small letter. -/
theorem pascalCase_ne_of_isLower {type : String} (h : type.toList.head?.any Char.isLower = true)
    (name : String) : pascalCase name ≠ type := by
  rintro rfl
  obtain ⟨c, hc, hlower⟩ := Option.any_eq_true _ _ |>.mp h
  rw [pascalCase, String.toList_ofList] at hc
  rw [Text.isLower_eq_false_of_head?_pascal hc] at hlower
  cases hlower

/-- No name in Pascal case is that of a list. -/
theorem startsWith_pascalCase (name : String) : (pascalCase name).startsWith "Vec<" = false := by
  refine String.startsWith_string_eq_false_iff.mpr fun hstarts => ?_
  have hlist : (pascalCase name).toList = Text.pascal name.toList := String.toList_ofList
  have hmem : '<' ∈ "Vec<".toList := by decide
  rw [hlist] at hstarts
  exact absurd (Text.unpunctuated_pascal _ '<' (hstarts.subset hmem) (by decide)) (by decide)

/-- **The sample of a struct** is its default, unless it is named like the type of texts. -/
theorem FieldType.sampleValue_pascalCase {name : String} (h : pascalCase name ≠ "String") :
    sampleValue (pascalCase name) = "Default::default()" := by
  have hsmall := fun type htype => @pascalCase_ne_of_isLower type htype name
  rw [sampleValue]
  · exact hsmall "i32" (by decide)
  · exact hsmall "i64" (by decide)
  · exact hsmall "f32" (by decide)
  · exact hsmall "f64" (by decide)
  · exact hsmall "bool" (by decide)
  · exact h

/-- **There are no rules for a struct**, unless it is named like the type of texts. -/
theorem Rules.text?_pascalCase {name : String} (h : pascalCase name ≠ "String") (s : Schema)
    (required : Bool) : text? s (pascalCase name) required = none := by
  have hsmall := fun type htype => @pascalCase_ne_of_isLower type htype name
  have hnone : ofType s (pascalCase name) required = [] := by
    rw [ofType]
    · rw [startsWith_pascalCase]
      rfl
    · exact h
    · exact hsmall "i32" (by decide)
    · exact hsmall "i64" (by decide)
    · exact hsmall "f32" (by decide)
    · exact hsmall "f64" (by decide)
  rw [text?, hnone]

/-! ### Names of types that are in use -/

/-- The types that the types of a module use beside their own structs. -/
def FieldType.builtIn : List String :=
  ["String", "Vec", "Option", "Box"]

/-- The names of these types are in Pascal case. -/
theorem FieldType.pascalCase_of_mem_builtIn {type : String} (h : type ∈ builtIn) :
    pascalCase type = type ∧ ∀ c ∈ type.toList, Text.Letter.isAscii c = true := by
  have hall : (builtIn.all fun type => pascalCase type == type
      && type.toList.all Text.Letter.isAscii) = true := by
    decide
  have htype := List.all_eq_true.mp hall type h
  rw [Bool.and_eq_true, List.all_eq_true] at htype
  exact ⟨eq_of_beq htype.1, htype.2⟩

/-- **An ASCII name reads as a type in use** exactly if it has the words of the type's name. -/
theorem pascalCase_mem_builtIn_iff {name : String}
    (hname : ∀ c ∈ name.toList, Text.Letter.isAscii c = true) :
    pascalCase name ∈ FieldType.builtIn ↔
      ∃ type ∈ FieldType.builtIn, Text.pascalWords name.toList = Text.pascalWords type.toList := by
  constructor
  · intro hmem
    obtain ⟨hpascal, hascii⟩ := FieldType.pascalCase_of_mem_builtIn hmem
    exact ⟨_, hmem, (Text.pascalCase_eq_iff hname hascii).mp hpascal.symm⟩
  · rintro ⟨type, hmem, hwords⟩
    obtain ⟨hpascal, hascii⟩ := FieldType.pascalCase_of_mem_builtIn hmem
    rwa [(Text.pascalCase_eq_iff hname hascii).mpr hwords, hpascal]

namespace Resolver

variable {r : Resolver}

/-! ### References to structs -/

/-- A reference that is followed to a component, and leads to a schema that deserves a struct. -/
structure PointsAt (r : Resolver) (schema : Schema) (depth : Nat) (component : String) : Prop where
  /-- The reference is to the component. -/
  reference : ∃ reference, schema.reference = some reference ∧
    Reference.componentName? .schemas reference = some component
  /-- Its chain ends at a schema that deserves a struct. -/
  target : ∃ target, r.resolve schema depth = .ok (some target) ∧ target.isModelLike = true

namespace PointsAt

variable {schema : Schema} {depth : Nat} {component : String}

/-- The component is one of the document. -/
theorem mem_names (h : r.PointsAt schema depth component) :
    component ∈ r.document.components.schemas.names := by
  obtain ⟨reference, hreference, hcomponent⟩ := h.reference
  obtain ⟨target, htarget, -⟩ := h.target
  obtain ⟨other, hmem, hother⟩ := exists_component_of_resolveWithin hreference htarget
  rwa [← Option.some.inj (hother.symm.trans hcomponent)]

/-- **A reference to a struct has its name for a type**, however it is written. -/
theorem exists_typeOf (h : r.PointsAt schema depth component) :
    ∃ reading, r.typeOf schema depth = .ok ⟨pascalCase component, [reading]⟩ := by
  obtain ⟨reference, hreference, hcomponent⟩ := h.reference
  obtain ⟨target, htarget, hmodel⟩ := h.target
  rw [resolve] at htarget
  rw [typeOf]
  cases hroom : r.room depth with
  | zero =>
      rw [hroom] at htarget
      cases htarget
  | succ room =>
      rw [hroom] at htarget
      rw [typeWithin_of_resolve_eq_some hreference htarget, if_pos hmodel,
        Reference.pascalCase_tailName hcomponent]
      exact ⟨_, rfl⟩

/-- **A field of a struct's type** has no rules and the default for a sample, unless the struct is
named like the type of texts. -/
theorem of_fieldOf {name : String} {required : Bool} {location : FieldLocation}
    {description : Option String} {f : Field} (h : r.PointsAt schema (depth + 1) component)
    (hfield : r.fieldOf name (some schema) required location description depth = .ok f) :
    f.baseType = pascalCase component ∧ (f.baseType ≠ "String" →
      f.sample = "Default::default()" ∧ f.validation = none) := by
  obtain ⟨use, huse, hfield⟩ := Outcome.bind_eq_ok.mp hfield
  obtain ⟨target, -, hfield⟩ := Outcome.bind_eq_ok.mp hfield
  have hparts : f.baseType = use.type ∧ f.sample = FieldType.sampleValue use.type ∧
      f.validation = Rules.text? (target.getD schema) use.type required := by
    cases hfield
    exact ⟨rfl, rfl, rfl⟩
  have htype : use.type = pascalCase component := by
    obtain ⟨reading, htype⟩ := h.exists_typeOf
    rw [Option.getD_some, htype] at huse
    cases huse
    rfl
  rw [htype] at hparts
  obtain ⟨hbase, hsample, hrules⟩ := hparts
  rw [hbase, hsample, hrules]
  exact ⟨rfl, fun hother => ⟨FieldType.sampleValue_pascalCase hother,
    Rules.text?_pascalCase hother _ _⟩⟩

end PointsAt

/-- A component has a struct of a name: references to it have the name for a type. -/
def NamesStruct (r : Resolver) (component type : String) : Prop :=
  ∃ schema depth reading, r.PointsAt schema depth component ∧
    r.typeOf schema depth = .ok ⟨type, [reading]⟩

/-- A component's struct has its Pascal form as name. -/
theorem NamesStruct.eq_pascalCase {component type : String} (h : r.NamesStruct component type) :
    type = pascalCase component := by
  obtain ⟨schema, depth, reading, hpoints, htype⟩ := h
  obtain ⟨other, hother⟩ := hpoints.exists_typeOf
  exact (TypeUse.mk.inj (Except.ok.inj (htype.symm.trans hother))).1

end Resolver

/-! ### Structs of a view -/

namespace ModuleView

/-- **A struct of a view** that is named like one component alone is that component's, unless it is
a record of a response. -/
theorem structOf_of_mem_models {m : ApiModule} {package : String} {r : Resolver} {v : ModuleView}
    (h : build m package r = .ok v) {s : Model} (hs : s ∈ v.models) {component : String}
    (hname : s.name = pascalCase component)
    (halone : ∀ other ∈ r.document.components.schemas.names,
      pascalCase other = pascalCase component → other = component) :
    (∃ e ∈ v.endpoints, s.name ∈ e.recordTypes) ∨ r.StructOf component s := by
  obtain ⟨models, hendpoints, hmodels, hsubset, -⟩ := exists_models_of_build h
  have hnamed := Resolver.recordNamed_of_endpointsFrom hendpoints
  refine (Resolver.exists_source_of_mem_models hnamed hmodels s (hsubset hs)).imp_right ?_
  rintro ⟨other, hother⟩
  rwa [← halone other hother.mem_names (hother.name_eq.symm.trans hname)]

end ModuleView

namespace Resolver

/-- **When the names of structs tell components apart.** A reference to a component that deserves a
struct has the component's name in Pascal case for a type. So two such components with ASCII names
have the same type exactly if they have the same words, once each word that begins with a digit is
written behind the one before it, and one has a type that is in use exactly if it has the words of
that type's name. A field of such a type has no rules and the default for a sample, unless the type
is that of texts. And a struct that a view declares under the name of one component alone is that
component's, unless it is a record of a response. -/
theorem structNames_identify_iff (r : Resolver) :
    (∀ schema depth component, r.PointsAt schema depth component →
      component ∈ r.document.components.schemas.names ∧
        ∃ reading, r.typeOf schema depth = .ok ⟨pascalCase component, [reading]⟩) ∧
    (∀ component type, r.NamesStruct component type →
      (∀ c ∈ component.toList, Text.Letter.isAscii c = true) →
        (∀ other type', r.NamesStruct other type' →
          (∀ c ∈ other.toList, Text.Letter.isAscii c = true) →
            (type = type' ↔
              Text.pascalWords component.toList = Text.pascalWords other.toList)) ∧
        (type ∈ FieldType.builtIn ↔ ∃ used ∈ FieldType.builtIn,
          Text.pascalWords component.toList = Text.pascalWords used.toList)) ∧
    (∀ schema depth component name required location description f,
      r.PointsAt schema (depth + 1) component →
        r.fieldOf name (some schema) required location description depth = .ok f →
          f.baseType = pascalCase component ∧ (f.baseType ≠ "String" →
            f.sample = "Default::default()" ∧ f.validation = none)) ∧
    ∀ m package v, ModuleView.build m package r = .ok v →
      ∀ s ∈ v.models, ∀ component, s.name = pascalCase component →
        (∀ other ∈ r.document.components.schemas.names,
          pascalCase other = pascalCase component → other = component) →
            (∃ e ∈ v.endpoints, s.name ∈ e.recordTypes) ∨ r.StructOf component s := by
  refine ⟨fun schema depth component h => ⟨h.mem_names, h.exists_typeOf⟩,
    fun component type h hascii => ⟨fun other type' h' hascii' => ?_, ?_⟩,
    fun _ _ _ _ _ _ _ _ h hfield => h.of_fieldOf hfield,
    fun _ _ _ h s hs component hname halone => ModuleView.structOf_of_mem_models h hs hname halone⟩
  · rw [h.eq_pascalCase, h'.eq_pascalCase]
    exact Text.pascalCase_eq_iff hascii hascii'
  · rw [h.eq_pascalCase]
    exact pascalCase_mem_builtIn_iff hascii

/-- A document of two components, a person and a place. -/
def twoComponents (person place : String) : Document where
  components := { schemas := [
    (person, { type := some (.single "object"), properties := [("name", .ofType "string")] }),
    (place, { type := some (.single "object"), properties := [("zip", .ofType "integer")] })] }

/-- The components `user_profile` and `UserAddress` have structs apart. -/
theorem structNames_identify_user :
    let r : Resolver := { document := twoComponents "user_profile" "UserAddress" }
    ∃ type type', r.NamesStruct "user_profile" type ∧ r.NamesStruct "UserAddress" type' ∧
      type ≠ type' ∧ type ∉ FieldType.builtIn := by
  intro r
  obtain ⟨hnames, htypes, -⟩ := structNames_identify_iff r
  have hperson : r.PointsAt (.ofReference "#/components/schemas/user_profile") 1 "user_profile" :=
    ⟨⟨_, rfl, by decide⟩, _, rfl, rfl⟩
  have hplace : r.PointsAt (.ofReference "#/components/schemas/UserAddress") 1 "UserAddress" :=
    ⟨⟨_, rfl, by decide⟩, _, rfl, rfl⟩
  obtain ⟨-, reading, htype⟩ := hnames _ _ _ hperson
  obtain ⟨-, reading', htype'⟩ := hnames _ _ _ hplace
  have hfirst : r.NamesStruct "user_profile" _ := ⟨_, _, _, hperson, htype⟩
  have hsecond : r.NamesStruct "UserAddress" _ := ⟨_, _, _, hplace, htype'⟩
  have hascii : ("user_profile".toList.all Text.Letter.isAscii
      && "UserAddress".toList.all Text.Letter.isAscii) = true := by
    decide
  rw [Bool.and_eq_true, List.all_eq_true, List.all_eq_true] at hascii
  obtain ⟨hapart, hused⟩ := htypes _ _ hfirst hascii.1
  exact ⟨_, _, hfirst, hsecond, mt (hapart _ _ hsecond hascii.2).mp (by decide),
    mt hused.mp (by decide)⟩

/-- The components `user_profile` and `UserProfile` have one struct, and that of `string` is named
like the type of texts. -/
theorem not_forall_structNames_identify :
    (¬ ∀ (r : Resolver) (component other type : String), r.NamesStruct component type →
      r.NamesStruct other type → component = other) ∧
    ¬ ∀ (r : Resolver) (component type : String), r.NamesStruct component type →
      type ∉ FieldType.builtIn := by
  constructor
  · intro hall
    let r : Resolver := { document := twoComponents "user_profile" "UserProfile" }
    have hperson : r.NamesStruct "user_profile" "UserProfile" :=
      ⟨.ofReference "#/components/schemas/user_profile", 1, _,
        ⟨⟨_, rfl, by decide⟩, _, rfl, rfl⟩, rfl⟩
    have hplace : r.NamesStruct "UserProfile" "UserProfile" :=
      ⟨.ofReference "#/components/schemas/UserProfile", 1, _,
        ⟨⟨_, rfl, by decide⟩, _, rfl, rfl⟩, rfl⟩
    exact absurd (hall r _ _ _ hperson hplace) (by decide)
  · intro hall
    let r : Resolver := { document := twoComponents "string" "UserProfile" }
    have htext : r.NamesStruct "string" "String" :=
      ⟨.ofReference "#/components/schemas/string", 1, _,
        ⟨⟨_, rfl, by decide⟩, _, rfl, rfl⟩, rfl⟩
    exact hall r _ _ htext (by decide)

end Resolver

end ServiceGen
