import ServiceGen.Analysis.ModuleView
import ServiceGen.Proofs.Links
import ServiceGen.Proofs.Models

/-!
# Strict and Permissive Resolvers

A strict resolver and its permissive twin differ in one place: a reference without a target
is a failure for the one and yields nothing for the other. This module follows the difference
through the whole analysis of a module.

`Tolerates` relates an outcome of a resolver to that of its twin: the twin always has a
result, and the resolver either has the same one or fails on a link without a target, which it
may do only if it is strict. Which links these may be is a property `P`, which the links of the
components have and those of whatever is analyzed. The relation is kept by sequencing
(`Tolerates.bind`, `Tolerates.mapM`), so there is one lemma for each function of the
analysis, in the order of their definitions, up to `ModuleView.build` itself.

## Main results

* `tolerates_build`: the view of a module, strictly and permissively.
* `exists_build_eq_ok`: a permissive resolver never keeps a view back.
* `of_build_eq_error`: what a view can fail on.
* `build_strict_and_permissive`: **the two modes on a module of a document**, and the links of
  the document that the strict one fails on.
-/

namespace ServiceGen

/-- Whether a section of the components has a name. -/
def Components.has (c : Components) (section' : Section) (name : String) : Bool :=
  match section' with
  | .schemas => (c.schemas.get? name).isSome
  | .parameters => (c.parameters.get? name).isSome
  | .requestBodies => (c.requestBodies.get? name).isSome
  | .responses => (c.responses.get? name).isSome

/-- A reference has no target in the section that it is looked up in. -/
def Document.Dangling (d : Document) (link : Link) : Prop :=
  (Reference.componentName? link.1 link.2).any (d.components.has link.1) = false

namespace Resolver

open Document (confined_of_get? closed_of_forall)

/-- The resolver that lets references without a target pass. -/
def permissive (r : Resolver) : Resolver :=
  { r with strict := false }

/-- A resolver that is not strict is permissive. -/
theorem permissive_eq_self {r : Resolver} (h : r.strict = false) : r.permissive = r := by
  cases r
  cases h
  rfl

/-- An outcome of a resolver beside that of its permissive twin. -/
inductive Tolerates (r : Resolver) (P : Link → Prop) {α : Type} :
    Except Failure α → Except Failure α → Prop
  /-- Both have the same result. -/
  | agree (a : α) : Tolerates r P (.ok a) (.ok a)
  /-- A strict resolver stops at a link without a target. -/
  | stop (link : Link) (a : α) (hstrict : r.strict = true) (hlink : P link)
      (hdangling : r.document.Dangling link) :
      Tolerates r P (.error (.unresolvable link.2)) (.ok a)

variable {α β : Type} {r : Resolver} {P : Link → Prop}

/-! ### Sequencing -/

/-- The permissive twin has a result. -/
theorem Tolerates.exists_ok {x y : Except Failure α} (h : Tolerates r P x y) :
    ∃ a, y = .ok a := by
  cases h with
  | agree a => exact ⟨a, rfl⟩
  | stop link a => exact ⟨a, rfl⟩

/-- A result is that of the permissive twin. -/
theorem Tolerates.eq_ok {a : α} {y : Except Failure α} (h : Tolerates r P (.ok a) y) :
    y = .ok a := by
  cases h
  rfl

/-- A failure is that of a strict resolver on a link without a target. -/
theorem Tolerates.of_error {failure : Failure} {y : Except Failure α}
    (h : Tolerates r P (.error failure) y) :
    r.strict = true ∧ ∃ link : Link, P link ∧ r.document.Dangling link ∧
      failure = .unresolvable link.2 := by
  cases h with
  | stop link a hstrict hlink hdangling => exact ⟨hstrict, link, hlink, hdangling, rfl⟩

/-- **Sequencing keeps the relation**, if the next step does for what the twin has found. -/
theorem Tolerates.bind {x y : Except Failure α} {f g : α → Except Failure β}
    (h : Tolerates r P x y) (hf : ∀ a, y = .ok a → Tolerates r P (f a) (g a)) :
    Tolerates r P (x >>= f) (y >>= g) := by
  cases h with
  | agree a => exact hf a rfl
  | stop link a hstrict hlink hdangling =>
      obtain ⟨b, hb⟩ := (hf a rfl).exists_ok
      have hg : (Except.ok a >>= g) = .ok b := hb
      rw [hg]
      exact .stop link b hstrict hlink hdangling

/-- Work on all elements of a list keeps the relation. -/
theorem Tolerates.mapM {f g : α → Except Failure β} {as : List α}
    (h : ∀ a ∈ as, Tolerates r P (f a) (g a)) : Tolerates r P (as.mapM f) (as.mapM g) := by
  induction as with
  | nil => exact .agree []
  | cons a as ih =>
      rw [List.forall_mem_cons] at h
      rw [List.mapM_cons, List.mapM_cons]
      exact h.1.bind fun b _ => (ih h.2).bind fun bs _ => .agree (b :: bs)

/-! ### Following references -/

/-- What comes of a link without a target. -/
theorem tolerates_absent (link : Link) (hlink : P link) (h : r.document.Dangling link) (a : α) :
    Tolerates r P (r.absent link.2 a) (r.permissive.absent link.2 a) := by
  rw [absent, absent]
  by_cases hstrict : r.strict = true
  · rw [if_pos hstrict]
    exact .stop link a hstrict hlink h
  · rw [if_neg hstrict]
    exact .agree a

/-- A schema reference that leads nowhere has no target among the schemas. -/
theorem dangling_of_target?_eq_none {reference : String} (h : r.target? reference = none) :
    r.document.Dangling (.schemas, reference) := by
  rw [Document.Dangling]
  cases hname : Reference.componentName? .schemas reference with
  | none => rfl
  | some name =>
      simp only [target?, hname, component?, Option.bind_eq_bind, Option.bind_some] at h
      cases hget : r.document.components.schemas.get? name with
      | none => simp [Components.has, hget]
      | some schema =>
          rw [hget] at h
          cases h

section Following

variable (hP : ∀ link ∈ r.document.components.links, P link)
include hP

/-- A chain is followed by both alike, or ends at a link without a target. -/
theorem tolerates_follow (room : Nat) (active : List String) {schema : Schema}
    (hschema : schema.Confined P) :
    Tolerates r P (r.follow room active schema) (r.permissive.follow room active schema) := by
  induction room generalizing active schema with
  | zero => exact .agree _
  | succ room ih =>
      rw [follow, follow]
      split
      · exact .agree _
      · rename_i reference hreference
        have htarget : r.permissive.target? reference = r.target? reference := rfl
        rw [htarget]
        split
        · rename_i hnone
          exact tolerates_absent (.schemas, reference) (hschema.reference hreference)
            (dangling_of_target?_eq_none hnone) _
        · rename_i name target hsome
          split
          · exact .agree _
          · exact ih _ (confined_of_get? hP (target?_eq_some_iff.mp hsome).2)

/-- A schema is resolved by both alike, or there is a link without a target. -/
theorem tolerates_resolveWithin (room : Nat) {schema : Schema} (hschema : schema.Confined P) :
    Tolerates r P (r.resolveWithin room schema) (r.permissive.resolveWithin room schema) := by
  rw [resolveWithin, resolveWithin]
  refine (tolerates_follow hP room [] hschema).bind fun found _ => ?_
  cases found <;> exact .agree _

omit hP in
/-- Branches are tolerated together if each of them is. -/
theorem tolerates_mergeBranches {f g : Schema → Except Failure Contribution}
    {branches : List Schema} (h : ∀ branch ∈ branches, Tolerates r P (f branch) (g branch))
    (acc : Schema) :
    Tolerates r P (mergeBranches f branches acc) (mergeBranches g branches acc) := by
  induction branches generalizing acc with
  | nil => exact .agree (some acc)
  | cons branch rest ih =>
      rw [List.forall_mem_cons] at h
      rw [mergeBranches, mergeBranches]
      refine h.1.bind fun contribution _ => ?_
      cases contribution with
      | shape schema => exact ih h.2 _
      | nothing => exact ih h.2 _
      | blocked => exact .agree none

/-- What a branch contributes is tolerated if what is made of its composition is. -/
theorem tolerates_contributionWith
    {f g : List String → Schema → Except Failure (Option Schema)}
    (h : ∀ active schema, schema.Confined P → Tolerates r P (f active schema) (g active schema))
    (room : Nat) (active : List String) {branch : Schema} (hbranch : branch.Confined P) :
    Tolerates r P (r.contributionWith f room active branch)
      (r.permissive.contributionWith g room active branch) := by
  rw [contributionWith, contributionWith]
  refine (tolerates_follow hP room active hbranch).bind fun found hfound => ?_
  cases found with
  | missing => exact .agree _
  | endless => exact .agree _
  | found schema passed =>
      dsimp only
      split
      · exact .agree _
      · have hschema :=
          confined_of_follow (r := r.permissive) (closed_of_forall hP) hbranch hfound
        refine (h passed schema hschema).bind fun merged _ => ?_
        cases merged <;> exact .agree _

/-- A composition is tolerated, in whatever others it stands. -/
theorem tolerates_flatten (room : Nat) (active : List String) {schema : Schema}
    (hschema : schema.Confined P) :
    Tolerates r P (r.flatten room active schema) (r.permissive.flatten room active schema) := by
  induction room generalizing active schema with
  | zero => exact .agree none
  | succ room ih =>
      rw [flatten, flatten]
      refine (tolerates_mergeBranches (fun branch hbranch => ?_) _).bind fun merged _ => ?_
      · exact tolerates_contributionWith hP (fun active schema hschema => ih active hschema) room
          active (hschema.allOf hbranch)
      · cases merged <;> exact .agree _

/-- A schema is made concrete by both alike, or there is a link without a target. -/
theorem tolerates_concreteWithin (room : Nat) {schema : Schema} (hschema : schema.Confined P) :
    Tolerates r P (r.concreteWithin room schema) (r.permissive.concreteWithin room schema) := by
  rw [concreteWithin, concreteWithin]
  refine (tolerates_follow hP room [] hschema).bind fun found hfound => ?_
  cases found with
  | missing => exact .agree none
  | endless => exact .agree none
  | found target active =>
      dsimp only
      split
      · exact .agree (some target)
      · have htarget :=
          confined_of_follow (r := r.permissive) (closed_of_forall hP) hschema hfound
        exact tolerates_flatten hP _ _ htarget

omit hP in
/-- References into one section of the components, whose names it is known to have. -/
theorem tolerates_followItem {place : Section} {items : Entries (RefOr α)}
    {inItem : α → List Link}
    (hhas : ∀ name, items.get? name = none → r.document.components.has place name = false)
    (hitems : ∀ entry ∈ items, ∀ link ∈ entry.2.links place inItem, P link) (room : Nat)
    {item : RefOr α} (hitem : ∀ link ∈ item.links place inItem, P link) :
    Tolerates r P (r.followItem place items room item)
      (r.permissive.followItem place items room item) := by
  induction room generalizing item with
  | zero => exact .agree none
  | succ room ih =>
      cases item with
      | item value => exact .agree (some value)
      | reference target =>
          rw [followItem, followItem]
          split
          · rename_i next hnext
            obtain ⟨name, -, hname⟩ := Option.bind_eq_some_iff.mp hnext
            exact ih (hitems (name, next) (Document.mem_of_get?_eq_some hname))
          · rename_i hnone
            refine tolerates_absent (place, target) (hitem _ (by simp [RefOr.links])) ?_ none
            rw [Document.Dangling]
            cases hname : Reference.componentName? place target with
            | none => rfl
            | some name =>
                rw [hname, Option.bind_some] at hnone
                exact hhas name hnone

/-- The parameter that a reference stands for is tolerated. -/
theorem tolerates_parameter {p : RefOr Parameter} (depth : Nat)
    (h : ∀ link ∈ p.links .parameters Parameter.links, P link) :
    Tolerates r P (r.parameter p depth) (r.permissive.parameter p depth) :=
  tolerates_followItem (fun name hname => by simp [Components.has, hname])
    (fun _ hentry _ hlink => hP _ (Components.mem_links_of_parameter hentry hlink)) _ h

/-- The request body that a reference stands for is. -/
theorem tolerates_requestBody {b : RefOr RequestBody} (depth : Nat)
    (h : ∀ link ∈ bodyLinks b, P link) :
    Tolerates r P (r.requestBody b depth) (r.permissive.requestBody b depth) :=
  tolerates_followItem (fun name hname => by simp [Components.has, hname])
    (fun _ hentry _ hlink => hP _ (Components.mem_links_of_requestBody hentry hlink)) _ h

/-- The response that a reference stands for is. -/
theorem tolerates_response {x : RefOr Response} (depth : Nat)
    (h : ∀ link ∈ responseLinks x, P link) :
    Tolerates r P (r.response x depth) (r.permissive.response x depth) :=
  tolerates_followItem (fun name hname => by simp [Components.has, hname])
    (fun _ hentry _ hlink => hP _ (Components.mem_links_of_response hentry hlink)) _ h

/-! ### Fields -/

/-- The type of a schema is tolerated, with all that it mentions. -/
theorem tolerates_typeWithin (room : Nat) {schema : Schema} (hschema : schema.Confined P) :
    Tolerates r P (r.typeWithin room schema) (r.permissive.typeWithin room schema) := by
  induction room generalizing schema with
  | zero => exact .agree _
  | succ room ih =>
      rw [typeWithin, typeWithin]
      split
      · refine (tolerates_resolveWithin hP (room + 1) hschema).bind fun target htarget => ?_
        cases target with
        | none => exact .agree _
        | some target =>
            dsimp only
            split
            · exact .agree _
            · have hconfined :=
                confined_of_resolveWithin (r := r.permissive) (closed_of_forall hP) hschema htarget
              exact ih hconfined
      · rename_i items hkind
        exact (ih (hschema.elements hkind)).bind fun inner _ => .agree _
      · exact .agree _
      · exact .agree _
      · exact .agree _

/-- A field is tolerated, of which the type may come from references. -/
theorem tolerates_fieldOf (name : String) {schema : Option Schema}
    (hschema : ∀ s ∈ schema, s.Confined P) (required : Bool) (location : FieldLocation)
    (description : Option String) (depth : Nat) :
    Tolerates r P (r.fieldOf name schema required location description depth)
      (r.permissive.fieldOf name schema required location description depth) := by
  have hdefault : (schema.getD (.ofType "string")).Confined P := by
    cases schema with
    | none => exact Schema.confined_ofType "string"
    | some s => exact hschema s rfl
  rw [fieldOf, fieldOf]
  exact (tolerates_typeWithin hP _ hdefault).bind fun use _ =>
    (tolerates_resolveWithin hP _ hdefault).bind fun target _ => .agree _

/-- The fields of an object are tolerated, one by one. -/
theorem tolerates_objectFields {schema : Schema} (hschema : schema.Confined P)
    (location : FieldLocation) (depth : Nat) :
    Tolerates r P (r.objectFields schema location depth)
      (r.permissive.objectFields schema location depth) := by
  refine Tolerates.mapM fun (name, property) hproperty => ?_
  refine tolerates_fieldOf hP name ?_ _ _ _ _
  rintro s ⟨⟩
  exact hschema.property hproperty

/-! ### Responses -/

/-- The struct for an object is tolerated, in its place or under the name of a component. -/
theorem tolerates_record (typePrefix : String) {schema : Schema} (hschema : schema.Confined P)
    (refName : Option String) (role : Role) (depth : Nat) :
    Tolerates r P (r.record typePrefix schema refName role depth)
      (r.permissive.record typePrefix schema refName role depth) := by
  rw [record, record]
  exact (tolerates_objectFields hP hschema _ _).bind fun fields _ => .agree _

/-- What an answer lists is found by both alike, or there is a link without a target. -/
theorem tolerates_elementsOf? {schema : Schema} (hschema : schema.Confined P) (depth : Nat) :
    Tolerates r P (r.elementsOf? schema depth) (r.permissive.elementsOf? schema depth) := by
  rw [elementsOf?, elementsOf?]
  refine (tolerates_resolveWithin hP _ hschema).bind fun target _ => ?_
  cases target with
  | none => exact .agree none
  | some target =>
      dsimp only
      split <;> exact .agree _

/-- The elements of an array have its links, or those of the components. -/
theorem confined_of_elementsOf? {schema items : Schema} {depth : Nat}
    (hschema : schema.Confined P) (h : r.elementsOf? schema depth = .ok (some items)) :
    items.Confined P := by
  obtain ⟨target, htarget, h⟩ := Outcome.bind_eq_ok.mp h
  cases target with
  | none => cases h
  | some target =>
      dsimp only at h
      split at h
      · rename_i elements hkind
        cases h
        exact (confined_of_resolveWithin (closed_of_forall hP) hschema htarget).elements hkind
      · cases h

omit hP in
/-- The first of several shapes is tolerated if each of them is. -/
theorem tolerates_firstShape {f g : Schema → Except Failure (Option ResponseShape)}
    {branches : List Schema} (h : ∀ branch ∈ branches, Tolerates r P (f branch) (g branch)) :
    Tolerates r P (firstShape (branches.map fun branch _ => f branch))
      (firstShape (branches.map fun branch _ => g branch)) := by
  induction branches with
  | nil => exact .agree none
  | cons branch rest ih =>
      rw [List.forall_mem_cons] at h
      rw [List.map_cons, List.map_cons, firstShape, firstShape]
      refine h.1.bind fun shape _ => ?_
      cases shape with
      | none => exact ih h.2
      | some shape => exact .agree (some shape)

/-- The struct for an object that an answer holds is tolerated. -/
theorem tolerates_ownRecord (typePrefix : String) (room : Nat) (refName : Option String)
    {schema : Schema} (hschema : schema.Confined P) (role : Role)
    (properties : List (String × Schema)) :
    Tolerates r P (r.ownRecord typePrefix room refName schema role properties)
      (r.permissive.ownRecord typePrefix room refName schema role properties) := by
  rw [ownRecord, ownRecord]
  split
  · exact .agree none
  · exact tolerates_record hP _ hschema _ _ _

/-- The shape of a schema is tolerated, in whatever schemas of the answer it stands. -/
theorem tolerates_shapeWithin (typePrefix : String) (room : Nat) (refName : Option String)
    {schema : Schema} (hschema : schema.Confined P) (role : Role)
    (active : List (String × Role)) :
    Tolerates r P (r.shapeWithin typePrefix room refName schema role active)
      (r.permissive.shapeWithin typePrefix room refName schema role active) := by
  induction room generalizing refName schema role active with
  | zero => exact .agree none
  | succ room ih =>
      by_cases hobject : ∃ properties, schema.kind = .object properties
      · obtain ⟨properties, hkind⟩ := hobject
        obtain rfl := Schema.properties_of_kind_eq_object hkind
        rw [shapeWithin_object _ _ _ _ _ _ hkind, shapeWithin_object _ _ _ _ _ _ hkind]
        split
        · rename_i data hdata
          exact ih _ (hschema.lookup (lookup_of_payload? hdata)) _ _
        · split
          · rename_i list hlist
            have hconfined := hschema.lookup (lookup_of_page? hlist)
            refine (tolerates_elementsOf? hP hconfined _).bind fun items hitems => ?_
            cases items with
            | none => exact tolerates_ownRecord hP _ _ _ hschema _ _
            | some items =>
                have helements := confined_of_elementsOf? (r := r.permissive) hP hconfined hitems
                exact (ih _ helements _ _).bind fun shape _ => .agree _
          · exact tolerates_ownRecord hP _ _ _ hschema _ _
      · rw [shapeWithin, shapeWithin]
        split
        · split
          · exact .agree none
          · refine (tolerates_resolveWithin hP (room + 1) hschema).bind fun target htarget => ?_
            cases target with
            | none => exact .agree none
            | some target =>
                have hconfined := confined_of_resolveWithin (r := r.permissive)
                  (closed_of_forall hP) hschema htarget
                exact ih _ hconfined _ _
        · split
          · refine (tolerates_concreteWithin hP room hschema).bind fun merged hmerged => ?_
            cases merged with
            | none => exact .agree none
            | some merged =>
                have hconfined := confined_of_concreteWithin (r := r.permissive)
                  (closed_of_forall hP) hschema hmerged
                exact ih _ hconfined _ _
          · split
            · exact tolerates_firstShape fun branch hbranch =>
                ih none (hschema.choice hbranch) role active
            · split
              · rename_i properties hkind
                exact absurd ⟨properties, hkind⟩ hobject
              · rename_i items hkind
                split
                · exact .agree none
                · exact (ih _ (hschema.elements hkind) _ _).bind fun shape _ => .agree _
              · exact .agree none

omit hP in
/-- The JSON schema of a body is that of one of its media types. -/
theorem exists_media_of_jsonSchema? {content : Entries MediaType} {schema : Schema}
    (h : jsonSchema? content = some schema) : ∃ entry ∈ content, entry.2.schema = some schema := by
  have hfirst : ∀ p : String → Bool, (content.findSome? fun entry : String × MediaType =>
      if p (String.ofList (Text.asciiLower entry.1.toList)) then entry.2.schema else none) =
        some schema → ∃ entry ∈ content, entry.2.schema = some schema := by
    intro p hp
    obtain ⟨entry, hentry, hmedia⟩ := List.exists_of_findSome?_eq_some hp
    split at hmedia
    · exact ⟨entry, hentry, hmedia⟩
    · cases hmedia
  simp only [jsonSchema?, Option.orElse_eq_or, Option.or_eq_some_iff] at h
  rcases h with (hnamed | ⟨-, hnamed⟩) | ⟨-, hnamed⟩
  · exact hfirst (· == "application/json") hnamed
  · exact hfirst (fun type => Text.contains "json".toList type.toList) hnamed
  · exact hfirst (· == "*/*") hnamed

omit hP in
/-- A schema of one of the media types of a body has links of its content. -/
theorem confined_of_content {content : Entries MediaType}
    (hcontent : ∀ link ∈ contentLinks content, P link) {schema : Schema}
    (h : ∃ entry ∈ content, entry.2.schema = some schema) : schema.Confined P := by
  obtain ⟨⟨type, media⟩, hentry, hschema⟩ := h
  intro link hlink
  refine hcontent link (List.mem_flatMap.mpr ⟨(type, media), hentry, ?_⟩)
  exact List.mem_flatMap.mpr ⟨schema, Option.mem_toList.mpr hschema, hlink⟩

/-- **The shape of the answer of an operation is tolerated.** -/
theorem tolerates_responseShape {op : Operation} (hop : ∀ link ∈ op.links, P link)
    (typePrefix : String) :
    Tolerates r P (r.responseShape op typePrefix) (r.permissive.responseShape op typePrefix) := by
  rw [responseShape, responseShape]
  split
  · exact .agree none
  · rename_i entry hentry
    have hlinks : ∀ link ∈ responseLinks entry, P link := fun link hlink =>
      hop link (Operation.mem_links_of_response (Document.mem_of_get?_eq_some hentry) hlink)
    refine (tolerates_response hP 0 hlinks).bind fun response hresponse => ?_
    cases response with
    | none => exact .agree none
    | some response =>
        dsimp only
        split
        · exact .agree none
        · rename_i schema hschema
          have hcontent := forall_links_of_response (r := r.permissive) hP hlinks hresponse
          have hconfined := confined_of_content hcontent (exists_media_of_jsonSchema? hschema)
          exact (tolerates_shapeWithin hP _ _ _ hconfined _ _).bind fun shape _ => .agree _

/-! ### Endpoints -/

/-- The fields for parameters are tolerated, in their place or by reference. -/
theorem tolerates_parameterFields {parameters : List (RefOr Parameter)}
    (hparameters : ∀ link ∈ parameterLinks parameters, P link) :
    Tolerates r P (r.parameterFields parameters) (r.permissive.parameterFields parameters) := by
  induction parameters with
  | nil => exact .agree ([], [])
  | cons entry rest ih =>
      rw [parameterLinks, List.flatMap_cons, List.forall_mem_append] at hparameters
      specialize ih hparameters.2
      rw [parameterFields, parameterFields]
      refine (tolerates_parameter hP 0 hparameters.1).bind fun p hp => ?_
      cases p with
      | none => exact ih
      | some p =>
          have hlinks := forall_links_of_parameter (r := r.permissive) hP hparameters.1 hp
          have hschema : ∀ s ∈ p.schema, s.Confined P := by
            intro s hs link hlink
            exact hlinks link (List.mem_flatMap.mpr ⟨s, Option.mem_toList.mpr hs, hlink⟩)
          dsimp only
          split
          · exact (tolerates_fieldOf hP _ hschema _ _ _ _).bind fun field _ =>
              ih.bind fun fields _ => .agree _
          · exact (tolerates_fieldOf hP _ hschema _ _ _ _).bind fun field _ =>
              ih.bind fun fields _ => .agree _
          · exact ih

/-- The fields for the parts of a path are, as these have no references. -/
theorem tolerates_pathFields (path : String) (declared : List Field) :
    Tolerates r P (r.pathFields path declared) (r.permissive.pathFields path declared) := by
  rw [pathFields, pathFields]
  refine (Tolerates.mapM fun name _ => ?_).bind fun fields _ => .agree _
  split
  · exact .agree _
  · exact tolerates_fieldOf hP _ (by rintro s ⟨⟩) _ _ _ _

/-- The fields for the body of a request are, in its place or by reference. -/
theorem tolerates_bodyFields {body : Option (RefOr RequestBody)}
    (hbody : ∀ link ∈ body.toList.flatMap bodyLinks, P link) :
    Tolerates r P (r.bodyFields body) (r.permissive.bodyFields body) := by
  cases body with
  | none => exact .agree []
  | some entry =>
      rw [Option.toList_some, List.flatMap_singleton] at hbody
      rw [bodyFields, bodyFields]
      refine (tolerates_requestBody hP 0 hbody).bind fun body hfound => ?_
      cases body with
      | none => exact .agree []
      | some body =>
          dsimp only
          split
          · exact .agree []
          · rename_i schema hschema
            have hcontent := forall_links_of_requestBody (r := r.permissive) hP hbody hfound
            have hconfined : schema.Confined P := by
              refine confined_of_content hcontent ?_
              rcases Option.or_eq_some_iff.mp hschema with hjson | ⟨-, hfirst⟩
              · exact exists_media_of_jsonSchema? hjson
              · exact List.exists_of_findSome?_eq_some hfirst
            refine (tolerates_concreteWithin hP _ hconfined).bind fun object hobject => ?_
            cases object with
            | none => exact .agree []
            | some object =>
                have hmerged := confined_of_concreteWithin (r := r.permissive)
                  (closed_of_forall hP) hconfined hobject
                exact tolerates_objectFields hP hmerged .body 2

/-- An endpoint is tolerated under each name that its method may have. -/
theorem tolerates_endpointNamed (method path : String) {op : Operation}
    (hop : ∀ link ∈ op.links, P link) (methodName : String) :
    Tolerates r P (r.endpointNamed method path op methodName)
      (r.permissive.endpointNamed method path op methodName) := by
  have hlinks := hop
  simp only [Operation.links, List.forall_mem_append] at hlinks
  rw [endpointNamed, endpointNamed]
  exact (tolerates_parameterFields hP hlinks.1.1).bind fun parameters _ =>
    (tolerates_pathFields hP _ _).bind fun pathParams _ =>
      (tolerates_bodyFields hP hlinks.1.2).bind fun bodyFields _ =>
        (tolerates_responseShape hP hop _).bind fun response _ => .agree _

/-- The endpoints of operations are tolerated, whatever names are used before them. -/
theorem tolerates_endpointsFrom (used : List String) {operations : List ModuleOperation}
    (h : ∀ entry ∈ operations, ∀ link ∈ entry.operation.links, P link) :
    Tolerates r P (r.endpointsFrom used operations)
      (r.permissive.endpointsFrom used operations) := by
  induction operations generalizing used with
  | nil => exact .agree []
  | cons entry rest ih =>
      rw [List.forall_mem_cons] at h
      rw [endpointsFrom, endpointsFrom]
      exact (tolerates_endpointNamed hP _ _ h.1 _).bind fun endpoint _ =>
        (ih _ h.2).bind fun endpoints _ => .agree _

/-! ### Models and views -/

/-- The object that a component stands for is tolerated, as components are part of the document. -/
theorem tolerates_componentObject (component : String) (depth : Nat) :
    Tolerates r P (r.componentObject component depth)
      (r.permissive.componentObject component depth) := by
  have hcomponent : r.permissive.component? component = r.component? component := rfl
  rw [componentObject, componentObject, hcomponent]
  split
  · exact .agree none
  · rename_i schema hschema
    exact tolerates_concreteWithin hP _ (confined_of_get? hP hschema)

/-- The object of a component has links of the components. -/
theorem confined_of_componentObject {component : String} {depth : Nat} {object : Schema}
    (h : r.componentObject component depth = .ok (some object)) : object.Confined P := by
  rw [componentObject] at h
  split at h
  · cases h
  · rename_i schema hschema
    exact confined_of_concreteWithin (closed_of_forall hP) (confined_of_get? hP hschema) h

/-- The structs for some components are tolerated. -/
theorem tolerates_addComponents (depth : Nat) (components : List String)
    (models : Entries Model) :
    Tolerates r P (r.addComponents depth components models)
      (r.permissive.addComponents depth components models) := by
  induction components generalizing models with
  | nil => exact .agree (models, [])
  | cons component rest ih =>
      rw [addComponents_cons, addComponents_cons]
      split
      · exact ih models
      · refine (tolerates_componentObject hP component depth).bind fun object hobject => ?_
        cases object with
        | none => exact ih models
        | some object =>
            have hconfined := confined_of_componentObject (r := r.permissive) hP hobject
            exact (tolerates_objectFields hP hconfined _ _).bind fun fields _ =>
              (ih _).bind fun found _ => .agree _

/-- The structs for components and for all that these mention are. -/
theorem tolerates_closeModels (room : Nat) (pending : List String) (models : Entries Model) :
    Tolerates r P (r.closeModels room pending models)
      (r.permissive.closeModels room pending models) := by
  induction room generalizing pending models with
  | zero => exact .agree models
  | succ room ih =>
      cases pending with
      | nil => exact .agree models
      | cons component rest =>
          have hdepth : r.permissive.maxDepth = r.maxDepth := rfl
          simp only [closeModels, hdepth]
          exact (tolerates_addComponents hP _ _ _).bind fun found _ => ih _ _

/-- **The structs of a module are tolerated**, whatever its endpoints mention. -/
theorem tolerates_models (endpoints : List Endpoint) :
    Tolerates r P (r.models endpoints) (r.permissive.models endpoints) := by
  rw [models, models]
  exact (tolerates_closeModels hP _ _ _).bind fun models _ => .agree _

/-- **The view of a module**, strictly and permissively. -/
theorem tolerates_build (m : ApiModule) (package : String)
    (hm : ∀ entry ∈ m.operations, ∀ link ∈ entry.operation.links, P link) :
    Tolerates r P (ModuleView.build m package r) (ModuleView.build m package r.permissive) := by
  rw [ModuleView.build, ModuleView.build]
  exact (tolerates_endpointsFrom hP [] hm).bind fun endpoints _ =>
    (tolerates_models hP endpoints).bind fun models _ => .agree _

end Following

/-- **A permissive resolver always gives a view.** -/
theorem exists_build_eq_ok (h : r.strict = false) (m : ApiModule) (package : String) :
    ∃ view, ModuleView.build m package r = .ok view := by
  have hbuild := tolerates_build (r := r) (P := fun _ => True) (fun _ _ => trivial) m package
    fun _ _ _ _ => trivial
  rw [permissive_eq_self h] at hbuild
  exact hbuild.exists_ok

/-- **What a view can fail on**: a link without a target, if the resolver is strict. -/
theorem of_build_eq_error {m : ApiModule} {package : String} {failure : Failure}
    (h : ModuleView.build m package r = .error failure) :
    r.strict = true ∧ ∃ link : Link, r.document.Dangling link ∧
      failure = .unresolvable link.2 := by
  have hbuild := tolerates_build (r := r) (P := fun _ => True) (fun _ _ => trivial) m package
    fun _ _ _ _ => trivial
  rw [h] at hbuild
  obtain ⟨hstrict, link, -, hdangling, rfl⟩ := hbuild.of_error
  exact ⟨hstrict, link, hdangling, rfl⟩

end Resolver

/-! ### The modules of a document -/

namespace ApiModule

/-- **The operations of a module have links of the document**: their own, and those of the
parameters that they inherit. -/
theorem mem_links_of_ofDocument {d : Document} {name : String} {entry : ModuleOperation}
    {link : Link} (hentry : entry ∈ (ofDocument d name).operations)
    (hlink : link ∈ entry.operation.links) : link ∈ d.links := by
  obtain ⟨route, hroute, rfl⟩ := List.mem_map.mp hentry
  obtain ⟨⟨path, item⟩, hitem, hroute⟩ := List.mem_flatMap.mp (List.mem_filter.mp hroute).1
  obtain ⟨⟨method, op⟩, hop, rfl⟩ := List.mem_map.mp hroute
  have hlinks : link ∈ parameterLinks item.parameters ∨ link ∈ op.links := by
    simp only [inheritParameters, Operation.links, parameterLinks, List.flatMap_append,
      List.mem_append] at hlink ⊢
    rcases hlink with ((hinherited | hown) | hbody) | hresponse
    · obtain ⟨p, hp, hlink⟩ := List.mem_flatMap.mp hinherited
      exact Or.inl (List.mem_flatMap.mpr ⟨p, (List.mem_filter.mp hp).1, hlink⟩)
    · exact Or.inr (Or.inl (Or.inl hown))
    · exact Or.inr (Or.inl (Or.inr hbody))
    · exact Or.inr (Or.inr hresponse)
  refine List.mem_append_left _ (List.mem_flatMap.mpr ⟨(path, item), hitem, ?_⟩)
  rw [PathItem.links, List.mem_append]
  exact hlinks.imp id fun hlink => List.mem_flatMap.mpr ⟨(method, op), hop, hlink⟩

end ApiModule

/-- **The two modes on a module of a document.** The permissive resolver always gives a view.
The strict one gives the same view or fails, and what it fails on is a link of the document
that has no target in the section of the components that it is looked up in. -/
theorem build_strict_and_permissive (d : Document) (name package : String) (maxDepth : Nat) :
    (∃ view, ModuleView.build (ApiModule.ofDocument d name) package
        { document := d, maxDepth, strict := false } = .ok view) ∧
      (∀ view, ModuleView.build (ApiModule.ofDocument d name) package
          { document := d, maxDepth, strict := true } = .ok view →
        ModuleView.build (ApiModule.ofDocument d name) package
          { document := d, maxDepth, strict := false } = .ok view) ∧
      ∀ failure, ModuleView.build (ApiModule.ofDocument d name) package
          { document := d, maxDepth, strict := true } = .error failure →
        ∃ link ∈ d.links, d.Dangling link ∧ failure = .unresolvable link.2 := by
  have h := Resolver.tolerates_build (r := { document := d, maxDepth, strict := true })
    (P := (· ∈ d.links)) (fun link hlink => List.mem_append_right _ hlink)
    (ApiModule.ofDocument d name) package
    fun _ hentry _ hlink => ApiModule.mem_links_of_ofDocument hentry hlink
  refine ⟨h.exists_ok, fun view hview => ?_, fun failure hfailure => ?_⟩
  · rw [hview] at h
    exact h.eq_ok
  · rw [hfailure] at h
    obtain ⟨-, link, hlink, hdangling, rfl⟩ := h.of_error
    exact ⟨link, hlink, hdangling, rfl⟩

/-- A document of one operation, whose response has no target. -/
def unanswered : Document where
  paths := [("/pets", {
    get := some {
      tags := ["pets"]
      responses := [("200", .reference "#/components/responses/Pets")] } })]

/-- The strict resolver stops at the response, and the permissive one does without. -/
theorem build_strict_and_permissive_unanswered :
    (∃ view, ModuleView.build (ApiModule.ofDocument unanswered "pets") "shop"
        { document := unanswered, maxDepth := 100, strict := false } = .ok view) ∧
      ∃ link ∈ unanswered.links, unanswered.Dangling link ∧
        Failure.unresolvable "#/components/responses/Pets" = .unresolvable link.2 := by
  have h := build_strict_and_permissive unanswered "pets" "shop" 100
  exact ⟨h.1, h.2.2 _ rfl⟩

end ServiceGen
