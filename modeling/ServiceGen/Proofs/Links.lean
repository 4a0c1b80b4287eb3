import ServiceGen.Proofs.Chains

/-!
# Links of a Document

A link is a reference together with the section of the components that it is looked up in.
Where a reference stands decides that: one in place of a schema is looked up among the
schemas, one in place of a parameter among the parameters, and so on. `Document.links` lists
the links of a document, part by part.

Following references and merging compositions brings no links about. What is found along a
reference has links of the components (`confined_of_follow`, `forall_links_of_followItem`), and
a merged schema has links of its branches (`confined_of_flatten`).
-/

namespace ServiceGen

/-- A reference, and the section of the components that it is looked up in. -/
abbrev Link := Section × String

namespace Schema

mutual

/-- The references in a schema: its own, and those of its parts. What a schema rules out is no
part of it. -/
def references : Schema → List String
  | ⟨reference, _, _, _, _, properties, items, _, allOf, oneOf, anyOf, _, _, _, _, _, _, _, _,
      _⟩ =>
    reference.toList ++ propertyReferences properties ++ itemReferences items
      ++ branchReferences allOf ++ branchReferences oneOf ++ branchReferences anyOf

/-- The references in a schema, if there is one. -/
def itemReferences : Option Schema → List String
  | some schema => schema.references
  | none => []

/-- The references in the branches of a composition. -/
def branchReferences : List Schema → List String
  | [] => []
  | schema :: schemas => schema.references ++ branchReferences schemas

/-- The references in the properties of an object. -/
def propertyReferences : List (String × Schema) → List String
  | [] => []
  | (_, schema) :: properties => schema.references ++ propertyReferences properties

end

/-- The links of a schema. -/
def links (s : Schema) : List Link :=
  s.references.map (Section.schemas, ·)

end Schema

/-- The links of the content of a body. -/
def contentLinks (content : Entries MediaType) : List Link :=
  content.flatMap fun (_, media) => media.schema.toList.flatMap Schema.links

/-- The links of a parameter. -/
def Parameter.links (p : Parameter) : List Link :=
  p.schema.toList.flatMap Schema.links

/-- The link that a reference into a section is, or the links of the item in its place. -/
def RefOr.links {α : Type} (place : Section) (inItem : α → List Link) : RefOr α → List Link
  | .reference target => [(place, target)]
  | .item value => inItem value

/-- The links of parameters. -/
def parameterLinks (parameters : List (RefOr Parameter)) : List Link :=
  parameters.flatMap (RefOr.links .parameters Parameter.links)

/-- The links of a request body, or of a reference to one. -/
def bodyLinks (body : RefOr RequestBody) : List Link :=
  body.links .requestBodies (contentLinks ·.content)

/-- The links of a response, or of a reference to one. -/
def responseLinks (response : RefOr Response) : List Link :=
  response.links .responses (contentLinks ·.content)

/-- The links of an operation. -/
def Operation.links (op : Operation) : List Link :=
  parameterLinks op.parameters ++ op.requestBody.toList.flatMap bodyLinks
    ++ op.responses.flatMap (responseLinks ·.2)

/-- The links of a path item. -/
def PathItem.links (item : PathItem) : List Link :=
  parameterLinks item.parameters ++ item.operations.flatMap (·.2.links)

/-- The links of the components. -/
def Components.links (c : Components) : List Link :=
  c.schemas.flatMap (·.2.links) ++ c.parameters.flatMap (·.2.links .parameters Parameter.links)
    ++ c.requestBodies.flatMap (bodyLinks ·.2) ++ c.responses.flatMap (responseLinks ·.2)

/-- The links of a document. -/
def Document.links (d : Document) : List Link :=
  d.paths.flatMap (·.2.links) ++ d.components.links

/-! ### Links of the components -/

namespace Components

variable {c : Components} {link : Link}

/-- The links of a schema are links of the components that it is one of. -/
theorem mem_links_of_schema {entry : String × Schema} (hentry : entry ∈ c.schemas)
    (hlink : link ∈ entry.2.links) : link ∈ c.links := by
  simp only [links, List.mem_append, List.mem_flatMap]
  exact Or.inl (Or.inl (Or.inl ⟨entry, hentry, hlink⟩))

/-- The links of a parameter are. -/
theorem mem_links_of_parameter {entry : String × RefOr Parameter}
    (hentry : entry ∈ c.parameters) (hlink : link ∈ entry.2.links .parameters Parameter.links) :
    link ∈ c.links := by
  simp only [links, List.mem_append, List.mem_flatMap]
  exact Or.inl (Or.inl (Or.inr ⟨entry, hentry, hlink⟩))

/-- The links of a request body are. -/
theorem mem_links_of_requestBody {entry : String × RefOr RequestBody}
    (hentry : entry ∈ c.requestBodies) (hlink : link ∈ bodyLinks entry.2) : link ∈ c.links := by
  simp only [links, List.mem_append, List.mem_flatMap]
  exact Or.inl (Or.inr ⟨entry, hentry, hlink⟩)

/-- The links of a response are. -/
theorem mem_links_of_response {entry : String × RefOr Response} (hentry : entry ∈ c.responses)
    (hlink : link ∈ responseLinks entry.2) : link ∈ c.links := by
  simp only [links, List.mem_append, List.mem_flatMap]
  exact Or.inr ⟨entry, hentry, hlink⟩

end Components

/-- The links of a response are among those of its operation. -/
theorem Operation.mem_links_of_response {op : Operation} {status : String}
    {response : RefOr Response} {link : Link} (h : (status, response) ∈ op.responses)
    (hlink : link ∈ responseLinks response) : link ∈ op.links :=
  List.mem_append_right _ (List.mem_flatMap.mpr ⟨(status, response), h, hlink⟩)

/-! ### Links of the parts of a schema -/

namespace Schema

/-- The references in items are those of the schema of the items. -/
theorem itemReferences_eq (items : Option Schema) :
    itemReferences items = items.toList.flatMap references := by
  cases items <;> simp [itemReferences]

/-- The references in branches are those of all branches. -/
theorem branchReferences_eq (branches : List Schema) :
    branchReferences branches = branches.flatMap references := by
  induction branches with
  | nil => simp [branchReferences]
  | cons branch branches ih => simp [branchReferences, ih]

/-- The references in properties are those of all their schemas. -/
theorem propertyReferences_eq (properties : List (String × Schema)) :
    propertyReferences properties = properties.flatMap (·.2.references) := by
  induction properties with
  | nil => simp [propertyReferences]
  | cons property properties ih => simp [propertyReferences, ih]

/-- **The links of a schema, part by part.** -/
theorem links_eq (s : Schema) :
    s.links = s.reference.toList.map (Section.schemas, ·) ++ s.properties.flatMap (·.2.links)
      ++ s.items.toList.flatMap links ++ s.allOf.flatMap links ++ s.oneOf.flatMap links
      ++ s.anyOf.flatMap links := by
  cases s
  simp only [links, references, itemReferences_eq, branchReferences_eq, propertyReferences_eq,
    List.map_append, List.map_flatMap]
  rfl

/-- All links of a schema have a property. -/
def Confined (P : Link → Prop) (s : Schema) : Prop :=
  ∀ link ∈ s.links, P link

variable {P : Link → Prop} {s t : Schema}

/-- **What it means that a schema is confined**: its reference is, and all schemas in it are. -/
theorem confined_iff : s.Confined P ↔
    (∀ reference, s.reference = some reference → P (.schemas, reference)) ∧
      (∀ property ∈ s.properties, property.2.Confined P) ∧
      (∀ items, s.items = some items → items.Confined P) ∧
      (∀ branch ∈ s.allOf, branch.Confined P) ∧
      ∀ branch ∈ s.oneOf ++ s.anyOf, branch.Confined P := by
  rw [Confined, links_eq]
  simp only [List.forall_mem_append, List.forall_mem_map, List.forall_mem_flatMap,
    Option.mem_toList, Confined, and_assoc]

theorem Confined.reference {reference : String} (h : s.Confined P)
    (hreference : s.reference = some reference) : P (.schemas, reference) :=
  (confined_iff.mp h).1 reference hreference

theorem Confined.property {property : String × Schema} (h : s.Confined P)
    (hproperty : property ∈ s.properties) : property.2.Confined P :=
  (confined_iff.mp h).2.1 property hproperty

theorem Confined.items {items : Schema} (h : s.Confined P) (hitems : s.items = some items) :
    items.Confined P :=
  (confined_iff.mp h).2.2.1 items hitems

theorem Confined.allOf {branch : Schema} (h : s.Confined P) (hbranch : branch ∈ s.allOf) :
    branch.Confined P :=
  (confined_iff.mp h).2.2.2.1 branch hbranch

theorem Confined.choice {branch : Schema} (h : s.Confined P)
    (hbranch : branch ∈ s.oneOf ++ s.anyOf) : branch.Confined P :=
  (confined_iff.mp h).2.2.2.2 branch hbranch

/-- The property of a name has links of the schema. -/
theorem Confined.lookup {name : String} (h : s.Confined P)
    (hlookup : s.properties.lookup name = some t) : t.Confined P := by
  obtain ⟨before, after, heq, -⟩ := List.lookup_eq_some_iff.mp hlookup
  have hmem : (name, t) ∈ s.properties := heq ▸ List.mem_append_right before List.mem_cons_self
  exact h.property hmem

/-- The items of an array are those of the schema. -/
theorem items_of_kind_eq_array {items : Schema} (h : s.kind = .array (some items)) :
    s.items = some items := by
  rw [kind] at h
  split at h
  · cases h
  · split at h
    · cases h
    · split at h
      · cases h
      · exact SchemaKind.array.inj h
      · cases h
      · split at h
        · cases h
        · split at h
          · exact SchemaKind.array.inj h
          · cases h

/-- The properties of an object are those of the schema. -/
theorem properties_of_kind_eq_object {properties : List (String × Schema)}
    (h : s.kind = .object properties) : s.properties = properties := by
  rw [kind] at h
  split at h
  · cases h
  · split at h
    · cases h
    · split at h
      · cases h
        rfl
      · cases h
      · cases h
      · split at h
        · cases h
          rfl
        · split at h <;> cases h

/-- The elements of an array have its links. -/
theorem Confined.elements {items : Schema} (h : s.Confined P)
    (hkind : s.kind = .array (some items)) : items.Confined P :=
  h.items (items_of_kind_eq_array hkind)

theorem confined_ofType (name : String) : (ofType name).Confined P := by
  rw [confined_iff]
  simp [ofType]

/-! ### Merged schemas -/

theorem confined_default : ({} : Schema).Confined P := by
  rw [confined_iff]
  simp

/-- Properties that are added to others are these and those. -/
theorem forall_mem_addProperties {Q : String × Schema → Prop}
    {properties more : List (String × Schema)} (h : ∀ property ∈ properties, Q property)
    (hmore : ∀ property ∈ more, Q property) :
    ∀ property ∈ addProperties properties more, Q property := by
  induction more generalizing properties with
  | nil => exact h
  | cons property more ih =>
      rw [List.forall_mem_cons] at hmore
      rw [addProperties]
      split
      · exact ih h hmore.2
      · refine ih (List.forall_mem_append.mpr ⟨h, ?_⟩) hmore.2
        rw [List.forall_mem_singleton]
        exact hmore.1

/-- **What a branch adds to a schema** are links of the branch. -/
theorem Confined.absorb (hs : s.Confined P) (ht : t.Confined P) : (s.absorb t).Confined P := by
  obtain ⟨hreference, hproperties, hitems, hallOf, hchoice⟩ := confined_iff.mp hs
  refine confined_iff.mpr ⟨hreference, ?_, hitems, hallOf, hchoice⟩
  exact forall_mem_addProperties hproperties fun property hproperty => ht.property hproperty

/-- A confined schema stays so without its composition. -/
theorem Confined.withoutAllOf (h : s.Confined P) :
    ({ s with allOf := [] } : Schema).Confined P := by
  obtain ⟨hreference, hproperties, hitems, -, hchoice⟩ := confined_iff.mp h
  exact confined_iff.mpr ⟨hreference, hproperties, hitems, by simp, hchoice⟩

/-- A confined schema stays so if it is taken for an object. -/
theorem Confined.orObject (h : s.Confined P) : s.orObject.Confined P := by
  rw [Schema.orObject]
  split
  · obtain ⟨hreference, hproperties, hitems, hallOf, hchoice⟩ := confined_iff.mp h
    exact confined_iff.mpr ⟨hreference, hproperties, hitems, hallOf, hchoice⟩
  · exact h

end Schema

/-! ### What is found along a reference -/

namespace Document

variable {d : Document} {P : Link → Prop}

/-- The schema of a component has links of the components. -/
theorem confined_of_get? (hP : ∀ link ∈ d.components.links, P link) {name : String} {s : Schema}
    (h : d.components.schemas.get? name = some s) : s.Confined P :=
  fun link hlink => hP link (Components.mem_links_of_schema (mem_of_get?_eq_some h) hlink)

/-- A property of links is passed on along references: if a reference has it, so do the links of the
component that it leads to. -/
def Closed (d : Document) (P : Link → Prop) : Prop :=
  ∀ {s name t}, s.Confined P → d.Refers s name t → t.Confined P

/-- What holds of the links of the components is passed on. -/
theorem closed_of_forall (hP : ∀ link ∈ d.components.links, P link) : d.Closed P := by
  rintro s name t - ⟨-, -, -, hget⟩
  exact confined_of_get? hP hget

/-- **A property that is passed on holds at the end of a chain** if it does at its beginning. -/
theorem Closed.chain (hP : d.Closed P) {s t : Schema} {names : List String}
    (h : d.Chain s names t) (hs : s.Confined P) : t.Confined P := by
  induction h with
  | here => exact hs
  | step hrefers hchain ih => exact ih (hP hs hrefers)

end Document

namespace Resolver

variable {r : Resolver} {P : Link → Prop}

section Closed

variable (hP : r.document.Closed P)
include hP

/-- The end of a chain has links of the beginning, or of the components. -/
theorem confined_of_follow {room : Nat} {active passed : List String} {s t : Schema}
    (hs : s.Confined P) (h : r.follow room active s = .ok (.found t passed)) : t.Confined P := by
  cases followed_of_follow_eq_ok h with
  | found hchain hend => exact hP.chain hchain hs

/-- **What a chain leads to is confined** where all components are. -/
theorem confined_of_resolveWithin {room : Nat} {s t : Schema} (hs : s.Confined P)
    (h : r.resolveWithin room s = .ok (some t)) : t.Confined P := by
  obtain ⟨found, hfound, h⟩ := Outcome.bind_eq_ok.mp h
  cases found with
  | found target active =>
      cases h
      exact confined_of_follow hP hs hfound
  | missing => cases h
  | endless => cases h

omit hP in
/-- Branches are merged into a schema with their links. -/
theorem confined_of_mergeBranches {contribution : Schema → Except Failure Contribution}
    {branches : List Schema} {acc merged : Schema}
    (hbranches : ∀ branch ∈ branches, ∀ shape,
      contribution branch = .ok (.shape shape) → shape.Confined P)
    (hacc : acc.Confined P) (h : mergeBranches contribution branches acc = .ok (some merged)) :
    merged.Confined P := by
  induction branches generalizing acc with
  | nil =>
      cases h
      exact hacc
  | cons branch rest ih =>
      rw [List.forall_mem_cons] at hbranches
      obtain ⟨c, hc, h⟩ := Outcome.bind_eq_ok.mp h
      cases c with
      | shape shape => exact ih hbranches.2 (hacc.absorb (hbranches.1 shape hc)) h
      | nothing => exact ih hbranches.2 hacc h
      | blocked => cases h

/-- A branch contributes a schema with links of its own, or of the components, if flattening a
composition does not bring any about. -/
theorem confined_of_contributionWith
    {flatten : List String → Schema → Except Failure (Option Schema)} {room : Nat}
    {active : List String} {branch shape : Schema}
    (hflatten : ∀ active s merged, s.Confined P → flatten active s = .ok (some merged) →
      merged.Confined P)
    (hbranch : branch.Confined P)
    (h : r.contributionWith flatten room active branch = .ok (.shape shape)) :
    shape.Confined P := by
  obtain ⟨found, hfound, h⟩ := Outcome.bind_eq_ok.mp h
  cases found with
  | missing => cases h
  | endless => cases h
  | found s passed =>
      have hs := confined_of_follow hP hbranch hfound
      dsimp only at h
      split at h
      · cases h
        exact hs
      · obtain ⟨merged, hmerged, h⟩ := Outcome.bind_eq_ok.mp h
        cases merged with
        | none => cases h
        | some _ =>
            cases h
            exact hflatten passed s shape hs hmerged

/-- **A composition is flattened** into a schema with links of its own, or of the components. -/
theorem confined_of_flatten {room : Nat} {active : List String} {s merged : Schema}
    (hs : s.Confined P) (h : r.flatten room active s = .ok (some merged)) :
    merged.Confined P := by
  induction room generalizing active s merged with
  | zero => cases h
  | succ room ih =>
      rw [flatten] at h
      obtain ⟨acc, hacc, h⟩ := Outcome.bind_eq_ok.mp h
      cases acc with
      | none => cases h
      | some acc =>
          cases h
          have hmerged : acc.Confined P := by
            refine confined_of_mergeBranches (fun branch hbranch shape hshape => ?_)
              Schema.confined_default hacc
            exact confined_of_contributionWith hP
              (fun active s merged hs hmerged => ih hs hmerged) (hs.allOf hbranch) hshape
          exact (hmerged.absorb hs.withoutAllOf).orObject

/-- **What a composition is put together to is confined** where all components are. -/
theorem confined_of_concreteWithin {room : Nat} {s t : Schema} (hs : s.Confined P)
    (h : r.concreteWithin room s = .ok (some t)) : t.Confined P := by
  obtain ⟨found, hfound, h⟩ := Outcome.bind_eq_ok.mp h
  cases found with
  | missing => cases h
  | endless => cases h
  | found target active =>
      have htarget := confined_of_follow hP hs hfound
      dsimp only at h
      split at h
      · cases h
        exact htarget
      · exact confined_of_flatten hP htarget h

end Closed

/-- An item at the end of a chain through a section has links of the beginning, or of the
section. -/
theorem forall_links_of_followItem {α : Type} {place : Section} {items : Entries (RefOr α)}
    (inItem : α → List Link)
    (hitems : ∀ entry ∈ items, ∀ link ∈ entry.2.links place inItem, P link) {room : Nat}
    {item : RefOr α} {value : α} (hitem : ∀ link ∈ item.links place inItem, P link)
    (h : r.followItem place items room item = .ok (some value)) :
    ∀ link ∈ inItem value, P link := by
  induction room generalizing item with
  | zero => cases h
  | succ room ih =>
      cases item with
      | item found =>
          cases h
          exact hitem
      | reference target =>
          rw [followItem] at h
          split at h
          · rename_i next hnext
            obtain ⟨name, -, hname⟩ := Option.bind_eq_some_iff.mp hnext
            exact ih (hitems (name, next) (Document.mem_of_get?_eq_some hname)) h
          · cases (absent_eq_ok_iff.mp h).2

section Components

variable (hP : ∀ link ∈ r.document.components.links, P link)
include hP

/-- The links of the parameter that a reference stands for are allowed. -/
theorem forall_links_of_parameter {p : RefOr Parameter} {depth : Nat} {value : Parameter}
    (hp : ∀ link ∈ p.links .parameters Parameter.links, P link)
    (h : r.parameter p depth = .ok (some value)) : ∀ link ∈ value.links, P link :=
  forall_links_of_followItem Parameter.links
    (fun _ hentry _ hlink => hP _ (Components.mem_links_of_parameter hentry hlink)) hp h

/-- The links of the request body that a reference stands for are. -/
theorem forall_links_of_requestBody {b : RefOr RequestBody} {depth : Nat} {value : RequestBody}
    (hb : ∀ link ∈ bodyLinks b, P link) (h : r.requestBody b depth = .ok (some value)) :
    ∀ link ∈ contentLinks value.content, P link :=
  forall_links_of_followItem (fun body : RequestBody => contentLinks body.content)
    (fun _ hentry _ hlink => hP _ (Components.mem_links_of_requestBody hentry hlink)) hb h

/-- The links of the response that a reference stands for are. -/
theorem forall_links_of_response {x : RefOr Response} {depth : Nat} {value : Response}
    (hx : ∀ link ∈ responseLinks x, P link) (h : r.response x depth = .ok (some value)) :
    ∀ link ∈ contentLinks value.content, P link :=
  forall_links_of_followItem (fun response : Response => contentLinks response.content)
    (fun _ hentry _ hlink => hP _ (Components.mem_links_of_response hentry hlink)) hx h

end Components

end Resolver

end ServiceGen
