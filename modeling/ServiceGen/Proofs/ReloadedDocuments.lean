import ServiceGen.Document.Parse
import ServiceGen.Proofs.ReloadedSchemas

/-!
# Reading Documents Back

A document is written out with every field of every record, and reading it gives the same document
again. An item that stands where a reference may is written without a target, so it is not taken for
a reference; collections are in their order already; and nothing that is read as a path is an
extension. All that may be lost are bounds of schemas that are not finite, since these are written
as null.

## Main results

* `RefOr.reloads`: items and references are told apart when they are read back.
* `Document.reloads`: a document is read back from its parts.
* `Document.yields_read`: **every document with finite bounds that is read is read back.**
* `Document.read_toJson`: the same of the documents that texts describe.
-/

namespace ServiceGen

open Datum Reading

variable {α β : Type}

/-! ### Values with schemas -/

/-- A value that is read is read back, given that the schemas in it have finite bounds. -/
def ReloadsBounded (read : Nat → Datum → Reading α) (write : α → Json) (shapes : α → List Schema)
    (a : α) : Prop :=
  (∀ s ∈ shapes a, s.FiniteBounds) → Reloads read write a

/-- Values in a list are read back if the schemas in all of them have finite bounds. -/
theorem ReloadsBounded.forall_mem {read : Nat → Datum → Reading α} {write : α → Json}
    {shapes : α → List Schema} {value : β → α} {xs : List β}
    (h : ∀ x ∈ xs, ReloadsBounded read write shapes (value x))
    (hbounds : ∀ s ∈ xs.flatMap fun x => shapes (value x), s.FiniteBounds) :
    ∀ x ∈ xs, Reloads read write (value x) :=
  fun x hx => h x hx fun s hs => hbounds s (List.mem_flatMap.mpr ⟨x, hx, hs⟩)

/-! ### Parameters and bodies -/

/-- The place of a parameter is read back from its label. -/
@[simp] theorem ParameterLocation.read_label (l : ParameterLocation) :
    ParameterLocation.read (Json.text l.label).toDatum = pure l := by
  cases l <;> rfl

namespace Parameter

/-- The schemas of a parameter, without those below them. -/
def shapes (p : Parameter) : List Schema :=
  p.schema.toList

/-- A parameter is read back if its schema is. -/
theorem reloads {p : Parameter} (h : ∀ s ∈ p.schema, Reloads Schema.read Schema.toJson s) :
    Reloads read toJson p := by
  refine eventually_of_succ
    ((reloads_optional Schema.toJson_ne_null h).mono fun depth hschema => ?_)
  rw [read]
  -- The fields are the members that were written, and each is read in turn.
  refine Eq.trans (readFields_bind (by decide) (List.Sublist.refl _)) ?_
  simp [List.lookup_cons, hschema]

/-- A parameter that is read is read back, with finite bounds in its schema. -/
theorem yields_read (depth : Nat) (d : Datum) :
    Yields (ReloadsBounded read toJson shapes) (read depth d) := by
  rw [read]
  refine yields_bind fun fields => yields_bind fun name => yields_bind fun location =>
    yields_bind fun required => yields_bind fun description => ?_
  refine (yields_fieldOr (yields_readOptional (Schema.yields_read _)) (by simp)).bind
    fun schema hschema => yields_pure fun hbounds => reloads fun s hs => ?_
  exact hschema s hs (hbounds s (Option.mem_toList.mpr hs))

end Parameter

namespace MediaType

/-- The schemas of a content, without those below them. -/
def shapes (m : MediaType) : List Schema :=
  m.schema.toList

/-- The description of a medium is read back if its schema is. -/
theorem reloads {m : MediaType} (h : ∀ s ∈ m.schema, Reloads Schema.read Schema.toJson s) :
    Reloads read toJson m := by
  refine eventually_of_succ
    ((reloads_optional Schema.toJson_ne_null h).mono fun depth hschema => ?_)
  rw [read]
  refine Eq.trans (readFields_bind (by decide) (List.Sublist.refl _)) ?_
  simp [hschema]

/-- The description of a medium that is read is read back, with finite bounds in its schema. -/
theorem yields_read (depth : Nat) (d : Datum) :
    Yields (ReloadsBounded read toJson shapes) (read depth d) := by
  rw [read]
  refine yields_bind fun fields => ?_
  refine (yields_fieldOr (yields_readOptional (Schema.yields_read _)) (by simp)).bind
    fun schema hschema => yields_pure fun hbounds => reloads fun s hs => ?_
  exact hschema s hs (hbounds s (Option.mem_toList.mpr hs))

end MediaType

/-- The schemas of the content of a body, without those below them. -/
def contentShapes (content : Entries MediaType) : List Schema :=
  content.flatMap fun entry => entry.2.shapes

/-- **The content of a body is read back**, each media type once and in its place. -/
theorem reloads_content {content : Entries MediaType} (hnames : content.names.Nodup)
    (h : ∀ entry ∈ content, Reloads MediaType.read MediaType.toJson entry.2) :
    Reloads readContent (Entries.toJson MediaType.toJson) content := by
  filter_upwards [reloads_entries h] with depth hentries
  rw [readContent, hentries, pure_bind, Entries.ofList_eq_self hnames]

/-- Content that is read is read back medium by medium. -/
theorem yields_readContent (depth : Nat) (d : Datum) :
    Yields (ReloadsBounded readContent (Entries.toJson MediaType.toJson) contentShapes)
      (readContent depth d) := by
  rw [readContent]
  refine (yields_readEntries (MediaType.yields_read _) _ _).bind fun entries hentries =>
    yields_pure fun hbounds => reloads_content (Entries.nodup_names_ofList _) ?_
  exact ReloadsBounded.forall_mem
    (fun entry hentry => hentries entry (Entries.mem_of_mem_ofList hentry)) hbounds

theorem reloads_noContent :
    ReloadsBounded readContent (Entries.toJson MediaType.toJson) contentShapes [] :=
  fun _ => reloads_content List.nodup_nil (List.forall_mem_nil _)

namespace RequestBody

/-- The schemas of a request body, without those below them. -/
def shapes (b : RequestBody) : List Schema :=
  contentShapes b.content

/-- A request body is read back if its content is. -/
theorem reloads {b : RequestBody}
    (h : Reloads readContent (Entries.toJson MediaType.toJson) b.content) :
    Reloads read toJson b := by
  refine eventually_of_succ (h.mono fun depth hcontent => ?_)
  rw [read]
  refine Eq.trans (readFields_bind (by decide) (List.Sublist.refl _)) ?_
  simp [List.lookup_cons, hcontent]

/-- A request body that is read is read back, with finite bounds in its schemas. -/
theorem yields_read (depth : Nat) (d : Datum) :
    Yields (ReloadsBounded read toJson shapes) (read depth d) := by
  rw [read]
  refine yields_bind fun fields => yields_bind fun description => ?_
  refine (yields_fieldOr (yields_readContent _) reloads_noContent).bind fun content hcontent => ?_
  exact yields_bind fun required => yields_pure fun hbounds => reloads (hcontent hbounds)

end RequestBody

namespace Response

/-- The schemas of a response, without those below them. -/
def shapes (r : Response) : List Schema :=
  contentShapes r.content

/-- A response is read back if its content is. -/
theorem reloads {r : Response}
    (h : Reloads readContent (Entries.toJson MediaType.toJson) r.content) :
    Reloads read toJson r := by
  refine eventually_of_succ (h.mono fun depth hcontent => ?_)
  rw [read]
  refine Eq.trans (readFields_bind (by decide) (List.Sublist.refl _)) ?_
  simp [List.lookup_cons, hcontent]

/-- A response that is read is read back, with finite bounds in its schemas. -/
theorem yields_read (depth : Nat) (d : Datum) :
    Yields (ReloadsBounded read toJson shapes) (read depth d) := by
  rw [read]
  refine yields_bind fun fields => yields_bind fun description => ?_
  refine (yields_fieldOr (yields_readContent _) reloads_noContent).bind fun content hcontent => ?_
  exact yields_pure fun hbounds => reloads (hcontent hbounds)

end Response

/-! ### References and items -/

namespace RefOr

/-- The schemas of an item, without those below them. A reference has none. -/
def shapes (shapesOf : α → List Schema) (x : RefOr α) : List Schema :=
  x.item?.toList.flatMap shapesOf

/-- Items are written as records without a target. -/
def Untargeted (write : α → Json) : Prop :=
  ∀ a, ∃ members, write a = .object members ∧ (Entries.names members).Nodup ∧
    "$ref" ∉ Entries.names members

theorem untargeted_parameter : Untargeted Parameter.toJson :=
  fun _ => ⟨_, rfl, by simp [Entries.names]⟩

theorem untargeted_requestBody : Untargeted RequestBody.toJson :=
  fun _ => ⟨_, rfl, by simp [Entries.names]⟩

theorem untargeted_response : Untargeted Response.toJson :=
  fun _ => ⟨_, rfl, by simp [Entries.names]⟩

/-- What is written of an item is not read as a reference. -/
theorem readReference_eq_refuse {members : List (String × Json)}
    (hnames : (Entries.names members).Nodup) (htarget : "$ref" ∉ Entries.names members)
    (depth : Nat) : readReference (depth + 1) (Json.object members).toDatum = refuse := by
  have hnone : members.filter (["$ref"].contains ·.1) = [] := by
    refine List.filter_eq_nil_iff.mpr fun member hmember htaken => htarget ?_
    have hname : member.1 = "$ref" := List.mem_singleton.mp (List.contains_iff_mem.mp htaken)
    exact hname ▸ List.mem_map_of_mem hmember
  rw [readReference, readFields_toDatum hnames, hnone, pure_bind]
  rfl

variable {readItem : Nat → Datum → Reading α} {write : α → Json} {shapesOf : α → List Schema}

/-- **Items and references are told apart** when they are read back. -/
theorem reloads (hwrite : Untargeted write) {x : RefOr α}
    (h : ∀ a ∈ x.item?, Reloads readItem write a) : Reloads (read readItem) (toJson write) x := by
  cases x with
  | reference target =>
      filter_upwards [Filter.eventually_ne_atTop 0,
        eventually_settle_toDatum (.object [("$ref", .text target)])] with depth hdepth hsettle
      obtain ⟨depth, rfl⟩ := Nat.exists_eq_succ_of_ne_zero hdepth
      have hreference : readReference (depth + 1)
          (Json.object [("$ref", .text target)]).toDatum = pure target := by
        rw [readReference]
        refine Eq.trans (readFields_bind (by decide) (List.Sublist.refl _)) ?_
        simp
      rw [read, toJson, hsettle, pure_bind, hreference, pure_bind, either_pure]
  | item value =>
      obtain ⟨members, hmembers, hnames, htarget⟩ := hwrite value
      filter_upwards [Filter.eventually_ne_atTop 0, eventually_settle_toDatum (write value),
        h value rfl] with depth hdepth hsettle hitem
      obtain ⟨depth, rfl⟩ := Nat.exists_eq_succ_of_ne_zero hdepth
      -- The first form does not fit, so the datum is read in the second.
      have hreference : readReference (depth + 1) (write value).toDatum = refuse := by
        rw [hmembers, readReference_eq_refuse hnames htarget]
      rw [read, toJson, hsettle, pure_bind, hreference, hitem, pure_bind]
      exact either_refuse _

/-- **A reference or an item in place** that is read is read back, if such items are: as no field of
an item is taken for a target, what was an item stays one. -/
theorem yields_read (hwrite : Untargeted write)
    (hitem : ∀ depth d, Yields (ReloadsBounded readItem write shapesOf) (readItem depth d))
    (depth : Nat) (d : Datum) :
    Yields (ReloadsBounded (read readItem) (toJson write) (shapes shapesOf))
      (read readItem depth d) := by
  rw [read]
  refine yields_bind fun d => Yields.either ?_ ?_
  · exact yields_bind fun target => yields_pure fun _ => reloads hwrite (by simp [item?])
  · refine (hitem _ _).bind fun a ha => yields_pure fun hbounds => reloads hwrite ?_
    rintro _ ⟨⟩
    exact ha (by simpa [shapes, item?] using hbounds)

/-- A parameter or a reference to one is read back. -/
theorem yields_parameter (depth : Nat) (d : Datum) :
    Yields (ReloadsBounded (read Parameter.read) (toJson Parameter.toJson)
      (shapes Parameter.shapes)) (read Parameter.read depth d) :=
  yields_read untargeted_parameter Parameter.yields_read depth d

/-- A request body or a reference to one is. -/
theorem yields_requestBody (depth : Nat) (d : Datum) :
    Yields (ReloadsBounded (read RequestBody.read) (toJson RequestBody.toJson)
      (shapes RequestBody.shapes)) (read RequestBody.read depth d) :=
  yields_read untargeted_requestBody RequestBody.yields_read depth d

/-- A response or a reference to one is. -/
theorem yields_response (depth : Nat) (d : Datum) :
    Yields (ReloadsBounded (read Response.read) (toJson Response.toJson) (shapes Response.shapes))
      (read Response.read depth d) :=
  yields_read untargeted_response Response.yields_read depth d

/-- Neither a reference nor an item is written like an absent value. -/
theorem toJson_ne_null (hwrite : Untargeted write) (x : RefOr α) : toJson write x ≠ .null := by
  cases x with
  | reference target => exact Json.noConfusion
  | item value =>
      obtain ⟨members, hmembers, -⟩ := hwrite value
      rw [toJson, hmembers]
      exact Json.noConfusion

end RefOr

/-! ### Operations -/

/-- An error code is read back within the range of its numbers. -/
theorem ErrorCode.reloads {e : ErrorCode} (hcode : FitsInt e.code)
    (hstatus : ∀ n ∈ e.status, n < Nat.pow 2 16) : Reloads read toJson e := by
  refine eventually_of_succ (Filter.Eventually.of_forall fun depth => ?_)
  rw [read]
  refine Eq.trans (readFields_bind (by decide) (List.Sublist.refl _)) ?_
  simp [List.lookup_cons, readInt_toDatum hcode, readOptional_ofNat? hstatus]

/-- An error code that is read has numbers in that range, and is read back. -/
theorem ErrorCode.yields_read (depth : Nat) (d : Datum) :
    Yields (Reloads read toJson) (read depth d) := by
  rw [read]
  refine yields_bind fun fields => (yields_fieldOf yields_readInt).bind fun code hcode => ?_
  refine yields_bind fun name => yields_bind fun message => ?_
  refine (yields_fieldOr (yields_readOptional (yields_readNat _)) (by simp)).bind
    fun status hstatus => yields_bind fun module => yields_pure (reloads hcode hstatus)

namespace Operation

/-- The schemas of an operation, without those below them. -/
def shapes (o : Operation) : List Schema :=
  o.parameters.flatMap (RefOr.shapes Parameter.shapes) ++
    o.requestBody.toList.flatMap (RefOr.shapes RequestBody.shapes) ++
    o.responses.flatMap fun entry => entry.2.shapes Response.shapes

/-- **An operation is read back from its parts**, its responses in ascending order. -/
theorem reloads {o : Operation}
    (hparameters : ∀ p ∈ o.parameters,
      Reloads (RefOr.read Parameter.read) (RefOr.toJson Parameter.toJson) p)
    (hbody : ∀ b ∈ o.requestBody,
      Reloads (RefOr.read RequestBody.read) (RefOr.toJson RequestBody.toJson) b)
    (hresponses : ∀ entry ∈ o.responses,
      Reloads (RefOr.read Response.read) (RefOr.toJson Response.toJson) entry.2)
    (hascending : o.responses.names.Pairwise (· < ·))
    (herrors : ∀ e ∈ o.errorCodes, Reloads ErrorCode.read ErrorCode.toJson e) :
    Reloads read toJson o := by
  refine eventually_of_succ ?_
  filter_upwards [reloads_texts o.tags, reloads_list hparameters,
    reloads_optional (RefOr.toJson_ne_null RefOr.untargeted_requestBody) hbody,
    reloads_entries hresponses, reloads_list herrors]
    with depth htags hparameters hbody hresponses herrors
  rw [read]
  refine Eq.trans (readFields_bind (by decide) (List.Sublist.refl _)) ?_
  simp [List.lookup_cons, htags, hparameters, hbody, hresponses, herrors,
    Entries.sortedOfList_eq_self hascending]

/-- An operation that is read is read back, with finite bounds in its schemas. -/
theorem yields_read (depth : Nat) (d : Datum) :
    Yields (ReloadsBounded read toJson shapes) (read depth d) := by
  rw [read]
  refine yields_bind fun fields => yields_bind fun tags => yields_bind fun summary =>
    yields_bind fun description => yields_bind fun operationId => ?_
  refine (yields_fieldOr (yields_readList (RefOr.yields_parameter _) _)
    (List.forall_mem_nil _)).bind fun parameters hparameters => ?_
  refine (yields_fieldOr (yields_readOptional (RefOr.yields_requestBody _)) (by simp)).bind
    fun body hbody => ?_
  refine (yields_fieldOr (yields_readEntries (RefOr.yields_response _) _)
    (List.forall_mem_nil _)).bind fun responses hresponses => ?_
  refine yields_bind fun deprecated => ?_
  refine (yields_fieldOr (yields_readList (ErrorCode.yields_read _) _) (List.forall_mem_nil _)).bind
    fun errors herrors => yields_pure fun hbounds => ?_
  rw [shapes, List.forall_mem_append, List.forall_mem_append] at hbounds
  obtain ⟨⟨hparameterBounds, hbodyBounds⟩, hresponseBounds⟩ := hbounds
  refine reloads (ReloadsBounded.forall_mem hparameters hparameterBounds) ?_ ?_
    (Entries.pairwise_names_sortedOfList _) herrors
  · exact fun b hb => ReloadsBounded.forall_mem
      (fun b hb => hbody b (Option.mem_toList.mp hb)) hbodyBounds b (Option.mem_toList.mpr hb)
  · exact ReloadsBounded.forall_mem (fun entry hentry =>
      hresponses entry (Entries.mem_of_mem_sortedOfList hentry)) hresponseBounds

/-- An operation is not written like an absent value. -/
theorem toJson_ne_null (o : Operation) : o.toJson ≠ .null :=
  Json.noConfusion

end Operation

namespace PathItem

/-- The schemas of the operations and parameters of a path, without those below them. -/
def shapes (p : PathItem) : List Schema :=
  p.parameters.flatMap (RefOr.shapes Parameter.shapes) ++
    p.operations.flatMap fun entry => entry.2.shapes

/-- The operations of a path are those under its methods. -/
theorem forall_mem_operations {P : Operation → Prop} {p : PathItem} :
    (∀ entry ∈ p.operations, P entry.2) ↔
      (∀ o ∈ p.get, P o) ∧ (∀ o ∈ p.post, P o) ∧ (∀ o ∈ p.put, P o) ∧ (∀ o ∈ p.delete, P o) ∧
        ∀ o ∈ p.patch, P o := by
  simp [operations, methods, operation?, or_imp, forall_and]

/-- A path item is read back if its parameters and operations are. -/
theorem reloads {p : PathItem}
    (hparameters : ∀ x ∈ p.parameters,
      Reloads (RefOr.read Parameter.read) (RefOr.toJson Parameter.toJson) x)
    (hoperations : ∀ entry ∈ p.operations, Reloads Operation.read Operation.toJson entry.2) :
    Reloads read toJson p := by
  obtain ⟨hget, hpost, hput, hdelete, hpatch⟩ := forall_mem_operations.mp hoperations
  refine eventually_of_succ ?_
  filter_upwards [reloads_list hparameters, reloads_optional Operation.toJson_ne_null hget,
    reloads_optional Operation.toJson_ne_null hpost, reloads_optional Operation.toJson_ne_null hput,
    reloads_optional Operation.toJson_ne_null hdelete,
    reloads_optional Operation.toJson_ne_null hpatch]
    with depth hparameters hget hpost hput hdelete hpatch
  rw [read]
  refine Eq.trans (readFields_bind (by decide) (List.Sublist.refl _)) ?_
  simp [List.lookup_cons, hparameters, hget, hpost, hput, hdelete, hpatch]

/-- A path item that is read is read back, with finite bounds in its schemas. -/
theorem yields_read (depth : Nat) (d : Datum) :
    Yields (ReloadsBounded read toJson shapes) (read depth d) := by
  have hoperation : ∀ fields name, Yields
      (fun found => ∀ o ∈ found, ReloadsBounded Operation.read Operation.toJson Operation.shapes o)
      (fieldOr fields name none (readOptional (Operation.read (depth - 1)))) := fun fields name =>
    yields_fieldOr (yields_readOptional (Operation.yields_read _)) (by simp)
  rw [read]
  dsimp only
  refine yields_bind fun fields => yields_bind fun summary => ?_
  refine (yields_fieldOr (yields_readList (RefOr.yields_parameter _) _)
    (List.forall_mem_nil _)).bind fun parameters hparameters => ?_
  refine (hoperation _ _).bind fun get hget => (hoperation _ _).bind fun post hpost =>
    (hoperation _ _).bind fun put hput => (hoperation _ _).bind fun delete hdelete =>
    (hoperation _ _).bind fun patch hpatch => yields_pure fun hbounds => ?_
  rw [shapes, List.forall_mem_append] at hbounds
  refine reloads (ReloadsBounded.forall_mem hparameters hbounds.1) ?_
  refine ReloadsBounded.forall_mem ?_ hbounds.2
  exact forall_mem_operations.mpr ⟨hget, hpost, hput, hdelete, hpatch⟩

/-- A path without anything is read back. -/
theorem reloads_empty : Reloads read toJson {} :=
  reloads (List.forall_mem_nil _) (List.forall_mem_nil _)

/-- A path item is not written like an absent value. -/
theorem toJson_ne_null (p : PathItem) : p.toJson ≠ .null :=
  Json.noConfusion

end PathItem

/-! ### Documents -/

/-- What a document says of itself is read back. -/
theorem Info.reloads (i : Info) : Reloads read toJson i := by
  refine eventually_of_succ (Filter.Eventually.of_forall fun depth => ?_)
  rw [read]
  refine Eq.trans (readFields_bind (by decide) (List.Sublist.refl _)) ?_
  simp [List.lookup_cons]

/-- A server is read back. -/
theorem Server.reloads (s : Server) : Reloads read toJson s := by
  refine eventually_of_succ (Filter.Eventually.of_forall fun depth => ?_)
  rw [read]
  refine Eq.trans (readFields_bind (by decide) (List.Sublist.refl _)) ?_
  simp [List.lookup_cons]

/-- A tag is read back. -/
theorem Tag.reloads (t : Tag) : Reloads read toJson t := by
  refine eventually_of_succ (Filter.Eventually.of_forall fun depth => ?_)
  rw [read]
  refine Eq.trans (readFields_bind (by decide) (List.Sublist.refl _)) ?_
  simp [List.lookup_cons]

namespace Components

/-- The schemas of the components, without those below them. -/
def shapes (c : Components) : List Schema :=
  c.schemas.map (·.2) ++ (c.parameters.flatMap fun entry => entry.2.shapes Parameter.shapes) ++
    (c.requestBodies.flatMap fun entry => entry.2.shapes RequestBody.shapes) ++
    c.responses.flatMap fun entry => entry.2.shapes Response.shapes

/-- No component is declared twice. -/
structure Distinct (c : Components) : Prop where
  schemas : c.schemas.names.Nodup
  parameters : c.parameters.names.Nodup
  requestBodies : c.requestBodies.names.Nodup
  responses : c.responses.names.Nodup

/-- Components are read back if those of each section are, and have names of their own there. -/
theorem reloads {c : Components} (hnames : c.Distinct)
    (hschemas : ∀ entry ∈ c.schemas, Reloads Schema.read Schema.toJson entry.2)
    (hparameters : ∀ entry ∈ c.parameters,
      Reloads (RefOr.read Parameter.read) (RefOr.toJson Parameter.toJson) entry.2)
    (hbodies : ∀ entry ∈ c.requestBodies,
      Reloads (RefOr.read RequestBody.read) (RefOr.toJson RequestBody.toJson) entry.2)
    (hresponses : ∀ entry ∈ c.responses,
      Reloads (RefOr.read Response.read) (RefOr.toJson Response.toJson) entry.2) :
    Reloads read toJson c := by
  refine eventually_of_succ ?_
  filter_upwards [reloads_entries hschemas, reloads_entries hparameters, reloads_entries hbodies,
    reloads_entries hresponses] with depth hschemas hparameters hbodies hresponses
  rw [read]
  refine Eq.trans (readFields_bind (by decide) (List.Sublist.refl _)) ?_
  simp [List.lookup_cons, hschemas, hparameters, hbodies, hresponses,
    Entries.ofList_eq_self hnames.schemas, Entries.ofList_eq_self hnames.parameters,
    Entries.ofList_eq_self hnames.requestBodies, Entries.ofList_eq_self hnames.responses]

/-- Components that are read are read back, with finite bounds in their schemas. -/
theorem yields_read (depth : Nat) (d : Datum) :
    Yields (ReloadsBounded read toJson shapes) (read depth d) := by
  rw [read]
  refine yields_bind fun fields => ?_
  refine (yields_fieldOr (yields_readEntries (Schema.yields_read _) _)
    (List.forall_mem_nil _)).bind fun schemas hschemas => ?_
  refine (yields_fieldOr (yields_readEntries (RefOr.yields_parameter _) _)
    (List.forall_mem_nil _)).bind fun parameters hparameters => ?_
  refine (yields_fieldOr (yields_readEntries (RefOr.yields_requestBody _) _)
    (List.forall_mem_nil _)).bind fun bodies hbodies => ?_
  refine (yields_fieldOr (yields_readEntries (RefOr.yields_response _) _)
    (List.forall_mem_nil _)).bind fun responses hresponses => ?_
  refine yields_pure fun hbounds => ?_
  rw [shapes, List.forall_mem_append, List.forall_mem_append, List.forall_mem_append] at hbounds
  obtain ⟨⟨⟨hschemaBounds, hparameterBounds⟩, hbodyBounds⟩, hresponseBounds⟩ := hbounds
  refine reloads ⟨Entries.nodup_names_ofList _, Entries.nodup_names_ofList _,
    Entries.nodup_names_ofList _, Entries.nodup_names_ofList _⟩ ?_ ?_ ?_ ?_
  · exact fun entry hentry => hschemas entry (Entries.mem_of_mem_ofList hentry)
      (hschemaBounds entry.2 (List.mem_map_of_mem hentry))
  · exact ReloadsBounded.forall_mem
      (fun entry hentry => hparameters entry (Entries.mem_of_mem_ofList hentry)) hparameterBounds
  · exact ReloadsBounded.forall_mem
      (fun entry hentry => hbodies entry (Entries.mem_of_mem_ofList hentry)) hbodyBounds
  · exact ReloadsBounded.forall_mem
      (fun entry hentry => hresponses entry (Entries.mem_of_mem_ofList hentry)) hresponseBounds

/-- A document without components has them read back. -/
theorem reloads_empty : Reloads read toJson {} :=
  reloads ⟨List.nodup_nil, List.nodup_nil, List.nodup_nil, List.nodup_nil⟩
    (List.forall_mem_nil _) (List.forall_mem_nil _) (List.forall_mem_nil _) (List.forall_mem_nil _)

end Components

namespace Document

/-- The schemas that stand in a document, without those below them. -/
def shapes (d : Document) : List Schema :=
  (d.paths.flatMap fun entry => entry.2.shapes) ++ d.components.shapes

/-- Path items are read back under their paths if none of these is an extension. -/
theorem readPathItems_eq_pure {depth : Nat} {paths : Entries PathItem}
    (hkeys : ∀ entry ∈ paths, isExtension entry.1 = false)
    (h : ∀ entry ∈ paths, PathItem.read depth entry.2.toJson.toDatum = pure entry.2) :
    readPathItems depth (paths.map fun entry => (.text entry.1, entry.2.toJson.toDatum)) =
      pure paths := by
  induction paths with
  | nil => rfl
  | cons entry rest ih =>
      obtain ⟨hkey, hkeys⟩ := List.forall_mem_cons.mp hkeys
      obtain ⟨hentry, hrest⟩ := List.forall_mem_cons.mp h
      have hname : readText (.text entry.1) = pure entry.1 := rfl
      rw [List.map_cons, readPathItems, hname, pure_bind, hkey,
        readOptional_of_ne_null entry.2.toJson_ne_null, hentry]
      simp [ih hkeys hrest]

/-- **The paths are read back**, since none of them is an extension. -/
theorem reloads_paths {paths : Entries PathItem}
    (hkeys : ∀ entry ∈ paths, isExtension entry.1 = false)
    (h : ∀ entry ∈ paths, Reloads PathItem.read PathItem.toJson entry.2) :
    Reloads readPaths (Entries.toJson PathItem.toJson) paths := by
  refine eventually_of_succ ((eventually_forall_mem h).mono fun depth h => ?_)
  rw [Entries.toJson, Json.toDatum_object, List.map_map]
  exact readPathItems_eq_pure hkeys h

/-- No extension is read as a path. -/
theorem yields_readPathItems (depth : Nat) (entries : List (Datum × Datum)) :
    Yields (fun paths => ∀ entry ∈ paths, isExtension entry.1 = false ∧
        ReloadsBounded PathItem.read PathItem.toJson PathItem.shapes entry.2)
      (readPathItems depth entries) := by
  induction entries with
  | nil => exact yields_pure (List.forall_mem_nil _)
  | cons entry rest ih =>
      obtain ⟨key, value⟩ := entry
      rw [readPathItems]
      refine yields_bind fun path => ?_
      -- An extension is passed over; a path without anything has the empty item.
      split
      · exact ih
      · rename_i hpath
        refine (yields_readOptional (PathItem.yields_read depth) value).bind fun found hfound =>
          ih.bind fun paths hpaths => yields_pure (List.forall_mem_cons.mpr ⟨⟨?_, ?_⟩, hpaths⟩)
        · exact Bool.eq_false_iff.mpr hpath
        · cases found with
          | none => exact fun _ => PathItem.reloads_empty
          | some item => exact hfound item rfl

/-- The paths that are read are no extensions, and each of their items is read back. -/
theorem yields_readPaths (depth : Nat) (d : Datum) :
    Yields (fun paths => ∀ entry ∈ paths, isExtension entry.1 = false ∧
        ReloadsBounded PathItem.read PathItem.toJson PathItem.shapes entry.2)
      (readPaths depth d) := by
  rw [readPaths]
  refine yields_bind fun d => ?_
  split
  · exact yields_pure (List.forall_mem_nil _)
  · split
    · exact yields_pure (List.forall_mem_nil _)
    · exact yields_refuse
  · split
    · exact yields_refuse
    · exact yields_readPathItems _ _
  · exact yields_refuse

/-- **A document is read back from its parts**, its paths in ascending order. -/
theorem reloads {d : Document} (hkeys : ∀ entry ∈ d.paths, isExtension entry.1 = false)
    (hascending : d.paths.names.Pairwise (· < ·))
    (hpaths : ∀ entry ∈ d.paths, Reloads PathItem.read PathItem.toJson entry.2)
    (hcomponents : Reloads Components.read Components.toJson d.components)
    (herrors : ∀ e ∈ d.errorCodes, Reloads ErrorCode.read ErrorCode.toJson e) :
    Reloads read toJson d := by
  refine eventually_of_succ ?_
  filter_upwards [Info.reloads d.info, reloads_list fun s (_ : s ∈ d.servers) => Server.reloads s,
    reloads_paths hkeys hpaths, hcomponents, reloads_list fun t (_ : t ∈ d.tags) => Tag.reloads t,
    reloads_list herrors] with depth hinfo hservers hpaths hcomponents htags herrors
  rw [read]
  refine Eq.trans (readFields_bind (by decide) (List.Sublist.refl _)) ?_
  simp [List.lookup_cons, hinfo, hservers, hpaths, hcomponents, htags, herrors,
    Entries.sortedOfList_eq_self hascending]

/-- **Every document with finite bounds that is read is read back.** -/
theorem yields_read (depth : Nat) (d : Datum) :
    Yields (ReloadsBounded read toJson shapes) (read depth d) := by
  rw [read]
  refine yields_bind fun fields => yields_bind fun openapi => yields_bind fun info =>
    yields_bind fun servers => ?_
  refine (yields_fieldOr (yields_readPaths _) (List.forall_mem_nil _)).bind fun paths hpaths => ?_
  refine (yields_fieldOr (Components.yields_read _) fun _ => Components.reloads_empty).bind
    fun components hcomponents => yields_bind fun tags => ?_
  refine (yields_fieldOr (yields_readList (ErrorCode.yields_read _) _) (List.forall_mem_nil _)).bind
    fun errors herrors => yields_pure fun hbounds => ?_
  rw [shapes, List.forall_mem_append] at hbounds
  have hread : ∀ entry ∈ Entries.sortedOfList paths, isExtension entry.1 = false ∧
      ReloadsBounded PathItem.read PathItem.toJson PathItem.shapes entry.2 :=
    fun entry hentry => hpaths entry (Entries.mem_of_mem_sortedOfList hentry)
  refine reloads (fun entry hentry => (hread entry hentry).1)
    (Entries.pairwise_names_sortedOfList _) ?_ (hcomponents hbounds.2) herrors
  exact ReloadsBounded.forall_mem (fun entry hentry => (hread entry hentry).2) hbounds.1

/-- A document that a text describes was read from some data. -/
theorem exists_read_of_parse {bytes : List UInt8} {format : SpecFormat} {d : Document}
    (h : parse bytes format = .ok d) :
    ∃ depth datum anchors budget left, read depth datum anchors budget = some (d, left) := by
  have hsource : ofYaml? bytes = some d ∨ ofJson? bytes = some d := by
    cases format with
    | yaml =>
        rw [parse] at h
        split at h <;> cases h
        exact Or.inl ‹_›
    | json =>
        rw [parse] at h
        split at h <;> cases h
        exact Or.inr ‹_›
    | unknown =>
        rw [parse] at h
        split at h <;> cases h
        rename_i hread
        cases hyaml : ofYaml? bytes with
        | none => exact Or.inr (by rwa [hyaml] at hread)
        | some found => exact Or.inl (by rwa [hyaml] at hread)
  rcases hsource with hyaml | hjson
  · obtain ⟨tree, -, hread⟩ := Option.bind_eq_some_iff.mp hyaml
    obtain ⟨⟨document, left⟩, hread, ⟨⟩⟩ := Option.bind_eq_some_iff.mp hread
    exact ⟨_, _, _, _, left, hread⟩
  · obtain ⟨datum, -, hread⟩ := Option.bind_eq_some_iff.mp hjson
    obtain ⟨⟨document, left⟩, hread, ⟨⟩⟩ := Option.bind_eq_some_iff.mp hread
    exact ⟨_, _, _, _, left, hread⟩

/-- **Writing a document and reading it back.** A document that a text describes, and whose schemas
have finite bounds at all levels, is the one that is read from the JSON value it is written as,
whatever the anchors and the budget, once enough levels of collections may be entered. -/
theorem read_toJson {bytes : List UInt8} {format : SpecFormat} {d : Document}
    (h : parse bytes format = .ok d) (hbounds : ∀ s ∈ d.shapes, s.FiniteBounds) :
    ∃ enough, ∀ depth ≥ enough, ∀ anchors budget,
      read depth d.toJson.toDatum anchors budget = some (d, budget) := by
  obtain ⟨depth, datum, anchors, budget, left, hread⟩ := exists_read_of_parse h
  obtain ⟨enough, henough⟩ := Filter.eventually_atTop.mp
    (yields_read depth datum anchors budget d left hread hbounds)
  exact ⟨enough, fun depth hdepth anchors budget => by rw [henough depth hdepth]; rfl⟩

/-- A description with an extension and an empty path among its paths, a parameter by reference and
one in place, a type of two names, a truth value for the required properties, and bounds at two
levels. -/
def boundedText : List UInt8 :=
  ("\x7b\"paths\":\x7b\"/b\":null,\"x-note\":1,\"/a\":\x7b\"get\":\x7b\"parameters\":[" ++
    "\x7b\"$ref\":\"#/components/parameters/P\"\x7d,\x7b\"name\":\"q\",\"schema\":\x7b" ++
    "\"type\":[\"integer\",\"null\"],\"minimum\":-0.5,\"required\":true," ++
    "\"items\":\x7b\"maximum\":9\x7d\x7d\x7d]\x7d\x7d\x7d\x7d").toUTF8.toList

/-- A text of two paths, with bounds in the schemas that stand in them. -/
theorem parse_boundedText : (parse boundedText .json).toOption.any (fun d =>
    d.paths.names == ["/a", "/b"] && d.shapes.any (·.minimum.isSome) &&
      d.shapes.all (Schema.hasFiniteBounds 2)) = true := by
  decide +kernel

/-- The document of that text is read back. -/
theorem read_toJson_boundedText :
    ∃ d, parse boundedText .json = .ok d ∧ d.paths.names = ["/a", "/b"] ∧
      d.shapes.any (·.minimum.isSome) = true ∧ (∀ s ∈ d.shapes, s.FiniteBounds) ∧
      ∃ enough, ∀ depth ≥ enough, ∀ anchors budget,
        read depth d.toJson.toDatum anchors budget = some (d, budget) := by
  have hcheck := parse_boundedText
  cases hparse : parse boundedText .json with
  | error failure =>
      rw [hparse] at hcheck
      cases hcheck
  | ok d =>
      rw [hparse, Except.toOption, Option.any_some, Bool.and_eq_true, Bool.and_eq_true] at hcheck
      obtain ⟨⟨hpaths, hsome⟩, hall⟩ := hcheck
      have hbounds : ∀ s ∈ d.shapes, s.FiniteBounds := fun s hs =>
        Schema.finiteBounds_of_hasFiniteBounds (List.all_eq_true.mp hall s hs)
      exact ⟨d, rfl, eq_of_beq hpaths, hsome, hbounds, read_toJson hparse hbounds⟩

end Document

end ServiceGen
