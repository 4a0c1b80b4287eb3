import ServiceGen.Proofs.Reloading

/-!
# Reading Schemas Back

A schema writes only what it says, and reading fills in the rest. So it is read back if the schemas
below it are, and if its numbers survive: sizes that fit in 64 bits do, and so do bounds that are
finite. All sizes that are read fit, and so the bounds are the only condition
(`Schema.yields_read`).

## Main results

* `fieldOr_present`: a field of a record that writes only what is there.
* `Schema.reloads`: a schema is read back from its parts.
* `Schema.yields_read`: **every schema with finite bounds that is read is read back.**
-/

namespace ServiceGen

open Datum Reading

variable {α : Type}

/-! ### Values that need not be there -/

/-- The members of a record of which only some values are there. -/
def present (values : List (String × Option Json)) : List (String × Json) :=
  values.filterMap fun value => value.2.map (value.1, ·)

theorem present_nil : present [] = [] :=
  rfl

theorem present_cons (name : String) (value : Option Json) (rest : List (String × Option Json)) :
    present ((name, value) :: rest) = (value.map (name, ·)).toList ++ present rest := by
  cases value <;> rfl

/-- The names of the values that are present come in their order. -/
theorem names_present_sublist (values : List (String × Option Json)) :
    (Entries.names (present values)).Sublist (Entries.names values) := by
  induction values with
  | nil => exact List.Sublist.refl _
  | cons value rest ih =>
      obtain ⟨name, _ | value⟩ := value
      · exact ih.cons name
      · exact ih.cons_cons name

/-- A name that comes once leads to its value, if it is there. -/
theorem lookup_present {values : List (String × Option Json)}
    (hnames : (Entries.names values).Nodup) (name : String) :
    (present values).lookup name = (values.lookup name).join := by
  induction values with
  | nil => rfl
  | cons value rest ih =>
      obtain ⟨first, value⟩ := value
      obtain ⟨hnew, hrest⟩ := List.nodup_cons.mp hnames
      rw [List.lookup_cons]
      by_cases hname : name = first
      · subst hname
        rw [beq_self_eq_true]
        cases value with
        | none =>
            refine List.lookup_eq_none_iff.mpr fun member hmember => ?_
            refine bne_iff_ne.mpr fun heq => hnew ?_
            exact (names_present_sublist rest).subset (heq ▸ List.mem_map_of_mem hmember)
        | some value => exact List.lookup_cons_self
      · rw [beq_false_of_ne hname, ← ih hrest]
        cases value with
        | none => rfl
        | some value =>
            refine List.lookup_cons.trans ?_
            rw [beq_false_of_ne hname]
            rfl

/-- **A field of a record** that writes only what is there. -/
theorem fieldOr_present {values : List (String × Option Json)}
    (hnames : (Entries.names values).Nodup) {name : String} {missing : α}
    {read : Datum → Reading α} :
    fieldOr (fieldsOf (present values)) name missing read =
      (values.lookup name).join.elim (pure missing) fun value => read value.toDatum := by
  rw [fieldOr_fieldsOf, lookup_present hnames]

/-- What may be absent is read back from a record that leaves it out then. -/
theorem elim_readOptional {read : Datum → Reading α} {write : α → Json} {o : Option α}
    (h : readOptional read (Json.ofOption write o).toDatum = pure o) :
    ((o.map write).elim (pure none) fun value => readOptional read value.toDatum) = pure o := by
  cases o with
  | none => rfl
  | some a => exact h

/-- A text is read back if there is one, and else is absent. -/
theorem elim_readText (o : Option String) :
    ((o.map Json.text).elim (pure none)
      fun value => readOptional readText value.toDatum) = pure o :=
  elim_readOptional (readOptional_toDatum (fun _ => Json.noConfusion) fun s _ => readText_toDatum s)

/-- A number within its bound is read back if there is one, and else is absent. -/
theorem elim_readNat {bound : Nat} {o : Option Nat} (h : ∀ n ∈ o, n < bound) :
    ((o.map fun n : Nat => Json.int n).elim (pure none)
      fun value => readOptional (readNat bound) value.toDatum) = pure o :=
  elim_readOptional (readOptional_toDatum (fun _ => Json.noConfusion) fun n hn =>
    readNat_toDatum (h n hn))

/-- What is not finite would be written as null. -/
theorem elim_readFloat {o : Option Binary64} (h : ∀ x ∈ o, x.isFinite = true) :
    ((o.map Json.ofFloat).elim (pure none)
      fun value => readOptional readFloat value.toDatum) = pure o := by
  cases o with
  | none => rfl
  | some x =>
      rw [Option.map_some, Option.elim_some, Json.ofFloat, if_pos (h x rfl)]
      rfl

/-- A list that is there if it is not empty. -/
def nonempty (items : List Json) : Option Json :=
  if items.isEmpty then none else some (.list items)

/-- A list is read back from a record that leaves it out when it is empty. -/
theorem elim_readList {read : Datum → Reading (List α)} {write : α → Json} {xs : List α}
    (h : read (Json.ofList write xs).toDatum = pure xs) :
    ((nonempty (xs.map write)).elim (pure []) fun value => read value.toDatum) = pure xs := by
  cases xs with
  | nil => rfl
  | cons x xs => exact h

/-- Entries are read back, and are left out exactly if there are none. -/
theorem elim_readEntries {read : Datum → Reading (List (String × α))} {write : α → Json}
    {entries : Entries α} (h : read (Entries.toJson write entries).toDatum = pure entries) :
    ((if entries.isEmpty then none else some (Entries.toJson write entries)).elim (pure [])
      fun value => read value.toDatum) = pure entries := by
  cases entries with
  | nil => rfl
  | cons entry entries => exact h

/-! ### Types and names of required properties -/

theorem either_pure (a : α) (second : Reading α) : either (pure a) second = pure a :=
  rfl

theorem either_refuse (second : Reading α) : either refuse second = second :=
  rfl

/-- A list of texts is read back. -/
theorem reloads_texts (texts : List String) :
    Reloads (fun depth => readList depth readText) Json.ofTexts texts :=
  @reloads_list _ (fun _ => readText) .text texts fun text _ =>
    Filter.Eventually.of_forall fun _ => readText_toDatum text

/-- A type is read back in its own form: a list is no text. -/
theorem reloads_schemaType (t : SchemaType) : Reloads SchemaType.read SchemaType.toJson t := by
  cases t with
  | single name =>
      filter_upwards [eventually_settle_toDatum (.text name)] with depth hsettle
      rw [SchemaType.read, SchemaType.toJson, hsettle, pure_bind, readText_toDatum, pure_bind,
        either_pure]
  | multiple names =>
      filter_upwards [eventually_settle_toDatum (Json.ofTexts names), reloads_texts names]
        with depth hsettle hnames
      rw [SchemaType.read, SchemaType.toJson, hsettle, pure_bind, hnames, pure_bind]
      exact either_refuse _

/-- The names of required properties are read back. -/
theorem reloads_required (names : List String) : Reloads readRequired Json.ofTexts names := by
  filter_upwards [eventually_settle_toDatum (Json.ofTexts names), reloads_texts names]
    with depth hsettle hnames
  have hwritten : Json.ofTexts names ≠ .null := Json.noConfusion
  rw [readRequired, readOptional_of_ne_null hwritten, hsettle, pure_bind, hnames, either_pure,
    pure_bind, pure_bind]
  rfl

/-! ### Schemas -/

namespace Schema

/-- The schemas one level below a schema. -/
def children (s : Schema) : List Schema :=
  s.properties.map (·.2) ++ s.items.toList ++ s.allOf ++ s.oneOf ++ s.anyOf ++ s.not.toList

/-- The least and the greatest number that a schema allows are finite, and so are those of all
schemas below it. -/
inductive FiniteBounds : Schema → Prop
  | intro {s : Schema} (minimum : ∀ x ∈ s.minimum, x.isFinite = true)
      (maximum : ∀ x ∈ s.maximum, x.isFinite = true)
      (children : ∀ child ∈ s.children, FiniteBounds child) : FiniteBounds s

/-- Whether all bounds of a schema are finite and nothing is below a number of levels. -/
def hasFiniteBounds : Nat → Schema → Bool
  | 0, _ => false
  | levels + 1, s =>
    s.minimum.all (·.isFinite) && s.maximum.all (·.isFinite) &&
      s.children.all (hasFiniteBounds levels)

/-- What is checked level by level is that all bounds are finite. -/
theorem finiteBounds_of_hasFiniteBounds {levels : Nat} {s : Schema}
    (h : s.hasFiniteBounds levels = true) : s.FiniteBounds := by
  induction levels generalizing s with
  | zero => cases h
  | succ levels ih =>
      rw [hasFiniteBounds, Bool.and_eq_true, Bool.and_eq_true] at h
      obtain ⟨⟨hminimum, hmaximum⟩, hchildren⟩ := h
      refine .intro (fun x hx => ?_) (fun x hx => ?_) fun child hchild =>
        ih (List.all_eq_true.mp hchildren child hchild)
      · rwa [hx, Option.all_some] at hminimum
      · rwa [hx, Option.all_some] at hmaximum

/-- The values that a schema writes under the names of its fields, where they are there. -/
def values (s : Schema) : List (String × Option Json) := [
  ("$ref", s.reference.map .text),
  ("type", s.type.map SchemaType.toJson),
  ("format", s.format.map .text),
  ("title", s.title.map .text),
  ("description", s.description.map .text),
  ("properties", if s.properties.isEmpty then none else some (Entries.toJson toJson s.properties)),
  ("items", s.items.map toJson),
  ("required", nonempty (s.required.map .text)),
  ("allOf", nonempty (s.allOf.map toJson)),
  ("oneOf", nonempty (s.oneOf.map toJson)),
  ("anyOf", nonempty (s.anyOf.map toJson)),
  ("not", s.not.map toJson),
  ("enum", nonempty s.enumeration),
  ("minLength", s.minLength.map fun n : Nat => .int n),
  ("maxLength", s.maxLength.map fun n : Nat => .int n),
  ("minimum", s.minimum.map Json.ofFloat),
  ("maximum", s.maximum.map Json.ofFloat),
  ("pattern", s.pattern.map .text),
  ("minItems", s.minItems.map fun n : Nat => .int n),
  ("maxItems", s.maxItems.map fun n : Nat => .int n)]

/-- A member is written if there is a value for it. -/
theorem memberOf?_eq {name : String} {value : α → Json} {o : Option α} :
    memberOf? name value o = ((o.map value).map (name, ·)).toList := by
  cases o <;> rfl

/-- A list is written if it is not empty. -/
theorem memberOfList_eq {name : String} {items : List Json} :
    memberOfList name items = ((nonempty items).map (name, ·)).toList := by
  cases items <;> rfl

/-- A schema is written as a member if there is one. -/
theorem optionToJson_eq {name : String} {o : Option Schema} :
    optionToJson name o = ((o.map toJson).map (name, ·)).toList := by
  cases o <;> rw [optionToJson] <;> rfl

/-- Schemas in a list are written one by one. -/
theorem listToJson_eq_map (schemas : List Schema) : listToJson schemas = schemas.map toJson := by
  induction schemas with
  | nil => rw [listToJson, List.map_nil]
  | cons s schemas ih => rw [listToJson, ih, List.map_cons]

/-- Properties are written one by one under their names. -/
theorem propertiesToJson_eq_map (properties : List (String × Schema)) :
    propertiesToJson properties =
      properties.map fun property => (property.1, property.2.toJson) := by
  induction properties with
  | nil => rw [propertiesToJson, List.map_nil]
  | cons property properties ih => rw [propertiesToJson, ih, List.map_cons]

/-- A schema is written as the values that are there. -/
theorem toJson_eq (s : Schema) : s.toJson = .object (present s.values) := by
  obtain ⟨_, _, _, _, _, properties, _, _, _, _, _, _, _, _, _, _, _, _, _, _⟩ := s
  have hproperties : (if (propertiesToJson properties).isEmpty then []
      else [("properties", Json.object (propertiesToJson properties))]) =
        ((if properties.isEmpty then none else some (Entries.toJson toJson properties)).map
          ("properties", ·)).toList := by
    cases properties <;> rw [propertiesToJson_eq_map] <;> rfl
  rw [toJson]
  simp only [hproperties, memberOf?_eq, memberOfList_eq, optionToJson_eq, listToJson_eq_map, values,
    present_cons, present_nil, List.append_assoc, List.append_nil]

theorem names_values (s : Schema) : Entries.names s.values = fieldNames :=
  rfl

theorem nodup_fieldNames : fieldNames.Nodup := by
  decide

/-- What is known of a schema that was read, apart from the schemas below it. -/
structure Readable (s : Schema) : Prop where
  /-- No property is declared twice. -/
  properties : (Entries.names s.properties).Nodup
  /-- The values that are allowed are read back. -/
  enumeration : ∀ value ∈ s.enumeration, Reloads readJson id value
  /-- The sizes fit in 64 bits. -/
  minLength : ∀ n ∈ s.minLength, n < Nat.pow 2 64
  maxLength : ∀ n ∈ s.maxLength, n < Nat.pow 2 64
  minItems : ∀ n ∈ s.minItems, n < Nat.pow 2 64
  maxItems : ∀ n ∈ s.maxItems, n < Nat.pow 2 64

/-- A schema is read field by field, and the schemas in it with fewer levels. -/
theorem read_succ {depth : Nat} (h : depth ≠ 0) :
    read (depth + 1) = readWith (depth + 1) (read depth) (read (depth - 1)) := by
  obtain ⟨depth, rfl⟩ := Nat.exists_eq_succ_of_ne_zero h
  rw [read, Nat.succ_sub_one]

theorem toJson_ne_null (s : Schema) : s.toJson ≠ .null := by
  rw [toJson_eq]
  exact Json.noConfusion

/-- **A schema is read back from its parts**: the schemas below it, and numbers that survive. -/
theorem reloads {s : Schema} (hs : s.Readable) (hminimum : ∀ x ∈ s.minimum, x.isFinite = true)
    (hmaximum : ∀ x ∈ s.maximum, x.isFinite = true)
    (hchildren : ∀ child ∈ s.children, Reloads read toJson child) : Reloads read toJson s := by
  simp only [children, List.forall_mem_append, List.forall_mem_map, Option.mem_toList] at hchildren
  obtain ⟨⟨⟨⟨⟨hproperties, hitems⟩, hallOf⟩, honeOf⟩, hanyOf⟩, hnot⟩ := hchildren
  have htype := reloads_optional (fun t => by cases t <;> exact Json.noConfusion)
    fun t (_ : t ∈ s.type) => reloads_schemaType t
  have henumeration := reloads_list hs.enumeration
  -- Once there is room for all parts, every field is read as the value that it was written from.
  refine eventually_of_succ ?_
  filter_upwards [Filter.eventually_ne_atTop 0, htype, reloads_entries hproperties,
    reloads_optional toJson_ne_null hitems, reloads_required s.required, reloads_list hallOf,
    reloads_list honeOf, reloads_list hanyOf, reloads_optional toJson_ne_null hnot, henumeration]
    with depth hdepth htype hproperties hitems hrequired hallOf honeOf hanyOf hnot henumeration
  rw [read_succ hdepth, readWith, toJson_eq,
    readFields_toDatum_of_sublist nodup_fieldNames (names_present_sublist _)]
  simp only [pure_bind, fieldOr_present (names_values s ▸ nodup_fieldNames)]
  have henumeration := elim_readList henumeration
  rw [List.map_id] at henumeration
  simp only [values, List.lookup_cons, String.reduceBEq, Option.join_some, pure_bind,
    Nat.add_sub_cancel, elim_readText, elim_readOptional htype, elim_readEntries hproperties,
    elim_readOptional hitems, elim_readList hrequired, elim_readList hallOf, elim_readList honeOf,
    elim_readList hanyOf, elim_readOptional hnot, henumeration, elim_readNat hs.minLength,
    elim_readNat hs.maxLength, elim_readNat hs.minItems, elim_readNat hs.maxItems,
    elim_readFloat hminimum, elim_readFloat hmaximum, Entries.ofList_eq_self hs.properties]
  cases s
  rfl

/-- A schema that is read is read back, given finite bounds. -/
def Reloadable (s : Schema) : Prop :=
  s.FiniteBounds → Reloads read toJson s

/-- **A schema is read back** with more levels if all schemas in it are. -/
theorem Readable.reloadable {s : Schema} (hs : s.Readable)
    (hchildren : ∀ child ∈ s.children, Reloadable child) : Reloadable s := by
  rintro ⟨hminimum, hmaximum, hbounds⟩
  exact reloads hs hminimum hmaximum fun child hchild =>
    hchildren child hchild (hbounds child hchild)

/-- One level of a schema, from the two below it. -/
theorem yields_readWith {child grandchild : Datum → Reading Schema}
    (hchild : ∀ d, Yields Reloadable (child d))
    (hgrandchild : ∀ d, Yields Reloadable (grandchild d)) (depth : Nat) (d : Datum) :
    Yields Reloadable (readWith depth child grandchild d) := by
  have hschema : ∀ fields name, Yields (fun found => ∀ s ∈ found, Reloadable s)
      (fieldOr fields name none (readOptional child)) := fun fields name =>
    yields_fieldOr (yields_readOptional hchild) (by simp)
  have hschemas : ∀ fields name, Yields (fun found => ∀ s ∈ found, Reloadable s)
      (fieldOr fields name [] (readList (depth - 1) grandchild)) := fun fields name =>
    yields_fieldOr (yields_readList hgrandchild _) (List.forall_mem_nil _)
  have hsize : ∀ fields name, Yields (fun found => ∀ n ∈ found, n < Nat.pow 2 64)
      (fieldOr fields name none (readOptional (readNat (Nat.pow 2 64)))) := fun fields name =>
    yields_fieldOr (yields_readOptional (yields_readNat _)) (by simp)
  rw [readWith]
  dsimp only
  refine yields_bind fun fields => yields_bind fun reference => yields_bind fun type =>
    yields_bind fun format => yields_bind fun title => yields_bind fun description => ?_
  refine (yields_fieldOr (yields_readEntries hgrandchild _) (List.forall_mem_nil _)).bind
    fun properties hproperties => (hschema _ _).bind fun items hitems => ?_
  refine yields_bind fun required => (hschemas _ _).bind fun allOf hallOf =>
    (hschemas _ _).bind fun oneOf honeOf => (hschemas _ _).bind fun anyOf hanyOf =>
    (hschema _ _).bind fun not hnot => ?_
  refine (yields_fieldOr (yields_readList (yields_readJson _) _) (List.forall_mem_nil _)).bind
    fun enumeration henumeration => (hsize _ _).bind fun minLength hminLength =>
    (hsize _ _).bind fun maxLength hmaxLength => ?_
  refine yields_bind fun minimum => yields_bind fun maximum => yields_bind fun pattern =>
    (hsize _ _).bind fun minItems hminItems => (hsize _ _).bind fun maxItems hmaxItems =>
    yields_pure ?_
  refine Readable.reloadable ⟨Entries.nodup_names_ofList _, henumeration, hminLength, hmaxLength,
    hminItems, hmaxItems⟩ ?_
  simp only [children, List.forall_mem_append, List.forall_mem_map, Option.mem_toList]
  exact ⟨⟨⟨⟨⟨fun property hproperty => hproperties property (Entries.mem_of_mem_ofList hproperty),
    hitems⟩, hallOf⟩, honeOf⟩, hanyOf⟩, hnot⟩

/-- **Every schema with finite bounds that is read is read back.** -/
theorem yields_read (depth : Nat) (d : Datum) : Yields Reloadable (read depth d) := by
  -- Lists of schemas are two levels below the schema, so the induction needs both.
  induction depth using Nat.strongRecOn generalizing d with
  | ind depth ih =>
      match depth with
      | 0 => exact yields_readWith (fun _ => yields_refuse) (fun _ => yields_refuse) 0 d
      | 1 => exact yields_readWith (ih 0 Nat.one_pos) (fun _ => yields_refuse) 1 d
      | depth + 2 =>
          rw [read]
          exact yields_readWith (ih _ (Nat.lt_succ_self _)) (ih _ (by omega)) _ d

end Schema

end ServiceGen
