import Mathlib.Order.Filter.AtTopBot.Basic
import ServiceGen.Document.Dump
import ServiceGen.Proofs.EntryOrder
import ServiceGen.Proofs.Readings

/-!
# Reading Back What Is Written

A value is read back from the JSON that is written of it (`Reloads`): no anchor is looked up and
nothing of the budget is spent, once enough levels may be entered. How many are enough depends on
the value; what is read from its parts holds of all large numbers of levels, and so of the whole.

## Main results

* `eventually_settle_toDatum`: a JSON value is settled as it is.
* `readFields_toDatum`: the fields of a written record are its members that have a known name.
* `reloads_optional`, `reloads_list`, `reloads_entries`: **values are read back if their parts
  are.**
* `yields_readJson`: **every JSON value that is read is read back.**
-/

namespace ServiceGen

open Datum Reading

variable {α β : Type}

/-! ### Enough levels -/

/-- What holds of all large numbers with one more holds of all large numbers. -/
theorem eventually_of_succ {p : Nat → Prop} (h : ∀ᶠ n in Filter.atTop, p (n + 1)) :
    ∀ᶠ n in Filter.atTop, p n := by
  rwa [← Filter.map_add_atTop_eq_nat 1, Filter.eventually_map]

/-- What holds of large numbers for each item of a list holds of large numbers for all of them. -/
theorem eventually_forall_mem {xs : List α} {p : Nat → α → Prop}
    (h : ∀ x ∈ xs, ∀ᶠ n in Filter.atTop, p n x) : ∀ᶠ n in Filter.atTop, ∀ x ∈ xs, p n x :=
  (Filter.eventually_all_finite xs.finite_toSet).mpr h

/-- A value is read back from what is written of it, once enough levels may be entered. -/
def Reloads (read : Nat → Datum → Reading α) (write : α → Json) (a : α) : Prop :=
  ∀ᶠ depth in Filter.atTop, read depth (write a).toDatum = pure a

/-! ### Written values as data -/

namespace Json

/-- Items become data one by one. -/
theorem itemsToData_eq_map (items : List Json) : itemsToData items = items.map toDatum := by
  induction items with
  | nil => rfl
  | cons item items ih => rw [itemsToData, ih, List.map_cons]

/-- Members become data one by one, under their names. -/
theorem membersToData_eq_map (members : List (String × Json)) :
    membersToData members = members.map fun member => (.text member.1, member.2.toDatum) := by
  induction members with
  | nil => rfl
  | cons member members ih => rw [membersToData, ih, List.map_cons]

theorem toDatum_list (items : List Json) :
    (list items).toDatum = .list .settled (items.map toDatum) := by
  rw [toDatum, itemsToData_eq_map]

theorem toDatum_object (members : List (String × Json)) :
    (object members).toDatum =
      .dict .settled (members.map fun member => (.text member.1, member.2.toDatum)) := by
  rw [toDatum, membersToData_eq_map]

/-- There is nothing to follow from a written value. -/
theorem follow_toDatum (j : Json) : follow j.toDatum = pure j.toDatum := by
  cases j with
  | int i =>
      rw [toDatum]
      split <;> rfl
  | _ => rfl

end Json

/-- What is read of each item is read of all of them. -/
theorem mapM_map_eq_pure {γ : Type} {write : α → β} {read : β → Reading γ} {value : α → γ}
    {xs : List α} (h : ∀ x ∈ xs, read (write x) = pure (value x)) :
    (xs.map write).mapM read = pure (xs.map value) := by
  induction xs with
  | nil => rfl
  | cons x xs ih =>
      obtain ⟨hx, hxs⟩ := List.forall_mem_cons.mp h
      rw [List.map_cons, List.mapM_cons, hx, pure_bind, ih hxs, pure_bind, List.map_cons]

/-! ### Settled values -/

/-- A settled list is settled item by item. -/
theorem settle_list (depth : Nat) (items : List Datum) :
    settle (depth + 1) (.list .settled items) =
      (items.mapM (settle depth) >>= fun items => pure (.list .settled items)) := by
  rw [settle]
  rfl

/-- A settled dictionary is settled entry by entry. -/
theorem settle_dict (depth : Nat) (entries : List (Datum × Datum)) :
    settle (depth + 1) (.dict .settled entries) =
      ((entries.mapM fun entry => settle depth entry.1 >>= fun key =>
          settle depth entry.2 >>= fun value => pure (key, value)) >>=
        fun entries => pure (.dict .settled entries)) := by
  rw [settle]
  rfl

theorem settle_text (depth : Nat) (s : String) : settle depth (.text s) = pure (.text s) := by
  rw [settle]
  rfl

-- The induction is on the value, with one statement each for lists and for members, since values
-- stand in both.
mutual

/-- **A written value is settled as it is.** -/
theorem eventually_settle_toDatum :
    ∀ j : Json, ∀ᶠ depth in Filter.atTop, settle depth j.toDatum = pure j.toDatum
  | .list items => by
      refine eventually_of_succ ((eventually_settle_items items).mono fun depth h => ?_)
      rw [Json.toDatum_list, settle_list, mapM_map_eq_pure h, pure_bind]
  | .object members => by
      refine eventually_of_succ ((eventually_settle_members members).mono fun depth h => ?_)
      rw [Json.toDatum_object, settle_dict, mapM_map_eq_pure, pure_bind]
      intro member hmember
      rw [settle_text, pure_bind, h member hmember, pure_bind]
  | .int i => by
      refine Filter.Eventually.of_forall fun depth => ?_
      rw [Json.toDatum]
      split <;> rw [settle] <;> rfl
  | .null | .bool _ | .float _ | .text _ => by
      refine Filter.Eventually.of_forall fun depth => ?_
      rw [Json.toDatum, settle]
      rfl

/-- The items of a list are settled, with enough levels for all of them. -/
theorem eventually_settle_items : ∀ items : List Json,
    ∀ᶠ depth in Filter.atTop, ∀ item ∈ items, settle depth item.toDatum = pure item.toDatum
  | [] => Filter.Eventually.of_forall fun _ => List.forall_mem_nil _
  | item :: items => ((eventually_settle_toDatum item).and (eventually_settle_items items)).mono
      fun _ h => List.forall_mem_cons.mpr h

/-- The members of an object are settled, with enough levels for all of them. -/
theorem eventually_settle_members : ∀ members : List (String × Json),
    ∀ᶠ depth in Filter.atTop, ∀ member ∈ members,
      settle depth member.2.toDatum = pure member.2.toDatum
  | [] => Filter.Eventually.of_forall fun _ => List.forall_mem_nil _
  | (_, value) :: members =>
      ((eventually_settle_toDatum value).and (eventually_settle_members members)).mono
        fun _ h => List.forall_mem_cons.mpr h

end

/-! ### JSON values -/

/-- What is read of the value of each entry is read of all entries, under their names. -/
theorem mapM_entries_eq_pure {write : α → Json} {read : Datum → Reading α} {entries : Entries α}
    (h : ∀ entry ∈ entries, read (write entry.2).toDatum = pure entry.2) :
    ((entries.map fun entry => (Datum.text entry.1, (write entry.2).toDatum)).mapM fun entry =>
        readText entry.1 >>= fun name => read entry.2 >>= fun value => pure (name, value)) =
      pure entries := by
  have hentry : ∀ entry ∈ entries, (readText (.text entry.1) >>= fun name =>
      read (write entry.2).toDatum >>= fun value => pure (name, value)) = pure (id entry) := by
    intro entry hentry
    rw [h entry hentry]
    rfl
  rw [mapM_map_eq_pure hentry, List.map_id]

/-- A list is read item by item, with a level less. -/
theorem readJson_list (depth : Nat) (items : List Datum) :
    readJson (depth + 1) (.list .settled items) =
      (items.mapM (readJson depth) >>= fun items => pure (.list items)) := by
  rw [readJson]
  rfl

/-- A record is read member by member, with a level less. -/
theorem readJson_dict (depth : Nat) (entries : List (Datum × Datum)) :
    readJson (depth + 1) (.dict .settled entries) =
      ((entries.mapM fun entry => readText entry.1 >>= fun name =>
          readJson depth entry.2 >>= fun value => pure (name, value)) >>=
        fun members => pure (.object (Entries.ofList members))) := by
  rw [readJson]
  rfl

/-- A list is read back if its items are. -/
theorem reloads_jsonList {items : List Json} (h : ∀ item ∈ items, Reloads readJson id item) :
    Reloads readJson id (.list items) := by
  refine eventually_of_succ ((eventually_forall_mem h).mono fun depth h => ?_)
  have hitems : ∀ item ∈ items, readJson depth item.toDatum = pure (id item) := h
  rw [id, Json.toDatum_list, readJson_list, mapM_map_eq_pure hitems, List.map_id, pure_bind]

/-- An object without a repeated name is read back if the values of its members are. -/
theorem reloads_jsonObject {members : List (String × Json)} (hnames : (Entries.names members).Nodup)
    (h : ∀ member ∈ members, Reloads readJson id member.2) :
    Reloads readJson id (.object members) := by
  refine eventually_of_succ ((eventually_forall_mem h).mono fun depth h => ?_)
  rw [id, Json.toDatum_object, readJson_dict]
  exact (congrArg (· >>= _) (@mapM_entries_eq_pure Json id (readJson depth) members h)).trans
    (by rw [pure_bind, Entries.ofList_eq_self hnames])

/-- The values without parts that are read from a document. -/
inductive Json.Leaf : Json → Prop
  | null : Leaf .null
  | bool (b : Bool) : Leaf (.bool b)
  | int (i : Int) : Leaf (.int i)
  | float (x : Binary64) : Leaf (if x.isFinite then .float x else .null)
  | text (s : String) : Leaf (.text s)

/-- A value without parts is read back as it is. -/
theorem reloads_leaf {j : Json} (h : j.Leaf) : Reloads readJson id j := by
  refine Filter.Eventually.of_forall fun depth => ?_
  rw [readJson, id, Json.follow_toDatum, pure_bind]
  cases h with
  | null => rfl
  | bool b => rfl
  | text s => rfl
  | int i =>
      rw [Json.toDatum]
      by_cases hi : 0 ≤ i
      · rw [if_pos hi]
        exact congrArg (fun i => (pure (.int i) : Reading Json)) (Int.toNat_of_nonneg hi)
      · rw [if_neg hi]
  | float x =>
      by_cases hx : x.isFinite
      · rw [if_pos hx]
        exact congrArg (pure : Json → Reading Json) (if_pos hx)
      · rw [if_neg hx]
        rfl

/-- **Every JSON value that is read is read back.** -/
theorem yields_readJson (depth : Nat) (d : Datum) :
    Yields (Reloads readJson id) (readJson depth d) := by
  induction depth using Nat.strongRecOn generalizing d with
  | ind depth ih =>
      rw [readJson]
      refine yields_bind fun d => ?_
      split
      · exact yields_pure (reloads_leaf .null)
      · exact yields_pure (reloads_leaf (.bool _))
      · exact yields_pure (reloads_leaf (.int _))
      · exact yields_pure (reloads_leaf (.int _))
      · exact yields_pure (reloads_leaf (.float _))
      · exact yields_pure (reloads_leaf (.text _))
      · split
        · exact yields_pure (reloads_leaf .null)
        · exact yields_pure (reloads_leaf (.bool _))
        · exact yields_pure (reloads_leaf (.int _))
        · exact yields_pure (reloads_leaf (.int _))
        · exact yields_pure (reloads_leaf (.float _))
        · exact yields_pure (reloads_leaf (.text _))
        · exact yields_refuse
      · split
        · exact yields_refuse
        · rename_i depth
          split
          · exact yields_refuse
          · exact (yields_mapM (ih depth (Nat.lt_succ_self depth)) _).bind fun items hitems =>
              yields_pure (reloads_jsonList hitems)
      · split
        · exact yields_refuse
        · rename_i depth
          split
          · exact yields_refuse
          · refine (yields_mapM (P := fun member : String × Json => Reloads readJson id member.2)
              (fun entry => ?_) _).bind fun members hmembers => yields_pure ?_
            · exact yields_bind fun name =>
                (ih depth (Nat.lt_succ_self depth) _).bind fun value hvalue => yields_pure hvalue
            · exact reloads_jsonObject (Entries.nodup_names_ofList _) fun member hmember =>
                hmembers member (Entries.mem_of_mem_ofList hmember)
      · exact yields_refuse

/-! ### Values -/

@[simp] theorem readText_toDatum (s : String) : readText (Json.text s).toDatum = pure s :=
  rfl

/-- A truth value is read back. -/
@[simp] theorem readBool_toDatum (b : Bool) : readBool (Json.bool b).toDatum = pure b :=
  rfl

/-- A natural number is read back within a bound that it is below. -/
theorem readNat_toDatum {bound n : Nat} (h : n < bound) :
    readNat bound (Json.int n).toDatum = pure n := by
  rw [Json.toDatum, if_pos (Int.natCast_nonneg n), Int.toNat_natCast]
  exact if_pos h

/-- An integer of 64 bits is read back. -/
theorem readInt_toDatum {i : Int} (h : FitsInt i) : readInt (Json.int i).toDatum = pure i := by
  rw [Json.toDatum]
  split
  · rename_i hi
    have hlt : i.toNat < Nat.pow 2 63 := (Int.toNat_lt hi).mpr h.2
    exact (if_pos hlt).trans (congrArg (pure : Int → Reading Int) (Int.toNat_of_nonneg hi))
  · exact if_pos (Bool.and_eq_true _ _ ▸ ⟨decide_eq_true h.1, decide_eq_true h.2⟩)

/-- What is not written as null is there. -/
theorem readOptional_of_ne_null {read : Datum → Reading α} {j : Json} (hj : j ≠ .null) :
    readOptional read j.toDatum = (read j.toDatum >>= fun a => pure (some a)) := by
  rw [readOptional, Json.follow_toDatum, pure_bind]
  cases j with
  | null => exact absurd rfl hj
  | int i =>
      by_cases hi : 0 ≤ i
      · rw [Json.toDatum, if_pos hi]
      · rw [Json.toDatum, if_neg hi]
  | _ => rfl

/-- **What may be absent** is read back if it is when it is there. -/
theorem readOptional_toDatum {read : Datum → Reading α} {write : α → Json}
    (hnull : ∀ a, write a ≠ .null) {o : Option α}
    (h : ∀ a ∈ o, read (write a).toDatum = pure a) :
    readOptional read (Json.ofOption write o).toDatum = pure o := by
  cases o with
  | none => rfl
  | some a => rw [Json.ofOption, readOptional_of_ne_null (hnull a), h a rfl, pure_bind]

/-- An optional text is read back. -/
@[simp] theorem readOptional_ofText? (o : Option String) :
    readOptional readText (Json.ofText? o).toDatum = pure o := by
  cases o <;> rfl

/-- An optional number is read back within its bound. -/
theorem readOptional_ofNat? {bound : Nat} {o : Option Nat} (h : ∀ n ∈ o, n < bound) :
    readOptional (readNat bound) (Json.ofNat? o).toDatum = pure o := by
  have hofNat : Json.ofNat? o = Json.ofOption (fun n : Nat => Json.int n) o := by cases o <;> rfl
  rw [hofNat]
  exact readOptional_toDatum (fun n => Json.noConfusion) fun n hn => readNat_toDatum (h n hn)

/-! ### Collections -/

section Collections

variable {read : Nat → Datum → Reading α} {write : α → Json}

/-- An optional value is read back if it is not written like an absent one. -/
theorem reloads_optional (hnull : ∀ a, write a ≠ .null) {o : Option α}
    (h : ∀ a ∈ o, Reloads read write a) :
    Reloads (fun depth => readOptional (read depth)) (Json.ofOption write) o := by
  have hall : ∀ᶠ depth in Filter.atTop, ∀ a ∈ o.toList, read depth (write a).toDatum = pure a :=
    eventually_forall_mem fun a ha => h a (Option.mem_toList.mp ha)
  exact hall.mono fun depth hall =>
    readOptional_toDatum hnull fun a ha => hall a (Option.mem_toList.mpr ha)

/-- A list is read back if its items are. -/
theorem reloads_list {xs : List α} (h : ∀ a ∈ xs, Reloads read write a) :
    Reloads (fun depth => readList depth (read (depth - 1))) (Json.ofList write) xs := by
  refine eventually_of_succ ((eventually_forall_mem h).mono fun depth h => ?_)
  have hitems : ∀ a ∈ xs, read depth (write a).toDatum = pure (id a) := h
  have hlist : (xs.map fun a => (write a).toDatum).mapM (read depth) = pure xs := by
    rw [mapM_map_eq_pure hitems, List.map_id]
  rw [Json.ofList, Json.toDatum_list, List.map_map]
  exact hlist

/-- Entries are read back if their values are. -/
theorem reloads_entries {entries : Entries α} (h : ∀ entry ∈ entries, Reloads read write entry.2) :
    Reloads (fun depth => readEntries depth (read (depth - 1))) (Entries.toJson write) entries := by
  refine eventually_of_succ ((eventually_forall_mem h).mono fun depth h => ?_)
  rw [Entries.toJson, Json.toDatum_object, List.map_map]
  exact mapM_entries_eq_pure h

end Collections

/-! ### Fields of records -/

/-- The members of an object as fields of a record. -/
def fieldsOf (members : List (String × Json)) : List (String × Datum) :=
  members.map fun member => (member.1, member.2.toDatum)

/-- The members with a known name are added to the fields that were found. -/
theorem collectFields_toDatum {names : List String} {settled : Bool}
    {members : List (String × Json)} (hnames : (Entries.names members).Nodup)
    {found : List (String × Datum)} (hfound : ∀ member ∈ members, found.lookup member.1 = none) :
    collectFields names settled
        (members.map fun member => (.text member.1, member.2.toDatum)) found =
      pure (found ++ fieldsOf (members.filter (names.contains ·.1))) := by
  induction members generalizing found with
  | nil => exact congrArg pure (List.append_nil found).symm
  | cons member rest ih =>
      obtain ⟨hmember, hrest⟩ := List.forall_mem_cons.mp hfound
      obtain ⟨hnew, hnames⟩ := List.nodup_cons.mp hnames
      have hkey : fieldOf? names settled (.text member.1) =
          pure (if names.contains member.1 then some member.1 else none) := rfl
      rw [List.map_cons, collectFields, hkey, pure_bind, List.filter_cons]
      by_cases hknown : names.contains member.1 = true
      · rw [if_pos hknown, if_pos hknown]
        dsimp only
        rw [hmember]
        refine (ih hnames fun other hother => ?_).trans ?_
        · have hne : other.1 ≠ member.1 :=
            ne_of_mem_of_not_mem (List.mem_map_of_mem hother) hnew
          rw [List.lookup_append, hrest other hother, List.lookup_cons, beq_false_of_ne hne]
          rfl
        · rw [List.append_assoc]
          rfl
      · rw [if_neg hknown, if_neg hknown]
        exact ih hnames hrest

/-- **The fields of a written record** are its members that have a known name. -/
theorem readFields_toDatum {names : List String} {members : List (String × Json)}
    (hnames : (Entries.names members).Nodup) (depth : Nat) :
    readFields (depth + 1) names (Json.object members).toDatum =
      pure (fieldsOf (members.filter (names.contains ·.1))) := by
  rw [Json.toDatum_object]
  exact collectFields_toDatum hnames fun _ _ => rfl

/-- All members of a record are its fields if their names are known, in their order. -/
theorem readFields_toDatum_of_sublist {names : List String} (hknown : names.Nodup)
    {members : List (String × Json)} (hmembers : (Entries.names members).Sublist names)
    (depth : Nat) :
    readFields (depth + 1) names (Json.object members).toDatum = pure (fieldsOf members) := by
  rw [readFields_toDatum (hknown.sublist hmembers), List.filter_eq_self.mpr]
  intro member hmember
  exact List.contains_iff_mem.mpr (hmembers.subset (List.mem_map_of_mem hmember))

/-- A reading of a record goes on with its members as fields. -/
theorem readFields_bind {names : List String} {members : List (String × Json)} {depth : Nat}
    {next : List (String × Datum) → Reading α} (hknown : names.Nodup)
    (hmembers : (Entries.names members).Sublist names) :
    (readFields (depth + 1) names (Json.object members).toDatum >>= next) =
      next (fieldsOf members) := by
  rw [readFields_toDatum_of_sublist hknown hmembers, pure_bind]

/-- The fields of a record are its members as data. -/
theorem lookup_fieldsOf (members : List (String × Json)) (name : String) :
    (fieldsOf members).lookup name = (members.lookup name).map Json.toDatum := by
  induction members with
  | nil => rfl
  | cons member rest ih =>
      rw [fieldsOf, List.map_cons, List.lookup_cons, List.lookup_cons, ← fieldsOf, ih]
      split <;> rfl

/-- A field that may be missing is read where the record has it. -/
@[simp] theorem fieldOr_fieldsOf {members : List (String × Json)} {name : String} {missing : α}
    {read : Datum → Reading α} :
    fieldOr (fieldsOf members) name missing read =
      (members.lookup name).elim (pure missing) fun value => read value.toDatum := by
  rw [fieldOr, lookup_fieldsOf]
  cases members.lookup name <;> rfl

/-- A field that must be there is read where the record has it. -/
@[simp] theorem fieldOf_fieldsOf {members : List (String × Json)} {name : String}
    {read : Datum → Reading α} :
    fieldOf (fieldsOf members) name read =
      (members.lookup name).elim refuse fun value => read value.toDatum := by
  rw [fieldOf, lookup_fieldsOf]
  cases members.lookup name <;> rfl

end ServiceGen
