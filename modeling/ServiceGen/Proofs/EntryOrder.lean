import Mathlib.Data.List.Induction
import ServiceGen.Proofs.FileTrees
import ServiceGen.Proofs.ModuleNames

/-!
# Orders of Entries

Entries are collected from lists of pairs in two orders. In both, no name comes twice and all
entries are among the pairs; and a list that has this order already is collected as it is.

## Main results

* `nodup_names_ofList`, `pairwise_names_sortedOfList`: the names of what is collected.
* `ofList_eq_self`, `sortedOfList_eq_self`: **what is in order already stays as it is.**
-/

namespace ServiceGen.Entries

variable {α : Type} {name : String} {value : α} {entries : Entries α} {entry : String × α}

theorem names_cons : names (entry :: entries) = entry.1 :: names entries :=
  rfl

theorem names_append (before after : Entries α) :
    names (before ++ after) = names before ++ names after :=
  List.map_append

/-- A list that adding its items one after the other gives again is what they add up to. -/
theorem foldl_eq_self {β : Type} {add : List β → β → List β} {xs : List β}
    (h : ∀ before x, before ++ [x] <+: xs → add before x = before ++ [x]) :
    xs.foldl add [] = xs := by
  induction xs using List.reverseRecOn with
  | nil => rfl
  | append_singleton xs x ih =>
      have hxs : xs.foldl add [] = xs :=
        ih fun before y hbefore => h before y (hbefore.trans (List.prefix_append _ _))
      rw [List.foldl_append, hxs, List.foldl_cons, List.foldl_nil, h xs x (List.prefix_refl _)]

/-! ### In the order in which they come -/

/-- A new name is put at the end. -/
theorem put_of_not_mem (value : α) (h : name ∉ entries.names) :
    entries.put name value = entries ++ [(name, value)] := by
  induction entries with
  | nil => rfl
  | cons entry rest ih =>
      rw [names_cons, List.mem_cons, not_or] at h
      rw [put, if_neg (by simpa using Ne.symm h.1), ih h.2, List.cons_append]

/-- The entries are the ones before and the new one. -/
theorem of_mem_put (h : entry ∈ entries.put name value) :
    entry = (name, value) ∨ entry ∈ entries := by
  induction entries with
  | nil => exact Or.inl (List.mem_singleton.mp h)
  | cons first rest ih =>
      rw [put] at h
      split at h
      · exact (List.mem_cons.mp h).imp id (List.mem_cons_of_mem _)
      · rcases List.mem_cons.mp h with rfl | h
        · exact Or.inr List.mem_cons_self
        · exact (ih h).imp id (List.mem_cons_of_mem _)

/-- No name comes twice when a value is put. -/
theorem nodup_names_put (h : entries.names.Nodup) : (entries.put name value).names.Nodup := by
  induction entries with
  | nil => exact List.nodup_singleton _
  | cons first rest ih =>
      obtain ⟨hfirst, hrest⟩ := List.nodup_cons.mp h
      rw [put]
      split
      · rename_i heq
        obtain rfl := eq_of_beq heq
        exact h
      · rename_i hne
        refine List.nodup_cons.mpr ⟨fun hmem => ?_, ih hrest⟩
        obtain ⟨entry, hentry, hname⟩ := List.mem_map.mp hmem
        rcases of_mem_put hentry with rfl | hentry
        · exact hne (beq_iff_eq.mpr hname.symm)
        · exact hfirst (hname ▸ List.mem_map_of_mem hentry)

/-- Entries gathered in order have each name once. -/
theorem nodup_names_ofList (pairs : List (String × α)) : (ofList pairs).names.Nodup :=
  List.foldlRecOn (motive := fun entries => (names entries).Nodup) pairs _ List.nodup_nil
    fun _ h _ _ => nodup_names_put h

/-- Every gathered entry was given. -/
theorem mem_of_mem_ofList {pairs : List (String × α)} (h : entry ∈ ofList pairs) :
    entry ∈ pairs := by
  refine List.foldlRecOn (motive := fun found => ∀ entry ∈ found, entry ∈ pairs) pairs _
    (List.forall_mem_nil _) (fun found hfound pair hpair entry h => ?_) entry h
  rcases of_mem_put h with rfl | h
  · exact hpair
  · exact hfound entry h

/-- **Entries without a repeated name** are collected as they are. -/
theorem ofList_eq_self (h : entries.names.Nodup) : ofList entries = entries := by
  refine foldl_eq_self fun before entry hbefore => put_of_not_mem entry.2 ?_
  have hnodup : (names (before ++ [entry])).Nodup := h.sublist (hbefore.sublist.map _)
  rw [names_append, List.nodup_append] at hnodup
  exact fun hmem => hnodup.2.2 _ hmem _ (List.mem_singleton_self _) rfl

/-! ### In ascending order -/

/-- Putting an entry puts its name. -/
theorem names_putSorted : (entries.putSorted name value).names = putName name entries.names := by
  induction entries with
  | nil => rfl
  | cons first rest ih =>
      rw [putSorted, names_cons, putName]
      split
      · rfl
      · split
        · rename_i heq
          rw [names_cons, eq_of_beq heq]
        · rw [names_cons, ih]

/-- Entries sorted by name have the sorted names. -/
theorem names_sortedOfList (pairs : List (String × α)) :
    (sortedOfList pairs).names = sortedNames (pairs.map (·.1)) := by
  rw [sortedNames, List.foldl_map]
  refine (List.foldl_hom names fun entries pair => ?_).symm
  exact names_putSorted.symm

/-- The names are ascending. -/
theorem pairwise_names_sortedOfList (pairs : List (String × α)) :
    (sortedOfList pairs).names.Pairwise (· < ·) := by
  rw [names_sortedOfList]
  exact pairwise_sortedNames _

/-- Every sorted entry was given. -/
theorem mem_of_mem_sortedOfList {pairs : List (String × α)} (h : entry ∈ sortedOfList pairs) :
    entry ∈ pairs := by
  refine List.foldlRecOn (motive := fun found => ∀ entry ∈ found, entry ∈ pairs) pairs _
    (List.forall_mem_nil _) (fun found hfound pair hpair entry h => ?_) entry h
  rcases of_mem_putSorted h with rfl | h
  · exact hpair
  · exact hfound entry h

/-- A name after all others is put at the end. -/
theorem putSorted_of_lt (value : α) (h : ∀ other ∈ entries.names, other < name) :
    entries.putSorted name value = entries ++ [(name, value)] := by
  induction entries with
  | nil => rfl
  | cons first rest ih =>
      obtain ⟨hfirst, hrest⟩ := List.forall_mem_cons.mp h
      rw [putSorted, if_neg (lt_asymm hfirst), if_neg (by simpa using ne_of_gt hfirst), ih hrest,
        List.cons_append]

/-- **Ascending entries** are collected as they are. -/
theorem sortedOfList_eq_self (h : entries.names.Pairwise (· < ·)) :
    sortedOfList entries = entries := by
  refine foldl_eq_self fun before entry hbefore => putSorted_of_lt entry.2 ?_
  have hascending : (names (before ++ [entry])).Pairwise (· < ·) :=
    h.sublist (hbefore.sublist.map _)
  rw [names_append, List.pairwise_append] at hascending
  exact fun other hother => hascending.2.2 _ hother _ (List.mem_singleton_self _)

end ServiceGen.Entries
