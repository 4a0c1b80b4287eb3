import ServiceGen.Proofs.Ceilings
import ServiceGen.Proofs.Chains
import ServiceGen.Proofs.PrimaryModules

/-!
# Parameters of Path Items

An operation of a module has the parameters of its path item, apart from those that it overrides
with parameters of its own. What a parameter is called is looked up one reference deep when the
module is made, and along the whole chain of references whenever the parameter is used. So an
inherited parameter that a chain leads to, or that only such a parameter overrides, stays.

## Main results

* `followItem_eq_some_iff`: following references finds what they lead to, with room for them.
* `inheritParameters_keeps`: **what inheriting never loses.**
* `overridesParameters_iff`: which operations override the parameters of their path items.
* `not_forall_overridesParameters`: an operation does not, where its path item goes through an
  alias.
-/

namespace ServiceGen

/-! ### Chains of references -/

/-- Through a section of the components, a number of references lead from an item to a value. -/
inductive RefOr.LeadsTo {α : Type} (target : Section) (items : Entries (RefOr α)) :
    RefOr α → Nat → α → Prop
  /-- A value is there already. -/
  | item (value : α) : LeadsTo target items (.item value) 0 value
  /-- A reference leads to where the item that it names does. -/
  | reference {reference name : String} {next : RefOr α} {steps : Nat} {value : α}
      (hname : Reference.componentName? target reference = some name)
      (hnext : items.get? name = some next) (h : LeadsTo target items next steps value) :
      LeadsTo target items (.reference reference) (steps + 1) value

namespace RefOr.LeadsTo

variable {α : Type} {target : Section} {items : Entries (RefOr α)} {x : RefOr α} {n m : Nat}
  {a b : α}

/-- References lead to one value, in one number of steps. -/
theorem unique (ha : LeadsTo target items x n a) (hb : LeadsTo target items x m b) :
    n = m ∧ a = b := by
  induction ha generalizing m with
  | item value =>
      cases hb
      exact ⟨rfl, rfl⟩
  | reference hname hnext h ih =>
      cases hb with
      | reference hname' hnext' h' =>
          obtain rfl := Option.some.inj (hname.symm.trans hname')
          obtain rfl := Option.some.inj (hnext.symm.trans hnext')
          obtain ⟨rfl, rfl⟩ := ih h'
          exact ⟨rfl, rfl⟩

end RefOr.LeadsTo

/-- **Following references finds what they lead to**, exactly where there is room for more steps
than they take. -/
theorem Resolver.followItem_eq_some_iff {α : Type} {r : Resolver} {target : Section}
    {items : Entries (RefOr α)} {room : Nat} {x : RefOr α} {a : α} :
    r.followItem target items room x = .ok (some a) ↔
      ∃ steps < room, RefOr.LeadsTo target items x steps a := by
  induction room generalizing x with
  | zero => simp [followItem]
  | succ room ih =>
      cases x with
      | item value =>
          rw [followItem]
          constructor
          · rintro ⟨⟩
            exact ⟨0, Nat.succ_pos _, .item a⟩
          · rintro ⟨steps, -, h⟩
            cases h
            rfl
      | reference reference =>
          rw [followItem]
          constructor
          · intro h
            cases hnext : (Reference.componentName? target reference).bind items.get? with
            | none =>
                rw [hnext] at h
                dsimp only [absent] at h
                split at h <;> cases h
            | some next =>
                rw [hnext] at h
                obtain ⟨name, hname, hnext⟩ := Option.bind_eq_some_iff.mp hnext
                obtain ⟨steps, hsteps, h⟩ := ih.mp h
                exact ⟨steps + 1, Nat.succ_lt_succ hsteps, .reference hname hnext h⟩
          · rintro ⟨steps, hsteps, h⟩
            cases h with
            | reference hname hnext h =>
                rw [hname, Option.bind_some, hnext]
                exact ih.mpr ⟨_, Nat.lt_of_succ_lt_succ hsteps, h⟩

/-! ### What parameters are called -/

/-- What tells the parameters of an operation apart. -/
abbrev ParameterKey := String × ParameterLocation

/-- The name and location of a parameter, looked up along its whole chain of references. -/
def Resolver.parameterKey? (r : Resolver) (p : RefOr Parameter) : Option ParameterKey :=
  match r.parameter p 0 with
  | .ok (some found) => some (found.name, found.location)
  | _ => none

/-- A parameter has a name and location behind a number of references. -/
def Document.HasKey (d : Document) (p : RefOr Parameter) (steps : Nat) (key : ParameterKey) :
    Prop :=
  ∃ found : Parameter, p.LeadsTo .parameters d.components.parameters steps found ∧
    (found.name, found.location) = key

variable {d : Document} {p : RefOr Parameter} {steps steps' : Nat} {key key' : ParameterKey}

/-- A parameter has one name and location, behind one number of references. -/
theorem Document.HasKey.unique (h : d.HasKey p steps key) (h' : d.HasKey p steps' key') :
    steps = steps' ∧ key = key' := by
  obtain ⟨found, hfound, rfl⟩ := h
  obtain ⟨found', hfound', rfl⟩ := h'
  obtain ⟨rfl, rfl⟩ := hfound.unique hfound'
  exact ⟨rfl, rfl⟩

/-- A resolver finds the name and location of a parameter that is not behind more references than
its ceiling. -/
theorem Resolver.parameterKey?_eq_some_iff {ceiling : Nat} {strict : Bool} :
    (d.resolver ceiling strict).parameterKey? p = some key ↔
      ∃ steps ≤ ceiling, d.HasKey p steps key := by
  have hroom : (d.resolver ceiling strict).room 0 = ceiling + 1 := rfl
  have hfound : (d.resolver ceiling strict).parameterKey? p = some key ↔
      ∃ found, (d.resolver ceiling strict).parameter p 0 = .ok (some found) ∧
        (found.name, found.location) = key := by
    rw [parameterKey?]
    split
    · rename_i found heq
      simp [heq]
    · rename_i hnone
      simp only [reduceCtorEq, false_iff, not_exists, not_and]
      exact fun found heq => absurd heq (hnone found)
  rw [hfound]
  simp only [parameter, hroom, followItem_eq_some_iff, Nat.lt_succ_iff, Document.HasKey]
  constructor
  · rintro ⟨found, ⟨steps, hsteps, h⟩, hkey⟩
    exact ⟨steps, hsteps, found, h, hkey⟩
  · rintro ⟨steps, hsteps, found, h, hkey⟩
    exact ⟨found, ⟨steps, hsteps, h⟩, hkey⟩

/-- **A module is made with the names that are behind at most one reference.** -/
theorem ApiModule.parameterKey?_eq_some_iff :
    parameterKey? d p = some key ↔ ∃ steps ≤ 1, d.HasKey p steps key := by
  cases p with
  | item value =>
      rw [parameterKey?, Option.some.injEq]
      constructor
      · rintro rfl
        exact ⟨0, Nat.zero_le 1, value, .item value, rfl⟩
      · rintro ⟨steps, -, found, hfound, rfl⟩
        cases hfound
        rfl
  | reference target =>
      simp only [parameterKey?, bind, Option.bind_eq_some_iff, pure, Option.some.injEq]
      constructor
      · rintro ⟨name, hname, next, hnext, value, hvalue, rfl⟩
        cases next with
        | reference other => cases hvalue
        | item inner =>
            cases hvalue
            exact ⟨1, Nat.le_refl 1, value, .reference hname hnext (.item value), rfl⟩
      · rintro ⟨steps, hsteps, value, hvalue, rfl⟩
        cases hvalue with
        | reference hname hnext h =>
            cases h with
            | item value => exact ⟨_, hname, _, hnext, value, rfl, rfl⟩
            | reference => omega

/-- A ceiling above all references of some parameters: every resolver with so much room finds what
they are called. -/
theorem Document.exists_ceiling (d : Document) (ps : List (RefOr Parameter)) :
    ∃ enough, ∀ ceiling, enough ≤ ceiling → ∀ strict, ∀ p ∈ ps, ∀ key,
      (d.resolver ceiling strict).parameterKey? p = some key ↔ ∃ steps, d.HasKey p steps key := by
  induction ps with
  | nil => exact ⟨0, by simp⟩
  | cons p ps ih =>
      obtain ⟨enough, hrest⟩ := ih
      obtain ⟨bound, hbound⟩ : ∃ bound, ∀ steps key, d.HasKey p steps key → steps ≤ bound := by
        by_cases h : ∃ steps key, d.HasKey p steps key
        · obtain ⟨steps, key, hkey⟩ := h
          exact ⟨steps, fun steps' key' hkey' => (hkey'.unique hkey).1.le⟩
        · exact ⟨0, fun steps key hkey => absurd ⟨steps, key, hkey⟩ h⟩
      refine ⟨max bound enough, fun ceiling hceiling strict => List.forall_mem_cons.mpr
        ⟨fun key => ?_, hrest ceiling (le_of_max_le_right hceiling) strict⟩⟩
      rw [Resolver.parameterKey?_eq_some_iff]
      constructor
      · rintro ⟨steps, -, hkey⟩
        exact ⟨steps, hkey⟩
      · rintro ⟨steps, hkey⟩
        exact ⟨steps, (hbound steps key hkey).trans (le_of_max_le_left hceiling), hkey⟩

/-! ### Parameters of operations -/

/-- One of the own parameters of an operation is called as an inherited one, by some way to look
up what parameters are called. -/
def overriddenBy (keyOf : RefOr Parameter → Option ParameterKey) (own : List (RefOr Parameter))
    (p : RefOr Parameter) : Bool :=
  (keyOf p).any fun key => own.any fun q => keyOf q == some key

/-- A parameter is overridden by one with the same key. -/
theorem overriddenBy_iff {keyOf : RefOr Parameter → Option ParameterKey}
    {own : List (RefOr Parameter)} :
    overriddenBy keyOf own p = true ↔
      ∃ key, keyOf p = some key ∧ ∃ q ∈ own, keyOf q = some key := by
  simp only [overriddenBy, Option.any_eq_true, List.any_eq_true, beq_iff_eq]

/-- An operation with the inherited parameters that it does not override before its own. -/
def Operation.inheriting (keyOf : RefOr Parameter → Option ParameterKey)
    (inherited : List (RefOr Parameter)) (op : Operation) : Operation :=
  { op with
    parameters := inherited.filter (!overriddenBy keyOf op.parameters ·) ++ op.parameters }

/-- Two ways to look parameters up inherit the same ones exactly if they agree on which of them
are overridden. -/
theorem Operation.inheriting_inj {f g : RefOr Parameter → Option ParameterKey}
    {inherited : List (RefOr Parameter)} {op : Operation} :
    op.inheriting f inherited = op.inheriting g inherited ↔
      ∀ p ∈ inherited, overriddenBy f op.parameters p = overriddenBy g op.parameters p := by
  constructor
  · intro h p hp
    have hfilter := (List.append_left_inj _).mp (congrArg Operation.parameters h)
    have hmem := congrArg (p ∈ ·) hfilter
    simpa [List.mem_filter, hp] using hmem
  · intro h
    rw [inheriting, inheriting, List.filter_congr fun p hp => congrArg (!·) (h p hp)]

/-- **A module is made with** the parameters that one reference does not show to be overridden. -/
theorem ApiModule.inheritParameters_eq (d : Document) (inherited : List (RefOr Parameter))
    (op : Operation) :
    inheritParameters d inherited op = op.inheriting (parameterKey? d) inherited := by
  refine congrArg (fun kept => { op with parameters := kept ++ op.parameters })
    (List.filter_congr fun p _ => ?_)
  rw [overriddenBy]
  cases parameterKey? d p with
  | none => rfl
  | some key =>
      rw [Option.any_some, Bool.not_inj_iff, Bool.eq_iff_iff, List.contains_iff_mem]
      simp only [List.mem_filterMap, List.any_eq_true, beq_iff_eq]

namespace Document

/-- One of the own parameters of an operation has the name and location of an inherited one. -/
def Overridden (d : Document) (own : List (RefOr Parameter)) (p : RefOr Parameter) : Prop :=
  ∃ key, (∃ steps, d.HasKey p steps key) ∧ ∃ q ∈ own, ∃ steps, d.HasKey q steps key

/-- The same, as far as one reference shows it. -/
def OverriddenNearby (d : Document) (own : List (RefOr Parameter)) (p : RefOr Parameter) : Prop :=
  ∃ key, (∃ steps ≤ 1, d.HasKey p steps key) ∧ ∃ q ∈ own, ∃ steps ≤ 1, d.HasKey q steps key

/-- What one reference shows, is so. -/
theorem OverriddenNearby.overridden {own : List (RefOr Parameter)}
    (h : d.OverriddenNearby own p) : d.Overridden own p := by
  obtain ⟨key, ⟨steps, -, hp⟩, q, hq, steps', -, hown⟩ := h
  exact ⟨key, ⟨steps, hp⟩, q, hq, steps', hown⟩

/-- A module is made without what one reference shows to be overridden. -/
theorem overriddenNearby_iff {own : List (RefOr Parameter)} :
    overriddenBy (ApiModule.parameterKey? d) own p = true ↔ d.OverriddenNearby own p := by
  simp only [overriddenBy_iff, ApiModule.parameterKey?_eq_some_iff, OverriddenNearby]

/-- The operations of a module have the parameters of their path items before their own, apart
from those that a resolver with enough room finds to be overridden. -/
def OverridesParameters (d : Document) (name : String) : Prop :=
  ∃ enough, ∀ ceiling, enough ≤ ceiling → ∀ strict,
    (ApiModule.ofDocument d name).operations =
      (d.routes.filter fun r => ApiModule.hasOperation name r.operation r.path).map fun r =>
        ⟨r.method, r.path,
          r.operation.inheriting (d.resolver ceiling strict).parameterKey? r.item.parameters⟩

/-- With enough room, a resolver finds what is overridden. -/
theorem exists_ceiling_overridden (d : Document) (name : String) :
    ∃ enough, ∀ ceiling, enough ≤ ceiling → ∀ strict, ∀ r ∈ d.routes,
      ApiModule.hasOperation name r.operation r.path = true → ∀ p ∈ r.item.parameters,
        (overriddenBy (d.resolver ceiling strict).parameterKey? r.operation.parameters p = true ↔
          d.Overridden r.operation.parameters p) := by
  obtain ⟨enough, hkeys⟩ := d.exists_ceiling
    (d.routes.flatMap fun r => r.item.parameters ++ r.operation.parameters)
  refine ⟨enough, fun ceiling hceiling strict r hr _ p hp => ?_⟩
  have hall : ∀ q ∈ r.item.parameters ++ r.operation.parameters, ∀ key,
      (d.resolver ceiling strict).parameterKey? q = some key ↔ ∃ steps, d.HasKey q steps key :=
    fun q hq => hkeys ceiling hceiling strict q (List.mem_flatMap.mpr ⟨r, hr, hq⟩)
  rw [overriddenBy_iff, Overridden]
  refine exists_congr fun key => and_congr (hall p (List.mem_append_left _ hp) key) ?_
  exact exists_congr fun q => and_congr_right fun hq => hall q (List.mem_append_right _ hq) key

/-- The operations of a module override the parameters of their path items exactly if one
reference shows all that is overridden. -/
theorem overridesParameters_iff_forall (d : Document) (name : String) :
    d.OverridesParameters name ↔ ∀ r ∈ d.routes,
      ApiModule.hasOperation name r.operation r.path = true → ∀ p ∈ r.item.parameters,
        d.Overridden r.operation.parameters p → d.OverriddenNearby r.operation.parameters p := by
  have hoperations : ∀ ceiling strict, (ApiModule.ofDocument d name).operations =
      (d.routes.filter fun r => ApiModule.hasOperation name r.operation r.path).map (fun r =>
        ⟨r.method, r.path,
          r.operation.inheriting (d.resolver ceiling strict).parameterKey? r.item.parameters⟩) ↔
      ∀ r ∈ d.routes, ApiModule.hasOperation name r.operation r.path = true →
        ∀ p ∈ r.item.parameters,
          overriddenBy (ApiModule.parameterKey? d) r.operation.parameters p =
            overriddenBy (d.resolver ceiling strict).parameterKey? r.operation.parameters p := by
    intro ceiling strict
    rw [ApiModule.ofDocument, List.map_inj_left]
    simp only [ApiModule.inheritParameters_eq, ModuleOperation.mk.injEq, true_and,
      Operation.inheriting_inj, List.mem_filter, and_imp]
  obtain ⟨enough, hoverridden⟩ := d.exists_ceiling_overridden name
  constructor
  · rintro ⟨enough', h⟩ r hr hmodule p hp hp'
    have hroom := (hoperations (max enough enough') false).mp (h _ (Nat.le_max_right _ _) false)
    rw [← overriddenNearby_iff, hroom r hr hmodule p hp,
      hoverridden _ (Nat.le_max_left _ _) false r hr hmodule p hp]
    exact hp'
  · intro h
    refine ⟨enough, fun ceiling hceiling strict => (hoperations ceiling strict).mpr
      fun r hr hmodule p hp => ?_⟩
    rw [Bool.eq_iff_iff, overriddenNearby_iff,
      hoverridden ceiling hceiling strict r hr hmodule p hp]
    exact ⟨OverriddenNearby.overridden, h r hr hmodule p hp⟩

/-- **What inheriting never loses**: the parameters that a resolver does not find to be overridden,
in their order. -/
theorem sublist_kept {ceiling : Nat} (hceiling : 1 ≤ ceiling) (strict : Bool)
    (inherited own : List (RefOr Parameter)) :
    (inherited.filter (!overriddenBy (d.resolver ceiling strict).parameterKey? own ·)).Sublist
      (inherited.filter (!overriddenBy (ApiModule.parameterKey? d) own ·)) := by
  refine List.monotone_filter_right _ fun p hp => ?_
  simp only [Bool.not_eq_eq_eq_not, Bool.not_true, ← Bool.not_eq_true] at hp ⊢
  intro hnear
  refine hp (overriddenBy_iff.mpr ?_)
  obtain ⟨key, ⟨steps, hsteps, hkey⟩, q, hq, steps', hsteps', hkey'⟩ :=
    overriddenNearby_iff.mp hnear
  exact ⟨key, Resolver.parameterKey?_eq_some_iff.mpr ⟨steps, hsteps.trans hceiling, hkey⟩, q, hq,
    Resolver.parameterKey?_eq_some_iff.mpr ⟨steps', hsteps'.trans hceiling, hkey'⟩⟩

/-- A parameter is behind one reference at most, where no component is a reference. -/
theorem HasKey.le_one (h : d.HasKey p steps key)
    (hitems : ∀ entry ∈ d.components.parameters, entry.2.item?.isSome = true) : steps ≤ 1 := by
  obtain ⟨found, hfound, -⟩ := h
  cases hfound with
  | item => exact Nat.zero_le 1
  | reference hname hnext h =>
      cases h with
      | item => exact Nat.le_refl 1
      | reference hname' hnext' h =>
          cases hitems _ (mem_of_get?_eq_some hnext)

/-- **Overriding the parameters of path items.** The operations of a module do, under every ceiling
that is high enough, exactly if each inherited parameter that has the name and location of an own
one is reached within one reference, and so is some own one of that name and location. So they do
where no parameter of the components is a reference. Whatever the references are, each operation
keeps all its own parameters, and before them, in their order, at least the inherited ones that
are not overridden. -/
theorem overridesParameters_iff (d : Document) (name : String) :
    (d.OverridesParameters name ↔ ∀ r ∈ d.routes,
      ApiModule.hasOperation name r.operation r.path = true → ∀ p ∈ r.item.parameters,
        d.Overridden r.operation.parameters p → d.OverriddenNearby r.operation.parameters p) ∧
    ((∀ entry ∈ d.components.parameters, entry.2.item?.isSome = true) →
      d.OverridesParameters name) ∧
    ∀ o ∈ (ApiModule.ofDocument d name).operations, ∃ r ∈ d.routes, ∃ kept,
      o = ⟨r.method, r.path, { r.operation with parameters := kept ++ r.operation.parameters }⟩ ∧
        kept.Sublist r.item.parameters ∧ ∀ ceiling, 1 ≤ ceiling → ∀ strict,
          (r.item.parameters.filter (!overriddenBy (d.resolver ceiling strict).parameterKey?
            r.operation.parameters ·)).Sublist kept := by
  refine ⟨d.overridesParameters_iff_forall name, fun hitems => ?_, fun o ho => ?_⟩
  · refine (d.overridesParameters_iff_forall name).mpr fun r _ _ p _ hp => ?_
    obtain ⟨key, ⟨steps, hkey⟩, q, hq, steps', hkey'⟩ := hp
    exact ⟨key, ⟨steps, hkey.le_one hitems, hkey⟩, q, hq, steps', hkey'.le_one hitems, hkey'⟩
  · obtain ⟨r, hr, -, rfl⟩ := ApiModule.mem_operations_ofDocument.mp ho
    refine ⟨r, hr, r.item.parameters.filter (!overriddenBy (ApiModule.parameterKey? d)
      r.operation.parameters ·), ?_, List.filter_sublist, fun ceiling hceiling strict =>
        sublist_kept hceiling strict _ _⟩
    rw [Route.entry, ApiModule.inheritParameters_eq, Operation.inheriting]

/-- A document of one operation, with a parameter `page` in its path item and one of its own. -/
def paged (inherited own : RefOr Parameter) (components : Entries (RefOr Parameter)) :
    Document where
  paths := [("/books", {
    parameters := [inherited]
    get := some { tags := ["book"], parameters := [own] } })]
  components := { parameters := components }

/-- The parameter `page`. -/
def page : RefOr Parameter := .item { name := "page" }

/-- The parameter `page` overrides one that a reference leads to, and is the only one left. -/
theorem overridesParameters_paged :
    (∀ entry ∈ [("Page", page)], entry.2.item?.isSome = true) ∧
      (paged (.reference "#/components/parameters/Page") page
        [("Page", page)]).OverridesParameters "book" ∧
      ∃ o ∈ (ApiModule.ofDocument (paged (.reference "#/components/parameters/Page") page
        [("Page", page)]) "book").operations, o.operation.parameters = [page] := by
  have hitems : ∀ entry ∈ [("Page", page)], entry.2.item?.isSome = true := by decide
  exact ⟨hitems, (overridesParameters_iff _ "book").2.1 hitems, _, List.mem_cons_self, rfl⟩

/-- A document whose path item has the parameter `page` under another name. -/
def aliased : Document :=
  paged (.reference "#/components/parameters/Number") page
    [("Number", .reference "#/components/parameters/Page"), ("Page", page)]

/-- The parameter `page` does not override one that an alias of it leads to: both stay. -/
theorem not_forall_overridesParameters : ¬ ∀ (d : Document) (name : String),
    d.OverridesParameters name := by
  intro hall
  have hnumber : Reference.componentName? .parameters "#/components/parameters/Number" =
      some "Number" := rfl
  have hpage : Reference.componentName? .parameters "#/components/parameters/Page" =
      some "Page" := rfl
  have hoverridden : aliased.Overridden [page] (.reference "#/components/parameters/Number") :=
    ⟨("page", .query),
      ⟨2, { name := "page" }, .reference hnumber rfl (.reference hpage rfl (.item _)), rfl⟩,
      page, List.mem_singleton_self _, 0, _, .item _, rfl⟩
  have hnearby := (aliased.overridesParameters_iff_forall "book").mp (hall aliased "book") _
    List.mem_cons_self (by decide) _ List.mem_cons_self hoverridden
  exact absurd (overriddenNearby_iff.mpr hnearby) (by decide)

end Document

end ServiceGen
