import ServiceGen.Analysis.Model
import ServiceGen.Proofs.Words

/-!
# Breaking Cycles of Structs

`Model.walkAll` walks over the models depth first and notes the fields that lead back to a
model on the way to theirs. This module proves that nothing else can close a cycle: without
the noted fields, no model holds itself by value, directly or through others.

The relation `Held` leaves out the noted fields. A walk keeps what `OnTrail` says: a model
that was come to and is not on the way to the current one is *settled*, that is, accessible
under `Held`. Walking on only notes more fields, so what is settled stays so (`Le`).

## Main results

* `walkFrom_spec`: what a walk from one model adds.
* `wellFounded_held`: after the whole walk, every model is settled.
* `onCycle_of_mem_back`: what is noted lies on a cycle.
* `acyclic_boxRecursive`: with the noted fields behind pointers, **no struct holds itself by
  value**.
-/

namespace ServiceGen.Model

variable {models : List Model}

/-! ### What holds what -/

/-- A field that holds a model stands at its position in the fields. -/
theorem mem_edges {m : Model} {edge : Nat × Model} :
    edge ∈ edges models m ↔ ∃ f, m.fields[edge.1]? = some f ∧
      models.find? (·.name == f.baseType) = some edge.2 := by
  obtain ⟨i, target⟩ := edge
  simp only [edges, List.mem_filterMap, Option.map_eq_some_iff, Prod.exists,
    List.mem_zipIdx_iff_getElem?, Prod.mk.injEq]
  constructor
  · rintro ⟨f, j, hf, t, hfind, rfl, rfl⟩
    exact ⟨f, hf, hfind⟩
  · rintro ⟨f, hf, hfind⟩
    exact ⟨f, i, hf, target, hfind, rfl, rfl⟩

/-- What a field holds is a model. -/
theorem mem_of_mem_edges {m : Model} {edge : Nat × Model} (h : edge ∈ edges models m) :
    edge.2 ∈ models := by
  obtain ⟨f, -, hfind⟩ := mem_edges.mp h
  exact List.mem_of_find?_eq_some hfind

/-- A model of the name `holder` holds one of the name `held` by value, in a field that is not
among those noted in `back`. -/
def Held (models : List Model) (back : List (String × Nat)) (held holder : String) : Prop :=
  ∃ m ∈ models, m.name = holder ∧
    ∃ edge ∈ edges models m, edge.2.name = held ∧ (holder, edge.1) ∉ back

/-- Noting more fields only removes what is held. -/
theorem acc_held_mono {back back' : List (String × Nat)} (h : back ⊆ back') {name : String}
    (hacc : Acc (Held models back) name) : Acc (Held models back') name :=
  Subrelation.accessible
    (fun ⟨m, hm, hname, edge, hedge, hheld, hback⟩ =>
      ⟨m, hm, hname, edge, hedge, hheld, fun hmem => hback (h hmem)⟩) hacc

/-! ### Walks -/

namespace Walk

/-- A walk that has come further. -/
structure Le (w w' : Walk) : Prop where
  /-- What was come to stays so. -/
  seen : w.seen ⊆ w'.seen
  /-- What was noted stays so. -/
  back : w.back ⊆ w'.back

theorem Le.refl (w : Walk) : Le w w :=
  ⟨List.Subset.refl _, List.Subset.refl _⟩

theorem Le.trans {w₁ w₂ w₃ : Walk} (h₁ : Le w₁ w₂) (h₂ : Le w₂ w₃) : Le w₁ w₃ :=
  ⟨List.Subset.trans h₁.seen h₂.seen, List.Subset.trans h₁.back h₂.back⟩

/-- What a walk with the given fuel and trail has found so far. -/
structure OnTrail (models : List Model) (fuel : Nat) (trail : List String) (w : Walk) : Prop where
  /-- The way to the current model does not come to a model twice. -/
  nodup : trail.Nodup
  /-- It leads through models. -/
  names : trail ⊆ models.map (·.name)
  /-- The models on it were come to. -/
  seen : trail ⊆ w.seen
  /-- The fuel is enough for the models that are not on it. -/
  fuel : models.length ≤ fuel + trail.length
  /-- All others that were come to are settled. -/
  settled : ∀ name ∈ w.seen, name ∉ trail → Acc (Held models w.back) name

/-- An edge that a walk is done with: it is noted, or leads to a settled model. -/
def Done (name : String) (trail : List String) (w : Walk) (edge : Nat × Model) : Prop :=
  (name, edge.1) ∈ w.back ∨ (edge.2.name ∈ w.seen ∧ edge.2.name ∉ trail)

/-- What is done stays done. -/
theorem Done.mono {name : String} {trail : List String} {w w' : Walk} {edge : Nat × Model}
    (h : Done name trail w edge) (hle : Le w w') : Done name trail w' edge := by
  rcases h with h | ⟨hseen, htrail⟩
  · exact Or.inl (hle.back h)
  · exact Or.inr ⟨hle.seen hseen, htrail⟩

/-- A walk goes on from a model that was not come to before. -/
theorem OnTrail.push {fuel : Nat} {trail : List String} {m : Model} {w : Walk}
    (hw : OnTrail models (fuel + 1) trail w) (hm : m ∈ models) (hnew : m.name ∉ w.seen) :
    OnTrail models fuel (m.name :: trail) { w with seen := m.name :: w.seen } where
  nodup := List.nodup_cons.mpr ⟨fun hmem => hnew (hw.seen hmem), hw.nodup⟩
  names := List.cons_subset.mpr ⟨List.mem_map_of_mem hm, hw.names⟩
  seen := List.cons_subset_cons _ hw.seen
  fuel := by
    have hfuel := hw.fuel
    rw [List.length_cons]
    omega
  settled name hseen htrail := by
    rw [List.mem_cons, not_or] at htrail
    rcases List.mem_cons.mp hseen with rfl | hseen
    · exact absurd rfl htrail.1
    · exact hw.settled name hseen htrail.2

/-- **A model is settled** once the walk is done with all its edges. -/
theorem OnTrail.acc_held (hnames : (models.map (·.name)).Nodup) {fuel : Nat}
    {trail : List String} {m : Model} {w : Walk} (hw : OnTrail models fuel trail w)
    (hm : m ∈ models) (hdone : ∀ edge ∈ edges models m, Done m.name trail w edge) :
    Acc (Held models w.back) m.name := by
  refine Acc.intro _ fun held hheld => ?_
  obtain ⟨other, hother, hname, edge, hedge, rfl, hback⟩ := hheld
  obtain rfl : other = m := List.inj_on_of_nodup_map hnames hother hm hname
  rcases hdone edge hedge with hnoted | ⟨hseen, htrail⟩
  · exact absurd hnoted hback
  · exact hw.settled _ hseen htrail

end Walk

open Walk (Le OnTrail Done)

/-- One edge of a walk. -/
def visit (models : List Model) (fuel : Nat) (trail : List String) (name : String) (walk : Walk)
    (edge : Nat × Model) : Walk :=
  if trail.contains edge.2.name then { walk with back := (name, edge.1) :: walk.back }
  else if walk.seen.contains edge.2.name then walk
  else walkFrom models fuel trail edge.2 walk

/-- A walk goes along the edges of its model. -/
theorem walkFrom_succ (models : List Model) (fuel : Nat) (trail : List String) (m : Model)
    (walk : Walk) :
    walkFrom models (fuel + 1) trail m walk =
      (edges models m).foldl (visit models fuel (m.name :: trail) m.name)
        { walk with seen := m.name :: walk.seen } := rfl

/-- What a walk from a new model adds, with some fuel: it comes further, to that model, and
settles what it comes to. -/
def WalksFrom (models : List Model) (fuel : Nat) : Prop :=
  ∀ (trail : List String) (m : Model) (w : Walk), m ∈ models → m.name ∉ w.seen →
    OnTrail models fuel trail w →
      Le w (walkFrom models fuel trail m w) ∧ m.name ∈ (walkFrom models fuel trail m w).seen ∧
        OnTrail models fuel trail (walkFrom models fuel trail m w)

/-- One edge keeps the invariant, and is done with afterwards. -/
theorem visit_spec {fuel : Nat} (hwalks : WalksFrom models fuel) {trail : List String}
    (name : String) {w : Walk} (hw : OnTrail models fuel trail w) {edge : Nat × Model}
    (hedge : edge.2 ∈ models) :
    Le w (visit models fuel trail name w edge) ∧
      OnTrail models fuel trail (visit models fuel trail name w edge) ∧
        Done name trail (visit models fuel trail name w edge) edge := by
  rw [visit]
  split
  · -- The edge leads back: it is noted.
    have hle : Le w { w with back := (name, edge.1) :: w.back } :=
      ⟨List.Subset.refl _, List.subset_cons_self _ _⟩
    refine ⟨hle, ⟨hw.nodup, hw.names, hw.seen, hw.fuel, fun other hseen htrail => ?_⟩,
      Or.inl List.mem_cons_self⟩
    exact acc_held_mono hle.back (hw.settled other hseen htrail)
  · rename_i htrail
    rw [List.contains_iff_mem] at htrail
    split
    · rename_i hseen
      rw [List.contains_iff_mem] at hseen
      exact ⟨Le.refl w, hw, Or.inr ⟨hseen, htrail⟩⟩
    · rename_i hseen
      rw [List.contains_iff_mem] at hseen
      obtain ⟨hle, hmem, hnext⟩ := hwalks trail edge.2 w hedge hseen hw
      exact ⟨hle, hnext, Or.inr ⟨hmem, htrail⟩⟩

/-- So do several edges, one after the other. -/
theorem foldl_visit_spec {fuel : Nat} (hwalks : WalksFrom models fuel) {trail : List String}
    (name : String) {edges : List (Nat × Model)} (hedges : ∀ edge ∈ edges, edge.2 ∈ models)
    {w : Walk} (hw : OnTrail models fuel trail w) :
    Le w (edges.foldl (visit models fuel trail name) w) ∧
      OnTrail models fuel trail (edges.foldl (visit models fuel trail name) w) ∧
        ∀ edge ∈ edges, Done name trail (edges.foldl (visit models fuel trail name) w) edge := by
  induction edges generalizing w with
  | nil => exact ⟨Le.refl w, hw, by simp⟩
  | cons edge rest ih =>
      obtain ⟨hle, hnext, hdone⟩ := visit_spec hwalks name hw
        (hedges edge List.mem_cons_self)
      obtain ⟨hle', hlast, hrest⟩ :=
        ih (fun other hother => hedges other (List.mem_cons_of_mem edge hother)) hnext
      refine ⟨hle.trans hle', hlast, fun other hother => ?_⟩
      rcases List.mem_cons.mp hother with rfl | hother
      · exact hdone.mono hle'
      · exact hrest other hother

/-- **What a walk from a new model adds.** -/
theorem walkFrom_spec (hnames : (models.map (·.name)).Nodup) (fuel : Nat) :
    WalksFrom models fuel := by
  induction fuel with
  | zero =>
      intro trail m w hm hnew hw
      -- All models are on the way already, and this one would be one more.
      have hcons : (m.name :: trail).Nodup :=
        List.nodup_cons.mpr ⟨fun hmem => hnew (hw.seen hmem), hw.nodup⟩
      have hsub : m.name :: trail ⊆ models.map (·.name) :=
        List.cons_subset.mpr ⟨List.mem_map_of_mem hm, hw.names⟩
      have hlength := (List.subperm_of_subset hcons hsub).length_le
      have hfuel := hw.fuel
      simp only [List.length_cons, List.length_map] at hlength
      omega
  | succ fuel ih =>
      intro trail m w hm hnew hw
      obtain ⟨hle, hend, hdone⟩ := foldl_visit_spec ih m.name
        (fun edge hedge => mem_of_mem_edges hedge) (hw.push hm hnew)
      rw [walkFrom_succ]
      generalize (edges models m).foldl (visit models fuel (m.name :: trail) m.name)
        { w with seen := m.name :: w.seen } = w' at hle hend hdone
      have hle' : Le w w' :=
        ⟨List.Subset.trans (List.subset_cons_self _ _) hle.seen, hle.back⟩
      have hmem : m.name ∈ w'.seen := hle.seen List.mem_cons_self
      refine ⟨hle', hmem, hw.nodup, hw.names, List.Subset.trans hw.seen hle'.seen, hw.fuel,
        fun name hseen htrail => ?_⟩
      by_cases hname : name = m.name
      · rw [hname]
        exact hend.acc_held hnames hm hdone
      · exact hend.settled name hseen (by simp [hname, htrail])

/-! ### The walk over all models -/

/-- One model of the walk over all of them. -/
def visitModel (models : List Model) (walk : Walk) (m : Model) : Walk :=
  if walk.seen.contains m.name then walk else walkFrom models models.length [] m walk

/-- The walk over all models goes along them, in order. -/
theorem walkAll_eq (models : List Model) : walkAll models = models.foldl (visitModel models) {} :=
  rfl

/-- One model keeps the invariant, and was come to afterwards. -/
theorem visitModel_spec (hnames : (models.map (·.name)).Nodup) {m : Model} (hm : m ∈ models)
    {w : Walk} (hw : OnTrail models models.length [] w) :
    Le w (visitModel models w m) ∧ m.name ∈ (visitModel models w m).seen ∧
      OnTrail models models.length [] (visitModel models w m) := by
  rw [visitModel]
  split
  · rename_i hseen
    exact ⟨Le.refl w, List.contains_iff_mem.mp hseen, hw⟩
  · rename_i hseen
    exact walkFrom_spec hnames _ [] m w hm (fun hmem => hseen (List.contains_iff_mem.mpr hmem)) hw

/-- So do several models, one after the other. -/
theorem foldl_visitModel_spec (hnames : (models.map (·.name)).Nodup) {rest : List Model}
    (hrest : rest ⊆ models) {w : Walk} (hw : OnTrail models models.length [] w) :
    Le w (rest.foldl (visitModel models) w) ∧
      OnTrail models models.length [] (rest.foldl (visitModel models) w) ∧
        ∀ m ∈ rest, m.name ∈ (rest.foldl (visitModel models) w).seen := by
  induction rest generalizing w with
  | nil => exact ⟨Le.refl w, hw, by simp⟩
  | cons m rest ih =>
      obtain ⟨hm, hrest⟩ := List.cons_subset.mp hrest
      obtain ⟨hle, hfirst, hnext⟩ := visitModel_spec hnames hm hw
      obtain ⟨hle', hend, hmem⟩ := ih hrest hnext
      refine ⟨hle.trans hle', hend, fun other hother => ?_⟩
      rcases List.mem_cons.mp hother with rfl | hother
      · exact hle'.seen hfirst
      · exact hmem other hother

/-- **Without the fields that the whole walk notes, every model is settled.** -/
theorem wellFounded_held (hnames : (models.map (·.name)).Nodup) :
    WellFounded (Held models (walkAll models).back) := by
  obtain ⟨-, hend, hall⟩ := foldl_visitModel_spec hnames (List.Subset.refl models) (w := {})
    ⟨List.nodup_nil, List.nil_subset _, List.nil_subset _, by simp, by simp⟩
  rw [walkAll_eq]
  refine ⟨fun name => ?_⟩
  by_cases hname : ∃ m ∈ models, m.name = name
  · obtain ⟨m, hm, rfl⟩ := hname
    exact hend.settled _ (hall m hm) (by simp)
  · exact Acc.intro _ fun held ⟨m, hm, hmname, _⟩ => absurd ⟨m, hm, hmname⟩ hname

/-! ### Structs that hold each other -/

/-- A declared struct holds a declared struct by value: one of its fields is of that type. -/
def Holds (declared : List Model) (s t : Model) : Prop :=
  s ∈ declared ∧ t ∈ declared ∧ ∃ f ∈ s.fields, f.baseType = t.name

/-- No declared struct holds itself by value, directly or through others. -/
def Acyclic (declared : List Model) : Prop :=
  ∀ s, ¬ Relation.TransGen (Holds declared) s s

/-- Fewer structs hold less. -/
theorem Acyclic.mono {declared fewer : List Model} (h : Acyclic declared)
    (hsub : fewer ⊆ declared) : Acyclic fewer := by
  intro s hcycle
  refine h s (Relation.TransGen.mono (fun a b hab => ?_) _ _ hcycle)
  exact ⟨hsub hab.1, hsub hab.2.1, hab.2.2⟩

/-! ### Fields that lead back -/

/-- A field of a model lies on a cycle: the model that it holds by value holds the one that it is
a field of, directly or through others, or is that one. -/
def OnCycle (models : List Model) (m : Model) (f : Field) : Prop :=
  m ∈ models ∧ f ∈ m.fields ∧
    ∃ t ∈ models, f.baseType = t.name ∧ Relation.ReflTransGen (Holds models) t m

/-- The model at the end of an edge is held. -/
theorem holds_of_mem_edges {m : Model} (hm : m ∈ models) {edge : Nat × Model}
    (h : edge ∈ edges models m) : Holds models m edge.2 := by
  obtain ⟨f, hf, hfind⟩ := mem_edges.mp h
  have hname := List.find?_some hfind
  exact ⟨hm, List.mem_of_find?_eq_some hfind, f, List.mem_of_getElem? hf, (eq_of_beq hname).symm⟩

/-- A model with a field on a cycle holds itself. -/
theorem OnCycle.transGen {m : Model} {f : Field} (h : OnCycle models m f) :
    Relation.TransGen (Holds models) m m := by
  obtain ⟨hm, hf, t, ht, hbase, hback⟩ := h
  exact .head' ⟨hm, ht, f, hf, hbase⟩ hback

/-- What is noted is the position of a field that lies on a cycle. -/
def Noted (models : List Model) (noted : String × Nat) : Prop :=
  ∃ m ∈ models, m.name = noted.1 ∧ ∃ f, m.fields[noted.2]? = some f ∧ OnCycle models m f

/-- A walk has noted fields on cycles only. -/
def Walk.Sound (models : List Model) (w : Walk) : Prop :=
  ∀ noted ∈ w.back, Noted models noted

/-- The models of some names lead to a model. -/
def LeadTo (models : List Model) (trail : List String) (m : Model) : Prop :=
  ∀ name ∈ trail, ∃ t ∈ models, t.name = name ∧ Relation.ReflTransGen (Holds models) t m

/-- The way to a model goes on to a model that it holds. -/
theorem LeadTo.step {trail : List String} {m t : Model} (h : LeadTo models trail m)
    (hholds : Holds models m t) : LeadTo models trail t := by
  intro name hname
  obtain ⟨u, hu, huname, hum⟩ := h name hname
  exact ⟨u, hu, huname, hum.tail hholds⟩

/-- **A walk notes only fields on cycles**: one that leads back to a model on the way to it. -/
theorem sound_walkFrom {fuel : Nat} {trail : List String} {m : Model} {w : Walk} (hm : m ∈ models)
    (htrail : LeadTo models trail m) (hw : w.Sound models) :
    (walkFrom models fuel trail m w).Sound models := by
  induction fuel generalizing trail m w with
  | zero => exact hw
  | succ fuel ih =>
      have hcons : LeadTo models (m.name :: trail) m :=
        List.forall_mem_cons.mpr ⟨⟨m, hm, rfl, .refl⟩, htrail⟩
      rw [walkFrom_succ]
      refine List.foldlRecOn (edges models m) _ (motive := Walk.Sound models) hw
        fun w hw edge hedge => ?_
      rw [visit]
      split
      · rename_i hback
        obtain ⟨t, ht, htname, hreach⟩ := hcons _ (List.contains_iff_mem.mp hback)
        obtain ⟨f, hf, hfind⟩ := mem_edges.mp hedge
        have hfound := List.find?_some hfind
        have hcycle : OnCycle models m f := ⟨hm, List.mem_of_getElem? hf, t, ht,
          (eq_of_beq hfound).symm.trans htname.symm, hreach⟩
        exact List.forall_mem_cons.mpr ⟨⟨m, hm, rfl, f, hf, hcycle⟩, hw⟩
      · split
        · exact hw
        · exact ih (mem_of_mem_edges hedge) (hcons.step (holds_of_mem_edges hm hedge)) hw

/-- So does the walk over all models. -/
theorem sound_walkAll (models : List Model) : (walkAll models).Sound models := by
  rw [walkAll_eq]
  refine List.foldlRecOn models _ (motive := Walk.Sound models) (by simp [Walk.Sound])
    fun w hw m hm => ?_
  rw [visitModel]
  split
  · exact hw
  · exact sound_walkFrom hm (by simp [LeadTo]) hw

/-- **A field whose position is noted lies on a cycle.** -/
theorem onCycle_of_mem_back (hnames : (models.map (·.name)).Nodup) {m : Model} (hm : m ∈ models)
    {f : Field} {i : Nat} (hf : m.fields[i]? = some f) (h : (m.name, i) ∈ (walkAll models).back) :
    OnCycle models m f := by
  obtain ⟨other, hother, hname, g, hg, hcycle⟩ := sound_walkAll models _ h
  obtain rfl : other = m := List.inj_on_of_nodup_map hnames hother hm hname
  obtain rfl : g = f := Option.some.inj (hg.symm.trans hf)
  exact hcycle

/-! ### Fields behind pointers -/

/-- None of the models is named like a pointer to one of them. -/
def NoPointer (models : List Model) : Prop :=
  ∀ s ∈ models, ∀ t ∈ models, s.name ≠ FieldType.boxed t.name

/-- The name of a pointer has punctuation. -/
theorem noPointer_of_unpunctuated (h : ∀ m ∈ models, Text.Unpunctuated m.name.toList) :
    NoPointer models := by
  intro s hs t ht heq
  have hname := h s hs
  rw [heq] at hname
  exact absurd (hname '<' (by simp [FieldType.boxed]) (by decide)) (by decide)

/-- A field that is left as it is holds what the walk did not note. -/
theorem held_of_holds_boxRecursive (hnames : (models.map (·.name)).Nodup)
    (hpointer : NoPointer models) {s t : Model} (h : Holds (boxRecursive models) s t) :
    Held models (walkAll models).back t.name s.name := by
  obtain ⟨hs, ht, f, hf, hbase⟩ := h
  obtain ⟨m, hm, rfl⟩ := List.mem_map.mp hs
  obtain ⟨target, htarget, rfl⟩ := List.mem_map.mp ht
  obtain ⟨⟨g, i⟩, hg, rfl⟩ := List.mem_map.mp hf
  rw [List.mem_zipIdx_iff_getElem?] at hg
  dsimp only at hg hbase ⊢
  split at hbase
  · -- A pointer to a model has a type that is no name of a model.
    rename_i hback
    obtain ⟨-, -, held, hheld, hname, -⟩ :=
      onCycle_of_mem_back hnames hm hg (List.contains_iff_mem.mp hback)
    refine absurd ?_ (hpointer target htarget held hheld)
    rw [← hbase, ← hname]
    rfl
  · rename_i hback
    rw [List.contains_iff_mem] at hback
    obtain ⟨found, hfound⟩ : ∃ found, models.find? (·.name == g.baseType) = some found :=
      Option.isSome_iff_exists.mp (List.find?_isSome.mpr ⟨target, htarget, by simp [hbase]⟩)
    refine ⟨m, hm, rfl, (i, found), mem_edges.mpr ⟨g, hg, hfound⟩, ?_, hback⟩
    have hfoundname := List.find?_some hfound
    rw [← hbase]
    exact eq_of_beq hfoundname

/-- **Boxing breaks every cycle.** -/
theorem acyclic_boxRecursive (hnames : (models.map (·.name)).Nodup)
    (hpointer : NoPointer models) : Acyclic (boxRecursive models) := by
  intro s hcycle
  have hlift : Holds (boxRecursive models) ≤
      Function.onFun (Function.swap (Held models (walkAll models).back)) Model.name :=
    fun a b hab => held_of_holds_boxRecursive hnames hpointer hab
  have hheld : Relation.TransGen (Function.swap (Held models (walkAll models).back))
      s.name s.name :=
    Relation.TransGen.lift Model.name hlift s s hcycle
  rw [Relation.transGen_swap] at hheld
  exact (wellFounded_held hnames).transGen.irrefl.irrefl _ hheld

end ServiceGen.Model
