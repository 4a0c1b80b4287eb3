import ServiceGen.Analysis.Field
import ServiceGen.Proofs.PascalCase
import ServiceGen.Proofs.Rounding

/-!
# Bounds in Rules

A rule states its bounds as whole numbers of 64 bits: the integer part of the number in the
schema, or the nearest such number to one that is out of reach (`stated`). The bounds can be read
back from the text of the rules (`States.unique`), so what passes a rule is a matter of its text
(`Passes`).

The integer part of a fraction lies on the side of zero. So a rule lets through all that the
schema does, but a least number above zero and a greatest number below zero may become too weak.
A size goes through a 64-bit number as well, and loses what is past 53 binary digits.

## Main results

* `keepsRange_and_keepsSizes_iff`: **when rules for whole numbers and for sizes say what the schema
  says**.
* `not_forall_keepsRange_and_keepsSizes`: a least number of 1.5 becomes 1, and a least length of
  `2 ^ 53 + 1` becomes `2 ^ 53`.
-/

namespace ServiceGen

namespace Rules

/-! ### Bounds that are stated -/

/-- The bound that a rule states for a number: its integer part within 64 bits. -/
def stated (x : Binary64) : Int :=
  x.clampToInt (-(Nat.pow 2 63)) (Nat.pow 2 63 - 1)

/-- A size that is a signed integer of 64 bits, and either a 64-bit number as well or the greatest
of these integers. -/
def Writable (n : Nat) : Prop :=
  n < 2 ^ 63 ∧ Binary64.Exact n ∨ n = 2 ^ 63 - 1

/-- **A size is stated as it is** exactly if it is writable. -/
theorem stated_ofNat_eq_iff {n : Nat} (hlt : n < 2 ^ 64) :
    stated (Binary64.ofNat n) = n ↔ Writable n := by
  rw [Writable]
  by_cases hpos : n = 0
  · subst hpos
    have hexact : Binary64.Exact 0 := ⟨0, 0, by decide, by decide⟩
    have hzero : stated (Binary64.ofNat 0) = 0 := Binary64.clampToInt_ofNat_zero _ _
    simp [hzero, hexact]
  · rw [stated, Binary64.clampToInt_ofNat hpos hlt]
    have hround := Binary64.roundQuotient_mul_eq_iff hpos
    rw [← hround]
    by_cases hlast : n = 2 ^ 63 - 1
    · subst hlast
      decide
    · generalize Binary64.roundQuotient n (2 ^ (n.log2 - 52)) * 2 ^ (n.log2 - 52) = rounded
      simp only [Nat.pow_eq, Nat.cast_pow, Nat.cast_ofNat]
      omega

/-- **What a stated bound tells of the number.** Of the integers of 64 bits, all on one side of the
number are on that side of the stated bound, and all others but that bound itself on the other. -/
theorem stated_spec {x : Binary64} (h : x.isFinite = true) {n : Int} (hlow : -2 ^ 63 ≤ n)
    (hhigh : n < 2 ^ 63) :
    ((x.value ≤ n → stated x ≤ n) ∧ (stated x ≤ n → n ≠ stated x → x.value ≤ n)) ∧
      ((n ≤ x.value → n ≤ stated x) ∧ (n ≤ stated x → n ≠ stated x → n ≤ x.value)) := by
  obtain ⟨t, ht, hbelow, habove⟩ :=
    Binary64.exists_integer_part h (-(Nat.pow 2 63)) (Nat.pow 2 63 - 1)
  rw [stated, ht]
  simp only [Nat.pow_eq, Nat.cast_pow, Nat.cast_ofNat]
  refine ⟨⟨fun hle => ?_, fun hle hne => ?_⟩, ⟨fun hle => ?_, fun hle hne => ?_⟩⟩
  · have hlt : (t : ℚ) < n + 1 := by linarith
    have hint : t < n + 1 := by exact_mod_cast hlt
    omega
  · have hint : t + 1 ≤ n := by omega
    have hcast : (t : ℚ) + 1 ≤ n := by exact_mod_cast hint
    linarith
  · have hlt : (n : ℚ) < t + 1 := by linarith
    have hint : n < t + 1 := by exact_mod_cast hlt
    omega
  · have hint : n + 1 ≤ t := by omega
    have hcast : (n : ℚ) + 1 ≤ t := by exact_mod_cast hint
    linarith

/-! ### Rules as texts -/

/-- The bounds that a rule states. -/
structure Bounds where
  /-- The least number. -/
  least : Option Int
  /-- The greatest number. -/
  greatest : Option Int
deriving DecidableEq

namespace Bounds

/-- The bounds as a rule lists them. -/
def parts (b : Bounds) : List String :=
  (b.least.map fun n => "min = " ++ toString n).toList ++
    (b.greatest.map fun n => "max = " ++ toString n).toList

/-- A rule of some name with the bounds in parentheses. -/
def rule (b : Bounds) (name : String) : String :=
  name ++ "(" ++ ", ".intercalate b.parts ++ ")"

/-- An integer is within the bounds. -/
def Has (b : Bounds) (n : Int) : Prop :=
  (∀ least ∈ b.least, least ≤ n) ∧ ∀ greatest ∈ b.greatest, n ≤ greatest

/-- The bounds of 64-bit numbers, as a rule states them. -/
def ofNumbers (least greatest : Option Binary64) : Bounds where
  least := least.map stated
  greatest := greatest.map stated

end Bounds

/-- **A rule for whole numbers** states its bounds, and without bounds there is none. -/
theorem bounded_wholeBound (name : String) (least greatest : Option Binary64) :
    bounded name wholeBound least greatest =
      if (Bounds.ofNumbers least greatest).parts = [] then []
      else [(Bounds.ofNumbers least greatest).rule name] := by
  cases least <;> cases greatest <;> rfl

/-- A text of rules begins with a rule of some name, which states some bounds. -/
def States (text : Option String) (name : String) (b : Bounds) : Prop :=
  b.parts ≠ [] ∧ ∃ rest, text = some (b.rule name ++ rest)

/-- The characters of numerals. -/
def isNumeral (c : Char) : Bool :=
  c.isDigit || c == '-'

/-- An integer is written with numerals. -/
theorem isNumeral_of_mem_toString {n : Int} {c : Char} (h : c ∈ (toString n).toList) :
    isNumeral c = true := by
  have hdigit : ∀ {k : Nat}, c ∈ k.repr.toList → isNumeral c = true := by
    intro k hc
    rw [← Nat.toString_eq_repr, Nat.toString_eq_ofList_toDigits, String.toList_ofList] at hc
    rw [isNumeral, Nat.isDigit_of_mem_toDigits (by decide) (by decide) hc, Bool.true_or]
  rw [Int.toString_eq_repr, Int.repr_eq_if] at h
  split at h
  · exact hdigit h
  · rw [String.toList_append, List.mem_append] at h
    rcases h with hsign | h
    · rw [List.mem_singleton.mp hsign]
      rfl
    · exact hdigit h

/-- A numeral can be told from what follows it. -/
theorem toString_append_inj {m n : Int} {rest other : List Char}
    (hrest : ∀ c ∈ rest.head?, isNumeral c = false)
    (hother : ∀ c ∈ other.head?, isNumeral c = false)
    (h : (toString m).toList ++ rest = (toString n).toList ++ other) : m = n ∧ rest = other := by
  obtain ⟨hnumeral, hsame⟩ := Text.append_inj_of_stops (fun _ => isNumeral_of_mem_toString)
    (fun _ => isNumeral_of_mem_toString) hrest hother h
  refine ⟨Int.repr_injective ?_, hsame⟩
  rw [← Int.toString_eq_repr, ← Int.toString_eq_repr]
  exact String.toList_injective hnumeral

/-- The characters of a bound. -/
def bound (key : String) (n : Int) (rest : List Char) : List Char :=
  key.toList ++ ((toString n).toList ++ rest)

/-- The characters of the bounds in a rule, and what follows them. -/
def Bounds.inner (b : Bounds) (rest : List Char) : List Char :=
  match b.least, b.greatest with
  | none, none => ')' :: rest
  | some m, none => bound "min = " m (')' :: rest)
  | none, some n => bound "max = " n (')' :: rest)
  | some m, some n => bound "min = " m (bound ", max = " n (')' :: rest))

/-- The characters of a rule: its name, then the bounds in parentheses. -/
theorem Bounds.toList_rule (b : Bounds) (name : String) (rest : String) :
    (b.rule name ++ rest).toList = name.toList ++ '(' :: b.inner rest.toList := by
  rcases b with ⟨_ | m, _ | n⟩ <;>
    simp only [rule, parts, inner, bound, Option.map_none, Option.map_some, Option.toList_none,
      Option.toList_some, List.nil_append, List.append_nil, List.cons_append,
      String.intercalate_nil, String.intercalate_singleton, String.intercalate_cons_cons,
      String.toList_append, List.append_assoc] <;> rfl

/-- A bound is read off the text that begins with it. -/
theorem bound_inj {key : String} {m n : Int} {rest other : List Char}
    (hrest : ∀ c ∈ rest.head?, isNumeral c = false)
    (hother : ∀ c ∈ other.head?, isNumeral c = false)
    (h : bound key m rest = bound key n other) : m = n ∧ rest = other :=
  toString_append_inj hrest hother (List.append_cancel_left h)

/-- Bounds are told apart by their characters, whatever follows them. -/
theorem Bounds.eq_of_inner {b c : Bounds} (hb : b.parts ≠ []) (hc : c.parts ≠ [])
    {rest other : List Char} (h : b.inner rest = c.inner other) : b = c := by
  have hclose : ∀ {cs : List Char}, ∀ d ∈ (')' :: cs).head?, isNumeral d = false := by
    rintro cs d ⟨⟩
    rfl
  have hcomma : ∀ {n cs}, ∀ d ∈ (bound ", max = " n cs).head?, isNumeral d = false := by
    rintro n cs d ⟨⟩
    rfl
  have hkeys : ∀ {m n cs ds}, bound "min = " m cs ≠ bound "max = " n ds := by
    intro m n cs ds heq
    cases heq
  have hends : ∀ {n cs ds}, ')' :: cs ≠ bound ", max = " n ds := by
    intro n cs ds heq
    cases heq
  rcases b with ⟨_ | m, _ | n⟩ <;> rcases c with ⟨_ | k, _ | l⟩
  any_goals exact absurd rfl hb
  any_goals exact absurd rfl hc
  · obtain ⟨rfl, -⟩ := bound_inj hclose hclose h
    rfl
  · exact absurd h.symm hkeys
  · exact absurd h.symm hkeys
  · exact absurd h hkeys
  · obtain ⟨rfl, -⟩ := bound_inj hclose hclose h
    rfl
  · obtain ⟨rfl, hrest⟩ := bound_inj hclose hcomma h
    exact absurd hrest hends
  · exact absurd h hkeys
  · obtain ⟨rfl, hrest⟩ := bound_inj hcomma hclose h
    exact absurd hrest.symm hends
  · obtain ⟨rfl, hrest⟩ := bound_inj hcomma hcomma h
    obtain ⟨rfl, -⟩ := bound_inj hclose hclose hrest
    rfl

/-- **The bounds can be read back** from a text of rules. -/
theorem States.unique {text : Option String} {name : String} {b c : Bounds}
    (hb : States text name b) (hc : States text name c) : b = c := by
  obtain ⟨hparts, rest, htext⟩ := hb
  obtain ⟨hother, more, heq⟩ := hc
  rw [htext] at heq
  have hchars := congrArg String.toList (Option.some.inj heq)
  rw [Bounds.toList_rule, Bounds.toList_rule] at hchars
  have hinner := (List.cons.inj (List.append_cancel_left hchars)).2
  exact Bounds.eq_of_inner hparts hother hinner

/-- The first rule of a text states its bounds. -/
theorem states_cons {b : Bounds} (h : b.parts ≠ []) (name : String) (more : List String) :
    States (some (", ".intercalate (b.rule name :: more))) name b := by
  cases more with
  | nil => exact ⟨h, "", by simp⟩
  | cons next rest =>
      refine ⟨h, ", " ++ ", ".intercalate (next :: rest), ?_⟩
      rw [String.intercalate_cons_cons, String.append_assoc]

/-! ### Whole numbers -/

/-- The integers of a type of whole numbers. -/
def Within (type : String) (n : Int) : Prop :=
  type = "i32" ∧ -2 ^ 31 ≤ n ∧ n < 2 ^ 31 ∨ type = "i64" ∧ -2 ^ 63 ≤ n ∧ n < 2 ^ 63

/-- An integer passes the rules of a text: it is within the bounds that these state for the range,
if they state any. -/
def Passes (text : Option String) (n : Int) : Prop :=
  ∀ b, States text "range" b → b.Has n

/-- An integer is within the bounds of a schema. -/
def Admits (s : Schema) (n : Int) : Prop :=
  (∀ least ∈ s.minimum, least.value ≤ n) ∧ ∀ greatest ∈ s.maximum, n ≤ greatest.value

/-- The bounds of a schema are finite numbers. -/
def Finite (s : Schema) : Prop :=
  (∀ least ∈ s.minimum, least.isFinite = true) ∧ ∀ greatest ∈ s.maximum, greatest.isFinite = true

/-- The rules for a type of whole numbers let through exactly what the schema does. -/
def KeepsRange (s : Schema) (type : String) (required : Bool) : Prop :=
  ∀ n, Within type n → (Passes (text? s type required) n ↔ Admits s n)

variable {s : Schema} {type : String} {required : Bool}

/-- The bounds that the rules for whole numbers state. -/
def rangeBounds (s : Schema) : Bounds :=
  .ofNumbers s.minimum s.maximum

/-- A value of any integer type fits in 64 bits with a sign. -/
theorem Within.bounds {n : Int} (h : Within type n) : -2 ^ 63 ≤ n ∧ n < 2 ^ 63 := by
  rcases h with ⟨-, hlow, hhigh⟩ | ⟨-, hlow, hhigh⟩ <;> omega

/-- A rule without parts has no bounds. -/
theorem Bounds.eq_none_of_parts_eq_nil {b : Bounds} (h : b.parts = []) :
    b.least = none ∧ b.greatest = none := by
  rcases b with ⟨_ | m, _ | k⟩
  · exact ⟨rfl, rfl⟩
  all_goals cases h

/-- Bounds that have no part do not bound. -/
theorem Bounds.has_of_parts_eq_nil {b : Bounds} (h : b.parts = []) (n : Int) : b.Has n := by
  obtain ⟨hleast, hgreatest⟩ := eq_none_of_parts_eq_nil h
  simp [Has, hleast, hgreatest]

/-- **What passes the rules for whole numbers** is within the bounds that these state. -/
theorem passes_iff {n : Int} (h : Within type n) :
    Passes (text? s type required) n ↔ (rangeBounds s).Has n := by
  have hrules : ofType s type required = bounded "range" wholeBound s.minimum s.maximum := by
    rcases h with ⟨rfl, -⟩ | ⟨rfl, -⟩ <;> rfl
  rw [text?, hrules, bounded_wholeBound, ← rangeBounds]
  by_cases hparts : (rangeBounds s).parts = []
  · rw [if_pos hparts]
    refine iff_of_true (fun b hb => ?_) (Bounds.has_of_parts_eq_nil hparts n)
    obtain ⟨-, rest, htext⟩ := hb
    cases htext
  · rw [if_neg hparts]
    have hstates := states_cons hparts "range" []
    constructor
    · exact fun hpasses => hpasses _ hstates
    · exact fun hhas b hb => hb.unique hstates ▸ hhas

/-- **No integer that the schema admits is refused**, and of the others only a stated bound may
pass. -/
theorem has_rangeBounds (hfinite : Finite s) {n : Int} (h : Within type n) :
    (Admits s n → (rangeBounds s).Has n) ∧
      ((rangeBounds s).Has n → n ∉ (rangeBounds s).least → n ∉ (rangeBounds s).greatest →
        Admits s n) := by
  obtain ⟨hlow, hhigh⟩ := h.bounds
  constructor
  · rintro ⟨hleast, hgreatest⟩
    refine ⟨Option.forall_mem_map.mpr fun x hx => ?_, Option.forall_mem_map.mpr fun x hx => ?_⟩
    · exact (stated_spec (hfinite.1 x hx) hlow hhigh).1.1 (hleast x hx)
    · exact (stated_spec (hfinite.2 x hx) hlow hhigh).2.1 (hgreatest x hx)
  · rintro ⟨hleast, hgreatest⟩ hnotLeast hnotGreatest
    refine ⟨fun x hx => ?_, fun x hx => ?_⟩
    · refine (stated_spec (hfinite.1 x hx) hlow hhigh).1.2 (Option.forall_mem_map.mp hleast x hx) ?_
      rintro rfl
      exact hnotLeast (Option.mem_map_of_mem stated hx)
    · refine (stated_spec (hfinite.2 x hx) hlow hhigh).2.2
        (Option.forall_mem_map.mp hgreatest x hx) ?_
      rintro rfl
      exact hnotGreatest (Option.mem_map_of_mem stated hx)

/-- **When the rules for whole numbers say what the schema says**: if they do so for the bounds
that they state. -/
theorem keepsRange_iff (hfinite : Finite s) (type : String) (required : Bool) :
    KeepsRange s type required ↔
      ∀ n, n ∈ (rangeBounds s).least ∨ n ∈ (rangeBounds s).greatest → Within type n →
        (rangeBounds s).Has n → Admits s n := by
  constructor
  · exact fun h n _ hn hhas => (h n hn).mp ((passes_iff hn).mpr hhas)
  · intro h n hn
    obtain ⟨hsound, hexact⟩ := has_rangeBounds hfinite hn
    rw [passes_iff hn]
    refine ⟨fun hhas => ?_, hsound⟩
    by_cases hstated : n ∈ (rangeBounds s).least ∨ n ∈ (rangeBounds s).greatest
    · exact h n hstated hn hhas
    · rw [not_or] at hstated
      exact hexact hhas hstated.1 hstated.2

/-! ### Sizes -/

/-- The limits that a schema sets to the size of values of a type. -/
def sizeLimits (s : Schema) (type : String) : Option Nat × Option Nat :=
  if type = "String" then (s.minLength, s.maxLength) else (s.minItems, s.maxItems)

/-- The values of a type have a size that there is a rule for. -/
def HasSize (s : Schema) (type : String) : Prop :=
  type = "String" ∧ (s.pattern.any fun p => Text.contains nineDigits.toList p.toList) = false ∨
    type.startsWith "Vec<" = true

/-- The rules for a type state the limits of sizes of 64 bits as they are. -/
structure KeepsSizes (s : Schema) (type : String) (required : Bool) : Prop where
  least : ∀ n < 2 ^ 64, n ∈ (sizeLimits s type).1 →
    ∃ b, States (text? s type required) "length" b ∧ (n : Int) ∈ b.least
  greatest : ∀ n < 2 ^ 64, n ∈ (sizeLimits s type).2 →
    ∃ b, States (text? s type required) "length" b ∧ (n : Int) ∈ b.greatest

/-- The bounds that the rule for a size states. -/
def sizeBounds (s : Schema) (type : String) (required : Bool) : Bounds :=
  let implied := if type = "String" ∧ required then some 1 else none
  .ofNumbers (((sizeLimits s type).1.or implied).map Binary64.ofNat)
    ((sizeLimits s type).2.map Binary64.ofNat)

/-- The types without parameters that there are rules for. -/
def plainTypes : List String :=
  ["String", "i32", "i64", "f32", "f64"]

/-- No plain type is a list. -/
theorem plainTypes_check : (plainTypes.all fun type => !type.startsWith "Vec<") = true := by
  decide +kernel

/-- The rule for a size comes first. -/
theorem exists_ofType_eq (h : HasSize s type) (required : Bool) :
    ∃ more, ofType s type required =
      (if (sizeBounds s type required).parts = [] then []
        else [(sizeBounds s type required).rule "length"]) ++ more := by
  rcases h with ⟨rfl, hpattern⟩ | hlist
  · have hbounds : sizeBounds s "String" required =
        .ofNumbers ((s.minLength.or (if required then some 1 else none)).map Binary64.ofNat)
          (s.maxLength.map Binary64.ofNat) := by
      cases required <;> rfl
    rw [hbounds, ofType, ofText, if_neg (Bool.eq_false_iff.mp hpattern), length, bounded_wholeBound]
    exact ⟨_, rfl⟩
  · have hne : type ∉ plainTypes := fun hmem => by
      simpa [hlist] using List.all_eq_true.mp plainTypes_check type hmem
    simp only [plainTypes, List.mem_cons, not_or] at hne
    have hbounds : sizeBounds s type required =
        .ofNumbers (s.minItems.map Binary64.ofNat) (s.maxItems.map Binary64.ofNat) := by
      simp [sizeBounds, sizeLimits, hne.1]
    have hrules : ofType s type required = length s.minItems s.maxItems := by
      unfold ofType
      split
      any_goals simp at hne
      exact if_pos hlist
    rw [hbounds, hrules, length, bounded_wholeBound]
    exact ⟨[], (List.append_nil _).symm⟩

/-- The rule for a size, if there is one, is stated in the text. -/
theorem states_sizeBounds (h : HasSize s type) (hparts : (sizeBounds s type required).parts ≠ []) :
    States (text? s type required) "length" (sizeBounds s type required) := by
  obtain ⟨more, hrules⟩ := exists_ofType_eq h required
  rw [if_neg hparts] at hrules
  rw [text?, hrules]
  exact states_cons hparts "length" more

/-- **A limit of a size is stated** exactly if it is writable. -/
theorem exists_states_iff (h : HasSize s type) {n : Nat} (hn : n < 2 ^ 64)
    {bound : Bounds → Option Int} (hbound : ∀ b : Bounds, b.parts = [] → bound b = none)
    (hlimit : bound (sizeBounds s type required) = some (stated (Binary64.ofNat n))) :
    (∃ b, States (text? s type required) "length" b ∧ (n : Int) ∈ bound b) ↔ Writable n := by
  have hparts : (sizeBounds s type required).parts ≠ [] := by
    intro hnil
    rw [hbound _ hnil] at hlimit
    cases hlimit
  have hstates := states_sizeBounds h hparts
  rw [← stated_ofNat_eq_iff hn]
  constructor
  · rintro ⟨b, hb, hmem⟩
    rw [hb.unique hstates, hlimit] at hmem
    exact Option.some.inj hmem
  · exact fun heq => ⟨_, hstates, hlimit.trans (congrArg some heq)⟩

/-- **When the rules for sizes say what the schema says**: if its limits are writable. -/
theorem keepsSizes_iff (h : HasSize s type) (required : Bool) :
    KeepsSizes s type required ↔
      ∀ n < 2 ^ 64, n ∈ (sizeLimits s type).1 ∨ n ∈ (sizeLimits s type).2 → Writable n := by
  have hleast : ∀ n < 2 ^ 64, n ∈ (sizeLimits s type).1 →
      ((∃ b, States (text? s type required) "length" b ∧ (n : Int) ∈ b.least) ↔ Writable n) := by
    intro n hn hmem
    refine exists_states_iff h hn (fun b hb => (Bounds.eq_none_of_parts_eq_nil hb).1) ?_
    rw [sizeBounds, Option.mem_def.mp hmem]
    rfl
  have hgreatest : ∀ n < 2 ^ 64, n ∈ (sizeLimits s type).2 →
      ((∃ b, States (text? s type required) "length" b ∧ (n : Int) ∈ b.greatest) ↔
        Writable n) := by
    intro n hn hmem
    refine exists_states_iff h hn (fun b hb => (Bounds.eq_none_of_parts_eq_nil hb).2) ?_
    rw [sizeBounds, Option.mem_def.mp hmem]
    rfl
  constructor
  · intro hkeeps n hn hmem
    exact hmem.elim (fun hmem => (hleast n hn hmem).mp (hkeeps.least n hn hmem))
      fun hmem => (hgreatest n hn hmem).mp (hkeeps.greatest n hn hmem)
  · intro hall
    exact ⟨fun n hn hmem => (hleast n hn hmem).mpr (hall n hn (Or.inl hmem)),
      fun n hn hmem => (hgreatest n hn hmem).mpr (hall n hn (Or.inr hmem))⟩

/-- **When rules say what the schema says.** Those for whole numbers never refuse what the schema
admits, and let through the same integers exactly if they do so for the bounds that they state.
Those for the sizes of texts and lists state a limit of 64 bits as it is exactly if it is
writable. -/
theorem keepsRange_and_keepsSizes_iff (hfinite : Finite s) (required : Bool) :
    (∀ type n, Within type n → Admits s n → Passes (text? s type required) n) ∧
      (∀ type, KeepsRange s type required ↔
        ∀ n, n ∈ (rangeBounds s).least ∨ n ∈ (rangeBounds s).greatest → Within type n →
          (rangeBounds s).Has n → Admits s n) ∧
      ∀ type, HasSize s type → (KeepsSizes s type required ↔
        ∀ n < 2 ^ 64, n ∈ (sizeLimits s type).1 ∨ n ∈ (sizeLimits s type).2 → Writable n) :=
  ⟨fun _ _ hn hadmits => (passes_iff hn).mpr ((has_rangeBounds hfinite hn).1 hadmits),
    fun type => keepsRange_iff hfinite type required, fun _ h => keepsSizes_iff h required⟩

/-- A schema with a least number and a least length. -/
def boundedBelow (least : Binary64) (size : Nat) : Schema where
  minimum := some least
  minLength := some size

/-- The least number 3 and the least length 2 are kept. -/
theorem keepsRange_and_keepsSizes_three :
    let s := boundedBelow (Binary64.ofNat 3) 2
    Finite s ∧ text? s "i32" true = some "range(min = 3)" ∧ KeepsRange s "i32" true ∧
      HasSize s "String" ∧ text? s "String" true = some "length(min = 2)" ∧
        KeepsSizes s "String" true := by
  have hthree : Binary64.ofNat 3 = .finite false (3 * 2 ^ 51) (-51) := by decide +kernel
  have hvalue : (Binary64.ofNat 3).value = 3 := by
    rw [hthree]
    norm_num [Binary64.value, Binary64.signed]
  have hstated : stated (Binary64.ofNat 3) = 3 := by decide +kernel
  have hfinite : Finite (boundedBelow (Binary64.ofNat 3) 2) :=
    ⟨fun _ hx => Option.some.inj hx ▸ (by decide +kernel), by simp [boundedBelow]⟩
  have hsize : HasSize (boundedBelow (Binary64.ofNat 3) 2) "String" := Or.inl ⟨rfl, rfl⟩
  obtain ⟨-, hrange, hsizes⟩ := keepsRange_and_keepsSizes_iff hfinite true
  refine ⟨hfinite, by decide +kernel, (hrange "i32").mpr ?_, hsize, by decide +kernel,
    (hsizes "String" hsize).mpr ?_⟩
  · intro n hn _ _
    rcases hn with hn | hn
    · obtain rfl : stated (Binary64.ofNat 3) = n := Option.some.inj hn
      refine ⟨fun x hx => ?_, by simp [boundedBelow]⟩
      rw [← Option.some.inj hx, hvalue, hstated]
      norm_num
    · cases hn
  · rintro n - (hn | hn)
    · obtain rfl : 2 = n := Option.some.inj hn
      exact Or.inl ⟨by decide, 2, 0, by decide, by decide⟩
    · cases hn

/-- The least number 1.5 becomes 1, which the schema does not admit, and of the least length
`2 ^ 53 + 1` the last binary digit is lost. -/
theorem not_forall_keepsRange_and_keepsSizes :
    (¬ ∀ (s : Schema) (type : String) (required : Bool), Finite s → KeepsRange s type required) ∧
      ¬ ∀ (s : Schema) (type : String) (required : Bool), HasSize s type →
        KeepsSizes s type required := by
  constructor
  · intro hall
    let x : Binary64 := .finite false (3 * 2 ^ 51) (-52)
    have hvalue : x.value = 3 / 2 := by norm_num [x, Binary64.value, Binary64.signed]
    have hstated : stated x = 1 := by decide +kernel
    have hkeeps := hall (boundedBelow x 0) "i32" false
      ⟨fun _ hx => Option.some.inj hx ▸ rfl, by simp [boundedBelow]⟩
    have hwithin : Within "i32" 1 := Or.inl ⟨rfl, by decide, by decide⟩
    have hpasses : Passes (text? (boundedBelow x 0) "i32" false) 1 := by
      refine (passes_iff hwithin).mpr
        ⟨fun least hleast => ?_, by simp [rangeBounds, Bounds.ofNumbers, boundedBelow]⟩
      obtain rfl : stated x = least := Option.some.inj hleast
      exact hstated.le
    have hadmits := ((hkeeps 1 hwithin).mp hpasses).1 x rfl
    rw [hvalue] at hadmits
    norm_num at hadmits
  · intro hall
    have hsize : HasSize (boundedBelow (.zero false) (2 ^ 53 + 1)) "String" := Or.inl ⟨rfl, rfl⟩
    have hkeeps := (keepsSizes_iff hsize false).mp (hall _ _ false hsize)
    rcases hkeeps (2 ^ 53 + 1) (by decide) (Or.inl rfl) with ⟨-, m, k, hm, heq⟩ | heq
    · cases k with
      | zero => omega
      | succ k =>
          have heven : 2 ^ 53 + 1 = 2 * (m * 2 ^ k) := by
            rw [heq, Nat.pow_succ]
            ring
          omega
    · exact absurd heq (by decide)

end Rules

end ServiceGen
