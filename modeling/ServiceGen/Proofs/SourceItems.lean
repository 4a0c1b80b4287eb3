import Mathlib.Data.List.Basic
import ServiceGen.Source.Imports

/-!
# Items of a Source

How far items go in a list of tokens. No recognizer looks behind a semicolon or a closing bracket
before it has passed over it (`Recognizer.run_of_run`). So what ends with such a token is
recognized as the same whatever follows: an import (`ItemSpan.ofImport?_append`) and the attributes
that a source begins with (`innerAttributes_append`). The exception is what is looked for directly
behind it: an import is followed by no second semicolon, and the attributes by no further one.
-/

namespace ServiceGen.Source

namespace Recognizer

variable {α β : Type} {tokens : List Token}

@[simp]
theorem run_pure (a : α) : (pure a : Recognizer α).run tokens = some (a, tokens) :=
  rfl

@[simp]
theorem run_bind (first : Recognizer α) (second : α → Recognizer β) :
    (first >>= second).run tokens =
      (first.run tokens).bind fun (a, rest) => (second a).run rest :=
  rfl

@[simp]
theorem run_reject : (reject : Recognizer α).run tokens = none :=
  rfl

@[simp]
theorem run_ahead : ahead.run tokens = some (within 4 tokens, tokens) :=
  rfl

@[simp]
theorem run_skip_cons (t : Token) : skip.run (t :: tokens) = some ((), tokens) :=
  rfl

/-- The first token is seen from any distance. -/
theorem head?_within (n : ℕ) : (within (n + 1) tokens).head? = tokens.head? := by
  cases tokens with
  | nil => rfl
  | cons t tokens =>
    rw [within]
    split <;> rfl

@[simp]
theorem run_sees (c : Char) :
    (sees c).run tokens = some (tokens.head?.any (Token.isMark c), tokens) := by
  simp [sees, head?_within]

@[simp]
theorem run_seesWord (name : String) :
    (seesWord name).run tokens = some (tokens.head?.any (Token.isWord name), tokens) := by
  simp [seesWord, head?_within]

theorem run_expect_cons {c : Char} {t : Token} (ht : t.isMark c) :
    (expect c).run (t :: tokens) = some ((), tokens) := by
  simp [expect, eat, require, ht]

/-- A mark that is expected comes first. -/
theorem run_expect_eq_some_iff {c : Char} {rest : List Token} :
    (expect c).run tokens = some ((), rest) ↔ ∃ t, t.isMark c ∧ tokens = t :: rest := by
  constructor
  · intro h
    simp only [expect, eat, run_bind, run_sees, Option.bind_some, require] at h
    cases tokens with
    | nil => simp at h
    | cons t tokens =>
      by_cases ht : t.isMark c
      · exact ⟨t, ht, by simpa [ht] using h⟩
      · simp [ht] at h
  · rintro ⟨t, ht, rfl⟩
    exact run_expect_cons ht

end Recognizer

open Recognizer

variable {fuel : ℕ} {tokens after : List Token}

/-! ### Attributes -/

/-- Whether tokens begin with an attribute of what they stand in. -/
def startsInner (tokens : List Token) : Bool :=
  tokens.head?.any (Token.isMark '#') && tokens.tail.head?.any (Token.isMark '!')

/-- What it means that a token is a mark. -/
theorem Token.isMark_iff {t : Token} {c : Char} :
    t.isMark c ↔ ∃ joined, t = .mark c joined := by
  cases t <;> simp [isMark]

/-- Semicolons and closing brackets are stops. -/
theorem Token.isStop_of_isMark {t : Token} {c : Char} (h : t.isMark c) (hc : c = ';' ∨ c = ']') :
    t.isStop := by
  obtain ⟨joined, rfl⟩ := isMark_iff.mp h
  simpa [isStop] using hc

/-- A stop is no other mark. -/
theorem Token.isMark_eq_false_of_isStop {t : Token} (h : t.isStop) {c : Char}
    (hc : c ≠ ';' ∧ c ≠ ']') : t.isMark c = false := by
  cases t with
  | mark d joined =>
    obtain rfl | rfl : d = ';' ∨ d = ']' := by simpa [isStop] using h
    · simp [isMark, hc.1.symm]
    · simp [isMark, hc.2.symm]
  | _ => rfl

/-- Two tokens are enough to see the beginning of an inner attribute. -/
theorem startsInner_within (n : ℕ) :
    startsInner (within (n + 2) tokens) = startsInner tokens := by
  cases tokens with
  | nil => rfl
  | cons t tokens =>
    cases hstop : t.isStop with
    | false => simp [within, hstop, startsInner, head?_within]
    | true => simp [within, hstop, startsInner, t.isMark_eq_false_of_isStop hstop (c := '#')]

/-- An inner attribute begins with these two marks. -/
theorem startsInner_iff :
    startsInner tokens = true ↔
      ∃ t t' rest, tokens = t :: t' :: rest ∧ t.isMark '#' ∧ t'.isMark '!' := by
  match tokens with
  | [] => simp [startsInner]
  | [t] => simp [startsInner]
  | t :: t' :: rest => simp [startsInner]

/-- Inner attributes are read one by one, as long as another one begins. -/
theorem run_innerAttributes :
    (innerAttributes (fuel + 1)).run tokens =
      if startsInner tokens then
        ((attributeBody fuel).run (tokens.drop 2)).bind fun (_, rest) =>
          (innerAttributes fuel).run rest
      else some ((), tokens) := by
  have hstart : (tokens.head?.any (Token.isMark '#') &&
      (within 4 tokens).tail.head?.any (Token.isMark '!')) = startsInner tokens := by
    rw [← startsInner_within 2, startsInner, head?_within]
  rw [innerAttributes]
  simp only [run_bind, run_sees, Option.bind_some, second, run_ahead, run_pure, hstart]
  cases hinner : startsInner tokens with
  | false => rfl
  | true =>
    obtain ⟨t, t', rest, rfl, -⟩ := startsInner_iff.mp hinner
    rfl

/-- The part of an attribute in brackets ends with the closing bracket, whatever follows. -/
theorem attributeBody_append {body : List Token}
    (h : (attributeBody fuel).run (body ++ after) = some ((), after)) :
    (∃ t front, body = t :: front ∧ t.isMark '[') ∧
      (∃ front t, body = front ++ [t] ∧ t.isMark ']') ∧
        ∀ other, (attributeBody fuel).run (body ++ other) = some ((), other) := by
  cases fuel with
  | zero => cases h
  | succ fuel =>
    rw [attributeBody] at h
    obtain ⟨⟨_, content⟩, hopen, h⟩ := Option.bind_eq_some_iff.mp h
    obtain ⟨⟨_, stop⟩, hcontent, hclose⟩ := Option.bind_eq_some_iff.mp h
    obtain ⟨t, ht, hbody⟩ := run_expect_eq_some_iff.mp hopen
    obtain ⟨t', ht', rfl⟩ := run_expect_eq_some_iff.mp hclose
    obtain ⟨inner, rfl⟩ := (attributeContent fuel).suffix_of_run hcontent
    obtain rfl : body = t :: inner ++ [t'] := List.append_cancel_right (by simpa using hbody)
    have hstop := t'.isStop_of_isMark ht' (.inr rfl)
    refine ⟨⟨t, inner ++ [t'], rfl, ht⟩, ⟨t :: inner, t', rfl, ht'⟩, fun other => ?_⟩
    have hcontent' := @Recognizer.run_of_run _ (attributeContent fuel) t' inner [] after () hstop
      hcontent other
    simp [attributeBody, run_expect_cons ht, hcontent', run_expect_cons ht']

/-- **Attributes of the source** end with a closing bracket, if there are any, and whatever
follows is left if it begins with no further one. -/
theorem innerAttributes_append {lead : List Token}
    (h : (innerAttributes fuel).run (lead ++ after) = some ((), after)) :
    (lead = [] ∨ ∃ front t, lead = front ++ [t] ∧ t.isMark ']') ∧
      ∀ other, startsInner other = false →
        (innerAttributes fuel).run (lead ++ other) = some ((), other) := by
  induction fuel generalizing lead with
  | zero => cases h
  | succ fuel ih =>
    rw [run_innerAttributes] at h
    split at h
    case isFalse hinner =>
      obtain rfl : lead = [] := by simpa using h
      refine ⟨.inl rfl, fun other hother => ?_⟩
      rw [run_innerAttributes, List.nil_append, hother]
      rfl
    case isTrue hinner =>
      obtain ⟨⟨_, rest⟩, hbody, hrest⟩ := Option.bind_eq_some_iff.mp h
      obtain ⟨lead', rfl⟩ := (innerAttributes fuel).suffix_of_run hrest
      obtain ⟨t, t', tokens, htokens, ht⟩ := startsInner_iff.mp hinner
      rw [htokens, List.drop_succ_cons, List.drop_succ_cons, List.drop_zero] at hbody
      obtain ⟨body, rfl⟩ := (attributeBody fuel).suffix_of_run hbody
      obtain rfl : lead = t :: t' :: (body ++ lead') :=
        List.append_cancel_right (by simpa using htokens)
      obtain ⟨-, hclose, hbody'⟩ := attributeBody_append hbody
      obtain ⟨hlast, hlead'⟩ := ih hrest
      refine ⟨.inr ?_, fun other hother => ?_⟩
      · obtain rfl | ⟨front, last, rfl, hlast⟩ := hlast
        · obtain ⟨front, last, rfl, hlast⟩ := hclose
          exact ⟨t :: t' :: front, last, by simp, hlast⟩
        · exact ⟨t :: t' :: (body ++ front), last, by simp, hlast⟩
      · have hinner' : startsInner (t :: t' :: (body ++ lead') ++ other) = true :=
          startsInner_iff.mpr ⟨t, t', _, rfl, ht⟩
        rw [run_innerAttributes, hinner']
        simp [hbody', hlead' other hother]

/-- The marks of an attribute of the source stand before a bracket. -/
theorem exists_bracket_of_innerAttributes {t t' : Token} (ht : t.isMark '#') (ht' : t'.isMark '!')
    (h : (innerAttributes fuel).run (t :: t' :: tokens) = some ((), after)) :
    ∃ bracket rest, tokens = bracket :: rest ∧ bracket.isMark '[' := by
  cases fuel with
  | zero => cases h
  | succ fuel =>
    rw [run_innerAttributes, if_pos (startsInner_iff.mpr ⟨t, t', tokens, rfl, ht, ht'⟩)] at h
    obtain ⟨⟨_, rest⟩, hbody, -⟩ := Option.bind_eq_some_iff.mp h
    obtain ⟨body, hsuffix⟩ := (attributeBody fuel).suffix_of_run hbody
    obtain rfl : body ++ rest = tokens := hsuffix
    obtain ⟨⟨bracket, front, rfl, hbracket⟩, -⟩ := attributeBody_append hbody
    exact ⟨bracket, front ++ rest, rfl, hbracket⟩

/-- Attributes are read one by one, as long as another one begins. -/
theorem run_attributes :
    (attributes (fuel + 1)).run tokens =
      if tokens.head?.any (Token.isMark '#') then
        ((attributeBody fuel).run tokens.tail).bind fun (_, rest) => (attributes fuel).run rest
      else some ((), tokens) := by
  rw [attributes]
  cases tokens with
  | nil => rfl
  | cons t tokens => cases ht : t.isMark '#' <;> simp [eat, ht]

/-- A token is one mark only. -/
theorem Token.isMark_eq_false {t : Token} {c d : Char} (h : t.isMark c) (hcd : c ≠ d) :
    t.isMark d = false := by
  obtain ⟨joined, rfl⟩ := isMark_iff.mp h
  simpa [isMark] using hcd

/-- What attributes are read from does not begin with one of what they stand in. -/
theorem startsInner_eq_false_of_attributes {rest : List Token}
    (h : (attributes fuel).run tokens = some ((), rest)) : startsInner tokens = false := by
  cases fuel with
  | zero => cases h
  | succ fuel =>
    rw [run_attributes] at h
    split at h
    case isTrue hhash =>
      obtain ⟨⟨_, behind⟩, hbody, -⟩ := Option.bind_eq_some_iff.mp h
      cases tokens with
      | nil => cases hhash
      | cons t tokens =>
        obtain ⟨body, rfl⟩ := (attributeBody fuel).suffix_of_run hbody
        obtain ⟨⟨t', front, rfl, ht'⟩, -⟩ := attributeBody_append hbody
        simp [startsInner, t'.isMark_eq_false ht']
    case isFalse hhash => simp [startsInner, hhash]

/-! ### Imports -/

namespace ItemSpan

/-- What stands before the names of an import begins neither with a semicolon nor with an attribute
of what it stands in. -/
theorem startsInner_eq_false_of_importHead {rest : List Token}
    (h : importHead.run tokens = some ((), rest)) :
    tokens.head?.any (Token.isMark ';') = false ∧ startsInner tokens = false := by
  obtain ⟨⟨_, start⟩, hattributes, h⟩ := Option.bind_eq_some_iff.mp h
  refine ⟨?_, startsInner_eq_false_of_attributes hattributes⟩
  generalize budget = fuel at hattributes h
  cases fuel with
  | zero => cases hattributes
  | succ fuel =>
    rw [run_attributes] at hattributes
    cases tokens with
    | nil => rfl
    | cons t tokens =>
      split at hattributes
      case isTrue hhash =>
        have ht : t.isMark '#' := hhash
        simp [t.isMark_eq_false ht]
      case isFalse hhash =>
        obtain rfl : t :: tokens = start := by simpa using hattributes
        by_contra hstop
        have hword (name : String) : t.isWord name = false := by
          cases t <;> simp_all [Token.isMark, Token.isWord]
        simp [eatWord, expectWord, require, hword] at h

/-- An import goes from what stands before its names over these to a semicolon, which no other
follows. -/
theorem ofImport?_eq_some_iff {span : ItemSpan} : ofImport? tokens = some span ↔
    ∃ named t rest, importHead.run tokens = some ((), named) ∧
      (importTree budget false).run named = some ((), t :: rest) ∧ t.isMark ';' ∧
      rest.head?.any (Token.isMark ';') = false ∧
      span = {
        size := tokens.length - rest.length
        named := some (tokens.length - named.length, named.length - (rest.length + 1)) } := by
  constructor
  · intro h
    obtain ⟨⟨_, named⟩, hhead, h⟩ := Option.bind_eq_some_iff.mp h
    obtain ⟨⟨_, stop⟩, htree, h⟩ := Option.bind_eq_some_iff.mp h
    obtain ⟨⟨_, rest⟩, hstop, h⟩ := Option.bind_eq_some_iff.mp h
    obtain ⟨t, ht, rfl⟩ := run_expect_eq_some_iff.mp hstop
    obtain ⟨hnext, h⟩ := Option.ite_none_left_eq_some.mp h
    exact ⟨named, t, rest, hhead, htree, ht, by simpa using hnext, (Option.some.inj h).symm⟩
  · rintro ⟨named, t, rest, hhead, htree, ht, hnext, rfl⟩
    simp [ofImport?, hhead, htree, run_expect_cons ht, hnext]

/-- The tokens that an import is, up to a semicolon that no other follows, are recognized as the
same whatever stands behind them, if it is no semicolon. -/
theorem ofImport?_append {own : List Token} {named : Option (ℕ × ℕ)}
    (h : ofImport? (own ++ after) = some ⟨own.length, named⟩) :
    (∃ front t, own = front ++ [t] ∧ t.isMark ';') ∧ after.head?.any (Token.isMark ';') = false ∧
      ∀ other, other.head?.any (Token.isMark ';') = false →
        ofImport? (own ++ other) = some ⟨own.length, named⟩ := by
  obtain ⟨start, t, rest, hhead, htree, ht, hafter, hspan⟩ := ofImport?_eq_some_iff.mp h
  obtain ⟨passed, rfl⟩ := (importTree budget false).suffix_of_run htree
  obtain ⟨lead, htokens⟩ := importHead.suffix_of_run hhead
  obtain ⟨hsize, rfl⟩ := mk.inj hspan
  obtain ⟨hown, rfl⟩ : lead ++ passed ++ [t] = own ∧ rest = after := by
    have hlength := congrArg List.length htokens
    simp only [List.length_append, List.length_cons] at hlength hsize
    refine List.append_inj (by simpa using htokens) ?_
    simp only [List.length_append, List.length_cons, List.length_nil]
    omega
  subst hown
  refine ⟨⟨lead ++ passed, t, rfl, ht⟩, hafter, fun other hother => ?_⟩
  have hstop := t.isStop_of_isMark ht (.inl rfl)
  refine ofImport?_eq_some_iff.mpr ⟨passed ++ t :: other, t, other, ?_, ?_, ht, hother, ?_⟩
  · simpa using @Recognizer.run_of_run _ importHead t (lead ++ passed) passed rest () hstop
      (by simpa using hhead) other
  · exact @Recognizer.run_of_run _ (importTree budget false) t passed [] rest () hstop htree other
  · simp
    omega

/-- An import begins neither with a semicolon nor with an attribute of what it stands in. -/
theorem starts_of_ofImport? {span : ItemSpan} (h : ofImport? tokens = some span) :
    tokens.head?.any (Token.isMark ';') = false ∧ startsInner tokens = false := by
  obtain ⟨named, t, rest, hhead, -⟩ := ofImport?_eq_some_iff.mp h
  exact startsInner_eq_false_of_importHead hhead

/-- An item that names something to import is an import. -/
theorem ofItem?_eq_some_iff_of_named {span : ItemSpan} (hnamed : span.named ≠ none) :
    ofItem? tokens = some span ↔ ofImport? tokens = some span := by
  unfold ofItem?
  cases himport : ofImport? tokens with
  | some other => simp
  | none =>
    refine iff_of_false (fun h => ?_) (by simp)
    obtain ⟨⟨_, rest⟩, -, h⟩ := Option.bind_eq_some_iff.mp h
    exact hnamed (by rw [← Option.some.inj h])

/-- An import has at least one token, and no more than there are. -/
theorem size_bounds {span : ItemSpan} (h : ofImport? tokens = some span) :
    0 < span.size ∧ span.size ≤ tokens.length := by
  obtain ⟨named, t, rest, hhead, htree, -, -, rfl⟩ := ofImport?_eq_some_iff.mp h
  have hlength := (((importTree budget false).suffix_of_run htree).trans
    (importHead.suffix_of_run hhead)).length_le
  rw [List.length_cons] at hlength
  dsimp only
  omega

/-! ### All items -/

/-- Tokens are items up to the end if the first of them are one, and the others are. -/
theorem all?_eq_cons_iff {n : ℕ} {span : ItemSpan} {spans : List ItemSpan} :
    all? n tokens = some (span :: spans) ↔
      tokens ≠ [] ∧ ofItem? tokens = some span ∧
        ∃ m, n = m + 1 ∧ all? m (tokens.drop span.size) = some spans := by
  cases tokens with
  | nil => simp [all?]
  | cons t tokens =>
    cases n with
    | zero => simp [all?]
    | succ m =>
      constructor
      · intro h
        obtain ⟨_, hspan, h⟩ := Option.bind_eq_some_iff.mp h
        obtain ⟨_, hspans, h⟩ := Option.bind_eq_some_iff.mp h
        obtain ⟨rfl, rfl⟩ := List.cons.inj (Option.some.inj h)
        exact ⟨List.cons_ne_nil _ _, hspan, m, rfl, hspans⟩
      · rintro ⟨-, hspan, m, ⟨⟩, hspans⟩
        simp [all?, hspan, hspans]

/-- More items than there are may be granted. -/
theorem all?_of_le {n m : ℕ} {spans : List ItemSpan} (h : all? n tokens = some spans)
    (hle : n ≤ m) : all? m tokens = some spans := by
  induction n generalizing m tokens spans with
  | zero =>
    cases tokens with
    | nil => simpa [all?] using h
    | cons t tokens => cases h
  | succ n ih =>
    cases spans with
    | nil =>
      cases tokens with
      | nil => simp [all?]
      | cons t tokens =>
        obtain ⟨_, -, h⟩ := Option.bind_eq_some_iff.mp h
        obtain ⟨_, -, h⟩ := Option.bind_eq_some_iff.mp h
        cases Option.some.inj h
    | cons span spans =>
      obtain ⟨htokens, hspan, _, ⟨⟩, hspans⟩ := all?_eq_cons_iff.mp h
      obtain ⟨m, rfl⟩ := Nat.exists_eq_succ_of_ne_zero (n := m) (by omega)
      exact all?_eq_cons_iff.mpr ⟨htokens, hspan, m, rfl, ih hspans (by omega)⟩

/-- The tokens of a source are inner attributes, and items up to the end behind them. -/
theorem ofTokens?_eq_some_iff {lead : ℕ} {spans : List ItemSpan} :
    ofTokens? tokens = some (lead, spans) ↔
      ∃ rest, (innerAttributes budget).run tokens = some ((), rest) ∧
        lead = tokens.length - rest.length ∧ all? budget rest = some spans := by
  constructor
  · intro h
    obtain ⟨⟨_, rest⟩, hlead, h⟩ := Option.bind_eq_some_iff.mp h
    obtain ⟨_, hspans, h⟩ := Option.bind_eq_some_iff.mp h
    obtain ⟨rfl, rfl⟩ := Prod.mk.inj (Option.some.inj h)
    exact ⟨rest, hlead, rfl, hspans⟩
  · rintro ⟨rest, hlead, rfl, hspans⟩
    simp [ofTokens?, hlead, hspans]

/-- The items are what is left behind the attributes of the source. -/
theorem of_ofTokens? {lead : ℕ} {spans : List ItemSpan}
    (h : ofTokens? tokens = some (lead, spans)) :
    (innerAttributes budget).run tokens = some ((), tokens.drop lead) ∧
      all? budget (tokens.drop lead) = some spans := by
  obtain ⟨rest, hlead, rfl, hall⟩ := ofTokens?_eq_some_iff.mp h
  have hrest : rest = tokens.drop (tokens.length - rest.length) :=
    List.suffix_iff_eq_drop.mp ((innerAttributes budget).suffix_of_run hlead)
  rw [← hrest]
  exact ⟨hlead, hall⟩

end ItemSpan

end ServiceGen.Source
