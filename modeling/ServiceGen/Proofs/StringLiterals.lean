import Mathlib.Data.List.Basic
import ServiceGen.Source.Token
import ServiceGen.Text.Quoted

/-!
# String Literals

Texts of a document stand in the generated code as string literals. A character stands in one as
itself or as a mark behind a backslash (`Spells`), and each of the two says by itself where it
ends, so that it is read in the same way whatever follows it (`Spells.readContent?_append`). No
quote or backslash of a text ends its literal early or changes the others.

Read back, a literal gives its text. It is the only text without line breaks and tabs that is read
so (`reads_iff_eq_stringLiteral`), and the lexer of the generated code takes it for one valid
literal of the same length.
-/

namespace ServiceGen

namespace Text

/-! ### Reading a literal -/

/-- The character that is meant by a mark behind a backslash. -/
def unescape? (mark : Char) : Option Char :=
  match mark with
  | '"' => some '"'
  | '\\' => some '\\'
  | 'n' => some '\n'
  | 'r' => some '\r'
  | 't' => some '\t'
  | _ => none

/-- The text of a literal behind its first quote, and what stands behind its last one. -/
def readContent? : List Char → Option (List Char × List Char)
  | [] => none
  | '"' :: rest => some ([], rest)
  | ['\\'] => none
  | '\\' :: mark :: rest =>
    (unescape? mark).bind fun c => (readContent? rest).map (Prod.map (c :: ·) id)
  | c :: rest => (readContent? rest).map (Prod.map (c :: ·) id)

/-- The text of the literal that some code begins with, and what stands behind it. -/
def readLiteral? : List Char → Option (List Char × List Char)
  | '"' :: rest => readContent? rest
  | _ => none

/-- A text without line breaks and tabs. -/
def IsLevel (cs : List Char) : Prop :=
  ∀ c ∈ cs, c ≠ '\n' ∧ c ≠ '\r' ∧ c ≠ '\t'

theorem isLevel_append {as bs : List Char} : IsLevel (as ++ bs) ↔ IsLevel as ∧ IsLevel bs :=
  List.forall_mem_append

/-! ### One character -/

/-- A mark that has a meaning behind a backslash is no line break and no tab, the character that
is meant is written with it, and the lexer knows it. -/
theorem of_unescape?_eq_some {mark c : Char} (h : unescape? mark = some c) :
    escapeInLiteral c = ['\\', mark] ∧ IsLevel [mark] ∧
      ∀ rest, Source.Scan.escapeRest? false (mark :: rest) = some rest := by
  unfold unescape? at h
  split at h <;> cases h <;> simp [escapeInLiteral, IsLevel, Source.Scan.escapeRest?]

/-- What a character may stand as in a literal without line breaks and tabs: itself, if it has no
meaning of its own there, or a mark behind a backslash. -/
inductive Spells : List Char → Char → Prop
  | itself {c : Char} (hquote : c ≠ '"') (hbackslash : c ≠ '\\') (hlevel : IsLevel [c]) :
      Spells [c] c
  | escape {mark c : Char} (hmark : unescape? mark = some c) : Spells ['\\', mark] c

/-- **Each character stands in one way** in a literal without line breaks and tabs. -/
theorem spells_iff {cs : List Char} {c : Char} : Spells cs c ↔ cs = escapeInLiteral c := by
  constructor
  · rintro (⟨hquote, hbackslash, hlevel⟩ | ⟨hmark⟩)
    · obtain ⟨hline, hreturn, htab⟩ := hlevel c List.mem_cons_self
      simp [escapeInLiteral, hquote, hbackslash, hline, hreturn, htab]
    · exact (of_unescape?_eq_some hmark).1.symm
  · rintro rfl
    rw [escapeInLiteral]
    split_ifs with hquote hbackslash hline hreturn htab
    · exact .escape (by rw [eq_of_beq hquote]; rfl)
    · exact .escape (by rw [eq_of_beq hbackslash]; rfl)
    · exact .escape (by rw [eq_of_beq hline]; rfl)
    · exact .escape (by rw [eq_of_beq hreturn]; rfl)
    · exact .escape (by rw [eq_of_beq htab]; rfl)
    · refine .itself (by simpa using hquote) (by simpa using hbackslash) fun d hd => ?_
      obtain rfl := List.mem_singleton.mp hd
      exact ⟨by simpa using hline, by simpa using hreturn, by simpa using htab⟩

theorem spells_escapeInLiteral (c : Char) : Spells (escapeInLiteral c) c :=
  spells_iff.mpr rfl

namespace Spells

variable {cs : List Char} {c : Char}

/-- The marks behind backslashes are no line breaks and no tabs. -/
theorem isLevel (h : Spells cs c) : IsLevel cs := by
  cases h with
  | itself _ _ hlevel => exact hlevel
  | @escape mark _ hmark =>
      rw [← List.singleton_append, isLevel_append]
      exact ⟨by simp [IsLevel], (of_unescape?_eq_some hmark).2.1⟩

/-- Each character stands as something. -/
theorem length_pos (h : Spells cs c) : 0 < cs.length := by
  cases h <;> exact Nat.succ_pos _

/-- **A character is read from what it stands as**, whatever follows it. -/
theorem readContent?_append (h : Spells cs c) (rest : List Char) :
    readContent? (cs ++ rest) = (readContent? rest).map (Prod.map (c :: ·) id) := by
  cases h with
  | itself hquote hbackslash _ =>
      rw [List.singleton_append, readContent?]
      · exact hquote
      · rintro rfl
        exact absurd rfl hbackslash
      · rintro _ _ rfl
        exact absurd rfl hbackslash
  | escape hmark =>
      rw [List.cons_append, List.singleton_append, readContent?, hmark, Option.bind_some]

/-- The lexer does not find the last quote of a literal within a character of it. -/
theorem quotedEnd_append (h : Spells cs c) (rest : List Char) :
    Source.Scan.quotedEnd '"' (cs ++ rest) =
      (Source.Scan.quotedEnd '"' rest).map (· + cs.length) := by
  cases h with
  | itself hquote hbackslash _ => simp [Source.Scan.quotedEnd, hquote, hbackslash]
  | escape hmark => simp [Source.Scan.quotedEnd]

/-- What a character stands as is valid in a literal. -/
theorem isValidText_append (h : Spells cs c) (fuel : ℕ) (rest : List Char) :
    Source.Scan.isValidText false (fuel + 1) (cs ++ rest) =
      Source.Scan.isValidText false fuel rest := by
  cases h with
  | itself hquote hbackslash hlevel =>
      have hreturn := (hlevel c List.mem_cons_self).2.1
      simp [Source.Scan.isValidText, hbackslash, hreturn]
  | @escape mark _ hmark =>
      obtain ⟨-, hlevel, hrest⟩ := of_unescape?_eq_some hmark
      have hline := (hlevel mark List.mem_cons_self).1
      simp [Source.Scan.isValidText, hline, hrest]

end Spells

/-! ### Literals -/

/-- What stands in the quotes of a literal is its text, whatever follows the last quote. -/
theorem readContent?_flatMap (cs after : List Char) :
    readContent? (cs.flatMap escapeInLiteral ++ '"' :: after) = some (cs, after) := by
  induction cs with
  | nil => rfl
  | cons c cs ih =>
      rw [List.flatMap_cons, List.append_assoc, (spells_escapeInLiteral c).readContent?_append, ih]
      rfl

/-- Some code begins with the content of a literal and its last quote, and if there are no line
breaks and tabs in these, each character of the text stands as the generated code writes it. -/
def BeginsWith (cs value after : List Char) : Prop :=
  ∃ part, cs = part ++ after ∧ (IsLevel part → part = value.flatMap escapeInLiteral ++ ['"'])

/-- One character more in front. -/
theorem BeginsWith.cons {front rest value after : List Char} {c : Char}
    (h : BeginsWith rest value after) (hfront : IsLevel front → Spells front c) :
    BeginsWith (front ++ rest) (c :: value) after := by
  obtain ⟨part, hpart, hvalue⟩ := h
  refine ⟨front ++ part, by rw [hpart, List.append_assoc], fun hlevel => ?_⟩
  obtain ⟨hlevelFront, hlevelPart⟩ := isLevel_append.mp hlevel
  rw [hvalue hlevelPart, List.flatMap_cons, ← spells_iff.mp (hfront hlevelFront),
    List.append_assoc]

/-- **What is read is where the code begins.** -/
theorem beginsWith_of_readContent? {cs value after : List Char}
    (h : readContent? cs = some (value, after)) : BeginsWith cs value after := by
  fun_induction readContent? cs generalizing value with
  | case1 => cases h
  | case2 rest =>
      cases h
      exact ⟨['"'], rfl, fun _ => rfl⟩
  | case3 => cases h
  | case4 mark rest ih =>
      obtain ⟨c, hmark, hrest⟩ := Option.bind_eq_some_iff.mp h
      obtain ⟨⟨content, after'⟩, hread, heq⟩ := Option.map_eq_some_iff.mp hrest
      cases heq
      exact (ih hread).cons fun _ => .escape hmark
  | case5 c rest hquote hend hescape ih =>
      obtain ⟨⟨content, after'⟩, hread, heq⟩ := Option.map_eq_some_iff.mp h
      cases heq
      have hbackslash : c ≠ '\\' := by
        rintro rfl
        cases rest with
        | nil => exact hend rfl rfl
        | cons mark rest => exact hescape mark rest rfl rfl
      rw [← List.singleton_append]
      exact (ih hread).cons fun hlevel => .itself hquote hbackslash hlevel

/-- There are no line breaks and tabs in a literal, whatever its text is. -/
theorem isLevel_literal (cs : List Char) : IsLevel (literal cs) := by
  have hmark : IsLevel ['"'] := by simp [IsLevel]
  have hcontent : IsLevel (cs.flatMap escapeInLiteral) := by
    intro c hc
    obtain ⟨d, -, hd⟩ := List.mem_flatMap.mp hc
    exact (spells_escapeInLiteral d).isLevel c hd
  exact isLevel_append.mpr ⟨isLevel_append.mpr ⟨hmark, hcontent⟩, hmark⟩

/-- A literal reads as its value, whatever follows. -/
theorem readLiteral?_literal (cs after : List Char) :
    readLiteral? (literal cs ++ after) = some (cs, after) := by
  rw [literal, List.append_assoc]
  exact readContent?_flatMap cs after

/-- On one line, what reads as a value is its literal. -/
theorem eq_literal_of_readLiteral? {part value after : List Char} (hlevel : IsLevel part)
    (h : readLiteral? (part ++ after) = some (value, after)) : part = literal value := by
  generalize hcode : part ++ after = code at h
  unfold readLiteral? at h
  split at h
  · rename_i rest
    obtain ⟨content, hrest, hcontent⟩ := beginsWith_of_readContent? h
    have hpart : part = '"' :: content := by
      rw [hrest, ← List.cons_append] at hcode
      exact List.append_cancel_right hcode
    rw [hpart, ← List.singleton_append, isLevel_append] at hlevel
    rw [hpart, hcontent hlevel.2]
    rfl
  · cases h

/-! ### Literals in the lexer -/

/-- The scanner finds the closing quote of a literal. -/
theorem quotedEnd_flatMap (cs after : List Char) :
    Source.Scan.quotedEnd '"' (cs.flatMap escapeInLiteral ++ '"' :: after) =
      some ((cs.flatMap escapeInLiteral).length + 1) := by
  induction cs with
  | nil => rfl
  | cons c cs ih =>
      rw [List.flatMap_cons, List.append_assoc, (spells_escapeInLiteral c).quotedEnd_append, ih,
        Option.map_some, List.length_append]
      congr 1
      omega

/-- The scanner accepts all escapes of a literal. -/
theorem isValidText_flatMap {cs : List Char} {fuel : ℕ} (h : cs.length ≤ fuel) :
    Source.Scan.isValidText false fuel (cs.flatMap escapeInLiteral) = true := by
  induction cs generalizing fuel with
  | nil => cases fuel <;> rfl
  | cons c cs ih =>
      obtain ⟨fuel, rfl⟩ := Nat.exists_eq_add_of_lt (Nat.lt_of_lt_of_le (Nat.succ_pos _) h)
      rw [List.flatMap_cons, Nat.zero_add, (spells_escapeInLiteral c).isValidText_append]
      exact ih (by simpa using h)

/-- A text is no longer than the content of its literal. -/
theorem length_le_length_flatMap (cs : List Char) :
    cs.length ≤ (cs.flatMap escapeInLiteral).length := by
  induction cs with
  | nil => exact Nat.le_refl 0
  | cons c cs ih =>
      have hpos : 0 < (escapeInLiteral c).length := (spells_escapeInLiteral c).length_pos
      rw [List.flatMap_cons, List.length_append, List.length_cons]
      omega

/-- **The lexer takes a literal for one token**, which is valid. -/
theorem length?_and_isValid_literal (cs after : List Char) :
    (Source.Scan.Quoting.text false).length? 0 (literal cs ++ after) =
        some (literal cs).length ∧
      (Source.Scan.Quoting.text false).isValid 0 (literal cs) = true := by
  constructor
  · rw [Source.Scan.Quoting.length?, literal]
    simp only [List.cons_append, List.append_assoc, List.drop_succ_cons, List.drop_zero,
      List.nil_append, quotedEnd_flatMap, Option.map_some, List.length_cons, List.length_append,
      List.length_nil]
    congr 1
    omega
  · rw [Source.Scan.Quoting.isValid, literal]
    simp only [List.cons_append, List.drop_succ_cons, List.drop_zero, List.dropLast_concat]
    exact isValidText_flatMap (length_le_length_flatMap cs)

end Text

/-- **A string literal reads as its text and nothing else does**: in front of any code it is read as
its text up to its end, it is the only text without line breaks and tabs of which this holds, and
the lexer of the generated code takes it for one valid literal of the same length. -/
theorem reads_iff_eq_stringLiteral (value after : String) :
    (∀ part : String,
      Text.readLiteral? (part ++ after).toList = some (value.toList, after.toList) ∧
          Text.IsLevel part.toList ↔
        part = stringLiteral value) ∧
      (Source.Scan.Quoting.text false).length? 0 (stringLiteral value ++ after).toList =
        some (stringLiteral value).toList.length ∧
      (Source.Scan.Quoting.text false).isValid 0 (stringLiteral value).toList = true := by
  have hliteral : (stringLiteral value).toList = Text.literal value.toList := String.toList_ofList
  obtain ⟨hlength, hvalid⟩ := Text.length?_and_isValid_literal value.toList after.toList
  refine ⟨fun part => ⟨fun h => ?_, ?_⟩, ?_, ?_⟩
  · rw [String.toList_append] at h
    rw [← String.toList_inj, hliteral]
    exact Text.eq_literal_of_readLiteral? h.2 h.1
  · rintro rfl
    rw [String.toList_append, hliteral]
    exact ⟨Text.readLiteral?_literal _ _, Text.isLevel_literal _⟩
  · rw [String.toList_append, hliteral]
    exact hlength
  · rw [hliteral]
    exact hvalid

end ServiceGen
