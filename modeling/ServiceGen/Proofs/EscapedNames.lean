import ServiceGen.Proofs.ReferenceNames
import ServiceGen.Proofs.Utf8

/-!
# Escaped Names

How the name of a component is written at the end of a reference: the tilde and the slash as `~0`
and `~1`, and then every byte but those of ASCII letters, digits and a few marks as a percent
escape (`encodeSegment`). Reading a segment undoes the first step before the second, and one kind
of escape after the other, by replacements in the whole text. The name comes back all the same
(`decodeSegment_encodeSegment`): what the characters of a name are written as stays apart, since a
tilde stands only at the beginning of an escape, and each step deals with every character by itself
(`replace_flatMap`).

`componentName?_and_tailName_pointer` is what this comes to: a reference with an escaped name leads
to the component of this name, in its own section only, and reads as this name.
-/

namespace ServiceGen

/-! ### Replacing in parts -/

namespace Text

variable {needle replacement : List Char}

/-- A replacement that deals with the parts of a text one by one. -/
theorem replace_flatMap {f g : Char → List Char} {cs : List Char}
    (h : ∀ c ∈ cs, ∀ rest,
      replace needle replacement (f c ++ rest) = g c ++ replace needle replacement rest) :
    replace needle replacement (cs.flatMap f) = cs.flatMap g := by
  induction cs with
  | nil => rfl
  | cons c cs ih =>
      rw [List.flatMap_cons, List.flatMap_cons, h c List.mem_cons_self,
        ih fun d hd => h d (List.mem_cons_of_mem c hd)]

/-- What begins with another character than the needle is passed over. -/
theorem replace_cons_of_ne {first c : Char} (h : c ≠ first) (needle rest : List Char) :
    replace (first :: needle) replacement (c :: rest) =
      c :: replace (first :: needle) replacement rest := by
  have hprefix : (first :: needle).isPrefixOf (c :: rest) = false := by
    rw [List.isPrefixOf_cons_cons, beq_eq_false_iff_ne.mpr h.symm, Bool.false_and]
  rw [replace, replaceFrom, hprefix]
  rfl

/-- A part without the first character of the needle is passed over. -/
theorem replace_append_of_not_mem {first : Char} {part : List Char} (h : first ∉ part)
    (needle rest : List Char) : replace (first :: needle) replacement (part ++ rest) =
      part ++ replace (first :: needle) replacement rest := by
  induction part with
  | nil => rfl
  | cons c part ih =>
      obtain ⟨hc, hpart⟩ := not_or.mp (mt List.mem_cons.mpr h)
      rw [List.cons_append, replace_cons_of_ne (Ne.symm hc), ih hpart, List.cons_append]

end Text

namespace Reference

/-! ### Writing a name -/

/-- Whether a character is written as it is: an ASCII letter, a digit or one of some marks. -/
def isUnreserved (c : Char) : Bool :=
  c.isAlphanum || ['-', '.', '_', '~'].contains c

/-- A hexadecimal digit, in small letters or in capitals. -/
def hexDigit (small : Bool) (n : Nat) : Char :=
  Char.ofNat (if n < 10 then 0x30 + n else if small then 0x57 + n else 0x37 + n)

/-- The percent escape of a byte. -/
def escapeByte (small : Bool) (b : UInt8) : List Char :=
  ['%', hexDigit small (b.toNat / 16), hexDigit small (b.toNat % 16)]

/-- A character, or the percent escapes of its bytes. -/
def escapeChar (small : Bool) (c : Char) : List Char :=
  if isUnreserved c then [c] else (String.utf8EncodeChar c).flatMap (escapeByte small)

/-- A character, or the escape that a pointer has for it. -/
def escapeMark (c : Char) : List Char :=
  if c = '~' then ['~', '0'] else if c = '/' then ['~', '1'] else [c]

/-- A name as a segment of a pointer. -/
def encodeSegment (small : Bool) (name : List Char) : List Char :=
  (name.flatMap escapeMark).flatMap (escapeChar small)

/-- The reference to a component, with its name as it is written. -/
def pointer (target : Section) (segment : List Char) : String :=
  "#/components/" ++ target.key ++ "/" ++ String.ofList segment

variable {small : Bool} {name : List Char} {c : Char}

/-! ### The characters of a segment -/

/-- A hexadecimal digit stands for itself, and has its value. -/
theorem hexDigit_spec (small : Bool) {n : Nat} (h : n < 16) :
    isUnreserved (hexDigit small n) = true ∧ hexDigit small n ≠ '~' ∧
      String.utf8EncodeChar (hexDigit small n) = [UInt8.ofNat (hexDigit small n).toNat] ∧
      hexValue? (UInt8.ofNat (hexDigit small n).toNat) = some (UInt8.ofNat n) := by
  revert small n
  decide

/-- Only characters that are written as they are, and percent signs, stand in an escape. -/
theorem of_mem_escapeByte {b : UInt8} (h : c ∈ escapeByte small b) :
    c ≠ '~' ∧ (isUnreserved c = true ∨ c = '%') := by
  have hb := b.toNat_lt
  rw [escapeByte, List.mem_cons, List.mem_pair] at h
  rcases h with rfl | rfl | rfl
  · exact ⟨by decide, Or.inr rfl⟩
  · have hdigit := hexDigit_spec small (n := b.toNat / 16) (by omega)
    exact ⟨hdigit.2.1, Or.inl hdigit.1⟩
  · have hdigit := hexDigit_spec small (n := b.toNat % 16) (by omega)
    exact ⟨hdigit.2.1, Or.inl hdigit.1⟩

/-- An encoded segment consists of unreserved characters and percent signs. -/
theorem of_mem_encodeSegment (h : c ∈ encodeSegment small name) :
    isUnreserved c = true ∨ c = '%' := by
  obtain ⟨d, -, hd⟩ := List.mem_flatMap.mp h
  rw [escapeChar] at hd
  split at hd
  · rename_i hfree
    rw [List.mem_singleton.mp hd]
    exact Or.inl hfree
  · obtain ⟨b, -, hb⟩ := List.mem_flatMap.mp hd
    exact (of_mem_escapeByte hb).2

/-- A segment has no tilde from a character without one. -/
theorem not_mem_escapeChar (h : c ≠ '~') : '~' ∉ escapeChar small c := by
  rw [escapeChar]
  split
  · simpa using h.symm
  · intro hmem
    obtain ⟨b, -, hb⟩ := List.mem_flatMap.mp hmem
    exact (of_mem_escapeByte hb).1 rfl

/-! ### Undoing the escapes of pointers -/

/-- A character as it stands in a segment when the slashes are back. -/
def halfEscaped (small : Bool) (c : Char) : List Char :=
  if c = '~' then ['~', '0'] else if c = '/' then ['/'] else escapeChar small c

/-- A character as it stands in a segment when the tildes are back as well. -/
def percentEscaped (small : Bool) (c : Char) : List Char :=
  if c = '~' ∨ c = '/' then [c] else escapeChar small c

/-- Encoding goes character by character: first its mark, then the mark escaped. -/
theorem encodeSegment_eq (small : Bool) (name : List Char) :
    encodeSegment small name = name.flatMap fun c => (escapeMark c).flatMap (escapeChar small) :=
  List.flatMap_assoc

/-- The first replacement decodes the slashes and nothing else. -/
theorem replace_slashes (small : Bool) (name : List Char) :
    Text.replace ['~', '1'] ['/'] (encodeSegment small name) =
      name.flatMap (halfEscaped small) := by
  rw [encodeSegment_eq]
  refine Text.replace_flatMap fun c _ rest => ?_
  rw [escapeMark, halfEscaped]
  by_cases htilde : c = '~'
  · rw [if_pos htilde, if_pos htilde]
    rfl
  · rw [if_neg htilde, if_neg htilde]
    split
    · rfl
    · rw [List.flatMap_singleton]
      exact Text.replace_append_of_not_mem (not_mem_escapeChar htilde) _ _

/-- The second replacement decodes the tildes that the first one left. -/
theorem replace_tildes (small : Bool) (name : List Char) :
    Text.replace ['~', '0'] ['~'] (name.flatMap (halfEscaped small)) =
      name.flatMap (percentEscaped small) := by
  refine Text.replace_flatMap fun c _ rest => ?_
  rw [halfEscaped, percentEscaped]
  by_cases htilde : c = '~'
  · rw [if_pos htilde, if_pos (Or.inl htilde), htilde]
    rfl
  · rw [if_neg htilde]
    by_cases hslash : c = '/'
    · rw [if_pos hslash, if_pos (Or.inr hslash), hslash]
      rfl
    · rw [if_neg hslash, if_neg (not_or.mpr ⟨htilde, hslash⟩)]
      exact Text.replace_append_of_not_mem (not_mem_escapeChar htilde) _ _

/-! ### Undoing percent escapes -/

/-- A byte that is no percent sign stands for itself. -/
theorem unescapePercent_cons {b : UInt8} (h : b ≠ 0x25) (rest : List UInt8) :
    unescapePercent (b :: rest) = b :: unescapePercent rest := by
  match rest with
  | [] => rfl
  | [_] => rfl
  | _ :: _ :: _ => simp [unescapePercent, h]

/-- **A byte is read from its escape.** -/
theorem unescapePercent_escapeByte (small : Bool) (b : UInt8) (rest : List UInt8) :
    unescapePercent (Text.Utf8.encode (escapeByte small b) ++ rest) =
      b :: unescapePercent rest := by
  have hb := b.toNat_lt
  obtain ⟨-, -, hhigh, hhighValue⟩ := hexDigit_spec small (n := b.toNat / 16) (by omega)
  obtain ⟨-, -, hlow, hlowValue⟩ := hexDigit_spec small (n := b.toNat % 16) (by omega)
  have hbyte : UInt8.ofNat (b.toNat / 16) * 16 + UInt8.ofNat (b.toNat % 16) = b := by
    rw [← UInt8.toNat_inj, UInt8.toNat_add, UInt8.toNat_mul, UInt8.toNat_ofNat',
      UInt8.toNat_ofNat']
    simp only [UInt8.reduceToNat]
    omega
  have hencode : Text.Utf8.encode (escapeByte small b) =
      [0x25, UInt8.ofNat (hexDigit small (b.toNat / 16)).toNat,
        UInt8.ofNat (hexDigit small (b.toNat % 16)).toNat] := by
    rw [escapeByte, Text.Utf8.encode, List.flatMap_cons, List.flatMap_cons, List.flatMap_singleton,
      hhigh, hlow]
    rfl
  have hpair : hexPair? (UInt8.ofNat (hexDigit small (b.toNat / 16)).toNat)
      (UInt8.ofNat (hexDigit small (b.toNat % 16)).toNat) = some b := by
    rw [hexPair?, hhighValue, hlowValue]
    exact congrArg some hbyte
  rw [hencode]
  simp [unescapePercent, hpair]

/-- Escaped bytes are read back as they were. -/
theorem unescapePercent_escapeBytes (small : Bool) (bytes rest : List UInt8) :
    unescapePercent (Text.Utf8.encode (bytes.flatMap (escapeByte small)) ++ rest) =
      bytes ++ unescapePercent rest := by
  induction bytes with
  | nil => rfl
  | cons b bytes ih =>
      rw [List.flatMap_cons, Text.Utf8.encode, List.flatMap_append, ← Text.Utf8.encode,
        ← Text.Utf8.encode, List.append_assoc, unescapePercent_escapeByte, ih, List.cons_append]

/-- An ASCII character other than the percent sign stands for itself. -/
theorem unescapePercent_ascii (hascii : c.toNat ≤ 127) (hpercent : c ≠ '%') (rest : List UInt8) :
    unescapePercent (Text.Utf8.encode [c] ++ rest) =
      String.utf8EncodeChar c ++ unescapePercent rest := by
  have hencode : String.utf8EncodeChar c = [UInt8.ofNat c.toNat] := if_pos hascii
  have hbyte : UInt8.ofNat c.toNat ≠ 0x25 := by
    rw [ne_eq, ← UInt8.toNat_inj, UInt8.toNat_ofNat', Nat.mod_eq_of_lt (by omega)]
    exact fun heq => hpercent (Char.toNat_inj.mp heq)
  rw [Text.Utf8.encode, List.flatMap_singleton, hencode, List.singleton_append,
    unescapePercent_cons hbyte, List.singleton_append]

/-- An unreserved character is in ASCII and no percent sign. -/
theorem bounds_of_isUnreserved (h : isUnreserved c = true) : c.toNat ≤ 127 ∧ c ≠ '%' := by
  refine ⟨?_, by rintro rfl; cases h⟩
  rw [isUnreserved, Bool.or_eq_true] at h
  rcases h with halnum | hmark
  · have hascii := Text.Letter.isAscii_iff.mp (Text.Letter.isAscii_of_isAlphanum halnum)
    omega
  · have hall : ∀ d ∈ ['-', '.', '_', '~'], d.toNat ≤ 127 := by simp
    exact hall c (List.contains_iff_mem.mp hmark)

/-- **The bytes of a character** are what its escapes are read as. -/
theorem unescapePercent_percentEscaped (small : Bool) (c : Char) (rest : List UInt8) :
    unescapePercent (Text.Utf8.encode (percentEscaped small c) ++ rest) =
      String.utf8EncodeChar c ++ unescapePercent rest := by
  rw [percentEscaped]
  split
  · rename_i hmark
    rcases hmark with rfl | rfl <;> exact unescapePercent_ascii (by decide) (by decide) rest
  · rw [escapeChar]
    split
    · rename_i hfree
      obtain ⟨hascii, hpercent⟩ := bounds_of_isUnreserved hfree
      exact unescapePercent_ascii hascii hpercent rest
    · exact unescapePercent_escapeBytes small _ rest

/-- What is left after the replacements decodes to the bytes of the name. -/
theorem unescapePercent_encode (small : Bool) (name : List Char) :
    unescapePercent (Text.Utf8.encode (name.flatMap (percentEscaped small))) =
      Text.Utf8.encode name := by
  induction name with
  | nil => rfl
  | cons c name ih =>
      rw [List.flatMap_cons, Text.Utf8.encode, List.flatMap_append, ← Text.Utf8.encode,
        ← Text.Utf8.encode, unescapePercent_percentEscaped, ih]
      rfl

/-- **A name is read from its escapes.** -/
theorem decodeSegment_encodeSegment (small : Bool) (name : List Char) :
    decodeSegment (encodeSegment small name) = name := by
  rw [decodeSegment, replace_slashes, replace_tildes, unescapePercent_encode,
    Text.Utf8.decodeLossy_encode]

/-! ### References -/

theorem toList_pointer (target : Section) (segment : List Char) :
    (pointer target segment).toList =
      '#' :: '/' :: ("components".toList ++ '/' :: (target.key.toList ++ '/' :: segment)) := by
  simp [pointer]

/-- What a reference to a component is followed to: the component of the section that it names. -/
theorem componentName?_pointer {segment : List Char} (hslash : '/' ∉ segment)
    (hname : decodeSegment segment ≠ []) (target other : Section) :
    componentName? other (pointer target segment) =
      if other = target then some (String.ofList (decodeSegment segment)) else none := by
  have hkeys : target.key.toList = other.key.toList ↔ other = target := by
    cases target <;> cases other <;> decide
  have hkey : '/' ∉ target.key.toList := by cases target <;> decide
  have hcut : Text.cutAtChar? '#' (pointer target segment).toList = some ([],
      '/' :: ("components".toList ++ '/' :: (target.key.toList ++ '/' :: segment))) := by
    rw [toList_pointer]
    rfl
  have hdrop : ('/' :: ("components".toList ++ '/' :: (target.key.toList ++
      '/' :: segment))).dropWhile (· == '/') =
        "components".toList ++ '/' :: (target.key.toList ++ '/' :: segment) := rfl
  rw [componentName?, hcut, Option.bind_eq_bind, Option.bind_some]
  dsimp only
  rw [hdrop, Text.splitAtChar_append_cons (by decide), Text.splitAtChar_append_cons hkey,
    Text.splitAtChar_eq_singleton hslash]
  simp only [true_and, hkeys]

/-- **A reference with an escaped name leads to the component of this name**, into its own section
only, and reads as this name. -/
theorem componentName?_and_tailName_pointer (small : Bool) (target : Section) {name : String}
    (h : name ≠ "") :
    componentName? target (pointer target (encodeSegment small name.toList)) = some name ∧
      (∀ other ≠ target,
        componentName? other (pointer target (encodeSegment small name.toList)) = none) ∧
      tailName (pointer target (encodeSegment small name.toList)) = name := by
  have hfree : ∀ c, isUnreserved c = false → c ≠ '%' → c ∉ encodeSegment small name.toList := by
    intro c hc hpercent hmem
    rcases of_mem_encodeSegment hmem with hfree | rfl
    · rw [hc] at hfree
      cases hfree
    · exact hpercent rfl
  have hslash := hfree '/' (by decide) (by decide)
  have hhash := hfree '#' (by decide) (by decide)
  have hdecode := decodeSegment_encodeSegment small name.toList
  have hname : decodeSegment (encodeSegment small name.toList) ≠ [] := by
    rw [hdecode]
    exact fun heq => h (String.toList_inj.mp heq)
  refine ⟨?_, fun other hother => ?_, ?_⟩
  · rw [componentName?_pointer hslash hname, if_pos rfl, hdecode, String.ofList_toList]
  · rw [componentName?_pointer hslash hname, if_neg hother]
  · have htail : (pointer target (encodeSegment small name.toList)).toList =
        ('#' :: '/' :: ("components".toList ++ '/' :: target.key.toList)) ++
          '/' :: encodeSegment small name.toList := by
      rw [toList_pointer]
      simp
    have hdrop : (encodeSegment small name.toList).dropWhile (· == '#') =
        encodeSegment small name.toList :=
      List.dropWhile_beq_eq_self_of_head?_ne fun hhead => hhash (List.mem_of_head? hhead)
    rw [tailName, htail, Text.reverse_takeWhile_reverse hslash, hdrop, hdecode,
      String.ofList_toList]

/-- A name that looks like an escape itself. -/
theorem componentName?_and_tailName_pointer_nested :
    "a~1/%7Eé" ≠ "" ∧
      pointer .schemas (encodeSegment false "a~1/%7Eé".toList) =
        "#/components/schemas/a~01~1%257E%C3%A9" ∧
      componentName? .schemas (pointer .schemas (encodeSegment false "a~1/%7Eé".toList)) =
        some "a~1/%7Eé" ∧
      (∀ other ≠ .schemas, componentName? other
        (pointer .schemas (encodeSegment false "a~1/%7Eé".toList)) = none) ∧
      tailName (pointer .schemas (encodeSegment false "a~1/%7Eé".toList)) = "a~1/%7Eé" :=
  ⟨by decide, by decide +kernel, componentName?_and_tailName_pointer false .schemas (by decide)⟩

end Reference

end ServiceGen
