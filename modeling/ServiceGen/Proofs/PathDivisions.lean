import Mathlib.Data.List.Basic
import ServiceGen.Analysis.Endpoint

/-!
# Divisions of Path Templates

A template is cut at its placeholders into texts that stand for themselves and names between them.
No brace stands within a name, so no placeholder reaches into another one, and each that can be
found in a template is one of the scan, whatever stands before and behind it
(`scan_append_braced`). So it can be cut in one way only (`Division.template_injective`),
also where braces are nested, left open or empty.

## Main results

* `Division.scan_template`: the scan of a template finds the pieces of its division.
* `one_division`: **each path has one division**. Its names are those that are found in the path,
  and the path is filled at them and nowhere else.
-/

namespace ServiceGen

namespace PathTemplate

/-! ### Names and texts -/

/-- A character that can stand in the name of a placeholder. -/
def IsNameChar (c : Char) : Prop :=
  c ≠ '{' ∧ c ≠ '}' ∧ c ≠ '/'

/-- The name of a placeholder: it is not empty, and there are no braces and slashes in it. -/
def IsName (name : List Char) : Prop :=
  name ≠ [] ∧ ∀ c ∈ name, IsNameChar c

/-- A name in braces. -/
def braced (name : List Char) : List Char :=
  '{' :: (name ++ ['}'])

/-- A text with no placeholder in it. -/
def IsLiteral (text : List Char) : Prop :=
  ∀ name, IsName name → ¬braced name <:+: text

/-- The end of a literal text is literal. -/
theorem IsLiteral.of_suffix {part text : List Char} (h : IsLiteral text) (hpart : part <:+ text) :
    IsLiteral part :=
  fun name hname hmem => h name hname (hmem.trans hpart.isInfix)

/-- No slash stands in a placeholder. -/
theorem slash_not_mem_braced {name : List Char} (h : IsName name) : '/' ∉ braced name := by
  have hslash : '/' ∉ name := fun hmem => (h.2 '/' hmem).2.2 rfl
  simp [braced, hslash]

/-! ### The scan at a placeholder -/

/-- An opening brace makes the scan begin anew, as no name goes on behind it. -/
theorem scanFrom_append_open (pending : Option (List Char)) (text rest : List Char) :
    scanFrom pending (text ++ '{' :: rest) =
      scanFrom pending text ++ scanFrom (some []) rest := by
  fun_induction scanFrom pending text with
  | case1 => rfl
  | case2 name => rfl
  | case3 _ ih => exact ih
  | case4 c _ hc ih => rw [List.cons_append, scanFrom, if_neg hc, ih, List.cons_append]
  | case5 name _ ih => rw [List.cons_append, scanFrom, if_pos rfl, ih, List.append_assoc]
  | case6 name c _ hopen hclose ih =>
      rw [List.cons_append, scanFrom, if_neg hopen, if_pos hclose, ih, List.cons_append]
  | case7 name c _ hopen hclose hend ih =>
      rw [List.cons_append, scanFrom, if_neg hopen, if_neg hclose, if_pos hend, ih,
        List.append_assoc, List.cons_append]
  | case8 name c _ hopen hclose hend ih =>
      rw [List.cons_append, scanFrom, if_neg hopen, if_neg hclose, if_neg hend, ih]

/-- A name is read on to the brace that closes it. -/
theorem scanFrom_append_close {read name : List Char} (hne : read.reverse ++ name ≠ [])
    (hname : ∀ c ∈ name, IsNameChar c) (rest : List Char) :
    scanFrom (some read) (name ++ '}' :: rest) =
      .hole (read.reverse ++ name) :: scanFrom none rest := by
  induction name generalizing read with
  | nil =>
      have hread : read ≠ [] := by simpa using hne
      rw [List.nil_append, scanFrom, if_neg (by decide), if_pos ⟨rfl, hread⟩, List.append_nil]
  | cons c name ih =>
      obtain ⟨hopen, hclose, hslash⟩ := hname c List.mem_cons_self
      have hread : (c :: read).reverse ++ name = read.reverse ++ c :: name := by simp
      rw [List.cons_append, scanFrom, if_neg hopen, if_neg (by simp [hclose]),
        if_neg (by simp [hclose, hslash]),
        ih (hread ▸ hne) fun d hd => hname d (List.mem_cons_of_mem c hd), hread]

/-- **A placeholder divides the scan**, whatever stands before and behind it. -/
theorem scan_append_braced {name : List Char} (h : IsName name) (before after : List Char) :
    scan (before ++ braced name ++ after) = scan before ++ .hole name :: scan after := by
  have hbraced : before ++ braced name ++ after = before ++ '{' :: (name ++ '}' :: after) := by
    simp [braced]
  have hhole : scanFrom (some []) (name ++ '}' :: after) = .hole name :: scanFrom none after :=
    @scanFrom_append_close [] name h.1 h.2 after
  rw [scan, hbraced, scanFrom_append_open, hhole]
  rfl

/-! ### The scan of a text -/

/-- What has been read of a placeholder. -/
def opened : Option (List Char) → List Char
  | none => []
  | some name => '{' :: name.reverse

/-- **A text without placeholders stands for itself**, with what has been read before it. -/
theorem scanFrom_of_isLiteral {pending : Option (List Char)} {text : List Char}
    (hname : ∀ name ∈ pending, ∀ c ∈ name, IsNameChar c)
    (h : IsLiteral (opened pending ++ text)) :
    scanFrom pending text = (opened pending ++ text).map .char := by
  -- `opened` puts back what the scan has in hand, so that the hypothesis passes on to what follows
  fun_induction scanFrom pending text with
  | case1 => rfl
  | case2 name => rw [List.append_nil]; rfl
  | case3 rest ih => exact ih (by simp) h
  | case4 c rest hc ih =>
      rw [ih (by simp) (h.of_suffix (List.suffix_cons c rest))]
      rfl
  | case5 name rest ih =>
      rw [ih (by simp) (h.of_suffix (List.suffix_append _ _)), List.map_append, List.map_append]
      rfl
  | case6 name c rest hopen hclose ih =>
      -- the name would be a placeholder of the text
      obtain ⟨rfl, hne⟩ := hclose
      have hclosed : IsName name.reverse :=
        ⟨by simpa using hne, fun d hd => hname name rfl d (List.mem_reverse.mp hd)⟩
      exact absurd ⟨[], rest, by simp [braced, opened]⟩ (h _ hclosed)
  | case7 name c rest hopen hclose hend ih =>
      have hsuffix : rest <:+ opened (some name) ++ c :: rest :=
        (List.suffix_cons c rest).trans (List.suffix_append _ _)
      rw [ih (by simp) (h.of_suffix hsuffix), List.map_append, List.map_append]
      rfl
  | case8 name c rest hopen hclose hend ih =>
      have hread : opened (some (c :: name)) ++ rest = opened (some name) ++ c :: rest := by
        simp [opened]
      rw [not_or] at hend
      rw [ih ?_ (hread ▸ h), hread]
      intro read hread d hd
      obtain rfl := Option.mem_some.mp hread
      rcases List.mem_cons.mp hd with rfl | hd
      · exact ⟨hopen, hend⟩
      · exact hname name rfl d hd

/-- A literal text is read character by character. -/
theorem scan_of_isLiteral {text : List Char} (h : IsLiteral text) : scan text = text.map .char :=
  scanFrom_of_isLiteral (by simp) h

/-! ### Divisions -/

/-- A template cut at its placeholders: texts with none in them, and a name between each text and
the next. -/
inductive Division
  /-- A text with no placeholder behind it. -/
  | last (text : String) (htext : IsLiteral text.toList)
  /-- A text, the name of the placeholder behind it, and what follows. -/
  | hole (text name : String) (rest : Division) (htext : IsLiteral text.toList)
      (hname : IsName name.toList)

namespace Division

/-- The names, in order. -/
def names : Division → List String
  | last _ _ => []
  | hole _ name rest _ _ => name :: rest.names

/-- The texts with a value in the place of each name. -/
def fill (value : String → String) : Division → String
  | last text _ => text
  | hole text name rest _ _ => text ++ value name ++ rest.fill value

/-- The template that is cut so. -/
def template (d : Division) : String :=
  d.fill fun name => String.ofList (braced name.toList)

/-- The pieces of the template. -/
def pieces : Division → List Piece
  | last text _ => text.toList.map .char
  | hole text name rest _ _ => text.toList.map .char ++ .hole name.toList :: rest.pieces

/-- Two divisions with a placeholder between them. -/
def join : Division → (name : String) → IsName name.toList → Division → Division
  | last text htext, name, hname, e => hole text name e htext hname
  | hole text name' rest htext hname', name, hname, e =>
    hole text name' (rest.join name hname e) htext hname'

/-- Joined divisions are filled one after the other. -/
theorem fill_join (d e : Division) {name : String} (hname : IsName name.toList)
    (value : String → String) :
    (d.join name hname e).fill value = d.fill value ++ value name ++ e.fill value := by
  induction d with
  | last text htext => rfl
  | hole text name' rest _ _ ih => simp only [join, fill, ih, String.append_assoc]

/-- **Each path can be divided**: at a placeholder in it, and then on both sides of that one. -/
theorem exists_template_eq (cs : List Char) : ∃ d : Division, d.template.toList = cs := by
  induction hlength : cs.length using Nat.strongRecOn generalizing cs with
  | ind n ih =>
      subst hlength
      by_cases hliteral : IsLiteral cs
      · have htext : IsLiteral (String.ofList cs).toList := by rwa [String.toList_ofList]
        exact ⟨last (String.ofList cs) htext, String.toList_ofList⟩
      · obtain ⟨name, hname, before, after, rfl⟩ : ∃ name, IsName name ∧ braced name <:+: cs := by
          simpa [IsLiteral] using hliteral
        obtain ⟨d, hd⟩ := ih before.length (by simp [braced]) before rfl
        obtain ⟨e, he⟩ := ih after.length (by simp [braced]; omega) after rfl
        have hmiddle : IsName (String.ofList name).toList := by rwa [String.toList_ofList]
        refine ⟨d.join (String.ofList name) hmiddle e, ?_⟩
        rw [template, fill_join, String.toList_append, String.toList_append, ← template, ← template,
          hd, he, String.toList_ofList, String.toList_ofList]

/-- **The scan of a template** finds the pieces of its division. -/
theorem scan_template (d : Division) : scan d.template.toList = d.pieces := by
  induction d with
  | last text htext => exact scan_of_isLiteral htext
  | hole text name rest htext hname ih =>
      rw [template, fill, String.toList_append, String.toList_append, String.toList_ofList,
        scan_append_braced hname, scan_of_isLiteral htext, ← template, ih]
      rfl

/-- The placeholders that are found in a template are the names of its division. -/
theorem placeholders_template (d : Division) : placeholders d.template = d.names := by
  rw [placeholders, scan_template]
  induction d with
  | last text _ => simp [pieces, names, List.filterMap_map]
  | hole text name rest _ _ ih => simp [pieces, names, List.filterMap_map, ih]

/-- A template is filled at the names of its division. -/
theorem fill_template (d : Division) (value : String → String) :
    PathTemplate.fill d.template value = d.fill value := by
  rw [PathTemplate.fill, scan_template]
  induction d with
  | last text _ => simp [pieces, fill, render, List.flatMap_map]
  | hole text name rest _ _ ih =>
      rw [fill, ← ih]
      simp [pieces, render, List.flatMap_map, String.append_assoc]

/-- Text has no placeholder among its pieces. -/
theorem map_char_ne_append_hole {text text' name : List Char} {ps : List Piece} :
    text.map Piece.char ≠ text'.map .char ++ .hole name :: ps := by
  intro h
  have hmem : Piece.hole name ∈ text.map Piece.char := by simp [h]
  simp at hmem

/-- Pieces begin with one text up to their first placeholder. -/
theorem map_char_append_hole_inj {text text' name name' : List Char} {ps ps' : List Piece}
    (h : text.map Piece.char ++ .hole name :: ps = text'.map .char ++ .hole name' :: ps') :
    text = text' ∧ name = name' ∧ ps = ps' := by
  induction text generalizing text' with
  | nil =>
      cases text' with
      | nil => simpa using h
      | cons c text' => simp at h
  | cons c text ih =>
      cases text' with
      | nil => simp at h
      | cons c' text' =>
          rw [List.map_cons, List.map_cons, List.cons_append, List.cons_append, List.cons.injEq,
            Piece.char.injEq] at h
          obtain ⟨rfl, h⟩ := h
          obtain ⟨rfl, hrest⟩ := ih h
          exact ⟨rfl, hrest⟩

/-- A division is determined by its pieces. -/
theorem pieces_injective : Function.Injective pieces := by
  intro d e h
  induction d generalizing e with
  | last text _ =>
      cases e with
      | last text' _ =>
          have htext : text.toList = text'.toList := by
            refine List.map_injective_iff.mpr (fun c c' hc => ?_) h
            exact Piece.char.inj hc
          obtain rfl := String.toList_inj.mp htext
          rfl
      | hole text' name' rest' _ _ => exact absurd h map_char_ne_append_hole
  | hole text name rest _ _ ih =>
      cases e with
      | last text' _ => exact absurd h.symm map_char_ne_append_hole
      | hole text' name' rest' _ _ =>
          obtain ⟨htext, hname, hrest⟩ := map_char_append_hole_inj h
          obtain rfl := String.toList_inj.mp htext
          obtain rfl := String.toList_inj.mp hname
          obtain rfl := ih hrest
          rfl

/-- **A template is cut in one way only.** -/
theorem template_injective : Function.Injective template := by
  intro d e h
  have hpieces : d.pieces = e.pieces := by rw [← scan_template, ← scan_template, h]
  exact pieces_injective hpieces

/-- The slashes of a template stand in its texts. -/
theorem count_slash_fill (d : Division) {value : String → String}
    (hvalue : ∀ name, '/' ∉ (value name).toList) :
    (d.fill value).toList.count '/' = d.template.toList.count '/' := by
  induction d with
  | last => rfl
  | hole text name rest _ hname ih =>
      have hbraced := List.count_eq_zero_of_not_mem (slash_not_mem_braced hname)
      have hfilled := List.count_eq_zero_of_not_mem (hvalue name)
      rw [template] at ih
      simp only [template, fill, String.toList_append, String.toList_ofList, List.count_append,
        hbraced, hfilled, ih]

end Division

end PathTemplate

/-! ### Addresses for tests -/

/-- The sample of a type holds no slash. -/
theorem FieldType.slash_not_mem_sampleSegment (type : String) :
    '/' ∉ (FieldType.sampleSegment type).toList := by
  unfold FieldType.sampleSegment
  split <;> decide

/-- The address of a test is the path filled with sample values, and there are no slashes in
these. -/
theorem Endpoint.exists_testUri_eq_fill (e : Endpoint) :
    ∃ value : String → String, e.testUri = PathTemplate.fill e.path value ∧
      ∀ name, '/' ∉ (value name).toList := by
  refine ⟨_, rfl, fun name => ?_⟩
  split <;> exact FieldType.slash_not_mem_sampleSegment _

namespace PathTemplate

/-- **Each path has one division** into texts without placeholders and names between them. Its
names are those that are found in the path, and to fill the path puts a value in the place of each
and changes nothing else. So names in braces give the path back, and the address that the test of
an endpoint calls has as many slashes as its path. -/
theorem one_division (path : String) :
    (∃ d : Division,
      (∀ other : Division, other.template = path ↔ other = d) ∧
        placeholders path = d.names ∧ ∀ value, fill path value = d.fill value) ∧
      fill path (fun name => String.ofList (braced name.toList)) = path ∧
      ∀ e : Endpoint,
        ({ e with path } : Endpoint).testUri.toList.count '/' = path.toList.count '/' := by
  obtain ⟨d, hd⟩ := Division.exists_template_eq path.toList
  obtain rfl := String.toList_inj.mp hd
  refine ⟨⟨d, fun other => Division.template_injective.eq_iff, d.placeholders_template,
    d.fill_template⟩, d.fill_template _, fun e => ?_⟩
  obtain ⟨value, heq, hvalue⟩ := Endpoint.exists_testUri_eq_fill { e with path := d.template }
  rw [heq, d.fill_template, d.count_slash_fill hvalue]

/-- Of nested braces the inner ones hold a placeholder. Braces with a slash or nothing between them
stand for themselves. -/
example : placeholders "/a/\x7b\x7bid\x7d\x7d/\x7bb/c\x7d/\x7b\x7d" = ["id"] := by decide

end PathTemplate

end ServiceGen
