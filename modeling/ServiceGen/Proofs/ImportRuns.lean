import ServiceGen.Proofs.SourceItems
import ServiceGen.Proofs.SourcePieces

/-!
# The Imports That Are Read

A source is divided into what stands before its items, its first imports, its other items and what
stands behind them (`Divided`), and this is what is read of it (`ImportRun.read?_eq_some_iff`).
Nothing is lost (`ImportRun.text_of_read?`), and each import is read where it stands
(`ImportRun.isRead_of_read?`): it ends with its semicolon, and neither its pieces nor how its tokens
are recognized depends on what stands behind that.
-/

namespace ServiceGen.Source

/-! ### What belongs to an import -/

/-- What belongs to an item is part of the text before it. -/
theorem attached_le (ts : List Trivia) : attached ts ≤ ts.length := by
  fun_induction attached ts with grind

/-- What belongs to an item still does without the rest. -/
theorem attached_take (ts : List Trivia) : attached (ts.take (attached ts)) = attached ts := by
  fun_induction attached ts with
  | case1 => rfl
  | case2 => simp [attached]
  | case3 text rest further hkept ih =>
    have hne : attached rest ≠ 0 := fun hzero => hkept (by simp [further, hzero])
    rw [List.take_succ_cons, attached, List.head?_take, if_neg hne, ih]
    exact if_neg hkept
  | case4 => simp [attached]
  | case5 text rest hinner ih => simp [attached, hinner, ih]

/-- The rest does not belong to an item that it stands directly before. -/
theorem attached_drop (ts : List Trivia) : attached (ts.drop (attached ts)) = 0 := by
  fun_induction attached ts with
  | case1 => rfl
  | case2 text rest further hcut =>
    rw [List.drop_zero, attached]
    exact if_pos hcut
  | case3 text rest further hkept ih => exact ih
  | case4 text rest hinner => simp [attached, hinner]
  | case5 text rest hinner ih => exact ih

/-- Beyond pieces that all belong to an item, what belongs to it is what would without them. -/
theorem attached_append {ts : List Trivia} (h : attached ts = ts.length) (further : List Trivia) :
    attached (ts ++ further) = ts.length + attached further := by
  fun_induction attached ts with
  | case1 => simp
  | case2 => cases h
  | case3 text rest count hkept ih =>
    have hne : attached rest ≠ 0 := fun hzero => hkept (by simp [count, hzero])
    have hrest : attached rest = rest.length := Nat.succ.inj h
    have hnil : rest ≠ [] := by
      rintro rfl
      exact hne rfl
    have hlength : rest.length ≠ 0 := hrest ▸ hne
    have hkept' : ¬(Text.contains ['\n', '\n'] text && !rest.head?.any Trivia.isOuter ||
        rest.length + attached further == 0) = true := by
      simpa [count, hne, hlength] using hkept
    rw [List.cons_append, attached, List.head?_append_of_ne_nil rest hnil, ih hrest, if_neg hkept',
      List.length_cons]
    omega
  | case4 => cases h
  | case5 text rest hinner ih =>
    rw [List.cons_append, attached, if_neg hinner, ih (Nat.succ.inj h), List.length_cons]
    omega

/-- The farthest piece that belongs to an item is a comment. -/
theorem exists_comment_of_getLast? {ts : List Trivia} {t : Trivia} (h : attached ts = ts.length)
    (hlast : ts.getLast? = some t) : ∃ text, t = .comment text := by
  fun_induction attached ts with grind [attached]

namespace Lexeme

/-- Everything before a lexeme belongs to the item that it begins. -/
def IsTrimmed (l : Lexeme) : Prop :=
  attached l.before.reverse = l.before.length

/-- A lexeme with further pieces before it. -/
def behind (gap : List Trivia) (l : Lexeme) : Lexeme :=
  { l with before := gap ++ l.before }

@[simp]
theorem token_behind (gap : List Trivia) (l : Lexeme) : (l.behind gap).token = l.token :=
  rfl

/-- Of the text before a trimmed lexeme that is left which belongs to it. -/
theorem reverse_before_trimmed (l : Lexeme) :
    l.trimmed.before.reverse = l.before.reverse.take (attached l.before.reverse) := by
  have hle := attached_le l.before.reverse
  rw [List.length_reverse] at hle
  rw [trimmed, detachedCount, List.reverse_drop, Nat.sub_sub_self hle]

/-- A trimmed lexeme has no text before it that does not belong to it. -/
theorem isTrimmed_trimmed (l : Lexeme) : l.trimmed.IsTrimmed := by
  have hle := attached_le l.before.reverse
  rw [IsTrimmed, ← @List.length_reverse _ l.trimmed.before, reverse_before_trimmed,
    attached_take, List.length_take, min_eq_left hle]

/-- A lexeme is what is left of it behind what does not belong to its item. -/
theorem exists_eq_behind (l : Lexeme) :
    ∃ gap, attached gap.reverse = 0 ∧ l = l.trimmed.behind gap := by
  refine ⟨l.before.take l.detachedCount, ?_, ?_⟩
  · have hle := attached_le l.before.reverse
    rw [List.length_reverse] at hle
    rw [List.reverse_take, detachedCount, Nat.sub_sub_self hle, attached_drop]
  · rw [behind, trimmed, List.take_append_drop]

variable {gap : List Trivia} {l : Lexeme}

/-- Behind a text that ends where the lexeme begins, exactly this text does not belong to it. -/
theorem detachedCount_behind (hgap : attached gap.reverse = 0) (hl : l.IsTrimmed) :
    (l.behind gap).detachedCount = gap.length := by
  have hcount : attached (l.behind gap).before.reverse = l.before.length := by
    rw [behind, List.reverse_append, attached_append (by rw [hl, List.length_reverse]), hgap,
      List.length_reverse, Nat.add_zero]
  rw [detachedCount, hcount, behind, List.length_append, Nat.add_sub_cancel]

/-- Lexemes are separated from the text that they stand behind. -/
theorem separate_behind (hgap : attached gap.reverse = 0) (hl : l.IsTrimmed)
    (further : List Lexeme) :
    separate (l.behind gap :: further) = (gap.flatMap Trivia.text, l :: further) := by
  rw [separate, trimmed, detachedCount_behind hgap hl]
  simp [behind]

/-- The text of lexemes behind other text is that text and theirs. -/
theorem flatMap_whole_behind (further : List Lexeme) :
    (l.behind gap :: further).flatMap whole =
      gap.flatMap Trivia.text ++ (l :: further).flatMap whole := by
  simp [behind, whole]

/-- The pieces of lexemes behind other text are those of that text and theirs. -/
theorem flatMap_pieces_behind (further : List Lexeme) :
    (l.behind gap :: further).flatMap pieces =
      gap.map Piece.trivia ++ (l :: further).flatMap pieces := by
  simp [behind, pieces]

/-- What belongs to an item does not begin with white space. -/
theorem IsTrimmed.solid (hl : l.IsTrimmed) {further : List Lexeme} {ps : List Piece}
    {cs rest : List Char} (h : Reads cs ((l :: further).flatMap pieces ++ ps) rest) :
    Scan.Solid cs := by
  rw [List.flatMap_cons, pieces] at h
  cases hbefore : l.before with
  | nil =>
    rw [hbefore] at h
    exact Reads.solid h (by simp)
  | cons t before =>
    obtain ⟨text, rfl⟩ : ∃ text, t = .comment text := by
      refine exists_comment_of_getLast? (hl.trans (List.length_reverse).symm) ?_
      rw [List.getLast?_reverse, hbefore, List.head?_cons]
    rw [hbefore] at h
    exact Reads.solid h (by simp)

end Lexeme

/-! ### Imports that are read -/

/-- An import that stands somewhere in a source: it is read there, up to what follows it, and
recognized. -/
inductive Import.IsRead : Import → Prop
  | intro {first : Lexeme} {further : List Lexeme} {lead size : ℕ} {after : List Char}
      {following : List Token} :
      first.IsTrimmed →
      Reads ((first :: further).flatMap Lexeme.whole ++ after)
        ((first :: further).flatMap Lexeme.pieces) after →
      ItemSpan.ofImport? ((first :: further).map (·.token) ++ following) =
        some ⟨further.length + 1, some (lead, size)⟩ →
      IsRead (Import.ofLexemes lead size (first :: further))

namespace Import

variable {i j : Import}

/-- An import ends with its semicolon, and is one whatever follows but a further semicolon. -/
theorem ofImport?_append {ls : List Lexeme} {following : List Token} {named : Option (ℕ × ℕ)}
    (h : ItemSpan.ofImport? (ls.map (·.token) ++ following) = some ⟨ls.length, named⟩) :
    (∃ front t, ls.map (·.token) = front ++ [t] ∧ t.isMark ';') ∧
      following.head?.any (Token.isMark ';') = false ∧
        ∀ other, other.head?.any (Token.isMark ';') = false →
          ItemSpan.ofImport? (ls.map (·.token) ++ other) = some ⟨ls.length, named⟩ := by
  have := @ItemSpan.ofImport?_append following (ls.map (·.token)) named (by rw [h, List.length_map])
  rwa [List.length_map] at this

/-- No import begins with white space. -/
theorem IsRead.solid (hi : i.IsRead) : Scan.Solid i.text := by
  obtain @⟨first, further, lead, size, after, following, hfirst, hreads, himport⟩ := hi
  obtain ⟨⟨front, t, htokens, ht⟩, -⟩ := ofImport?_append himport
  have hpieces := Lexeme.reads_append (.inl rfl) htokens ht hreads []
  rw [List.append_nil, ← List.append_nil ((first :: further).flatMap Lexeme.pieces)] at hpieces
  exact hfirst.solid hpieces

end Import

/-! ### Imports one behind the other -/

/-- The text of an import with the text before it. -/
def Import.afterGap (item : List Char × Import) : List Char :=
  item.1 ++ item.2.text

/-- The imports that lexemes with these extents begin with, each with the text between it and the
one before, and the lexemes after them. -/
def leadingImports : List ItemSpan → List Lexeme → List (List Char × Import) × List Lexeme
  | [], lexemes => ([], lexemes)
  | span :: spans, lexemes =>
    match span.named with
    | none => ([], lexemes)
    | some (lead, size) =>
      let (gap, own) := separate (lexemes.take span.size)
      let (rest, after) := leadingImports spans (lexemes.drop span.size)
      ((gap, Import.ofLexemes lead size own) :: rest, after)

/-- Lexemes begin with imports, each with the text between it and the one before, and with these
lexemes left behind them. -/
inductive Begins : List Lexeme → List (List Char × Import) → List Lexeme → Prop
  | nil (ls : List Lexeme) : Begins ls [] ls
  | cons {gap : List Trivia} {first : Lexeme} {further ls rest : List Lexeme} {lead size : ℕ}
      {items : List (List Char × Import)} :
      attached gap.reverse = 0 → first.IsTrimmed →
      ItemSpan.ofImport? ((first :: further).map (·.token) ++ ls.map (·.token)) =
        some ⟨further.length + 1, some (lead, size)⟩ →
      Begins ls items rest →
      Begins (first.behind gap :: further ++ ls)
        ((gap.flatMap Trivia.text, Import.ofLexemes lead size (first :: further)) :: items) rest

/-- Extents do not begin with that of an import. -/
def ItemSpan.NoImport (spans : List ItemSpan) : Prop :=
  ∀ span ∈ spans.head?, span.named = none

/-- Lexemes whose first item is no import begin with no import. -/
theorem leadingImports_of_noImport {spans : List ItemSpan} (h : ItemSpan.NoImport spans)
    (ls : List Lexeme) : leadingImports spans ls = ([], ls) := by
  cases spans with
  | nil => rfl
  | cons span spans =>
    have hnamed : span.named = none := h span rfl
    rw [leadingImports]
    simp [hnamed]

namespace Begins

variable {ls rest : List Lexeme} {items : List (List Char × Import)} {cs left : List Char}
  {ps : List Piece}

/-- Nothing is lost where imports are taken off lexemes. -/
theorem text (h : Begins ls items rest) :
    items.flatMap Import.afterGap ++ rest.flatMap Lexeme.whole = ls.flatMap Lexeme.whole := by
  induction h with
  | nil => rfl
  | cons _ _ _ _ ih =>
    rw [List.flatMap_append, Lexeme.flatMap_whole_behind, ← ih]
    simp [Import.afterGap, Import.ofLexemes]

/-- Each import is read. -/
theorem isRead (h : Begins ls items rest)
    (hreads : Reads cs (ls.flatMap Lexeme.pieces ++ ps) left) : ∀ item ∈ items, item.2.IsRead := by
  induction h generalizing cs with
  | nil => simp
  | @cons gap first further ls rest lead size items _ hfirst himport _ ih =>
    rw [List.flatMap_append, Lexeme.flatMap_pieces_behind, List.append_assoc,
      List.append_assoc] at hreads
    obtain ⟨start, -, hreads⟩ := Reads.append_iff.mp hreads
    obtain ⟨mid, hown, hrest⟩ := Reads.append_iff.mp hreads
    obtain rfl := Lexeme.text_of_reads hown
    exact List.forall_mem_cons.mpr ⟨.intro hfirst hown himport, ih hrest⟩

/-- What stands behind the imports is read by itself. -/
theorem reads_rest (h : Begins ls items rest)
    (hreads : Reads cs (ls.flatMap Lexeme.pieces ++ ps) left) :
    ∃ mid, Reads mid (rest.flatMap Lexeme.pieces ++ ps) left := by
  induction h generalizing cs with
  | nil => exact ⟨cs, hreads⟩
  | cons _ _ _ _ ih =>
    rw [List.flatMap_append, List.append_assoc] at hreads
    obtain ⟨mid, -, hreads⟩ := Reads.append_iff.mp hreads
    exact ih hreads

/-- Behind an import stands no semicolon. -/
theorem head?_rest (h : Begins ls items rest) (hitems : items ≠ []) :
    (rest.map (·.token)).head?.any (Token.isMark ';') = false := by
  induction h with
  | nil => exact absurd rfl hitems
  | cons _ _ himport hbegins ih =>
    cases hbegins with
    | nil => exact (Import.ofImport?_append himport).2.1
    | cons => exact ih (List.cons_ne_nil _ _)

/-- Lexemes that begin with imports do not begin with a semicolon, if the others do not. -/
theorem head? (h : Begins ls items rest)
    (hrest : (rest.map (·.token)).head?.any (Token.isMark ';') = false) :
    (ls.map (·.token)).head?.any (Token.isMark ';') = false := by
  cases h with
  | nil => exact hrest
  | cons _ _ himport _ => simpa using (ItemSpan.starts_of_ofImport? himport).1

/-- An import does not begin like an inner attribute. -/
theorem startsInner (h : Begins ls items rest) (hitems : items ≠ []) :
    startsInner (ls.map (·.token)) = false := by
  cases h with
  | nil => exact absurd rfl hitems
  | cons _ _ himport _ => simpa using (ItemSpan.starts_of_ofImport? himport).2

end Begins

/-- The leading imports of lexemes that are items up to the end. -/
theorem begins_leadingImports {n : ℕ} {spans : List ItemSpan} {ls : List Lexeme}
    (h : ItemSpan.all? n (ls.map (·.token)) = some spans) :
    Begins ls (leadingImports spans ls).1 (leadingImports spans ls).2 ∧
      ∃ m spans', m + (leadingImports spans ls).1.length = n ∧ ItemSpan.NoImport spans' ∧
        ItemSpan.all? m ((leadingImports spans ls).2.map (·.token)) = some spans' := by
  fun_induction leadingImports spans ls generalizing n with
  | case1 ls => exact ⟨.nil ls, n, [], rfl, by simp [ItemSpan.NoImport], h⟩
  | case2 span spans ls hnamed =>
    exact ⟨.nil ls, n, span :: spans, rfl, by simp [ItemSpan.NoImport, hnamed], h⟩
  | case3 span spans ls lead size hnamed gap own hown further after hfurther ih =>
    obtain ⟨-, hspan, m, rfl, hspans⟩ := ItemSpan.all?_eq_cons_iff.mp h
    replace hspan := (ItemSpan.ofItem?_eq_some_iff_of_named (by simp [hnamed])).mp hspan
    obtain ⟨hpos, hle⟩ := ItemSpan.size_bounds hspan
    rw [List.length_map] at hle
    obtain ⟨first, more, hfirst⟩ : ∃ first more, ls.take span.size = first :: more :=
      List.exists_cons_of_length_pos (by rw [List.length_take]; omega)
    -- what does not belong to the first import is the text before it
    obtain ⟨detached, hdetached, heq⟩ := first.exists_eq_behind
    rw [hfirst, heq, Lexeme.separate_behind hdetached first.isTrimmed_trimmed] at hown
    obtain ⟨rfl, rfl⟩ := Prod.mk.inj hown
    have hls : first.trimmed.behind detached :: more ++ ls.drop span.size = ls := by
      rw [← heq, ← hfirst, List.take_append_drop]
    have hsize : span.size = more.length + 1 := by
      have := congrArg List.length hfirst
      rw [List.length_take, List.length_cons] at this
      omega
    rw [← List.map_drop] at hspans
    have himport : ItemSpan.ofImport? ((first.trimmed :: more).map (·.token) ++
        (ls.drop span.size).map (·.token)) = some ⟨more.length + 1, some (lead, size)⟩ := by
      have htokens := congrArg (List.map (·.token)) hls
      rw [← hsize, ← hnamed, ← hspan, ← htokens]
      simp
    obtain ⟨hbegins, k, spans', hk, hspans'⟩ := ih hspans
    rw [hfurther] at hbegins hk hspans'
    have hcons := Begins.cons hdetached first.isTrimmed_trimmed himport hbegins
    rw [hls] at hcons
    exact ⟨hcons, k, spans', by rw [← hk]; rfl, hspans'⟩

/-- Lexemes that begin with imports and go on with further items are items up to the end. -/
theorem Begins.exists_leadingImports {n : ℕ} {ls rest : List Lexeme}
    {items : List (List Char × Import)} {spans : List ItemSpan} (h : Begins ls items rest)
    (hspans : ItemSpan.all? n (rest.map (·.token)) = some spans) (hno : ItemSpan.NoImport spans) :
    ∃ all, ItemSpan.all? (n + items.length) (ls.map (·.token)) = some all ∧
      leadingImports all ls = (items, rest) := by
  induction h with
  | nil ls => exact ⟨spans, hspans, leadingImports_of_noImport hno ls⟩
  | @cons gap first further ls rest lead size items hgap hfirst himport _ ih =>
    obtain ⟨all, hall, hleading⟩ := ih hspans
    refine ⟨⟨further.length + 1, some (lead, size)⟩ :: all, ?_, ?_⟩
    · refine ItemSpan.all?_eq_cons_iff.mpr ⟨by simp, ?_, n + items.length, rfl, ?_⟩
      · rw [ItemSpan.ofItem?_eq_some_iff_of_named (by simp), ← himport]
        simp
      · rw [← hall, ← List.map_drop]
        simp
    · have htake : (first.behind gap :: further ++ ls).take (further.length + 1) =
          first.behind gap :: further :=
        List.take_left' (List.length_cons)
      have hdrop : (first.behind gap :: further ++ ls).drop (further.length + 1) = ls :=
        List.drop_left' (List.length_cons)
      rw [leadingImports]
      simp only [htake, hdrop, hleading, Lexeme.separate_behind hgap hfirst]

/-! ### What a source is divided into -/

/-- A text is divided into what stands before its items, items of which the first are these
imports and the others these, and what stands behind them. -/
structure Divided (body : List Char) (start ls rest : List Lexeme)
    (items : List (List Char × Import)) (after : List Trivia) : Prop where
  reads : Reads body (start.flatMap Lexeme.pieces ++
    (ls.flatMap Lexeme.pieces ++ after.map Piece.trivia)) []
  lead : (innerAttributes budget).run (start.map (·.token) ++ ls.map (·.token)) =
    some ((), ls.map (·.token))
  begins : Begins ls items rest
  further : ∃ n spans, n + items.length = budget ∧ ItemSpan.NoImport spans ∧
    ItemSpan.all? n (rest.map (·.token)) = some spans

namespace Divided

variable {body : List Char} {start ls rest : List Lexeme} {items : List (List Char × Import)}
  {after : List Trivia}

/-- The parts of a text make it up. -/
theorem text (h : Divided body start ls rest items after) :
    start.flatMap Lexeme.whole ++ (items.flatMap Import.afterGap ++
      (rest.flatMap Lexeme.whole ++ after.flatMap Trivia.text)) = body := by
  have htext := h.reads.text_append
  rw [List.flatMap_append, List.flatMap_append, Lexeme.flatMap_text_pieces,
    Lexeme.flatMap_text_pieces, Lexeme.flatMap_text_trivia, List.append_nil] at htext
  rw [← htext, ← h.begins.text, List.append_assoc]

end Divided

/-- The imports that a source begins with, and the text around them. -/
structure ImportRun where
  /-- The text before the first import. -/
  start : List Char
  /-- The imports, each with the text between it and the one before. -/
  items : List (List Char × Import)
  /-- The text after the last import. -/
  tail : List Char

namespace ImportRun

/-- Imports between texts. What stands before the first belongs to the text before it. -/
def ofItems (start : List Char) (items : List (List Char × Import)) (tail : List Char) :
    ImportRun :=
  match items with
  | [] => ⟨start, [], tail⟩
  | (gap, first) :: further => ⟨start ++ gap, ([], first) :: further, tail⟩

/-- The imports that a source begins with; `none` if it is not well-formed. -/
def read? (source : List Char) : Option ImportRun := do
  let pieces ← pieces? source
  let (lexemes, after) := Lexeme.gather [] pieces
  let (lead, spans) ← ItemSpan.ofTokens? (lexemes.map (·.token))
  let start := source.take (interpreterLine source) ++ (lexemes.take lead).flatMap Lexeme.whole
  let (items, rest) := leadingImports spans (lexemes.drop lead)
  return ofItems start items (rest.flatMap Lexeme.whole ++ after.flatMap Trivia.text)

/-- The imports by themselves. -/
def imports (run : ImportRun) : List Import :=
  run.items.map (·.2)

/-- The text from the first import to the last. -/
def block (run : ImportRun) : List Char :=
  run.items.flatMap Import.afterGap

variable {source start tail : List Char} {items : List (List Char × Import)} {run : ImportRun}

/-- The text that imports are read from. -/
def text (run : ImportRun) : List Char :=
  run.start ++ run.block ++ run.tail

/-- The text of a run is made up of its parts. -/
theorem text_ofItems :
    (ofItems start items tail).text = start ++ (items.flatMap Import.afterGap ++ tail) := by
  cases items <;> simp [ofItems, text, block, Import.afterGap]

/-- The first import of a run has no text before it, as this belongs to what stands before the run.
-/
theorem mem_items_ofItems {item : List Char × Import} (h : item ∈ (ofItems start items tail).items) :
    item.1 = [] ∧ (∃ gap, (gap, item.2) ∈ items) ∨ item ∈ items := by
  cases items with
  | nil => cases h
  | cons first further =>
    obtain rfl | h := List.mem_cons.mp h
    · exact .inl ⟨rfl, first.1, List.mem_cons_self⟩
    · exact .inr (List.mem_cons_of_mem _ h)

/-- **What is read of a source** is what it is divided into. -/
theorem read?_eq_some_iff : read? source = some run ↔
    ∃ start ls rest items after,
      Divided (source.drop (interpreterLine source)) start ls rest items after ∧
      run = ofItems (source.take (interpreterLine source) ++ start.flatMap Lexeme.whole) items
        (rest.flatMap Lexeme.whole ++ after.flatMap Trivia.text) := by
  constructor
  · intro h
    obtain ⟨pieces, hpieces, h⟩ := Option.bind_eq_some_iff.mp h
    obtain ⟨⟨lead, spans⟩, hspans, h⟩ := Option.bind_eq_some_iff.mp h
    obtain ⟨hlead, hall⟩ := ItemSpan.of_ofTokens? hspans
    replace hpieces := (Reads.pieces?_eq_some_iff le_rfl).mp hpieces
    generalize hgather : Lexeme.gather [] pieces = gathered at hlead hall h
    obtain ⟨lexemes, after⟩ := gathered
    have hreads := Lexeme.flatMap_pieces_of_gather hgather
    rw [← List.map_drop] at hlead hall
    obtain ⟨hbegins, n, spans', hn, hno, hspans'⟩ := begins_leadingImports hall
    refine ⟨lexemes.take lead, lexemes.drop lead, _, _, after, ?_, (Option.some.inj h).symm⟩
    constructor
    case reads =>
      rwa [← List.append_assoc, ← List.flatMap_append, List.take_append_drop, hreads]
    case lead => rwa [← List.map_append, List.take_append_drop]
    case begins => exact hbegins
    case further => exact ⟨n, spans', hn, hno, hspans'⟩
  · rintro ⟨start, ls, rest, items, after, hdivided, rfl⟩
    obtain ⟨n, spans, hn, hno, hspans⟩ := hdivided.further
    obtain ⟨all, hall, hleading⟩ := hdivided.begins.exists_leadingImports hspans hno
    have hpieces : pieces? source = some _ :=
      (Reads.pieces?_eq_some_iff le_rfl).mpr hdivided.reads
    have hgather : Lexeme.gather [] (start.flatMap Lexeme.pieces ++
        (ls.flatMap Lexeme.pieces ++ after.map Piece.trivia)) = (start ++ ls, after) := by
      rw [← List.append_assoc, ← List.flatMap_append, Lexeme.gather_flatMap_pieces]
    have hitems : ItemSpan.ofTokens? ((start ++ ls).map (·.token)) = some (start.length, all) := by
      refine ItemSpan.ofTokens?_eq_some_iff.mpr ⟨ls.map (·.token), ?_, by simp, hn ▸ hall⟩
      rw [List.map_append, hdivided.lead]
    rw [read?, hpieces, Option.bind_eq_bind, Option.bind_some, hgather]
    dsimp only
    rw [hitems, Option.bind_eq_bind, Option.bind_some, List.take_left, List.drop_left, hleading]
    rfl

/-- **What is read of a source is the source.** -/
theorem text_of_read? (h : read? source = some run) : run.text = source := by
  obtain ⟨start, ls, rest, items, after, hdivided, rfl⟩ := read?_eq_some_iff.mp h
  rw [text_ofItems, List.append_assoc, hdivided.text, List.take_append_drop]

/-- **Each import of a source is read** where it stands. -/
theorem isRead_of_read? (h : read? source = some run) : ∀ i ∈ run.imports, i.IsRead := by
  obtain ⟨start, ls, rest, items, after, hdivided, rfl⟩ := read?_eq_some_iff.mp h
  obtain ⟨mid, -, hreads⟩ := Reads.append_iff.mp hdivided.reads
  have hitems := hdivided.begins.isRead hreads
  refine List.forall_mem_map.mpr fun item hitem => ?_
  obtain ⟨-, gap, hfirst⟩ | hmem := mem_items_ofItems hitem
  · exact hitems (gap, item.2) hfirst
  · exact hitems item hmem

end ImportRun

end ServiceGen.Source
