import ServiceGen.Proofs.ImportRuns
import ServiceGen.Proofs.Words

/-!
# Imports Read Again

The imports of a source can be put in another order, and some of them left out: with a line break
between any two, they are read again as what they are (`ImportRun.read?_withImports`). Each of them
is read and recognized where it stands now (`exists_begins`), and what stands before the first one
may stand before any other (`IsGap`).

The exception is a source with a line that names an interpreter. What it begins with may be such a
line or an attribute, and a comment that is open at the end of the line decides it by what follows.
A source without such a line gets none (`Divided.interpreterLine_eq_zero`).
-/

namespace ServiceGen.Source

/-! ### Text between imports -/

/-- White space and comments that may stand before any import and do not belong to it. -/
structure IsGap (gap : List Trivia) : Prop where
  detached : attached gap.reverse = 0
  reads : ∀ cs, Scan.Solid cs →
    Reads (gap.flatMap Trivia.text ++ cs) (gap.map Piece.trivia) cs

/-- A line break. -/
def lineBreak : List Trivia :=
  [.blank ['\n']]

/-- A line break is a gap. -/
theorem isGap_lineBreak : IsGap lineBreak where
  detached := by decide
  reads := by
    rintro _ ⟨c, cs, rfl, hc⟩
    have hspace : Scan.isSpace '\n' = true := by decide
    refine .cons (Scan.piece?_eq_trivia_iff.mpr ?_) (List.cons_ne_nil _ _) (.nil _)
    refine Scan.trivia?_eq_some_iff.mpr (.inr (.inr ⟨'\n', c :: cs, rfl, hspace, ?_⟩))
    simp [lineBreak, Trivia.text, hspace, hc]

namespace Begins

variable {ls rest : List Lexeme} {items : List (List Char × Import)}

/-- The text before the first import may stand before any other one. -/
theorem exists_isGap {gap : List Char} {i : Import} {cs left : List Char} {ps : List Piece}
    (h : Begins ls ((gap, i) :: items) rest)
    (hreads : Reads cs (ls.flatMap Lexeme.pieces ++ ps) left) :
    ∃ ts, gap = ts.flatMap Trivia.text ∧ IsGap ts := by
  cases h with
  | @cons ts first further ls _ lead size _ hdetached hfirst himport hbegins =>
    rw [List.flatMap_append, Lexeme.flatMap_pieces_behind, List.append_assoc,
      List.append_assoc] at hreads
    obtain ⟨mid, hgap, hown⟩ := Reads.append_iff.mp hreads
    obtain rfl := Lexeme.text_of_reads_trivia hgap
    exact ⟨ts, rfl, hdetached, fun cs hcs => hgap.trivia (hfirst.solid hown) hcs⟩

end Begins

/-- Imports with what stands before them. -/
def afterGaps (items : List (List Trivia × Import)) : List (List Char × Import) :=
  items.map fun item => (item.1.flatMap Trivia.text, item.2)

/-- **Imports that have been read are read again** behind any text that may stand before them. -/
theorem exists_begins {items : List (List Trivia × Import)} {rest : List Lexeme}
    {tail left : List Char} {ps : List Piece}
    (hitems : ∀ item ∈ items, IsGap item.1 ∧ item.2.IsRead)
    (hrest : (rest.map (·.token)).head?.any (Token.isMark ';') = false)
    (htail : Reads tail (rest.flatMap Lexeme.pieces ++ ps) left) :
    ∃ ls, Begins ls (afterGaps items) rest ∧
      Reads ((afterGaps items).flatMap Import.afterGap ++ tail) (ls.flatMap Lexeme.pieces ++ ps)
        left := by
  induction items with
  | nil => exact ⟨rest, .nil rest, htail⟩
  | cons item items ih =>
    obtain ⟨gap, i⟩ := item
    obtain ⟨⟨hgap, hi⟩, hitems⟩ := List.forall_mem_cons.mp hitems
    obtain ⟨ls, hls, hreads⟩ := ih hitems
    have hsolid := hi.solid
    obtain @⟨first, further, lead, size, after, following, hfirst, hown, himport⟩ := hi
    obtain ⟨⟨front, t, htokens, ht⟩, -, himport'⟩ := Import.ofImport?_append himport
    refine ⟨first.behind gap :: further ++ ls,
      .cons hgap.detached hfirst (himport' _ (hls.head? hrest)) hls, ?_⟩
    rw [List.flatMap_append, Lexeme.flatMap_pieces_behind, List.append_assoc, List.append_assoc]
    refine Reads.append_iff.mpr ⟨_, ?_, Reads.append_iff.mpr
      ⟨_, Lexeme.reads_append (.inl rfl) htokens ht hown _, hreads⟩⟩
    have hgap := hgap.reads _ (hsolid.append ((afterGaps items).flatMap Import.afterGap ++ tail))
    simpa [afterGaps, Import.afterGap, Import.ofLexemes] using hgap

/-! ### The line that names an interpreter -/

/-- Behind what is no code the first token is read. -/
theorem piece?_skipTrivia {cs text left : List Char} {ts : List Trivia} {t : Token}
    {ps : List Piece} {fuel : ℕ}
    (h : Reads cs (ts.map Piece.trivia ++ .token t text :: ps) left) (hfuel : ts.length ≤ fuel) :
    Scan.piece? (Scan.skipTrivia fuel cs) = some (.token t text) := by
  induction ts generalizing cs fuel with
  | nil =>
    cases h with | cons hpiece _ _ =>
    obtain ⟨trivia, htrivia, htoken⟩ := Option.bind_eq_some_iff.mp hpiece
    cases trivia with
    | some trivia => cases htoken
    | none => cases fuel <;> simpa [Scan.skipTrivia, htrivia] using hpiece
  | cons u ts ih =>
    cases h with | cons hpiece _ h =>
    obtain ⟨fuel, rfl⟩ := Nat.exists_eq_succ_of_ne_zero (n := fuel) (by simp at hfuel; omega)
    rw [Scan.skipTrivia, Scan.piece?_eq_trivia_iff.mp hpiece]
    exact ih h (Nat.le_of_succ_le_succ hfuel)

/-- The marks that a line for an interpreter begins with are tokens. -/
theorem exists_marks_of_reads {cs : List Char} {ls : List Lexeme} {after : List Trivia}
    (h : Reads ('#' :: '!' :: cs) (ls.flatMap Lexeme.pieces ++ after.map Piece.trivia) []) :
    ∃ l l' more, ls = l :: l' :: more ∧ l.token.isMark '#' ∧ l'.token.isMark '!' ∧
      Reads cs (more.flatMap Lexeme.pieces ++ after.map Piece.trivia) [] := by
  have hgather := Lexeme.gather_flatMap_pieces ls after
  generalize ls.flatMap Lexeme.pieces ++ after.map Piece.trivia = ps at h hgather
  have hfirst : Scan.piece? ('#' :: '!' :: cs) = some (.token (.mark '#' false) ['#']) := rfl
  obtain ⟨joined, hsecond⟩ :
      ∃ joined, Scan.piece? ('!' :: cs) = some (.token (.mark '!' joined) ['!']) := ⟨_, rfl⟩
  cases h with | cons hp _ h =>
  obtain rfl := Option.some.inj (hfirst.symm.trans hp)
  cases h with | @cons _ _ ps _ hp _ h =>
  obtain rfl := Option.some.inj (hsecond.symm.trans hp)
  obtain ⟨rfl, rfl⟩ := Prod.mk.inj hgather
  refine ⟨_, _, _, rfl, rfl, rfl, ?_⟩
  rw [@Lexeme.flatMap_pieces_of_gather [] _ ps _ rfl]
  exact h

/-- A text with well-formed items has no line that names an interpreter. -/
theorem Divided.interpreterLine_eq_zero {body : List Char} {start ls rest : List Lexeme}
    {items : List (List Char × Import)} {after : List Trivia}
    (h : Divided body start ls rest items after) : interpreterLine body = 0 := by
  unfold interpreterLine
  split
  case h_2 => rfl
  case h_1 cs =>
    have hreads := h.reads
    have hlead := h.lead
    rw [← List.append_assoc, ← List.flatMap_append] at hreads
    rw [← List.map_append] at hlead
    obtain ⟨l, l', more, hls, hl, hl', hmore⟩ := exists_marks_of_reads hreads
    rw [hls] at hlead
    -- behind the marks stands the bracket of an attribute
    obtain ⟨bracket, tokens, htokens, hbracket⟩ := exists_bracket_of_innerAttributes hl hl' hlead
    obtain ⟨opening, inner, rfl, rfl, -⟩ := List.map_eq_cons_iff.mp htokens
    obtain ⟨joined, hmark⟩ := Token.isMark_iff.mp hbracket
    rw [List.flatMap_cons, Lexeme.pieces, List.append_assoc, List.append_assoc] at hmore
    have hcount : opening.before.length ≤ cs.length := by
      have hle := hmore.length_le
      simp only [List.length_append, List.length_map] at hle
      omega
    have hnext := piece?_skipTrivia hmore hcount
    rw [hmark] at hnext
    rw [Scan.head?_of_piece?_eq_mark hnext]
    rfl

/-! ### Imports in another order -/

/-- Imports with a line break between any two, and some text before the first. -/
def spaced (gap : List Char) : List Import → List (List Char × Import)
  | [] => []
  | first :: further => (gap, first) :: further.map (['\n'], ·)

/-- The imports with a line break between any two are the imports. -/
@[simp]
theorem map_snd_spaced (gap : List Char) (l : List Import) : (spaced gap l).map (·.2) = l := by
  cases l <;> simp [spaced, Function.comp_def]

/-- Imports with a line break between any two make up their texts joined by it. -/
theorem flatMap_afterGap_spaced (l : List Import) :
    (spaced [] l).flatMap Import.afterGap = Text.join ['\n'] (l.map (·.text)) := by
  cases l with
  | nil => rfl
  | cons first further =>
    simp only [spaced, List.flatMap_cons, Import.afterGap, List.nil_append, List.flatMap_map]
    induction further generalizing first with
    | nil => simp [Text.join]
    | cons next further ih =>
      rw [List.flatMap_cons, List.append_assoc ['\n'], ih next, List.map_cons, List.map_cons,
        List.map_cons, Text.join_cons_cons]
      simp

/-- Between imports with a line break between any two there is nothing but white space. -/
theorem isBlankText_of_mem_spaced {l : List Import} {item : List Char × Import}
    (h : item ∈ spaced [] l) : Text.isBlankText item.1 = true := by
  cases l with
  | nil => cases h
  | cons first further =>
    obtain rfl | h := List.mem_cons.mp h
    · rfl
    · obtain ⟨i, -, rfl⟩ := List.mem_map.mp h
      rfl

namespace Divided

variable {body gap : List Char} {start ls rest : List Lexeme} {after : List Trivia}

/-- What stands before the items of a text is read the same whatever follows. -/
theorem reads_start {items : List (List Char × Import)}
    (h : Divided body start ls rest items after) (other : List Char) :
    Reads (start.flatMap Lexeme.whole ++ other) (start.flatMap Lexeme.pieces) other := by
  obtain ⟨mid, hstart, -⟩ := Reads.append_iff.mp h.reads
  obtain ⟨hnil | ⟨front, t, htokens, ht⟩, -⟩ := innerAttributes_append h.lead
  · obtain rfl := List.map_eq_nil_iff.mp hnil
    exact .nil other
  · obtain rfl := Lexeme.text_of_reads hstart
    exact Lexeme.reads_append (.inr rfl) htokens ht hstart other

/-- **The imports of a text can be replaced** by no more of them that have been read. -/
theorem exists_spaced {i : Import} {items : List (List Char × Import)}
    (h : Divided body start ls rest ((gap, i) :: items) after) {l : List Import} (hl : l ≠ [])
    (hread : ∀ j ∈ l, j.IsRead) (hlength : l.length ≤ items.length + 1) :
    ∃ ls', Divided (start.flatMap Lexeme.whole ++ ((spaced gap l).flatMap Import.afterGap ++
      (rest.flatMap Lexeme.whole ++ after.flatMap Trivia.text))) start ls' rest (spaced gap l)
        after := by
  obtain ⟨first, further, rfl⟩ := List.exists_cons_of_ne_nil hl
  obtain ⟨hfirst, hfurther⟩ := List.forall_mem_cons.mp hread
  obtain ⟨mid, -, hreads⟩ := Reads.append_iff.mp h.reads
  obtain ⟨ts, rfl, hts⟩ := h.begins.exists_isGap hreads
  obtain ⟨tail, htail⟩ := h.begins.reads_rest hreads
  obtain rfl : rest.flatMap Lexeme.whole ++ after.flatMap Trivia.text = tail := by
    have htext := htail.text_append
    rwa [List.flatMap_append, Lexeme.flatMap_text_pieces, Lexeme.flatMap_text_trivia,
      List.append_nil] at htext
  have hgaps : spaced (ts.flatMap Trivia.text) (first :: further) =
      afterGaps ((ts, first) :: further.map (lineBreak, ·)) := by
    simp [spaced, afterGaps, lineBreak, Trivia.text]
  have hitems : ∀ item ∈ (ts, first) :: further.map (lineBreak, ·),
      IsGap item.1 ∧ item.2.IsRead :=
    List.forall_mem_cons.mpr ⟨⟨hts, hfirst⟩,
      List.forall_mem_map.mpr fun j hj => ⟨isGap_lineBreak, hfurther j hj⟩⟩
  obtain ⟨ls', hls', hreads'⟩ :=
    exists_begins hitems (h.begins.head?_rest (List.cons_ne_nil _ _)) htail
  rw [← hgaps] at hls' hreads'
  refine ⟨ls', ?_⟩
  constructor
  case reads => exact Reads.append_iff.mpr ⟨_, h.reads_start _, hreads'⟩
  case lead => exact (innerAttributes_append h.lead).2 _ (hls'.startsInner (List.cons_ne_nil _ _))
  case begins => exact hls'
  case further =>
    obtain ⟨n, spans, hn, hno, hspans⟩ := h.further
    rw [List.length_cons] at hn hlength
    refine ⟨n + (items.length - further.length), spans, ?_, hno, ItemSpan.all?_of_le hspans ?_⟩
    · simp only [spaced, List.length_cons, List.length_map]
      omega
    · omega

end Divided

namespace ImportRun

variable {source : List Char} {run : ImportRun}

/-- The imports of a source replaced by others. -/
def withImports (run : ImportRun) (l : List Import) : ImportRun :=
  { run with items := spaced [] l }

/-- The imports of the source are then the others. -/
theorem imports_withImports (l : List Import) : (run.withImports l).imports = l :=
  map_snd_spaced [] l

/-- The imports of some items are replaced, and the gap before them is kept. -/
theorem withImports_ofItems {start gap tail : List Char} {i : Import}
    {items : List (List Char × Import)} {l : List Import} (hl : l ≠ []) :
    (ofItems start ((gap, i) :: items) tail).withImports l =
      ofItems start (spaced gap l) tail := by
  obtain ⟨first, further, rfl⟩ := List.exists_cons_of_ne_nil hl
  rfl

/-- **A source without a line that names an interpreter is read again** when its imports are
replaced by no more of them, in any order. -/
theorem read?_withImports (h : read? source = some run) (hline : interpreterLine source = 0)
    {l : List Import} (hl : ∀ j ∈ l, j ∈ run.imports) (hne : l ≠ [])
    (hlength : l.length ≤ run.items.length) :
    read? (run.withImports l).text = some (run.withImports l) := by
  have hread : ∀ j ∈ l, j.IsRead := fun j hj => isRead_of_read? h j (hl j hj)
  obtain ⟨start, ls, rest, items, after, hdivided, rfl⟩ := read?_eq_some_iff.mp h
  cases items with
  | nil => exact absurd (List.length_eq_zero_iff.mp (Nat.le_zero.mp hlength)) hne
  | cons item items =>
    obtain ⟨gap, i⟩ := item
    obtain ⟨ls', hdivided'⟩ := hdivided.exists_spaced hne hread hlength
    rw [withImports_ofItems hne, text_ofItems, hline, List.take_zero, List.nil_append]
    refine read?_eq_some_iff.mpr ⟨start, ls', rest, spaced gap l, after, ?_, ?_⟩
    · rwa [hdivided'.interpreterLine_eq_zero, List.drop_zero]
    · rw [hdivided'.interpreterLine_eq_zero, List.take_zero, List.nil_append]

end ImportRun

end ServiceGen.Source
