import ServiceGen.Proofs.Conservation
import ServiceGen.Proofs.IndexLines
import ServiceGen.Proofs.RereadImports

/-!
# Unrelated Code in the Old File

The old file of helpers is cleared if it has nothing of its own, and this is told from its lines: it
has not if each line is blank or looks like a comment, an attribute of the file or an import. The
items of a source (`Source.items?`) do not care for lines. So an item that stands behind an import
or behind an attribute of the file, on the same line, is cleared away with it
(`not_forall_runIn_normalizeLegacy`).

An item that begins its line is seen, on the other hand, whatever stands around it: the first token
of an item that is no import makes its line one of the others (`isPreamble_eq_false_of_beginsLine`).
`runIn_normalizeLegacy_iff` puts this together.
-/

namespace ServiceGen

open Stateful (runIn)

/-! ### First characters of tokens -/

namespace Text.Letter

/-- White space never begins an identifier. -/
theorem isIdentifierStart_eq_false_of_isBlank {c : Char} (h : isBlank c = true) :
    isIdentifierStart c = false := by
  have hword := isWord_eq_false_of_isBlank h
  by_cases ha : isAscii c = true
  · rw [isWord_of_isAscii ha, Char.isAlphanum, Bool.or_eq_false_iff] at hword
    rw [isIdentifierStart, if_pos ha, hword.1]
  · simp only [isBlank, isWord, ha] at h hword
    have hjoining : inRanges joiningRanges c = false :=
      inRanges_eq_false_of_apart (by decide +kernel) h
    simp_all [isIdentifierStart, isIdentifierContinue]

end Text.Letter

namespace Source

variable {tokens : List Token} {cs : List Char} {c : Char}

namespace Scan

/-- A digit is no blank. -/
theorem isBlank_eq_false_of_isDigit (h : c.isDigit = true) :
    Text.Letter.isBlank c = false := by
  by_contra hblank
  have halphanum : c.isAlphanum = true := by rw [Char.isAlphanum, h, Bool.or_true]
  have hword := Text.Letter.isWord_eq_false_of_isBlank (Bool.of_not_eq_false hblank)
  rw [Text.Letter.isWord_of_isAscii (Text.Letter.isAscii_of_isAlphanum halphanum),
    halphanum] at hword
  cases hword

/-- What starts a word is no blank. -/
theorem isBlank_eq_false_of_startsWord (h : startsWord c = true) :
    Text.Letter.isBlank c = false := by
  by_contra hblank
  rw [startsWord, Text.Letter.isIdentifierStart_eq_false_of_isBlank (Bool.of_not_eq_false hblank),
    Bool.or_false, beq_iff_eq] at h
  subst h
  exact hblank (by decide)

/-- The marks before quotes are no white space. -/
theorem isBlank_eq_false_of_mem_quotings {entry : List Char × Quoting} (h : entry ∈ quotings)
    (hlead : entry.1.isPrefixOf (c :: cs) = true) : Text.Letter.isBlank c = false := by
  have hfirst : ∀ entry ∈ quotings, entry.1.head?.any (!Text.Letter.isBlank ·) = true := by decide
  have hentry := hfirst entry h
  cases hmark : entry.1 with
  | nil =>
    rw [hmark] at hentry
    cases hentry
  | cons d more =>
    rw [hmark] at hentry hlead
    obtain ⟨rfl, -⟩ : d = c ∧ _ := by simpa [List.isPrefixOf] using hlead
    simpa using hentry

/-- A token does not begin with white space. -/
theorem isBlank_eq_false_of_piece? {t : Token} {text : List Char}
    (h : piece? (c :: cs) = some (.token t text)) (ht : t ≠ .stray) :
    Text.Letter.isBlank c = false := by
  obtain ⟨trivia, -, h⟩ := Option.bind_eq_some_iff.mp h
  cases trivia with
  | some trivia => cases h
  | none =>
    obtain ⟨⟨token, size⟩, htoken, h⟩ := Option.bind_eq_some_iff.mp h
    obtain ⟨rfl, -⟩ : token = t ∧ _ := by simpa using h
    unfold token? at htoken
    split at htoken
    case isTrue hraw =>
      obtain ⟨rfl, -⟩ : 'r' = c ∧ _ := by
        simpa [List.isPrefixOf, and_assoc] using (Bool.and_eq_true_iff.mp hraw).1
      decide
    split at htoken
    case h_1 lead quoting hfind =>
      have hlead : lead.isPrefixOf (c :: cs) = true := by simpa using List.find?_some hfind
      exact isBlank_eq_false_of_mem_quotings (List.mem_of_find?_eq_some hfind) hlead
    split at htoken
    case isTrue hquote =>
      obtain rfl : c = '\'' := by simpa using hquote
      decide
    change plainToken? c (c :: cs) = _ at htoken
    unfold plainToken? at htoken
    split_ifs at htoken with hdigit hword hmark
    · exact isBlank_eq_false_of_isDigit hdigit
    · exact isBlank_eq_false_of_startsWord hword
    · have hmarks : marks.all (!Text.Letter.isBlank ·) = true := by decide +kernel
      simpa using List.all_eq_true.mp hmarks c (List.contains_iff_mem.mp hmark)
    · simp_all

end Scan

/-! ### First tokens of items -/

namespace ItemSpan

/-- A stray character heads no import. -/
theorem run_importHead_stray : importHead.run (.stray :: tokens) = none := by
  rw [importHead]
  generalize budget = fuel
  cases fuel with
  | zero => rfl
  | succ fuel =>
    simp [run_attributes, Token.isMark, Recognizer.eatWord, Token.isWord, Recognizer.expectWord,
      Recognizer.require]

/-- The word `use` heads an import. -/
theorem run_importHead_use : importHead.run (.word "use" :: tokens) = some ((), tokens) := by
  rw [importHead]
  have hbudget : budget = (budget - 1) + 1 := rfl
  rw [hbudget]
  simp [run_attributes, Token.isMark, Recognizer.eatWord, Token.isWord, Recognizer.expectWord,
    Recognizer.require]

/-- A stray character begins no declaration. -/
theorem run_declaration_stray (fuel : ℕ) :
    (declaration fuel .free).run (.stray :: tokens) = none := by
  match fuel with
  | 0 => rfl
  | 1 => rfl
  | fuel + 2 =>
    simp [declaration, run_attributes, Token.isMark, startsItem, within, Token.isStop, startsPath,
      Token.isName, Token.isOneOf, colons, beginsWith, Recognizer.require]

/-- An item does not begin with an attribute of what it stands in, and begins with a token of the
language. -/
theorem starts_of_ofItem? {span : ItemSpan} (h : ofItem? tokens = some span) :
    startsInner tokens = false ∧ tokens.head? ≠ some .stray := by
  unfold ofItem? at h
  cases himport : ofImport? tokens with
  | some other =>
    obtain ⟨named, t, rest, hhead, -⟩ := ofImport?_eq_some_iff.mp himport
    refine ⟨(startsInner_eq_false_of_importHead hhead).2, fun hstray => ?_⟩
    obtain ⟨further, rfl⟩ := List.head?_eq_some_iff.mp hstray
    rw [run_importHead_stray] at hhead
    cases hhead
  | none =>
    rw [himport] at h
    obtain ⟨⟨_, rest⟩, hdeclaration, -⟩ := Option.bind_eq_some_iff.mp h
    generalize budget = fuel at hdeclaration
    refine ⟨?_, fun hstray => ?_⟩
    · cases fuel with
      | zero => cases hdeclaration
      | succ fuel =>
        rw [declaration] at hdeclaration
        obtain ⟨_, hattributes, -⟩ := Option.bind_eq_some_iff.mp hdeclaration
        exact startsInner_eq_false_of_attributes hattributes
    · obtain ⟨further, rfl⟩ := List.head?_eq_some_iff.mp hstray
      rw [run_declaration_stray] at hdeclaration
      cases hdeclaration

end ItemSpan

/-! ### Items of a source -/

/-- An item as it stands in a source. -/
structure Item where
  /-- The text before its first token. -/
  before : List Char
  /-- The tokens from its first one on. -/
  tokens : List Token

namespace Item

/-- Whether an item is an import: `use` stands behind its attributes and its visibility. -/
def isImport (i : Item) : Bool :=
  (ItemSpan.importHead.run i.tokens).isSome

/-- Whether there is only white space before an item on its line. -/
def beginsLine (i : Item) : Bool :=
  Text.isBlankText (i.before.reverse.takeWhile (· != '\n'))

end Item

/-- The items of these extents, one behind the other and behind some text. -/
def itemsBehind : List Char → List ItemSpan → List Lexeme → List Item
  | before, span :: spans, first :: further =>
    { before := before ++ first.before.flatMap Trivia.text
      tokens := (first :: further).map (·.token) } ::
      itemsBehind (before ++ ((first :: further).take span.size).flatMap Lexeme.whole) spans
        ((first :: further).drop span.size)
  | _, _, _ => []

/-- The items of a source; `none` if it is not well-formed. -/
def items? (source : List Char) : Option (List Item) := do
  let pieces ← pieces? source
  let (lexemes, _) := Lexeme.gather [] pieces
  let (lead, spans) ← ItemSpan.ofTokens? (lexemes.map (·.token))
  return itemsBehind
    (source.take (interpreterLine source) ++ (lexemes.take lead).flatMap Lexeme.whole) spans
    (lexemes.drop lead)

/-- What is left of a text where an item begins: tokens with an item in front. -/
structure Left (i : Item) (rest : List Char) (first : Lexeme) (further : List Lexeme)
    (after : List Trivia) : Prop where
  reads : Reads rest ((first :: further).flatMap Lexeme.pieces ++ after.map Piece.trivia) []
  before : first.before = []
  tokens : i.tokens = (first :: further).map (·.token)
  item : ∃ span, ItemSpan.ofItem? i.tokens = some span

/-- Each item that is read leaves code behind it, and what trails it. -/
theorem exists_left_of_mem_itemsBehind {n : ℕ} {before body : List Char} {spans : List ItemSpan}
    {ls : List Lexeme} {after : List Trivia} {i : Item}
    (hreads : Reads body (ls.flatMap Lexeme.pieces ++ after.map Piece.trivia) [])
    (hall : ItemSpan.all? n (ls.map (·.token)) = some spans)
    (hi : i ∈ itemsBehind before spans ls) :
    ∃ rest first further, before ++ body = i.before ++ rest ∧ Left i rest first further after := by
  fun_induction itemsBehind before spans ls generalizing n body with
  | case1 before span spans first further ih =>
    obtain ⟨-, hspan, m, rfl, hspans⟩ := ItemSpan.all?_eq_cons_iff.mp hall
    rcases List.mem_cons.mp hi with rfl | hi
    · rw [List.flatMap_cons, Lexeme.pieces, List.append_assoc, List.append_assoc] at hreads
      obtain ⟨rest, hgap, hreads⟩ := Reads.append_iff.mp hreads
      refine ⟨rest, { first with before := [] }, further, ?_, ?_, rfl, rfl, span, hspan⟩
      · rw [Lexeme.text_of_reads_trivia hgap, List.append_assoc]
      · rw [List.flatMap_cons, Lexeme.pieces, List.append_assoc]
        exact hreads
    · rw [← List.take_append_drop span.size (first :: further), List.flatMap_append,
        List.append_assoc] at hreads
      obtain ⟨mid, hown, hreads⟩ := Reads.append_iff.mp hreads
      rw [← List.map_drop] at hspans
      obtain ⟨rest, first', further', htext, hleft⟩ := ih hreads hspans hi
      refine ⟨rest, first', further', ?_, hleft⟩
      rw [Lexeme.text_of_reads hown, ← List.append_assoc, htext]
  | case2 => cases hi

/-- **Where an item begins** in a source, its first token begins. -/
theorem exists_left_of_mem_items {source : List Char} {items : List Item} {i : Item}
    (h : items? source = some items) (hi : i ∈ items) :
    ∃ rest first further after, source = i.before ++ rest ∧ Left i rest first further after := by
  obtain ⟨pieces, hpieces, h⟩ := Option.bind_eq_some_iff.mp h
  obtain ⟨⟨lead, spans⟩, hspans, h⟩ := Option.bind_eq_some_iff.mp h
  obtain rfl := Option.some.inj h
  obtain ⟨-, hall⟩ := ItemSpan.of_ofTokens? hspans
  replace hpieces := (Reads.pieces?_eq_some_iff le_rfl).mp hpieces
  generalize hgather : Lexeme.gather [] pieces = gathered at hall hi
  obtain ⟨lexemes, after⟩ := gathered
  have hreads := Lexeme.flatMap_pieces_of_gather hgather
  rw [← List.map_drop] at hall
  rw [List.map_nil, List.nil_append, ← List.take_append_drop lead lexemes, List.flatMap_append,
    List.append_assoc] at hreads
  rw [← hreads] at hpieces
  obtain ⟨body, hstart, hreads⟩ := Reads.append_iff.mp hpieces
  obtain ⟨rest, first, further, htext, hleft⟩ :=
    exists_left_of_mem_itemsBehind hreads hall hi
  refine ⟨rest, first, further, after, ?_, hleft⟩
  rw [← htext, List.append_assoc, ← Lexeme.text_of_reads hstart, List.take_append_drop]

namespace Left

variable {i : Item} {rest : List Char} {first : Lexeme} {further : List Lexeme}
  {after : List Trivia}

/-- The first token of an item is what is found where it begins. -/
theorem piece?_eq (h : Left i rest first further after) :
    Scan.piece? rest = some (.token first.token first.text) ∧ first.text ≠ [] := by
  have hreads := h.reads
  rw [List.flatMap_cons, Lexeme.pieces, h.before] at hreads
  cases hreads with | cons hpiece hne _ => exact ⟨hpiece, hne⟩

/-- An item does not begin with white space. -/
theorem exists_cons (h : Left i rest first further after) :
    ∃ c more, rest = c :: more ∧ Text.Letter.isBlank c = false := by
  obtain ⟨hpiece, hne⟩ := h.piece?_eq
  cases rest with
  | nil => exact absurd (List.prefix_nil.mp (Scan.prefix_of_piece? hpiece)) hne
  | cons c more =>
    refine ⟨c, more, rfl, Scan.isBlank_eq_false_of_piece? hpiece fun hstray => ?_⟩
    obtain ⟨span, hitem⟩ := h.item
    refine (ItemSpan.starts_of_ofItem? hitem).2 ?_
    rw [h.tokens, List.map_cons, List.head?_cons, hstray]

/-- An item does not begin with a comment. -/
theorem not_comment (h : Left i rest first further after) : ¬ ['/', '/'] <+: rest := by
  rintro ⟨more, rfl⟩
  have hcomment := Scan.piece?_eq_trivia_iff.mpr
    (Scan.trivia?_eq_some_iff.mpr (.inl ⟨more, rfl, rfl⟩))
  cases Option.some.inj (hcomment.symm.trans h.piece?_eq.1)

/-- An item does not begin with an attribute of the file. -/
theorem not_inner (h : Left i rest first further after) : ¬ ['#', '!', '['] <+: rest := by
  rintro ⟨more, rfl⟩
  obtain ⟨l, l', others, hls, hl, hl', -⟩ := exists_marks_of_reads h.reads
  obtain ⟨span, hitem⟩ := h.item
  have hinner : startsInner i.tokens = true :=
    startsInner_iff.mpr ⟨_, _, _, h.tokens.trans (congrArg _ hls), hl, hl'⟩
  rw [(ItemSpan.starts_of_ofItem? hitem).1] at hinner
  cases hinner

/-- What begins with `use` is an import. -/
theorem not_use (h : Left i rest first further after) (hother : i.isImport = false) :
    ¬ ['u', 's', 'e', ' '] <+: rest := by
  rintro ⟨more, rfl⟩
  have huse : Scan.piece? ('u' :: 's' :: 'e' :: ' ' :: more) =
      some (.token (.word "use") ['u', 's', 'e']) := rfl
  obtain ⟨htoken, -⟩ := Piece.token.inj (Option.some.inj (huse.symm.trans h.piece?_eq.1))
  have hhead : (ItemSpan.importHead.run i.tokens).isSome = true := by
    rw [h.tokens, List.map_cons, ← htoken, ItemSpan.run_importHead_use]
    rfl
  rw [Item.isImport, hhead] at hother
  cases hother

end Left

end Source

/-! ### Lines -/

namespace Text

/-- What is left from a character on begins with it. -/
theorem dropWhile_ne_eq (sep : Char) (cs : List Char) :
    cs.dropWhile (· != sep) = [] ∨ ∃ more, cs.dropWhile (· != sep) = sep :: more := by
  have hfirst := List.head?_dropWhile_not (· != sep) cs
  cases hrest : cs.dropWhile (· != sep) with
  | nil => exact Or.inl rfl
  | cons c more =>
      rw [hrest] at hfirst
      obtain rfl : c = sep := by simpa using hfirst
      exact Or.inr ⟨more, rfl⟩

/-- What stands between two line ends, or the ends of a text, is a piece of it. -/
theorem mem_splitAtChar {sep : Char} {above line below : List Char}
    (habove : above = [] ∨ ∃ more, above = more ++ [sep]) (hline : sep ∉ line)
    (hbelow : below = [] ∨ ∃ more, below = sep :: more) :
    line ∈ splitAtChar sep (above ++ (line ++ below)) := by
  have hfirst : line ∈ splitAtChar sep (line ++ below) := by
    rcases hbelow with rfl | ⟨more, rfl⟩
    · rw [List.append_nil, splitAtChar_eq_singleton hline]
      exact List.mem_singleton_self line
    · rw [splitAtChar_append_cons hline]
      exact List.mem_cons_self
  rcases habove with rfl | ⟨more, rfl⟩
  · exact hfirst
  · have hpieces : splitAtChar sep (more ++ sep :: (line ++ below)) =
        splitAtChar sep more ++ splitAtChar sep (line ++ below) :=
      splitBy_append_sep (p := (· == sep)) (beq_self_eq_true sep) more (line ++ below)
    rw [List.append_assoc, List.singleton_append, hpieces]
    exact List.mem_append_right _ hfirst

/-- Trimming removes the white space before a character. -/
theorem exists_trim_eq_cons {blank : List Char} {c : Char}
    (hblank : ∀ d ∈ blank, Letter.isBlank d = true) (hc : Letter.isBlank c = false)
    (more : List Char) :
    ∃ kept, trim (blank ++ c :: more) = c :: kept ∧ kept <+: more := by
  have hstart : trimStart (blank ++ c :: more) = c :: more := by
    rw [trimStart, List.dropWhile_append_of_pos hblank,
      List.dropWhile_cons_of_neg (by simp [hc])]
  refine ⟨trimEnd more, ?_, ?_⟩
  · rw [trim, hstart, trimEnd, List.reverse_cons, List.dropWhile_append]
    split
    · rename_i hnone
      rw [trimEnd, List.isEmpty_iff.mp hnone, List.dropWhile_cons_of_neg (by simp [hc])]
      rfl
    · rw [List.reverse_append]
      rfl
  · rw [trimEnd, ← List.reverse_suffix, List.reverse_reverse]
    exact List.dropWhile_suffix _

end Text

/-- The line of an item that begins it. -/
theorem Source.Item.exists_of_beginsLine {i : Source.Item} (h : i.beginsLine = true) :
    ∃ above blank, i.before = above ++ blank ∧
      (above = [] ∨ ∃ more, above = more ++ ['\n']) ∧
      ∀ c ∈ blank, Text.Letter.isBlank c = true ∧ c ≠ '\n' := by
  refine ⟨(i.before.reverse.dropWhile (· != '\n')).reverse,
    (i.before.reverse.takeWhile (· != '\n')).reverse, ?_, ?_, fun c hc => ?_⟩
  · rw [← List.reverse_append, List.takeWhile_append_dropWhile, List.reverse_reverse]
  · refine (Text.dropWhile_ne_eq '\n' i.before.reverse).imp ?_ ?_
    · intro hnil
      rw [hnil]
      rfl
    · rintro ⟨more, hmore⟩
      exact ⟨more.reverse, by rw [hmore, List.reverse_cons]⟩
  · rw [List.mem_reverse] at hc
    exact ⟨List.all_eq_true.mp h c hc, by simpa using List.mem_takeWhile_imp hc⟩

namespace Support

open Source (Item items? Left)

variable {w : Workspace} {path text : String} {items : List Item} {i : Item}

/-- A line that is seen is one of the text. -/
theorem isPreamble_eq_false_of_mem {line : List Char}
    (hline : line ∈ Text.splitAtChar '\n' text.toList) (hseen : isPreambleLine line = false) :
    isPreamble text = false := by
  have hany := Text.any_lines (p := (!isPreambleLine ·)) rfl
    (fun line => by rw [isPreambleLine, isPreambleLine, Text.trim_withoutReturn]) text.toList
  rw [List.any_eq_true.mpr ⟨line, hline, by rw [hseen]; rfl⟩] at hany
  obtain ⟨other, hother, hfound⟩ := List.any_eq_true.mp hany
  exact List.all_eq_false.mpr ⟨other, hother, by simpa using hfound⟩

/-- **A line on which an item begins is seen**, unless the item is an import. -/
theorem isPreamble_eq_false_of_beginsLine (hitems : items? text.toList = some items)
    (hi : i ∈ items) (hother : i.isImport = false) (hline : i.beginsLine = true) :
    isPreamble text = false := by
  obtain ⟨rest, first, further, after, htext, hleft⟩ := Source.exists_left_of_mem_items hitems hi
  obtain ⟨c, more, rfl, hc⟩ := hleft.exists_cons
  obtain ⟨above, blank, hbefore, habove, hblank⟩ := Item.exists_of_beginsLine hline
  have hfeed : c ≠ '\n' := by
    rintro rfl
    exact absurd hc (by decide)
  -- The line goes on to the next line feed.
  have hpiece : blank ++ c :: more.takeWhile (· != '\n') ∈ Text.splitAtChar '\n' text.toList := by
    have hparts : text.toList = above ++ ((blank ++ c :: more.takeWhile (· != '\n')) ++
        more.dropWhile (· != '\n')) := by
      rw [htext, hbefore, List.append_assoc, List.append_assoc, List.cons_append,
        List.takeWhile_append_dropWhile]
    rw [hparts]
    refine Text.mem_splitAtChar habove ?_ (Text.dropWhile_ne_eq '\n' more)
    intro hmem
    rcases List.mem_append.mp hmem with hmem | hmem
    · exact (hblank _ hmem).2 rfl
    · rcases List.mem_cons.mp hmem with heq | hmem
      · exact hfeed heq.symm
      · simpa using List.mem_takeWhile_imp hmem
  obtain ⟨kept, htrim, hkept⟩ := Text.exists_trim_eq_cons (fun d hd => (hblank d hd).1) hc
    (more.takeWhile (· != '\n'))
  have hprefix : c :: kept <+: c :: more :=
    List.cons_prefix_cons.mpr ⟨rfl, hkept.trans (List.takeWhile_prefix _)⟩
  have hlead : ∀ lead : List Char, ¬ lead <+: c :: more → lead.isPrefixOf (c :: kept) = false := by
    intro lead hno
    rw [← Bool.not_eq_true, List.isPrefixOf_iff_prefix]
    exact fun h => hno (h.trans hprefix)
  refine isPreamble_eq_false_of_mem hpiece ?_
  rw [isPreambleLine, htrim, hlead _ hleft.not_comment, hlead _ hleft.not_inner,
    hlead _ (hleft.not_use hother)]
  rfl

/-! ### Clearing the old file -/

/-- The file is not cleared of its items yet. -/
theorem ne_legacyStub_of_items (hitems : items? text.toList = some items) (hi : i ∈ items) :
    text ≠ legacyStub := by
  rintro rfl
  have hnone : (items? legacyStub.toList).map List.length = some 0 := by decide +kernel
  rw [hitems, Option.map_some, Option.some.injEq, List.length_eq_zero_iff] at hnone
  rw [hnone] at hi
  cases hi

/-- **What becomes of an old file with items of its own**, if it has none of the fragments of the
old helper: it is kept exactly if a line of it is none that declares nothing, and this is so if
an item other than an import begins its line. Otherwise it is cleared of all its items. -/
theorem runIn_normalizeLegacy_iff (hfile : w.file? path = some (.text text))
    (hfragments : ∀ fragment ∈ legacyFragments, mentions fragment text = false)
    (hitems : items? text.toList = some items) (hother : ∃ i ∈ items, i.isImport = false) :
    (runIn (normalizeLegacy path) w = (.ok false, w) ↔
        ∃ line ∈ Text.lines text.toList, isPreambleLine line = false) ∧
      ((∃ i ∈ items, i.isImport = false ∧ i.beginsLine = true) →
        runIn (normalizeLegacy path) w = (.ok false, w)) ∧
      (runIn (normalizeLegacy path) w = (.ok false, w) ∨
        ∃ w', runIn (normalizeLegacy path) w = (.ok true, w') ∧
          w'.file? path = some (.text legacyStub)) := by
  obtain ⟨i, hi, -⟩ := hother
  obtain ⟨w', hwrite⟩ := Workspace.exists_withText hfile legacyStub
  have hstale : isStale text = isPreamble text := by
    rw [isStale, List.any_eq_false.mpr (by simpa using hfragments), Bool.or_false]
  have hrun : runIn (normalizeLegacy path) w =
      if isPreamble text then (.ok true, w') else (.ok false, w) := by
    rw [runIn_normalizeLegacy, hfile]
    dsimp only
    rw [hstale, beq_false_of_ne (ne_legacyStub_of_items hitems hi), Bool.false_or, hwrite]
    cases isPreamble text <;> rfl
  have hkept : runIn (normalizeLegacy path) w = (.ok false, w) ↔ isPreamble text = false := by
    rw [hrun]
    cases isPreamble text <;> simp
  refine ⟨?_, ?_, ?_⟩
  · rw [hkept, isPreamble, List.all_eq_false]
    simp
  · rintro ⟨i, hi, hother, hline⟩
    exact hkept.mpr (isPreamble_eq_false_of_beginsLine hitems hi hother hline)
  · cases hpreamble : isPreamble text with
    | false => exact Or.inl (hkept.mpr hpreamble)
    | true =>
        refine Or.inr ⟨w', by rw [hrun, hpreamble]; rfl, ?_⟩
        exact Workspace.file?_of_withText (Workspace.file?_eq_some_iff.mp hfile).1 hwrite

/-- A workspace with an old file only. -/
def oldFile (text : String) : Workspace where
  tree := .directory [("helpers.rs", .file (.text text))]

/-- A structure below an import. -/
theorem runIn_normalizeLegacy_below :
    runIn (normalizeLegacy "helpers.rs") (oldFile "use std::fmt;\n  pub struct Slug;\n") =
      (.ok false, oldFile "use std::fmt;\n  pub struct Slug;\n") := by
  have hfile : (oldFile "use std::fmt;\n  pub struct Slug;\n").file? "helpers.rs" =
      some (.text "use std::fmt;\n  pub struct Slug;\n") := rfl
  have hfound : (items? "use std::fmt;\n  pub struct Slug;\n".toList).map
      (·.map fun i => (i.isImport, i.beginsLine)) = some [(true, true), (false, true)] := by
    decide +kernel
  obtain ⟨items, hitems, hkinds⟩ := Option.map_eq_some_iff.mp hfound
  obtain ⟨i, hi, hkind⟩ : ∃ i ∈ items, (i.isImport, i.beginsLine) = (false, true) :=
    List.mem_map.mp (hkinds ▸ List.mem_cons_of_mem _ (List.mem_singleton_self _))
  obtain ⟨hother, hline⟩ := Prod.mk.inj hkind
  exact (runIn_normalizeLegacy_iff hfile (by decide +kernel) hitems ⟨i, hi, hother⟩).2.1
    ⟨i, hi, hother, hline⟩

/-- **Items of its own do not protect an old file**: a structure behind an import on one line is
cleared away. -/
theorem not_forall_runIn_normalizeLegacy :
    ¬ ∀ (w : Workspace) (path text : String) (items : List Item),
      w.file? path = some (.text text) →
      (∀ fragment ∈ legacyFragments, mentions fragment text = false) →
      items? text.toList = some items → (∃ i ∈ items, i.isImport = false) →
        runIn (normalizeLegacy path) w = (.ok false, w) := by
  intro h
  have hfound : (items? "use std::fmt; pub struct Slug;\n".toList).map
      (·.map Item.isImport) = some [true, false] := by decide +kernel
  obtain ⟨items, hitems, hkinds⟩ := Option.map_eq_some_iff.mp hfound
  have hother : ∃ i ∈ items, i.isImport = false :=
    List.mem_map.mp (hkinds ▸ List.mem_cons_of_mem _ (List.mem_singleton_self _))
  have hkept := h (oldFile "use std::fmt; pub struct Slug;\n") "helpers.rs"
    "use std::fmt; pub struct Slug;\n" items rfl (by decide +kernel) hitems hother
  have hcleared : (runIn (normalizeLegacy "helpers.rs")
      (oldFile "use std::fmt; pub struct Slug;\n")).1.toOption = some true := by decide +kernel
  rw [hkept] at hcleared
  cases hcleared

end Support

end ServiceGen
