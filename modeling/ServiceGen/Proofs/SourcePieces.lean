import ServiceGen.Proofs.Lexing
import ServiceGen.Proofs.SourceItems

/-!
# Pieces of a Source

A text is cut into pieces from its beginning (`Reads`). Where the cut is does not depend on what
follows, if it is behind a semicolon or a closing bracket (`Reads.through_fence`), or if there are
only white space and comments before it and no white space behind it (`Reads.trivia`). Pieces can be
told from the lexemes that they make up and the other way round (`Lexeme.pieces`).
-/

namespace ServiceGen.Source

/-- The piece that a fence is. -/
def Piece.fence (x : Char) : Piece :=
  .token (.mark x false) [x]

@[simp]
theorem Piece.text_fence (x : Char) : (fence x).text = [x] :=
  rfl

/-- A text begins with some pieces, with this left behind them. -/
inductive Reads : List Char → List Piece → List Char → Prop
  | nil (cs : List Char) : Reads cs [] cs
  | cons {cs : List Char} {p : Piece} {ps : List Piece} {rest : List Char} :
      Scan.piece? cs = some p → p.text ≠ [] → Reads (cs.drop p.text.length) ps rest →
      Reads cs (p :: ps) rest

/-! ### The first piece -/

namespace Scan

/-- A text begins with something, and not with white space. -/
def Solid (cs : List Char) : Prop :=
  ∃ c rest, cs = c :: rest ∧ isSpace c = false

variable {cs : List Char} {p : Piece}

theorem Solid.append (h : Solid cs) (rest : List Char) : Solid (cs ++ rest) := by
  obtain ⟨c, more, rfl, hc⟩ := h
  exact ⟨c, more ++ rest, rfl, hc⟩

/-- What white space and comments are. -/
theorem trivia?_eq_some_iff {t : Trivia} : trivia? cs = some (some t) ↔
    (∃ more, cs = '/' :: '/' :: more ∧ t = .comment (cs.takeWhile (· != '\n'))) ∨
      (∃ more size, cs = '/' :: '*' :: more ∧ blockComment 1 more = some size ∧
        t = .comment (cs.take (size + 2))) ∨
      ∃ c more, cs = c :: more ∧ isSpace c = true ∧ t = .blank (cs.takeWhile isSpace) := by
  constructor
  · intro h
    unfold trivia? at h
    split_ifs at h with hline hblock hspace
    · obtain ⟨more, rfl⟩ := List.isPrefixOf_iff_prefix.mp hline
      exact .inl ⟨more, rfl, (Option.some.inj (Option.some.inj h)).symm⟩
    · obtain ⟨more, rfl⟩ := List.isPrefixOf_iff_prefix.mp hblock
      obtain ⟨size, hsize, h⟩ := Option.map_eq_some_iff.mp h
      exact .inr (.inl ⟨more, size, rfl, hsize, (Option.some.inj h).symm⟩)
    · cases cs with
      | nil => cases hspace
      | cons c more =>
        exact .inr (.inr ⟨c, more, rfl, hspace, (Option.some.inj (Option.some.inj h)).symm⟩)
    · cases Option.some.inj h
  · rintro (⟨more, rfl, rfl⟩ | ⟨more, size, rfl, hsize, rfl⟩ | ⟨c, more, rfl, hc, rfl⟩)
    · rfl
    · have hline : ['/', '/'].isPrefixOf ('/' :: '*' :: more) = false := rfl
      have hblock : ['/', '*'].isPrefixOf ('/' :: '*' :: more) = true := by simp
      simp [trivia?, hline, hblock, hsize]
    · have hslash : c ≠ '/' := by
        rintro rfl
        exact absurd hc (by decide)
      simp [trivia?, hc, hslash.symm]

/-- White space and comments are pieces as they are found. -/
theorem piece?_eq_trivia_iff {t : Trivia} :
    piece? cs = some (.trivia t) ↔ trivia? cs = some (some t) := by
  constructor
  · intro h
    obtain ⟨trivia, htrivia, h⟩ := Option.bind_eq_some_iff.mp h
    cases trivia with
    | some trivia =>
      obtain rfl := Piece.trivia.inj (Option.some.inj h)
      exact htrivia
    | none =>
      obtain ⟨_, -, h⟩ := Option.bind_eq_some_iff.mp h
      cases Option.some.inj h
  · intro h
    simp [piece?, h]

/-- A piece is what a text begins with. -/
theorem prefix_of_piece? (h : piece? cs = some p) : p.text <+: cs := by
  obtain ⟨trivia, htrivia, h⟩ := Option.bind_eq_some_iff.mp h
  cases trivia with
  | some trivia =>
    obtain rfl := Option.some.inj h
    obtain ⟨_, rfl, rfl⟩ | ⟨_, _, rfl, -, rfl⟩ | ⟨_, _, rfl, -, rfl⟩ :=
      trivia?_eq_some_iff.mp htrivia
    · exact List.takeWhile_prefix _
    · exact List.take_prefix _ _
    · exact List.takeWhile_prefix _
  | none =>
    obtain ⟨⟨token, size⟩, -, h⟩ := Option.bind_eq_some_iff.mp h
    obtain rfl := Option.some.inj h
    exact List.take_prefix _ _

/-- A literal is no mark. -/
theorem Quoting.token?_ne_mark {quoting : Quoting} {lead n : ℕ} {c : Char} {joined : Bool} :
    quoting.token? lead cs ≠ some (.mark c joined, n) := by
  simp [Quoting.token?, withSuffix]

/-- Only a blank piece begins with white space. -/
theorem isSpace_eq_false_of_piece? {c : Char} (h : piece? (c :: cs) = some p)
    (hp : ∀ text, p ≠ .trivia (.blank text)) : isSpace c = false := by
  obtain ⟨trivia, htrivia, h⟩ := Option.bind_eq_some_iff.mp h
  cases trivia with
  | some trivia =>
    obtain rfl := Option.some.inj h
    obtain ⟨_, hcs, -⟩ | ⟨_, _, hcs, -⟩ | ⟨_, _, -, -, rfl⟩ := trivia?_eq_some_iff.mp htrivia
    · rw [(List.cons.inj hcs).1]
      decide
    · rw [(List.cons.inj hcs).1]
      decide
    · exact absurd rfl (hp _)
  | none =>
    cases hspace : isSpace c with
    | false => rfl
    | true =>
      have hblank := trivia?_eq_some_iff.mpr (.inr (.inr ⟨c, cs, rfl, hspace, rfl⟩))
      cases Option.some.inj (htrivia.symm.trans hblank)

/-- A mark is the character that it is found at. -/
theorem head?_of_token?_eq_mark {c : Char} {joined : Bool} {n : ℕ}
    (h : token? cs = some (.mark c joined, n)) : cs.head? = some c := by
  unfold token? at h
  split at h
  case isTrue => simp at h
  split at h
  case h_1 => exact absurd h Quoting.token?_ne_mark
  split at h
  case isTrue =>
    obtain ⟨size, -, h⟩ := Option.bind_eq_some_iff.mp h
    cases size with
    | some size => simp at h
    | none => exact absurd h Quoting.token?_ne_mark
  obtain ⟨d, hd, h⟩ := Option.bind_eq_some_iff.mp h
  unfold plainToken? at h
  split_ifs at h
  · simp [withSuffix] at h
  · unfold word? at h
    dsimp only at h
    split at h <;> simp at h
  · obtain ⟨rfl, -⟩ : d = c ∧ _ := by simpa [and_assoc] using h
    exact hd
  · simp at h

/-- A text that begins with a mark begins with its character. -/
theorem head?_of_piece?_eq_mark {c : Char} {joined : Bool} {text : List Char}
    (h : piece? cs = some (.token (.mark c joined) text)) : cs.head? = some c := by
  obtain ⟨trivia, -, h⟩ := Option.bind_eq_some_iff.mp h
  cases trivia with
  | some trivia => cases h
  | none =>
    obtain ⟨⟨token, size⟩, htoken, h⟩ := Option.bind_eq_some_iff.mp h
    obtain ⟨rfl, -⟩ : token = .mark c joined ∧ _ := by simpa using h
    exact head?_of_token?_eq_mark htoken

/-- A semicolon or closing bracket is a piece of its own. -/
theorem piece?_fence {x : Char} (hx : IsFence x) (after : List Char) :
    piece? (x :: after) = some (.fence x) := by
  rcases hx with rfl | rfl <;> rfl

/-- A fence is a piece by itself, and makes no operator with what follows it. -/
theorem eq_of_piece?_eq_mark {x : Char} (hx : IsFence x) {joined : Bool} {text : List Char}
    (h : piece? cs = some (.token (.mark x joined) text)) : joined = false ∧ text = [x] := by
  obtain ⟨rest, rfl⟩ := List.head?_eq_some_iff.mp (head?_of_piece?_eq_mark h)
  rw [piece?_fence hx] at h
  simpa [Piece.fence, eq_comm] using h

/-- When a text is what is taken of it and more: all of it counts, and the next character does not.
-/
theorem takeWhile_append_eq_left_iff {q : Char → Bool} {before rest : List Char} :
    (before ++ rest).takeWhile q = before ↔
      (∀ c ∈ before, q c = true) ∧ ∀ c ∈ rest.head?, q c = false := by
  induction before with
  | nil => cases rest <;> simp [List.takeWhile_cons]
  | cons c before ih => by_cases hc : q c <;> simp [hc, ih]

/-- A comment is part of the text. -/
theorem blockComment_le {depth n : ℕ} (h : blockComment depth cs = some n) : n ≤ cs.length := by
  fun_induction blockComment depth cs generalizing n with grind [Option.map_eq_some_iff]

/-- White space or a comment stays what it is, if what follows begins in the same way, or if
neither begins with white space. -/
theorem trivia?_append {t : Trivia} {rest other : List Char}
    (h : trivia? (t.text ++ rest) = some (some t))
    (hother : other.head? = rest.head? ∨ Solid rest ∧ Solid other) :
    trivia? (t.text ++ other) = some (some t) := by
  rw [trivia?_eq_some_iff] at h ⊢
  rcases h with ⟨more, hcs, ht⟩ | ⟨more, size, hcs, hsize, ht⟩ | ⟨c, more, hcs, hc, ht⟩
  · have hrun := (congrArg Trivia.text ht).symm
    have htext : t.text = '/' :: '/' :: more.takeWhile (· != '\n') :=
      hrun.symm.trans (by rw [hcs]; rfl)
    obtain ⟨hinner, hstop⟩ := takeWhile_append_eq_left_iff.mp hrun
    have hstop' : ∀ c ∈ other.head?, (c != '\n') = false := by
      rcases hother with heq | ⟨⟨c, more, rfl, hc⟩, -⟩
      · rwa [heq]
      · obtain rfl : c = '\n' := by simpa using hstop c rfl
        cases hc
    refine .inl ⟨more.takeWhile (· != '\n') ++ other, by rw [htext]; rfl, ?_⟩
    rwa [takeWhile_append_eq_left_iff.mpr ⟨hinner, hstop'⟩, ← hrun]
  · have hrun := (congrArg Trivia.text ht).symm
    have htext : t.text = '/' :: '*' :: more.take size :=
      hrun.symm.trans (by rw [hcs]; rfl)
    refine .inr (.inl ⟨more.take size ++ other, size, by rw [htext]; rfl,
      closed_blockComment 1 more size hsize other, ?_⟩)
    have hlength : (more.take size).length = size := by
      rw [List.length_take]
      exact min_eq_left (blockComment_le hsize)
    have htake : (t.text ++ other).take (size + 2) = t.text :=
      List.take_left' (by rw [htext, List.length_cons, List.length_cons, hlength])
    rwa [htake, ← hrun]
  · have hrun := (congrArg Trivia.text ht).symm
    obtain ⟨hinner, hstop⟩ := takeWhile_append_eq_left_iff.mp hrun
    have hstop' : ∀ c ∈ other.head?, isSpace c = false := by
      rcases hother with heq | ⟨-, ⟨c, more, rfl, hc⟩⟩
      · rwa [heq]
      · rintro d ⟨⟩
        exact hc
    have htext : t.text = c :: more.takeWhile isSpace :=
      hrun.symm.trans (by rw [hcs, List.takeWhile_cons_of_pos hc]; rfl)
    refine .inr (.inr ⟨c, more.takeWhile isSpace ++ other, by rw [htext]; rfl, hc, ?_⟩)
    rwa [takeWhile_append_eq_left_iff.mpr ⟨hinner, hstop'⟩, ← hrun]

/-- A piece without text is never passed over. -/
theorem pieces?_eq_none (hp : piece? cs = some p) (hnil : p.text = []) (hcs : cs ≠ [])
    (fuel : ℕ) : pieces? fuel cs = none := by
  obtain ⟨c, rest, rfl⟩ := List.exists_cons_of_ne_nil hcs
  induction fuel with
  | zero => rfl
  | succ fuel ih => simp [pieces?, hp, hnil, ih]

end Scan

/-! ### Reading pieces -/

namespace Reads

variable {cs rest mid : List Char} {p : Piece} {ps qs : List Piece}

/-- Reading loses nothing. -/
theorem text_append (h : Reads cs ps rest) : ps.flatMap Piece.text ++ rest = cs := by
  induction h with
  | nil => rfl
  | @cons cs p ps rest hp _ _ ih =>
    obtain ⟨t, rfl⟩ := Scan.prefix_of_piece? hp
    rw [List.drop_left] at ih
    rw [List.flatMap_cons, List.append_assoc, ih]

/-- Some pieces and others are read one behind the other. -/
theorem append_iff :
    Reads cs (ps ++ qs) rest ↔ ∃ mid, Reads cs ps mid ∧ Reads mid qs rest := by
  constructor
  · intro h
    induction ps generalizing cs with
    | nil => exact ⟨cs, .nil cs, h⟩
    | cons p ps ih =>
      cases h with | cons hp hne h =>
      obtain ⟨mid, hps, hqs⟩ := ih h
      exact ⟨mid, .cons hp hne hps, hqs⟩
  · rintro ⟨mid, hps, hqs⟩
    induction hps with
    | nil => exact hqs
    | cons hp hne _ ih => exact .cons hp hne (ih hqs)

/-- What begins with a piece that is no white space does not begin with white space. -/
theorem solid (h : Reads cs (p :: ps) rest) (hp : ∀ text, p ≠ .trivia (.blank text)) :
    Scan.Solid cs := by
  cases h with | cons hpiece hne _ =>
  obtain ⟨c, text, htext⟩ := List.exists_cons_of_ne_nil hne
  obtain ⟨more, rfl⟩ := Scan.prefix_of_piece? hpiece
  rw [htext, List.cons_append] at hpiece ⊢
  exact ⟨c, text ++ more, rfl, Scan.isSpace_eq_false_of_piece? hpiece hp⟩

/-- There are no more pieces than characters. -/
theorem length_le (h : Reads cs ps rest) : ps.length ≤ cs.length := by
  induction h with
  | nil => exact Nat.zero_le _
  | @cons cs p ps rest hp hne _ ih =>
    have hpos := List.length_pos_iff.mpr hne
    have hle := (Scan.prefix_of_piece? hp).length_le
    rw [List.length_drop] at ih
    rw [List.length_cons]
    omega

/-- **Reading to the end** is what cutting a text into pieces does. -/
theorem pieces?_eq_some_iff {fuel : ℕ} (hfuel : cs.length ≤ fuel) :
    Scan.pieces? fuel cs = some ps ↔ Reads cs ps [] := by
  constructor
  · intro h
    clear hfuel
    fun_induction Scan.pieces? fuel cs generalizing ps with
    | case1 =>
      obtain rfl := Option.some.inj h
      exact .nil []
    | case2 => cases h
    | case3 fuel cs hcs ih =>
      obtain ⟨p, hp, h⟩ := Option.bind_eq_some_iff.mp h
      obtain ⟨ps, hps, h⟩ := Option.bind_eq_some_iff.mp h
      obtain rfl := Option.some.inj h
      refine .cons hp (fun hnil => ?_) (ih p hps)
      rw [hnil, List.length_nil, List.drop_zero, Scan.pieces?_eq_none hp hnil hcs] at hps
      cases hps
  · intro h
    generalize hrest : [] = rest at h
    induction h generalizing fuel with
    | nil =>
      subst hrest
      simp [Scan.pieces?]
    | @cons cs p ps rest hp hne _ ih =>
      obtain ⟨t, rfl⟩ := Scan.prefix_of_piece? hp
      have hpos := List.length_pos_iff.mpr hne
      rw [List.length_append] at hfuel
      obtain ⟨fuel, rfl⟩ := Nat.exists_eq_succ_of_ne_zero (n := fuel) (by omega)
      have hps := @ih fuel (by rw [List.drop_left]; omega) hrest
      obtain ⟨c, more, htext⟩ := List.exists_cons_of_ne_nil hne
      rw [Scan.pieces?.eq_3, hp, Option.bind_eq_bind, Option.bind_some, hps]
      · rfl
      · simp [htext]

/-- Pieces before a fence are read the same whatever stands behind the fence. -/
theorem fence {x : Char} (hx : Scan.IsFence x) {after : List Char}
    (h : Reads (ps.flatMap Piece.text ++ x :: after) ps (x :: after)) (other : List Char) :
    Reads (ps.flatMap Piece.text ++ x :: other) ps (x :: other) := by
  induction ps with
  | nil => exact .nil _
  | cons p ps ih =>
    rw [List.flatMap_cons] at h ⊢
    cases h with | cons hp hne h =>
    rw [List.append_assoc, List.drop_left] at h
    refine .cons (Scan.settled_piece? x _ _ _ hx hp (by simp) other) hne ?_
    rw [List.append_assoc, List.drop_left]
    exact ih h

/-- Pieces up to a fence are read the same whatever stands behind the fence. -/
theorem through_fence {x : Char} (hx : Scan.IsFence x) {after : List Char}
    (h : Reads ((ps ++ [Piece.fence x]).flatMap Piece.text ++ after) (ps ++ [Piece.fence x]) after)
    (other : List Char) :
    Reads ((ps ++ [Piece.fence x]).flatMap Piece.text ++ other) (ps ++ [Piece.fence x]) other := by
  have hlast (other : List Char) : (ps ++ [Piece.fence x]).flatMap Piece.text ++ other =
      ps.flatMap Piece.text ++ x :: other := by
    simp
  rw [hlast] at h ⊢
  obtain ⟨mid, hps, hfence⟩ := append_iff.mp h
  obtain rfl : x :: after = mid := by simpa using hfence.text_append
  exact append_iff.mpr
    ⟨_, hps.fence hx other, .cons (Scan.piece?_fence hx other) (by simp) (.nil other)⟩

/-- White space and comments before something else than white space are read the same whatever
this is. -/
theorem trivia {ts : List Trivia} {other : List Char}
    (h : Reads (ts.flatMap Trivia.text ++ rest) (ts.map .trivia) rest) (hrest : Scan.Solid rest)
    (hother : Scan.Solid other) :
    Reads (ts.flatMap Trivia.text ++ other) (ts.map .trivia) other := by
  induction ts with
  | nil => exact .nil _
  | cons t ts ih =>
    rw [List.flatMap_cons, List.append_assoc] at h ⊢
    cases h with | cons ht hne h =>
    rw [Piece.text, List.drop_left] at h
    have hnext : (ts.flatMap Trivia.text ++ other).head? = (ts.flatMap Trivia.text ++ rest).head? ∨
        Scan.Solid (ts.flatMap Trivia.text ++ rest) ∧
          Scan.Solid (ts.flatMap Trivia.text ++ other) := by
      cases ts.flatMap Trivia.text with
      | nil => exact .inr ⟨hrest, hother⟩
      | cons c cs => exact .inl rfl
    refine .cons (Scan.piece?_eq_trivia_iff.mpr ?_) hne ?_
    · exact Scan.trivia?_append (Scan.piece?_eq_trivia_iff.mp ht) hnext
    · rw [Piece.text, List.drop_left]
      exact ih h

end Reads

/-! ### Pieces and lexemes -/

namespace Lexeme

variable {cs rest : List Char}

/-- The pieces that make up a lexeme. -/
def pieces (l : Lexeme) : List Piece :=
  l.before.map Piece.trivia ++ [.token l.token l.text]

theorem flatMap_text_trivia (before : List Trivia) :
    (before.map Piece.trivia).flatMap Piece.text = before.flatMap Trivia.text := by
  rw [List.flatMap_map]
  rfl

/-- The text of the pieces of lexemes is that of the lexemes. -/
theorem flatMap_text_pieces (ls : List Lexeme) :
    (ls.flatMap pieces).flatMap Piece.text = ls.flatMap whole := by
  rw [List.flatMap_assoc]
  congr 1
  funext l
  rw [pieces, List.flatMap_append, flatMap_text_trivia]
  simp [whole, Piece.text]

/-- A text that is read as lexemes is made up of them. -/
theorem text_of_reads {ls : List Lexeme} (h : Reads cs (ls.flatMap pieces) rest) :
    cs = ls.flatMap whole ++ rest := by
  rw [← h.text_append, flatMap_text_pieces]

theorem text_of_reads_trivia {ts : List Trivia} (h : Reads cs (ts.map Piece.trivia) rest) :
    cs = ts.flatMap Trivia.text ++ rest := by
  rw [← h.text_append, flatMap_text_trivia]

/-- **No piece is lost** when pieces are gathered into lexemes. -/
theorem flatMap_pieces_of_gather {before after : List Trivia} {ps : List Piece}
    {ls : List Lexeme} (h : gather before ps = (ls, after)) :
    ls.flatMap pieces ++ after.map Piece.trivia = before.map Piece.trivia ++ ps := by
  induction ps generalizing before ls with
  | nil =>
    obtain ⟨rfl, rfl⟩ := Prod.mk.inj h
    simp
  | cons p ps ih =>
    cases p with
    | trivia t =>
      rw [ih h]
      simp
    | token t text =>
      obtain ⟨rfl, rfl⟩ := Prod.mk.inj h
      simp [pieces, ih rfl]

/-- White space and comments are gathered before the next token. -/
theorem gather_trivia (before ts : List Trivia) (ps : List Piece) :
    gather before (ts.map Piece.trivia ++ ps) = gather (before ++ ts) ps := by
  induction ts generalizing before with
  | nil => simp
  | cons t ts ih => simp [gather, ih]

/-- The pieces of lexemes are gathered into these. -/
theorem gather_flatMap_pieces (ls : List Lexeme) (after : List Trivia) :
    gather [] (ls.flatMap pieces ++ after.map Piece.trivia) = (ls, after) := by
  induction ls with
  | nil => simpa [gather] using gather_trivia [] after []
  | cons l ls ih =>
    rw [List.flatMap_cons, pieces, List.append_assoc, List.append_assoc, gather_trivia]
    simp [gather, ih]

/-- Lexemes that end with a semicolon or closing bracket end with a piece of its own. -/
theorem exists_pieces_eq_append {x : Char} (hx : Scan.IsFence x) {ls : List Lexeme}
    {front : List Token} {t : Token} (htokens : ls.map (·.token) = front ++ [t]) (ht : t.isMark x)
    (h : Reads cs (ls.flatMap pieces) rest) :
    ∃ ps, ls.flatMap pieces = ps ++ [Piece.fence x] := by
  obtain ⟨before, last, rfl, -, hlast⟩ := List.map_eq_append_iff.mp htokens
  obtain ⟨l, rfl, rfl⟩ := List.map_eq_singleton_iff.mp hlast
  rw [List.flatMap_append (f := pieces), List.flatMap_singleton, pieces,
    ← List.append_assoc] at h ⊢
  obtain ⟨mid, -, hpiece⟩ := Reads.append_iff.mp h
  cases hpiece with | cons hpiece _ _ =>
  obtain ⟨joined, hmark⟩ := Token.isMark_iff.mp ht
  rw [hmark] at hpiece
  obtain ⟨rfl, htext⟩ := Scan.eq_of_piece?_eq_mark hx hpiece
  exact ⟨_, by rw [hmark, htext, Piece.fence]⟩

/-- Lexemes that end with a semicolon or closing bracket are read the same whatever stands behind
them. -/
theorem reads_append {x : Char} (hx : Scan.IsFence x) {ls : List Lexeme} {front : List Token}
    {t : Token} (htokens : ls.map (·.token) = front ++ [t]) (ht : t.isMark x)
    (h : Reads (ls.flatMap whole ++ rest) (ls.flatMap pieces) rest) (other : List Char) :
    Reads (ls.flatMap whole ++ other) (ls.flatMap pieces) other := by
  obtain ⟨ps, hps⟩ := exists_pieces_eq_append hx htokens ht h
  rw [← flatMap_text_pieces, hps] at h ⊢
  exact h.through_fence hx other

end Lexeme

end ServiceGen.Source
