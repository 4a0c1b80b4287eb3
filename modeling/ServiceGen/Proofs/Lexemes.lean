import ServiceGen.Proofs.Occurrences
import ServiceGen.Registration

/-!
# Lexemes of Registration Files

A source as the registration of items sees it: parentheses, each opening one with the word right
before it, and the other words (`lex`). Everything that decides what becomes of an item can be
read off the lexemes: whether a word occurs (`infix_lexFrom_iff`), which list a marker opens
(`indexOf?_lexFrom`), and whether that is closed (`isSome_closeFrom`). Whether there is a list for
an item depends on the parentheses alone (`isSome_findList?`).
-/

namespace ServiceGen.Registration

/-- Characters that end a word. -/
def isBreak (c : Char) : Bool :=
  Text.Letter.isBlank c || ['(', ')', ',', '/'].contains c

/-- A text in which no word ends. -/
def Unbroken (cs : List Char) : Prop :=
  ∀ c ∈ cs, isBreak c = false

instance (cs : List Char) : Decidable (Unbroken cs) :=
  List.decidableBAll (isBreak · = false) cs

/-- The parts of a source. -/
inductive Lexeme
  /-- A word before which no parenthesis opens. -/
  | word (text : List Char)
  /-- An opening parenthesis, and the word right before it. -/
  | opening (text : List Char)
  /-- A closing parenthesis. -/
  | closing

/-- The word of a lexeme. -/
def Lexeme.text : Lexeme → List Char
  | .word text => text
  | .opening text => text
  | .closing => []

/-- A word by itself, if it is one. -/
def Lexeme.ofWord (text : List Char) : List Lexeme :=
  if text.isEmpty then [] else [.word text]

/-- The lexemes of a source. `text` holds the current word so far. -/
def lexFrom (text : List Char) : List Char → List Lexeme
  | [] => Lexeme.ofWord text
  | c :: rest =>
    if c = '(' then .opening text :: lexFrom [] rest
    else if c = ')' then Lexeme.ofWord text ++ .closing :: lexFrom [] rest
    else if isBreak c then Lexeme.ofWord text ++ lexFrom [] rest
    else lexFrom (text ++ [c]) rest

/-- The lexemes of a source. -/
def lex (source : List Char) : List Lexeme :=
  lexFrom [] source

variable {text before rest body : List Char}

theorem isBreak_open : isBreak '(' = true := by decide

theorem isBreak_close : isBreak ')' = true := by decide

theorem Unbroken.not_mem (h : Unbroken text) {c : Char} (hc : isBreak c = true) : c ∉ text := by
  intro hmem
  rw [h c hmem] at hc
  cases hc

/-- A text stays unbroken with another character that is no break. -/
theorem Unbroken.concat (h : Unbroken text) {c : Char} (hc : isBreak c = false) :
    Unbroken (text ++ [c]) := by
  intro d hd
  rcases List.mem_append.mp hd with hd | hd
  · exact h d hd
  · rwa [List.mem_singleton.mp hd]

theorem unbroken_nil : Unbroken [] := by
  rintro c ⟨⟩

/-! ### Cutting at breaks -/

/-- A word by itself. -/
theorem lexFrom_of_unbroken (h : Unbroken rest) :
    lexFrom text rest = Lexeme.ofWord (text ++ rest) := by
  induction rest generalizing text with
  | nil => rw [lexFrom, List.append_nil]
  | cons c rest ih =>
      have hc := h c List.mem_cons_self
      rw [lexFrom, if_neg (by rintro rfl; cases hc), if_neg (by rintro rfl; cases hc),
        if_neg (by simp [hc]), ih fun d hd => h d (List.mem_cons_of_mem c hd), List.append_assoc,
        List.singleton_append]

/-- The lexemes before some point depend on the text before it only. -/
theorem exists_lexFrom_append (text before : List Char) :
    ∃ done pending, ∀ rest, lexFrom text (before ++ rest) = done ++ lexFrom pending rest := by
  induction before generalizing text with
  | nil => exact ⟨[], text, fun rest => rfl⟩
  | cons c before ih =>
      by_cases hopen : c = '('
      · obtain ⟨done, pending, h⟩ := ih []
        exact ⟨.opening text :: done, pending, fun rest => by
          rw [List.cons_append, lexFrom, if_pos hopen, h, List.cons_append]⟩
      · by_cases hclose : c = ')'
        · obtain ⟨done, pending, h⟩ := ih []
          exact ⟨Lexeme.ofWord text ++ .closing :: done, pending, fun rest => by
            rw [List.cons_append, lexFrom, if_neg hopen, if_pos hclose, h, List.append_assoc,
              List.cons_append]⟩
        · by_cases hc : isBreak c = true
          · obtain ⟨done, pending, h⟩ := ih []
            exact ⟨Lexeme.ofWord text ++ done, pending, fun rest => by
              rw [List.cons_append, lexFrom, if_neg hopen, if_neg hclose, if_pos hc, h,
                List.append_assoc]⟩
          · obtain ⟨done, pending, h⟩ := ih (text ++ [c])
            exact ⟨done, pending, fun rest => by
              rw [List.cons_append, lexFrom, if_neg hopen, if_neg hclose, if_neg hc, h]⟩

/-- A break that is no parenthesis cuts the lexemes in two. -/
theorem lexFrom_append_break {c : Char} (hc : isBreak c = true) (hopen : c ≠ '(') (hclose : c ≠ ')')
    (before rest : List Char) :
    lexFrom text (before ++ c :: rest) = lexFrom text before ++ lex rest := by
  obtain ⟨done, pending, h⟩ := exists_lexFrom_append text before
  have hbefore := h []
  rw [List.append_nil] at hbefore
  have hhere : lexFrom pending (c :: rest) = Lexeme.ofWord pending ++ lex rest := by
    rw [lexFrom, if_neg hopen, if_neg hclose, if_pos hc, lex]
  rw [h, hhere, hbefore, lexFrom, List.append_assoc]

/-- A closing parenthesis cuts the lexemes in two. -/
theorem lexFrom_append_close (before rest : List Char) :
    lexFrom text (before ++ ')' :: rest) = lexFrom text before ++ .closing :: lex rest := by
  obtain ⟨done, pending, h⟩ := exists_lexFrom_append text before
  have hbefore := h []
  rw [List.append_nil] at hbefore
  have hhere : lexFrom pending (')' :: rest) = Lexeme.ofWord pending ++ .closing :: lex rest := by
    rw [lexFrom, if_neg (by decide), if_pos rfl, lex]
  rw [h, hhere, hbefore, lexFrom, List.append_assoc]

/-- A break that is no parenthesis separates lexemes. -/
theorem lex_append_break {c : Char} (hc : isBreak c = true) (hopen : c ≠ '(') (hclose : c ≠ ')')
    (before rest : List Char) : lex (before ++ c :: rest) = lex before ++ lex rest :=
  lexFrom_append_break hc hopen hclose before rest

/-- A closing parenthesis separates lexemes. -/
theorem lex_append_close (before rest : List Char) :
    lex (before ++ ')' :: rest) = lex before ++ .closing :: lex rest :=
  lexFrom_append_close before rest

/-- An opening parenthesis ends what depends on the text before it. -/
theorem exists_lex_append_open (before : List Char) :
    ∃ done, ∀ rest, lex (before ++ '(' :: rest) = done ++ lex rest := by
  obtain ⟨done, pending, h⟩ := exists_lexFrom_append [] before
  exact ⟨done ++ [.opening pending], fun rest => by
    rw [lex, h, lexFrom, if_pos rfl, lex, List.append_assoc, List.singleton_append]⟩

/-! ### Words -/

/-- An item occurs in a word if it does in its lexeme. -/
theorem infix_ofWord_iff {item : List Char} (hne : item ≠ []) :
    item <:+: text ↔ ∃ lexeme ∈ Lexeme.ofWord text, item <:+: lexeme.text := by
  rw [Lexeme.ofWord]
  split
  · rename_i hempty
    rw [List.isEmpty_iff.mp hempty, List.infix_nil]
    simp [hne]
  · simp [Lexeme.text]

/-- **A word occurs** in a source if it does in one of the lexemes. -/
theorem infix_lexFrom_iff {item : List Char} (hne : item ≠ []) (hitem : Unbroken item)
    (text source : List Char) :
    item <:+: text ++ source ↔ ∃ lexeme ∈ lexFrom text source, item <:+: lexeme.text := by
  induction source generalizing text with
  | nil => rw [List.append_nil, lexFrom, infix_ofWord_iff hne]
  | cons c rest ih =>
      rw [lexFrom]
      by_cases hc : isBreak c = true
      · have hrest := ih []
        rw [List.nil_append] at hrest
        rw [Text.infix_append_cons_iff (hitem.not_mem hc), hrest]
        split
        · rw [List.exists_mem_cons_iff]
          rfl
        · rw [infix_ofWord_iff hne]
          split
          · simp [or_and_right, exists_or, Lexeme.text, hne]
          · simp [or_and_right, exists_or]
      · rw [if_neg (by rintro rfl; exact hc isBreak_open),
          if_neg (by rintro rfl; exact hc isBreak_close), if_neg hc, ← ih, List.append_assoc,
          List.singleton_append]

/-! ### Lists -/

/-- What comes after the first opening parenthesis that some text stands right before. -/
def afterOpening (body : List Char) : List Lexeme → Option (List Lexeme)
  | [] => none
  | .opening text :: rest => if body.isSuffixOf text then some rest else afterOpening body rest
  | .word _ :: rest => afterOpening body rest
  | .closing :: rest => afterOpening body rest

/-- A word is passed over where an opening is looked for. -/
theorem afterOpening_ofWord_append (body text : List Char) (lexemes : List Lexeme) :
    afterOpening body (Lexeme.ofWord text ++ lexemes) = afterOpening body lexemes := by
  rw [Lexeme.ofWord]
  split <;> rfl

/-- A marker occurs up to a parenthesis that it ends with. -/
theorem of_marker_prefix {c : Char} {start : List Char} (hbody : Unbroken body)
    (hstart : Unbroken start) (hc : isBreak c = true)
    (h : body ++ ['('] <+: start ++ c :: rest) : start = body ∧ c = '(' := by
  obtain ⟨more, hmore⟩ := h
  have hcut : ∀ {word : List Char} {d : Char} {others : List Char}, Unbroken word →
      isBreak d = true → (word ++ d :: others).takeWhile (!isBreak ·) = word := by
    intro word d others hword hd
    rw [List.takeWhile_append_of_pos fun e he => by simp [hword e he],
      List.takeWhile_cons_of_neg (by simp [hd]), List.append_nil]
  rw [List.append_assoc, List.singleton_append] at hmore
  have heq := congrArg (List.takeWhile (!isBreak ·)) hmore
  rw [hcut hbody isBreak_open, hcut hstart hc] at heq
  subst heq
  exact ⟨rfl, (List.cons.inj (List.append_cancel_left hmore)).1.symm⟩

/-- A marker that does not end at a break begins behind it. -/
theorem indexOf?_marker_append {c : Char} (hbody : Unbroken body) (htext : Unbroken text)
    (hc : isBreak c = true) (hend : c = '(' → ¬ body <:+ text) (rest : List Char) :
    Text.indexOf? (body ++ ['(']) (text ++ c :: rest) =
      (Text.indexOf? (body ++ ['(']) rest).map (text.length + 1 + ·) := by
  have hsplit : text ++ c :: rest = (text ++ [c]) ++ rest := by simp
  rw [hsplit, Text.indexOf?_append, List.length_append, List.length_singleton]
  intro start hne hstart hprefix
  rcases List.suffix_concat_iff.mp hstart with rfl | ⟨t, rfl, ht⟩
  · exact hne rfl
  · rw [List.append_assoc, List.singleton_append] at hprefix
    obtain ⟨rfl, rfl⟩ := of_marker_prefix hbody (fun d hd => htext d (ht.subset hd)) hc hprefix
    exact hend rfl ht

/-- A marker that ends at a parenthesis begins before it. -/
theorem indexOf?_marker (hbody : Unbroken body) (hbefore : Unbroken before) (rest : List Char) :
    Text.indexOf? (body ++ ['(']) (before ++ (body ++ '(' :: rest)) = some before.length := by
  rw [Text.indexOf?_append, Text.indexOf?_eq_some_zero ⟨rest, by simp⟩, Option.map_some,
    Nat.add_zero]
  intro start hne hstart hprefix
  rw [← List.append_assoc] at hprefix
  have hunbroken : Unbroken (start ++ body) := List.forall_mem_append.mpr
    ⟨fun d hd => hbefore d (hstart.subset hd), hbody⟩
  obtain ⟨heq, -⟩ := of_marker_prefix hbody hunbroken isBreak_open hprefix
  exact hne (List.append_left_eq_self.mp heq)

/-- A break that ends no marker is passed over with what precedes it. -/
theorem afterOpening_lexFrom_cons {c : Char} {rest : List Char} (hc : isBreak c = true)
    (hend : ¬ (c = '(' ∧ body <:+ text)) :
    afterOpening body (lexFrom text (c :: rest)) = afterOpening body (lexFrom [] rest) := by
  rw [lexFrom]
  split
  · rename_i hopen
    have hno : ¬ body <:+ text := fun h => hend ⟨hopen, h⟩
    rw [afterOpening, if_neg (by simpa [List.isSuffixOf_iff_suffix] using hno)]
  · split
    · rw [afterOpening_ofWord_append, afterOpening]
    · rw [afterOpening_ofWord_append]

/-- **The list that a marker opens**, in lexemes. -/
theorem indexOf?_lexFrom (hbody : Unbroken body) (htext : Unbroken text) (source : List Char) :
    (Text.indexOf? (body ++ ['(']) (text ++ source)).map
        (fun start => lex ((text ++ source).drop (start + (body ++ ['(']).length))) =
      afterOpening body (lexFrom text source) := by
  induction source generalizing text with
  | nil =>
      have hnone : Text.indexOf? (body ++ ['(']) (text ++ []) = none := by
        rw [Text.indexOf?_eq_none_iff, List.append_nil]
        intro h
        exact htext.not_mem isBreak_open (h.subset (by simp))
      have hword := afterOpening_ofWord_append body text []
      rw [List.append_nil] at hword
      rw [hnone, lexFrom, hword]
      rfl
  | cons c rest ih =>
      by_cases hc : isBreak c = true
      · by_cases hend : c = '(' ∧ body <:+ text
        · obtain ⟨rfl, before, rfl⟩ := hend
          rw [lexFrom, if_pos rfl, afterOpening, if_pos (by simp [List.isSuffixOf_iff_suffix]),
            List.append_assoc, indexOf?_marker hbody fun d hd => htext d (List.mem_append_left _ hd),
            Option.map_some]
          have hsplit : before ++ (body ++ '(' :: rest) = (before ++ (body ++ ['('])) ++ rest := by
            simp
          rw [hsplit, List.drop_left' (by simp), lex]
        · have hdrop : ∀ start, (text ++ c :: rest).drop (text.length + 1 + start +
              (body ++ ['(']).length) = rest.drop (start + (body ++ ['(']).length) := by
            intro start
            have hsplit : text ++ c :: rest = (text ++ [c]) ++ rest := by simp
            rw [hsplit, Nat.add_assoc, ← List.drop_drop, List.drop_left' (by simp)]
          have hrest := ih unbroken_nil
          rw [List.nil_append] at hrest
          rw [indexOf?_marker_append hbody htext hc (by simpa using hend), Option.map_map]
          simp only [Function.comp_def, hdrop]
          rw [hrest, afterOpening_lexFrom_cons hc hend]
      · have hnext := ih (htext.concat (by simpa using hc))
        rw [List.append_assoc, List.singleton_append] at hnext
        rw [hnext, lexFrom, if_neg (by rintro rfl; exact hc isBreak_open),
          if_neg (by rintro rfl; exact hc isBreak_close), if_neg hc]

/-- Whether lexemes close `depth + 1` open parentheses. -/
def closesFrom : Nat → List Lexeme → Bool
  | _, [] => false
  | depth, .opening _ :: rest => closesFrom (depth + 1) rest
  | depth, .word _ :: rest => closesFrom depth rest
  | 0, .closing :: _ => true
  | depth + 1, .closing :: rest => closesFrom depth rest

/-- A word neither opens nor closes anything. -/
theorem closesFrom_ofWord_append (depth : Nat) (text : List Char) (lexemes : List Lexeme) :
    closesFrom depth (Lexeme.ofWord text ++ lexemes) = closesFrom depth lexemes := by
  rw [Lexeme.ofWord]
  split
  · rfl
  · rw [List.singleton_append, closesFrom]

/-- A text is closed exactly if its lexemes are. -/
theorem isSome_closeFrom (depth : Nat) (source : List Char) :
    (closeFrom depth source).isSome = closesFrom depth (lexFrom text source) := by
  induction source generalizing text depth with
  | nil =>
      have hword := closesFrom_ofWord_append depth text []
      rw [List.append_nil] at hword
      rw [lexFrom, hword]
      rfl
  | cons c rest ih =>
      rw [closeFrom.eq_def, lexFrom]
      dsimp only
      split
      · rw [Option.isSome_map, ih, closesFrom]
      · split
        · rw [closesFrom_ofWord_append]
          cases depth with
          | zero => rfl
          | succ depth => rw [Option.isSome_map, ih, closesFrom]
        · rw [Option.isSome_map]
          split
          · rw [closesFrom_ofWord_append, ih]
          · rw [ih]

/-- Whether the first of some markers that occurs opens a list that is closed. -/
def hasList (bodies : List (List Char)) (lexemes : List Lexeme) : Bool :=
  (bodies.findSome? (afterOpening · lexemes)).any (closesFrom 0)

/-- **Whether a list is found** can be read off the lexemes. -/
theorem isSome_findList? {bodies : List (List Char)} (hbodies : ∀ body ∈ bodies, Unbroken body)
    (source : List Char) :
    (findList? source (bodies.map (· ++ ['(']))).isSome = hasList bodies (lex source) := by
  induction bodies with
  | nil => rfl
  | cons body bodies ih =>
      obtain ⟨hbody, hbodies⟩ := List.forall_mem_cons.mp hbodies
      have hmarker := indexOf?_lexFrom hbody unbroken_nil source
      rw [List.nil_append] at hmarker
      rw [findList?, hasList, List.map_cons, List.findSome?_cons, List.findSome?_cons, lex,
        ← hmarker]
      cases Text.indexOf? (body ++ ['(']) source with
      | none => exact ih hbodies
      | some start =>
          change ((closeFrom 0 (source.drop (start + (body ++ ['(']).length))).bind
            fun size => some _).isSome = closesFrom 0 (lex _)
          rw [Option.isSome_bind, lex, ← isSome_closeFrom]
          cases closeFrom 0 (source.drop (start + (body ++ ['(']).length)) <;> rfl

/-! ### Words make no lists -/

/-- Whether a lexeme is a parenthesis. -/
def Lexeme.isParenthesis : Lexeme → Bool
  | .word _ => false
  | .opening _ => true
  | .closing => true

/-- Where an opening is found depends on the parentheses only. -/
theorem afterOpening_filter (body : List Char) (lexemes : List Lexeme) :
    afterOpening body (lexemes.filter Lexeme.isParenthesis) =
      (afterOpening body lexemes).map (List.filter Lexeme.isParenthesis) := by
  induction lexemes with
  | nil => rfl
  | cons lexeme rest ih =>
      cases lexeme with
      | word text => exact ih
      | closing => exact ih
      | opening text =>
          rw [List.filter_cons_of_pos rfl, afterOpening, afterOpening]
          split
          · rfl
          · exact ih

/-- Whether lexemes are closed depends on the parentheses only. -/
theorem closesFrom_filter (depth : Nat) (lexemes : List Lexeme) :
    closesFrom depth (lexemes.filter Lexeme.isParenthesis) = closesFrom depth lexemes := by
  induction lexemes generalizing depth with
  | nil => rfl
  | cons lexeme rest ih =>
      cases lexeme with
      | word text => rw [List.filter_cons_of_neg (by simp [Lexeme.isParenthesis]), ih, closesFrom]
      | opening text => rw [List.filter_cons_of_pos rfl, closesFrom, closesFrom, ih]
      | closing =>
          rw [List.filter_cons_of_pos rfl]
          cases depth with
          | zero => rfl
          | succ depth => rw [closesFrom, closesFrom, ih]

/-- **Another word makes no list and unmakes none.** -/
theorem hasList_append_word (bodies : List (List Char)) (before : List Lexeme) (word : List Char)
    (after : List Lexeme) :
    hasList bodies (before ++ .word word :: after) = hasList bodies (before ++ after) := by
  have hparentheses : ∀ lexemes, hasList bodies lexemes =
      hasList bodies (lexemes.filter Lexeme.isParenthesis) := by
    intro lexemes
    rw [hasList, hasList]
    simp only [afterOpening_filter]
    rw [← Function.comp_def (Option.map _), ← List.map_findSome?, Option.any_map]
    congr 1
    funext rest
    exact (closesFrom_filter 0 rest).symm
  rw [hparentheses, hparentheses (before ++ after), List.filter_append, List.filter_append,
    List.filter_cons_of_neg (by simp [Lexeme.isParenthesis])]

end ServiceGen.Registration
