import ServiceGen.Proofs.ParsedImports
import ServiceGen.Proofs.RereadImports

/-!
# Imports That Are Recognized

The parser that the program runs with meets what is asked of a parser (`recognizer_readsImports`):
its imports stand in the source, and it finds them again in another order. It is asked about sources
without a line that names an interpreter, since such a line is told from an attribute by what
follows.
-/

namespace ServiceGen.Source

/-- Imports with the text before each, at the places where they stand from a place on. -/
def foundFrom (place : Nat) : List (List Char × Import) → List FoundImport
  | [] => []
  | (gap, i) :: items =>
    let start := place + gap.length
    let stop := start + i.text.length
    { start, stop, tree? := some i.tree, text := i.text } :: foundFrom stop items

/-- The imports at their places are these. -/
theorem map_entry_foundFrom (place : Nat) (items : List (List Char × Import)) :
    (foundFrom place items).map FoundImport.entry = items.map (·.2) := by
  induction items generalizing place with
  | nil => rfl
  | cons item items ih => rw [foundFrom, List.map_cons, List.map_cons, ih]; rfl

/-- No import stands before the place from which on they do. -/
theorem le_start_of_mem_foundFrom {place : Nat} {items : List (List Char × Import)}
    {i : FoundImport} (h : i ∈ foundFrom place items) : place ≤ i.start := by
  induction items generalizing place with
  | nil => cases h
  | cons item items ih =>
    rw [foundFrom] at h
    obtain rfl | h := List.mem_cons.mp h
    · exact Nat.le_add_right _ _
    · have hle := ih h
      omega

/-- **Imports one behind the other stand in the text that they make up** with what is around
them. -/
theorem standIn_foundFrom (start : List Char) (items : List (List Char × Import))
    (tail : List Char) :
    StandIn (start ++ items.flatMap Import.afterGap ++ tail) (foundFrom start.length items) := by
  induction items generalizing start with
  | nil => exact ⟨by simp [foundFrom], List.Pairwise.nil⟩
  | cons item items ih =>
    obtain ⟨gap, i⟩ := item
    have hsource : start ++ ((gap, i) :: items).flatMap Import.afterGap ++ tail =
        start ++ gap ++ i.text ++ items.flatMap Import.afterGap ++ tail := by
      simp [Import.afterGap]
    have hrest := ih (start ++ gap ++ i.text)
    have hlength : (start ++ gap ++ i.text).length = start.length + gap.length + i.text.length := by
      simp [Nat.add_assoc]
    rw [hlength] at hrest
    rw [foundFrom, hsource]
    constructor
    case text =>
      refine List.forall_mem_cons.mpr ⟨⟨Nat.le_add_right _ _, ?_, ?_⟩, hrest.text⟩
      · simp only [List.length_append]
        omega
      · have hbetween := textBetween_of_append (start ++ gap) i.text
          (items.flatMap Import.afterGap ++ tail)
        simpa [Nat.add_assoc] using hbetween
    case apart => exact List.pairwise_cons.mpr ⟨fun j hj => le_start_of_mem_foundFrom hj, hrest.apart⟩

/-- The leading imports of the items are those that the lexemes begin with. -/
theorem leading_topItems (place : Nat) (spans : List ItemSpan) (lexemes : List Lexeme) :
    TopItem.leading (topItems place spans lexemes) =
      foundFrom place (leadingImports spans lexemes).1 := by
  induction spans generalizing place lexemes with
  | nil => rfl
  | cons span spans ih =>
    rw [topItems, leadingImports]
    cases hnamed : span.named with
    | none => rfl
    | some named =>
      simp only [TopItem.leading, foundFrom, ih]
      rfl

namespace ImportRun

variable {source : List Char} {run : ImportRun}

/-- The imports of a source at their places. -/
def found (run : ImportRun) : List FoundImport :=
  foundFrom run.start.length run.items

/-- Text before the first import belongs to what stands before it. -/
theorem found_ofItems (start : List Char) (items : List (List Char × Import)) (tail : List Char) :
    (ofItems start items tail).found = foundFrom start.length items := by
  cases items with
  | nil => rfl
  | cons item items => simp [found, ofItems, foundFrom]

/-- The imports of a source stand in it. -/
theorem standIn_found (h : read? source = some run) : StandIn source run.found := by
  have hstand := standIn_foundFrom run.start run.items run.tail
  rwa [← block, ← text, text_of_read? h] at hstand

/-- The last import ends where the text begins that stands behind the imports. -/
theorem drop_stop_of_getLast? {i : FoundImport} {start : List Char}
    {items : List (List Char × Import)} (tail : List Char)
    (h : (foundFrom start.length items).getLast? = some i) :
    (start ++ items.flatMap Import.afterGap ++ tail).drop i.stop = tail := by
  induction items generalizing start with
  | nil => cases h
  | cons item items ih =>
    obtain ⟨gap, first⟩ := item
    have hlength : (start ++ gap ++ first.text).length =
        start.length + gap.length + first.text.length := by
      simp [Nat.add_assoc]
    have hsource : start ++ ((gap, first) :: items).flatMap Import.afterGap ++ tail =
        start ++ gap ++ first.text ++ items.flatMap Import.afterGap ++ tail := by
      simp [Import.afterGap]
    rw [hsource]
    cases items with
    | nil =>
      simp only [foundFrom, List.getLast?_singleton, Option.some.injEq] at h
      subst h
      dsimp only
      rw [List.flatMap_nil, List.append_nil, ← hlength, List.drop_left]
    | cons next items =>
      rw [foundFrom, foundFrom, List.getLast?_cons_cons, ← foundFrom, ← hlength] at h
      exact ih h

/-- The first import of a source begins where the text before it ends. -/
theorem start_of_head? (h : read? source = some run) {first : FoundImport}
    (hfirst : run.found.head? = some first) : first.start = run.start.length := by
  obtain ⟨start, ls, rest, items, after, -, rfl⟩ := read?_eq_some_iff.mp h
  cases items with
  | nil => cases hfirst
  | cons item items =>
    obtain rfl := Option.some.inj hfirst
    rfl

end ImportRun

/-! ### The recognizer as a parser -/

/-- The imports that the recognizer finds are those that are read. -/
theorem map_leading_parse (source : List Char) :
    (recognizer.parse source).map TopItem.leading =
      (ImportRun.read? source).map ImportRun.found := by
  rw [ImportRun.read?]
  change Option.map _ ((pieces? source).bind _) = Option.map _ ((pieces? source).bind _)
  cases pieces? source with
  | none => rfl
  | some pieces =>
    simp only [Option.bind_some]
    cases ItemSpan.ofTokens? ((Lexeme.gather [] pieces).1.map (·.token)) with
    | none => rfl
    | some items =>
      refine congrArg some ?_
      rw [leading_topItems, ImportRun.found_ofItems]

/-- What the recognizer finds in a source. -/
theorem recognizer_finds_iff {source : List Char} {found : List FoundImport} :
    recognizer.Finds source found ↔
      ∃ run, ImportRun.read? source = some run ∧ run.found = found := by
  rw [SourceParser.finds_iff, ← Option.map_eq_some_iff, ← Option.map_eq_some_iff,
    map_leading_parse]

/-- Imports with a line break between any two stand at the places from the first one on. -/
theorem map_places_spaced (place : Nat) (l : List Import) :
    (foundFrom place (spaced [] l)).map (fun i => (i.start, i.stop)) = placesFrom place l := by
  have hfurther (l : List Import) (place : Nat) :
      (foundFrom place (l.map (['\n'], ·))).map (fun i => (i.start, i.stop)) =
        placesFrom (place + 1) l := by
    induction l generalizing place with
    | nil => rfl
    | cons i l ih => rw [List.map_cons, foundFrom, List.map_cons, ih]; rfl
  cases l with
  | nil => rfl
  | cons first further => rw [spaced, foundFrom, List.map_cons, hfurther]; rfl

/-- **The recognizer is a parser of imports** for sources without a line that names an
interpreter. -/
theorem recognizer_readsImports {source : List Char} (hline : interpreterLine source = 0) :
    recognizer.ReadsImports source where
  standIn h := by
    obtain ⟨run, hrun, rfl⟩ := recognizer_finds_iff.mp h
    exact run.standIn_found hrun
  rearranged {found first last} h hfirst hlast arranged harranged := by
    obtain ⟨run, hrun, rfl⟩ := recognizer_finds_iff.mp h
    have himports : run.found.map FoundImport.entry = run.imports := map_entry_foundFrom _ _
    rw [himports] at harranged
    have hstart := run.start_of_head? hrun hfirst
    have htext := ImportRun.text_of_read? hrun
    rw [ImportRun.text, ImportRun.block] at htext
    have htake : source.take first.start = run.start := by
      rw [hstart, ← htext, List.append_assoc, List.take_left]
    have hdrop : source.drop last.stop = run.tail := by
      have h := ImportRun.drop_stop_of_getLast? run.tail hlast
      rwa [htext] at h
    have hne : arranged ≠ [] := by
      rintro rfl
      have himport : first.entry ∈ run.imports :=
        himports ▸ List.mem_map_of_mem (List.mem_of_mem_head? hfirst)
      exact List.not_mem_nil (harranged.mem _ himport)
    have hlength : arranged.length ≤ run.items.length := by
      have hle := harranged.subperm.length_le
      rwa [ImportRun.imports, List.length_map] at hle
    have hagain := ImportRun.read?_withImports hrun hline
      (fun i hi => harranged.subperm.subset hi) hne hlength
    refine ⟨(run.withImports arranged).found, ?_, ?_, ?_⟩
    · rw [recognizer_finds_iff, htake, hdrop, ← flatMap_afterGap_spaced]
      exact ⟨_, hagain, rfl⟩
    · exact (map_entry_foundFrom _ _).trans (ImportRun.imports_withImports arranged)
    · rw [hstart]
      exact map_places_spaced _ arranged

end ServiceGen.Source
