import ServiceGen.Layout
import ServiceGen.Proofs.ModuleNames

/-!
# Files of Different Modules

The path of a generated file can be read back: `decodeIn` finds the stem of the module and
which of its files this is (`map_decodeIn_moduleFiles`). So a module's files are distinct
(`nodup_paths`), and two modules share a file exactly if they have the same stem
(`disjoint_paths_iff`), and then they share all of them.

A stem is the snake-case form of a name, which forgets how the parts of the name are separated:
canonical names have the same stem exactly if they have the same parts (`snakeCase_eq_iff`).
-/

namespace ServiceGen

/-! ### The last separator -/

namespace Text

/-- The text before the last occurrence of a character, and the text after it. -/
def cutLast (sep : Char) (cs : List Char) : List Char × List Char :=
  (((cs.reverse.dropWhile (· != sep)).drop 1).reverse, (cs.reverse.takeWhile (· != sep)).reverse)

/-- A text is cut before a rest without the separator. -/
theorem cutLast_append {sep : Char} {rest : List Char} (h : sep ∉ rest) (cs : List Char) :
    cutLast sep (cs ++ sep :: rest) = (cs, rest) := by
  have hrest : ∀ c ∈ rest.reverse, (c != sep) = true := by
    intro c hc
    exact bne_iff_ne.mpr fun heq => h (heq ▸ List.mem_reverse.mp hc)
  rw [cutLast, List.reverse_append, List.reverse_cons, List.append_assoc, List.singleton_append,
    List.dropWhile_append_of_pos hrest, List.takeWhile_append_of_pos hrest,
    List.dropWhile_cons_of_neg (by simp), List.takeWhile_cons_of_neg (by simp)]
  simp

end Text

/-! ### Paths below a directory -/

namespace Path

/-- What stands before the paths inside a directory. -/
def opening (dir : Chars) : Chars :=
  if dir.isEmpty then []
  else if dir.getLast? == some '/' then dir
  else dir ++ ['/']

/-- A path without slashes is relative. -/
theorem isAbsolute_of_not_mem {path : Chars} (h : '/' ∉ path) : isAbsolute path = false := by
  cases path with
  | nil => rfl
  | cons c rest =>
      rw [List.mem_cons, not_or] at h
      exact beq_eq_false_iff_ne.mpr fun heq => h.1 (Option.some.inj heq).symm

/-- A relative path stands behind the opening of its directory. -/
theorem append_of_relative {path : Chars} (h : isAbsolute path = false) (dir : Chars) :
    append dir path = opening dir ++ path := by
  rw [append, opening, h, Bool.false_or]
  split
  · rfl
  · split
    · rfl
    · rw [List.append_assoc, List.singleton_append]

/-- The opening of a directory with a name. -/
theorem opening_append {name : Chars} (hne : name ≠ []) (h : '/' ∉ name) (before : Chars) :
    opening (before ++ name) = before ++ name ++ ['/'] := by
  have hlast : (before ++ name).getLast? ≠ some '/' := by
    rw [List.getLast?_append_of_ne_nil _ hne]
    exact fun hlast => h (List.mem_of_getLast? hlast)
  rw [opening, if_neg (by simp [hne]), if_neg (by simpa using hlast)]

/-- A path inside a directory, character by character. -/
theorem toList_joinPath {path : String} (h : isAbsolute path.toList = false) (dir : String) :
    (joinPath dir path).toList = opening dir.toList ++ path.toList := by
  rw [joinPath, String.toList_ofList, append_of_relative h]

end Path

namespace Layout

/-- The path of a file in one of the module directories. -/
theorem toList_modulePath {root dir stem : String} (hdir : dir.toList ≠ [])
    (hdirslash : '/' ∉ dir.toList) (hstem : '/' ∉ stem.toList) :
    (modulePath root dir stem).toList = Path.opening root.toList ++
      ("src".toList ++ '/' :: (dir.toList ++ '/' :: (stem.toList ++ ".rs".toList))) := by
  have hfile : '/' ∉ (stem ++ ".rs").toList := by
    rw [String.toList_append, List.mem_append, not_or]
    exact ⟨hstem, by decide⟩
  have hsource : (sourceDir root).toList = Path.opening root.toList ++ "src".toList :=
    Path.toList_joinPath (by decide) root
  rw [modulePath, Path.toList_joinPath (Path.isAbsolute_of_not_mem hfile),
    Path.toList_joinPath (Path.isAbsolute_of_not_mem hdirslash), hsource,
    Path.opening_append hdir hdirslash, Path.opening_append (by decide) (by decide),
    String.toList_append]
  simp only [List.append_assoc, List.nil_append, List.cons_append]

/-- The path of a test. -/
theorem toList_testPath {root file : String} (hfile : '/' ∉ file.toList) :
    (testPath root file).toList =
      Path.opening root.toList ++ ("tests".toList ++ '/' :: file.toList) := by
  have htests : (joinPath root "tests").toList = Path.opening root.toList ++ "tests".toList :=
    Path.toList_joinPath (by decide) root
  rw [testPath, Path.toList_joinPath (Path.isAbsolute_of_not_mem hfile), htests,
    Path.opening_append (by decide) (by decide)]
  simp only [List.append_assoc, List.singleton_append]

/-! ### Reading paths back -/

/-- Which file of a module a path below the root is, and the stem of the module. A source is
told from the others by its directory, a test by what follows the stem. -/
def decode (relative : Path.Chars) : Path.Chars × Path.Chars :=
  match Text.splitAtChar '/' relative with
  | [_, dir, file] => (dir, (Text.cutLast '.' file).1)
  | [_, file] => ((Text.cutLast '_' file).2, (Text.cutLast '_' file).1)
  | _ => ([], [])

/-- Which file of which module below a root a path is. -/
def decodeIn (root path : String) : Path.Chars × Path.Chars :=
  decode (path.toList.drop (Path.opening root.toList).length)

/-- A source is read back as that of its directory. -/
theorem decodeIn_modulePath (root : String) {dir stem : String} (hdir : dir.toList ≠ [])
    (hdirslash : '/' ∉ dir.toList) (hstem : '/' ∉ stem.toList) :
    decodeIn root (modulePath root dir stem) = (dir.toList, stem.toList) := by
  have hfile : '/' ∉ stem.toList ++ ".rs".toList := by
    rw [List.mem_append, not_or]
    exact ⟨hstem, by decide⟩
  have hsplit : Text.splitAtChar '/'
      ("src".toList ++ '/' :: (dir.toList ++ '/' :: (stem.toList ++ ".rs".toList))) =
        ["src".toList, dir.toList, stem.toList ++ ".rs".toList] := by
    rw [Text.splitAtChar_append_cons (by decide), Text.splitAtChar_append_cons hdirslash,
      Text.splitAtChar_eq_singleton hfile]
  have hcut : Text.cutLast '.' (stem.toList ++ ".rs".toList) = (stem.toList, "rs".toList) :=
    Text.cutLast_append (by decide) stem.toList
  rw [decodeIn, toList_modulePath hdir hdirslash hstem, List.drop_left, decode, hsplit]
  simp only [hcut]

/-- A test is read back as that with its ending. -/
theorem decodeIn_testPath (root : String) {stem ending : String} (hstem : '/' ∉ stem.toList)
    (hslash : '/' ∉ ending.toList) (hmark : '_' ∉ ending.toList) :
    decodeIn root (testPath root (stem ++ ("_" ++ ending))) = (ending.toList, stem.toList) := by
  have hname : (stem ++ ("_" ++ ending)).toList = stem.toList ++ '_' :: ending.toList := by
    rw [String.toList_append, String.toList_append]
    rfl
  have hfile : '/' ∉ stem.toList ++ '_' :: ending.toList := by
    rw [List.mem_append, List.mem_cons, not_or, not_or]
    exact ⟨hstem, by decide, hslash⟩
  have hsplit : Text.splitAtChar '/'
      ("tests".toList ++ '/' :: (stem.toList ++ '_' :: ending.toList)) =
        ["tests".toList, stem.toList ++ '_' :: ending.toList] := by
    rw [Text.splitAtChar_append_cons (by decide), Text.splitAtChar_eq_singleton hfile]
  rw [decodeIn, toList_testPath (hname ▸ hfile), List.drop_left, decode, hname, hsplit]
  simp only [Text.cutLast_append hmark]

/-- What the files of a module are told apart by: the directories of the sources, and the
endings of the tests. -/
def marks (withTests : Bool) : List String :=
  if withTests then moduleDirs ++ ["logic.rs", "handlers.rs"] else moduleDirs

/-- **The paths of a module are read back** as its files, each once, with its stem. -/
theorem map_decodeIn_moduleFiles (root module : String) (withTests : Bool) :
    (moduleFiles root module withTests).map (fun file => decodeIn root file.2) =
      (marks withTests).map fun mark => (mark.toList, (snakeCase module).toList) := by
  have hstem : '/' ∉ (snakeCase module).toList := by
    rw [snakeCase, String.toList_ofList]
    exact Text.not_mem_snake (by decide) (by decide) (by decide) _
  have hsources : moduleDirs.map
      (fun dir => decodeIn root (modulePath root dir (snakeCase module))) =
        moduleDirs.map fun dir => (dir.toList, (snakeCase module).toList) := by
    refine List.map_congr_left fun dir hdir => ?_
    have hname : dir.toList ≠ [] ∧ '/' ∉ dir.toList := by
      revert dir
      decide
    exact decodeIn_modulePath root hname.1 hname.2 hstem
  have htests : ["logic.rs", "handlers.rs"].map
      (fun ending => decodeIn root (testPath root (snakeCase module ++ ("_" ++ ending)))) =
        ["logic.rs", "handlers.rs"].map fun ending =>
          (ending.toList, (snakeCase module).toList) := by
    refine List.map_congr_left fun ending hending => ?_
    have hname : '/' ∉ ending.toList ∧ '_' ∉ ending.toList := by
      revert ending
      decide
    exact decodeIn_testPath root hstem hname.1 hname.2
  rw [moduleFiles, marks]
  cases withTests with
  | false => exact hsources
  | true =>
      simp only [if_true, List.map_append]
      exact congrArg₂ (· ++ ·) hsources htests

/-- The paths of the files of a module. -/
def paths (root module : String) (withTests : Bool) : List String :=
  (moduleFiles root module withTests).map (·.2)

/-- What the paths of a module are read back as. -/
theorem map_decodeIn_paths (root module : String) (withTests : Bool) :
    (paths root module withTests).map (decodeIn root) =
      (marks withTests).map fun mark => (mark.toList, (snakeCase module).toList) := by
  rw [paths, List.map_map]
  exact map_decodeIn_moduleFiles root module withTests

/-- **The files of a module are distinct.** -/
theorem nodup_paths (root module : String) (withTests : Bool) :
    (paths root module withTests).Nodup := by
  refine List.Nodup.of_map (decodeIn root) ?_
  rw [map_decodeIn_paths]
  refine List.Nodup.map (fun a b hab => String.toList_inj.mp (congrArg Prod.fst hab)) ?_
  cases withTests <;> decide

/-- Every file of a module is read back with its stem. -/
theorem stem_of_mem_paths {root module : String} {withTests : Bool} {path : String}
    (h : path ∈ paths root module withTests) :
    (decodeIn root path).2 = (snakeCase module).toList := by
  have hmem := List.mem_map_of_mem (f := decodeIn root) h
  rw [map_decodeIn_paths] at hmem
  obtain ⟨mark, -, hmark⟩ := List.mem_map.mp hmem
  rw [← hmark]

/-- Modules with the same stem have the same files. -/
theorem paths_eq_of_snakeCase_eq {a b : String} (h : snakeCase a = snakeCase b) (root : String)
    (withTests : Bool) : paths root a withTests = paths root b withTests := by
  rw [paths, paths, moduleFiles, moduleFiles, h]

/-- **Two modules have files of their own exactly if they have different stems.** -/
theorem disjoint_paths_iff (root a b : String) (withTests : Bool) :
    List.Disjoint (paths root a withTests) (paths root b withTests) ↔
      snakeCase a ≠ snakeCase b := by
  constructor
  · intro hdisjoint heq
    have hfile : modulePath root "logic" (snakeCase a) ∈ paths root a withTests := by
      cases withTests <;> exact List.mem_cons_self
    exact hdisjoint hfile (paths_eq_of_snakeCase_eq heq root withTests ▸ hfile)
  · intro hne path ha hb
    exact hne (String.toList_inj.mp ((stem_of_mem_paths ha).symm.trans (stem_of_mem_paths hb)))

end Layout

/-! ### Stems of canonical names -/

namespace ModuleName

/-- A canonical name has no capitals by the rules for any script. -/
theorem Canonical.noCapitals {name : String} (h : Canonical name) :
    ∀ c ∈ name.toList, Text.Letter.isUpper c = false := by
  intro c hc
  rw [Text.Letter.isUpper, if_pos (h.isPlain c hc).1, h.small c hc]

/-- A canonical name is ASCII. -/
theorem Canonical.isAscii {name : String} (h : Canonical name) :
    ∀ c ∈ name.toList, Text.Letter.isAscii c = true :=
  fun c hc => (h.isPlain c hc).1

/-- **Canonical names have the same stem exactly if they have the same parts.** -/
theorem snakeCase_eq_iff {a b : String} (ha : Canonical a) (hb : Canonical b) :
    snakeCase a = snakeCase b ↔ Text.parts a.toList = Text.parts b.toList := by
  constructor
  · intro heq
    have hchars := congrArg String.toList heq
    rw [snakeCase, snakeCase, String.toList_ofList, String.toList_ofList] at hchars
    rw [← Text.parts_snake_of_noCapitals ha.noCapitals ha.isAscii,
      ← Text.parts_snake_of_noCapitals hb.noCapitals hb.isAscii, hchars]
  · intro heq
    rw [snakeCase, snakeCase, Text.snake_of_noCapitals ha.noCapitals ha.isAscii,
      Text.snake_of_noCapitals hb.noCapitals hb.isAscii, heq]

/-- The stem of a canonical name is its own stem. -/
theorem Canonical.snakeCase_snakeCase {name : String} (h : Canonical name) :
    snakeCase (snakeCase name) = snakeCase name := by
  rw [snakeCase, snakeCase, String.toList_ofList,
    Text.snake_snake_of_noCapitals h.noCapitals h.isAscii]

end ModuleName

end ServiceGen
