import ServiceGen.Proofs.Generation
import ServiceGen.Proofs.PrimaryModules

/-!
# Files of a Batch

The modules of a batch are the primary modules of the operations, each once
(`nodup_primaryModules`). Their names are canonical, so their files are told apart by the parts
of the names: `keepsFilesApart_iff` says that **a batch keeps the files of its modules apart
exactly if** no two of its names have the same parts. The names `order-item` and `order_item`
do, and both modules are generated into the same files (`not_forall_keepsFilesApart`).
-/

namespace ServiceGen

namespace Document

/-- The modules of a batch come once each. -/
theorem nodup_primaryModules (d : Document) : d.primaryModules.Nodup :=
  nodup_sortedNames _

/-! ### Files of a batch -/

/-- A batch keeps the files of its modules apart. -/
structure KeepsFilesApart (d : Document) : Prop where
  /-- No file is that of two modules, under any root, with or without tests. -/
  disjoint : ∀ a ∈ d.primaryModules, ∀ b ∈ d.primaryModules, a ≠ b →
    ∀ (root : String) (withTests : Bool),
      List.Disjoint (Layout.paths root a withTests) (Layout.paths root b withTests)
  /-- No file comes twice in the reports of a run. -/
  nodup : ∀ (g : Generator) (s t : Session) (batch : BatchReport),
    (g.generateAll d).runOn s = (.ok batch, t) →
      (batch.reports.flatMap fun report => report.files.map (·.1)).Nodup

/-- The files of all modules of a batch are distinct, where no two names have the same parts. -/
theorem nodup_pathsOf {d : Document}
    (h : ∀ a ∈ d.primaryModules, ∀ b ∈ d.primaryModules, a ≠ b →
      Text.parts a.toList ≠ Text.parts b.toList) (g : Generator) :
    (d.primaryModules.flatMap fun name => g.pathsOf (snakeCase name)).Nodup := by
  refine List.nodup_flatMap.mpr ⟨fun name _ => Layout.nodup_paths _ _ _, ?_⟩
  refine (d.nodup_primaryModules).imp_of_mem fun {a b} ha hb hne => ?_
  have hcanonicala := canonical_of_mem_primaryModules ha
  have hcanonicalb := canonical_of_mem_primaryModules hb
  refine (Layout.disjoint_paths_iff _ _ _ _).mpr ?_
  rw [hcanonicala.snakeCase_snakeCase, hcanonicalb.snakeCase_snakeCase, Ne,
    ModuleName.snakeCase_eq_iff hcanonicala hcanonicalb]
  exact h a ha b hb hne

/-- **A batch keeps the files of its modules apart exactly if** no two of its names have the
same parts between underscores and hyphens. -/
theorem keepsFilesApart_iff (d : Document) :
    d.KeepsFilesApart ↔ ∀ a ∈ d.primaryModules, ∀ b ∈ d.primaryModules, a ≠ b →
      Text.parts a.toList ≠ Text.parts b.toList := by
  constructor
  · intro h a ha b hb hne hparts
    have hstem := (ModuleName.snakeCase_eq_iff (canonical_of_mem_primaryModules ha)
      (canonical_of_mem_primaryModules hb)).mpr hparts
    exact (Layout.disjoint_paths_iff "" a b false).mp (h.disjoint a ha b hb hne "" false) hstem
  · intro h
    refine ⟨fun a ha b hb hne root withTests => ?_, fun g s t batch hrun => ?_⟩
    · rw [Layout.disjoint_paths_iff, Ne, ModuleName.snakeCase_eq_iff
        (canonical_of_mem_primaryModules ha) (canonical_of_mem_primaryModules hb)]
      exact h a ha b hb hne
    · obtain ⟨support, s', -, hbatch⟩ := Generator.of_generateAll_eq_ok hrun
      have hsublist := hbatch.sublist.flatten
      rw [← List.flatMap_def, ← List.flatMap_def] at hsublist
      exact (nodup_pathsOf h g).sublist hsublist

/-- A document of two operations with tags that differ in their separator only. -/
def hyphenAndUnderscore : Document where
  paths := [
    ("/x", { get := some { tags := ["order-item"] } }),
    ("/y", { get := some { tags := ["order_item"] } })]

/-- The two modules of `hyphenAndUnderscore` have the same files. -/
theorem not_forall_keepsFilesApart : ¬ ∀ d : Document, d.KeepsFilesApart := by
  intro hall
  have hbatch : hyphenAndUnderscore.primaryModules = ["order-item", "order_item"] := by decide
  have hdisjoint := (hall hyphenAndUnderscore).disjoint "order-item" (by rw [hbatch]; decide)
    "order_item" (by rw [hbatch]; decide) (by decide) "" false
  exact (Layout.disjoint_paths_iff _ _ _ _).mp hdisjoint (by decide)

end Document

end ServiceGen
