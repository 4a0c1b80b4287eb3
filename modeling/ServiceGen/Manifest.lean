import ServiceGen.Analysis.ModuleView
import ServiceGen.Toml.Text
import ServiceGen.Workspace

/-!
# Package Manifests

The package that a directory belongs to, with its crate: the nearest manifest upwards that names
a package.
-/

namespace ServiceGen

/-- Why the crate of a directory is not known. -/
inductive ManifestFault
  /-- The working directory or a manifest cannot be read. -/
  | unreadable (fault : FileFault)
  | malformed (path : String)
  /-- No manifest names a package. -/
  | missing (start : String)

namespace Manifest

/-- The file name of a manifest. -/
def fileName : String := "Cargo.toml"

/-- The name of the package that a manifest declares. -/
def packageName? (manifest : Toml.Value) : Option String := do
  (← (← manifest.get? "package").get? "name").text?

/-- The name of the package that a directory has a manifest of. -/
def packageIn (w : Workspace) (dir : String) : Except ManifestFault (Option String) := do
  let path := joinPath dir fileName
  if !w.isFile path then return none
  let text ← (w.text path).mapError .unreadable
  match Toml.parse? text with
  | some manifest => return packageName? manifest
  | none => throw (.malformed path)

/-- The first of some directories that has a package, and the name of that. -/
def firstPackage (w : Workspace) : List String → Except ManifestFault (Option (String × String))
  | [] => .ok none
  | dir :: dirs => do
    match ← packageIn w dir with
    | some name => return some (dir, name)
    | none => firstPackage w dirs

/-- The root of the package that a directory belongs to, and its crate as an identifier. -/
def packageRoot (w : Workspace) (dir : String) : Except ManifestFault (String × String) := do
  let start := joinPath w.dir dir
  match ← firstPackage w ((Path.allAncestors start.toList).map String.ofList) with
  | some (root, name) => return (root, ModuleView.crateIdent name)
  | none => throw (.missing start)

end Manifest

end ServiceGen
