import ServiceGen.Analysis.ModuleView
import ServiceGen.Template.BuiltIn
import ServiceGen.Template.Render
import ServiceGen.Workspace

/-!
# Sets of Templates

One template of each kind, built in or from a directory of the project. A directory need not
have all of them: a kind without a file keeps its built-in template.
-/

namespace ServiceGen

/-- A template of each kind. -/
structure TemplateSet where
  /-- The directory that the templates are from, if they are not all built in. -/
  dir : Option String
  /-- The parsed templates by name. -/
  templates : Entries (List Template.Stmt)

namespace TemplateSet

/-- Where the template directory of a project may be, seen from one of its directories. -/
def candidates : List String :=
  ["templates/scaffold", ".oas-scaffold/templates", "core/templates"]

/-- How many directories upwards are searched, with the one where the search starts. -/
def searchedDirs : Nat := 8

/-- Whether a directory has a template of some kind. -/
def hasTemplates (w : Workspace) (dir : String) : Bool :=
  TemplateKind.all.any fun kind => w.isFile (joinPath dir kind.fileName)

/-- The nearest template directory upwards from a directory. -/
def find? (w : Workspace) (start : String) : Option String :=
  (Path.ancestors searchedDirs start.toList).findSome? fun dir =>
    (candidates.map (joinPath (String.ofList dir))).find? (hasTemplates w)

/-- The source of a template: its file in a directory, or the built-in one. -/
def sourceOf (w : Workspace) (dir : Option String) (kind : TemplateKind) :
    Except Failure String :=
  match dir.map (joinPath · kind.fileName) with
  | some path =>
    if w.isFile path then
      (w.text path).mapError (.file .readTemplate path)
    else .ok kind.builtIn
  | none => .ok kind.builtIn

/-- The templates of a directory, or the built-in ones. -/
def build (w : Workspace) (dir : Option String) : Except Failure TemplateSet := do
  let templates ← TemplateKind.all.mapM fun kind => do
    let source ← sourceOf w dir kind
    match Template.parse? source with
    | some statements => return (kind.name, statements)
    | none => throw (.template kind.name)
  return { dir, templates }

/-- The templates of a directory, which must exist. -/
def ofDirectory (w : Workspace) (dir : String) : Except Failure TemplateSet :=
  if w.isDirectory dir then build w (some dir) else .error (.noTemplateDirectory dir)

/-- The templates of a given directory; without one, those of the nearest template directory
upwards from a directory, or else the built-in ones. -/
def load (w : Workspace) (given : Option String) (start : String) : Except Failure TemplateSet :=
  match given.or (find? w start) with
  | some dir => ofDirectory w dir
  | none => build w none

/-- What the template of a given name writes for data. -/
def render (set : TemplateSet) (name : String) (data : Json) : Except Failure String :=
  match Template.render? set.templates name data with
  | some text => .ok text
  | none => .error (.template name)

/-- The file of a kind for a module. -/
def renderModule (set : TemplateSet) (kind : TemplateKind) (view : ModuleView) :
    Except Failure String :=
  set.render kind.name view.toJson

/-- A support file of a crate. -/
def renderSupport (set : TemplateSet) (kind : TemplateKind) (crate : String) :
    Except Failure String :=
  set.render kind.name (.object [("package", .text crate)])

end TemplateSet

end ServiceGen
