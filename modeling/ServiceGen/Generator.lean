import ServiceGen.Document.Parse
import ServiceGen.Scaffold
import ServiceGen.Support

/-!
# Generators

The whole way from a document to the files of a project: extract a module, view it, render
its files, provide the support files, write, register. Everything is rendered before anything
is touched. A generator works through a session, in which it provides the support files once.
-/

namespace ServiceGen

/-- What a generator is asked to do. -/
structure GeneratorOptions where
  /-- The root of the project. -/
  outputDir : String
  /-- The crate of the project. -/
  package : String
  /-- Whether existing files are replaced. -/
  force : Bool := false
  /-- Whether tests are generated. -/
  withTests : Bool := false
  /-- The file that registers the modules, seen from the root. -/
  registrationFile : String := Layout.defaultRegistrationFile
  /-- The template directory, if one is given. -/
  templateDir : Option String := none
  /-- Whether a reference without a target is an error. -/
  strict : Bool := false
  /-- How many references are followed one after the other. -/
  maxDepth : Nat := Resolver.defaultMaxDepth

namespace GeneratorOptions

/-- The templates for the options. Without a given directory, they are looked for upwards
from the root of the project. -/
def loadTemplates (o : GeneratorOptions) (w : Workspace) : Except Failure TemplateSet :=
  TemplateSet.load w o.templateDir ((w.canonical? o.outputDir).getD o.outputDir)

/-- The path of the file that registers the modules. -/
def registrationPath (o : GeneratorOptions) : String :=
  joinPath o.outputDir o.registrationFile

end GeneratorOptions

/-- What was done for a module. -/
structure ModuleReport where
  /-- The name of the module in snake case. -/
  module : String
  /-- The files of the module, and whether each was written. -/
  files : List (String × WriteOutcome)
  /-- The registered items, and what became of each. -/
  injections : List (String × Registration.Outcome)
  /-- What is left to the user. -/
  instructions : List String
deriving Inhabited

/-- The number of files that were written. -/
def ModuleReport.written (r : ModuleReport) : Nat :=
  (r.files.filter (·.2 = .written)).length

/-- What was done for all modules of a document. -/
structure BatchReport where
  /-- The number of modules that were tried. -/
  attempted : Nat := 0
  /-- The number of modules that succeeded. -/
  succeeded : Nat := 0
  /-- The modules that failed, and why. -/
  failures : List (String × Failure) := []
  /-- The reports of the others. -/
  reports : List ModuleReport := []
deriving Inhabited

/-- A batch with what came of one more module. -/
def BatchReport.record (batch : BatchReport) (name : String) :
    Except Failure ModuleReport → BatchReport
  | .ok report =>
    { batch with
      attempted := batch.attempted + 1
      succeeded := batch.succeeded + 1
      reports := batch.reports ++ [report] }
  | .error failure =>
    { batch with
      attempted := batch.attempted + 1
      failures := batch.failures ++ [(name, failure)] }

/-- A generator. -/
structure Generator where
  options : GeneratorOptions
  templates : TemplateSet
  writer : Writer

/-- What a session changes. -/
structure Session where
  workspace : Workspace
  /-- What was done about the support files, once it was. -/
  support : Option SupportReport := none

/-- Work of a session. A failure keeps what was done before it. -/
abbrev Generation := ExceptT Failure (StateM Session)

namespace Generation

/-- Work on the files, as work of a session. -/
def ofWork {α : Type} (work : Work α) : Generation α := do
  let session ← get
  let (outcome, workspace) := work.runOn session.workspace
  set { session with workspace }
  match outcome with
  | .ok a => return a
  | .error failure => throw failure

/-- What work gives in a session, and the session after it. -/
def runOn {α : Type} (work : Generation α) (session : Session) : Except Failure α × Session :=
  (work.run).run session

end Generation

namespace Generator

/-- Provides the support files, unless the session has done so. -/
def ensureSupport (g : Generator) : Generation SupportReport := do
  match (← get).support with
  | some report => return report
  | none =>
    let work := Support.ensure g.options.outputDir g.templates g.writer g.options.package
    let session ← get
    let (outcome, workspace) := work.runOn session.workspace
    match outcome with
    | .ok report =>
      set { session with workspace, support := some report }
      return report
    | .error cause =>
      set { session with workspace }
      throw (.support cause)

/-- The resolver for a document. -/
def resolver (g : Generator) (d : Document) : Resolver :=
  { document := d, maxDepth := g.options.maxDepth, strict := g.options.strict }

/-- The view of a module of a document. Without a document, one is made up for the module. -/
def view (g : Generator) (document : Option Document) (name : String) :
    Except Failure ModuleView := do
  if Layout.isReserved name then throw (.reservedModule name)
  let d ← match document with
    | some d => pure d
    | none => Scaffold.document name
  let m := ApiModule.ofDocument d name
  if m.isEmpty then throw (.noOperations name)
  ModuleView.build m g.options.package (g.resolver d)

/-- The files of a module with their contents. -/
def renderFiles (g : Generator) (view : ModuleView) : Except Failure (List (String × String)) :=
  (Layout.moduleFiles g.options.outputDir view.module g.options.withTests).mapM
    fun (kind, path) => do return (path, ← g.templates.renderModule kind view)

/-- A path seen from the root of the project, where it is below. -/
def shown (g : Generator) (path : String) : String :=
  ((Path.relativeTo? g.options.outputDir.toList path.toList).map String.ofList).getD path

/-- Registers an item and says how to do so by hand. -/
def registerItem (g : Generator) (item list : String) (markers : List String) :
    Work ((String × Registration.Outcome) × String) := do
  let path := g.options.registrationPath
  let outcome ← Registration.insertInFile path item markers
  let instruction := "Register `" ++ item ++ "` in the `" ++ list ++ "(...)` list of "
    ++ g.shown path
  return ((item, outcome), instruction)

/-- Registers a module, and declares it in the index files. -/
def register (g : Generator) (view : ModuleView) :
    Work (List (String × Registration.Outcome) × List String) := do
  let logic := "logic::" ++ view.module ++ "::" ++ view.logicType ++ "::new"
  let handlers := "handlers::" ++ view.module ++ "::" ++ view.handlerType ++ "::new"
  let (first, firstStep) ←
    g.registerItem logic "provide_logic!" Registration.logicMarkers
  let (second, secondStep) ←
    g.registerItem handlers "provide_handlers!" Registration.handlerMarkers
  for index in Layout.indexPaths g.options.outputDir do
    let _ ← Registration.declareInFile index view.module
  return ([first, second], [firstStep, secondStep])

/-- Generates a module. Without a document, one is made up for it. -/
def generateModule (g : Generator) (document : Option Document) (name : String) :
    Generation ModuleReport := do
  let view ← Generation.ofWork (Work.ofExcept (g.view document name))
  let rendered ← Generation.ofWork (Work.ofExcept (g.renderFiles view))
  let _ ← g.ensureSupport
  let files ← rendered.mapM fun (path, content) => do
    return (path, ← Generation.ofWork (g.writer.write path content g.options.force))
  let (injections, instructions) ← Generation.ofWork (g.register view)
  return { module := view.module, files, injections, instructions }

/-- Generates further modules of a batch. One that fails does not keep the others back. -/
def generateModules (g : Generator) (d : Document) (batch : BatchReport) :
    List String → StateM Session BatchReport
  | [] => return batch
  | name :: names => do
    let outcome ← (g.generateModule (some d) name).run
    generateModules g d (batch.record name outcome) names

/-- Generates all modules of a document. -/
def generateAll (g : Generator) (d : Document) : Generation BatchReport := do
  let _ ← g.ensureSupport
  let batch ← ExceptT.lift (g.generateModules d {} d.primaryModules)
  return batch

end Generator

end ServiceGen
