import ServiceGen.CommandLine.Arguments
import ServiceGen.Generator
import ServiceGen.Manifest

/-!
# The Command Line

What the program does when it is called: it lists the modules of a description, or it
generates one module or all of them, and says what it has done.
-/

namespace ServiceGen.CommandLine

/-- Why a command fails. -/
inductive CommandFailure
  | work (failure : Failure)
  | manifest (fault : ManifestFault)
  /-- All modules are asked for, but no description is given. -/
  | noSpec
  /-- It is not said what to generate. -/
  | noMode

/-- The failure of a command in words. -/
def CommandFailure.message : CommandFailure → String
  | .work failure => failure.message
  | .manifest (.unreadable fault) => "IO Error: " ++ fault.message
  | .manifest (.malformed path) => "Usage: Failed to parse " ++ quotedPath path
  | .manifest (.missing start) =>
    "Usage: No Cargo.toml with a [package] found above " ++ quotedPath start
      ++ "; pass --package"
  | .noSpec => "Usage: --all requires --spec"
  | .noMode => "Usage: either --module or --all is required"

/-- What a call of the program leaves. -/
structure Outcome where
  code : Nat
  output : String := ""
  errors : String := ""

/-- The version of the program. -/
def versionText : String := "oas-scaffold-cli 0.1.0\n"

/-- The outcome of a call that carries no command out. -/
def Outcome.ofStop : Stop → Outcome
  | .misuse => { code := 2 }
  | .help => { code := 0 }
  | .version => { code := 0, output := versionText }

/-- Whether a description is to be fetched. -/
def isRemote (source : String) : Bool :=
  let lower := Text.asciiLower source.toList
  "http://".toList.isPrefixOf lower || "https://".toList.isPrefixOf lower

/-- The document that a file or address describes. -/
def loadDocument (w : Workspace) (source : String) : Except Failure Document := do
  if isRemote source then throw (.unreachable source)
  let content ← (w.content source).mapError (.unreadable source)
  Document.parse content.bytes (.ofLocation source)

/-- Lines as a text. -/
def textOfLines (lines : List String) : String :=
  String.join (lines.map (· ++ "\n"))

/-- What is said of a file. -/
def fileLine (path : String) (outcome : WriteOutcome) : String :=
  let verb := match outcome with
    | .written => "wrote"
    | .skipped => "skipped (exists)"
  "  " ++ verb ++ " " ++ path

/-- What is said of a module. -/
def reportLines (r : ModuleReport) : List String :=
  ["Module '" ++ r.module ++ "':"] ++ r.files.map (fun (path, outcome) => fileLine path outcome)
    ++ ["Next steps:"] ++ r.instructions.map ("  - " ++ ·)

/-- What is said of all modules. -/
def batchOutcome (b : BatchReport) : Outcome where
  code := 0
  output := textOfLines (b.reports.flatMap reportLines
    ++ ["Generated " ++ toString b.succeeded ++ " of " ++ toString b.attempted ++ " modules."])
  errors := textOfLines (b.failures.map fun (name, failure) =>
    "warning: module '" ++ name ++ "' failed: " ++ failure.message)

/-- The names of the modules of a description. -/
def listModules (w : Workspace) (spec : String) (primary : Bool) :
    Except CommandFailure Outcome := do
  let d ← (loadDocument w spec).mapError .work
  let names := if primary then d.primaryModules else d.moduleNames
  return { code := 0, output := textOfLines names }

/-- The options of a generator that a request asks for. -/
def generatorOptions (w : Workspace) (r : GenerateRequest) :
    Except CommandFailure GeneratorOptions := do
  let package ← match r.package with
    | some name => pure (ModuleView.crateIdent name)
    | none => ((Manifest.packageRoot w r.output).map (·.2)).mapError .manifest
  return {
    outputDir := r.output
    package
    force := r.force
    withTests := r.tests
    registrationFile := r.registration
    templateDir := r.templates
    strict := r.strict
    maxDepth := r.maxDepth }

/-- The generator that a request asks for, with the document it works on. -/
def prepare (w : Workspace) (r : GenerateRequest) :
    Except CommandFailure (Generator × Option Document) := do
  if r.all && r.spec.isNone then throw .noSpec
  if !r.all && r.module.isNone then throw .noMode
  let document ← (r.spec.mapM (loadDocument w)).mapError .work
  let options ← generatorOptions w r
  let templates ← (options.loadTemplates w).mapError .work
  return ({ options, templates, writer := { format := r.format } }, document)

/-- Generates what a request asks for. -/
def generate (g : Generator) (document : Option Document) (r : GenerateRequest) :
    Generation Outcome := do
  match document, r.module with
  | some d, module =>
    if r.all then return batchOutcome (← g.generateAll d)
    let report ← g.generateModule (some d) (module.getD "")
    return { code := 0, output := textOfLines (reportLines report) }
  | none, module =>
    let report ← g.generateModule none (module.getD "")
    return { code := 0, output := textOfLines (reportLines report) }

/-- The outcome of a command that failed. -/
def Outcome.ofFailure (failure : CommandFailure) : Outcome where
  code := 1
  errors := textOfLines ["error: " ++ failure.message]

/-- What a command leaves, and the workspace after it. -/
def execute (w : Workspace) : Command → Outcome × Workspace
  | .modules spec primary =>
    match listModules w spec primary with
    | .ok outcome => (outcome, w)
    | .error failure => (.ofFailure failure, w)
  | .generate r =>
    match prepare w r with
    | .error failure => (.ofFailure failure, w)
    | .ok (g, document) =>
      let (outcome, session) := (generate g document r).runOn { workspace := w }
      match outcome with
      | .ok outcome => (outcome, session.workspace)
      | .error failure => (.ofFailure (.work failure), session.workspace)

/-- What a call of the program leaves, and the workspace after it. -/
def call (w : Workspace) (args : List String) (environment : Entries String) :
    Outcome × Workspace :=
  match parse args environment with
  | .ok command => execute w command
  | .error stop => (.ofStop stop, w)

end ServiceGen.CommandLine
