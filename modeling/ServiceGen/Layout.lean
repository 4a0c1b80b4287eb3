import ServiceGen.Text.Identifier
import ServiceGen.Path
import ServiceGen.TemplateKind

/-!
# Layout of a Generated Project

Where everything stands that the generator writes or touches below the root of a project.
-/

namespace ServiceGen.Layout

/-- The directories with one file for each module. -/
def moduleDirs : List String :=
  ["logic", "handlers", "types", "errors"]

/-- The file that wires the modules together, unless another one is asked for. -/
def defaultRegistrationFile : String :=
  "src/wire.rs"

/-- Names of files that the generator keeps for itself in the module directories. -/
def ownedNames : List String :=
  ["mod", "context", "response", "helpers"]

/-- Whether a module of this name would share a file with the generator's own files, or
could not be declared. -/
def isReserved (module : String) : Bool :=
  let stem := snakeCase module
  ownedNames.contains stem || isReservedWord stem

/-- The directory of the sources. -/
def sourceDir (root : String) : String :=
  joinPath root "src"

/-- The directory of the handlers and their helpers. -/
def handlersDir (root : String) : String :=
  joinPath (sourceDir root) "handlers"

/-- The file of the request context. -/
def contextHelperPath (root : String) : String :=
  joinPath (handlersDir root) "context.rs"

/-- The file of the response helper. -/
def responseHelperPath (root : String) : String :=
  joinPath (handlersDir root) "response.rs"

/-- The file in which older projects keep both helpers. -/
def legacyHelperPath (root : String) : String :=
  joinPath (handlersDir root) "helpers.rs"

/-- The index files of the module directories. -/
def indexPaths (root : String) : List String :=
  moduleDirs.map fun dir => joinPath (joinPath (sourceDir root) dir) "mod.rs"

/-- The file of a module in one of the module directories. -/
def modulePath (root dir stem : String) : String :=
  joinPath (joinPath (sourceDir root) dir) (stem ++ ".rs")

/-- A test file. -/
def testPath (root file : String) : String :=
  joinPath (joinPath root "tests") file

/-- The files generated for a module, with the kind of template each is made from, in the
order in which they are written. -/
def moduleFiles (root module : String) (withTests : Bool) : List (TemplateKind × String) :=
  let stem := snakeCase module
  let sources := [
    (.logic, modulePath root "logic" stem),
    (.handler, modulePath root "handlers" stem),
    (.types, modulePath root "types" stem),
    (.errors, modulePath root "errors" stem)]
  let tests := [
    (.logicTest, testPath root (stem ++ "_logic.rs")),
    (.handlerTest, testPath root (stem ++ "_handlers.rs"))]
  if withTests then sources ++ tests else sources

end ServiceGen.Layout
