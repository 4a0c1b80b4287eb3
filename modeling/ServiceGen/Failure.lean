import ServiceGen.Text.Quoted

/-!
# Failures

Everything that can go wrong, by cause. `Failure.message` words a failure for the user: the
area of the work it belongs to, and what happened.
-/

namespace ServiceGen

/-- Why a file or directory cannot be used. -/
inductive FileFault
  | notFound
  | isDirectory
  | notDirectory
  | alreadyExists
  | notText
deriving DecidableEq, Inhabited

/-- The words of the operating system for a fault. -/
def FileFault.message : FileFault → String
  | .notFound => "No such file or directory (os error 2)"
  | .isDirectory => "Is a directory (os error 21)"
  | .notDirectory => "Not a directory (os error 20)"
  | .alreadyExists => "File exists (os error 17)"
  | .notText => "stream did not contain valid UTF-8"

/-- What was to be done with a file or directory. -/
inductive FileAction
  | read
  | readTemplate
  | write
  | writeFile
  | createDirectory
  | scan
deriving DecidableEq, Inhabited

/-- The words for an action that failed. -/
def FileAction.failed : FileAction → String
  | .read => "Failed to read "
  | .readTemplate => "Failed to read template "
  | .write => "Failed to write "
  | .writeFile => "Failed to write file "
  | .createDirectory => "Failed to create directory "
  | .scan => "Failed to scan "

/-- The areas of the work. -/
inductive Area
  | load
  | parse
  | resolve
  | template
  | general
deriving DecidableEq

/-- A failure. -/
inductive Failure
  /-- A text that should be YAML describes no document. -/
  | malformedYaml
  /-- A text that should be JSON describes no document. -/
  | malformedJson
  /-- A text describes a document in no format. -/
  | unrecognizedFormat
  /-- A description cannot be read. -/
  | unreadable (source : String) (fault : FileFault)
  /-- A description cannot be fetched. -/
  | unreachable (source : String)
  /-- A reference has no target. -/
  | unresolvable (reference : String)
  /-- A template is malformed or cannot be rendered. -/
  | template (name : String)
  /-- A name cannot be made a module name. -/
  | invalidModuleName (name : String)
  /-- A module of this name would collide with the generator's own files. -/
  | reservedModule (name : String)
  /-- A module has no operations. -/
  | noOperations (name : String)
  /-- There is no such template directory. -/
  | noTemplateDirectory (path : String)
  /-- A source is not well-formed. -/
  | malformedSource
  /-- There is more than white space between the imports of a source. -/
  | textBetweenImports
  /-- A file or directory cannot be used. -/
  | file (action : FileAction) (path : String) (fault : FileFault)
  /-- The support files could not be provided. -/
  | support (cause : Failure)
deriving DecidableEq, Inhabited

namespace Failure

/-- The area a failure belongs to. -/
def area : Failure → Area
  | .malformedYaml | .malformedJson => .parse
  | .unrecognizedFormat | .unreadable .. | .unreachable _ => .load
  | .unresolvable _ => .resolve
  | .template _ => .template
  | _ => .general

/-- A failure in words. -/
def message : Failure → String
  | .malformedYaml => "Parse Error: Failed to parse YAML document"
  | .malformedJson => "Parse Error: Failed to parse JSON document"
  | .unrecognizedFormat => "Load Error: Unrecognized document format"
  | .unreadable source fault =>
    "Load Error: Failed to read " ++ source ++ ": " ++ fault.message
  | .unreachable source => "Load Error: Failed to fetch " ++ source
  | .unresolvable reference => "Resolve Error: Unresolvable reference '" ++ reference ++ "'"
  | .template name => "Template Error [" ++ name ++ "]"
  | .invalidModuleName name =>
    "General Error: Module name '" ++ name ++ "' is not a valid identifier"
  | .reservedModule name =>
    "General Error: Module name '" ++ name ++ "' collides with a generated support or index file"
  | .noOperations name => "General Error: No operations match module '" ++ name ++ "'"
  | .noTemplateDirectory path =>
    "General Error: Template directory not found: " ++ quotedPath path
  | .malformedSource => "General Error: Failed to parse generated source"
  | .textBetweenImports => "General Error: Comments between imports; leaving them in place"
  | .file action path fault =>
    "General Error: " ++ action.failed ++ quotedPath path ++ ": " ++ fault.message
  | .support cause => "General Error: Failed to ensure support files: " ++ cause.message

end Failure

end ServiceGen
