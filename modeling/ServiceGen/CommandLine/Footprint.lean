import ServiceGen.CommandLine

/-!
# The Footprint of a Call

The files and directories that a call of the program may look at. A workspace that has them
as they are is as good as one that has all files.
-/

namespace ServiceGen.CommandLine

/-- The paths that are looked at in a directory and in those above it. -/
def searchedPaths (start : String) : List String :=
  (Path.allAncestors start.toList).flatMap fun dir =>
    (Manifest.fileName :: TemplateSet.candidates).map (joinPath (String.ofList dir))

/-- The paths that a generator looks at in a project. -/
def projectPaths (r : GenerateRequest) : List String :=
  [joinPath r.output r.registration, Layout.sourceDir r.output, joinPath r.output "tests"]

/-- The paths that a command looks at. -/
def Command.footprint (dir : String) : Command → List String
  | .modules spec _ => [spec]
  | .generate r =>
    r.spec.toList ++ r.templates.toList ++ projectPaths r ++ searchedPaths (joinPath dir r.output)

/-- The directories that a command takes to be there if they are. -/
def Command.directories : Command → List String
  | .modules .. => []
  | .generate r => [r.output]

/-- All environment variables that options may be taken from. -/
def environmentNames : List String :=
  (generateOptions ++ modulesOptions).map (·.environmentName)

/-- The place that a path leads to where no directory is a link to another one. -/
def placeOf (dir path : String) : List String :=
  let segments := Path.segments (joinPath dir path).toList
  segments.foldl (fun place segment =>
    if segment == ['.', '.'] then place.dropLast else place ++ [String.ofList segment]) []

end ServiceGen.CommandLine
