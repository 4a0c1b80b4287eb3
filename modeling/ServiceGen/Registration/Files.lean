import ServiceGen.Registration
import ServiceGen.Workspace

/-!
# Registration in Files

Adding an item to the registration file and a module to an index file. A file that is missing
is left to the user.
-/

namespace ServiceGen.Registration

/-- Changes a file in place. The file is written only if the change inserts something. -/
def changeFile (path : String) (change : String → Outcome × String) : Work Outcome := do
  if !(← get).isFile path then return .fileMissing
  let (outcome, text) := change (← Work.read path)
  if outcome = .inserted then Work.write path text
  return outcome

/-- Adds an item to the list that one of the markers opens in a file. -/
def insertInFile (path item : String) (markers : List String) : Work Outcome :=
  changeFile path (insertItem · item markers)

/-- Declares a module in an index file. -/
def declareInFile (path name : String) : Work Outcome :=
  changeFile path (declareModule · name)

end ServiceGen.Registration
