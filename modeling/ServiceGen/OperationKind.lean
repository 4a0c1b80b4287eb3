import ServiceGen.Text.Identifier

/-!
# Kinds of Operations

The role of an operation in the usual life cycle of a resource, judged by its HTTP method
and by whether its path has a parameter, and the method names that follow from it.
-/

namespace ServiceGen

/-- The role of an operation. -/
inductive OperationKind
  /-- Reading a collection. -/
  | list
  /-- Adding to a collection. -/
  | create
  /-- Reading one resource. -/
  | getById
  /-- Changing one resource. -/
  | update
  /-- Removing one resource. -/
  | delete
  /-- Anything else. -/
  | other
deriving DecidableEq, Inhabited

namespace OperationKind

/-- The role by method, in any case, and presence of a path parameter. -/
def classify (method : String) (hasPathParam : Bool) : OperationKind :=
  match String.ofList (Text.asciiUpper method.toList), hasPathParam with
  | "GET", false => .list
  | "POST", false => .create
  | "GET", true => .getById
  | "PUT", true => .update
  | "PATCH", true => .update
  | "DELETE", true => .delete
  | _, _ => .other

/-- The name a role is written as. -/
def label : OperationKind → String
  | .list => "list"
  | .create => "create"
  | .getById => "get_by_id"
  | .update => "update"
  | .delete => "delete"
  | .other => "other"

/-- The method name that an operation of a usual role gets. -/
def defaultMethodName? : OperationKind → Option String
  | .other => none
  | kind => some kind.label

end OperationKind

/-- The method name of an operation of no usual role: its HTTP method, then the snake-case
words of the given path segments. -/
def methodNameOf (method : String) (segments : List String) : String :=
  let tail := (segments.map fun s => Text.snake s.toList).filter (!·.isEmpty)
  String.ofList (Text.join ['_'] (Text.Letter.lowerText method.toList :: tail))

end ServiceGen
