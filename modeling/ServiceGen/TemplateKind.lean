/-!
# Kinds of Templates

The templates a generator works with: one for each kind of file it writes.
-/

namespace ServiceGen

/-- What a template produces. -/
inductive TemplateKind
  /-- The business logic of a module. -/
  | logic
  /-- The HTTP handlers of a module. -/
  | handler
  /-- The request and response types of a module. -/
  | types
  /-- The error codes of a module. -/
  | errors
  /-- The tests of the business logic. -/
  | logicTest
  /-- The tests of the handlers. -/
  | handlerTest
  /-- The request context shared by all handlers. -/
  | contextHelper
  /-- The response helper shared by all handlers. -/
  | responseHelper
deriving DecidableEq, Inhabited

namespace TemplateKind

/-- All kinds, in the order in which their templates are loaded. -/
def all : List TemplateKind :=
  [.logic, .handler, .types, .errors, .logicTest, .handlerTest, .contextHelper, .responseHelper]

/-- The name of the template. -/
def name : TemplateKind → String
  | .logic => "logic"
  | .handler => "handler"
  | .types => "types"
  | .errors => "errors"
  | .logicTest => "logic_test"
  | .handlerTest => "handler_test"
  | .contextHelper => "context_helper"
  | .responseHelper => "response_helper"

/-- The file of the template in a template directory. -/
def fileName (kind : TemplateKind) : String :=
  kind.name ++ ".rs.j2"

end TemplateKind

end ServiceGen
