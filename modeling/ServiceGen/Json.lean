import ServiceGen.Number.Decimal

/-!
# JSON Values

The values a description may carry as examples of allowed content, and in which documents
are written out. The members of an object keep their order.
-/

namespace ServiceGen

/-- A JSON value. -/
inductive Json
  | null
  | bool (value : Bool)
  | int (value : Int)
  | float (value : Binary64)
  | text (value : String)
  | list (items : List Json)
  | object (members : List (String × Json))
deriving Inhabited, BEq

namespace Json

/-- A text, or nothing. -/
def ofText? (text : Option String) : Json :=
  (text.map Json.text).getD .null

/-- A list of texts. -/
def ofTexts (texts : List String) : Json :=
  .list (texts.map .text)

/-- A natural number, or nothing. -/
def ofNat? (n : Option Nat) : Json :=
  (n.map fun n => Json.int n).getD .null

end Json

end ServiceGen
