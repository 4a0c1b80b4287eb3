import ServiceGen.Text.Identifier
import ServiceGen.PathTemplate

/-!
# Module Names

A module is named after a tag, or after the path of an operation where no tag has a usable
name.
-/

namespace ServiceGen.ModuleName

/-- The module name of a tag: its lower-case form, or its snake-case form where that cannot
be a module name as it is. A tag outside ASCII has no module name. -/
def ofTag? (tag : String) : Option String :=
  let bare := Text.trim tag.toList
  if bare.all Text.Letter.isAscii then
    let lower := String.ofList (Text.asciiLower bare)
    if isModuleSafe lower then some lower
    else
      let snake := String.ofList (Text.snake bare)
      if isModuleSafe snake then some snake else none
  else none

/-- Equality of names up to the case of ASCII letters. -/
def same (a b : String) : Bool :=
  Text.equalIgnoringAsciiCase a.toList b.toList

/-- A name without the white space around it. -/
def trimmed (name : String) : String :=
  String.ofList (Text.trim name.toList)

end ServiceGen.ModuleName
