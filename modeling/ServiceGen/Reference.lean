import ServiceGen.Text.Slice
import ServiceGen.Text.Utf8

/-!
# References

A reference such as `#/components/schemas/Book` points at a named component of the same
document. What stands before the `#` is ignored, so `openapi.yaml#/components/...` still
points into the document at hand; a reference without `#` points nowhere. The name at its
end is escaped twice: `~1` and `~0` for the slash and the tilde, and percent escapes.
-/

namespace ServiceGen

/-- The sections of `components` that references may point into. -/
inductive Section
  | schemas
  | parameters
  | requestBodies
  | responses
deriving DecidableEq

/-- The key of a section inside `components`. -/
def Section.key : Section → String
  | .schemas => "schemas"
  | .parameters => "parameters"
  | .requestBodies => "requestBodies"
  | .responses => "responses"

namespace Reference

/-- The value of a hexadecimal digit. -/
def hexValue? (b : UInt8) : Option UInt8 :=
  if 0x30 ≤ b && b ≤ 0x39 then some (b - 0x30)
  else if 0x41 ≤ b && b ≤ 0x46 then some (b - 0x37)
  else if 0x61 ≤ b && b ≤ 0x66 then some (b - 0x57)
  else none

/-- The byte that two hexadecimal digits denote. -/
def hexPair? (high low : UInt8) : Option UInt8 := do
  return (← hexValue? high) * 16 + (← hexValue? low)

/-- Undoes percent escapes. A percent sign that no two hexadecimal digits follow stands for
itself. -/
def unescapePercent : List UInt8 → List UInt8
  | [] => []
  | [a] => [a]
  | [a, b] => [a, b]
  | a :: b :: c :: rest =>
    match if a == 0x25 then hexPair? b c else none with
    | some byte => byte :: unescapePercent rest
    | none => a :: unescapePercent (b :: c :: rest)

/-- The name that an escaped pointer segment denotes. Bytes that percent escapes leave
malformed become replacement characters. -/
def decodeSegment (segment : List Char) : List Char :=
  let slashes := Text.replace ['~', '1'] ['/'] segment
  let tildes := Text.replace ['~', '0'] ['~'] slashes
  Text.Utf8.decodeLossy (unescapePercent (Text.Utf8.encode tildes))

/-- The component name of a reference into the given section. -/
def componentName? (target : Section) (reference : String) : Option String := do
  let (_, fragment) ← Text.cutAtChar? '#' reference.toList
  match Text.splitAtChar '/' (fragment.dropWhile (· == '/')) with
  | [root, key, segment] =>
    if root = "components".toList ∧ key = target.key.toList then
      match decodeSegment segment with
      | [] => none
      | name => some (String.ofList name)
    else none
  | _ => none

/-- The name at the end of a reference, whether or not it can be followed. -/
def tailName (reference : String) : String :=
  let tail := (reference.toList.reverse.takeWhile (· != '/')).reverse
  String.ofList (decodeSegment (tail.dropWhile (· == '#')))

/-- The name that one pointer segment denotes. -/
def decode (segment : String) : String :=
  String.ofList (decodeSegment segment.toList)

end Reference

end ServiceGen
