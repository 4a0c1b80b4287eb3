import ServiceGen.Path

/-!
# Description Formats

Where an API description comes from hints at its format: the extension of its location, or
the media type it was served with.
-/

namespace ServiceGen

/-- What is known of the format of an API description. -/
inductive SpecFormat
  | yaml
  | json
  | unknown
deriving DecidableEq

namespace SpecFormat

/-- The format that the extension of a path or address hints at. A query and a fragment do
not belong to the location. -/
def ofLocation (location : String) : SpecFormat :=
  let bare := location.toList.takeWhile fun c => c != '?' && c != '#'
  match (Path.extension? bare).map fun e => String.ofList (Text.asciiLower e) with
  | some "yaml" => .yaml
  | some "yml" => .yaml
  | some "json" => .json
  | _ => .unknown

/-- The format that a media type hints at. -/
def ofContentType (contentType : String) : SpecFormat :=
  let lower := Text.asciiLower contentType.toList
  if Text.contains "json".toList lower then .json
  else if Text.contains "yaml".toList lower || Text.contains "yml".toList lower then .yaml
  else .unknown

/-- The first of two hints that says anything. -/
def or : SpecFormat → SpecFormat → SpecFormat
  | .unknown, other => other
  | known, _ => known

end SpecFormat

end ServiceGen
