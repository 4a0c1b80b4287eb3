import ServiceGen.Text.Words

/-!
# Plural and Singular

English plurals and singulars of the last word of a name. The last word begins after the
final underscore, hyphen or space, or at the final step from a small letter to a capital;
what stands before it is kept. Irregular words, words without a plural and words in `us`
are looked up whole; all others follow their ending. A word that already looks plural is
its own plural, so names derived from collection paths stay stable.
-/

namespace ServiceGen.Text

/-- Words with a plural of their own. -/
def irregularPlurals : List (String × String) := [
  ("person", "people"), ("child", "children"), ("man", "men"), ("woman", "women"),
  ("mouse", "mice"), ("goose", "geese"), ("tooth", "teeth"), ("foot", "feet")]

/-- Words that are the same in singular and plural. -/
def uncountableWords : List String := [
  "data", "equipment", "fish", "information", "media", "metadata", "news", "series", "sheep",
  "species"]

/-- Plurals in `us` of words in `u`. -/
def pluralsInUs : List String := [
  "emus", "gnus", "gurus", "haikus", "menus", "tutus", "zebus"]

/-- The text before the last word of a name, up to its final separator, and the rest. -/
def cutAtSeparator (cs : List Char) : List Char × List Char :=
  let tail := (cs.reverse.takeWhile fun c => !(c == '_' || c == '-' || c == ' ')).reverse
  (cs.take (cs.length - tail.length), tail)

/-- The length of a text up to its last step from a small letter to a capital, or zero. -/
def lastHump : List Char → Nat
  | [] => 0
  | [_] => 0
  | c :: next :: rest =>
    match lastHump (next :: rest) with
    | 0 => if Letter.isLower c && Letter.isUpper next then 1 else 0
    | n + 1 => n + 2

/-- What stands before the last word of a name, and the last word. -/
def splitLastWord (cs : List Char) : List Char × List Char :=
  let (before, tail) := cutAtSeparator cs
  let hump := lastHump tail
  (before ++ tail.take hump, tail.drop hump)

/-- A replacement for a word, with a capital if the word has one. -/
def withInitialOf (word replacement : List Char) : List Char :=
  match word with
  | c :: _ => if Letter.isUpper c then pascal replacement else replacement
  | [] => replacement

/-- Whether a text ends with another. -/
def endsWith (ending : String) (cs : List Char) : Bool :=
  ending.toList.isSuffixOf cs

/-- Whether the letter before the last one is a vowel. -/
def vowelBeforeLast (cs : List Char) : Bool :=
  match cs.reverse with
  | _ :: c :: _ => ['a', 'e', 'i', 'o', 'u'].contains c
  | _ => false

/-- Endings after which a plural takes `es`. -/
def hissingEndings : List String := ["ss", "us", "x", "z", "ch", "sh"]

/-- The plural of a name whose last word has the lower-case form `last`, by its ending. -/
def pluralByEnding (cs last : List Char) : List Char :=
  if hissingEndings.any (endsWith · last) then cs ++ ['e', 's']
  else if endsWith "s" last then cs
  else if endsWith "y" last && !vowelBeforeLast last then cs.dropLast ++ ['i', 'e', 's']
  else cs ++ ['s']

/-- The plural of the last word of a name. -/
def plural (cs : List Char) : List Char :=
  let (stem, last) := splitLastWord cs
  let lower := String.ofList (Letter.lowerText last)
  if uncountableWords.contains lower || pluralsInUs.contains lower then cs
  else match irregularPlurals.find? fun (one, many) => lower == one || lower == many with
    | some (one, many) =>
      if lower == one then stem ++ withInitialOf last many.toList else cs
    | none => pluralByEnding cs lower.toList

/-- Plural endings that lose `es` in the singular. -/
def esEndings : List String := ["sses", "uses", "xes", "zes", "ches", "shes"]

/-- The singular of a name whose last word has the lower-case form `last`, by its ending. -/
def singularByEnding (cs last : List Char) : List Char :=
  if endsWith "ies" last && last.length > 3 then cs.take (cs.length - 3) ++ ['y']
  else if esEndings.any (endsWith · last) then cs.take (cs.length - 2)
  else if endsWith "ss" last || endsWith "us" last then cs
  else if endsWith "s" cs then cs.dropLast
  else cs

/-- The singular of the last word of a name. -/
def singular (cs : List Char) : List Char :=
  let (stem, last) := splitLastWord cs
  let lower := String.ofList (Letter.lowerText last)
  if uncountableWords.contains lower then cs
  else if pluralsInUs.contains lower then cs.dropLast
  else match irregularPlurals.find? fun (one, many) => lower == many || lower == one with
    | some (one, many) =>
      if lower == many then stem ++ withInitialOf last one.toList else cs
    | none => singularByEnding cs lower.toList

end ServiceGen.Text

namespace ServiceGen

/-- The plural of the last word of a name. -/
def pluralOf (name : String) : String :=
  String.ofList (Text.plural name.toList)

/-- The singular of the last word of a name. -/
def singularOf (name : String) : String :=
  String.ofList (Text.singular name.toList)

end ServiceGen
