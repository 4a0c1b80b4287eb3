import ServiceGen.Source.Grammar
import ServiceGen.Source.ImportOrder

/-!
# Imports of a Source

The parser that imports are found with. It knows a source by its tokens and by the grammar of its
items; a comment that stands directly before an import belongs to it and moves with it.
-/

namespace ServiceGen.Source

/-- The extent of an item in the tokens of a source. -/
structure ItemSpan where
  /-- The number of tokens. -/
  size : Nat
  /-- For an import, the tokens before what it names, and the tokens of that. -/
  named : Option (Nat × Nat)

namespace ItemSpan

open Recognizer

/-- What stands before the names of an import. -/
def importHead : Recognizer Unit := do
  attributes budget
  if ← eatWord "pub" then visibilityRest budget false
  expectWord "use"

/-- The extent of the import that tokens begin with. -/
def ofImport? (tokens : List Token) : Option ItemSpan := do
  let (_, named) ← importHead.run tokens
  let (_, stop) ← (importTree budget false).run named
  let (_, rest) ← (expect ';').run stop
  if rest.head?.any (Token.isMark ';') then none
  else some {
    size := tokens.length - rest.length
    named := some (tokens.length - named.length, named.length - stop.length) }

/-- The extent of the item that tokens begin with, which must be well-formed. -/
def ofItem? (tokens : List Token) : Option ItemSpan :=
  ofImport? tokens <|> do
    let (_, rest) ← (declaration budget .free).run tokens
    return { size := tokens.length - rest.length, named := none }

/-- The extents of all items up to the end of the source, of which there are at most a
number. -/
def all? : Nat → List Token → Option (List ItemSpan)
  | _, [] => some []
  | 0, _ :: _ => none
  | n + 1, tokens => do
    let span ← ofItem? tokens
    return span :: (← all? n (tokens.drop span.size))

/-- The tokens before the first item, and the extents of all items; `none` if the tokens are
no well-formed source. -/
def ofTokens? (tokens : List Token) : Option (Nat × List ItemSpan) := do
  let (_, rest) ← (innerAttributes budget).run tokens
  return (tokens.length - rest.length, ← all? budget rest)

end ItemSpan

/-- Whether a comment describes what follows it. -/
def isOuterComment (text : List Char) : Bool :=
  !("////".toList.isPrefixOf text || "/***".toList.isPrefixOf text)
    && ("///".toList.isPrefixOf text || "/**".toList.isPrefixOf text)

/-- Whether a comment describes what it stands in. -/
def isInnerComment (text : List Char) : Bool :=
  "//!".toList.isPrefixOf text || "/*!".toList.isPrefixOf text

/-- Whether a piece is a comment that describes what follows it. -/
def Trivia.isOuter : Trivia → Bool
  | .blank _ => false
  | .comment text => isOuterComment text

/-- How many of the pieces before an item, nearest first, belong to it: those up to the
farthest comment that no blank line and no inner comment separates from it. A comment that
describes the item belongs to it across a blank line. -/
def attached : List Trivia → Nat
  | [] => 0
  | .blank text :: rest =>
    let further := attached rest
    if Text.contains ['\n', '\n'] text && !rest.head?.any Trivia.isOuter || further == 0 then 0
    else further + 1
  | .comment text :: rest => if isInnerComment text then 0 else attached rest + 1

namespace Lexeme

/-- The text of a lexeme with everything before it. -/
def whole (l : Lexeme) : List Char :=
  l.before.flatMap Trivia.text ++ l.text

/-- How many of the pieces before a lexeme do not belong to the item that it begins. -/
def detachedCount (l : Lexeme) : Nat :=
  l.before.length - attached l.before.reverse

/-- A lexeme with only those pieces before it that belong to the item that it begins. -/
def trimmed (l : Lexeme) : Lexeme :=
  { l with before := l.before.drop l.detachedCount }

end Lexeme

/-- The text of consecutive lexemes, without what stands before the first. -/
def textOf : List Lexeme → List Char
  | [] => []
  | first :: rest => first.text ++ rest.flatMap Lexeme.whole

/-- The text before an item that does not belong to it, and the lexemes of the item with what
does. -/
def separate : List Lexeme → List Char × List Lexeme
  | [] => ([], [])
  | first :: rest =>
    ((first.before.take first.detachedCount).flatMap Trivia.text, first.trimmed :: rest)

/-- The import that lexemes make up. -/
def Import.ofLexemes (lead size : Nat) (lexemes : List Lexeme) : Import where
  tree := textOf ((lexemes.drop lead).take size)
  text := lexemes.flatMap Lexeme.whole

/-- The items with these extents that lexemes are, from a place of the source on. -/
def topItems (place : Nat) : List ItemSpan → List Lexeme → List TopItem
  | [], _ => []
  | span :: spans, lexemes =>
    let (gap, own) := separate (lexemes.take span.size)
    let start := place + gap.length
    let stop := start + (own.flatMap Lexeme.whole).length
    let item := match span.named with
      | none => .other
      | some (lead, size) =>
        let i := Import.ofLexemes lead size own
        .found { start, stop, tree? := some i.tree, text := i.text }
    item :: topItems stop spans (lexemes.drop span.size)

/-- The parser that knows a source by its tokens and the grammar of its items. -/
def recognizer : SourceParser where
  parse source := do
    let pieces ← pieces? source
    let (lexemes, _) := Lexeme.gather [] pieces
    let (lead, spans) ← ItemSpan.ofTokens? (lexemes.map (·.token))
    let start := source.take (interpreterLine source) ++ (lexemes.take lead).flatMap Lexeme.whole
    return topItems start.length spans (lexemes.drop lead)

end ServiceGen.Source

namespace ServiceGen

/-- A source with the imports it begins with in order, where the recognizer finds them. -/
def organizeImports (source : String) : Except Failure String :=
  Source.recognizer.organizeImports source

end ServiceGen
