import ServiceGen.Text.Words

/-!
# Identifiers of the Generated Code

Which words the generated Rust code reserves, how any name becomes a legal field
identifier, and which names may stand as a module and file name.
-/

namespace ServiceGen

/-- Reserved words that may still be used when marked as raw with `r#`. -/
def rawableWords : List String := [
  "abstract", "as", "async", "await", "become", "box", "break", "const", "continue", "do", "dyn",
  "else", "enum", "extern", "false", "final", "fn", "for", "if", "impl", "in", "let", "loop",
  "macro", "match", "mod", "move", "mut", "override", "priv", "pub", "ref", "return", "static",
  "struct", "trait", "true", "try", "type", "typeof", "unsafe", "unsized", "use", "virtual",
  "where", "while", "yield"]

/-- Reserved words that cannot be marked as raw. -/
def pathWords : List String := ["crate", "self", "super", "Self"]

/-- Whether a name is a reserved word of either kind. -/
def isReservedWord (name : String) : Bool :=
  rawableWords.contains name || pathWords.contains name

/-- The mark of a raw identifier. -/
def rawMark : List Char := ['r', '#']

/-- An identifier without the marks of a raw identifier at its start. -/
def dropRawMarks : List Char → List Char
  | 'r' :: '#' :: rest => dropRawMarks rest
  | cs => cs

/-- An identifier without the mark of a raw identifier. -/
def plainIdentifier (ident : String) : String :=
  String.ofList (dropRawMarks ident.toList)

/-- Makes a snake-case name a legal identifier: a leading digit gets an underscore before
it, a word that cannot be raw one behind it, and any other reserved word the raw mark. -/
def repairIdentifier (snake : List Char) : String :=
  let ident := String.ofList <| match snake with
    | c :: _ => if c.isDigit then '_' :: snake else snake
    | [] => snake
  if pathWords.contains ident then ident ++ "_"
  else if rawableWords.contains ident then "r#" ++ ident
  else ident

/-- The field identifier of a wire name. -/
def fieldIdentifier (name : String) : String :=
  match Text.snake name.toList with
  | [] => "field"
  | snake => repairIdentifier snake

/-- Whether a name may be used as a module and file name as it is: an ASCII letter, then
ASCII letters, digits, underscores and hyphens. -/
def isModuleSafe (name : String) : Bool :=
  match name.toList with
  | [] => false
  | first :: rest =>
    first.isAlpha && rest.all fun c => c.isAlphanum || c == '_' || c == '-'

end ServiceGen
