/-!
# Quoted Text

The string literals that the generated Rust code holds, and the form in which messages
quote a path. In both a quote or backslash inside the text is marked by a backslash, so the
first unmarked quote ends the literal.
-/

namespace ServiceGen

namespace Text

/-- How one character stands inside a string literal of the generated code. -/
def escapeInLiteral (c : Char) : List Char :=
  if c == '"' then ['\\', '"']
  else if c == '\\' then ['\\', '\\']
  else if c == '\n' then ['\\', 'n']
  else if c == '\r' then ['\\', 'r']
  else if c == '\t' then ['\\', 't']
  else [c]

/-- The string literal that denotes a text. -/
def literal (cs : List Char) : List Char :=
  '"' :: cs.flatMap escapeInLiteral ++ ['"']

/-- The hexadecimal digits of a number, without leading zeros. -/
def hexDigits (n : Nat) : List Char :=
  Nat.toDigits 16 n

/-- Code points that leave no visible mark: controls, format marks and separators other
than the space. -/
def isInvisible (c : Char) : Bool :=
  let n := c.toNat
  n < 0x20 || (0x7F ≤ n && n ≤ 0xA0) || n == 0xAD || (0x600 ≤ n && n ≤ 0x605) || n == 0x61C
    || n == 0x6DD || n == 0x70F || n == 0x1680 || n == 0x180E || (0x2000 ≤ n && n ≤ 0x200F)
    || (0x2028 ≤ n && n ≤ 0x202F) || (0x205F ≤ n && n ≤ 0x206F) || n == 0x3000
    || (0xE000 ≤ n && n ≤ 0xF8FF) || n == 0xFEFF || (0xFFF9 ≤ n && n ≤ 0xFFFB)
    || 0xE0000 ≤ n

/-- How one character of a path stands in a message. -/
def escapeInMessage (c : Char) : List Char :=
  if c == '"' then ['\\', '"']
  else if c == '\\' then ['\\', '\\']
  else if c == '\n' then ['\\', 'n']
  else if c == '\r' then ['\\', 'r']
  else if c == '\t' then ['\\', 't']
  else if c.toNat == 0 then ['\\', '0']
  else if isInvisible c then ['\\', 'u', '{'] ++ hexDigits c.toNat ++ ['}']
  else [c]

end Text

/-- The string literal of the generated code that denotes a text. -/
def stringLiteral (value : String) : String :=
  String.ofList (Text.literal value.toList)

/-- A path in quotes, as messages show it. -/
def quotedPath (path : String) : String :=
  String.ofList ('"' :: path.toList.flatMap Text.escapeInMessage ++ ['"'])

end ServiceGen
