import ServiceGen.Text.Letter
import ServiceGen.Text.Slice
import ServiceGen.Toml.Table

/-!
# TOML Texts

Reading a TOML text into a table. A text that breaks any rule of the format is refused as a
whole.
-/

namespace ServiceGen.Toml

/-- A step of reading a text; it fails without saying why. -/
abbrev Reader := StateT (List Char) Option

namespace Reader

/-- The text that is left. -/
def rest : Reader (List Char) :=
  get

/-- Whether the text goes on with some characters, which are then passed over. -/
def accept (mark : List Char) : Reader Bool := do
  let cs ← get
  if mark.isPrefixOf cs then
    set (cs.drop mark.length)
    return true
  return false

/-- Passes over a character, which must come next. -/
def expect (c : Char) : Reader Unit := do
  if !(← accept [c]) then failure

/-- The characters that satisfy `p`, up to the first that does not. -/
def span (p : Char → Bool) : Reader (List Char) := do
  let cs ← get
  set (cs.dropWhile p)
  return cs.takeWhile p

/-- Whether a character may stand in a text or comment. -/
def isPlain (c : Char) : Bool :=
  c == '\t' || (0x20 ≤ c.toNat && c.toNat != 0x7F)

/-- Passes over blanks within a line. -/
def blanks : Reader Unit := do
  let _ ← span fun c => c == ' ' || c == '\t'

/-- Whether the text goes on with a line end, which is then passed over. -/
def lineEnd : Reader Bool := do
  if ← accept ['\n'] then return true
  accept ['\r', '\n']

/-- Passes over a comment, if one comes next. -/
def comment : Reader Unit := do
  if ← accept ['#'] then
    let _ ← span isPlain

/-- Passes over blanks, comments and line ends. -/
def gap : Nat → Reader Unit
  | 0 => pure ()
  | fuel + 1 => do
    blanks
    comment
    if ← lineEnd then gap fuel

/-- The value of hexadecimal digits. -/
def hexValue? (digits : List Char) : Option Nat :=
  digits.foldl (fun n c => do
    let n ← n
    let low := c.toLower
    if c.isDigit then some (16 * n + (c.toNat - 48))
    else if 'a' ≤ low && low ≤ 'f' then some (16 * n + (low.toNat - 87))
    else none) (some 0)

/-- The character that an escape stands for, after its backslash. -/
def escaped : Reader Char := do
  let code (size : Nat) : Reader Char := do
    let cs ← get
    let digits := cs.take size
    if digits.length < size then failure
    match hexValue? digits with
    | some n =>
      if n < 0xD800 || (0xDFFF < n && n < 0x110000) then
        set (cs.drop size)
        return Char.ofNat n
      else failure
    | none => failure
  match ← get with
  | c :: rest =>
    set rest
    match c with
    | 'b' => return Char.ofNat 8
    | 't' => return '\t'
    | 'n' => return '\n'
    | 'f' => return Char.ofNat 12
    | 'r' => return '\r'
    | '"' => return '"'
    | '\\' => return '\\'
    | 'u' => code 4
    | 'U' => code 8
    | _ => failure
  | [] => failure

/-- A text in double quotes after the first, on one line. -/
def basicRest : Nat → Reader (List Char)
  | 0 => failure
  | fuel + 1 => do
    match ← get with
    | '"' :: rest =>
      set rest
      return []
    | '\\' :: rest =>
      set rest
      let c ← escaped
      return c :: (← basicRest fuel)
    | c :: rest =>
      if !isPlain c then failure
      set rest
      return c :: (← basicRest fuel)
    | [] => failure

/-- The number of a mark that a text begins with. -/
def countOf (mark : Char) (cs : List Char) : Nat :=
  (cs.takeWhile (· == mark)).length

/-- A text in three quotes after the first three, on any number of lines. With `escapes`, a
backslash begins an escape, or joins the lines that it stands between. -/
def longRest (mark : Char) (escapes : Bool) : Nat → Reader (List Char)
  | 0 => failure
  | fuel + 1 => do
    let cs ← get
    let marks := countOf mark cs
    match cs with
    | [] => failure
    | c :: rest =>
      if 3 ≤ marks then
        if 5 < marks then failure
        set (cs.drop marks)
        return List.replicate (marks - 3) mark
      else if c == '\\' && escapes then
        set rest
        let after := rest.dropWhile fun c => c == ' ' || c == '\t'
        if after.head? == some '\n' || ['\r', '\n'].isPrefixOf after then
          set (after.dropWhile fun c => [' ', '\t', '\n', '\r'].contains c)
          longRest mark escapes fuel
        else
          let c ← escaped
          return c :: (← longRest mark escapes fuel)
      else if c == '\r' then
        if rest.head? != some '\n' then failure
        set rest.tail
        return '\n' :: (← longRest mark escapes fuel)
      else if isPlain c || c == '\n' then
        set rest
        return c :: (← longRest mark escapes fuel)
      else failure

/-- A text in quotes. With `long`, it may be one on any number of lines. -/
def quoted (long : Bool) (fuel : Nat) : Reader String := do
  if ← (if long then accept ['"', '"', '"'] else pure false) then
    let _ ← lineEnd
    return String.ofList (← longRest '"' true fuel)
  else if ← (if long then accept ['\'', '\'', '\''] else pure false) then
    let _ ← lineEnd
    return String.ofList (← longRest '\'' false fuel)
  else if ← accept ['"'] then return String.ofList (← basicRest fuel)
  else
    expect '\''
    let text ← span fun c => isPlain c && c != '\''
    expect '\''
    return String.ofList text

/-- A key without dots. -/
def simpleKey (fuel : Nat) : Reader String := do
  match (← get).head? with
  | some c =>
    if c == '"' || c == '\'' then quoted false fuel
    else
      let name ← span fun c => Text.Letter.isAscii c && (c.isAlphanum || c == '_' || c == '-')
      if name.isEmpty then failure
      return String.ofList name
  | none => failure

/-- The parts of a key, which has at least one. -/
def key (fuel : Nat) : Nat → Reader (List String)
  | 0 => failure
  | n + 1 => do
    blanks
    let part ← simpleKey fuel
    blanks
    if ← accept ['.'] then return part :: (← key fuel n)
    else return [part]

/-! ### Numbers and times -/

/-- Whether digits with single underscores between them make up a text. -/
def isDigits (p : Char → Bool) (cs : List Char) : Bool :=
  !cs.isEmpty && cs.head? != some '_' && cs.getLast? != some '_'
    && cs.all (fun c => p c || c == '_') && !Text.contains ['_', '_'] cs

/-- A text without the sign before it. -/
def unsigned (cs : List Char) : List Char :=
  match cs with
  | '+' :: rest | '-' :: rest => rest
  | _ => cs

/-- Whether a text is a whole number in digits. -/
def isWhole (cs : List Char) : Bool :=
  isDigits Char.isDigit cs && (cs.length == 1 || cs.head? != some '0')

/-- The value of digits of a base. -/
def valueOf (base : Nat) (cs : List Char) : Nat :=
  (cs.filter (· != '_')).foldl (fun n c =>
    base * n + (if c.isDigit then c.toNat - 48 else c.toLower.toNat - 87)) 0

/-- Whether a text is a whole number of 64 bits. -/
def isInteger (cs : List Char) : Bool :=
  let hex (c : Char) : Bool := c.isDigit || ('a' ≤ c.toLower && c.toLower ≤ 'f')
  match cs with
  | '0' :: 'x' :: digits => isDigits hex digits && valueOf 16 digits < Nat.pow 2 63
  | '0' :: 'o' :: digits =>
    isDigits (fun c => '0' ≤ c && c ≤ '7') digits && valueOf 8 digits < Nat.pow 2 63
  | '0' :: 'b' :: digits =>
    isDigits (fun c => c == '0' || c == '1') digits && valueOf 2 digits < Nat.pow 2 63
  | _ =>
    let bound := if cs.head? == some '-' then Nat.pow 2 63 + 1 else Nat.pow 2 63
    isWhole (unsigned cs) && valueOf 10 (unsigned cs) < bound

/-- Whether a text is a number with a fraction or an exponent, or none at all. -/
def isFloat (cs : List Char) : Bool :=
  let body := unsigned cs
  if body == "inf".toList || body == "nan".toList then true
  else
    let mantissa := body.takeWhile fun c => c != 'e' && c != 'E'
    let exponent := body.drop mantissa.length
    let whole := mantissa.takeWhile (· != '.')
    let fraction := mantissa.drop whole.length
    isWhole whole && !(fraction.isEmpty && exponent.isEmpty)
      && (fraction.isEmpty || isDigits Char.isDigit fraction.tail)
      && (exponent.isEmpty || isDigits Char.isDigit (unsigned exponent.tail))

/-- The number that digits make up, if there are as many as given. -/
def fixed? (size : Nat) (cs : List Char) : Option Nat :=
  if cs.length == size && cs.all Char.isDigit then some (valueOf 10 cs) else none

/-- Whether a text is a date. -/
def isDate (cs : List Char) : Bool :=
  match Text.splitAtChar '-' cs with
  | [y, m, d] =>
    match fixed? 4 y, fixed? 2 m, fixed? 2 d with
    | some year, some month, some day =>
      let leap := year % 4 == 0 && (year % 100 != 0 || year % 400 == 0)
      let last := if month == 2 then (if leap then 29 else 28)
        else if [4, 6, 9, 11].contains month then 30 else 31
      1 ≤ month && month ≤ 12 && 1 ≤ day && day ≤ last
    | _, _, _ => false
  | _ => false

/-- Whether a text is a time of a day. -/
def isTime (cs : List Char) : Bool :=
  match Text.splitAtChar ':' cs with
  | [h, m, s] =>
    let seconds := s.takeWhile (· != '.')
    let fraction := s.drop seconds.length
    (fixed? 2 h).any (· < 24) && (fixed? 2 m).any (· < 60) && (fixed? 2 seconds).any (· < 61)
      && (fraction.isEmpty || (1 < fraction.length && fraction.tail.all Char.isDigit))
  | _ => false

/-- Whether a text is an offset from universal time. -/
def isOffset (cs : List Char) : Bool :=
  match cs with
  | [c] => c == 'Z' || c == 'z'
  | c :: rest =>
    (c == '+' || c == '-') && match Text.splitAtChar ':' rest with
      | [h, m] => (fixed? 2 h).any (· < 24) && (fixed? 2 m).any (· < 60)
      | _ => false
  | [] => true

/-- Whether a text is a date, a time, or both. -/
def isMoment (cs : List Char) : Bool :=
  let date := cs.take 10
  let rest := cs.drop 10
  isTime cs || isDate cs || (isDate date && match rest with
    | c :: clock =>
      let time := clock.takeWhile fun c => c.isDigit || c == ':' || c == '.'
      ['T', 't', ' '].contains c && isTime time && isOffset (clock.drop time.length)
    | [] => false)

/-- A value without quotes and brackets. -/
def scalar : Reader Value := do
  let isPart (c : Char) : Bool :=
    Text.Letter.isAscii c && (c.isAlphanum || ['+', '-', '_', '.', ':'].contains c)
  let word ← span isPart
  let cs ← get
  let clock := cs.tail.takeWhile isPart
  if isDate word && cs.head? == some ' ' && clock.head?.any Char.isDigit then
    if !isMoment (word ++ ' ' :: clock) then failure
    set (cs.drop (clock.length + 1))
    return .scalar
  else if word == "true".toList || word == "false".toList || isInteger word || isFloat word
      || isMoment word then return .scalar
  else failure

mutual

/-- A value. -/
def value : Nat → Reader Value
  | 0 => failure
  | fuel + 1 => do
    match (← get).head? with
    | some c =>
      if c == '"' || c == '\'' then return .text (← quoted true ((← get).length + 1))
      else if ← accept ['['] then
        items fuel
        return .list
      else if ← accept ['{'] then
        blanks
        if ← accept ['}'] then return .record []
        return .record (← fields fuel [])
      else scalar
    | none => failure

/-- The items of a list up to its end. -/
def items : Nat → Reader Unit
  | 0 => failure
  | fuel + 1 => do
    gap (← get).length
    if ← accept [']'] then return
    let _ ← value fuel
    gap (← get).length
    if ← accept [','] then items fuel
    else expect ']'

/-- The fields of a table in braces up to its end. -/
def fields : Nat → Fields → Reader Fields
  | 0, _ => failure
  | fuel + 1, known => do
    let size := (← get).length + 1
    let path ← key size size
    expect '='
    blanks
    let v ← value fuel
    blanks
    match assign path.dropLast (path.getLast?.getD "") v known with
    | none => failure
    | some known =>
      if ← accept [','] then fields fuel known
      else
        expect '}'
        return known

end

/-- The lines of a text. The path is that of the header before them. -/
def lines : Nat → List String → Fields → Reader Fields
  | 0, _, _ => failure
  | fuel + 1, header, known => do
    blanks
    let size := (← get).length + 1
    let finish (header : List String) (known : Option Fields) : Reader Fields := do
      match known with
      | none => failure
      | some known =>
        blanks
        comment
        if ← lineEnd then lines fuel header known
        else if (← get).isEmpty then return known
        else failure
    match (← get).head? with
    | none => return known
    | some c =>
      if c == '#' || c == '\n' || c == '\r' then finish header (some known)
      else if ← accept ['[', '['] then
        let path ← key size size
        if !(← accept [']', ']']) then failure
        finish path (openNext path.dropLast (path.getLast?.getD "") known)
      else if ← accept ['['] then
        let path ← key size size
        expect ']'
        finish path (openTable path.dropLast (path.getLast?.getD "") known)
      else
        let path ← key size size
        expect '='
        blanks
        let v ← value size
        finish header (assignBelow header path.dropLast (path.getLast?.getD "") v known)

end Reader

/-- The table that a text describes; `none` if it is malformed. -/
def parse? (source : String) : Option Value := do
  let cs := source.toList
  let cs := if cs.head? == some (Char.ofNat 0xFEFF) then cs.tail else cs
  let (fields, _) ← (Reader.lines (cs.length + 1) [] []).run cs
  return .table .opened fields

end ServiceGen.Toml
