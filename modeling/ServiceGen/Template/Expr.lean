import ServiceGen.Template.Token
import ServiceGen.Template.Value

/-!
# Expressions and Statements of a Template

The tree of a template, and how it is built from tokens. From loosest to tightest the
operators are: the conditional, `or`, `and`, `not`, the comparisons, sum and difference,
concatenation, products, powers, the sign, and what follows a value: members, calls, filters
and tests.
-/

namespace ServiceGen.Template

/-- An operator with two operands. -/
inductive Operator
  | or
  | and
  | equal
  | notEqual
  | less
  | lessOrEqual
  | greater
  | greaterOrEqual
  | isIn
  | isNotIn
  | add
  | subtract
  | concat
  | multiply
  | divide
  | divideWhole
  | remainder
  | power
deriving DecidableEq, Inhabited

/-- How an argument is handed over. -/
inductive ArgKind
  /-- By its position. -/
  | positional
  /-- By a name. -/
  | named (name : String)
  /-- As a list of further arguments. -/
  | spread
  /-- As a map of further named arguments. -/
  | spreadNamed
deriving DecidableEq, Inhabited

/-- An expression. -/
inductive Expr
  | const (value : Value)
  | var (name : String)
  | negate (operand : Expr)
  | invert (operand : Expr)
  | binary (op : Operator) (left right : Expr)
  | choice (condition yes : Expr) (no : Option Expr)
  /-- A filter applied to a value; without one, to the text of a block. -/
  | filter (name : String) (operand : Option Expr) (args : List (ArgKind × Expr))
  | test (name : String) (operand : Expr) (args : List (ArgKind × Expr))
  | member (operand : Expr) (name : String)
  | item (operand index : Expr)
  | slice (operand : Expr) (start stop step : Option Expr)
  | call (callee : Expr) (args : List (ArgKind × Expr))
  | list (items : List Expr)
  | map (entries : List (Expr × Expr))
deriving Inhabited

/-- What a value is assigned to. -/
inductive Target
  | name (name : String)
  /-- A variable of a group. -/
  | member (owner : Expr) (name : String)
  /-- The items of a list, one by one. -/
  | tuple (targets : List Target)
deriving Inhabited

/-- A statement. -/
inductive Stmt
  | data (text : String)
  | emit (value : Expr)
  /-- Goes through the items that satisfy the condition. A recursive loop may be run again
  from within its body. -/
  | loop (recursive : Bool) (target : Target) (items : Expr) (condition : Option Expr)
    (body otherwise : List Stmt)
  | branch (condition : Expr) (yes no : List Stmt)
  | assign (target : Target) (value : Expr)
  /-- Assigns the text of a block, after filters. -/
  | capture (target : Target) (filters : Option Expr) (body : List Stmt)
  | scope (bindings : List (Target × Expr)) (body : List Stmt)
  /-- Writes the text of a block after filters. -/
  | filtered (filters : Expr) (body : List Stmt)
  | routine (name : String) (params : List (String × Option Expr)) (body : List Stmt)
  /-- Calls a routine and hands it a block. -/
  | callWith (call : Expr) (params : List (String × Option Expr)) (body : List Stmt)
  | perform (call : Expr)
  /-- Writes another template. -/
  | insert (name : Expr) (optional : Bool)
  /-- A part that a derived template may replace. -/
  | block (name : String) (body : List Stmt)
  /-- The template that this one is derived from. -/
  | inherits (name : Expr)
  /-- Makes the names of another template members of a variable. -/
  | load (source : Expr) (name : String)
  /-- Makes some names of another template variables. -/
  | loadNames (source : Expr) (names : List (String × String))
deriving Inhabited

namespace Stmt

mutual

/-- The blocks of statements and of what they enclose. -/
def blocksOf : List Stmt → List (String × List Stmt)
  | [] => []
  | statement :: rest => blocksIn statement ++ blocksOf rest

/-- The blocks of a statement. -/
def blocksIn : Stmt → List (String × List Stmt)
  | .block name body => (name, body) :: blocksOf body
  | .loop _ _ _ _ body otherwise => blocksOf body ++ blocksOf otherwise
  | .branch _ yes no => blocksOf yes ++ blocksOf no
  | .capture _ _ body => blocksOf body
  | .scope _ body => blocksOf body
  | .filtered _ body => blocksOf body
  | .routine _ _ body => blocksOf body
  | .callWith _ _ body => blocksOf body
  | _ => []

end

end Stmt

/-! ### Building the tree -/

/-- A step of building the tree from tokens. -/
abbrev Parse := StateT (List Token) Option

namespace Parse

/-- The next token. -/
def peek? : Parse (Option Token) :=
  fun tokens => some (tokens.head?, tokens)

/-- Passes over the next token. -/
def skip : Parse Unit :=
  modify List.tail

/-- Whether the next token is a given one, which is then passed over. -/
def accept (t : Token) : Parse Bool := do
  if (← peek?) == some t then
    skip
    return true
  return false

/-- Passes over a given token; an error if it does not come next. -/
def expect (t : Token) : Parse Unit := do
  if !(← accept t) then failure

/-- A symbol. -/
def symbol (s : String) : Token :=
  .symbol s

/-- A word. -/
def word (s : String) : Token :=
  .ident s

/-- The next token as a name. -/
def ident : Parse String := do
  match ← peek? with
  | some (.ident name) => skip; return name
  | _ => failure

/-- Names that cannot be assigned to. -/
def constants : List String :=
  ["true", "True", "false", "False", "none", "None", "loop", "self"]

/-- The operators of one level. -/
def operatorOf? (table : List (String × Operator)) : Parse (Option Operator) := do
  match ← peek? with
  | some (.symbol s) => return table.lookup s
  | some (.ident s) => return table.lookup s
  | _ => return none

/-- Operands joined by the operators of one level, from the left. -/
def chain (table : List (String × Operator)) (operand : Parse Expr) : Nat → Expr → Parse Expr
  | 0, _ => failure
  | fuel + 1, left => do
    match ← operatorOf? table with
    | some op =>
      skip
      let right ← operand
      chain table operand fuel (.binary op left right)
    | none => return left

/-- One level of operators. -/
def level (table : List (String × Operator)) (operand : Parse Expr) (fuel : Nat) : Parse Expr := do
  chain table operand fuel (← operand)

/-- The comparison that follows, if one does. -/
def comparison? : Parse (Option Operator) := do
  match ← peek? with
  | some (.ident "in") => skip; return some .isIn
  | some (.ident "not") =>
    match (← get).tail.head? with
    | some (.ident "in") => skip; skip; return some .isNotIn
    | _ => return none
  | _ =>
    let op ← operatorOf? [("==", .equal), ("!=", .notEqual), ("<", .less), ("<=", .lessOrEqual),
      (">", .greater), (">=", .greaterOrEqual)]
    if op.isSome then skip
    return op

/-- Comparisons, from the left. -/
def comparisons (operand : Parse Expr) : Nat → Expr → Parse Expr
  | 0, _ => failure
  | fuel + 1, left => do
    match ← comparison? with
    | some op => comparisons operand fuel (.binary op left (← operand))
    | none => return left

/-- Words that do not begin the argument of a test. -/
def connectives : List String :=
  ["and", "or", "else", "if", "is", "in", "not", "recursive"]

/-- Whether the next token begins the argument of a test that has no brackets. -/
def beginsArgument : Parse Bool := do
  match ← peek? with
  | some (.ident name) => return !connectives.contains name
  | some (.text _) | some (.int _) | some (.float _) => return true
  | some (.symbol s) => return ["[", "\x7b"].contains s
  | _ => return false

mutual

/-- An expression. -/
def expr : Nat → Parse Expr
  | 0 => failure
  | fuel + 1 => do conditional fuel (← disjunction fuel)

/-- The condition that may follow an expression. -/
def conditional : Nat → Expr → Parse Expr
  | 0, _ => failure
  | fuel + 1, yes => do
    if ← accept (word "if") then
      let condition ← disjunction fuel
      let no ← if ← accept (word "else") then pure (some (← expr fuel)) else pure none
      conditional fuel (.choice condition yes no)
    else return yes

/-- An expression without a condition at its end. -/
def disjunction : Nat → Parse Expr
  | 0 => failure
  | fuel + 1 => level [("or", .or)] (level [("and", .and)] (inversion fuel) fuel) fuel

/-- An expression with `not` before it, or a comparison. -/
def inversion : Nat → Parse Expr
  | 0 => failure
  | fuel + 1 => do
    if ← accept (word "not") then return .invert (← inversion fuel)
    else comparisons (arithmetic fuel) fuel (← arithmetic fuel)

/-- Sums, concatenations, products and powers. -/
def arithmetic : Nat → Parse Expr
  | 0 => failure
  | fuel + 1 =>
    let powers := level [("**", .power)] (signed fuel) fuel
    let products := level
      [("*", .multiply), ("/", .divide), ("//", .divideWhole), ("%", .remainder)] powers fuel
    let joins := level [("~", .concat)] products fuel
    level [("+", .add), ("-", .subtract)] joins fuel

/-- A value with its sign, and the filters and tests after it. -/
def signed : Nat → Parse Expr
  | 0 => failure
  | fuel + 1 => do filters fuel (← sign fuel)

/-- A value with its sign. -/
def sign : Nat → Parse Expr
  | 0 => failure
  | fuel + 1 => do
    if ← accept (symbol "-") then return .negate (← sign fuel)
    else members fuel (← primary fuel)

/-- The filters and tests after a value. -/
def filters : Nat → Expr → Parse Expr
  | 0, _ => failure
  | fuel + 1, operand => do
    if ← accept (symbol "|") then
      let name ← ident
      let args ← optionalArgs fuel
      filters fuel (.filter name (some operand) args)
    else if ← accept (word "is") then
      let negated ← accept (word "not")
      let name ← ident
      let args ←
        if (← peek?) == some (symbol "(") then optionalArgs fuel
        else if ← beginsArgument then pure [(ArgKind.positional, ← sign fuel)]
        else pure []
      let test := Expr.test name operand args
      filters fuel (if negated then .invert test else test)
    else if (← peek?) == some (symbol "(") then
      filters fuel (.call operand (← optionalArgs fuel))
    else return operand

/-- The members, items and calls after a value. -/
def members : Nat → Expr → Parse Expr
  | 0, _ => failure
  | fuel + 1, operand => do
    if ← accept (symbol ".") then
      match ← peek? with
      | some (.int n) => skip; members fuel (.item operand (.const (.int n)))
      | _ => members fuel (.member operand (← ident))
    else if ← accept (symbol "[") then
      members fuel (← subscript fuel operand)
    else if (← peek?) == some (symbol "(") then
      members fuel (.call operand (← optionalArgs fuel))
    else return operand

/-- What stands between the brackets after a value: a position or a range. -/
def subscript : Nat → Expr → Parse Expr
  | 0, _ => failure
  | fuel + 1, operand => do
    let bound : Parse (Option Expr) := do
      match ← peek? with
      | some (.symbol s) => if s == ":" || s == "]" then return none else return some (← expr fuel)
      | _ => return some (← expr fuel)
    let start ← bound
    if ← accept (symbol ":") then
      let stop ← bound
      let step ← if ← accept (symbol ":") then bound else pure none
      expect (symbol "]")
      return .slice operand start stop step
    else
      expect (symbol "]")
      match start with
      | some index => return .item operand index
      | none => failure

/-- Arguments in brackets, if there are any. -/
def optionalArgs : Nat → Parse (List (ArgKind × Expr))
  | 0 => failure
  | fuel + 1 => do
    if ← accept (symbol "(") then argList fuel true else return []

/-- The arguments up to the closing bracket. -/
def argList : Nat → Bool → Parse (List (ArgKind × Expr))
  | 0, _ => failure
  | fuel + 1, first => do
    if ← accept (symbol ")") then return []
    if !first then
      expect (symbol ",")
    if ← accept (symbol ")") then return []
    let arg ←
      if ← accept (symbol "*") then pure (ArgKind.spread, ← expr fuel)
      else if ← accept (symbol "**") then pure (ArgKind.spreadNamed, ← expr fuel)
      else match (← get) with
        | .ident name :: .symbol "=" :: _ => skip; skip; pure (ArgKind.named name, ← expr fuel)
        | _ => pure (ArgKind.positional, ← expr fuel)
    return arg :: (← argList fuel false)

/-- Items up to a closing bracket. -/
def itemList : Nat → String → Bool → Parse (List Expr)
  | 0, _, _ => failure
  | fuel + 1, close, first => do
    if ← accept (symbol close) then return []
    if !first then
      expect (symbol ",")
    if ← accept (symbol close) then return []
    let item ← expr fuel
    return item :: (← itemList fuel close false)

/-- The entries of a map up to its closing bracket. -/
def entryList : Nat → Bool → Parse (List (Expr × Expr))
  | 0, _ => failure
  | fuel + 1, first => do
    if ← accept (symbol "\x7d") then return []
    if !first then
      expect (symbol ",")
    if ← accept (symbol "\x7d") then return []
    let key ← expr fuel
    expect (symbol ":")
    let value ← expr fuel
    return (key, value) :: (← entryList fuel false)

/-- A value by itself. -/
def primary : Nat → Parse Expr
  | 0 => failure
  | fuel + 1 => do
    match ← peek? with
    | some (.ident name) =>
      skip
      match name with
      | "true" | "True" => return .const (.bool true)
      | "false" | "False" => return .const (.bool false)
      | "none" | "None" => return .const .none
      | _ => return .var name
    | some (.text s) => skip; return .const (.text s)
    | some (.int n) => skip; return .const (.int n)
    | some (.float x) => skip; return .const (.float x)
    | some (.symbol "(") =>
      skip
      if ← accept (symbol ")") then return .list []
      let first ← expr fuel
      if ← accept (symbol ")") then return first
      return .list (first :: (← itemList fuel ")" false))
    | some (.symbol "[") => skip; return .list (← itemList fuel "]" true)
    | some (.symbol "\x7b") => skip; return .map (← entryList fuel true)
    | _ => failure

end

/-! ### Statements -/

/-- A variable that is assigned to, or a member of one. -/
def singleTarget : Parse Target := do
  let name ← ident
  if constants.contains name then failure
  if ← accept (symbol ".") then return .member (.var name) (← ident)
  else return .name name

mutual

/-- What is assigned to: a variable, or several separated by commas. -/
def target : Nat → Parse Target
  | 0 => failure
  | fuel + 1 => do
    let first ← targetPart fuel
    if (← peek?) == some (symbol ",") then return .tuple (first :: (← targetRest fuel))
    else return first

/-- A variable, or several in brackets. -/
def targetPart : Nat → Parse Target
  | 0 => failure
  | fuel + 1 => do
    if ← accept (symbol "(") then
      let inner ← target fuel
      expect (symbol ")")
      return inner
    else singleTarget

/-- The further variables after a comma. -/
def targetRest : Nat → Parse (List Target)
  | 0 => failure
  | fuel + 1 => do
    if ← accept (symbol ",") then
      match ← peek? with
      | some (.ident "in") | some (.symbol "=") | some (.symbol ")") | some .closeTag => return []
      | _ => return (← targetPart fuel) :: (← targetRest fuel)
    else return []

end

/-- The parameters of a routine up to the closing bracket. -/
def params : Nat → Bool → Parse (List (String × Option Expr))
  | 0, _ => failure
  | fuel + 1, first => do
    if ← accept (symbol ")") then return []
    if !first then
      expect (symbol ",")
    if ← accept (symbol ")") then return []
    let name ← ident
    if constants.contains name then failure
    let standard ← if ← accept (symbol "=") then pure (some (← expr fuel)) else pure none
    return (name, standard) :: (← params fuel false)

/-- Filters applied to the text of a block. -/
def blockFilters (fuel : Nat) : Parse Expr := do
  let name ← ident
  let args ← optionalArgs fuel
  filters fuel (.filter name none args)

/-- The names that are taken from another template. -/
def loadedNames : Nat → Parse (List (String × String))
  | 0 => failure
  | fuel + 1 => do
    let name ← ident
    let own ← if ← accept (word "as") then ident else pure name
    if ← accept (symbol ",") then
      if (← peek?) == some .closeTag then return [(name, own)]
      return (name, own) :: (← loadedNames fuel)
    else return [(name, own)]

/-- The assignments of a scope. -/
def bindings : Nat → Parse (List (Target × Expr))
  | 0 => failure
  | fuel + 1 => do
    if (← peek?) == some .closeTag then return []
    let place ← if (← peek?) == some (symbol "(") then targetPart fuel else singleTarget
    expect (symbol "=")
    let value ← expr fuel
    if ← accept (symbol ",") then return (place, value) :: (← bindings fuel)
    else return [(place, value)]

mutual

/-- Statements up to a tag that begins with one of the given words, and that word. Without
words, up to the end of the template. -/
def body : Nat → List String → Parse (List Stmt × String)
  | 0, _ => failure
  | fuel + 1, ends => do
    match ← peek? with
    | none => if ends.isEmpty then return ([], "") else failure
    | some (.data text) =>
      skip
      let (rest, stop) ← body fuel ends
      return (.data text :: rest, stop)
    | some .openValue =>
      skip
      let value ← expr fuel
      expect .closeValue
      let (rest, stop) ← body fuel ends
      return (.emit value :: rest, stop)
    | some .openTag =>
      skip
      let name ← ident
      if ends.contains name then return ([], name)
      let statement ← statement fuel name
      expect .closeTag
      let (rest, stop) ← body fuel ends
      return (statement :: rest, stop)
    | _ => failure

/-- The statements after a tag up to its end tag. -/
def enclosed : Nat → String → Parse (List Stmt)
  | 0, _ => failure
  | fuel + 1, stop => do
    expect .closeTag
    return (← body fuel [stop]).1

/-- The branches after a condition. -/
def branches : Nat → Parse Stmt
  | 0 => failure
  | fuel + 1 => do
    let condition ← expr fuel
    expect .closeTag
    let (yes, stop) ← body fuel ["elif", "else", "endif"]
    let no ← match stop with
      | "elif" => pure [← branches fuel]
      | "else" => enclosed fuel "endif"
      | _ => pure []
    return .branch condition yes no

/-- The statement that begins with a word. The end of its last tag is left. -/
def statement : Nat → String → Parse Stmt
  | 0, _ => failure
  | fuel + 1, name => do
    match name with
    | "for" =>
      let place ← target fuel
      expect (word "in")
      let items ← disjunction fuel
      let condition ← if ← accept (word "if") then pure (some (← expr fuel)) else pure none
      let recursive ← accept (word "recursive")
      expect .closeTag
      let (body, stop) ← body fuel ["else", "endfor"]
      let otherwise ← if stop == "else" then enclosed fuel "endfor" else pure []
      return .loop recursive place items condition body otherwise
    | "if" => branches fuel
    | "set" =>
      let place ← target fuel
      if ← accept (symbol "=") then return .assign place (← expr fuel)
      else
        let chosen ← if ← accept (symbol "|") then pure (some (← blockFilters fuel)) else pure none
        return .capture place chosen (← enclosed fuel "endset")
    | "with" =>
      let assignments ← bindings fuel
      return .scope assignments (← enclosed fuel "endwith")
    | "filter" =>
      let chosen ← blockFilters fuel
      return .filtered chosen (← enclosed fuel "endfilter")
    | "macro" =>
      let name ← ident
      expect (symbol "(")
      let parameters ← params fuel true
      let body ← enclosed fuel "endmacro"
      return .routine name parameters body
    | "call" =>
      let parameters ← if ← accept (symbol "(") then params fuel true else pure []
      match ← expr fuel with
      | .call callee args =>
        return .callWith (.call callee args) parameters (← enclosed fuel "endcall")
      | _ => failure
    | "do" =>
      match ← expr fuel with
      | .call callee args => return .perform (.call callee args)
      | _ => failure
    | "include" =>
      let source ← expr fuel
      let optional ←
        if ← accept (word "ignore") then
          expect (word "missing")
          pure true
        else pure false
      return .insert source optional
    | "block" =>
      let name ← ident
      let body ← enclosed fuel "endblock"
      match ← peek? with
      | some (.ident again) => if again == name then skip else failure
      | _ => pure ()
      return .block name body
    | "extends" => return .inherits (← expr fuel)
    | "import" =>
      let source ← expr fuel
      expect (word "as")
      return .load source (← ident)
    | "from" =>
      let source ← expr fuel
      expect (word "import")
      return .loadNames source (← loadedNames fuel)
    | _ => failure

end

end Parse

/-- The statements of a template; `none` if it is malformed or has two blocks of one name. -/
def parse? (source : String) : Option (List Stmt) := do
  let tokens ← tokens? source.toList
  let ((statements, _), rest) ← (Parse.body (12 * tokens.length + 32) []).run tokens
  let names := (Stmt.blocksOf statements).map (·.1)
  if rest.isEmpty && names.eraseDups.length == names.length then some statements else none

end ServiceGen.Template
