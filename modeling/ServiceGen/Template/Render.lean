import ServiceGen.Template.Arithmetic

/-!
# Rendering

What a template writes for given data. Variables live in frames: a loop, a scope, a block and
a call of a routine each have one, and a name means the variable of the innermost frame that
has it, then the member of the data, then one of the functions `range`, `dict` and
`namespace`. An undefined value may be stored, compared and handed to `default`, but it may
not be written, tested for truth, gone through or asked for a member.
-/

namespace ServiceGen.Template

/-- Where a part of a template stands. -/
structure Scope where
  /-- The frames whose variables are visible, innermost first. -/
  frames : List Nat := []
  /-- The innermost loop, if it is recursive, and the number of recursive loops around it. -/
  recursion : Option (Nat × Nat) := none
  /-- The block, and how many templates further down replace it. -/
  block : Option (String × Nat) := none
  /-- The text that the filters of a block are applied to. -/
  captured : String := ""
  /-- A measure of the calls and insertions around it. -/
  depth : Nat := 0

/-- A routine that a template defines. -/
structure Routine where
  params : List (String × Option Expr)
  body : List Stmt
  /-- Where it is defined. -/
  scope : Scope

/-- A recursive loop. -/
structure LoopCode where
  target : Target
  condition : Option Expr
  body : List Stmt
  otherwise : List Stmt

/-- What rendering changes. -/
structure State where
  frames : Array (Entries Value) := #[]
  routines : Array Routine := #[]
  loops : Array LoopCode := #[]
  /-- The bodies of each block, the one to be used first. -/
  blocks : Entries (List (List Stmt)) := []
  /-- The templates that the present one is derived from. -/
  derived : List String := []
  /-- The template that the present one is derived from, once it is known. -/
  parent : Option (List Stmt) := none

/-- What rendering reads. -/
structure Source where
  templates : Entries (List Stmt)
  data : List (Value × Value)

/-- A step of rendering; it fails without saying why. -/
abbrev Render := ReaderT Source (StateT State Option)

namespace Render

/-- How deep calls and insertions may be nested. -/
def depthLimit : Nat := 500

/-- A value that exists; an error otherwise. -/
def ofOption {α : Type} : Option α → Render α
  | some a => pure a
  | none => failure

/-- A new frame with some variables. -/
def newFrame (fields : Entries Value) : Render Nat := do
  let state ← get
  set { state with frames := state.frames.push fields }
  return state.frames.size

/-- The variables of a frame. -/
def frame (i : Nat) : Render (Entries Value) := do
  return ((← get).frames[i]?).getD []

/-- Gives a variable of a frame a value. -/
def store (i : Nat) (name : String) (value : Value) : Render Unit :=
  modify fun state => { state with frames := state.frames.modify i (Entries.put name value) }

/-- A scope with a further frame. -/
def within (scope : Scope) (fields : Entries Value) : Render Scope := do
  return { scope with frames := (← newFrame fields) :: scope.frames }

/-- The functions that every template has. -/
def functions : List String := ["range", "dict", "namespace"]

/-- What a name means. -/
def lookup (scope : Scope) (name : String) : Render Value := do
  let state ← get
  let found := scope.frames.findSome? fun i => (state.frames[i]?).bind (Entries.get? · name)
  match found.or (Value.valueUnder? (← read).data (.text name)) with
  | some value => return value
  | none => return if functions.contains name then .function name else .undefined

/-- Whether a value counts as true; an error if it is undefined. -/
def truth : Value → Render Bool
  | .undefined => failure
  | v => return v.isTrue

/-- The items of a value; an error if it is undefined or has none. -/
def itemsOf : Value → Render (List Value)
  | .undefined => failure
  | v => ofOption v.items?

/-- What a value has under a key or at a position; an error if it is undefined. -/
def member (v key : Value) : Render Value := do
  if v.isUndefined then failure
  match v, key with
  | .cell i, .text name => return ((← frame i).get? name).getD .undefined
  | v, key => return v.get key

/-- The variables of a map. -/
def fieldsOf (entries : List (Value × Value)) : Entries Value :=
  entries.filterMap fun
    | (.text name, value) => some (name, value)
    | _ => none

/-- Variables as a map. -/
def toMap (fields : Entries Value) : Value :=
  .map ((Entries.sortedOfList fields).map fun (name, value) => (.text name, value))

/-- A call of one of the functions that every template has. -/
def callFunction (name : String) (args : Args) : Render Value := do
  match name, args.positional with
  | "range", [.int high] => ofOption (Arithmetic.range? 0 high 1)
  | "range", [.int low, .int high] => ofOption (Arithmetic.range? low high 1)
  | "range", [.int low, .int high, .int step] => ofOption (Arithmetic.range? low high step)
  | "dict", [] => return toMap args.named
  | "dict", [.map entries] => return toMap (fieldsOf entries ++ args.named)
  | "namespace", [] => return .cell (← newFrame args.named)
  | "namespace", [.map entries] => return .cell (← newFrame (fieldsOf entries ++ args.named))
  | _, _ => failure

/-- A call of something that belongs to a loop. -/
def callLoop (scope : Scope) (position : Nat) (name : String) (args : Args) : Render Value := do
  match name with
  | "cycle" =>
    if args.positional.isEmpty then failure
    return (args.positional[position % args.positional.length]?).getD .undefined
  | "changed" =>
    let state ← get
    let home ← ofOption (scope.frames.find? fun i =>
      Entries.has ((state.frames[i]?).getD []) "loop")
    let now := Value.list args.positional
    let before := (← frame home).get? "loop.changed"
    store home "loop.changed" now
    return .bool (before.elim true fun v => !v.same now)
  | _ => failure

/-- Adds the blocks of a template behind those that replace them. -/
def addBlocks (statements : List Stmt) : Render Unit :=
  modify fun state => { state with
    blocks := (Stmt.blocksOf statements).foldl (fun blocks (name, body) =>
      Entries.put name ((blocks.get? name).getD [] ++ [body]) blocks) state.blocks }

/-- The statements of the first of some templates that exists. -/
def template? (names : Value) : Render (Option (String × List Stmt)) := do
  let names := match names with
    | .list names => names
    | name => [name]
  let templates := (← read).templates
  return names.findSome? fun name => match name with
    | .text name => (templates.get? name).map fun statements => (name, statements)
    | _ => none

mutual

/-- The value of an expression. -/
def evaluate : Nat → Scope → Expr → Render Value
  | 0, _, _ => failure
  | fuel + 1, scope, e => do
    match e with
    | .const value => return value
    | .var name => lookup scope name
    | .negate operand => ofOption (Arithmetic.negate? (← evaluate fuel scope operand))
    | .invert operand => return .bool (!(← truth (← evaluate fuel scope operand)))
    | .binary .and left right =>
      let value ← evaluate fuel scope left
      if ← truth value then evaluate fuel scope right else return value
    | .binary .or left right =>
      let value ← evaluate fuel scope left
      if ← truth value then return value else evaluate fuel scope right
    | .binary op left right =>
      let left ← evaluate fuel scope left
      let right ← evaluate fuel scope right
      ofOption (Arithmetic.value? op left right)
    | .choice condition yes no =>
      if ← truth (← evaluate fuel scope condition) then evaluate fuel scope yes
      else match no with
        | some no => evaluate fuel scope no
        | none => return .silent
    | .filter name operand args =>
      let value ← match operand with
        | some operand => evaluate fuel scope operand
        | none => pure (.text scope.captured)
      let args ← arguments fuel scope args
      ofOption (Filter.value? name value args)
    | .test name operand args =>
      let value ← evaluate fuel scope operand
      let args ← arguments fuel scope args
      return .bool (← ofOption (Check.outcome? name value args))
    | .member operand name => member (← evaluate fuel scope operand) (.text name)
    | .item operand index =>
      let value ← evaluate fuel scope operand
      member value (← evaluate fuel scope index)
    | .slice operand start stop step =>
      let value ← evaluate fuel scope operand
      let bound (e : Option Expr) : Render Value := match e with
        | some e => evaluate fuel scope e
        | none => pure .none
      let start ← bound start
      let stop ← bound stop
      ofOption (Arithmetic.slice? value start stop (← bound step))
    | .call callee args => call fuel scope callee (← arguments fuel scope args)
    | .list items => return .list (← items.mapM (evaluate fuel scope))
    | .map entries =>
      let pairs ← entries.mapM fun (key, value) => do
        let key ← evaluate fuel scope key
        return (key, ← evaluate fuel scope value)
      return .map (pairs.foldl (fun entries (key, value) => Value.putEntry key value entries) [])

/-- The arguments of a call. -/
def arguments : Nat → Scope → List (ArgKind × Expr) → Render Args
  | 0, _, _ => failure
  | fuel + 1, scope, args =>
    args.foldlM (fun known (kind, e) => do
      let value ← evaluate fuel scope e
      match kind with
      | .positional => return { known with positional := known.positional ++ [value] }
      | .named name => return { known with named := Entries.put name value known.named }
      | .spread => return { known with positional := known.positional ++ (← itemsOf value) }
      | .spreadNamed => match value with
        | .map entries =>
          return { known with named := (fieldsOf entries).foldl (fun named (name, value) =>
            Entries.put name value named) known.named }
        | _ => failure) {}

/-- The value of a call. -/
def call : Nat → Scope → Expr → Args → Render Value
  | 0, _, _, _ => failure
  | fuel + 1, scope, callee, args => do
    match callee with
    | .var "super" =>
      let (name, level) ← ofOption scope.block
      return .text (← runBlock fuel scope name (level + 1))
    | .var "loop" =>
      let (index, depth) ← ofOption scope.recursion
      let code ← ofOption ((← get).loops[index]?)
      match args.positional with
      | [items] =>
        let scope := { scope with depth := scope.depth + 5 }
        return .text (← runLoop fuel scope code items (some index) (depth + 1))
      | _ => failure
    | .member (.var "self") name => return .text (← runBlock fuel scope name 0)
    | .member owner name =>
      let value ← evaluate fuel scope owner
      match value with
      | .loop position .. => callLoop scope position name args
      | _ => invoke fuel scope (← member value (.text name)) args
    | e => invoke fuel scope (← evaluate fuel scope e) args

/-- What a value gives when it is called. -/
def invoke : Nat → Scope → Value → Args → Render Value
  | 0, _, _, _ => failure
  | fuel + 1, scope, callee, args => do
    match callee with
    | .function name => callFunction name args
    | .routine index =>
      let routine ← ofOption ((← get).routines[index]?)
      let names := routine.params.map (·.1)
      let known := args.named.names.all fun name => names.contains name || name == "caller"
      if names.length < args.positional.length || !known then failure
      if depthLimit < scope.depth then failure
      let inner ← within { routine.scope with depth := scope.depth + 5, recursion := none }
        ((args.named.get? "caller").toList.map fun v => ("caller", v))
      let home ← ofOption inner.frames.head?
      for ((name, standard), position) in routine.params.zipIdx do
        let given := args.get? position name
        let value ← match given, standard with
          | some value, _ => pure value
          | none, some e => evaluate fuel inner e
          | none, none => pure .undefined
        store home name value
      return .text (← execute fuel inner routine.body)
    | _ => failure

/-- Gives variables the values they are assigned. -/
def assign : Nat → Scope → Target → Value → Render Unit
  | 0, _, _, _ => failure
  | fuel + 1, scope, target, value => do
    match target with
    | .name name => store (← ofOption scope.frames.head?) name value
    | .member owner name =>
      match ← evaluate fuel scope owner with
      | .cell i => store i name value
      | _ => failure
    | .tuple targets =>
      let items ← itemsOf value
      if items.length != targets.length then failure
      for (part, item) in targets.zip items do
        assign fuel scope part item

/-- The text of a loop over the items of a value. -/
def runLoop : Nat → Scope → LoopCode → Value → Option Nat → Nat → Render String
  | 0, _, _, _, _, _ => failure
  | fuel + 1, scope, code, value, recursive, depth => do
    if depthLimit < scope.depth then failure
    let items ← itemsOf value
    let items ← match code.condition with
      | none => pure items
      | some condition => do
        let inner ← within scope []
        items.filterM fun item => do
          assign fuel inner code.target item
          truth (← evaluate fuel inner condition)
    if items.isEmpty then execute fuel scope code.otherwise
    else
      let inner ← within scope []
      let inner := { inner with recursion := recursive.map (·, depth) }
      let home ← ofOption inner.frames.head?
      items.zipIdx.foldlM (fun text (item, position) => do
        let previous := if position == 0 then none else items[position - 1]?
        let state := Value.loop position items.length depth (previous.getD .undefined)
          ((items[position + 1]?).getD .undefined)
        store home "loop" state
        assign fuel inner code.target item
        return text ++ (← execute fuel inner code.body)) ""

/-- The text of a block. -/
def runBlock : Nat → Scope → String → Nat → Render String
  | 0, _, _, _ => failure
  | fuel + 1, scope, name, level => do
    let bodies := ((← get).blocks.get? name).getD []
    let body ← ofOption bodies[level]?
    let inner ← within { scope with block := some (name, level) } []
    execute fuel inner body

/-- The text of a template, and of those that it is derived from. -/
def runTemplate : Nat → Scope → List Stmt → Render String
  | 0, _, _ => failure
  | fuel + 1, scope, statements => do
    modify fun state => { state with parent := none }
    let text ← statements.foldlM (fun text statement => do
      let before := (← get).parent.isSome
      let more ← statementText fuel scope statement
      return if before then text else text ++ more) ""
    match (← get).parent with
    | some parent => return text ++ (← runTemplate fuel scope parent)
    | none => return text

/-- The variables of a template after it has been run by itself. -/
def runModule : Nat → Scope → Expr → Render Value
  | 0, _, _ => failure
  | fuel + 1, scope, source => do
    let (_, statements) ← ofOption (← template? (← evaluate fuel scope source))
    if depthLimit < scope.depth then failure
    let saved ← get
    modify fun state => { state with blocks := [], derived := [] }
    addBlocks statements
    let inner ← within { scope with depth := scope.depth + 10, recursion := none, block := none } []
    let _ ← runTemplate fuel inner statements
    modify fun state => { state with
      blocks := saved.blocks, derived := saved.derived, parent := saved.parent }
    return toMap (← frame (← ofOption inner.frames.head?))

/-- The text of statements. -/
def execute : Nat → Scope → List Stmt → Render String
  | 0, _, _ => failure
  | fuel + 1, scope, statements =>
    statements.foldlM (fun text statement => do
      return text ++ (← statementText fuel scope statement)) ""

/-- The text of a statement. -/
def statementText : Nat → Scope → Stmt → Render String
  | 0, _, _ => failure
  | fuel + 1, scope, statement => do
    match statement with
    | .data text => return text
    | .emit e =>
      match ← evaluate fuel scope e with
      | .undefined => failure
      | value => return value.toText
    | .loop recursive target items condition body otherwise =>
      let code : LoopCode := ⟨target, condition, body, otherwise⟩
      let depth := scope.recursion.elim 0 fun (_, depth) => depth + 1
      let index := (← get).loops.size
      if recursive then modify fun state => { state with loops := state.loops.push code }
      runLoop fuel scope code (← evaluate fuel scope items) (if recursive then some index else none)
        depth
    | .branch condition yes no =>
      if ← truth (← evaluate fuel scope condition) then execute fuel scope yes
      else execute fuel scope no
    | .assign target e =>
      assign fuel scope target (← evaluate fuel scope e)
      return ""
    | .capture target filters body =>
      let text ← execute fuel scope body
      let value ← match filters with
        | some filters => evaluate fuel { scope with captured := text } filters
        | none => pure (.text text)
      assign fuel scope target value
      return ""
    | .scope bindings body =>
      let inner ← within scope []
      for (target, e) in bindings do
        assign fuel inner target (← evaluate fuel inner e)
      execute fuel inner body
    | .filtered filters body =>
      let text ← execute fuel scope body
      match ← evaluate fuel { scope with captured := text } filters with
      | .undefined => failure
      | value => return value.toText
    | .routine name params body =>
      let index := (← get).routines.size
      modify fun state => { state with routines := state.routines.push ⟨params, body, scope⟩ }
      store (← ofOption scope.frames.head?) name (.routine index)
      return ""
    | .callWith e params body =>
      match e with
      | .call callee args =>
        let args ← arguments fuel scope args
        let index := (← get).routines.size
        modify fun state => { state with routines := state.routines.push ⟨params, body, scope⟩ }
        let value ← call fuel scope callee
          { args with named := Entries.put "caller" (.routine index) args.named }
        return value.toText
      | _ => failure
    | .perform e =>
      let _ ← evaluate fuel scope e
      return ""
    | .insert source optional =>
      match ← template? (← evaluate fuel scope source) with
      | some (_, statements) =>
        if depthLimit < scope.depth then failure
        let saved ← get
        modify fun state => { state with blocks := [] }
        addBlocks statements
        let inner := { scope with depth := scope.depth + 10, recursion := none, block := none }
        let text ← runTemplate fuel inner statements
        modify fun state => { state with
          blocks := saved.blocks, derived := saved.derived, parent := saved.parent }
        return text
      | none => if optional then return "" else failure
    | .block name _ =>
      if (← get).parent.isSome then return "" else runBlock fuel scope name 0
    | .inherits source =>
      let state ← get
      if state.parent.isSome then failure
      let (name, statements) ← ofOption (← template? (← evaluate fuel scope source))
      if state.derived.contains name then failure
      addBlocks statements
      modify fun state => { state with
        derived := name :: state.derived, parent := some statements }
      return ""
    | .load source name =>
      store (← ofOption scope.frames.head?) name (← runModule fuel scope source)
      return ""
    | .loadNames source names =>
      let home ← ofOption scope.frames.head?
      let loaded ← runModule fuel scope source
      for (name, own) in names do
        store home own (loaded.get (.text name))
      return ""

end

/-- A bound on how deep the parts of a template are nested. -/
def nesting : Nat := 100000

end Render

/-- The text that a template writes for data; `none` if it cannot be rendered. -/
def render? (templates : Entries (List Stmt)) (name : String) (data : Json) : Option String := do
  let statements ← templates.get? name
  let data := match Value.ofJson data with
    | .map entries => entries
    | _ => []
  let work : Render String := do
    Render.addBlocks statements
    let scope ← Render.within {} []
    Render.runTemplate Render.nesting scope statements
  let (text, _) ← (work.run { templates, data }).run { derived := [name] }
  return text

end ServiceGen.Template
