import ServiceGen.Source.Cursor

/-!
# The Grammar of a Rust Source

Which token lists are well-formed. Every construct has a recognizer that passes over it and
fails where the tokens do not continue it. The recognizers share one budget, which shrinks
with each step down and is larger than any source can use up (`budget`).

Among the rules that are not about the order of tokens alone: `self`, `super` and `crate`
stand only where a path begins, an inclusive range has an end, and a name that is imported or
a statement without a block has its semicolon, while an item has no further one.
-/

namespace ServiceGen.Source

open Recognizer

/-- The steps that are granted for a source. Places in it are numbers of 32 bits, and fewer than
60 steps go down for a single token. -/
def budget : Nat := 60 * 4294967296

/-- Where a path stands, which decides about the arguments of its segments. -/
inductive PathPlace
  /-- Without arguments. -/
  | plain
  /-- In an import: without arguments, and the last part may be a list or a star. -/
  | imported
  /-- In a type. -/
  | type
  /-- In an expression. -/
  | value
deriving DecidableEq

/-- Where an item stands, which decides about the words that may stand before it. -/
inductive ItemPlace
  /-- Where it may have a visibility. -/
  | free
  /-- In the implementation of a trait: without a visibility. -/
  | bare
  /-- In a block of another language: it may be marked as safe. -/
  | foreign
deriving DecidableEq

/-- What an expression may not be, or may be, because of where it stands. -/
structure ExprPlace where
  /-- A brace after a path begins a block and not the fields of a value. -/
  noFields : Bool := false
  /-- The expression is a statement, and ends with its block if it is one. -/
  isStatement : Bool := false
  /-- A pattern may be matched. -/
  isCondition : Bool := false

/-- The place of a condition. -/
def ExprPlace.condition : ExprPlace :=
  { noFields := true, isCondition := true }

/-- The operators with two operands that are not ranges, longest first. -/
def operators : List String := [
  ">>=", "<<=", "||", "|=", "|", ">>", ">=", ">", "==", "<=", "<<", "<", "+=", "+", "^=", "^", "%=",
  "%", "&=", "&&", "&", "/=", "/", "*=", "*", "!=", "-=", "-"]

/-- The number of marks of the operator that tokens begin with. -/
def operatorLength? (tokens : List Token) : Option Nat :=
  match operators.find? fun op => beginsWith op.toList tokens with
  | some op => some op.length
  | none =>
    if beginsWith ['='] tokens && !beginsWith ['=', '>'] tokens then some 1 else none

/-- What may stand before the name in a bound, and whether something does. -/
def boundMarks : Recognizer Bool := do
  if ← eat '~' then
    expectWord "const"
    let _ ← eat '?'
    return true
  let marked ← if ← eatWord "const" then pure true else eatWord "async"
  return (← eat '?') || marked

mutual

/-- Attributes before something. -/
def attributes : Nat → Recognizer Unit
  | 0 => reject
  | fuel + 1 => do
    if ← eat '#' then
      attributeBody fuel
      attributes fuel

/-- Attributes of what they stand in. -/
def innerAttributes : Nat → Recognizer Unit
  | 0 => reject
  | fuel + 1 => do
    if (← sees '#') && (← second (·.isMark '!')) then
      skip
      skip
      attributeBody fuel
      innerAttributes fuel

/-- The part of an attribute in brackets. -/
def attributeBody : Nat → Recognizer Unit
  | 0 => reject
  | fuel + 1 => do
    expect '['
    attributeContent fuel
    expect ']'

/-- What an attribute says. -/
def attributeContent : Nat → Recognizer Unit
  | 0 => reject
  | fuel + 1 => do
    if (← seesWord "unsafe") && (← second (·.isMark '(')) then
      skip
      skip
      attributeContent fuel
      expect ')'
    else
      path fuel .plain
      if ← eat '=' then expr fuel {}
      else if (← ahead).head?.any (·.isOneMark ['(', '[', '{']) then tree fuel

/-- A path. -/
def path : Nat → PathPlace → Recognizer Unit
  | 0, _ => reject
  | fuel + 1, place => do
    if (← sees '<') && (place == .type || place == .value) then
      skip
      typeExpr fuel true
      if ← eatWord "as" then path fuel .type
      expect '>'
      require (← seesAll colons)
      pathRest fuel place false
    else
      let rooted ← eatAll colons
      let word := (← ahead).head?
      if rooted then require !(word.any (·.isOneOf ["self", "super", "crate"]))
      segment fuel place
      pathRest fuel place (word.any (·.isWord "super"))

/-- The further segments of a path. `upward` tells whether all before were `super`. -/
def pathRest : Nat → PathPlace → Bool → Recognizer Unit
  | 0, _, _ => reject
  | fuel + 1, place, upward => do
    let tokens ← ahead
    let next := (tokens.drop 2).head?
    let isList := place == .imported && next.any (·.isOneMark ['*', '{'])
    if beginsWith colons tokens && !isList then
      let _ ← eatAll colons
      require !(next.any (·.isOneOf ["self", "crate"]))
      let isSuper := next.any (·.isWord "super")
      require (upward || !isSuper)
      segment fuel place
      pathRest fuel place (upward && isSuper)

/-- A segment of a path with its arguments. -/
def segment : Nat → PathPlace → Recognizer Unit
  | 0, _ => reject
  | fuel + 1, place => do
    require ((← ahead).head?.any fun t => t.isName || t.isOneOf pathWords)
    skip
    let tokens ← ahead
    let next := (tokens.drop 2).head?
    match place with
    | .plain | .imported => pure ()
    | .value =>
      if beginsWith colons tokens && next.any (·.isMark '<') then
        let _ ← eatAll colons
        typeArguments fuel
    | .type =>
      if beginsWith colons tokens && next.any (·.isOneMark ['<', '(']) then
        let _ ← eatAll colons
      if ← eat '(' then
        commaList ')' (typeExpr fuel true) fuel
        result fuel
      else if (← sees '<') && !(← seesAll ['<', '=']) then typeArguments fuel

/-- The arguments of a generic name. -/
def typeArguments : Nat → Recognizer Unit
  | 0 => reject
  | fuel + 1 => do
    expect '<'
    commaList '>' (typeArgument fuel) fuel

/-- An argument of a generic name: a lifetime, a constant or a type, which may be the value or
the bound of an associated type. -/
def typeArgument : Nat → Recognizer Unit
  | 0 => reject
  | fuel + 1 => do
    let tokens ← ahead
    match tokens with
    | .lifetime :: next :: _ =>
      if next.isMark '+' then bounds fuel else skip
    | .literal .. :: _ => literal
    | t :: _ =>
      if t.isMark '-' then
        skip
        literal
      else if t.isMark '{' then block fuel
      else if t.isOneOf ["true", "false"] then skip
      else
        typeExpr fuel true
        if ← eat '=' then typeArgument fuel
        else if (← sees ':') && !(← seesAll colons) then
          skip
          bounds fuel
    | [] => reject

/-- A type; with `bounded`, further bounds may follow it. -/
def typeExpr : Nat → Bool → Recognizer Unit
  | 0, _ => reject
  | fuel + 1, bounded => do
    let tokens ← ahead
    match tokens.head? with
    | none => reject
    | some t =>
      if t.isMark '(' then
        skip
        commaList ')' (typeExpr fuel true) fuel
      else if t.isMark '!' then skip
      else if t.isMark '*' then
        skip
        if !(← eatWord "mut") then expectWord "const"
        prefixedType fuel
      else if t.isMark '[' then
        skip
        typeExpr fuel true
        if ← eat ';' then expr fuel {}
        expect ']'
      else if t.isMark '&' then
        skip
        let _ ← eatLifetime
        let _ ← eatWord "mut"
        prefixedType fuel
      else if t.isWord "_" then skip
      else if t.isOneOf ["fn", "unsafe", "extern"] then functionType fuel
      else if t.isWord "for" then
        binder fuel
        if (← ahead).head?.any (·.isOneOf ["fn", "unsafe", "extern"]) then functionType fuel
        else
          require (startsPath (← ahead))
          path fuel .type
      else if t.isOneOf ["impl", "dyn"] then
        skip
        bounds fuel
      else if t == .lifetime then
        require (← second (·.isMark '+'))
        bounds fuel
      else
        path fuel .type
        if (← sees '!') && !(← seesAll ['!', '=']) then
          skip
          tree fuel
        else if bounded then
          if ← eat '+' then bounds fuel

/-- A type behind what belongs to it, as in a reference. A trait object has one bound there. -/
def prefixedType : Nat → Recognizer Unit
  | 0 => reject
  | fuel + 1 => do
    if ← eatWord "dyn" then
      if ← bound fuel then
        if ← eat '+' then require !(← bound fuel)
    else typeExpr fuel false

/-- The type of a function pointer. -/
def functionType : Nat → Recognizer Unit
  | 0 => reject
  | fuel + 1 => do
    let _ ← eatWord "unsafe"
    if ← eatWord "extern" then
      if (← ahead).head?.any Token.isLiteral then literal
    expectWord "fn"
    expect '('
    commaList ')' (pointerParameter fuel) fuel
    if ← eatAll ['-', '>'] then prefixedType fuel

/-- A parameter of a function pointer. -/
def pointerParameter : Nat → Recognizer Unit
  | 0 => reject
  | fuel + 1 => do
    attributes fuel
    if ← eatAll ['.', '.', '.'] then return
    let tokens ← ahead
    let named := tokens.head?.any fun t => t.isName || t.isWord "_"
    if named && tokens.tail.head?.any (·.isMark ':') && !beginsWith colons tokens.tail then
      skip
      skip
    typeExpr fuel true

/-- The result type of a function, if it has one. -/
def result : Nat → Recognizer Unit
  | 0 => reject
  | fuel + 1 => do
    if ← eatAll ['-', '>'] then typeExpr fuel false

/-- Bounds with plus signs between them, possibly none. -/
def bounds : Nat → Recognizer Unit
  | 0 => reject
  | fuel + 1 => do
    if ← bound fuel then
      if ← eat '+' then bounds fuel

/-- A bound, if one comes next. -/
def bound : Nat → Recognizer Bool
  | 0 => reject
  | fuel + 1 => do
    if ← eat '(' then
      require (← bound fuel)
      expect ')'
      return true
    else if ← eatLifetime then return true
    else if (← seesWord "use") && (← second (·.isMark '<')) then
      skip
      skip
      commaList '>' skip fuel
      return true
    else
      let marked ← boundMarks
      if ← seesWord "for" then binder fuel
      if startsPath (← ahead) then
        path fuel .type
        return true
      require !marked
      return false

/-- The lifetimes that a type or bound is for. -/
def binder : Nat → Recognizer Unit
  | 0 => reject
  | fuel + 1 => do
    expectWord "for"
    require (← sees '<')
    typeParameters fuel

/-- The parameters of a generic declaration, if it has some. -/
def typeParameters : Nat → Recognizer Unit
  | 0 => reject
  | fuel + 1 => do
    if ← eat '<' then commaList '>' (typeParameter fuel) fuel

/-- A parameter of a generic declaration. -/
def typeParameter : Nat → Recognizer Unit
  | 0 => reject
  | fuel + 1 => do
    attributes fuel
    if ← eatLifetime then
      if ← eat ':' then bounds fuel
    else if ← eatWord "const" then
      name
      expect ':'
      typeExpr fuel true
      if ← eat '=' then typeArgument fuel
    else
      name
      if ← eat ':' then bounds fuel
      if ← eat '=' then typeExpr fuel true

/-- The clause with the conditions of a generic declaration, if it has one. -/
def whereClause : Nat → Recognizer Unit
  | 0 => reject
  | fuel + 1 => do
    if ← eatWord "where" then conditions fuel

/-- The conditions of a generic declaration. -/
def conditions : Nat → Recognizer Unit
  | 0 => reject
  | fuel + 1 => do
    let tokens ← ahead
    if tokens.head?.any (·.isOneMark ['{', ';', '=']) then return
    if startsType tokens then
      if ← eatLifetime then
        expect ':'
        bounds fuel
      else
        if ← seesWord "for" then binder fuel
        typeExpr fuel true
        expect ':'
        bounds fuel
      if ← eat ',' then conditions fuel
      else require ((← ahead).head?.any (·.isOneMark ['{', ';', '=']))

/-- A pattern with its alternatives. -/
def pattern : Nat → Recognizer Unit
  | 0 => reject
  | fuel + 1 => do
    let _ ← eat '|'
    singlePattern fuel
    if ← sees '|' then pattern fuel

/-- A pattern without alternatives. -/
def singlePattern : Nat → Recognizer Unit
  | 0 => reject
  | fuel + 1 => do
    if ← eatAll ['.', '.', '='] then patternAtom fuel
    else if ← eatAll ['.', '.'] then
      let tokens ← ahead
      let continues := tokens.head?.any fun t => t.isLiteral || t.isMark '-'
        || t.isOneOf ["true", "false", "const"]
      if continues || startsPath tokens then patternAtom fuel
    else
      patternAtom fuel
      if (← eatAll ['.', '.', '.']) || (← eatAll ['.', '.', '=']) then patternAtom fuel
      else if ← eatAll ['.', '.'] then
        let stops := (← ahead).head?.all fun t =>
          t.isOneMark ['=', ',', ':', ')', ']', '}'] || t.isWord "if"
        if !stops then patternAtom fuel

/-- A pattern that is no range. -/
def patternAtom : Nat → Recognizer Unit
  | 0 => reject
  | fuel + 1 => do
    let tokens ← ahead
    match tokens with
    | [] => reject
    | t :: rest =>
      let next := rest.head?
      if t.isLiteral then literal
      else if t.isMark '-' then
        skip
        literal
      else if t.isMark '&' then
        skip
        let _ ← eatWord "mut"
        singlePattern fuel
      else if t.isMark '(' then
        skip
        commaList ')' (pattern fuel) fuel
      else if t.isMark '[' then
        skip
        commaList ']' (pattern fuel) fuel
      else if t.isOneOf ["_", "true", "false"] then skip
      else if t.isOneOf ["ref", "mut"] then namePattern fuel
      else if t.isWord "box" then
        skip
        singlePattern fuel
      else if t.isWord "const" then
        skip
        block fuel
      else if t.isName && !beginsWith colons rest && !next.any (·.isOneMark ['(', '{', '!']) then
        namePattern fuel
      else
        path fuel .value
        if ← eat '(' then commaList ')' (pattern fuel) fuel
        else if ← eat '{' then commaList '}' (fieldPattern fuel) fuel
        else if ← eat '!' then tree fuel

/-- A name that a value is bound to. -/
def namePattern : Nat → Recognizer Unit
  | 0 => reject
  | fuel + 1 => do
    let _ ← eatWord "ref"
    let _ ← eatWord "mut"
    name
    if ← eat '@' then singlePattern fuel

/-- The pattern of a field. -/
def fieldPattern : Nat → Recognizer Unit
  | 0 => reject
  | fuel + 1 => do
    attributes fuel
    let tokens ← ahead
    if beginsWith ['.', '.'] tokens then
      let _ ← eatAll ['.', '.']
      require (← sees '}')
    else
      let key := tokens.head?.any fun t => t.isName || t.isLiteral
      if key && tokens.tail.head?.any (·.isMark ':') && !beginsWith colons tokens.tail then
        skip
        skip
        pattern fuel
      else
        let _ ← eatWord "box"
        namePattern fuel

/-- An expression. -/
def expr : Nat → ExprPlace → Recognizer Unit
  | 0, _ => reject
  | fuel + 1, place => do
    let _ ← operation fuel { place with isStatement := false }

/-- Operands with operators between them; whether they are a block that ends a statement. -/
def operation : Nat → ExprPlace → Recognizer Bool
  | 0, _ => reject
  | fuel + 1, place => do
    attributes fuel
    let isBlock ← operand fuel place
    if place.isStatement && isBlock then return true
    operationRest fuel { place with isStatement := false }
    return false

/-- The operators and operands after an operand. -/
def operationRest : Nat → ExprPlace → Recognizer Unit
  | 0, _ => reject
  | fuel + 1, place => do
    let tokens ← ahead
    if tokens.head?.any (·.isWord "as") then
      skip
      typeExpr fuel false
      operationRest fuel place
    else if beginsWith ['.', '.'] tokens then
      let inclusive ← eatAll ['.', '.', '=']
      if !inclusive then
        let _ ← eatAll ['.', '.']
      if startsExpr (← ahead) && !(place.noFields && (← sees '{')) then
        let _ ← operation fuel { place with isStatement := false }
      else require !inclusive
    else match operatorLength? tokens with
      | some n =>
        skips n
        attributes fuel
        let _ ← operand fuel place
        operationRest fuel place
      | none => pure ()

/-- An operand with the operators before and after it; whether it ends with a block. -/
def operand : Nat → ExprPlace → Recognizer Bool
  | 0, _ => reject
  | fuel + 1, place => do
    let plain := { place with isStatement := false }
    let tokens ← ahead
    match tokens with
    | [] => reject
    | t :: rest =>
      if t.isMark '&' then
        skip
        if (rest.head?.any (·.isWord "raw"))
            && rest.tail.head?.any (·.isOneOf ["const", "mut"]) then
          skip
          skip
        else
          let _ ← eatWord "mut"
        let _ ← operand fuel plain
        return false
      else if t.isOneMark ['*', '!', '-'] then
        skip
        let _ ← operand fuel plain
        return false
      else if beginsWith ['.', '.'] tokens then
        let inclusive ← eatAll ['.', '.', '=']
        if !inclusive then
          let _ ← eatAll ['.', '.']
        if startsExpr (← ahead) && !(place.noFields && (← sees '{')) then
          let _ ← operation fuel plain
        else require !inclusive
        return false
      else if t.isWord "let" then
        require place.isCondition
        skip
        pattern fuel
        expect '='
        let _ ← operand fuel { plain with isCondition := false }
        return false
      else
        let isBlock ← atom fuel plain
        suffixes fuel isBlock !(place.isStatement && isBlock)

/-- The calls, fields and indices after a value. With `callable`, brackets directly after it
are arguments or an index. -/
def suffixes : Nat → Bool → Bool → Recognizer Bool
  | 0, _, _ => reject
  | fuel + 1, isBlock, callable => do
    let tokens ← ahead
    match tokens with
    | t :: rest =>
      if t.isMark '(' && callable then
        skip
        commaList ')' (expr fuel {}) fuel
        suffixes fuel false true
      else if t.isMark '[' && callable then
        skip
        expr fuel {}
        expect ']'
        suffixes fuel false true
      else if t.isMark '?' then
        skip
        suffixes fuel false true
      else if t.isMark '.' && !beginsWith ['.', '.'] tokens then
        skip
        match rest with
        | .literal numbered _ :: _ =>
          require numbered
          skip
        | field :: _ =>
          require (field.isName || field.isOneOf ["await", "self", "super", "crate", "Self"])
          skip
          if ← seesAll colons then
            let _ ← eatAll colons
            typeArguments fuel
            require (← sees '(')
        | [] => reject
        suffixes fuel false true
      else return isBlock
    | [] => return isBlock

/-- A value by itself; whether it ends with a block. -/
def atom : Nat → ExprPlace → Recognizer Bool
  | 0, _ => reject
  | fuel + 1, place => do
    let tokens ← ahead
    match tokens with
    | [] => reject
    | t :: rest =>
      let next (p : Token → Bool) : Bool := rest.head?.any p
      match t with
      | .literal .. =>
        literal
        return false
      | .lifetime =>
        skip
        expect ':'
        let labelled := (← ahead).head?
        require (labelled.any fun t => t.isOneOf ["loop", "for", "while"] || t.isMark '{')
        atom fuel place
      | .mark '(' _ =>
        skip
        commaList ')' (expr fuel {}) fuel
        return false
      | .mark '[' _ =>
        skip
        arrayRest fuel
        return false
      | .mark '{' _ =>
        block fuel
        return true
      | .mark '|' _ =>
        closure fuel place
        return false
      | .word word =>
        match word with
        | "_" | "true" | "false" =>
          skip
          return false
        | "if" =>
          conditional fuel
          return true
        | "match" =>
          skip
          expr fuel { noFields := true }
          expect '{'
          innerAttributes fuel
          listUntil '}' (arm fuel) fuel
          return true
        | "loop" =>
          skip
          block fuel
          return true
        | "while" =>
          skip
          expr fuel .condition
          block fuel
          return true
        | "for" =>
          if next (·.isMark '<') then
            binder fuel
            closure fuel place
            return false
          skip
          pattern fuel
          expectWord "in"
          expr fuel { noFields := true }
          block fuel
          return true
        | "unsafe" | "try" =>
          skip
          block fuel
          return true
        | "const" =>
          if next (·.isMark '{') then
            skip
            block fuel
            return true
          closure fuel place
          return false
        | "async" =>
          let blockNext := next (·.isMark '{')
            || (next (·.isWord "move") && rest.tail.head?.any (·.isMark '{'))
          if blockNext then
            skip
            let _ ← eatWord "move"
            block fuel
            return true
          closure fuel place
          return false
        | "move" | "static" =>
          closure fuel place
          return false
        | "return" | "yield" | "become" =>
          skip
          if startsExpr (← ahead) then expr fuel place
          return false
        | "break" =>
          skip
          let _ ← eatLifetime
          if startsExpr (← ahead) && !(place.noFields && (← sees '{')) then expr fuel place
          return false
        | "continue" =>
          skip
          let _ ← eatLifetime
          return false
        | _ => pathValue fuel place
      | _ => pathValue fuel place

/-- A value that begins with a path: a name, a record or a call of a macro. -/
def pathValue : Nat → ExprPlace → Recognizer Bool
  | 0, _ => reject
  | fuel + 1, place => do
    path fuel .value
    if (← sees '{') && !place.noFields then
      skip
      commaList '}' (fieldValue fuel) fuel
      return false
    else if (← sees '!') && !(← seesAll ['!', '=']) then
      skip
      let isBlock ← sees '{'
      tree fuel
      return isBlock
    else return false

/-- The value of a field, or the record that the other fields are from. -/
def fieldValue : Nat → Recognizer Unit
  | 0 => reject
  | fuel + 1 => do
    attributes fuel
    let tokens ← ahead
    if beginsWith ['.', '.'] tokens then
      let _ ← eatAll ['.', '.']
      if startsExpr (← ahead) then expr fuel {}
      require (← sees '}')
    else
      let key := tokens.head?.any fun t => t.isName || t.isLiteral
      if key && tokens.tail.head?.any (·.isMark ':') && !beginsWith colons tokens.tail then
        skip
        skip
        expr fuel {}
      else name

/-- The rest of a list of values after its opening bracket. -/
def arrayRest : Nat → Recognizer Unit
  | 0 => reject
  | fuel + 1 => do
    if ← eat ']' then return
    expr fuel {}
    if ← eat ';' then
      expr fuel {}
      expect ']'
    else if ← eat ',' then commaList ']' (expr fuel {}) fuel
    else expect ']'

/-- A function without a name. -/
def closure : Nat → ExprPlace → Recognizer Unit
  | 0, _ => reject
  | fuel + 1, place => do
    let _ ← eatWord "const"
    let _ ← eatWord "static"
    let _ ← eatWord "async"
    let _ ← eatWord "move"
    expect '|'
    commaList '|' (closureParameter fuel) fuel
    if ← eatAll ['-', '>'] then
      typeExpr fuel false
      block fuel
    else expr fuel { place with isCondition := false }

/-- A parameter of a function without a name. -/
def closureParameter : Nat → Recognizer Unit
  | 0 => reject
  | fuel + 1 => do
    attributes fuel
    singlePattern fuel
    if (← sees ':') && !(← seesAll colons) then
      skip
      typeExpr fuel true

/-- A condition with its blocks. -/
def conditional : Nat → Recognizer Unit
  | 0 => reject
  | fuel + 1 => do
    expectWord "if"
    expr fuel .condition
    block fuel
    if ← eatWord "else" then
      if ← seesWord "if" then conditional fuel else block fuel

/-- A case of a match. -/
def arm : Nat → Recognizer Unit
  | 0 => reject
  | fuel + 1 => do
    attributes fuel
    pattern fuel
    if ← eatWord "if" then expr fuel { isCondition := true }
    require (← eatAll ['=', '>'])
    let isBlock ← operation fuel { isStatement := true }
    if !(← eat ',') then require (isBlock || (← sees '}'))

/-- Statements in braces. -/
def block : Nat → Recognizer Unit
  | 0 => reject
  | fuel + 1 => do
    expect '{'
    innerAttributes fuel
    listUntil '}' (statement fuel) fuel

/-- A statement, or the value at the end of a block. -/
def statement : Nat → Recognizer Unit
  | 0 => reject
  | fuel + 1 => do
    if ← eat ';' then return
    attributes fuel
    if ← seesWord "let" then binding fuel
    else if startsItem (← ahead) then item fuel .free
    else
      let isBlock ← operation fuel { isStatement := true }
      if isBlock then
        let _ ← eat ';'
      else if !(← sees '}') then expect ';'

/-- A statement that binds names. -/
def binding : Nat → Recognizer Unit
  | 0 => reject
  | fuel + 1 => do
    expectWord "let"
    pattern fuel
    if ← eat ':' then typeExpr fuel true
    if ← eat '=' then expr fuel {}
    if ← eatWord "else" then block fuel
    expect ';'

/-- The part of a visibility after its word. In a tuple a bracket may begin a type. -/
def visibilityRest : Nat → Bool → Recognizer Unit
  | 0, _ => reject
  | fuel + 1, inTuple => do
    match ← ahead with
    | t :: next :: rest =>
      if t.isMark '(' then
        let rooted := beginsWith colons rest
        if next.isOneOf ["crate", "self", "super"] && !rooted then
          skip
          skip
          expect ')'
        else if next.isWord "in" then
          skip
          skip
          path fuel .plain
          expect ')'
        else require inTuple
    | _ => pure ()

/-- The name and the fields of a record. -/
def record : Nat → Bool → Recognizer Unit
  | 0, _ => reject
  | fuel + 1, mayBeTuple => do
    name
    typeParameters fuel
    if ← seesWord "where" then
      whereClause fuel
      if mayBeTuple then
        if ← eat ';' then return
      expect '{'
      commaList '}' (fieldDeclaration fuel) fuel
    else if ← eat '{' then commaList '}' (fieldDeclaration fuel) fuel
    else
      require mayBeTuple
      if ← eat '(' then
        commaList ')' (tupleField fuel) fuel
        whereClause fuel
      expect ';'

/-- The declaration of a field with a name. -/
def fieldDeclaration : Nat → Recognizer Unit
  | 0 => reject
  | fuel + 1 => do
    attributes fuel
    if ← eatWord "pub" then visibilityRest fuel false
    let _ ← eatWord "unsafe"
    name
    expect ':'
    typeExpr fuel true
    if ← eat '=' then expr fuel {}

/-- The declaration of a field without a name. -/
def tupleField : Nat → Recognizer Unit
  | 0 => reject
  | fuel + 1 => do
    attributes fuel
    if ← eatWord "pub" then visibilityRest fuel true
    typeExpr fuel true

/-- A case of an enumeration. -/
def variant : Nat → Recognizer Unit
  | 0 => reject
  | fuel + 1 => do
    attributes fuel
    if ← eatWord "pub" then visibilityRest fuel false
    name
    if ← eat '{' then commaList '}' (fieldDeclaration fuel) fuel
    else if ← eat '(' then commaList ')' (tupleField fuel) fuel
    if ← eat '=' then expr fuel {}

/-- What an import names. `nested` tells whether it stands in a list after a path. -/
def importTree : Nat → Bool → Recognizer Unit
  | 0, _ => reject
  | fuel + 1, nested => do
    let tokens ← ahead
    let afterColons := (tokens.drop 2).head?
    if ← eat '*' then return
    if ← eat '{' then commaList '}' (importTree fuel nested) fuel
    else if beginsWith colons tokens && afterColons.any (·.isMark '*') then
      skips 3
    else if beginsWith colons tokens && afterColons.any (·.isMark '{') then
      skips 3
      commaList '}' (importTree fuel true) fuel
    else
      require (startsPath tokens)
      require !(nested && tokens.head?.any (·.isWord "crate"))
      path fuel .imported
      if ← eatWord "as" then
        if !(← eatWord "_") then name
      else if ← eatAll colons then
        if !(← eat '*') then
          expect '{'
          commaList '}' (importTree fuel true) fuel

/-- A parameter of a function. -/
def parameter : Nat → Recognizer Unit
  | 0 => reject
  | fuel + 1 => do
    attributes fuel
    if ← eatAll ['.', '.', '.'] then return
    singlePattern fuel
    expect ':'
    if !(← eatAll ['.', '.', '.']) then typeExpr fuel true

/-- The parameters of a function, of which the first may be `self`. -/
def parameters : Nat → Recognizer Unit
  | 0 => reject
  | fuel + 1 => do
    expect '('
    attributes fuel
    let tokens ← ahead
    let isSelf (ts : List Token) : Bool := ts.head?.any (·.isWord "self")
    let dropWord (name : String) (ts : List Token) : List Token :=
      if ts.head?.any (·.isWord name) then ts.tail else ts
    if isSelf (dropWord "mut" tokens) then
      let _ ← eatWord "mut"
      skip
      if ← eat ':' then typeExpr fuel true
      if !(← sees ')') then expect ','
    else if tokens.head?.any (·.isMark '&') then
      let rest := tokens.tail
      let rest := if rest.head? == some .lifetime then rest.tail else rest
      if isSelf (dropWord "mut" rest) then
        skip
        let _ ← eatLifetime
        let _ ← eatWord "mut"
        skip
        if !(← sees ')') then expect ','
    commaList ')' (parameter fuel) fuel

/-- A function after its word. -/
def function : Nat → Recognizer Unit
  | 0 => reject
  | fuel + 1 => do
    name
    typeParameters fuel
    parameters fuel
    result fuel
    whereClause fuel
    if !(← eat ';') then block fuel

/-- A constant or static variable after its words. -/
def constant : Nat → Recognizer Unit
  | 0 => reject
  | fuel + 1 => do
    if !(← eatWord "_") then name
    typeParameters fuel
    expect ':'
    typeExpr fuel true
    if ← eat '=' then expr fuel {}
    whereClause fuel
    expect ';'

/-- The name of a type after its word. -/
def typeAlias : Nat → Recognizer Unit
  | 0 => reject
  | fuel + 1 => do
    name
    typeParameters fuel
    if ← eat ':' then bounds fuel
    whereClause fuel
    if ← eat '=' then typeExpr fuel true
    whereClause fuel
    expect ';'

/-- Items in braces. -/
def members : Nat → ItemPlace → Recognizer Unit
  | 0, _ => reject
  | fuel + 1, place => do
    expect '{'
    innerAttributes fuel
    listUntil '}' (declaration fuel place) fuel

/-- The trait after its word. -/
def traitRest : Nat → Recognizer Unit
  | 0 => reject
  | fuel + 1 => do
    name
    typeParameters fuel
    if ← eat '=' then
      bounds fuel
      whereClause fuel
      expect ';'
    else
      if ← eat ':' then bounds fuel
      whereClause fuel
      members fuel .free

/-- An implementation after its word. -/
def implementation : Nat → Recognizer Unit
  | 0 => reject
  | fuel + 1 => do
    typeParameters fuel
    let _ ← eatWord "const"
    let _ ← eat '!'
    typeExpr fuel false
    let ofTrait ← eatWord "for"
    if ofTrait then typeExpr fuel false
    whereClause fuel
    members fuel (if ofTrait then .bare else .free)

/-- The words that may stand before an item, and whether it belongs to another language. -/
def modifiers : Nat → ItemPlace → Recognizer Bool
  | 0, _ => reject
  | fuel + 1, place => do
    let tokens ← ahead
    match tokens with
    | .word word :: rest =>
      let next (p : Token → Bool) : Bool := rest.head?.any p
      match word with
      | "const" =>
        if next fun t => t.isName || t.isOneOf ["_", "mut"] then return false
        skip
        modifiers fuel place
      | "async" | "unsafe" | "auto" | "default" =>
        skip
        modifiers fuel place
      | "safe" =>
        require (place == .foreign)
        skip
        modifiers fuel place
      | "extern" =>
        skip
        if (← ahead).head?.any Token.isLiteral then literal
        let _ ← modifiers fuel place
        return true
      | _ => return false
    | _ => return false

/-- An item without the attributes before it. -/
def item : Nat → ItemPlace → Recognizer Unit
  | 0, _ => reject
  | fuel + 1, place => do
    if ← eatWord "pub" then
      require (place != .bare)
      visibilityRest fuel false
    let tokens ← ahead
    match tokens with
    | .word word :: rest =>
      let next (p : Token → Bool) : Bool := rest.head?.any p
      match word with
      | "use" =>
        skip
        importTree fuel false
        expect ';'
      | "mod" =>
        skip
        name
        if !(← eat ';') then members fuel .free
      | "struct" =>
        skip
        record fuel true
      | "enum" =>
        skip
        name
        typeParameters fuel
        whereClause fuel
        expect '{'
        commaList '}' (variant fuel) fuel
      | "macro" =>
        skip
        name
        if ← sees '(' then tree fuel
        require (← sees '{')
        tree fuel
      | _ =>
        if word == "union" && next Token.isName then
          skip
          record fuel false
        else if word == "macro_rules" && next (·.isMark '!') then
          skip
          skip
          if (← ahead).head?.any Token.isName then skip
          let braces ← sees '{'
          tree fuel
          if !braces then expect ';'
        else if word == "extern" && next (·.isWord "crate") then
          skip
          skip
          if !(← eatWord "self") then name
          if ← eatWord "as" then
            if !(← eatWord "_") then name
          expect ';'
        else
          let foreign ← modifiers fuel place
          match (← ahead).head? with
          | some (.word "fn") =>
            skip
            function fuel
          | some (.word "const") =>
            skip
            constant fuel
          | some (.word "static") =>
            skip
            let _ ← eatWord "mut"
            constant fuel
          | some (.word "type") =>
            skip
            typeAlias fuel
          | some (.word "trait") =>
            skip
            traitRest fuel
          | some (.word "impl") =>
            skip
            implementation fuel
          | some (.mark '{' _) =>
            require foreign
            members fuel .foreign
          | _ => reject
    | _ => reject

/-- An item or the call of a macro, with the attributes before it. An item has no further
semicolon. -/
def declaration : Nat → ItemPlace → Recognizer Unit
  | 0, _ => reject
  | fuel + 1, place => do
    attributes fuel
    let tokens ← ahead
    let isSafe := place == .foreign && tokens.head?.any (·.isWord "safe")
    if startsItem tokens || isSafe then
      item fuel place
      require !(← sees ';')
    else
      require (startsPath (← ahead))
      path fuel .plain
      require !(← seesAll ['!', '='])
      expect '!'
      let braces ← sees '{'
      tree fuel
      if !braces then expect ';'

end

end ServiceGen.Source
