import ServiceGen.Template.Value
import ServiceGen.Text.Plural
import ServiceGen.Text.Quoted

/-!
# Filters and Tests

What the filters and tests of a template compute. A filter that takes a text takes the text
of any value. The project's own filters rewrite names (`snake`, `pascal`, `camel`, `plural`,
`singular`) and write string literals (`rust_str`).
-/

namespace ServiceGen.Template

/-- The arguments of a filter, test or function. -/
structure Args where
  /-- Those given by position. -/
  positional : List Value := []
  /-- Those given by name. -/
  named : Entries Value := []

namespace Args

/-- The argument at a position or with a name. -/
def get? (a : Args) (position : Nat) (name : String) : Option Value :=
  (a.positional[position]?).or (a.named.get? name)

/-- The text of an argument. -/
def text? (a : Args) (position : Nat) (name : String) : Option String :=
  (a.get? position name).map Value.toText

/-- Whether an argument counts as true; false if it is not given. -/
def flag (a : Args) (position : Nat) (name : String) : Bool :=
  ((a.get? position name).map Value.isTrue).getD false

/-- A whole number that an argument is; `none` if it is given and is none. -/
def int? (a : Args) (position : Nat) (name : String) (standard : Int) : Option Int :=
  match a.get? position name with
  | none => some standard
  | some (.int i) => some i
  | some _ => none

end Args

namespace Filter

/-- A text as a value. -/
def ofChars (cs : List Char) : Value :=
  .text (String.ofList cs)

/-- A function on the text of a value. -/
def onText (v : Value) (f : List Char → List Char) : Option Value :=
  some (ofChars (f v.toText.toList))

/-- The first letter of a text in upper case and the others in lower case. -/
def capitalize : List Char → List Char
  | [] => []
  | c :: rest => Text.Letter.toUpper c ++ Text.Letter.lowerText rest

/-- Each word of a text with a capital. Words end at white space and ASCII punctuation. -/
def title (start : Bool) : List Char → List Char
  | [] => []
  | c :: rest =>
    let separates := Text.Letter.isBlank c
      || (Text.Letter.isAscii c && !c.isAlphanum && 0x20 < c.toNat && c.toNat < 0x7F)
    let form := if separates then [c]
      else if start then Text.Letter.toUpper c else Text.Letter.toLower c
    form ++ title separates rest

/-- The text without the given characters at its ends. -/
def trimChars (chars cs : List Char) : List Char :=
  ((cs.dropWhile chars.contains).reverse.dropWhile chars.contains).reverse

/-- The text with the characters of HTML escaped. -/
def escape (cs : List Char) : List Char :=
  cs.flatMap fun c =>
    if c == '<' then "&lt;".toList
    else if c == '>' then "&gt;".toList
    else if c == '&' then "&amp;".toList
    else if c == '"' then "&quot;".toList
    else if c == '\'' then "&#x27;".toList
    else if c == '/' then "&#x2f;".toList
    else [c]

/-- A text with each occurrence of another replaced; an empty one occurs between all
characters and at both ends. -/
def replaced (old new cs : List Char) : List Char :=
  if old.isEmpty then new ++ cs.flatMap fun c => c :: new else Text.replace old new cs

/-- The pieces of a text between the occurrences of another. -/
def pieces (sep : List Char) : Nat → List Char → List (List Char)
  | 0, cs => [cs]
  | limit + 1, cs =>
    match Text.indexOf? sep cs with
    | none => [cs]
    | some i => cs.take i :: pieces sep limit (cs.drop (i + sep.length))

/-- The items of a value in lists of a given size; the last is filled up, if there is
something to fill it with. -/
def batches (size : Nat) (fill : Option Value) : Nat → List Value → List Value
  | 0, _ => []
  | _, [] => []
  | fuel + 1, items =>
    let chunk := items.take size
    let chunk := match fill with
      | some v => chunk ++ List.replicate (size - chunk.length) v
      | none => chunk
    .list chunk :: batches size fill fuel (items.drop size)

/-- The items of a value in a given number of lists. -/
def slices (count : Nat) (fill : Option Value) (items : List Value) : List Value :=
  let base := items.length / count
  let extra := items.length % count
  (List.range count).map fun k =>
    let start := k * base + min k extra
    let size := base + (if k < extra then 1 else 0)
    let chunk := (items.drop start).take size
    match fill with
    | some v => if extra ≤ k && extra != 0 then .list (chunk ++ [v]) else .list chunk
    | none => .list chunk

/-- A text with further lines indented. -/
def indented (width : Nat) (first blank : Bool) (cs : List Char) : List Char :=
  let pad := List.replicate width ' '
  let line (l : List Char) : List Char := if l.isEmpty && !blank then l else pad ++ l
  match Text.splitAtChar '\n' cs with
  | [] => []
  | head :: rest =>
    Text.join ['\n'] ((if first then line head else head) :: rest.map line)

/-- A value in lower case, if it is a text and case does not matter. -/
def folded (caseSensitive : Bool) : Value → Value
  | .text s => if caseSensitive then .text s else ofChars (Text.Letter.lowerText s.toList)
  | v => v

/-- What a dotted path leads to in a value. -/
def follow (v : Value) (path : String) : Value :=
  (Text.splitAtChar '.' path.toList).foldl (fun v part =>
    let name := String.ofList part
    match v with
    | .list _ => match name.toNat? with
      | some n => v.get (.int n)
      | none => .undefined
    | _ => v.get (.text name)) v

/-- Items in ascending order. -/
def sorted (key : Value → Value) (reverse : Bool) (items : List Value) : List Value :=
  let ordered := items.mergeSort fun a b =>
    if reverse then (key b).order (key a) != .gt else (key a).order (key b) != .gt
  ordered

/-- Items without those that were there before. -/
def distinct (key : Value → Value) (items : List Value) : List Value :=
  items.foldl (fun kept v =>
    if kept.any fun w => (key w).same (key v) then kept else kept ++ [v]) []

/-- The whole number that a value stands for. -/
def toInt? : Value → Option Int
  | .undefined | .silent | .none => some 0
  | .bool b => some (if b then 1 else 0)
  | .int i => some i
  | .float x => x.truncate?
  | .text s =>
    match s.toInt? with
    | some i => some i
    | none => (Decimal.read? s.toList).bind Binary64.truncate?
  | _ => none

/-- The floating-point number that a value stands for. -/
def toFloat? : Value → Option Binary64
  | .undefined | .silent | .none => some (.ofNat 0)
  | .text s => Decimal.read? s.toList
  | v => v.toFloat?

/-- A number rounded to some digits after the point, halves away from zero. -/
def round (x : Binary64) (digits : Nat) : Binary64 :=
  match x with
  | .finite negative m e =>
    let (n, d) := Binary64.scaled m e
    let scaled := n * Nat.pow 10 digits
    Binary64.ofRatio negative ((2 * scaled + d) / (2 * d)) (Nat.pow 10 digits)
  | _ => x

/-- Filters that rewrite a text. -/
def ofText? (name : String) (v : Value) (a : Args) : Option Value :=
  match name with
  | "pascal" => some (.text (pascalCase v.toText))
  | "snake" => some (.text (snakeCase v.toText))
  | "camel" => some (.text (camelCase v.toText))
  | "plural" => some (.text (pluralOf v.toText))
  | "singular" => some (.text (singularOf v.toText))
  | "rust_str" => some (.text (stringLiteral v.toText))
  | "upper" => onText v Text.Letter.upperText
  | "lower" => onText v Text.Letter.lowerText
  | "capitalize" => onText v capitalize
  | "title" => onText v (title true)
  | "trim" =>
    match a.text? 0 "chars" with
    | some chars => onText v (trimChars chars.toList)
    | none => onText v Text.trim
  | "string" => some (.text v.toText)
  | "escape" | "e" => onText v escape
  | "safe" => some v
  | "replace" => do
    let old ← a.text? 0 "from"
    let new ← a.text? 1 "to"
    onText v (replaced old.toList new.toList)
  | "lines" => some (.list ((Text.lines v.toText.toList).map ofChars))
  | "split" => do
    let cs := v.toText.toList
    let limit ← a.int? 1 "maxsplits" (-1)
    let count := if limit < 0 then cs.length + 1 else limit.toNat
    match a.get? 0 "split" with
    | none | some .none => some (.list ((Text.words cs).map ofChars))
    | some sep =>
      if sep.toText.isEmpty then none
      else some (.list ((pieces sep.toText.toList count cs).map ofChars))
  | "indent" => do
    let width ← a.int? 0 "width" 4
    onText v (indented width.toNat (a.flag 1 "indent_first_line") (a.flag 2 "indent_blank_lines"))
  | _ => none

/-- Filters that turn a value into another kind of value. -/
def ofValue? (name : String) (v : Value) (a : Args) : Option Value :=
  match name with
  | "length" | "count" => v.length?.map fun n => .int n
  | "abs" => match v with
    | .int i => some (.int i.natAbs)
    | .float x => some (.float x.abs)
    | _ => none
  | "round" => do
    let digits ← a.int? 0 "precision" 0
    match v with
    | .int i => some (.int i)
    | .float x => if digits < 0 then none else some (.float (round x digits.toNat))
    | _ => none
  | "int" => (toInt? v).map .int
  | "float" => (toFloat? v).map .float
  | "bool" => some (.bool v.isTrue)
  | "attr" => (a.get? 0 "name").map v.get
  | "items" => match v with
    | .map entries => some (.list (entries.map fun (k, x) => .list [k, x]))
    | _ => none
  | "dictsort" => match v with
    | .map entries =>
      let byValue := (a.text? 3 "by") == some "value"
      let key (pair : Value) : Value :=
        folded (a.flag 3 "case_sensitive") (pair.get (.int (if byValue then 1 else 0)))
      some (.list (sorted key (a.flag 3 "reverse") (entries.map fun (k, x) => .list [k, x])))
    | _ => none
  | _ => none

/-- Filters that take the items of a value. -/
def ofItems? (name : String) (v : Value) (a : Args) : Option Value := do
  let items ← v.items?
  let keyed (position : Nat) (x : Value) : Value :=
    match a.text? position "attribute" with
    | some path => follow x path
    | none => x
  match name with
  | "first" => some (items.head?.getD .undefined)
  | "last" => some (items.getLast?.getD .undefined)
  | "min" => some ((sorted id false items).head?.getD .undefined)
  | "max" => some ((sorted id false items).getLast?.getD .undefined)
  | "list" => some (.list items)
  | "reverse" => match v with
    | .text s => some (ofChars s.toList.reverse)
    | _ => some (.list items.reverse)
  | "join" =>
    let sep := (a.text? 0 "d").getD ""
    some (.text (sep.intercalate (items.map Value.toText)))
  | "sort" =>
    let key (x : Value) : Value := folded (a.flag 9 "case_sensitive") (keyed 9 x)
    some (.list (sorted key (a.flag 0 "reverse") items))
  | "unique" =>
    let key (x : Value) : Value := folded (a.flag 9 "case_sensitive") (keyed 9 x)
    some (.list (distinct key items))
  | "batch" => do
    let size ← a.int? 0 "count" 0
    if size ≤ 0 then none
    some (.list (batches size.toNat (a.get? 1 "fill_with") (items.length + 1) items))
  | "slice" => do
    let count ← a.int? 0 "count" 0
    if count ≤ 0 then none
    some (.list (slices count.toNat (a.get? 1 "fill_with") items))
  | "sum" =>
    items.foldl (fun acc x => acc.bind fun total => match total, x with
      | .int i, .int j => some (.int (i + j))
      | t, x => do return .float ((← t.toFloat?).add (← x.toFloat?))) (some (.int 0))
  | "groupby" => do
    let path ← a.text? 0 "attribute"
    let keys := distinct id (sorted id false (items.map (follow · path)))
    some (.list (keys.map fun key =>
      .list [key, .list (items.filter fun x => (follow x path).same key)]))
  | "chain" => some (.list (items ++ (a.positional.flatMap fun x => x.items?.getD [])))
  | "zip" => do
    let others ← a.positional.mapM Value.items?
    let size := (others.map List.length).foldl min items.length
    some (.list ((List.range size).map fun i =>
      .list ((items :: others).map fun xs => xs[i]?.getD .undefined)))
  | _ => none

/-- The filters that take no arguments. -/
def plainNames : List String :=
  ["pascal", "snake", "camel", "plural", "singular", "rust_str", "upper", "lower", "capitalize",
    "title", "string", "escape", "e", "safe", "lines", "length", "count", "abs", "int", "float",
    "bool", "items", "first", "last", "min", "max", "list", "reverse", "sum"]

/-- The value of a filter that needs no other filter or test. Only `default` takes an
undefined value. -/
def basic? (name : String) (v : Value) (a : Args) : Option Value :=
  if name == "default" || name == "d" then
    let standard := (a.get? 0 "other").getD (.text "")
    some (if v.isUndefined || (a.flag 1 "boolean" && !v.isTrue) then standard else v)
  else if v.isUndefined || a.positional.any Value.isUndefined then none
  else if plainNames.contains name && !(a.positional.isEmpty && a.named.isEmpty) then none
  else ((ofText? name v a).orElse fun _ => ofValue? name v a).orElse fun _ => ofItems? name v a

end Filter

namespace Check

/-- Whether a value occurs in another: an item in a list, a key in a map, a text in a text. -/
def isIn? (v container : Value) : Option Bool :=
  match container with
  | .text s => some (Text.contains v.toText.toList s.toList)
  | .list items => some (items.any (Value.same v))
  | .map entries => some (Value.valueUnder? entries v).isSome
  | _ => none

/-- Whether a number is even. -/
def isEven? : Value → Option Bool
  | .int i => some (i % 2 == 0)
  | .float x => if x.isWhole then (x.truncate?).map fun i => i % 2 == 0 else some false
  | _ => some false

/-- Whether a text has letters with a case and all of them satisfy `p`. -/
def allCased (p : Char → Bool) (s : String) : Bool :=
  s.toList.all fun c => !Text.Letter.isCased c || p c

/-- The outcome of a test that compares with an argument. -/
def comparison? (name : String) (v other : Value) : Option Bool :=
  match name with
  | "eq" | "equalto" | "==" => some (v.same other)
  | "ne" | "!=" => some (!v.same other)
  | "lt" | "lessthan" | "<" => some (v.order other == .lt)
  | "le" | "<=" => some (v.order other != .gt)
  | "gt" | "greaterthan" | ">" => some (v.order other == .gt)
  | "ge" | ">=" => some (v.order other != .lt)
  | "in" => isIn? v other
  | "sameas" => some (v.same other && v.rank == other.rank)
  | "startingwith" => some (other.toText.toList.isPrefixOf v.toText.toList)
  | "endingwith" => some (other.toText.toList.isSuffixOf v.toText.toList)
  | "divisibleby" => match v, other with
    | .int i, .int j => if j == 0 then some false else some (i % j == 0)
    | _, _ => some false
  | _ => none

/-- The outcome of a test without an argument. -/
def plain? (name : String) (v : Value) : Option Bool :=
  match name with
  | "defined" => some (!v.isUndefined)
  | "undefined" => some v.isUndefined
  | "none" => some (match v with | .none => true | _ => false)
  | "true" => some (match v with | .bool true => true | _ => false)
  | "false" => some (match v with | .bool false => true | _ => false)
  | "boolean" => some (match v with | .bool _ => true | _ => false)
  | "integer" => some (match v with | .int _ => true | _ => false)
  | "float" => some (match v with | .float _ => true | _ => false)
  | "number" => some (match v with | .int _ | .float _ => true | _ => false)
  | "string" => some (match v with | .text _ => true | _ => false)
  | "sequence" => some (match v with | .list _ => true | _ => false)
  | "mapping" => some (match v with | .map _ => true | _ => false)
  | "iterable" => some v.items?.isSome
  | "callable" => some (match v with | .routine _ | .function _ => true | _ => false)
  | "safe" | "escaped" => some false
  | "even" => isEven? v
  | "odd" => match v with
    | .int i => some (i % 2 == 1)
    | _ => some false
  | "lower" => match v with
    | .text s => some (allCased Text.Letter.isLower s)
    | _ => some false
  | "upper" => match v with
    | .text s => some (allCased Text.Letter.isUpper s)
    | _ => some false
  | _ => none

/-- The outcome of a test; `none` if there is no such test or it does not apply. -/
def outcome? (name : String) (v : Value) (a : Args) : Option Bool :=
  match a.positional with
  | [] => plain? name v
  | [other] => comparison? name v other
  | _ => none

end Check

namespace Filter

/-- The items of a value that a test, or without one their truth, selects. `path` leads to
what is tested in an item. -/
def selected (keep : Bool) (path : Option String) (args : List Value) (v : Value) :
    Option Value := do
  let items ← v.items?
  let kept ← items.filterMapM fun x => do
    let tested := match path with
      | some path => follow x path
      | none => x
    let outcome ← match args with
      | [] => some tested.isTrue
      | name :: rest => Check.outcome? name.toText tested { positional := rest }
    return if outcome == keep then some x else none
  return .list kept

/-- The value of a filter; `none` if there is no such filter or it does not apply. -/
def value? (name : String) (v : Value) (a : Args) : Option Value :=
  match name with
  | "select" => selected true none a.positional v
  | "reject" => selected false none a.positional v
  | "selectattr" => match a.positional with
    | path :: rest => selected true (some path.toText) rest v
    | [] => none
  | "rejectattr" => match a.positional with
    | path :: rest => selected false (some path.toText) rest v
    | [] => none
  | "map" => do
    let items ← v.items?
    match a.named.get? "attribute", a.positional with
    | some path, _ =>
      let standard := a.named.get? "default"
      return .list (items.map fun x =>
        let found := follow x path.toText
        if found.isUndefined then standard.getD .undefined else found)
    | none, name :: rest =>
      return .list (← items.mapM fun x => basic? name.toText x { a with positional := rest })
    | none, [] => none
  | _ => basic? name v a

end Filter

end ServiceGen.Template
