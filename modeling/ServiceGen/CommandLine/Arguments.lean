import ServiceGen.Entries
import ServiceGen.Layout
import ServiceGen.Resolver

/-!
# Arguments of the Command Line

What a command line and the environment ask for. An option is given at most once; one that is
not given takes its value from the environment, and else a value of its own. A command line
that breaks a rule is misused as a whole, and so is a value that an option does not take.
-/

namespace ServiceGen.CommandLine

/-- What an option takes. -/
inductive ValueKind
  /-- Nothing, or a truth value from the environment. -/
  | flag
  | text
  /-- A path, which is not empty. -/
  | path
  /-- A whole number of 64 bits. -/
  | number
deriving DecidableEq

/-- An option. -/
structure OptionForm where
  name : String
  short : Option Char
  kind : ValueKind
  /-- Whether the environment may give it. -/
  inEnvironment : Bool := true

/-- The number that a text is. -/
def number? (text : String) : Option Nat :=
  let digits := if text.toList.head? == some '+' then text.toList.tail else text.toList
  if digits.isEmpty || !digits.all Char.isDigit then none
  else
    let n := digits.foldl (fun n c => 10 * n + (c.toNat - 48)) 0
    if n < Nat.pow 2 64 then some n else none

namespace OptionForm

/-- The environment variable of an option. -/
def environmentName (o : OptionForm) : String :=
  "OAS_SCAFFOLD_" ++ String.ofList (o.name.toList.map fun c => if c == '-' then '_' else c.toUpper)

/-- Whether an option takes a value. -/
def takes (o : OptionForm) (value : String) : Bool :=
  match o.kind with
  | .flag => value == "true" || value == "false"
  | .text => true
  | .path => !value.isEmpty
  | .number => (number? value).isSome

end OptionForm

/-- Why no command is carried out. -/
inductive Stop
  | misuse
  /-- The user asked how to use the program. -/
  | help
  /-- The user asked for the version of the program. -/
  | version
deriving DecidableEq

/-- The option of both commands. -/
def verbose : OptionForm := ⟨"verbose", some 'v', .flag, true⟩

/-- The options of the command that generates modules. -/
def generateOptions : List OptionForm := [
  ⟨"spec", some 's', .text, true⟩,
  ⟨"module", some 'm', .text, true⟩,
  ⟨"all", none, .flag, true⟩,
  ⟨"output", some 'o', .path, true⟩,
  ⟨"package", none, .text, true⟩,
  ⟨"force", none, .flag, true⟩,
  ⟨"tests", none, .flag, true⟩,
  ⟨"no-format", none, .flag, true⟩,
  ⟨"registration", none, .path, true⟩,
  ⟨"templates", none, .path, true⟩,
  ⟨"strict-refs", none, .flag, true⟩,
  ⟨"max-depth", none, .number, true⟩,
  verbose]

/-- The options of the command that lists modules. -/
def modulesOptions : List OptionForm := [
  ⟨"spec", some 's', .text, true⟩,
  ⟨"primary", none, .flag, false⟩,
  verbose]

/-- Values of options. -/
abbrev Values := Entries String

/-- The values with that of an option, which must not have one and must take it. -/
def Values.give (known : Values) (o : OptionForm) (value : String) : Except Stop Values :=
  if known.has o.name || !o.takes value then .error .misuse else .ok (known.put o.name value)

/-- Whether an argument is an option or the end of all options. -/
def isOption (arg : String) : Bool :=
  arg.toList.head? == some '-' && arg != "-"

/-- The value that the next argument gives to an option, and the arguments after it. -/
def nextValue (known : Values) (o : OptionForm) : List String → Except Stop (Values × List String)
  | [] => .error .misuse
  | arg :: args =>
    if isOption arg then .error .misuse else (known.give o arg).map fun known => (known, args)

/-- The values that a group of short options gives, and the arguments after it. With
`versioned`, one of them asks for the version. -/
def readShort (options : List OptionForm) (versioned : Bool) (args : List String) :
    List Char → Values → Except Stop (Values × List String)
  | [], known => .ok (known, args)
  | c :: cs, known => do
    match options.find? (·.short == some c) with
    | some o =>
      if o.kind = .flag then readShort options versioned args cs (← known.give o "true")
      else match cs with
        | [] => nextValue known o args
        | '=' :: value => (known.give o (String.ofList value)).map (·, args)
        | value => (known.give o (String.ofList value)).map (·, args)
    | none =>
      if c == 'h' then throw .help
      if c == 'V' && versioned then throw .version
      throw .misuse

/-- The values that a long option gives, and the arguments after it. -/
def readLong (options : List OptionForm) (versioned : Bool) (args : List String)
    (body : List Char) (known : Values) : Except Stop (Values × List String) := do
  let name := String.ofList (body.takeWhile (· != '='))
  let value := body.drop name.length
  match options.find? (·.name == name), value with
  | some o, [] =>
    if o.kind = .flag then (known.give o "true").map (·, args) else nextValue known o args
  | some o, _ :: value =>
    if o.kind = .flag then throw .misuse
    return (← known.give o (String.ofList value), args)
  | none, [] =>
    if name == "help" then throw .help
    if name == "version" && versioned then throw .version
    throw .misuse
  | none, _ => throw .misuse

/-- The values that the options at the front of a command line give, and the arguments from
the first that is none. -/
def readOptions (options : List OptionForm) (versioned : Bool) :
    Nat → List String → Values → Except Stop (Values × List String)
  | 0, _, _ => .error .misuse
  | _ + 1, [], known => .ok (known, [])
  | fuel + 1, arg :: args, known => do
    match arg.toList with
    | '-' :: '-' :: [] => return (known, args)
    | '-' :: '-' :: body =>
      let (known, args) ← readLong options versioned args body known
      readOptions options versioned fuel args known
    | '-' :: c :: cs =>
      let (known, args) ← readShort options versioned args (c :: cs) known
      readOptions options versioned fuel args known
    | _ => return (known, arg :: args)

/-- The values with those that the environment gives to the options without one. -/
def withEnvironment (environment : Entries String) (options : List OptionForm) (known : Values) :
    Except Stop Values :=
  (options.filter (·.inEnvironment)).foldlM (fun known o =>
    if known.has o.name then return known
    else match environment.get? o.environmentName with
      | some value => known.give o value
      | none => return known) known

/-- The command that generates modules. -/
structure GenerateRequest where
  spec : Option String
  module : Option String
  all : Bool
  output : String
  package : Option String
  force : Bool
  tests : Bool
  format : Bool
  registration : String
  templates : Option String
  strict : Bool
  maxDepth : Nat

/-- A command. -/
inductive Command
  | generate (request : GenerateRequest)
  | modules (spec : String) (primary : Bool)

/-- Whether a flag is set. -/
def Values.isSet (known : Values) (name : String) : Bool :=
  known.get? name == some "true"

/-- The command that generates modules. A module and all modules are not asked for at once. -/
def generateCommand (known : Values) : Except Stop Command := do
  if known.has "all" && known.has "module" then throw .misuse
  return .generate {
    spec := known.get? "spec"
    module := known.get? "module"
    all := known.isSet "all"
    output := (known.get? "output").getD "."
    package := known.get? "package"
    force := known.isSet "force"
    tests := known.isSet "tests"
    format := !known.isSet "no-format"
    registration := (known.get? "registration").getD Layout.defaultRegistrationFile
    templates := known.get? "templates"
    strict := known.isSet "strict-refs"
    maxDepth := ((known.get? "max-depth").bind number?).getD Resolver.defaultMaxDepth }

/-- The command that lists modules, which needs a description. -/
def modulesCommand (known : Values) : Except Stop Command := do
  match known.get? "spec" with
  | some spec => return .modules spec (known.isSet "primary")
  | none => throw .misuse

/-- The options of a command, and how it is made from their values. -/
def commandForm? (name : String) :
    Option (List OptionForm × (Values → Except Stop Command)) :=
  match name with
  | "generate" => some (generateOptions, generateCommand)
  | "modules" => some (modulesOptions, modulesCommand)
  | _ => none

/-- The command that a command line and an environment ask for. -/
def parse (args : List String) (environment : Entries String) : Except Stop Command := do
  let (shared, args) ← readOptions [verbose] true (args.length + 1) args []
  match args with
  | [] => throw .misuse
  | name :: args =>
    match commandForm? name with
    | none => throw (if name == "help" then .help else .misuse)
    | some (options, command) =>
      let (known, rest) ← readOptions options false (args.length + 1) args []
      if !rest.isEmpty then throw .misuse
      let _ ← withEnvironment environment [verbose] shared
      command (← withEnvironment environment options known)

end ServiceGen.CommandLine
