import SchemaDelta.Error

/-!
# Arguments

The arguments of the command line: options, then a command, then the operands and options of that
command. Every option stands at most once. What an option does not say the environment may.
-/

namespace SchemaDelta

namespace CommandLine

/-- What an option is called, and whether a value follows it. -/
structure OptionSpec where
  long : String
  short : Option Char := none
  takesValue : Bool := true

/-- The options before the command. -/
def globalOptions : List OptionSpec := [
  { long := "dialect", short := some 'd' },
  { long := "config", short := some 'c' },
  { long := "verbose", short := some 'v', takesValue := false }]

/-- The option for the file that the access changes are written to. -/
def accessControlOut : OptionSpec := { long := "access-control-out" }

/-- An argument, or an option with the value that belongs to it. -/
inductive Item where
  | flag (name : String)
  | setting (name value : String)
  | operand (value : String)
deriving DecidableEq

/-- What one argument of options says, and the name of the option whose value is to follow. -/
abbrev Reading := List Item × Option String

/-- Reads short options written together. The first that takes a value has it in the rest of the
argument, possibly after an equals sign, or else in the next argument. -/
def readShort (specs : List OptionSpec) : List Char → Option Reading
  | [] => some ([], none)
  | c :: cs =>
    match specs.find? (·.short == some c) with
    | none => none
    | some spec =>
      if spec.takesValue then
        match cs with
        | [] => some ([], some spec.long)
        | '=' :: value => some ([.setting spec.long (String.ofList value)], none)
        | value => some ([.setting spec.long (String.ofList value)], none)
      else (readShort specs cs).map fun (items, pending) => (.flag spec.long :: items, pending)

/-- Reads a long option. Its value stands after an equals sign or in the next argument. -/
def readLong (specs : List OptionSpec) (text : List Char) : Option Reading :=
  let name := String.ofList (text.takeWhile (· != '='))
  match specs.find? (·.long == name), text.dropWhile (· != '=') with
  | none, _ => none
  | some spec, [] =>
    if spec.takesValue then some ([], some spec.long) else some ([.flag spec.long], none)
  | some spec, _ :: value =>
    if spec.takesValue then some ([.setting spec.long (String.ofList value)], none) else none

/-- Whether an argument holds options. A single dash does not. -/
def isOption : List Char → Bool
  | '-' :: _ :: _ => true
  | _ => false

/-- Reads the options in an argument. -/
def readOptions (specs : List OptionSpec) : List Char → Option Reading
  | '-' :: '-' :: text => readLong specs text
  | '-' :: text => readShort specs text
  | _ => none

/-- Reads arguments in order, up to the first operand if asked to, and gives those that are left.
After a double dash there are only operands. -/
def scan (specs : List OptionSpec) (untilOperand : Bool) :
    List String → Option (List Item × List String)
  | [] => some ([], [])
  | arg :: rest =>
    if arg = "--" then
      if untilOperand then none else some (rest.map .operand, [])
    else if isOption arg.toList then
      match readOptions specs arg.toList, rest with
      | none, _ => none
      | some (items, none), rest =>
        (scan specs untilOperand rest).map fun (more, left) => (items ++ more, left)
      | some (_, some _), [] => none
      | some (items, some name), value :: rest =>
        if isOption value.toList then none
        else
          (scan specs untilOperand rest).map fun (more, left) =>
            (items ++ .setting name value :: more, left)
    else if untilOperand then some ([], arg :: rest)
    else (scan specs untilOperand rest).map fun (more, left) => (.operand arg :: more, left)

namespace Item

/-- The name of an option. -/
def name? : Item → Option String
  | flag name => some name
  | setting name _ => some name
  | operand _ => none

/-- The value of an operand. -/
def operand? : Item → Option String
  | operand value => some value
  | _ => none

/-- The value of the option of a name. -/
def valueOf? (name : String) : Item → Option String
  | setting n value => if n = name then some value else none
  | _ => none

end Item

/-- Whether no option stands twice. -/
def atMostOnce (items : List Item) : Bool := decide (items.filterMap Item.name?).Nodup

/-- What the user asks for; operands are paths of files. -/
inductive Command where
  | validate (snapshot : String)
  | diff (before after : String)
  | bootstrap (snapshot : String) (accessOut : Option String)
  | migrate (before after : String) (accessOut : Option String)
deriving DecidableEq

/-- Settings for options that are not given. -/
structure Environment where
  dialect : Option String := none
  config : Option String := none

/-- A complete use of the command line. -/
structure Invocation where
  dialect : Dialect
  config : Option String
  verbose : Bool
  command : Command

/-- The options that a command takes, if it is one. -/
def commandOptions? (name : String) : Option (List OptionSpec) :=
  if name = "validate" ∨ name = "diff" then some []
  else if name = "bootstrap" ∨ name = "migrate" then some [accessControlOut]
  else none

/-- The command of a name with its operands. -/
def command? (name : String) (operands : List String) (accessOut : Option String) :
    Option Command :=
  match name, operands with
  | "validate", [snapshot] => some (.validate snapshot)
  | "diff", [before, after] => some (.diff before after)
  | "bootstrap", [snapshot] => some (.bootstrap snapshot accessOut)
  | "migrate", [before, after] => some (.migrate before after accessOut)
  | _, _ => none

/-- Reads a command. No path is empty. -/
def readCommand? : List String → Option Command
  | [] => none
  | name :: args => do
    let (items, _) ← scan (← commandOptions? name) false args
    let operands := items.filterMap Item.operand?
    let accessOut := items.findSome? (Item.valueOf? accessControlOut.long)
    if atMostOnce items && operands.all (· != "") && accessOut != some "" then
      command? name operands accessOut
    else none

/-- Reads a command line; none if it is not used as it should. -/
def Invocation.ofArguments? (environment : Environment) (args : List String) :
    Option Invocation := do
  let (items, rest) ← scan globalOptions true args
  if !atMostOnce items then none
  let command ← readCommand? rest
  let dialect ← match items.findSome? (Item.valueOf? "dialect") <|> environment.dialect with
    | some name => Dialect.parse? name
    | none => some .standard
  let config := items.findSome? (Item.valueOf? "config") <|> environment.config
  if config = some "" then none
  return { dialect, config, verbose := .flag "verbose" ∈ items, command }

end CommandLine

end SchemaDelta
