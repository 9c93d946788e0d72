-- Reading a command line: commands with their options, read level by level. An option
-- that several levels have may be given at each of them; the innermost one counts.

namespace ColumnMask.Program

/-! ## What a command takes -/

/-- An option. Without a value name it is a flag. -/
structure OptionSpec where
  long : String
  valueName : Option String := none
  help : String
  choices : List String := []
  default : Option String := none
  /-- The environment variable that may hold the value. -/
  envName : Option String := none
  /-- Whether the value may not be empty. -/
  isPath : Bool := false
  deriving Repr

/-- An argument that is no option. One that repeats may also be left out. -/
structure ArgumentSpec where
  name : String
  help : String
  repeats : Bool := false
  deriving Repr

/-- A command: its options, and the argument or the commands below it. -/
inductive CommandSpec where
  | mk (name about : String) (options : List OptionSpec) (argument : Option ArgumentSpec)
      (commands : List CommandSpec)

namespace CommandSpec

def name : CommandSpec → String
  | .mk name _ _ _ _ => name

def about : CommandSpec → String
  | .mk _ about _ _ _ => about

def options : CommandSpec → List OptionSpec
  | .mk _ _ options _ _ => options

def argument : CommandSpec → Option ArgumentSpec
  | .mk _ _ _ argument _ => argument

def commands : CommandSpec → List CommandSpec
  | .mk _ _ _ _ commands => commands

/-- The command below with the name. -/
def command? (c : CommandSpec) (name : String) : Option CommandSpec :=
  c.commands.find? fun sub => sub.name == name

/-- The option with the name. -/
def option? (c : CommandSpec) (long : String) : Option OptionSpec :=
  c.options.find? fun o => o.long == long

end CommandSpec

/-- The command for help, which every command with commands below it has too. -/
def helpCommand : CommandSpec :=
  .mk "help" "Print this message or the help of the given subcommand(s)" []
    (some ⟨"COMMAND", "Print help for the subcommand(s)", true⟩) []

/-- The commands below, with the command for help as the last one. -/
def CommandSpec.allCommands (c : CommandSpec) : List CommandSpec :=
  if c.commands.isEmpty then [] else c.commands ++ [helpCommand]

/-- An argument as help texts show it. -/
def ArgumentSpec.show (a : ArgumentSpec) : String :=
  if a.repeats then "[" ++ a.name ++ "]..." else "<" ++ a.name ++ ">"

/-- An option as messages show it. -/
def OptionSpec.show (o : OptionSpec) : String :=
  match o.valueName with
  | some name => "--" ++ o.long ++ " <" ++ name ++ ">"
  | none => "--" ++ o.long

/-! ## Why a command line is refused -/

inductive UsageError where
  | unknownArgument (text : String)
  | unknownCommand (name : String)
  | missingValue (option : String)
  | invalidValue (value option : String)
  | unwantedValue (value option : String)
  | repeated (option : String)
  | missingArgument
  | missingCommand (path : String)
  deriving DecidableEq, Repr

def UsageError.message : UsageError → String
  | .unknownArgument text => "unexpected argument '" ++ text ++ "' found"
  | .unknownCommand name => "unrecognized subcommand '" ++ name ++ "'"
  | .missingValue option =>
    "a value is required for '" ++ option ++ "' but none was supplied"
  | .invalidValue value option => "invalid value '" ++ value ++ "' for '" ++ option ++ "'"
  | .unwantedValue value option =>
    "unexpected value '" ++ value ++ "' for '" ++ option ++ "' found; no more were expected"
  | .repeated option => "the argument '" ++ option ++ "' cannot be used multiple times"
  | .missingArgument => "the following required arguments were not provided:"
  | .missingCommand path => "'" ++ path ++ "' requires a subcommand but one was not provided"

/-- Why reading ends early: an error, or a help text, which was asked for or takes the place of a
missing command. -/
inductive Stop where
  | refused (e : UsageError)
  | help (command : CommandSpec) (path : String) (asked : Bool)

/-! ## Levels -/

/-- What was read for one command. -/
structure Level where
  command : CommandSpec
  /-- The names of the commands down to this one. -/
  path : String
  /-- The options with their values. -/
  values : List (String × String) := []
  argument : Option String := none
  /-- The option read last and its value, which are still to be checked. -/
  pending : Option (OptionSpec × Option String) := none
  /-- Whether what follows is no option, whatever it looks like. -/
  trailing : Bool := false

namespace Level

/-- Whether the next argument may be the value of an option. -/
def isWaiting (l : Level) : Bool :=
  match l.pending with
  | some (_, none) => true
  | _ => false

/-- Refuses values that the option does not take. -/
def checkValue (o : OptionSpec) (value : String) : Except Stop Unit :=
  if value.isEmpty && (o.isPath || !o.choices.isEmpty) then .error (.refused (.missingValue o.show))
  else if o.choices.isEmpty || o.choices.contains value then .ok ()
  else .error (.refused (.invalidValue value o.show))

/-- Takes an option with its value. It may be taken once. -/
def take (l : Level) (o : OptionSpec) (value : String) : Except Stop Level := do
  if l.values.any fun v => v.1 == o.long then .error (.refused (.repeated o.show))
  checkValue o value
  return { l with values := l.values ++ [(o.long, value)] }

/-- Takes the option read last. -/
def settle (l : Level) : Except Stop Level :=
  match l.pending with
  | none => .ok l
  | some (o, none) => .error (.refused (.missingValue o.show))
  | some (o, some value) => { l with pending := none }.take o value

/-- Reads an option that starts with two dashes. -/
def readLong (l : Level) (name : String) (value : Option String) : Except Stop Level := do
  if name == "help" then
    let l ← l.settle
    match value with
    | some value => .error (.refused (.unwantedValue value "--help"))
    | none => .error (.help l.command l.path true)
  match l.command.option? name with
  | none => .error (.refused (.unknownArgument ("--" ++ name)))
  | some o =>
    let l ← l.settle
    match o.valueName, value with
    | some _, none => return { l with pending := some (o, none) }
    | some _, some value => l.take o value
    | none, some value => .error (.refused (.unwantedValue value o.show))
    | none, none => l.take o ""

/-- Reads an option that starts with one dash. -/
def readShort (l : Level) (letter : Char) : Except Stop Level := do
  if letter == 'h' then
    let l ← l.settle
    .error (.help l.command l.path true)
  .error (.refused (.unknownArgument ("-" ++ String.singleton letter)))

/-- Reads an argument that is no option. -/
def readArgument (l : Level) (text : String) : Except Stop Level := do
  if l.command.argument.isSome && l.argument.isNone then
    let l ← l.settle
    return { l with argument := some text }
  else if l.command.commands.isEmpty ||
      (l.trailing && l.command.allCommands.any fun sub => sub.name == text) then
    .error (.refused (.unknownArgument text))
  else .error (.refused (.unknownCommand text))

/-- Takes the value of an option from its environment variable unless the option was given. -/
def takeVariables (l : Level) (env : String → Option String) : Except Stop Level :=
  l.command.options.foldlM (fun l o =>
    if l.values.any fun v => v.1 == o.long then return l
    else match o.envName.bind env with
      | some value => do
        checkValue o value
        return l
      | none => return l) l

/-- Checks that nothing is missing at the end of a level without a command below. -/
def finish (l : Level) (env : String → Option String) (hasCommand : Bool) : Except Stop Level := do
  let l ← l.settle
  let l ← l.takeVariables env
  if !hasCommand && !l.command.commands.isEmpty then
    let given := !l.values.isEmpty || l.command.options.any fun o => (o.envName.bind env).isSome
    if given then .error (.refused (.missingCommand l.path))
    else .error (.help l.command l.path false)
  if l.command.argument.isSome && l.argument.isNone then .error (.refused .missingArgument)
  return l

end Level

/-- The text before the first equals sign, and what follows it. -/
def splitValue (text : List Char) : String × Option String :=
  match text.span (· ≠ '=') with
  | (name, []) => (String.ofList name, none)
  | (name, _ :: value) => (String.ofList name, some (String.ofList value))

/-- The help of the command that the names lead to. -/
def helpFor (command : CommandSpec) (path : String) : List String → Stop
  | [] => .help command path true
  | name :: names =>
    match command.allCommands.find? fun sub => sub.name == name with
    | some sub => helpFor sub (path ++ " " ++ name) names
    | none => .refused (.unknownCommand name)

/-- The levels of a command line, the outermost first. -/
def readLevels (env : String → Option String) (l : Level) : List String → Except Stop (List Level)
  | [] => do return [← l.finish env false]
  | text :: rest => do
    if l.trailing then readLevels env (← l.readArgument text) rest
    else
      match if l.isWaiting then none else l.command.command? text with
      | some sub =>
        let below ← readLevels env { command := sub, path := l.path ++ " " ++ text } rest
        return (← l.finish env true) :: below
      | none =>
        if !l.isWaiting && !l.command.commands.isEmpty && text == helpCommand.name then
          .error (helpFor l.command l.path rest)
        match text.toList with
        | ['-', '-'] => readLevels env { l with trailing := true } rest
        | '-' :: '-' :: more =>
          let (name, value) := splitValue more
          readLevels env (← l.readLong name value) rest
        | '-' :: letter :: _ => readLevels env (← l.readShort letter) rest
        | _ =>
          match l.pending with
          | some (o, none) => readLevels env { l with pending := some (o, some text) } rest
          | _ => readLevels env (← l.readArgument text) rest

/-- The value of an option: the innermost one given, or that of the environment, or the default. -/
def optionValue (env : String → Option String) (levels : List Level) (o : OptionSpec) :
    Option String :=
  let given := levels.filterMap fun l => (l.values.find? fun v => v.1 == o.long).map Prod.snd
  match given.getLast? with
  | some value => some value
  | none => (o.envName.bind env) <|> o.default

/-! ## Help texts -/

/-- A line of a list: a name padded to a width, and what it means. -/
def helpLine (width : Nat) (name help : String) : String :=
  name ++ String.ofList (List.replicate (width - name.length) ' ') ++ "  " ++ help

/-- A headed list, and nothing if it is empty. -/
def helpSection (title : String) (lines : List (String × String)) : List String :=
  if lines.isEmpty then [] else
    let width := (lines.map fun l => l.1.length).foldl max 0
    ["\n" ++ title ++ ":\n" ++
      String.join (lines.map fun (name, help) => "  " ++ helpLine width name help ++ "\n")]

/-- What an option means, with its variable, its default and its choices. -/
def OptionSpec.fullHelp (o : OptionSpec) (env : String → Option String) : String :=
  let fact (name : String) (value : String) := " [" ++ name ++ ": " ++ value ++ "]"
  o.help ++
    (match o.envName with
      | some v => fact "env" (v ++ "=" ++ (env v).getD "")
      | none => "") ++
    (match o.default with
      | some d => fact "default" d
      | none => "") ++
    (if o.choices.isEmpty then "" else fact "possible values" (", ".intercalate o.choices))

/-- The help text of a command. A command without options of its own has no option for help. -/
def helpText (command : CommandSpec) (path : String) (env : String → Option String) : String :=
  let usage := path ++ (if command.options.isEmpty then "" else " [OPTIONS]") ++
    (match command.argument with
      | some a => " " ++ a.show
      | none => "") ++
    (if command.commands.isEmpty then "" else " <COMMAND>")
  let commands := command.allCommands.map fun c => (c.name, c.about)
  let arguments := command.argument.toList.map fun a => (a.show, a.help)
  let options := command.options.map fun o => ("    " ++ o.show, o.fullHelp env)
  let options := if options.isEmpty then [] else options ++ [("-h, --help", "Print help")]
  command.about ++ "\n\nUsage: " ++ usage ++ "\n" ++
    String.join (helpSection "Commands" commands ++ helpSection "Arguments" arguments ++
      helpSection "Options" options)

end ColumnMask.Program
