import LayeredConfig.Field.Selection
import LayeredConfig.Logging
import LayeredConfig.Report
import LayeredConfig.Resolution

/-
  The arguments of the command line: options of the program, a command, and the options of the
  command. An option that takes a value may wait for it until the next argument. It takes
  effect when the next option is met or the arguments end, and only then its faults show.
-/

namespace LayeredConfig.CommandLine

/-! ## Vocabulary -/

/-- The name of an option. -/
inductive OptionName where
  | config
  | legacy
  | verbose
  | log
  | format
  | category
  | name
  | pattern
  | help
  | version
  deriving Repr, DecidableEq

/-- The name of a command. -/
inductive CommandName where
  | config
  | get
  | fields
  | chain
  deriving Repr, DecidableEq

namespace CommandName

/-- The word that names a command. -/
def text : CommandName → String
  | .config => "config"
  | .get => "get"
  | .fields => "fields"
  | .chain => "chain"

/-- Every command. -/
def all : List CommandName := [.config, .get, .fields, .chain]

/-- The command that a word names. -/
def ofText? (s : String) : Option CommandName := all.find? fun c => c.text == s

end CommandName

namespace OptionName

/-- The option is followed by a value. -/
def takesValue : OptionName → Bool
  | .config | .log | .format | .category | .name | .pattern => true
  | .legacy | .verbose | .help | .version => false

/-- The option can be read from this value. -/
def acceptsValue (o : OptionName) (value : String) : Bool :=
  match o with
  | .format => (Report.Style.parse? value).isSome
  | .category => (Category.parse? value).isSome
  | .config | .legacy | .verbose | .log | .name | .pattern | .help | .version => true

/-- The option may be given at this place: before a command, or after the named one. -/
def isKnown (o : OptionName) (command : Option CommandName) : Bool :=
  match o with
  | .config | .legacy | .verbose | .log | .help => true
  | .version => command.isNone
  | .format => command.isSome
  | .category | .name | .pattern => command == some .fields

/-- Options with their long and short spellings. -/
def spellings : List (OptionName × String × Option Char) :=
  [(.config, "config", some 'c'), (.legacy, "legacy", none), (.verbose, "verbose", some 'v'),
    (.log, "log", some 'l'), (.format, "format", some 'f'), (.category, "category", none),
    (.name, "name", none), (.pattern, "pattern", none), (.help, "help", some 'h'),
    (.version, "version", some 'V')]

/-- The option with a long spelling. -/
def ofLong? (command : Option CommandName) (s : String) : Option OptionName :=
  (spellings.find? fun e => e.2.1 == s && e.1.isKnown command).map (·.1)

/-- The option with a short spelling. -/
def ofShort? (command : Option CommandName) (c : Char) : Option OptionName :=
  (spellings.find? fun e => e.2.2 == some c && e.1.isKnown command).map (·.1)

end OptionName

/-- Why the arguments name nothing to run. Requests for help are among the reasons. -/
inductive UsageFault where
  | unknownArgument
  | invalidSubcommand
  | invalidValue
  | valueValidation
  | argumentConflict
  | missingSubcommand
  | missingRequiredArgument
  | tooManyValues
  | helpForMissingSubcommand
  | help
  | version
  deriving Repr, DecidableEq

namespace UsageFault

/-- The name of a fault for programs. -/
def name : UsageFault → String
  | .unknownArgument => "UnknownArgument"
  | .invalidSubcommand => "InvalidSubcommand"
  | .invalidValue => "InvalidValue"
  | .valueValidation => "ValueValidation"
  | .argumentConflict => "ArgumentConflict"
  | .missingSubcommand => "MissingSubcommand"
  | .missingRequiredArgument => "MissingRequiredArgument"
  | .tooManyValues => "TooManyValues"
  | .helpForMissingSubcommand => "DisplayHelpOnMissingArgumentOrSubcommand"
  | .help => "DisplayHelp"
  | .version => "DisplayVersion"

/-- The exit status of the program. -/
def status : UsageFault → Nat
  | .help | .version => 0
  | _ => 2

end UsageFault

/-! ## One level of arguments -/

/-- The arguments read so far before a command, or after it. A pending option was met but has
not taken effect; its value may be still to come. -/
structure Level where
  command : Option CommandName
  given : List (OptionName × String)
  pending : Option (OptionName × Option String)
  positional : Option String
  trailing : Bool
  deriving Repr, DecidableEq

namespace Level

/-- No argument was read yet. -/
def start (command : Option CommandName) : Level := ⟨command, [], none, none, false⟩

/-- The pending option still waits for its value. -/
def isWaiting (s : Level) : Bool :=
  match s.pending with
  | some (_, none) => true
  | _ => false

/-- An option takes effect. -/
def give (s : Level) (o : OptionName) (value : String) : Except UsageFault Level :=
  if s.given.any fun g => g.1 == o then .error .argumentConflict
  else if o = .help then .error .help
  else if o = .version then .error .version
  else if o.acceptsValue value then .ok { s with given := (o, value) :: s.given }
  else .error .valueValidation

/-- The pending option takes effect. -/
def settle (s : Level) : Except UsageFault Level :=
  match s.pending with
  | none => .ok s
  | some (_, none) => .error .invalidValue
  | some (o, some value) => { s with pending := none }.give o value

/-- An option with its value, or one that takes none. -/
def react (s : Level) (o : OptionName) (value : String) : Except UsageFault Level := do
  (← s.settle).give o value

/-- An option whose value is still to come. -/
def await (s : Level) (o : OptionName) : Except UsageFault Level := do
  return { ← s.settle with pending := some (o, none) }

/-- A long option without its dashes. -/
def takeLong (s : Level) (text : List Char) : Except UsageFault Level :=
  let name := text.takeWhile (· != '=')
  match OptionName.ofLong? s.command (String.ofList name), text.drop name.length with
  | none, _ => .error .unknownArgument
  | some o, [] => if o.takesValue then s.await o else s.react o ""
  | some o, _ :: value =>
    if o.takesValue then s.react o (String.ofList value) else .error .tooManyValues

/-- Short options without their dash. The rest after an option that takes a value is its
value. -/
def takeShorts (s : Level) : List Char → Except UsageFault Level
  | [] => .ok s
  | c :: rest =>
    match OptionName.ofShort? s.command c with
    | none => .error .unknownArgument
    | some o =>
      if o.takesValue then
        match rest with
        | [] => s.await o
        | '=' :: value => s.react o (String.ofList value)
        | value => s.react o (String.ofList value)
      else do takeShorts (← s.react o "") rest

/-- An argument that is neither an option nor the value of one. -/
def takePositional (s : Level) (arg : String) : Except UsageFault Level :=
  match s.command, s.positional with
  | some .get, none => do return { ← s.settle with positional := some arg }
  | none, _ =>
    if s.trailing && (arg = "help" || (CommandName.ofText? arg).isSome) then .error .unknownArgument
    else .error .invalidSubcommand
  | _, _ => .error .unknownArgument

/-- One argument that is no command. -/
def take (s : Level) (arg : String) : Except UsageFault Level :=
  if s.trailing then s.takePositional arg
  else
    match arg.toList with
    | ['-', '-'] => .ok { s with trailing := true }
    | '-' :: '-' :: long => s.takeLong long
    | '-' :: c :: shorts => s.takeShorts (c :: shorts)
    | _ =>
      match s.pending with
      | some (o, none) => .ok { s with pending := some (o, some arg) }
      | _ => s.takePositional arg

/-- All arguments of a level without commands. -/
def takeAll (s : Level) : List String → Except UsageFault Level
  | [] => .ok s
  | arg :: rest => do takeAll (← s.take arg) rest

/-- The value given for an option. -/
def value? (s : Level) (o : OptionName) : Option String := s.given.lookup o

end Level

/-! ## All arguments -/

/-- A command with its options. -/
inductive Command where
  | config (style : Report.Style)
  | get (path : String) (style : Report.Style)
  | fields (style : Report.Style) (category : Option Category) (part pattern : Option String)
  | chain (style : Report.Style)
  deriving Repr, DecidableEq

/-- What the arguments ask for. -/
structure Invocation where
  config : Option String
  legacy : Bool
  verbose : Bool
  log : String
  command : Command
  deriving Repr, DecidableEq

/-- The command that a level after a command name stands for. -/
def commandOf (name : CommandName) (s : Level) : Except UsageFault Command :=
  let style := ((s.value? .format).bind Report.Style.parse?).getD .text
  match name with
  | .config => .ok (.config style)
  | .chain => .ok (.chain style)
  | .fields =>
    .ok (.fields style ((s.value? .category).bind Category.parse?) (s.value? .name)
      (s.value? .pattern))
  | .get =>
    match s.positional with
    | some path => .ok (.get path style)
    | none => .error .missingRequiredArgument

/-- The arguments after a command name. -/
def parseCommand (name : CommandName) (args : List String) :
    Except UsageFault (Level × Command) := do
  let s ← (← (Level.start (some name)).takeAll args).settle
  return (s, ← commandOf name s)

/-- The request for help about a command. -/
def helpRequest : List String → UsageFault
  | [] => .help
  | [name] =>
    if name = "help" ∨ (CommandName.ofText? name).isSome then .help else .invalidSubcommand
  | _ => .invalidSubcommand

/-- The arguments from a level before any command on. An option of the program given after the
command counts more than the same option before it. -/
def parseFrom (s : Level) : List String → Except UsageFault Invocation
  | [] => do
    let s ← s.settle
    throw (if s.given.isEmpty then .helpForMissingSubcommand else .missingSubcommand)
  | arg :: rest => do
    if !s.trailing && !s.isWaiting then
      if arg = "help" then throw (helpRequest rest)
      if let some name := CommandName.ofText? arg then
        let (inner, command) ← parseCommand name rest
        let s ← s.settle
        let value (o : OptionName) : Option String := (inner.value? o).or (s.value? o)
        return {
          config := value .config
          legacy := (value .legacy).isSome
          verbose := (value .verbose).isSome
          log := (value .log).getD "2"
          command }
    parseFrom (← s.take arg) rest

/-- What the arguments ask for. -/
def parse (args : List String) : Except UsageFault Invocation := parseFrom (Level.start none) args

namespace Invocation

/-- How files are combined. -/
def mode (i : Invocation) : Mode := if i.legacy then .legacy else .inheritance

/-- The search path: the file that was named, or what the environment says. -/
def search (i : Invocation) (home : Option FilePath) (cwd : FilePath) (discovered : SearchPath) :
    SearchPath :=
  match i.config with
  | some file => [SearchPath.locateEntry home cwd file]
  | none => discovered

end Invocation

/-- The selection that the options of the `fields` command describe. -/
def selectionOf (category : Option Category) (part pattern : Option String) : Selection :=
  { part := part.map Text.toLower, category, pattern := pattern.map compileGlob }

end LayeredConfig.CommandLine
