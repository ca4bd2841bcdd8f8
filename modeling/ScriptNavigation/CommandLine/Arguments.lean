/-
# Arguments of the command line

Options and positional arguments may be mixed.  A long option starts with two dashes and a
short one with one; short ones may be put together, and the value of an option follows it,
with an equals sign after a long option or directly after a short one.  Two dashes alone
end the options.  When an option is repeated the last one counts.
-/
import ScriptNavigation.Text.Integer

namespace ScriptNavigation.CommandLine

/-! ## Options -/

/-- An option of the command line. -/
inductive Switch where
  | verbose
  | tree
  | aliases
  | full
  | json
  | treeView
  | help
  deriving DecidableEq, Repr

namespace Switch

/-- Whether a value follows the option. -/
def takesValue : Switch → Bool
  | tree | aliases => true
  | _ => false

/-- The long name of an option. -/
def longName : Switch → String
  | verbose => "--verbose"
  | tree => "--tree"
  | aliases => "--aliases"
  | full => "--full"
  | json => "--json"
  | treeView => "--tree-view"
  | help => "--help"

/-- The letter of an option, for options that have one. -/
def letter? : Switch → Option Char
  | verbose => some 'v'
  | tree => some 't'
  | aliases => some 'a'
  | json => some 'j'
  | _ => none

end Switch

/-- The options given, each with its value, and the positional arguments. -/
structure Parsed where
  options : List (Switch × String)
  positional : List String
  deriving DecidableEq, Repr

/-- Why arguments cannot be understood. -/
inductive UsageError where
  | noSuchOption (name : String)
  | valueMissing (o : Switch)
  | valueNotTaken (o : Switch)
  | optionMissing (o : Switch)
  | argumentMissing
  | extraArgument
  | notANumber
  | commandMissing
  | noSuchCommand (name : String)
  deriving DecidableEq, Repr

namespace UsageError

/-- The message of a usage error. -/
def message : UsageError → String
  | noSuchOption name => "No such option: " ++ name
  | valueMissing o => "Option " ++ o.longName ++ " needs a value"
  | valueNotTaken o => "Option " ++ o.longName ++ " takes no value"
  | optionMissing o => "Option " ++ o.longName ++ " is missing"
  | argumentMissing => "A line and a column are needed"
  | extraArgument => "There are too many arguments"
  | notANumber => "The line and the column must be whole numbers"
  | commandMissing => "A command is needed"
  | noSuchCommand name => "No such command: " ++ name

end UsageError

namespace Parsed

/-- No arguments. -/
def none : Parsed := ⟨[], []⟩

/-- The arguments with one more option. -/
def withOption (p : Parsed) (o : Switch) (value : String) : Parsed :=
  ⟨p.options ++ [(o, value)], p.positional⟩

/-- The arguments with one more positional argument. -/
def withPositional (p : Parsed) (argument : String) : Parsed :=
  ⟨p.options, p.positional ++ [argument]⟩

/-- Whether an option is given. -/
def has (p : Parsed) (o : Switch) : Bool := p.options.any fun e => e.1 == o

/-- The value of an option, the last one given. -/
def value? (p : Parsed) (o : Switch) : Option String :=
  (p.options.reverse.find? fun e => e.1 == o).map (·.2)

end Parsed

/-! ## Parsing -/

/-- The name and the value of a long option, cut at the first equals sign. -/
def splitLong (argument : String) : String × Option String :=
  let cs := argument.toList
  let name := cs.takeWhile (· != '=')
  (String.ofList name,
    if cs.contains '=' then some (String.ofList (cs.drop (name.length + 1))) else Option.none)

/-- The option with a given long name. -/
def longOption? (known : List Switch) (name : String) : Option Switch :=
  known.find? fun o => o.longName == name

/-- The option with a given letter. -/
def shortOption? (known : List Switch) (c : Char) : Option Switch :=
  known.find? fun o => o.letter? == some c

/-- What a group of short options is: options without a value, perhaps followed by one that
takes the rest of the group as its value or that takes its value from the next argument. -/
inductive ShortGroup where
  | flags (options : List Switch)
  | valued (options : List Switch) (last : Switch) (value : Option String)

/-- Reads the letters of a group of short options. -/
def readLetters (known : List Switch) : List Char → Except UsageError ShortGroup
  | [] => .ok (.flags [])
  | c :: cs =>
    match shortOption? known c with
    | Option.none => .error (.noSuchOption (String.ofList ['-', c]))
    | some o =>
      if o.takesValue then
        .ok (.valued [] o (if cs.isEmpty then Option.none else some (String.ofList cs)))
      else
        match readLetters known cs with
        | .error e => .error e
        | .ok (.flags os) => .ok (.flags (o :: os))
        | .ok (.valued os last value) => .ok (.valued (o :: os) last value)

/-- Reads arguments after those read.  Where options and positional arguments may not be
mixed, the first positional argument ends the options. -/
def readArguments (known : List Switch) (mixed : Bool) (read : Parsed) :
    List String → Except UsageError Parsed
  | [] => .ok read
  | argument :: rest =>
    if argument = "--" then .ok ⟨read.options, read.positional ++ rest⟩
    else if argument.toList.head? = some '-' ∧ 1 < argument.toList.length then
      let (name, value) := splitLong argument
      match longOption? known name, value with
      | some o, some v =>
        if o.takesValue then readArguments known mixed (read.withOption o v) rest
        else .error (.valueNotTaken o)
      | some o, Option.none =>
        if o.takesValue then
          match rest with
          | v :: rest' => readArguments known mixed (read.withOption o v) rest'
          | [] => .error (.valueMissing o)
        else readArguments known mixed (read.withOption o "") rest
      | Option.none, _ =>
        if argument.toList.take 2 = ['-', '-'] then .error (.noSuchOption name)
        else
          match readLetters known (argument.toList.drop 1) with
          | .error e => .error e
          | .ok (.flags os) =>
            readArguments known mixed (os.foldl (fun p o => p.withOption o "") read) rest
          | .ok (.valued os last value) =>
            let before := os.foldl (fun p o => p.withOption o "") read
            match value with
            | some v => readArguments known mixed (before.withOption last v) rest
            | Option.none =>
              match rest with
              | v :: rest' => readArguments known mixed (before.withOption last v) rest'
              | [] => .error (.valueMissing last)
    else if mixed then readArguments known mixed (read.withPositional argument) rest
    else .ok ⟨read.options, read.positional ++ argument :: rest⟩

/-! ## Commands -/

/-- A command of the command line. -/
inductive Verb where
  | locate
  | command
  | definition
  | references
  | details
  | symbols
  | keys
  | includes
  deriving DecidableEq, Repr

namespace Verb

/-- Every command. -/
def all : List Verb :=
  [locate, command, definition, references, details, symbols, keys, includes]

/-- The name of a command. -/
def name : Verb → String
  | locate => "locate"
  | command => "command"
  | definition => "definition"
  | references => "references"
  | details => "details"
  | symbols => "symbols"
  | keys => "keys"
  | includes => "includes"

/-- The options of a command. -/
def options : Verb → List Switch
  | locate => [.tree, .full, .json, .help]
  | references => [.tree, .aliases, .json, .help]
  | symbols => [.tree, .treeView, .json, .help]
  | _ => [.tree, .json, .help]

/-- Whether a command asks about a position. -/
def takesPosition : Verb → Bool
  | symbols | keys | includes => false
  | _ => true

end Verb

/-- A command with its arguments. -/
structure Invocation where
  verb : Verb
  line : Int
  column : Int
  tree : String
  aliases : Option String
  full : Bool
  json : Bool
  treeView : Bool
  deriving DecidableEq, Repr

/-- What the arguments ask for. -/
inductive Request where
  | invoke (i : Invocation)
  | help
  deriving DecidableEq, Repr

/-- What is printed when help is asked for. -/
def usage : String :=
  "Usage: [--verbose] COMMAND [LINE COLUMN] --tree FILE [OPTIONS]\n" ++
    "Commands: " ++ ", ".intercalate (Verb.all.map Verb.name) ++ "\n"

/-- The line and the column among the positional arguments. -/
def positionOf (verb : Verb) (arguments : List String) : Except UsageError (Int × Int) :=
  match verb.takesPosition, arguments with
  | true, [line, column] =>
    match Text.integer? line, Text.integer? column with
    | some l, some c => .ok (l, c)
    | _, _ => .error .notANumber
  | true, [] | true, [_] => .error .argumentMissing
  | false, [] => .ok (1, 1)
  | _, _ => .error .extraArgument

/-- The command that arguments after its name ask for. -/
def invocationOf (verb : Verb) (arguments : List String) : Except UsageError Request := do
  let parsed ← readArguments verb.options true Parsed.none arguments
  if parsed.has .help then return .help
  let (line, column) ← positionOf verb parsed.positional
  let some tree := parsed.value? .tree | throw (.optionMissing .tree)
  return .invoke {
    verb, line, column, tree
    aliases := parsed.value? .aliases
    full := parsed.has .full
    json := parsed.has .json
    treeView := parsed.has .treeView }

/-- The request that the arguments of the command line are. -/
def requestOf (arguments : List String) : Except UsageError Request := do
  let parsed ← readArguments [.verbose, .help] false Parsed.none arguments
  if parsed.has .help then return .help
  match parsed.positional with
  | [] => throw .commandMissing
  | name :: rest =>
    match Verb.all.find? fun v => v.name == name with
    | some verb => invocationOf verb rest
    | none => throw (.noSuchCommand name)

end ScriptNavigation.CommandLine
