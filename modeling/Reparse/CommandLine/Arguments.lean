import Reparse.Settings

/-!
The arguments of the program.

A command comes first, and its options after it.  An option with a value has it in the same argument
after an equals sign, or in the next argument, which then does not begin with a hyphen.
-/

namespace Reparse

namespace CommandLine

inductive Command where
  | run
  | xfails
  | init
deriving DecidableEq

def Command.name : Command → String
  | .run => "run"
  | .xfails => "xfails"
  | .init => "init"

def Command.ofName? (name : String) : Option Command :=
  [Command.run, .xfails, .init].find? fun command => command.name == name

structure Options where
  settingsPath : Option String := none
  chosen : List String := []
  verbose : Bool := false
deriving DecidableEq

inductive UsageError where
  | missingCommand
  | unknownCommand (name : String)
  | unexpected (command : Option Command) (argument : String)
  | missingValue (option : String)
  | repeated (command : Command) (option : String)
deriving DecidableEq

inductive Request where
  | perform (command : Command) (options : Options)
  | help (command : Option Command)
  | refuse (error : UsageError)
deriving DecidableEq

def usageOf : Option Command → String
  | none => "Usage: roundtrip <COMMAND>"
  | some command => s!"Usage: roundtrip {command.name} [OPTIONS]"

namespace UsageError

def configOption : String := "--config <CONFIG>"

def caseOption : String := "--case <CASES>"

def closing : String := "For more information, try '--help'.\n"

def message : UsageError → String
  | .missingCommand =>
      let usage := usageOf none
      s!"error: 'roundtrip' requires a subcommand but one was not provided\n\n{usage}\n\n{closing}"
  | .unknownCommand name =>
      let usage := usageOf none
      s!"error: unrecognized subcommand '{name}'\n\n{usage}\n\n{closing}"
  | .unexpected command argument =>
      let usage := usageOf command
      s!"error: unexpected argument '{argument}' found\n\n{usage}\n\n{closing}"
  | .missingValue option =>
      s!"error: a value is required for '{option}' but none was supplied\n\n{closing}"
  | .repeated command option =>
      let usage := usageOf (some command)
      s!"error: the argument '{option}' cannot be used multiple times\n\n{usage}\n\n{closing}"

end UsageError

inductive ValueOption where
  | config
  | case
deriving DecidableEq

def valueOption? (command : Command) (name : String) : Option ValueOption :=
  if name = "--config" then some .config
  else if name = "--case" ∧ command = .run then some .case
  else none

/-- Take over the value of an option.  A path is not empty. -/
def setValue (command : Command) (options : Options) (value : String) :
    ValueOption → Except UsageError Options
  | .config =>
      if value.isEmpty then
        .error (.missingValue UsageError.configOption)
      else if options.settingsPath.isSome then
        .error (.repeated command UsageError.configOption)
      else
        .ok { options with settingsPath := some value }
  | .case => .ok { options with chosen := options.chosen ++ [value] }

def setVerbose (command : Command) (options : Options) : Except UsageError Options :=
  if options.verbose then
    .error (.repeated command "--verbose")
  else
    .ok { options with verbose := true }

def isValue (argument : String) : Bool :=
  argument.toList.head? != some '-' || argument = "-"

def splitValue? (argument : String) : Option (String × String) :=
  match argument.toList.dropWhile (· != '=') with
  | [] => none
  | _ :: value =>
      some (String.ofList (argument.toList.takeWhile (· != '=')), String.ofList value)

def readLetters (command : Command) (argument : String) (options : Options) :
    List Char → Except Request Options
  | [] => .ok options
  | letter :: letters =>
      if letter = 'h' then
        .error (.help (some command))
      else if letter = 'v' ∧ command = .run then
        match setVerbose command options with
        | .error error => .error (.refuse error)
        | .ok options =>
            match letters with
            | '=' :: _ => .error (.refuse (.unexpected (some command) argument))
            | _ => readLetters command argument options letters
      else
        .error (.refuse (.unexpected (some command) s!"-{letter}"))

def readOptions (command : Command) (options : Options) : List String → Request
  | [] => .perform command options
  | argument :: rest =>
      let refuse := fun (error : UsageError) => Request.refuse error
      let unexpected := refuse (.unexpected (some command) argument)
      if argument = "--" then
        match rest with
        | [] => .perform command options
        | extra :: _ => refuse (.unexpected (some command) extra)
      else if argument = "--help" then
        .help (some command)
      else if argument = "--verbose" ∧ command = .run then
        match setVerbose command options with
        | .error error => refuse error
        | .ok options => readOptions command options rest
      else
        match valueOption? command argument with
        | some option =>
            let missing :=
              match option with
              | .config => refuse (.missingValue UsageError.configOption)
              | .case => refuse (.missingValue UsageError.caseOption)
            match rest with
            | [] => missing
            | value :: rest =>
                if isValue value then
                  match setValue command options value option with
                  | .error error => refuse error
                  | .ok options => readOptions command options rest
                else
                  missing
        | none =>
            match splitValue? argument with
            | some (name, value) =>
                match valueOption? command name with
                | none => unexpected
                | some option =>
                    match setValue command options value option with
                    | .error error => refuse error
                    | .ok options => readOptions command options rest
            | none =>
                match argument.toList with
                | '-' :: '-' :: _ => unexpected
                | '-' :: letter :: letters =>
                    match readLetters command argument options (letter :: letters) with
                    | .error request => request
                    | .ok options => readOptions command options rest
                | _ => unexpected

/-- What help is asked for by names of commands.  Only one name is of use. -/
def readTopics : List String → Request
  | [] => .help none
  | [name] =>
      match Command.ofName? name with
      | some command => .help (some command)
      | none => if name = "help" then .help none else .refuse (.unknownCommand name)
  | name :: next :: _ =>
      if (Command.ofName? name).isSome || name = "help" then
        .refuse (.unknownCommand next)
      else
        .refuse (.unknownCommand name)

def read : List String → Request
  | [] => .refuse .missingCommand
  | argument :: rest =>
      match Command.ofName? argument with
      | some command => readOptions command {} rest
      | none =>
          if argument = "help" then
            readTopics rest
          else if argument = "--help" ∨ argument = "-h" then
            .help none
          else if argument = "--" then
            match rest with
            | [] => .refuse .missingCommand
            | extra :: _ => .refuse (.unexpected none extra)
          else if isValue argument then
            .refuse (.unknownCommand argument)
          else
            match argument.toList with
            | '-' :: 'h' :: _ => .help none
            | _ => .refuse (.unexpected none argument)

end CommandLine

end Reparse
