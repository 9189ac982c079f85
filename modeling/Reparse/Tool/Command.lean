import Reparse.Ast.Document
import Reparse.Json.Writer
import Reparse.Storage.Volume
import Reparse.Text.Blank
import Reparse.Text.Utf8
import Reparse.Tool.Chain

/-!
Parsers and generators that are programs of their own.

A parser reads the source from its input, is told the goal by its last two arguments, and prints the
document of a tree.  A generator reads a document with the tree and the options, and prints a text.
A program that does not end well has failed, and says why on its error output.
-/

namespace Reparse

structure Command where
  program : String
  arguments : List String
deriving DecidableEq

def Command.ofList? : List String → Option Command
  | [] => none
  | program :: arguments => some ⟨program, arguments⟩

inductive ExitStatus where
  | exited (code : Nat)
  | killed (signal : Nat)
deriving DecidableEq

namespace ExitStatus

def isSuccess (status : ExitStatus) : Bool :=
  status = .exited 0

def signalNames : List (Nat × String) :=
  [(1, "SIGHUP"), (2, "SIGINT"), (3, "SIGQUIT"), (4, "SIGILL"), (5, "SIGTRAP"), (6, "SIGABRT"),
    (7, "SIGBUS"), (8, "SIGFPE"), (9, "SIGKILL"), (10, "SIGUSR1"), (11, "SIGSEGV"),
    (12, "SIGUSR2"), (13, "SIGPIPE"), (14, "SIGALRM"), (15, "SIGTERM"), (16, "SIGSTKFLT"),
    (24, "SIGXCPU"), (25, "SIGXFSZ"), (26, "SIGVTALRM"), (27, "SIGPROF"), (29, "SIGIO"),
    (30, "SIGPWR"), (31, "SIGSYS")]

def text : ExitStatus → String
  | .exited code => s!"exit status: {code}"
  | .killed signal =>
      match signalNames.find? fun entry => entry.1 == signal with
      | some entry => s!"signal: {signal} ({entry.2})"
      | none => s!"signal: {signal}"

end ExitStatus

structure Completion where
  status : ExitStatus
  output : Bytes
  errors : Bytes
deriving DecidableEq

/-- Something that can start programs: given a command, the files and the input, it tells why the
program does not start, or how it went, and what it made of the files. -/
abbrev Launcher :=
  Command → Volume → Bytes → Except String Completion × Volume

namespace Command

/-- The output of a program that has been started, or why there is none.  Only a program that failed
is worth a line in the log. -/
def conclude (command : Command) (result : Except String Completion) :
    Except ToolError String × List Event :=
  match result with
  | .error cause => (.error ⟨s!"failed to start `{command.program}`: {cause}"⟩, [])
  | .ok completion =>
      if completion.status.isSuccess then
        match Utf8.fault? completion.output with
        | some (start, fault) =>
            (.error ⟨s!"`{command.program}` printed invalid UTF-8: {fault.message start}"⟩, [])
        | none => (.ok (Utf8.decodeLenient completion.output), [])
      else
        let complaint := String.ofList (trimBlank (Utf8.decodeLenient completion.errors).toList)
        (.error ⟨complaint⟩, [.toolFailed command.program completion.status.text])

def run (launcher : Launcher) (command : Command) (extra : List String) (volume : Volume)
    (input : Bytes) : Reply Volume String :=
  let (result, volume) :=
    launcher { command with arguments := command.arguments ++ extra } volume input
  let (answer, events) := command.conclude result
  ⟨answer, events, volume⟩

def readTree (output : String) : Except ToolError Ast.Node :=
  (Ast.Node.parse output).mapError fun error => ⟨s!"parser output is not a tree: {error.message}"⟩

def parse (launcher : Launcher) (command : Command) (volume : Volume) (source : String)
    (goal : Goal) :
    Reply Volume Ast.Node :=
  let reply := command.run launcher ["--source-type", goal.name] volume (Utf8.encode source)
  ⟨reply.answer.bind readTree, reply.events, reply.state⟩

def request (tree : Ast.Node) (options : GenerateOptions) : Json :=
  .object
    [("options", .object
        [("comments", .bool options.comments), ("compact", .bool options.compact),
          ("retainFunctionParens", .bool options.retainFunctionParens),
          ("retainLines", .bool options.retainLines)]),
      ("tree", tree.toJson)]

def generate (launcher : Launcher) (command : Command) (volume : Volume) (tree : Ast.Node)
    (options : GenerateOptions) : Reply Volume String :=
  command.run launcher [] volume (Utf8.encode (request tree options).render)

end Command

def Toolchain.ofCommands (launcher : Launcher) (parser generator : Command) : Toolchain Volume where
  parse := parser.parse launcher
  generate := generator.generate launcher

end Reparse
