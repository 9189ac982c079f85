import Reparse.Shell.Machine
import Reparse.Shell.Reader
import Reparse.Utility.Catalogue

namespace Reparse

namespace Shell

def builtIns : List String :=
  ["[", "alias", "bg", "cd", "chdir", "command", "echo", "false", "fg", "getopts", "hash", "jobs",
    "kill", "local", "printf", "pwd", "read", "test", "true", "type", "ulimit", "umask", "unalias",
    "wait"]

def shellNames : List String :=
  ["sh", "dash", "bash"]

def starters : List String :=
  ["env", "nice", "nohup", "setsid", "timeout", "xargs"]

def programDirectories : List String :=
  ["/bin", "/usr/bin"]

def isProgramName (name : String) : Bool :=
  shellNames.contains name || starters.contains name || (Utility.find? name).isSome

inductive Found where
  | program (name path : String) (front : List Bytes)
  | obstacle
  | missing
deriving DecidableEq

def systemProgram? (path : String) : Option String :=
  let place := "/".intercalate (path.splitOn "/").dropLast
  let name := (path.splitOn "/").getLast?.getD ""
  if programDirectories.contains place && isProgramName name then some name else none

/-- What a script that can be run stands for: the program that its first line names, or a shell. -/
def scriptProgram (path : String) (content : Bytes) : Found :=
  match content with
  | 35 :: 33 :: rest =>
      let isBlank := fun (b : UInt8) => b = 32 || b = 9
      let line := (rest.takeWhile (· != 10)).dropWhile isBlank
      let interpreter := line.takeWhile fun b => !isBlank b
      let argument := ((line.drop interpreter.length).dropWhile isBlank).reverse.dropWhile isBlank
      let front := if argument.isEmpty then [] else [argument.reverse]
      match systemProgram? (Utf8.decodeLenient interpreter) with
      | some name => .program name path (front ++ [Utf8.encode path])
      | none => .missing
  | _ => .program "sh" path [Utf8.encode path]

def programAt (volume : Volume) (path : String) : Found :=
  match systemProgram? path with
  | some name => .program name path []
  | none =>
      if volume.isRunnable path then
        match volume.readBytes path with
        | .ok content => scriptProgram path content
        | .error _ => .obstacle
      else if volume.itemExists path then
        .obstacle
      else
        .missing

def programIn (volume : Volume) (name : String) : List String → Found
  | [] => .missing
  | directory :: directories =>
      let path := if directory.isEmpty then name else Path.join directory name
      match programAt volume path with
      | .program name path front => .program name path front
      | .obstacle =>
          match programIn volume name directories with
          | .program name path front => .program name path front
          | _ => if volume.isFile path then .obstacle else .missing
      | .missing => programIn volume name directories

def defaultSearchPath : String :=
  "/usr/local/sbin:/usr/local/bin:/usr/sbin:/usr/bin:/sbin:/bin"

def findProgram (volume : Volume) (searchPath name : String) : Found :=
  if name.toList.contains '/' then programAt volume name
  else if name.isEmpty then .missing
  else programIn volume name (searchPath.splitOn ":")

namespace Machine

def searchPath (machine : Machine) : String :=
  match machine.value? "PATH" with
  | some path => Utf8.decodeLenient path
  | none => defaultSearchPath

def findProgram (machine : Machine) (name : String) : Found :=
  Shell.findProgram machine.volume machine.searchPath name

end Machine

end Shell

end Reparse
