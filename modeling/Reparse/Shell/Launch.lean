import Reparse.Shell.Run
import Reparse.Tool.Command

namespace Reparse

namespace Shell

/-- Enough fuel for any script that is meant to end. -/
def plenty : Nat := 1000000

def usualEnvironment : List (String × Bytes) :=
  [("HOME", Utf8.encode "/root"), ("PATH", Utf8.encode defaultSearchPath)]

def nulComplaint : String := "nul byte found in provided data"

def launch : Launcher := fun command volume input =>
  let refuse := fun (error : StorageError) => (Except.error error.message, volume)
  if (command.program :: command.arguments).any fun word => word.toList.contains '\x00' then
    (.error nulComplaint, volume)
  else
    match findProgram volume defaultSearchPath command.program with
    | .missing => refuse .notFound
    | .obstacle =>
        match volume.locate command.program with
        | .error error => refuse error
        | .ok _ => refuse .permissionDenied
    | .program program _ front =>
        let calledAs := if front.isEmpty then command.program else program
        let run := start plenty program calledAs usualEnvironment
          (front ++ command.arguments.map Utf8.encode)
        let (result, machine) := run.run.run (Machine.start volume input)
        let printed := fun (index : Nat) => (machine.channels[index]?.map Channel.written).getD []
        let status :=
          match result with
          | .ok (some signal) => .killed signal
          | .error (.killed signal) => .killed signal
          | _ => .exited (machine.status % 256)
        let volume := { machine.volume with workingDirectory := volume.workingDirectory }
        (.ok ⟨status, printed 1, printed 2⟩, volume)

end Shell

end Reparse
