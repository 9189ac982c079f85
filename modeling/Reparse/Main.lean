import Reparse.CommandLine.Perform
import Reparse.Shell.Launch

/-!
The program on a real system.

The files that a command may look at are read into a volume first; the command then works on the
volume, and what has changed there is changed in the system at the end.
-/

namespace Reparse

namespace CommandLine

def placeOf (directory path : String) : List String :=
  let enter := fun (place : List String) (name : String) =>
    if name = "." then place else if name = ".." then place.dropLast else place ++ [name]
  (Path.names (Path.join directory path)).foldl enter []

def addDirectory (volume : Volume) (place : List String) : Volume :=
  match volume.root.at? place with
  | some (.directory _) => volume
  | _ => volume.setItem place (.directory [])

/-- Copy a file to a place of a volume.  One that may not be read is there without its content, and
one that is not there is left out. -/
def copyFile (volume : Volume) (place : List String) (path : String) : IO Volume := do
  match ← (IO.FS.readBinFile path).toBaseIO with
  | .ok content => return volume.setItem place (.file content.toList)
  | .error (.permissionDenied ..) => return (volume.setItem place (.file [])).conceal place
  | .error _ => return volume

def copyInto (volume : Volume) (directory path : String) : IO Volume := do
  let target := (← IO.currentDir) / path
  let place := placeOf directory path
  if ← target.isDir then
    let mut volume := addDirectory volume place
    match ← target.readDir.toBaseIO with
    | .error _ => return volume.conceal place
    | .ok entries =>
        for entry in entries do
          if !(← entry.path.isDir) then
            volume ← copyFile volume (place ++ [entry.fileName]) entry.path.toString
        return volume
  else
    copyFile volume place target.toString

def wordsOf (command : Reparse.Command) : List String :=
  command.program :: command.arguments.filter fun word => !word.startsWith "-"

def pathsOf (settings : Settings) (chosen : List String) : List String :=
  let actual := Path.join settings.layout.root settings.layout.actualDirectory
  let explicit := Path.join settings.layout.root settings.layout.explicitDirectory
  settings.tablePath.toList ++ [".", actual, explicit] ++ chosen.map (Path.join actual) ++
    chosen.map (Path.join explicit) ++ wordsOf settings.parser ++ wordsOf settings.generator

def gather (request : Request) : IO Volume := do
  let directory := (← IO.currentDir).toString
  let mut volume := Volume.bare (Path.names directory)
  match request with
  | .perform _ options =>
      let path := options.settingsPath.getD Settings.defaultPath
      let parent := (Path.parent? path).getD "."
      if ← ((← IO.currentDir) / parent).isDir then
        volume := addDirectory volume (placeOf directory parent)
      volume ← copyInto volume directory path
      match Settings.load volume path with
      | .ok settings =>
          for named in pathsOf settings options.chosen do
            volume ← copyInto volume directory named
      | .error _ => pure ()
      return volume
  | _ => return volume

def isShown (request : Request) (event : Event) : Bool :=
  match request with
  | .perform _ options => options.verbose || event.level != .debug
  | _ => false

def eventText (event : Event) : String :=
  let details := event.details.map fun detail => s!" {detail.1}={detail.2}"
  s!"{event.level.name} {event.message}{String.join details}"

def systemPath (place : List String) : String :=
  "/" ++ "/".intercalate place

def discard (place : List String) (item : Item) : IO Unit :=
  match item with
  | .file _ => IO.FS.removeFile (systemPath place)
  | .directory _ => IO.FS.removeDirAll (systemPath place)
  | .device => pure ()

/-- Bring the system from an item, if there was one, to another one in the same place. -/
partial def save (place : List String) (old : Option Item) (new : Item) : IO Unit :=
  match new with
  | .device => pure ()
  | .file content =>
      match old with
      | some (.file before) =>
          if before == content then pure ()
          else IO.FS.writeBinFile (systemPath place) ⟨content.toArray⟩
      | _ => IO.FS.writeBinFile (systemPath place) ⟨content.toArray⟩
  | .directory entries => do
      let before ← match old with
        | some (.directory before) => pure before
        | _ => do
            IO.FS.createDirAll (systemPath place)
            pure []
      for (name, item) in before do
        if !Dictionary.contains entries name then
          discard (place ++ [name]) item
      for (name, item) in entries do
        save (place ++ [name]) (Dictionary.find? before name) item

def start (arguments : List String) : IO UInt32 := do
  let request := read arguments
  let volume ← gather request
  let conclusion := Desk.perform ⟨Shell.launch, volume⟩ arguments
  for event in conclusion.events do
    if isShown request event then
      IO.eprintln (eventText event)
  save [] (some volume.root) conclusion.volume.root
  IO.print conclusion.output
  IO.eprint conclusion.errors
  return conclusion.exit.toUInt32

end CommandLine

end Reparse

def main (arguments : List String) : IO UInt32 :=
  Reparse.CommandLine.start arguments
