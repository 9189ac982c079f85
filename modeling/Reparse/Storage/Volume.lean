import Reparse.Dictionary
import Reparse.Storage.Path
import Reparse.Text.Utf8

/-!
Files and directories.

A volume is a tree of directories with files and devices at its leaves, seen from a working
directory. Looking a path up walks the names one by one, so each failure has one cause.
-/

namespace Reparse

/-- What a name in a directory stands for. -/
inductive Item where
  | file (content : Bytes)
  | directory (entries : List (String × Item))
  | device

instance : Inhabited Item := ⟨.directory []⟩

structure Volume where
  root : Item
  workingDirectory : List String
  /-- The places of files that can be run. -/
  runnable : List (List String) := []
  /-- The places of files and directories that cannot be read. -/
  unreadable : List (List String) := []

inductive StorageError where
  | notFound
  | permissionDenied
  | notDirectory
  | isDirectory
  | nameTooLong
  | nulInPath
  | notText
  | alreadyThere
  | notEmpty
deriving DecidableEq

namespace StorageError

def reason : StorageError → String
  | .notFound => "No such file or directory"
  | .permissionDenied => "Permission denied"
  | .notDirectory => "Not a directory"
  | .isDirectory => "Is a directory"
  | .nameTooLong => "File name too long"
  | .nulInPath => "file name contained an unexpected NUL byte"
  | .notText => "stream did not contain valid UTF-8"
  | .alreadyThere => "File exists"
  | .notEmpty => "Directory not empty"

def number? : StorageError → Option Nat
  | .notFound => some 2
  | .permissionDenied => some 13
  | .notDirectory => some 20
  | .isDirectory => some 21
  | .nameTooLong => some 36
  | .alreadyThere => some 17
  | .notEmpty => some 39
  | .nulInPath => none
  | .notText => none

def message (error : StorageError) : String :=
  match error.number? with
  | some number => s!"{error.reason} (os error {number})"
  | none => error.reason

end StorageError

namespace Item

def at? (item : Item) : List String → Option Item
  | [] => some item
  | name :: names =>
      match item with
      | .directory entries =>
          match Dictionary.find? entries name with
          | none => none
          | some inner => inner.at? names
      | _ => none

/-- Change the item under a list of names, making the directories on the way to it.  Something else
on the way, or a change that is refused, changes nothing. -/
def change? (change : Option Item → Option Item) : List String → Option Item → Option Item
  | [], item => change item
  | name :: names, none => do
      let inner ← change? change names none
      return .directory [(name, inner)]
  | name :: names, some (.directory entries) => do
      let inner ← change? change names (Dictionary.find? entries name)
      return .directory (Dictionary.insert entries name inner)
  | _ :: _, some _ => none

def remove (item : Item) : List String → Item
  | [] => item
  | name :: names =>
      match item with
      | .directory entries =>
          match names with
          | [] => .directory (entries.filter fun entry => entry.1 != name)
          | _ =>
              match Dictionary.find? entries name with
              | none => .directory entries
              | some inner => .directory (Dictionary.insert entries name (inner.remove names))
      | item => item

end Item

namespace Volume

def longestName : Nat := 255

def longestPath : Nat := 4095

def walk (volume : Volume) : (place : List String) → List String → Except StorageError (List String)
  | place, [] => .ok place
  | place, name :: names =>
      match volume.root.at? place with
      | none => .error .notFound
      | some (.directory entries) =>
          if name = "." then
            volume.walk place names
          else if name = ".." then
            volume.walk place.dropLast names
          else if longestName < name.utf8ByteSize then
            .error .nameTooLong
          else if Dictionary.contains entries name then
            volume.walk (place ++ [name]) names
          else
            .error .notFound
      | some _ => .error .notDirectory

def origin (volume : Volume) (path : String) : List String :=
  if Path.isAbsolute path then [] else volume.workingDirectory

def locate (volume : Volume) (path : String) : Except StorageError (List String) :=
  if path.toList.contains '\x00' then
    .error .nulInPath
  else if path.isEmpty then
    .error .notFound
  else if longestPath < path.utf8ByteSize then
    .error .nameTooLong
  else
    match volume.walk (volume.origin path) (Path.names path) with
    | .error error => .error error
    | .ok place =>
        match volume.root.at? place with
        | some (.directory _) => .ok place
        | some _ => if Path.wantsDirectory path then .error .notDirectory else .ok place
        | none => .error .notFound

def item (volume : Volume) (path : String) : Except StorageError Item :=
  match volume.locate path with
  | .error error => .error error
  | .ok place =>
      match volume.root.at? place with
      | none => .error .notFound
      | some item => .ok item

def itemExists (volume : Volume) (path : String) : Bool :=
  match volume.item path with
  | .ok _ => true
  | .error _ => false

def isDirectory (volume : Volume) (path : String) : Bool :=
  match volume.item path with
  | .ok (.directory _) => true
  | _ => false

def isFile (volume : Volume) (path : String) : Bool :=
  match volume.item path with
  | .ok (.file _) => true
  | _ => false

def isUnreadable (volume : Volume) (path : String) : Bool :=
  match volume.locate path with
  | .ok place => volume.unreadable.contains place
  | .error _ => false

def readBytes (volume : Volume) (path : String) : Except StorageError Bytes :=
  match volume.item path with
  | .error error => .error error
  | .ok item =>
      if volume.isUnreadable path then
        .error .permissionDenied
      else
        match item with
        | .file content => .ok content
        | .directory _ => .error .isDirectory
        | .device => .ok []

def readText (volume : Volume) (path : String) : Except StorageError String :=
  match volume.readBytes path with
  | .error error => .error error
  | .ok content =>
      match Utf8.decode? content with
      | none => .error .notText
      | some text => .ok text

def entriesIn (volume : Volume) (path : String) : Except StorageError (List (String × Item)) :=
  match volume.item path with
  | .error error => .error error
  | .ok (.directory entries) =>
      if volume.isUnreadable path then .error .permissionDenied else .ok entries
  | .ok _ => .error .notDirectory

def filesIn (volume : Volume) (path : String) : Except StorageError (List String) :=
  (volume.entriesIn path).map fun entries =>
    entries.filterMap fun entry =>
      match entry.2 with
      | .file _ => some entry.1
      | _ => none

def setItem (volume : Volume) (place : List String) (item : Item) : Volume :=
  match Item.change? (fun _ => some item) place (some volume.root) with
  | some root => { volume with root := root }
  | none => volume

/-- The place that a path names in a directory that is there, and what is there now, if anything. -/
def target (volume : Volume) (path : String) :
    Except StorageError (List String × Option Item) :=
  match volume.locate path with
  | .ok place => .ok (place, volume.root.at? place)
  | .error .notFound =>
      let names := Path.names path
      match names.getLast? with
      | none => .error .notFound
      | some name =>
          match volume.walk (volume.origin path) names.dropLast with
          | .error error => .error error
          | .ok place =>
              match volume.root.at? place with
              | some (.directory entries) =>
                  if name = ".." || Dictionary.contains entries name then .error .notFound
                  else .ok (place ++ [name], none)
              | some _ => .error .notDirectory
              | none => .error .notFound
  | .error error => .error error

/-- The place of a file that is to be written; nothing if what is written is not kept. -/
def fileTarget (volume : Volume) (path : String) : Except StorageError (Option (List String)) :=
  match volume.target path with
  | .error error => .error error
  | .ok (_, some (.directory _)) => .error .isDirectory
  | .ok (_, some .device) => .ok none
  | .ok (place, some (.file _)) => .ok (some place)
  | .ok (place, none) => if Path.wantsDirectory path then .error .isDirectory else .ok (some place)

def write (volume : Volume) (path : String) (content : Bytes) : Except StorageError Volume :=
  (volume.fileTarget path).map fun
    | none => volume
    | some place => volume.setItem place (.file content)

def removeAt (volume : Volume) (place : List String) : Volume :=
  { volume with
    root := volume.root.remove place
    runnable := volume.runnable.filter fun other => !place.isPrefixOf other
    unreadable := volume.unreadable.filter fun other => !place.isPrefixOf other }

def allow (volume : Volume) (place : List String) : Volume :=
  if volume.runnable.contains place then volume
  else { volume with runnable := place :: volume.runnable }

def forbid (volume : Volume) (place : List String) : Volume :=
  { volume with runnable := volume.runnable.filter (· != place) }

def conceal (volume : Volume) (place : List String) : Volume :=
  if volume.unreadable.contains place then volume
  else { volume with unreadable := place :: volume.unreadable }

def reveal (volume : Volume) (place : List String) : Volume :=
  { volume with unreadable := volume.unreadable.filter (· != place) }

def isRunnable (volume : Volume) (path : String) : Bool :=
  match volume.locate path with
  | .ok place => volume.runnable.contains place && volume.isFile path
  | .error _ => false

def isPossibleName (name : String) : Bool :=
  decide (name.utf8ByteSize ≤ longestName) && !name.toList.contains '\x00'

/-- Put a file below the working directory, making the directories on the way; where that cannot be,
nothing changes. -/
def put (volume : Volume) (path : String) (content : Bytes) : Volume :=
  let names := (Path.names path).filter (· != ".")
  let change : Option Item → Option Item := fun
    | some (.directory _) => none
    | some .device => some .device
    | _ => some (.file content)
  if names.all isPossibleName && !Path.wantsDirectory path then
    match Item.change? change (volume.workingDirectory ++ names) (some volume.root) with
    | some root => { volume with root := root }
    | none => volume
  else
    volume

def makeDirectory (volume : Volume) (path : String) : Volume :=
  let place := volume.workingDirectory ++ (Path.names path).filter (· != ".")
  let change : Option Item → Option Item := fun
    | none => some (.directory [])
    | some item => some item
  match Item.change? change place (some volume.root) with
  | some root => { volume with root := root }
  | none => volume

def remove (volume : Volume) (path : String) : Volume :=
  volume.removeAt (volume.workingDirectory ++ (Path.names path).filter (· != "."))

def systemDirectories : List (List String) :=
  [["bin"], ["boot"], ["dev"], ["etc"], ["home"], ["lib"], ["media"], ["mnt"], ["opt"], ["proc"],
    ["root"], ["run"], ["sbin"], ["srv"], ["sys"], ["tmp"], ["usr"], ["usr", "bin"], ["usr", "lib"],
    ["usr", "local"], ["usr", "sbin"], ["usr", "share"], ["var"], ["var", "tmp"]]

def systemDevices : List (List String) :=
  [["dev", "full"], ["dev", "null"], ["dev", "random"], ["dev", "stderr"], ["dev", "stdin"],
    ["dev", "stdout"], ["dev", "tty"], ["dev", "urandom"], ["dev", "zero"]]

def bare (workingDirectory : List String) : Volume :=
  let empty : Volume := { root := .directory [], workingDirectory := workingDirectory }
  let volume :=
    systemDirectories.foldl (fun volume place => volume.setItem place (.directory [])) empty
  let volume := systemDevices.foldl (fun volume place => volume.setItem place .device) volume
  match volume.root.at? workingDirectory with
  | some (.directory _) => volume
  | _ => volume.setItem workingDirectory (.directory [])

end Volume

end Reparse
