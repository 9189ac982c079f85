import Reparse.Storage.Volume

/-!
Programs that work on text.

A program reads its input and the files that its arguments name, and prints lines and complaints in
an order that shows where both go to one place.
-/

namespace Reparse

namespace Utility

structure Call where
  name : String
  arguments : List Bytes
  environment : List (String × Bytes)

structure Saying where
  isComplaint : Bool
  text : Bytes

/-- What a script of commands has come to: its status, what it has said, and what it has left of its
input and made of the files. -/
structure Performed where
  status : Nat
  said : List Saying
  rest : Bytes
  volume : Volume

abbrev Performer :=
  (name : String) → (script input : Bytes) → Volume → Performed

/-- What a program works on, and what it has said so far, the last part first. -/
structure Work where
  name : String
  input : Bytes
  volume : Volume
  /-- Whether the input is a file, so that what has been read of it too early can be given back. -/
  isFile : Bool := false
  performer : Performer := fun _ _ input volume => ⟨127, [], input, volume⟩
  said : List Saying := []

abbrev Job :=
  ExceptT Nat (StateM Work)

/-- How much there is of something that never ends; whoever reads it stops sooner. -/
def endlessSize : Nat := 1048576

def endlessNames : List String :=
  ["/dev/full", "/dev/random", "/dev/urandom", "/dev/zero"]

def contentOf (volume : Volume) (path : String) : Except StorageError Bytes :=
  if endlessNames.contains path then .ok (List.replicate endlessSize 0) else volume.readBytes path

namespace Job

def print (bytes : Bytes) : Job Unit :=
  modify fun work => { work with said := ⟨false, bytes⟩ :: work.said }

def printLine (text : String) : Job Unit :=
  print (Utf8.encode (text ++ "\n"))

def mutter (text : Bytes) : Job Unit :=
  modify fun work => { work with said := ⟨true, text⟩ :: work.said }

def complain (text : Bytes) : Job Unit := do
  mutter (Utf8.encode (s!"{(← get).name}: ") ++ text ++ [10])

def complainText (text : String) : Job Unit :=
  complain (Utf8.encode text)

def fail {α : Type} (status : Nat) (text : Bytes) : Job α := do
  complain text
  throw status

def failText {α : Type} (status : Nat) (text : String) : Job α :=
  fail status (Utf8.encode text)

def failUsage {α : Type} (status : Nat) (text : Bytes) : Job α := do
  complain text
  let name := (← get).name
  mutter (Utf8.encode s!"Try '{name} --help' for more information.\n")
  throw status

def failUsageText {α : Type} (status : Nat) (text : String) : Job α :=
  failUsage status (Utf8.encode text)

def perform (name : String) (script input : Bytes) : Job (Performed × Bytes) := do
  let work ← get
  let performed := work.performer name script input work.volume
  let (complaints, printed) := performed.said.partition Saying.isComplaint
  set { work with volume := performed.volume, said := complaints.reverse ++ work.said }
  return (performed, (printed.map Saying.text).flatten)

def takeInput : Job Bytes := do
  let work ← get
  set { work with input := [] }
  return work.input

def inputNames : List String :=
  ["/dev/stdin", "/dev/fd/0", "/proc/self/fd/0"]

def read (file : Bytes) : Job (Except StorageError Bytes) := do
  let path := Utf8.decodeLenient file
  if path = "-" || inputNames.contains path then
    return .ok (← takeInput)
  else
    return contentOf (← get).volume path

/-- The texts of files, or the input if none is named; a file that cannot be read is complained
about. Each comes with its name, and the number counts the failures. -/
def readAll (files : List Bytes) (describe : StorageError → Bytes → Bytes) :
    Job (List (Bytes × Bytes) × Nat) := do
  let files := if files.isEmpty then [[45]] else files
  let mut found := []
  let mut failures := 0
  for file in files do
    match ← read file with
    | .ok content => found := (file, content) :: found
    | .error error =>
        complain (describe error file)
        failures := failures + 1
  return (found.reverse, failures)

def forEach (files : List Bytes) (describe : StorageError → Bytes → Bytes)
    (act : Bytes → Bytes → Job Unit) : Job Nat := do
  let files := if files.isEmpty then [[45]] else files
  let mut status := 0
  for file in files do
    match ← read file with
    | .ok content => act file content
    | .error error =>
        complain (describe error file)
        status := 1
  return status

def plainly (error : StorageError) (file : Bytes) : Bytes :=
  file ++ Utf8.encode s!": {error.reason}"

def whenOpening (error : StorageError) (file : Bytes) : Bytes :=
  match error with
  | .isDirectory => Utf8.encode "error reading '" ++ file ++ Utf8.encode s!"': {error.reason}"
  | error => Utf8.encode "cannot open '" ++ file ++ Utf8.encode s!"' for reading: {error.reason}"

def write (file content : Bytes) (appends : Bool) : Job (Except StorageError Unit) := do
  let work ← get
  let path := Utf8.decodeLenient file
  if path = "/dev/stdout" || path = "/dev/fd/1" then
    print content
    return .ok ()
  else if path = "/dev/stderr" || path = "/dev/fd/2" then
    mutter content
    return .ok ()
  else
    let old :=
      match work.volume.readBytes path with
      | .ok old => if appends then old else []
      | .error _ => []
    match work.volume.write path (old ++ content) with
    | .ok volume =>
        set { work with volume := volume }
        return .ok ()
    | .error error => return .error error

end Job

/-- Cut a text at a byte that ends each of its parts; one at the end of the text ends the last part.
-/
def partsBefore (ending : UInt8) (text : Bytes) : List Bytes :=
  let parts := text.splitOn ending
  if parts.getLast? == some [] then parts.dropLast else parts

def linesOf (text : Bytes) : List Bytes :=
  partsBefore 10 text

def isSpace (b : UInt8) : Bool :=
  b == 32 || (9 ≤ b && b ≤ 13)

def decimal? (text : Bytes) : Option Nat :=
  if !text.isEmpty && text.all fun b => 48 ≤ b && b ≤ 57 then
    some (text.foldl (fun total b => total * 10 + (b.toNat - 48)) 0)
  else
    none

def multiple? (text : Bytes) : Option Nat :=
  let digits := text.takeWhile fun b => 48 ≤ b && b ≤ 57
  let factor :=
    match Utf8.decodeLenient (text.drop digits.length) with
    | "" => some 1
    | "b" => some 512
    | "k" => some 1024
    | "K" => some 1024
    | "KiB" => some 1024
    | "kB" => some 1000
    | "KB" => some 1000
    | "M" => some (1024 * 1024)
    | "MiB" => some (1024 * 1024)
    | "MB" => some 1000000
    | "G" => some (1024 * 1024 * 1024)
    | "GB" => some 1000000000
    | _ => none
  match decimal? digits, factor with
  | some value, some factor => some (value * factor)
  | _, _ => none

def textOf (value : Nat) : Bytes :=
  Utf8.encode (toString value)

def powerOfTen (power : Nat) : Nat :=
  Nat.pow 10 power

def padLeft (width : Nat) (text : Bytes) : Bytes :=
  List.replicate (width - text.length) 32 ++ text

def padRight (width : Nat) (text : Bytes) : Bytes :=
  text ++ List.replicate (width - text.length) 32

end Utility

end Reparse
