import Reparse.Utility.Options

namespace Reparse

namespace Utility

namespace Files

def pathOf (word : Bytes) : String :=
  Utf8.decodeLenient word

def quoted (word : Bytes) : Bytes :=
  39 :: word ++ [39]

def changeVolume (change : Volume → Volume) : Job Unit :=
  modify fun work => { work with volume := change work.volume }

def complainOf (before : String) (word : Bytes) (after : String) : Job Unit :=
  Job.complain (Utf8.encode before ++ quoted word ++ Utf8.encode after)

def failMissing {α : Type} : Job α :=
  Job.failUsageText 1 "missing operand"

def lastName (path : String) : String :=
  ((Path.names path).getLast?).getD path

def within (directory : Bytes) (name : String) : Bytes :=
  if directory.getLast? == some 47 then directory ++ Utf8.encode name
  else directory ++ 47 :: Utf8.encode name

/-! Directories -/

def makeDirectory (word : Bytes) (isQuiet : Bool) : Job Bool := do
  let work ← get
  match work.volume.target (pathOf word) with
  | .ok (_, some (.directory _)) =>
      if !isQuiet then
        complainOf "cannot create directory " word ": File exists"
      return isQuiet
  | .ok (_, some _) =>
      complainOf "cannot create directory " word ": File exists"
      return false
  | .ok (place, none) =>
      changeVolume fun volume => volume.setItem place (.directory [])
      return true
  | .error error =>
      complainOf "cannot create directory " word s!": {error.reason}"
      return false

def waysTo (path : String) : List String :=
  let names := Path.names path
  let start := if Path.isAbsolute path then "/" else ""
  (List.range names.length).map fun count => start ++ "/".intercalate (names.take (count + 1))

def makeDirectories : List String → Job Bool
  | [] => return true
  | way :: ways => do
      let volume := (← get).volume
      match volume.target way, ways with
      | .ok (_, some (.directory _)), _ => makeDirectories ways
      | .ok (_, some _), _ :: _ =>
          complainOf "cannot create directory " (Utf8.encode way) ": Not a directory"
          return false
      | _, _ =>
          if ← makeDirectory (Utf8.encode way) true then makeDirectories ways else return false

def mkdir : Call → Job Nat := fun call => do
  let table := OptionTable.ofText "pvm:" [("parents", 'p'), ("verbose", 'v'), ("mode", 'm')]
  let parsed ← table.read {} call.arguments
  if parsed.operands.isEmpty then failMissing
  let mut status := 0
  for word in parsed.operands do
    let isMade ←
      if parsed.has 'p' then makeDirectories (waysTo (pathOf word)) else makeDirectory word false
    if !isMade then
      status := 1
    else if parsed.has 'v' then
      Job.print (Utf8.encode "mkdir: created directory " ++ quoted word ++ [10])
  return status

def removeEmpty (word : Bytes) : Job Bool := do
  let volume := (← get).volume
  let refuse := fun (reason : String) => do
    complainOf "failed to remove " word s!": {reason}"
    return false
  match volume.locate (pathOf word), volume.item (pathOf word) with
  | .ok place, .ok (.directory []) =>
      changeVolume fun volume => volume.removeAt place
      return true
  | .ok _, .ok (.directory _) => refuse StorageError.notEmpty.reason
  | .ok _, .ok _ => refuse StorageError.notDirectory.reason
  | .error error, _ => refuse error.reason
  | _, .error error => refuse error.reason

def rmdir : Call → Job Nat := fun call => do
  let table := OptionTable.ofText "pv" [("parents", 'p'), ("verbose", 'v')]
  let parsed ← table.read {} call.arguments
  if parsed.operands.isEmpty then failMissing
  let mut status := 0
  for word in parsed.operands do
    let ways := if parsed.has 'p' then (waysTo (pathOf word)).reverse.map Utf8.encode else [word]
    let mut goesOn := true
    for way in ways do
      if goesOn then
        goesOn ← removeEmpty way
        if !goesOn then status := 1
  return status

/-! Removing -/

def removalLines : (fuel : Nat) → Bytes → Item → List Bytes
  | 0, _, _ => []
  | fuel + 1, word, item =>
      match item with
      | .directory entries =>
          let inner := entries.flatMap fun entry => removalLines fuel (within word entry.1) entry.2
          inner ++ [Utf8.encode "removed directory " ++ quoted word]
      | _ => [Utf8.encode "removed " ++ quoted word]

def rm : Call → Job Nat := fun call => do
  let table := OptionTable.ofText "dfirRIv"
    [("dir", 'd'), ("force", 'f'), ("interactive", 'i'), ("recursive", 'r'), ("verbose", 'v'),
      ("one-file-system", 'I'), ("no-preserve-root", 'I'), ("preserve-root", 'I')]
  let parsed ← table.read {} call.arguments
  let isRecursive := parsed.has 'r' || parsed.has 'R'
  if parsed.operands.isEmpty && !parsed.has 'f' then failMissing
  let mut status := 0
  for word in parsed.operands do
    let path := pathOf word
    let volume := (← get).volume
    let name := lastName path
    match volume.locate path, volume.item path with
    | .ok place, .ok item => do
        let isDirectory := match item with
          | .directory _ => true
          | _ => false
        let isEmpty := match item with
          | .directory [] => true
          | _ => false
        if isDirectory && isRecursive && (name = "." || name = "..") then
          Job.complain (Utf8.encode "refusing to remove '.' or '..' directory: skipping " ++
            quoted word)
          status := 1
        else if isDirectory && !isRecursive && !parsed.has 'd' then
          complainOf "cannot remove " word ": Is a directory"
          status := 1
        else if isDirectory && !isRecursive && !isEmpty then
          complainOf "cannot remove " word ": Directory not empty"
          status := 1
        else
          changeVolume fun volume => volume.removeAt place
          if parsed.has 'v' then
            for line in removalLines 100 word item do
              Job.print (line ++ [10])
    | .error error, _ =>
        let isSilent := parsed.has 'f' && (error == .notFound || error == .notDirectory)
        if !isSilent then
          complainOf "cannot remove " word s!": {error.reason}"
          status := 1
    | .ok _, .error _ => pure ()
  return status

def unlink : Call → Job Nat := fun call => do
  let table := OptionTable.ofText "" []
  let parsed ← table.read {} call.arguments
  match parsed.operands with
  | [] => failMissing
  | [word] => do
      let volume := (← get).volume
      match volume.locate (pathOf word), volume.isDirectory (pathOf word) with
      | .ok place, false =>
          changeVolume fun volume => volume.removeAt place
          return 0
      | .ok _, true =>
          complainOf "cannot unlink " word ": Is a directory"
          return 1
      | .error error, _ =>
          complainOf "cannot unlink " word s!": {error.reason}"
          return 1
  | _ :: extra :: _ => Job.failUsage 1 (Utf8.encode "extra operand " ++ quoted extra)

/-! Copying and moving -/

def copyMode (source target : List String) (volume : Volume) : Volume :=
  let volume :=
    if volume.runnable.contains source then volume.allow target else volume.forbid target
  if volume.unreadable.contains source then volume.conceal target else volume.reveal target

def targetWord (volume : Volume) (target source : Bytes) (isPlain : Bool) : Bytes :=
  if !isPlain && volume.isDirectory (pathOf target) then within target (lastName (pathOf source))
  else target

def readOperands (parsed : Parsed) : Job (List Bytes × Bytes) := do
  match parsed.value? 't', parsed.operands with
  | _, [] => Job.failUsageText 1 "missing file operand"
  | some directory, words => return (words, directory)
  | none, [word] =>
      Job.failUsage 1 (Utf8.encode "missing destination file operand after " ++ quoted word)
  | none, words =>
      let target := words.getLast?.getD []
      if 2 < words.length && !(← get).volume.isDirectory (pathOf target) then
        let reason :=
          if (← get).volume.itemExists (pathOf target) then "Not a directory"
          else "No such file or directory"
        Job.fail 1 (Utf8.encode "target " ++ quoted target ++ Utf8.encode s!": {reason}")
      return (words.dropLast, target)

def copyOne (parsed : Parsed) (source target : Bytes) : Job Bool := do
  let volume := (← get).volume
  let isRecursive := ['r', 'R', 'a'].any parsed.has
  let refuse := fun (text : Bytes) => do
    Job.complain text
    return false
  match volume.locate (pathOf source), volume.item (pathOf source) with
  | .error error, _ =>
      refuse (Utf8.encode "cannot stat " ++ quoted source ++ Utf8.encode s!": {error.reason}")
  | _, .error error =>
      refuse (Utf8.encode "cannot stat " ++ quoted source ++ Utf8.encode s!": {error.reason}")
  | .ok origin, .ok item => do
      let isDirectory := volume.isDirectory (pathOf source)
      if isDirectory && !isRecursive then
        refuse (Utf8.encode "-r not specified; omitting directory " ++ quoted source)
      else if volume.isUnreadable (pathOf source) then
        let denied := Utf8.encode s!": {StorageError.permissionDenied.reason}"
        refuse (if isDirectory then Utf8.encode "cannot access " ++ quoted source ++ denied
          else Utf8.encode "cannot open " ++ quoted source ++ Utf8.encode " for reading" ++ denied)
      else
        let word := targetWord volume target source (parsed.has 'T')
        match volume.target (pathOf word) with
        | .error error =>
            refuse (Utf8.encode (if isDirectory then "cannot create directory " else
              "cannot create regular file ") ++ quoted word ++ Utf8.encode s!": {error.reason}")
        | .ok (place, old) => do
            let isOntoDirectory := match old with
              | some (.directory _) => true
              | _ => false
            if place == origin then
              refuse (quoted source ++ Utf8.encode " and " ++ quoted word ++
                Utf8.encode " are the same file")
            else if old.isNone && Path.wantsDirectory (pathOf word) && !isDirectory then
              refuse (Utf8.encode "cannot create regular file " ++ quoted word ++
                Utf8.encode ": Not a directory")
            else if isOntoDirectory && !isDirectory then
              refuse (Utf8.encode "cannot overwrite directory " ++ quoted word ++
                Utf8.encode " with non-directory")
            else if old.isSome && isDirectory && !isOntoDirectory then
              refuse (Utf8.encode "cannot overwrite non-directory " ++ quoted word ++
                Utf8.encode " with directory " ++ quoted source)
            else if parsed.has 'n' && old.isSome then
              return true
            else
              let merged :=
                match old, item with
                | some (.directory before), .directory entries =>
                    Item.directory (Dictionary.insertAll before entries)
                | _, .device => .file []
                | _, item => item
              changeVolume fun volume => copyMode origin place (volume.setItem place merged)
              if parsed.has 'v' then
                Job.print (quoted source ++ Utf8.encode " -> " ++ quoted word ++ [10])
              return true

def cp : Call → Job Nat := fun call => do
  let table := OptionTable.ofText "abdfiHlLnPpRrsuvxTt:S:Z"
    [("archive", 'a'), ("force", 'f'), ("recursive", 'r'), ("verbose", 'v'), ("no-clobber", 'n'),
      ("target-directory", 't'), ("no-target-directory", 'T'), ("interactive", 'i'),
      ("update", 'u'), ("dereference", 'L'), ("no-dereference", 'P'), ("preserve", 'p')]
  let parsed ← table.read {} call.arguments
  if parsed.has 'n' then
    Job.complainText
      "warning: behavior of -n is non-portable and may change in future; use --update=none instead"
  let (sources, target) ← readOperands parsed
  let mut status := 0
  for source in sources do
    if !(← copyOne parsed source target) then status := 1
  return status

def moveOne (parsed : Parsed) (source target : Bytes) : Job Bool := do
  let volume := (← get).volume
  let refuse := fun (text : Bytes) => do
    Job.complain text
    return false
  match volume.locate (pathOf source), volume.item (pathOf source) with
  | .error error, _ =>
      refuse (Utf8.encode "cannot stat " ++ quoted source ++ Utf8.encode s!": {error.reason}")
  | _, .error error =>
      refuse (Utf8.encode "cannot stat " ++ quoted source ++ Utf8.encode s!": {error.reason}")
  | .ok origin, .ok item => do
      let isDirectory := volume.isDirectory (pathOf source)
      let word := targetWord volume target source (parsed.has 'T')
      match volume.target (pathOf word) with
      | .error error =>
          refuse (Utf8.encode "cannot move " ++ quoted source ++ Utf8.encode " to " ++
            quoted word ++
            Utf8.encode s!": {error.reason}")
      | .ok (place, old) => do
          let isOntoDirectory := match old with
            | some (.directory _) => true
            | _ => false
          if place == origin then
            refuse (quoted source ++ Utf8.encode " and " ++ quoted word ++
              Utf8.encode " are the same file")
          else if isDirectory && origin.isPrefixOf place then
            refuse (Utf8.encode "cannot move " ++ quoted source ++
              Utf8.encode " to a subdirectory of itself, " ++ quoted word)
          else if old.isSome && isDirectory && !isOntoDirectory then
            refuse (Utf8.encode "cannot overwrite non-directory " ++ quoted word ++
              Utf8.encode " with directory " ++ quoted source)
          else if isOntoDirectory && !isDirectory then
            refuse (Utf8.encode "cannot overwrite directory " ++ quoted word ++
              Utf8.encode " with non-directory")
          else if parsed.has 'n' && old.isSome then
            return true
          else
            changeVolume fun volume =>
              (copyMode origin place (volume.setItem place item)).removeAt origin
            if parsed.has 'v' then
              Job.print (Utf8.encode "renamed " ++ quoted source ++ Utf8.encode " -> " ++
                quoted word ++ [10])
            return true

def mv : Call → Job Nat := fun call => do
  let table := OptionTable.ofText "bfinuvTt:S:"
    [("force", 'f'), ("verbose", 'v'), ("no-clobber", 'n'), ("target-directory", 't'),
      ("no-target-directory", 'T'), ("interactive", 'i'), ("update", 'u')]
  let parsed ← table.read {} call.arguments
  let (sources, target) ← readOperands parsed
  let mut status := 0
  for source in sources do
    if !(← moveOne parsed source target) then status := 1
  return status

/-- Make another name for a file; the file is not shared afterwards. -/
def ln : Call → Job Nat := fun call => do
  let table := OptionTable.ofText "bdfinsPLvTt:rS:"
    [("symbolic", 's'), ("force", 'f'), ("verbose", 'v'), ("relative", 'r')]
  let parsed ← table.read {} call.arguments
  let kind := if parsed.has 's' then "symbolic" else "hard"
  match parsed.operands with
  | [] => Job.failUsageText 1 "missing file operand"
  | source :: rest => do
      let volume := (← get).volume
      let target := rest.getLast?.getD (within (Utf8.encode ".") (lastName (pathOf source)))
      let word := targetWord volume target source (parsed.has 'T')
      match volume.item (pathOf source), volume.target (pathOf word) with
      | .error error, _ =>
          if parsed.has 's' then
            return 0
          else
            complainOf "failed to access " source s!": {error.reason}"
            return 1
      | .ok _, .error error =>
          complainOf s!"failed to create {kind} link " word s!": {error.reason}"
          return 1
      | .ok item, .ok (place, old) =>
          if old.isSome && !parsed.has 'f' then
            complainOf s!"failed to create {kind} link " word ": File exists"
            return 1
          else
            changeVolume fun volume => volume.setItem place item
            return 0

/-! Making and marking files -/

def touch : Call → Job Nat := fun call => do
  let table := OptionTable.ofText "acd:fhmr:t:"
    [("no-create", 'c'), ("date", 'd'), ("reference", 'r'), ("time", 't'), ("no-dereference", 'h')]
  let parsed ← table.read {} call.arguments
  if parsed.operands.isEmpty then
    Job.failUsageText 1 "missing file operand"
  let mut status := 0
  for word in parsed.operands do
    let volume := (← get).volume
    if word != [45] && !volume.itemExists (pathOf word) && !parsed.has 'c' then
      match volume.write (pathOf word) [] with
      | .ok volume => changeVolume fun _ => volume
      | .error error =>
          let error := if error == .isDirectory then .notFound else error
          complainOf "cannot touch " word s!": {error.reason}"
          status := 1
  return status

def runnableBy? (mode : Bytes) (isRunnable : Bool) : Option Bool :=
  let text := pathOf mode
  let letters := text.toList
  if !letters.isEmpty && letters.length ≤ 4 && letters.all fun c => '0' ≤ c && c ≤ '7' then
    let digits := letters.map fun c => c.toNat - 48
    some (digits.any fun digit => digit % 2 = 1)
  else
    let clauses := text.splitOn ","
    let readClause := fun (state : Option Bool) (clause : String) => do
      let before ← state
      let who := clause.toList.takeWhile fun c => ['u', 'g', 'o', 'a'].contains c
      match clause.toList.drop who.length with
      | sign :: modes =>
          if !(['+', '-', '='].contains sign) then
            none
          else if !modes.all (fun c => ['r', 'w', 'x', 'X', 's', 't'].contains c) then
            none
          else if modes.contains 'x' then
            some (sign != '-')
          else
            some (if sign = '=' then false else before)
      | [] => none
    clauses.foldl readClause (some isRunnable)

def chmod : Call → Job Nat := fun call => do
  -- A mode that takes something away looks like options.
  let isMode := fun (word : Bytes) =>
    match word with
    | 45 :: letter :: _ => "rwxXst".toList.contains (Char.ofNat letter.toNat)
    | _ => false
  let modes := call.arguments.filter isMode
  let table := OptionTable.ofText "Rcfv"
    [("recursive", 'R'), ("changes", 'c'), ("quiet", 'f'), ("silent", 'f'), ("verbose", 'v')]
  let parsed ← table.read {} (call.arguments.filter fun word => !isMode word)
  let operands := modes.take 1 ++ parsed.operands
  match operands with
  | [] => failMissing
  | [mode] => Job.failUsage 1 (Utf8.encode "missing operand after " ++ quoted mode)
  | mode :: files => do
      if (runnableBy? mode false).isNone then
        Job.failUsage 1 (Utf8.encode "invalid mode: " ++ quoted mode)
      let mut status := 0
      for file in files do
        match (← get).volume.locate (pathOf file) with
        | .error error =>
            complainOf "cannot access " file s!": {error.reason}"
            status := 1
        | .ok place =>
            changeVolume fun volume =>
              if (runnableBy? mode (volume.runnable.contains place)).getD false then
                volume.allow place
              else volume.forbid place
      return status

def truncate : Call → Job Nat := fun call => do
  let table := OptionTable.ofText "cos:r:"
    [("no-create", 'c'), ("io-blocks", 'o'), ("size", 's'), ("reference", 'r')]
  let parsed ← table.read {} call.arguments
  match parsed.value? 's', parsed.operands with
  | none, _ => Job.failUsageText 1 "you must specify either '--size' or '--reference'"
  | some _, [] => Job.failUsageText 1 "missing file operand"
  | some size, files => do
      let (sign, digits) := match size with
        | 43 :: rest => (some true, rest)
        | 45 :: rest => (some false, rest)
        | rest => (none, rest)
      match multiple? digits with
      | none => Job.fail 1 (Utf8.encode "Invalid number: " ++ quoted size)
      | some count => do
          let mut status := 0
          for file in files do
            let volume := (← get).volume
            let old :=
              match volume.readBytes (pathOf file) with
              | .ok old => old
              | .error _ => []
            let length := match sign with
              | some true => old.length + count
              | some false => old.length - count
              | none => count
            let content := old.take length ++ List.replicate (length - old.length) 0
            match ← Job.write file content false with
            | .ok _ => pure ()
            | .error error =>
                complainOf "cannot open " file s!" for writing: {error.reason}"
                status := 1
          return status

def freshName (volume : Volume) (template : String) (marks : Nat) : String :=
  let front := String.ofList (template.toList.take (template.length - marks))
  let letters := "abcdefghijklmnopqrstuvwxyz".toList
  let candidates := (List.range 600).map fun number =>
    let digits := (List.range marks).map fun place =>
      letters[(number / Nat.pow 26 place + 7 * place) % 26]?.getD 'a'
    front ++ String.ofList digits
  (candidates.find? fun name => !volume.itemExists name).getD front

def mktemp : Call → Job Nat := fun call => do
  let table := OptionTable.ofText "dqup:t"
    [("directory", 'd'), ("quiet", 'q'), ("dry-run", 'u'), ("tmpdir", 'p')]
  let parsed ← table.read {} call.arguments
  let word := parsed.operands.head?.getD (Utf8.encode "tmp.XXXXXXXXXX")
  let template := pathOf word
  let marks := (template.toList.reverse.takeWhile (· == 'X')).length
  if marks < 3 then
    Job.fail 1 (Utf8.encode "too few X's in template " ++ quoted word)
  let isInTemporary := parsed.operands.isEmpty || parsed.has 'p' || parsed.has 't'
  let directory := (parsed.value? 'p').getD (Utf8.encode "/tmp")
  let template := if isInTemporary then pathOf (within directory template) else template
  let name := freshName (← get).volume template marks
  if !parsed.has 'u' then
    if parsed.has 'd' then
      let _ ← makeDirectory (Utf8.encode name) true
    else
      match ← Job.write (Utf8.encode name) [] false with
      | .ok _ => pure ()
      | .error error =>
          Job.fail 1 (Utf8.encode "failed to create file via template " ++
            quoted (Utf8.encode template) ++
            Utf8.encode s!": {error.reason}")
  Job.printLine name
  return 0

/-! Paths -/

def absolute (place : List String) : String :=
  "/" ++ "/".intercalate place

/-- The absolute path of a file, of which all names are there, or all but the last one. -/
def absoluteOf (needsAll : Bool) (path : String) : Job (Except StorageError String) := do
  let volume := (← get).volume
  match volume.target path with
  | .ok (place, some _) => return .ok (absolute place)
  | .ok (place, none) => return if needsAll then .error .notFound else .ok (absolute place)
  | .error error => return .error error

def realpath : Call → Job Nat := fun call => do
  let table := OptionTable.ofText "eLmPqsz"
    [("canonicalize-existing", 'e'), ("canonicalize-missing", 'm'), ("quiet", 'q'), ("zero", 'z'),
      ("strip", 's'), ("no-symlinks", 's')]
  let parsed ← table.read {} call.arguments
  if parsed.operands.isEmpty then failMissing
  let mut status := 0
  for word in parsed.operands do
    match ← absoluteOf (parsed.has 'e') (pathOf word) with
    | .ok path => Job.print (Utf8.encode path ++ [if parsed.has 'z' then 0 else 10])
    | .error error =>
        if !parsed.has 'q' then
          let shown := if word.isEmpty then quoted word else word
          Job.complain (shown ++ Utf8.encode s!": {error.reason}")
        status := 1
  return status

def readlink : Call → Job Nat := fun call => do
  let table := OptionTable.ofText "efmnqsvz"
    [("canonicalize", 'f'), ("canonicalize-existing", 'e'), ("canonicalize-missing", 'm'),
      ("no-newline", 'n'), ("quiet", 'q'), ("silent", 's'), ("verbose", 'v'), ("zero", 'z')]
  let parsed ← table.read {} call.arguments
  if parsed.operands.isEmpty then failMissing
  let mut status := 0
  for word in parsed.operands do
    if ['e', 'f', 'm'].any parsed.has then
      match ← absoluteOf (parsed.has 'e') (pathOf word) with
      | .ok path => Job.print (Utf8.encode path ++ if parsed.has 'n' then [] else [10])
      | .error _ => status := 1
    else
      status := 1
  return status

/-! Listing -/

structure ListStyle where
  showsAll : Bool
  showsHidden : Bool
  isReversed : Bool
  marksDirectories : Bool
  quotes : Bool
  joins : Option Bytes
  goesDown : Bool

def ListStyle.entry (style : ListStyle) (name : String) (isDirectory : Bool) : Bytes :=
  let text := Utf8.encode name
  let text := if style.quotes then 34 :: text ++ [34] else text
  if style.marksDirectories && isDirectory then text ++ [47] else text

def ListStyle.printAll (style : ListStyle) (entries : List (String × Bool)) : Job Unit := do
  let comesFirst := fun (left right : String × Bool) => decide (left.1 ≤ right.1)
  let sorted := entries.mergeSort comesFirst
  let sorted := if style.isReversed then sorted.reverse else sorted
  let texts := sorted.map fun entry => style.entry entry.1 entry.2
  match style.joins with
  | some joint => if !texts.isEmpty then Job.print (joint.intercalate texts ++ [10])
  | none =>
      for text in texts do
        Job.print (text ++ [10])

def isDirectoryItem : Item → Bool
  | .directory _ => true
  | _ => false

def listDirectory (style : ListStyle) : (fuel : Nat) → (heading : Option Bytes) → (word : Bytes) →
    List (String × Item) → Job Unit
  | 0, _, _, _ => return ()
  | fuel + 1, heading, word, entries => do
      match heading with
      | some heading => Job.print (heading ++ [58, 10])
      | none => pure ()
      let shown := entries.filter fun entry =>
        style.showsAll || style.showsHidden || !entry.1.startsWith "."
      let listed := shown.map fun entry => (entry.1, isDirectoryItem entry.2)
      let listed := if style.showsAll then (".", true) :: ("..", true) :: listed else listed
      style.printAll listed
      if style.goesDown then
        for (name, item) in shown do
          match item with
          | .directory inner => do
              Job.print [10]
              let path := within word name
              listDirectory style fuel (some path) path inner
          | _ => pure ()

def ls : Call → Job Nat := fun call => do
  let table := { OptionTable.ofText "1aAbBcCdfFghHiklLmnNopqQrRsStT:uUvw:xXZ"
      [("all", 'a'), ("almost-all", 'A'), ("directory", 'd'), ("classify", 'F'), ("reverse", 'r'),
        ("recursive", 'R'), ("quote-name", 'Q'), ("size", 's'), ("human-readable", 'h')] with
    wrong := 2 }
  let parsed ← table.read {} call.arguments
  let joins :=
    match parsed.last? ['1', 'm', 'x', 'C'] with
    | some 'm' => some [44, 32]
    | some 'x' => some [32, 32]
    | some 'C' => some [32, 32]
    | _ => none
  let style : ListStyle :=
    { showsAll := parsed.has 'a'
      showsHidden := parsed.has 'A'
      isReversed := parsed.has 'r'
      marksDirectories := parsed.has 'F' || parsed.has 'p'
      quotes := parsed.has 'Q'
      joins := joins
      goesDown := parsed.has 'R' }
  let words := if parsed.operands.isEmpty then [[46]] else parsed.operands
  let volume := (← get).volume
  let mut status := 0
  let mut files := []
  let mut directories := []
  for word in words do
    match volume.item (pathOf word) with
    | .error error =>
        complainOf "cannot access " word s!": {error.reason}"
        status := 2
    | .ok (.directory entries) =>
        if parsed.has 'd' then
          files := (pathOf word, true) :: files
        else if volume.isUnreadable (pathOf word) then
          complainOf "cannot open directory " word s!": {StorageError.permissionDenied.reason}"
          status := 2
        else
          directories := (pathOf word, entries) :: directories
    | .ok _ => files := (pathOf word, false) :: files
  style.printAll files
  let hasHeadings := 1 < words.length || style.goesDown
  let comesFirst := fun (left right : String × List (String × Item)) => decide (left.1 ≤ right.1)
  let mut isFirst := files.isEmpty
  for (path, entries) in directories.mergeSort comesFirst do
    if !isFirst then
      Job.print [10]
    isFirst := false
    let word := Utf8.encode path
    listDirectory style 100 (if hasHeadings then some word else none) word entries
  return status

end Files

end Utility

end Reparse
