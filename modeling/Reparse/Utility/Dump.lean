import Reparse.Utility.Options

namespace Reparse

namespace Utility

namespace Dump

structure Form where
  size : Nat
  width : Nat
  shown : Bytes → Bytes

def numberOf (bytes : Bytes) : Nat :=
  bytes.foldr (fun b total => b.toNat + 256 * total) 0

def digitsOf (base width value : Nat) : Bytes :=
  let digits := Nat.toDigits base value
  Utf8.encode (String.ofList (List.replicate (width - digits.length) '0' ++ digits))

def characterOf (b : UInt8) : Bytes :=
  match b with
  | 0 => Utf8.encode "\\0"
  | 7 => Utf8.encode "\\a"
  | 8 => Utf8.encode "\\b"
  | 9 => Utf8.encode "\\t"
  | 10 => Utf8.encode "\\n"
  | 11 => Utf8.encode "\\v"
  | 12 => Utf8.encode "\\f"
  | 13 => Utf8.encode "\\r"
  | b => if 32 ≤ b && b < 127 then [b] else digitsOf 8 3 b.toNat

def byteNames : List String :=
  ["nul", "soh", "stx", "etx", "eot", "enq", "ack", "bel", "bs", "ht", "nl", "vt", "ff", "cr", "so",
    "si", "dle", "dc1", "dc2", "dc3", "dc4", "nak", "syn", "etb", "can", "em", "sub", "esc", "fs",
    "gs", "rs", "us", "sp"]

def nameOf (b : UInt8) : Bytes :=
  let b := b % 128
  if b = 127 then Utf8.encode "del"
  else match byteNames[b.toNat]? with
    | some name => Utf8.encode name
    | none => [b]

def widthOf (widths : List (Nat × Nat)) (size : Nat) : Nat :=
  (widths.lookup size).getD 0

def octal (size : Nat) : Form :=
  let width := widthOf [(1, 3), (2, 6), (4, 11), (8, 22)] size
  ⟨size, width, fun bytes => digitsOf 8 width (numberOf bytes)⟩

def hexadecimal (size : Nat) : Form :=
  ⟨size, 2 * size, fun bytes => digitsOf 16 (2 * size) (numberOf bytes)⟩

def unsigned (size : Nat) : Form :=
  ⟨size, widthOf [(1, 3), (2, 5), (4, 10), (8, 20)] size, fun bytes => textOf (numberOf bytes)⟩

def signed (size : Nat) : Form :=
  let limit := Nat.pow 256 size
  let shown := fun (bytes : Bytes) =>
    let value := numberOf bytes
    if 2 * value < limit then textOf value else 45 :: textOf (limit - value)
  ⟨size, widthOf [(1, 4), (2, 6), (4, 11), (8, 20)] size, shown⟩

def characters : Form :=
  ⟨1, 3, fun bytes => bytes.flatMap characterOf⟩

def names : Form :=
  ⟨1, 3, fun bytes => bytes.flatMap nameOf⟩

def forms : (fuel : Nat) → List Char → Except Char (List Form)
  | 0, _ => .ok []
  | _, [] => .ok []
  | fuel + 1, letter :: rest =>
      let (size, after) :=
        match rest with
        | 'C' :: after => (1, after)
        | 'S' :: after => (2, after)
        | 'I' :: after => (4, after)
        | 'L' :: after => (8, after)
        | c :: after => if c.isDigit then (c.toNat - 48, after) else (4, rest)
        | [] => (4, [])
      let go := fun (form : Form) (rest : List Char) => do
        return form :: (← forms fuel rest)
      match letter with
      | 'c' => go characters rest
      | 'a' => go names rest
      | 'x' => go (hexadecimal size) after
      | 'o' => go (octal size) after
      | 'u' => go (unsigned size) after
      | 'd' => go (signed size) after
      | c => .error c

def ofLetter? : Char → Option Form
  | 'a' => some names
  | 'b' => some (octal 1)
  | 'c' => some characters
  | 'd' => some (unsigned 2)
  | 'i' => some (signed 4)
  | 'l' => some (signed 8)
  | 'o' => some (octal 2)
  | 's' => some (signed 2)
  | 'x' => some (hexadecimal 2)
  | _ => none

def groups (size : Nat) : (fuel : Nat) → Bytes → List Bytes
  | 0, _ => []
  | _, [] => []
  | fuel + 1, bytes => bytes.take size :: groups size fuel (bytes.drop size)

/-- The bytes of one line in a notation, with blanks that make all notations equally wide. -/
def lineIn (form : Form) (perLine wholeWidth : Nat) (bytes : Bytes) : Bytes :=
  let fields := perLine / form.size
  let extra := wholeWidth - fields * form.width
  let parts := groups form.size (bytes.length + 1) bytes
  let numbered := (List.range parts.length).zip parts
  numbered.flatMap fun (place, part) =>
    let before := extra * (fields - place) / fields
    let after := extra * (fields - place - 1) / fields
    padLeft (form.width + (before - after)) (form.shown part)

def addressOf (radix : Char) (address : Nat) : Bytes :=
  match radix with
  | 'n' => []
  | 'x' => digitsOf 16 6 address
  | 'd' => digitsOf 10 7 address
  | _ => digitsOf 8 7 address

/-- All lines; lines that repeat the one before are replaced by one star. -/
def linesFrom (render : Bytes → List Bytes) (address : Nat → Bytes) (repeats : Bool) :
    (before : Option Bytes) → (starred : Bool) → (place : Nat) → List Bytes → List Bytes
  | _, _, place, [] => if (address 0).isEmpty then [] else [address place]
  | before, starred, place, part :: rest =>
      let next := place + part.length
      if !repeats && before == some part && !rest.isEmpty then
        let more := linesFrom render address repeats before true next rest
        if starred then more else [42] :: more
      else
        let rows := render part
        let blank := List.replicate (address 0).length 32
        let first := (rows.head?.getD [])
        let shown := (address place ++ first) :: rows.tail.map fun row => blank ++ row
        shown ++ linesFrom render address repeats (some part) false next rest

def od : Call → Job Nat := fun call => do
  let table := OptionTable.ofText "A:j:N:t:vw::abcdilosxS:"
    [("address-radix", 'A'), ("skip-bytes", 'j'), ("read-bytes", 'N'), ("format", 't'),
      ("output-duplicates", 'v'), ("width", 'w'), ("strings", 'S')]
  let parsed ← table.read {} call.arguments
  let mut chosen := []
  for (letter, value) in parsed.options do
    match letter, ofLetter? letter with
    | 't', _ =>
        match forms 100 (Utf8.decodeLenient value).toList with
        | .ok more => chosen := chosen ++ more
        | .error c =>
            let text := Utf8.decodeLenient value
            Job.failText 1 s!"invalid character '{c}' in type string '{text}'"
    | _, some form => chosen := chosen ++ [form]
    | _, none => pure ()
  if chosen.isEmpty then
    chosen := [octal 2]
  let perLine :=
    match parsed.value? 'w' with
    | some digits => (decimal? digits).getD 32
    | none => 16
  let radix := ((parsed.value? 'A').bind (·.head?)).map fun b => Char.ofNat b.toNat
  let skipped := ((parsed.value? 'j').bind multiple?).getD 0
  let (found, failures) ← Job.readAll parsed.operands Job.plainly
  if found.isEmpty && 0 < failures then
    return 1
  let content := (found.flatMap (·.2)).drop skipped
  let content :=
    match (parsed.value? 'N').bind multiple? with
    | some most => content.take most
    | none => content
  let forms := chosen
  let widthFor := fun (form : Form) => perLine / form.size * (form.width + 1)
  let wholeWidth := forms.foldl (fun most form => max most (widthFor form)) 0
  let render := fun (bytes : Bytes) => forms.map fun form => lineIn form perLine wholeWidth bytes
  let lines := linesFrom render (addressOf (radix.getD 'o')) (parsed.has 'v') none false skipped
    (groups perLine (content.length + 1) content)
  for line in lines do
    Job.print (line ++ [10])
  return if failures = 0 then 0 else 1

/-! Letters for bits -/

structure Alphabet where
  letters : Array UInt8
  bits : Nat
  group : Nat

def base64Alphabet : Alphabet where
  letters := (Utf8.encode
    "ABCDEFGHIJKLMNOPQRSTUVWXYZabcdefghijklmnopqrstuvwxyz0123456789+/").toArray
  bits := 6
  group := 4

def base32Alphabet : Alphabet where
  letters := (Utf8.encode "ABCDEFGHIJKLMNOPQRSTUVWXYZ234567").toArray
  bits := 5
  group := 8

namespace Alphabet

def encodeGroup (alphabet : Alphabet) (bytes : Bytes) : Bytes :=
  let size := alphabet.bits * alphabet.group / 8
  let value := bytes.foldl (fun (total : Nat) b => total * 256 + b.toNat) 0
  let value := value * Nat.pow 256 (size - bytes.length)
  let used := (8 * bytes.length + alphabet.bits - 1) / alphabet.bits
  let base := Nat.pow 2 alphabet.bits
  (List.range alphabet.group).map fun place =>
    if place < used then
      let digit := value / Nat.pow base (alphabet.group - 1 - place) % base
      alphabet.letters[digit]?.getD 61
    else
      61

def encode (alphabet : Alphabet) (bytes : Bytes) : Bytes :=
  let size := alphabet.bits * alphabet.group / 8
  (groups size (bytes.length + 1) bytes).flatMap alphabet.encodeGroup

def decodeGroup (alphabet : Alphabet) (group : Bytes) : Bytes × Bool :=
  let letters := group.takeWhile fun b => b != 61 && alphabet.letters.contains b
  let padding := group.drop letters.length
  let base := Nat.pow 2 alphabet.bits
  let value := letters.foldl
    (fun (total : Nat) b => total * base + (alphabet.letters.findIdx? (· == b)).getD 0)
    0
  let value := value * Nat.pow base (alphabet.group - letters.length)
  let size := alphabet.bits * alphabet.group / 8
  let count := alphabet.bits * letters.length / 8
  let bytes := (List.range count).map fun place => (value / Nat.pow 256 (size - 1 - place)).toUInt8
  let isWhole := group.length = alphabet.group && padding.all (· == 61) && 0 < count &&
    (8 * count + alphabet.bits - 1) / alphabet.bits = letters.length
  (bytes, isWhole)

def decode (alphabet : Alphabet) : List Bytes → Bytes × Bool
  | [] => ([], true)
  | group :: rest =>
      match alphabet.decodeGroup group with
      | (bytes, false) => (bytes, false)
      | (bytes, true) =>
          let (more, isWhole) := decode alphabet rest
          (bytes ++ more, isWhole)

end Alphabet

def letterProgram (alphabet : Alphabet) : Call → Job Nat := fun call => do
  let table := OptionTable.ofText "diw:"
    [("decode", 'd'), ("ignore-garbage", 'i'), ("wrap", 'w')]
  let parsed ← table.read {} call.arguments
  match parsed.operands with
  | _ :: extra :: _ => Job.failUsage 1 (Utf8.encode "extra operand '" ++ extra ++ [39])
  | _ => pure ()
  let width ←
    match parsed.value? 'w' with
    | none => pure 76
    | some digits =>
        match decimal? digits with
        | some width => pure width
        | none => Job.fail 1 (Utf8.encode "invalid wrap size: '" ++ digits ++ [39])
  let file := parsed.operands.head?.getD [45]
  match ← Job.read file with
  | .error error => Job.fail 1 (Job.plainly error file)
  | .ok content =>
      if parsed.has 'd' then
        let isKept := fun (b : UInt8) =>
          if parsed.has 'i' then b == 61 || alphabet.letters.contains b else b != 10
        let letters := content.filter isKept
        let (bytes, isWhole) := alphabet.decode (groups alphabet.group (letters.length + 1) letters)
        Job.print bytes
        if isWhole then return 0 else Job.failText 1 "invalid input"
      else
        let letters := alphabet.encode content
        if width = 0 then
          Job.print letters
        else
          for line in groups width (letters.length + 1) letters do
            Job.print (line ++ [10])
        return 0

end Dump

end Utility

end Reparse
