import Reparse.Utility.Options

namespace Reparse

namespace Utility

structure Start where
  words : List Bytes
  environment : List (String × Bytes)
  refusal : String
  getsInput : Bool := true

inductive Plan where
  | done (status : Nat)
  | start (program : Start)
  | startAll (programs : List Start)

namespace Starter

def quoting (name : Bytes) : String :=
  s!"'{Utf8.decodeLenient name}'"

def env : Call → Job Plan := fun call => do
  let table := { OptionTable.ofText "iu:0C:S:v"
      [("ignore-environment", 'i'), ("unset", 'u'), ("null", '0'), ("chdir", 'C'),
        ("split-string", 'S'), ("debug", 'v')] with
    wrong := 125
    isStrict := true }
  let parsed ← table.read {} call.arguments
  let (dashes, words) :=
    (parsed.operands.takeWhile (· == [45]), parsed.operands.dropWhile (· == [45]))
  let start := if parsed.has 'i' || !dashes.isEmpty then [] else call.environment
  let unset := (parsed.values 'u').map Utf8.decodeLenient
  let start := start.filter fun entry => !unset.contains entry.1
  let isSetting := fun (word : Bytes) => word.contains 61
  let settings := (words.takeWhile isSetting).map fun word =>
    let name := word.takeWhile (· != 61)
    (Utf8.decodeLenient name, word.drop (name.length + 1))
  let environment := settings.foldl
    (fun environment setting =>
      if environment.any fun entry => entry.1 = setting.1 then
        environment.map fun entry => if entry.1 = setting.1 then setting else entry
      else
        environment ++ [setting])
    start
  match words.dropWhile isSetting with
  | [] =>
      for (name, value) in environment do
        Job.print (Utf8.encode (name ++ "=") ++ value ++ [if parsed.has '0' then 0 else 10])
      return .done 0
  | command => return .start ⟨command, environment, quoting (command.head?.getD []), true⟩

def isDuration (word : Bytes) : Bool :=
  let digits := if (word.getLast?).any [115, 109, 104, 100].contains then word.dropLast else word
  !digits.isEmpty && digits.all (fun b => b = 46 || (48 ≤ b && b ≤ 57)) && digits != [46]

def timeout : Call → Job Plan := fun call => do
  let table := { OptionTable.ofText "k:s:v"
      [("kill-after", 'k'), ("signal", 's'), ("verbose", 'v'), ("preserve-status", 'v'),
        ("foreground", 'v')] with
    wrong := 125
    isStrict := true }
  let parsed ← table.read {} call.arguments
  match parsed.operands with
  | duration :: first :: rest =>
      if isDuration duration then
        let refusal := s!"failed to run command {quoting first}"
        return .start ⟨first :: rest, call.environment, refusal, true⟩
      else
        Job.failUsage 125 (Utf8.encode "invalid time interval '" ++ duration ++ [39])
  | _ => do
      Job.mutter (Utf8.encode "Try 'timeout --help' for more information.\n")
      return .done 125

def plainly (table : OptionTable) (refusal : Bytes → String) (noWords : Job Plan) :
    Call → Job Plan :=
  fun call => do
    let parsed ← table.read {} call.arguments
    match parsed.operands with
    | [] => noWords
    | first :: rest => return .start ⟨first :: rest, call.environment, refusal first, true⟩

def nohup : Call → Job Plan :=
  plainly { letters := [], wrong := 125, isStrict := true }
    (fun name => s!"failed to run command {quoting name}")
    (Job.failUsageText 125 "missing operand")

def nice : Call → Job Plan :=
  plainly { OptionTable.ofText "n:" [("adjustment", 'n')] with wrong := 125, isStrict := true }
    quoting (do
      Job.printLine "0"
      return .done 0)

def setsid : Call → Job Plan :=
  let table := OptionTable.ofText "cfw" [("ctty", 'c'), ("fork", 'f'), ("wait", 'w')]
  plainly { table with isStrict := true }
    (fun name => s!"failed to execute {Utf8.decodeLenient name}")
    (Job.failUsageText 1 "no command specified")

/-- The words of a text with quotes and backslashes.  A word ends at a line feed and, if `splits`,
at a blank; the word that has begun is given backwards.  A quote without an end is an error. -/
def wordsOf (splits : Bool) (quote : Option UInt8) (word : Option Bytes) :
    Bytes → Except UInt8 (List Bytes)
  | [] =>
      match quote with
      | some quote => .error quote
      | none => .ok (word.map List.reverse).toList
  | b :: rest =>
      match quote with
      | some mark =>
          if b = mark then wordsOf splits none word rest
          else if b = 10 then .error mark
          else wordsOf splits quote (some (b :: word.getD [])) rest
      | none =>
          if b = 34 || b = 39 then
            wordsOf splits (some b) (some (word.getD [])) rest
          else if b = 92 then
            match rest with
            | c :: rest => wordsOf splits none (some (c :: word.getD [])) rest
            | [] => .ok (word.map List.reverse).toList
          else if b = 10 || (splits && (b = 32 || b = 9)) then
            match word with
            | some word => (wordsOf splits none none rest).map (word.reverse :: ·)
            | none => wordsOf splits none none rest
          else
            wordsOf splits none (some (b :: word.getD [])) rest

def replaceAll (mark value : Bytes) : Bytes → Bytes
  | [] => []
  | b :: rest =>
      if !mark.isEmpty && mark.isPrefixOf (b :: rest) then
        value ++ replaceAll mark value ((b :: rest).drop mark.length)
      else
        b :: replaceAll mark value rest
termination_by word => word.length
decreasing_by
  · rename_i h
    simp only [Bool.and_eq_true, Bool.not_eq_true', List.isEmpty_eq_false_iff] at h
    have := List.length_pos_iff.mpr h.1
    simp only [List.length_drop, List.length_cons]
    omega
  · simp

def chunksOf (size : Nat) (fuel : Nat) (words : List Bytes) : List (List Bytes) :=
  match fuel, words with
  | 0, _ => []
  | _, [] => []
  | fuel + 1, words => words.take size :: chunksOf size fuel (words.drop size)

def xargs : Call → Job Plan := fun call => do
  let table := { OptionTable.ofText "0rtpxn:L:I:i::d:a:P:s:E:e::l::"
      [("null", '0'), ("no-run-if-empty", 'r'), ("verbose", 't'), ("max-args", 'n'),
        ("max-lines", 'L'), ("replace", 'i'), ("delimiter", 'd'), ("arg-file", 'a'),
        ("max-procs", 'P'), ("max-chars", 's'), ("exit", 'x'), ("interactive", 'p')] with
    isStrict := true }
  let parsed ← table.read {} call.arguments
  let text ←
    match parsed.value? 'a' with
    | some file =>
        match ← Job.read file with
        | .ok text => pure text
        | .error error => Job.fail 1 (Utf8.encode "Cannot open input file '" ++ file ++
            Utf8.encode s!"': {error.reason}")
    | none => Job.takeInput
  let mark :=
    match parsed.value? 'I', parsed.value? 'i' with
    | some mark, _ => some mark
    | none, some mark => some (if mark.isEmpty then [123, 125] else mark)
    | none, none => none
  let delimiter? := if parsed.has '0' then some 0 else (parsed.value? 'd').map fun word =>
    match word with
    | [92, 110] => 10
    | [92, 116] => 9
    | [92, 48] => 0
    | word => word.head?.getD 10
  let complainQuote := fun (quote : UInt8) =>
    let kind := if quote = 34 then "double" else "single"
    let advice := "by default quotes are special to xargs unless you use the -0 option"
    (Job.failText 1 s!"unmatched {kind} quote; {advice}" : Job (List (List Bytes)))
  let linesWanted := (parsed.value? 'L').bind decimal?
  -- The words of each line, or all of them in one list.
  let lines ←
    match delimiter? with
    | some delimiter => pure [partsBefore delimiter text]
    | none =>
        if mark.isSome || linesWanted.isSome then do
          let mut found := []
          for line in linesOf text do
            let line := line.dropWhile fun b => b = 32 || b = 9
            match wordsOf mark.isNone none none line with
            | .error quote =>
                let _ ← complainQuote quote
            | .ok [] => pure ()
            | .ok words => found := words :: found
          pure found.reverse
        else
          match wordsOf true none none text with
          | .error quote => complainQuote quote
          | .ok words => pure [words]
  let command := if parsed.operands.isEmpty then [Utf8.encode "echo"] else parsed.operands
  let runs : List (List Bytes) :=
    match mark with
    | some mark =>
        lines.flatten.map fun word => command.map (replaceAll mark word)
    | none =>
        match (parsed.value? 'n').bind decimal?, linesWanted with
        | some count, _ =>
            let groups := chunksOf (max count 1) (lines.flatten.length + 1) lines.flatten
            groups.map (command ++ ·)
        | none, some count =>
            let rec group (fuel : Nat) (lines : List (List Bytes)) : List (List Bytes) :=
              match fuel, lines with
              | 0, _ => []
              | _, [] => []
              | fuel + 1, lines =>
                  (lines.take (max count 1)).flatten :: group fuel (lines.drop (max count 1))
            (group (lines.length + 1) lines).map (command ++ ·)
        | none, none => if lines.flatten.isEmpty then [] else [command ++ lines.flatten]
  let runs := if runs.isEmpty && mark.isNone && !parsed.has 'r' then [command] else runs
  if parsed.has 't' then
    for run in runs do
      Job.mutter (([32] : Bytes).intercalate run ++ [10])
  let name := Utf8.decodeLenient (command.head?.getD [])
  return .startAll (runs.map fun words => ⟨words, call.environment, name, false⟩)

def find? (name : String) : Option (Call → Job Plan) :=
  match name with
  | "env" => some env
  | "nice" => some nice
  | "nohup" => some nohup
  | "setsid" => some setsid
  | "timeout" => some timeout
  | "xargs" => some xargs
  | _ => none

end Starter

end Utility

end Reparse
