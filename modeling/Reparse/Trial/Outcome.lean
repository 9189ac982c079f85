namespace Reparse

/-- The first stage of a trial that failed, or success; later stages are larger. -/
inductive Outcome where
  | parseFailed
  | parseExplicitFailed
  | explicitTreesNotEqual
  | generateFailed
  | generatedNotParsed
  | generatedTreesNotEqual
  | success
deriving DecidableEq, Inhabited

namespace Outcome

def all : List Outcome :=
  [.parseFailed, .parseExplicitFailed, .explicitTreesNotEqual, .generateFailed,
    .generatedNotParsed, .generatedTreesNotEqual, .success]

def code : Outcome → String
  | .parseFailed => "PARSE_FAILED"
  | .parseExplicitFailed => "PARSE_EXPLICIT_FAILED"
  | .explicitTreesNotEqual => "EXPLICIT_TREES_NOT_EQUAL"
  | .generateFailed => "GENERATE_FAILED"
  | .generatedNotParsed => "GENERATED_NOT_PARSED"
  | .generatedTreesNotEqual => "GENERATED_TREES_NOT_EQUAL"
  | .success => "SUCCESS"

def description : Outcome → String
  | .parseFailed => "failed to parse"
  | .parseExplicitFailed => "explicit version failed to parse"
  | .explicitTreesNotEqual => "explicit tree not equal to regular tree"
  | .generateFailed => "failed to generate"
  | .generatedNotParsed => "generated source failed to parse"
  | .generatedTreesNotEqual => "generated tree differs from parsed tree"
  | .success => "success!"

def rank : Outcome → Nat
  | .parseFailed => 0
  | .parseExplicitFailed => 1
  | .explicitTreesNotEqual => 2
  | .generateFailed => 3
  | .generatedNotParsed => 4
  | .generatedTreesNotEqual => 5
  | .success => 6

def ofCode? (code : String) : Option Outcome :=
  all.find? fun outcome => outcome.code == code

def unknownCodeMessage (code : String) : String :=
  s!"unknown outcome code `{code}`"

@[simp] theorem ofCode?_code (outcome : Outcome) : ofCode? outcome.code = some outcome := by
  cases outcome <;> decide

end Outcome

end Reparse
