import Reparse.Expectation.Table

namespace Reparse

inductive Verdict where
  | passed
  | expectedFailure (outcome : Outcome)
deriving DecidableEq

inductive Mismatch where
  | unexpectedFailure (id : String) (got : Outcome)
  | wrongCause (id : String) (got want : Outcome)
  | unexpectedPass (id : String)
deriving DecidableEq

namespace Mismatch

def id : Mismatch → String
  | .unexpectedFailure id _ => id
  | .wrongCause id _ _ => id
  | .unexpectedPass id => id

def code : Mismatch → String
  | .unexpectedFailure .. => "E-UNEXPECTED-FAIL"
  | .wrongCause .. => "E-WRONG-CAUSE"
  | .unexpectedPass _ => "E-UNEXPECTED-PASS"

def message : Mismatch → String
  | .unexpectedFailure id got => s!"{id}: unexpectedly failed with cause {got.code}"
  | .wrongCause id got want =>
      s!"{id}: failed as expected but wrong cause: got {got.code}, want {want.code}"
  | .unexpectedPass id => s!"{id}: unexpectedly passed"

end Mismatch

/-- A tracked failure counts as met only when its cause is the recorded one. -/
def ExpectationTable.judge (table : ExpectationTable) (id : String) (outcome : Outcome) :
    Except Mismatch Verdict :=
  match table.expected? id with
  | none =>
      if outcome = .success then .ok .passed else .error (.unexpectedFailure id outcome)
  | some want =>
      if outcome = .success then
        .error (.unexpectedPass id)
      else if outcome = want then
        .ok (.expectedFailure outcome)
      else
        .error (.wrongCause id outcome want)

end Reparse
