import Reparse.Trial.Outcome

namespace Reparse

inductive Level where
  | debug
  | info
  | warn
deriving DecidableEq

def Level.name : Level → String
  | .debug => "DEBUG"
  | .info => "INFO"
  | .warn => "WARN"

inductive Event where
  | toolFailed (program status : String)
  | staleExpectation (id : String) (expected : Outcome)
  | passed (id : String)
  | failedAsExpected (id : String) (outcome : Outcome)
  | rerunning (id code : String)
  | finished (total passed expectedFailures : Nat)
deriving DecidableEq

namespace Event

def level : Event → Level
  | .staleExpectation .. => .warn
  | .finished .. => .info
  | _ => .debug

def message : Event → String
  | .toolFailed .. => "tool reported failure"
  | .staleExpectation .. => "xfail entry matches no corpus case"
  | .passed _ => "passed"
  | .failedAsExpected .. => "failed as expected"
  | .rerunning .. => "re-running traced"
  | .finished .. => "round-trip run finished"

def details : Event → List (String × String)
  | .toolFailed program status => [("program", program), ("status", status)]
  | .staleExpectation id expected => [("case", id), ("expect", expected.code)]
  | .passed id => [("case", id)]
  | .failedAsExpected id outcome => [("case", id), ("outcome", outcome.code)]
  | .rerunning id code => [("case", id), ("code", code)]
  | .finished total passes expectedFailures =>
      [("total", toString total), ("passed", toString passes),
        ("expected_failures", toString expectedFailures)]

end Event

end Reparse
