import Reparse.Expectation.Verdict
import Reparse.Suite.Basic

/-!
Running the trials of a suite.

Trials run one after the other, and the first one that misses its expectation ends the run.  It is
then examined once more, for a report.
-/

namespace Reparse

structure Summary where
  total : Nat := 0
  passed : Nat := 0
  expectedFailures : Nat := 0
deriving DecidableEq

namespace Summary

def begin (summary : Summary) : Summary :=
  { summary with total := summary.total + 1 }

def meet (summary : Summary) : Verdict → Summary
  | .passed => { summary with passed := summary.passed + 1 }
  | .expectedFailure _ => { summary with expectedFailures := summary.expectedFailures + 1 }

end Summary

/-- The trial that ended a run: how it missed its expectation, what its second examination found,
and the counts up to it, itself included in the total. -/
structure RunFailure where
  mismatch : Mismatch
  finding : Finding
  summary : Summary
deriving DecidableEq

inductive RunError where
  | mismatch (failure : RunFailure)
  | suite (error : SuiteError)
deriving DecidableEq

namespace RunError

def code : RunError → String
  | .mismatch failure => failure.mismatch.code
  | .suite error => error.code

def message : RunError → String
  | .mismatch failure => failure.mismatch.message
  | .suite error => error.message

end RunError

structure Runner (σ : Type) where
  /-- The files as the tools have left them. -/
  volume : σ → Volume
  suite : Suite
  table : ExpectationTable
  chain : Toolchain σ

namespace Runner

variable {σ : Type}

def metEvent (id : String) : Verdict → Event
  | .passed => .passed id
  | .expectedFailure outcome => .failedAsExpected id outcome

def step (runner : Runner σ) (summary : Summary) (trial : Trial) :
    StateM (Session σ) (Except RunError Summary) := do
  let outcome ← trial.verify runner.chain
  match runner.table.judge trial.id outcome with
  | .ok verdict => do
      Session.tell (metEvent trial.id verdict)
      return .ok (summary.begin.meet verdict)
  | .error mismatch => do
      Session.tell (.rerunning trial.id mismatch.code)
      let finding ← trial.examine runner.chain true
      return .error (.mismatch ⟨mismatch, finding, summary.begin⟩)

def runFrom (runner : Runner σ) (summary : Summary) :
    List String → StateM (Session σ) (Except RunError Summary)
  | [] => do
      Session.tell (.finished summary.total summary.passed summary.expectedFailures)
      return .ok summary
  | id :: ids => do
      match runner.suite.load (runner.volume (← get).state) id with
      | .error error => return .error (.suite error)
      | .ok trial => do
          match ← runner.step summary trial with
          | .error error => return .error error
          | .ok summary => runner.runFrom summary ids

def runIds (runner : Runner σ) (ids : List String) :
    StateM (Session σ) (Except RunError Summary) :=
  runner.runFrom {} ids

def warnStale : List Expectation → StateM (Session σ) Unit
  | [] => return ()
  | entry :: rest => do
      Session.tell (.staleExpectation entry.id entry.expected)
      warnStale rest

def firstOccurrences : (seen : List String) → List String → List String
  | _, [] => []
  | seen, id :: ids =>
      if seen.contains id then
        firstOccurrences seen ids
      else
        id :: firstOccurrences (id :: seen) ids

/-- Run the chosen trials, each once, or all trials if none are chosen. -/
def run (runner : Runner σ) (chosen : List String) :
    StateM (Session σ) (Except RunError Summary) :=
  if chosen.isEmpty then do
    match runner.suite.ids (runner.volume (← get).state) with
    | .error error => return .error (.suite error)
    | .ok ids => do
        warnStale (runner.table.stale ids)
        runner.runIds ids
  else
    runner.runIds (firstOccurrences [] chosen)

end Runner

end Reparse
