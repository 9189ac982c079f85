import Reparse.Ast.CanonicalText
import Reparse.Tool.Chain
import Reparse.Trial.Report

/-!
One trial of a tool chain.

The source is parsed, its explicit twin is parsed and compared with it, the tree is generated, and
the generated text is parsed and compared again.  The first stage that fails decides the outcome;
nothing after it is asked of the tools.
-/

namespace Reparse

/-- A source, and the same program written out explicitly. -/
structure Trial where
  id : String
  actual : String
  explicit : String
  goal : Goal
deriving DecidableEq

/-- The outcome of a trial, with a report where one was wanted and there is something to report. -/
structure Finding where
  outcome : Outcome
  report : Option Report
deriving DecidableEq

namespace Finding

def success : Finding where
  outcome := .success
  report := none

/-- A failure, reported only in a traced trial. -/
def failure (traced : Bool) (outcome : Outcome) (report : Report) : Finding where
  outcome := outcome
  report := if traced then some report else none

end Finding

namespace Trial

variable {σ : Type}

def compareGenerated (trial : Trial) (traced : Bool) (tree reparsed : Ast.Node)
    (generated : String) : Finding :=
  if tree.canonicalText = reparsed.canonicalText then
    .success
  else
    .failure traced .generatedTreesNotEqual
      { source := some trial.actual
        generated := some generated
        expectedTree := some tree.canonicalText
        actualTree := some reparsed.canonicalText }

def regenerate (chain : Toolchain σ) (trial : Trial) (traced : Bool) (tree : Ast.Node) :
    StateM (Session σ) Finding := do
  match ← chain.askGenerate tree .roundTrip with
  | .error error =>
      return .failure traced .generateFailed
        { source := some trial.actual, toolError := some error.message }
  | .ok generated =>
      match ← chain.askParse generated trial.goal with
      | .error error =>
          return .failure traced .generatedNotParsed
            { source := some trial.actual
              generated := some generated
              toolError := some error.message }
      | .ok reparsed => return trial.compareGenerated traced tree reparsed generated

def examine (chain : Toolchain σ) (trial : Trial) (traced : Bool) :
    StateM (Session σ) Finding := do
  match ← chain.askParse trial.actual trial.goal with
  | .error error =>
      return .failure traced .parseFailed
        { source := some trial.actual, toolError := some error.message }
  | .ok tree =>
      match ← chain.askParse trial.explicit trial.goal with
      | .error error =>
          return .failure traced .parseExplicitFailed
            { explicitSource := some trial.explicit, toolError := some error.message }
      | .ok explicit =>
          if tree.canonicalText = explicit.canonicalText then
            trial.regenerate chain traced tree
          else
            return .failure traced .explicitTreesNotEqual
              { source := some trial.actual
                explicitSource := some trial.explicit
                expectedTree := some tree.canonicalText
                actualTree := some explicit.canonicalText }

def verify (chain : Toolchain σ) (trial : Trial) : StateM (Session σ) Outcome := do
  return (← trial.examine chain false).outcome

end Trial

end Reparse
