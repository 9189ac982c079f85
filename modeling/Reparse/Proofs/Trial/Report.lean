import Reparse.Proofs.Trial.Course

namespace Reparse

inductive Report.Part where
  | source
  | explicitSource
  | generated
  | expectedTree
  | actualTree
  | toolError
deriving DecidableEq

def Report.part? (report : Report) : Report.Part → Option String
  | .source => report.source
  | .explicitSource => report.explicitSource
  | .generated => report.generated
  | .expectedTree => report.expectedTree
  | .actualTree => report.actualTree
  | .toolError => report.toolError

def Outcome.reported : Outcome → List Report.Part
  | .parseFailed => [.source, .toolError]
  | .parseExplicitFailed => [.explicitSource, .toolError]
  | .explicitTreesNotEqual => [.source, .explicitSource, .expectedTree, .actualTree]
  | .generateFailed => [.source, .toolError]
  | .generatedNotParsed => [.source, .generated, .toolError]
  | .generatedTreesNotEqual => [.source, .generated, .expectedTree, .actualTree]
  | .success => []

namespace Trial

variable {σ : Type} (chain : Toolchain σ) (trial : Trial) (start : σ)

/-- The trees that the failed stage holds against each other: first that of the source, then that of
the explicit source or of the generated text. -/
inductive Compared : Outcome → Ast.Node → Ast.Node → Prop where
  | explicit {tree explicit : Ast.Node}
      (actual : (trial.actualReply chain start).answer = .ok tree)
      (twin : (trial.explicitReply chain start).answer = .ok explicit) :
      Compared .explicitTreesNotEqual tree explicit
  | generated {tree reparsed : Ast.Node} {generated : String}
      (actual : (trial.actualReply chain start).answer = .ok tree)
      (written : (trial.generation chain start tree).answer = .ok generated)
      (read : (trial.reparse chain start tree generated).answer = .ok reparsed) :
      Compared .generatedTreesNotEqual tree reparsed

variable {chain trial start} {outcome : Outcome} {calls : List Call}

theorem Course.isSome_part {report : Report}
    (course : trial.Course chain start outcome (some report) calls) (part : Report.Part) :
    (report.part? part).isSome = true ↔ part ∈ outcome.reported := by
  cases course with
  | parseFailed | parseExplicitFailed | explicitTreesNotEqual | generateFailed
  | generatedNotParsed | generatedTreesNotEqual =>
      cases part <;> simp [Report.part?, Outcome.reported]

theorem Course.exists_compared {report : Report} {expected actual : String}
    (course : trial.Course chain start outcome (some report) calls)
    (first : report.expectedTree = some expected) (second : report.actualTree = some actual) :
    expected ≠ actual ∧ ∃ tree other, trial.Compared chain start outcome tree other ∧
      expected = tree.canonicalText ∧ actual = other.canonicalText := by
  cases course with
  | explicitTreesNotEqual read twin different =>
      cases first
      cases second
      exact ⟨different, _, _, .explicit read twin, rfl, rfl⟩
  | generatedTreesNotEqual twins written read different =>
      cases first
      cases second
      exact ⟨different, _, _, .generated twins.actual written read, rfl, rfl⟩
  | parseFailed | parseExplicitFailed | generateFailed | generatedNotParsed => cases first

/-- A traced trial makes the calls that a plain one makes, and comes to the same outcome.  It
reports exactly when it fails, and then the parts that belong to its outcome; two trees in a report
are the different canonical texts of the trees that were compared. -/
theorem examine_traced (chain : Toolchain σ) (trial : Trial) (session : Session σ) :
    ∃ finding calls, trial.Course chain session.state finding.outcome finding.report calls ∧
      (calls.foldl chain.make session).calls = session.calls ++ calls ∧
      (trial.examine chain true).run session = (finding, calls.foldl chain.make session) ∧
      (trial.verify chain).run session = (finding.outcome, calls.foldl chain.make session) ∧
      (trial.examine chain false).run session =
        (⟨finding.outcome, none⟩, calls.foldl chain.make session) ∧
      (finding.report.isSome = true ↔ finding.outcome ≠ .success) ∧
      ∀ report, finding.report = some report →
        (∀ part, (report.part? part).isSome = true ↔ part ∈ finding.outcome.reported) ∧
        ∀ expected actual, report.expectedTree = some expected →
          report.actualTree = some actual →
            expected ≠ actual ∧ ∃ tree other,
              trial.Compared chain session.state finding.outcome tree other ∧
                expected = tree.canonicalText ∧ actual = other.canonicalText := by
  obtain ⟨outcome, report, calls, course⟩ := exists_course chain trial session.state
  refine ⟨⟨outcome, report⟩, calls, course, chain.calls_foldl_make session calls,
    course.examine_run true, course.verify_run, course.examine_run false,
    course.isSome_report, ?_⟩
  rintro report rfl
  exact ⟨course.isSome_part, fun _ _ first second => course.exists_compared first second⟩

end Trial

end Reparse
