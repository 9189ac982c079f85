import Reparse.Proofs.Suite.FailFast
import Reparse.Proofs.Suite.Frame

namespace Reparse

namespace Trial

variable {σ : Type} {chain : Toolchain σ} {trial : Trial} {start : σ} {outcome : Outcome}
  {report : Option Report} {calls : List Call}

theorem goal_of_mem_protocolCalls {tree : Ast.Node} {generated source : String} {goal : Goal}
    (asked : .parse source goal ∈ trial.protocolCalls tree generated) : goal = trial.goal := by
  simp only [protocolCalls, List.mem_cons, Call.parse.injEq, reduceCtorEq, false_or,
    List.not_mem_nil, or_false] at asked
  rcases asked with ⟨-, same⟩ | ⟨-, same⟩ | ⟨-, same⟩
  · exact same
  · exact same
  · exact same

theorem Course.goal_of_parse (course : trial.Course chain start outcome report calls)
    {source : String} {goal : Goal} (asked : .parse source goal ∈ calls) : goal = trial.goal := by
  obtain ⟨tree, generated, taken, -⟩ := course.calls_eq_take
  rw [taken] at asked
  exact goal_of_mem_protocolCalls (List.mem_of_mem_take asked)

theorem Course.calls_examine (course : trial.Course chain start outcome report calls)
    (traced : Bool) : ((trial.examine chain traced).run (.fresh start)).2.calls = calls := by
  have fresh : trial.Course chain (Session.fresh start).state outcome report calls := course
  rw [fresh.examine_run, chain.calls_foldl_make]
  rfl

variable {finding : Finding} {after : Session σ} {traced : Bool}

theorem goal_of_parse_examine
    (examined : (trial.examine chain traced).run (.fresh start) = (finding, after))
    {source : String} {goal : Goal} (asked : .parse source goal ∈ after.calls) :
    goal = trial.goal := by
  obtain ⟨outcome, report, calls, course⟩ := exists_course chain trial start
  have made := course.calls_examine traced
  rw [examined] at made
  rw [made] at asked
  exact course.goal_of_parse asked

theorem calls_of_pure (pure : chain.Pure)
    (examined : (trial.examine chain traced).run (.fresh start) = (finding, after)) {other : σ}
    {again : Bool} {otherFinding : Finding} {last : Session σ}
    (examinedAgain : (trial.examine chain again).run (.fresh other) = (otherFinding, last)) :
    last.calls = after.calls := by
  obtain ⟨outcome, report, calls, course⟩ := exists_course chain trial start
  have made := course.calls_examine traced
  have madeAgain := (course.of_pure pure other).calls_examine again
  rw [examined] at made
  rw [examinedAgain] at madeAgain
  exact madeAgain.trans made.symm

theorem exists_examine_of_verify
    (verified : (trial.verify chain).run (.fresh start) = (outcome, after)) :
    ∃ finding, (trial.examine chain false).run (.fresh start) = (finding, after) := by
  have same : ((trial.examine chain false).run (.fresh start)).2 = after :=
    congrArg Prod.snd verified
  exact ⟨_, Prod.ext rfl same⟩

end Trial

namespace Runner

/-- The calls of the examination of a trial, and those of its second one if it has one. -/
structure Visit where
  id : String
  calls : List Call
  again : Option (List Call)

def Visit.made (visit : Visit) : List Call :=
  visit.calls ++ visit.again.getD []

variable {σ : Type}

/-- The visits of a run over some identifiers, in a state of the tools. -/
inductive Visits (runner : Runner σ) : σ → List String → List Visit → Prop where
  | finished (state : σ) : Visits runner state [] []
  | unloaded {state : σ} {id : String} {ids : List String} {error : SuiteError}
      (refused : runner.suite.load (runner.volume state) id = .error error) :
      Visits runner state (id :: ids) []
  | unexpected {state : σ} {id : String} {ids : List String} {trial : Trial} {outcome : Outcome}
      {finding : Finding} {after last : Session σ} {mismatch : Mismatch}
      (loaded : runner.suite.load (runner.volume state) id = .ok trial)
      (verified : (trial.verify runner.chain).run (.fresh state) = (outcome, after))
      (missed : runner.table.judge id outcome = .error mismatch)
      (examined :
        (trial.examine runner.chain true).run (.fresh after.state) = (finding, last)) :
      Visits runner state (id :: ids) [⟨id, after.calls, some last.calls⟩]
  | expected {state : σ} {id : String} {ids : List String} {trial : Trial} {outcome : Outcome}
      {after : Session σ} {verdict : Verdict} {visits : List Visit}
      (loaded : runner.suite.load (runner.volume state) id = .ok trial)
      (verified : (trial.verify runner.chain).run (.fresh state) = (outcome, after))
      (met : runner.table.judge id outcome = .ok verdict)
      (others : Visits runner after.state ids visits) :
      Visits runner state (id :: ids) (⟨id, after.calls, none⟩ :: visits)

namespace Visits

variable {runner : Runner σ} {state : σ} {ids : List String} {visits others : List Visit}

theorem unique (visited : runner.Visits state ids visits)
    (other : runner.Visits state ids others) : others = visits := by
  induction visited generalizing others with
  | finished state =>
      cases other
      rfl
  | unloaded refused =>
      cases other with
      | unloaded => rfl
      | unexpected loaded | expected loaded =>
          rw [refused] at loaded
          contradiction
  | unexpected loaded verified missed examined =>
      cases other with
      | unloaded refused =>
          rw [loaded] at refused
          contradiction
      | unexpected otherLoaded otherVerified otherMissed otherExamined =>
          cases loaded.symm.trans otherLoaded
          cases verified.symm.trans otherVerified
          cases examined.symm.trans otherExamined
          rfl
      | expected otherLoaded otherVerified met =>
          cases loaded.symm.trans otherLoaded
          cases verified.symm.trans otherVerified
          rw [missed] at met
          contradiction
  | expected loaded verified met later induction =>
      cases other with
      | unloaded refused =>
          rw [loaded] at refused
          contradiction
      | unexpected otherLoaded otherVerified missed =>
          cases loaded.symm.trans otherLoaded
          cases verified.symm.trans otherVerified
          rw [met] at missed
          contradiction
      | expected otherLoaded otherVerified otherMet otherLater =>
          cases loaded.symm.trans otherLoaded
          cases verified.symm.trans otherVerified
          rw [induction otherLater]

theorem goal_of_parse (visited : runner.Visits state ids visits) :
    ∀ visit ∈ visits, ∀ source goal, .parse source goal ∈ visit.made →
      goal = runner.suite.goalOf visit.id := by
  induction visited with
  | finished => simp
  | unloaded => simp
  | unexpected loaded verified missed examined =>
      intro visit member source goal asked
      obtain rfl := List.mem_singleton.1 member
      rw [← (Suite.parts_of_load loaded).2]
      obtain ⟨finding, first⟩ := Trial.exists_examine_of_verify verified
      rcases List.mem_append.1 asked with asked | asked
      · exact Trial.goal_of_parse_examine first asked
      · exact Trial.goal_of_parse_examine examined asked
  | expected loaded verified met others induction =>
      intro visit member source goal asked
      rcases List.mem_cons.1 member with rfl | member
      · obtain ⟨finding, examined⟩ := Trial.exists_examine_of_verify verified
        rw [Visit.made, Option.getD_none, List.append_nil] at asked
        rw [← (Suite.parts_of_load loaded).2]
        exact Trial.goal_of_parse_examine examined asked
      · exact induction visit member source goal asked

theorem again_eq_calls (pure : runner.chain.Pure) (visited : runner.Visits state ids visits) :
    ∀ visit ∈ visits, ∀ again, visit.again = some again → again = visit.calls := by
  induction visited with
  | finished => simp
  | unloaded => simp
  | unexpected loaded verified missed examined =>
      intro visit member again second
      obtain rfl := List.mem_singleton.1 member
      cases second
      obtain ⟨finding, first⟩ := Trial.exists_examine_of_verify verified
      exact Trial.calls_of_pure pure first examined
  | expected loaded verified met others induction =>
      intro visit member again second
      rcases List.mem_cons.1 member with rfl | member
      · contradiction
      · exact induction visit member again second

end Visits

section Step

variable {runner : Runner σ} {session after last : Session σ} {trial : Trial} {outcome : Outcome}

theorem calls_step_expected
    (verified : (trial.verify runner.chain).run (.fresh session.state) = (outcome, after))
    {verdict : Verdict} (met : runner.table.judge trial.id outcome = .ok verdict)
    (summary : Summary) :
    ∃ next, (runner.step summary trial).run session = (.ok (summary.begin.meet verdict), next) ∧
      next.state = after.state ∧ next.calls = session.calls ++ after.calls := by
  have framed : Framed runner.chain (fun _ => False) (trial.verify runner.chain) :=
    trial.framed_verify runner.chain
  have ran := framed.run_eq session
  rw [verified] at ran
  refine ⟨_, runner.step_met summary trial session (by rw [ran]; exact met), ?_⟩
  rw [ran, Session.run_tell]
  exact ⟨rfl, rfl⟩

theorem calls_step_unexpected
    (verified : (trial.verify runner.chain).run (.fresh session.state) = (outcome, after))
    {mismatch : Mismatch} (missed : runner.table.judge trial.id outcome = .error mismatch)
    {finding : Finding}
    (examined : (trial.examine runner.chain true).run (.fresh after.state) = (finding, last))
    (summary : Summary) :
    ∃ error next, (runner.step summary trial).run session = (.error error, next) ∧
      next.calls = session.calls ++ (after.calls ++ last.calls) := by
  have framed : Framed runner.chain (fun _ => False) (trial.verify runner.chain) :=
    trial.framed_verify runner.chain
  have framedAgain : Framed runner.chain (fun _ => False) (trial.examine runner.chain true) :=
    trial.framed_examine runner.chain true
  have ran := framed.run_eq session
  rw [verified] at ran
  refine ⟨_, _, runner.step_missed summary trial session (by rw [ran]; exact missed), ?_⟩
  rw [ran, Session.run_tell, framedAgain.run_eq]
  simp only [Session.state_behind, examined]
  simp [Session.behind]

end Step

theorem exists_visits (runner : Runner σ) (summary : Summary) (ids : List String)
    (session : Session σ) :
    ∃ visits, runner.Visits session.state ids visits ∧
      ((runner.runFrom summary ids).run session).2.calls =
        session.calls ++ visits.flatMap Visit.made := by
  induction ids generalizing summary session with
  | nil => exact ⟨[], .finished session.state, (List.append_nil session.calls).symm⟩
  | cons id ids induction =>
      rw [runFrom_cons]
      cases loaded : runner.suite.load (runner.volume session.state) id with
      | error error => exact ⟨[], .unloaded loaded, by simp⟩
      | ok trial =>
          obtain rfl := Suite.id_of_load loaded
          dsimp only
          cases verified : (trial.verify runner.chain).run (.fresh session.state) with
          | mk outcome after =>
              cases judged : runner.table.judge trial.id outcome with
              | error mismatch =>
                  cases examined :
                      (trial.examine runner.chain true).run (.fresh after.state) with
                  | mk finding last =>
                      obtain ⟨error, next, stepped, calls⟩ :=
                        calls_step_unexpected verified judged examined summary
                      rw [stepped]
                      refine ⟨_, .unexpected loaded verified judged examined, ?_⟩
                      simpa [Visit.made] using calls
              | ok verdict =>
                  obtain ⟨next, stepped, state, calls⟩ :=
                    calls_step_expected verified judged summary
                  obtain ⟨visits, others, later⟩ := induction (summary.begin.meet verdict) next
                  rw [state] at others
                  rw [stepped]
                  refine ⟨_, .expected loaded verified judged others, ?_⟩
                  simp [later, calls, Visit.made]

/-- A run asks the tools what its visits ask, one after the other: a first examination of each trial
that loads, up to the first identifier without a trial, which adds nothing, or the first trial that
misses its expectation, which is examined once more.  In a visit every source is parsed with the
goal of its identifier, and tools that answer by their questions alone are asked the same twice. -/
theorem runIds_visits (runner : Runner σ) (ids : List String) (session : Session σ) :
    ∃ visits,
      (∀ others, runner.Visits session.state ids others ↔ others = visits) ∧
      ((runner.runIds ids).run session).2.calls = session.calls ++ visits.flatMap Visit.made ∧
      (∀ visit ∈ visits, ∀ source goal, .parse source goal ∈ visit.made →
        goal = runner.suite.goalOf visit.id) ∧
      (runner.chain.Pure → ∀ visit ∈ visits, ∀ again, visit.again = some again →
        again = visit.calls) := by
  obtain ⟨visits, visited, calls⟩ := runner.exists_visits {} ids session
  refine ⟨visits, fun others => ⟨visited.unique, ?_⟩, calls, visited.goal_of_parse,
    fun pure => visited.again_eq_calls pure⟩
  rintro rfl
  exact visited

theorem runIds_visits_sample :
    ∃ first second : List Call,
      untrackedSample.Visits () ["a", "b", "a"]
        [⟨"a", first, none⟩, ⟨"b", second, some second⟩] ∧
      ((untrackedSample.runIds ["a", "b", "a"]).run ⟨(), [], []⟩).2.calls =
        first ++ (second ++ second) ∧
      first.length = 4 ∧ second.length = 3 := by
  obtain ⟨visits, visited, calls, -, again⟩ :=
    runIds_visits untrackedSample ["a", "b", "a"] ⟨(), [], []⟩
  have own : untrackedSample.Visits () ["a", "b", "a"] _ :=
    .expected rfl rfl rfl (.unexpected rfl rfl rfl rfl)
  obtain rfl := (visited _).1 own
  have same := again sample_pure _ (List.mem_cons_of_mem _ List.mem_cons_self) _ rfl
  rw [same] at own calls
  exact ⟨_, _, own, calls, rfl, rfl⟩

end Runner

end Reparse
