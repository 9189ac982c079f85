import Mathlib.Data.List.Forall2
import Reparse.Proofs.Suite.Run

namespace Reparse

namespace Summary

def ofVerdicts (verdicts : List Verdict) : Summary where
  total := verdicts.length
  passed := verdicts.count .passed
  expectedFailures := verdicts.countP (· != .passed)

theorem foldl_meet (start : Summary) (verdicts : List Verdict) :
    verdicts.foldl (fun summary => summary.begin.meet) start =
      { total := start.total + verdicts.length
        passed := start.passed + verdicts.count .passed
        expectedFailures := start.expectedFailures + verdicts.countP (· != .passed) } := by
  induction verdicts generalizing start with
  | nil => rfl
  | cons verdict rest induction =>
      rw [List.foldl_cons, induction]
      cases verdict with
      | passed =>
          simp [Summary.begin, Summary.meet]
          omega
      | expectedFailure outcome =>
          simp [Summary.begin, Summary.meet]
          omega

theorem passed_add_expectedFailures (verdicts : List Verdict) :
    (ofVerdicts verdicts).passed + (ofVerdicts verdicts).expectedFailures = verdicts.length := by
  have split := List.length_eq_countP_add_countP (· == Verdict.passed) (l := verdicts)
  have others : (fun verdict : Verdict => decide ¬(verdict == .passed) = true) =
      (· != Verdict.passed) := by
    funext verdict
    cases verdict <;> rfl
  rw [others] at split
  exact split.symm

end Summary

namespace Runner

section Tally

variable {table : ExpectationTable} {load : String → Except SuiteError Trial}
  {examine : Trial → Finding}

def Judged (table : ExpectationTable) (load : String → Except SuiteError Trial)
    (examine : Trial → Finding) (id : String) (verdict : Verdict) : Prop :=
  ∃ trial, load id = .ok trial ∧ table.judge id (examine trial).outcome = .ok verdict

theorem exists_verdicts {ids : List String} (met : AllMet table load examine ids) :
    ∃ verdicts, List.Forall₂ (Judged table load examine) ids verdicts := by
  induction ids with
  | nil => exact ⟨[], .nil⟩
  | cons id ids induction =>
      obtain ⟨⟨trial, loaded, wanted⟩, others⟩ := List.forall_mem_cons.1 met
      obtain ⟨verdicts, judged⟩ := induction others
      have verdict := (table.judge_eq_ok_iff id _ _).2 ⟨wanted, rfl⟩
      exact ⟨_, .cons ⟨trial, loaded, verdict⟩ judged⟩

/-- Trials with verdicts are counted, and the fold goes on behind them. -/
theorem tally_append (named : ∀ id trial, load id = .ok trial → trial.id = id)
    {before : List String} {verdicts : List Verdict}
    (judged : List.Forall₂ (Judged table load examine) before verdicts) (start : Summary)
    (after : List String) :
    tally table load examine start (before ++ after) =
      tally table load examine (verdicts.foldl (fun summary => summary.begin.meet) start)
        after := by
  induction judged generalizing start with
  | nil => rfl
  | cons first others induction =>
      obtain ⟨trial, loaded, verdict⟩ := first
      rw [← named _ trial loaded] at verdict
      rw [List.cons_append, tally, loaded]
      dsimp only
      rw [verdict]
      exact induction _

theorem tally_unloaded {id : String} {error : SuiteError} (unloaded : load id = .error error)
    (start : Summary) (after : List String) :
    tally table load examine start (id :: after) = .error (.suite error) := by
  rw [tally, unloaded]

theorem tally_missed (named : ∀ id trial, load id = .ok trial → trial.id = id) {id : String}
    {trial : Trial} (loaded : load id = .ok trial) {mismatch : Mismatch}
    (missed : table.judge id (examine trial).outcome = .error mismatch) (start : Summary)
    (after : List String) :
    tally table load examine start (id :: after) =
      .error (.mismatch ⟨mismatch, examine trial, start.begin⟩) := by
  rw [← named id trial loaded] at missed
  rw [tally, loaded]
  dsimp only
  rw [missed]

end Tally

variable {σ : Type}

theorem runIds_eq_tally (runner : Runner σ) (session : Session σ) (ids : List String)
    (pure : runner.chain.Pure)
    (steady : runner.Steady session ((runner.runIds ids).run session).2) :
    ((runner.runIds ids).run session).1 =
      tally runner.table (runner.suite.load (runner.volume session.state))
        (runner.findingOf session) {} ids :=
  runner.runFrom_eq_tally (fun trial other => trial.examine_of_pure pure true other session)
    {} ids session steady

/-- What the trial of an identifier comes to. -/
def Yields (runner : Runner σ) (session : Session σ) (id : String) (outcome : Outcome) : Prop :=
  ∃ trial, runner.suite.load (runner.volume session.state) id = .ok trial ∧
    ((trial.verify runner.chain).run session).1 = outcome

/-- The verdict on the trial of an identifier. -/
def HasVerdict (runner : Runner σ) (session : Session σ) (id : String) (verdict : Verdict) :
    Prop :=
  ∃ outcome, runner.Yields session id outcome ∧ runner.table.judge id outcome = .ok verdict

theorem outcome_findingOf (runner : Runner σ) (session : Session σ) (trial : Trial) :
    (runner.findingOf session trial).outcome = ((trial.verify runner.chain).run session).1 :=
  trial.examine_outcome runner.chain true session

theorem allMet_iff (runner : Runner σ) (session : Session σ) (ids : List String) :
    AllMet runner.table (runner.suite.load (runner.volume session.state))
        (runner.findingOf session) ids ↔
      ∀ id ∈ ids, runner.Yields session id (runner.table.wanted id) := by
  simp only [AllMet, Yields, outcome_findingOf]

theorem judged_eq_hasVerdict (runner : Runner σ) (session : Session σ) :
    Judged runner.table (runner.suite.load (runner.volume session.state))
        (runner.findingOf session) =
      runner.HasVerdict session := by
  funext id verdict
  simp [Judged, HasVerdict, Yields, outcome_findingOf]

/-- A run is fine exactly when all its trials load and come to what is wanted of them, and then
counts their verdicts.  Otherwise the first trial that does not ends it: one that does not load with
the error of loading, any other one with what the table has against its outcome, with this outcome
and a report of it unless it is success, and with the verdicts on the trials before it. -/
theorem runIds_stops_at_first_miss (runner : Runner σ) (session : Session σ) (ids : List String)
    (pure : runner.chain.Pure)
    (steady : runner.Steady session ((runner.runIds ids).run session).2) :
    ((∃ summary, ((runner.runIds ids).run session).1 = .ok summary) ↔
        ∀ id ∈ ids, runner.Yields session id (runner.table.wanted id)) ∧
      (∀ summary, ((runner.runIds ids).run session).1 = .ok summary →
        ∃ verdicts, List.Forall₂ (runner.HasVerdict session) ids verdicts ∧
          summary = .ofVerdicts verdicts ∧ summary.total = ids.length ∧
          summary.passed + summary.expectedFailures = summary.total) ∧
      ∀ before id after, ids = before ++ id :: after →
        (∀ other ∈ before, runner.Yields session other (runner.table.wanted other)) →
        (∀ error, runner.suite.load (runner.volume session.state) id = .error error →
          ((runner.runIds ids).run session).1 = .error (.suite error)) ∧
        ∀ outcome, runner.Yields session id outcome → outcome ≠ runner.table.wanted id →
          ∃ failure verdicts, ((runner.runIds ids).run session).1 = .error (.mismatch failure) ∧
            runner.table.judge id outcome = .error failure.mismatch ∧
            failure.finding.outcome = outcome ∧
            (failure.finding.report.isSome = true ↔ outcome ≠ .success) ∧
            List.Forall₂ (runner.HasVerdict session) before verdicts ∧
            failure.summary = { Summary.ofVerdicts verdicts with total := before.length + 1 } ∧
            failure.summary.passed + failure.summary.expectedFailures = before.length := by
  have named (id : String) (trial : Trial) :
      runner.suite.load (runner.volume session.state) id = .ok trial → trial.id = id :=
    Suite.id_of_load
  have counted {front : List String}
      (met : ∀ id ∈ front, runner.Yields session id (runner.table.wanted id)) :
      ∃ verdicts, List.Forall₂ (runner.HasVerdict session) front verdicts ∧
        ∀ rest, tally runner.table (runner.suite.load (runner.volume session.state))
            (runner.findingOf session) {} (front ++ rest) =
          tally runner.table (runner.suite.load (runner.volume session.state))
            (runner.findingOf session) (.ofVerdicts verdicts) rest := by
    obtain ⟨verdicts, judged⟩ := exists_verdicts ((runner.allMet_iff session front).2 met)
    refine ⟨verdicts, runner.judged_eq_hasVerdict session ▸ judged, fun rest => ?_⟩
    rw [tally_append named judged, Summary.foldl_meet]
    simp [Summary.ofVerdicts]
  rw [runner.runIds_eq_tally session ids pure steady]
  refine ⟨?_, ?_, ?_⟩
  · simp only [tally_eq_ok_iff named, runner.allMet_iff]
    exact ⟨fun ⟨_, all, _⟩ => all, fun all => ⟨_, all, rfl⟩⟩
  · intro summary fine
    have met := (runner.allMet_iff session ids).1 ((tally_eq_ok_iff named ids _ _).1 fine).1
    obtain ⟨verdicts, judged, ends⟩ := counted met
    have ended := ends []
    rw [List.append_nil, fine] at ended
    obtain rfl := Except.ok.inj ended
    refine ⟨verdicts, judged, rfl, judged.length_eq.symm, ?_⟩
    exact Summary.passed_add_expectedFailures verdicts
  · rintro before id after rfl met
    obtain ⟨verdicts, judged, goesOn⟩ := counted met
    rw [goesOn]
    constructor
    · intro error unloaded
      exact tally_unloaded unloaded _ _
    · rintro outcome ⟨trial, loaded, rfl⟩ unwanted
      cases missed : runner.table.judge id ((trial.verify runner.chain).run session).1 with
      | ok verdict =>
          exact absurd ((runner.table.judge_eq_ok_iff _ _ _).1 missed).1 unwanted
      | error mismatch =>
          have ended := missed
          rw [← runner.outcome_findingOf] at ended
          refine ⟨_, verdicts, tally_missed named loaded ended _ _, rfl,
            runner.outcome_findingOf session trial,
            trial.isSome_report_examine runner.chain session, judged, ?_, ?_⟩
          · simp [Summary.begin, Summary.ofVerdicts, judged.length_eq]
          · rw [judged.length_eq]
            exact Summary.passed_add_expectedFailures verdicts

def untrackedSample : Runner Unit :=
  { sample with table := .empty }

theorem runIds_stops_at_first_miss_sample :
    ∃ failure,
      ((untrackedSample.runIds ["a", "a", "b", "a"]).run ⟨(), [], []⟩).1 =
        .error (.mismatch failure) ∧
      failure.mismatch = .unexpectedFailure "b" .generateFailed ∧
      failure.finding.report.isSome = true ∧
      failure.summary.total = 3 ∧
      failure.summary.passed + failure.summary.expectedFailures = 2 := by
  have fine : untrackedSample.Yields ⟨(), [], []⟩ "a" (untrackedSample.table.wanted "a") :=
    ⟨⟨"a", "a", "a", .script⟩, rfl, rfl⟩
  have missed : untrackedSample.Yields ⟨(), [], []⟩ "b" .generateFailed :=
    ⟨⟨"b", "b", "b", .script⟩, rfl, rfl⟩
  obtain ⟨-, -, stops⟩ := runIds_stops_at_first_miss untrackedSample ⟨(), [], []⟩
    ["a", "a", "b", "a"] sample_pure (fun _ _ _ => rfl)
  obtain ⟨failure, verdicts, ended, mismatch, -, report, -, summary, counts⟩ :=
    (stops ["a", "a"] "b" ["a"] rfl (by simp [fine])).2 .generateFailed missed (by decide)
  refine ⟨failure, ended, ?_, report.2 (by decide), ?_, counts⟩
  · exact (Except.error.inj mismatch).symm
  · rw [summary]
    rfl

end Runner

end Reparse
