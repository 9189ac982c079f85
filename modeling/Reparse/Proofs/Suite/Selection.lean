import Reparse.Proofs.Suite.FailFast

namespace Reparse

namespace Runner

theorem firstOccurrences_eq (seen ids : List String) :
    firstOccurrences seen ids = (ids.filter fun id => !seen.contains id).eraseDups := by
  induction ids generalizing seen with
  | nil => rfl
  | cons id ids induction =>
      rw [firstOccurrences, List.filter_cons]
      cases known : seen.contains id with
      | true => simpa using induction seen
      | false =>
          simp only [Bool.false_eq_true, if_false, Bool.not_false, if_true, List.eraseDups_cons,
            List.filter_filter, induction]
          congr 2
          refine List.filter_congr fun other _ => ?_
          rw [List.contains_cons, Bool.not_or]

theorem firstOccurrences_nil (ids : List String) : firstOccurrences [] ids = ids.eraseDups := by
  rw [firstOccurrences_eq]
  simp

section Tally

variable {table : ExpectationTable} {load : String → Except SuiteError Trial}
  {examine : Trial → Finding}

/-- A fold ends at a mismatch exactly when the first trial that is not as wanted can be loaded. -/
theorem tally_eq_mismatch_iff (named : ∀ id trial, load id = .ok trial → trial.id = id)
    (ids : List String) (start : Summary) :
    (∃ failure, tally table load examine start ids = .error (.mismatch failure)) ↔
      ∃ before id after trial, ids = before ++ id :: after ∧ AllMet table load examine before ∧
        load id = .ok trial ∧ (examine trial).outcome ≠ table.wanted id := by
  constructor
  · rintro ⟨failure, ended⟩
    induction ids generalizing start with
    | nil => contradiction
    | cons id ids induction =>
        cases loaded : load id with
        | error error =>
            rw [tally_unloaded loaded] at ended
            cases ended
        | ok trial =>
            by_cases wanted : (examine trial).outcome = table.wanted id
            · have verdict := (table.judge_eq_ok_iff id _ _).2 ⟨wanted, rfl⟩
              have goesOn := tally_append named (.cons ⟨trial, loaded, verdict⟩ .nil) start ids
              rw [List.singleton_append] at goesOn
              rw [goesOn] at ended
              obtain ⟨before, other, after, missed, rfl, met, rest⟩ := induction _ ended
              have all : AllMet table load examine (id :: before) :=
                List.forall_mem_cons.2 ⟨⟨trial, loaded, wanted⟩, met⟩
              exact ⟨id :: before, other, after, missed, rfl, all, rest⟩
            · exact ⟨[], id, ids, trial, rfl, List.forall_mem_nil _, loaded, wanted⟩
  · rintro ⟨before, id, after, trial, rfl, met, loaded, unwanted⟩
    obtain ⟨verdicts, judged⟩ := exists_verdicts met
    rw [tally_append named judged]
    cases missed : table.judge id (examine trial).outcome with
    | ok verdict => exact absurd ((table.judge_eq_ok_iff _ _ _).1 missed).1 unwanted
    | error mismatch => exact ⟨_, tally_missed named loaded missed _ _⟩

end Tally

variable {σ : Type}

def selected (runner : Runner σ) (session : Session σ) (chosen : List String) :
    Except SuiteError (List String) :=
  if chosen = [] then runner.suite.ids (runner.volume session.state) else .ok chosen.eraseDups

theorem run_chosen (runner : Runner σ) {chosen : List String} (some : chosen ≠ []) :
    runner.run chosen = runner.runIds chosen.eraseDups := by
  rw [run, if_neg (by simpa using some), firstOccurrences_nil]

theorem run_unlisted (runner : Runner σ) (session : Session σ) {error : SuiteError}
    (unlisted : runner.suite.ids (runner.volume session.state) = .error error) :
    (runner.run []).run session = (.error (.suite error), session) := by
  rw [run_unfold, unlisted]
  rfl

/-- A run is the fold over the trials that are selected. -/
theorem run_eq_tally (runner : Runner σ) (session : Session σ) (chosen : List String)
    (pure : runner.chain.Pure)
    (steady : runner.Steady session ((runner.run chosen).run session).2) :
    ((runner.run chosen).run session).1 =
      match runner.selected session chosen with
      | .error error => .error (.suite error)
      | .ok ids =>
          tally runner.table (runner.suite.load (runner.volume session.state))
            (runner.findingOf session) {} ids := by
  rw [selected]
  by_cases all : chosen = []
  · subst all
    rw [if_pos rfl]
    cases listed : runner.suite.ids (runner.volume session.state) with
    | error error => rw [runner.run_unlisted session listed]
    | ok ids => exact runner.run_all_eq_tally session pure steady listed
  · rw [if_neg all]
    rw [runner.run_chosen all] at steady ⊢
    exact runner.runIds_eq_tally session _ pure steady

end Runner

end Reparse
