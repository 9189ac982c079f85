import Reparse.Proofs.Dictionary
import Reparse.Proofs.Expectation.Verdict
import Reparse.Proofs.Trial.Course
import Reparse.Suite.Run

/-!
Runs over trials that stay as they are, by tools that answer by their questions alone.

Such a run is a fold over the identifiers, which ends early at the first trial that cannot be loaded
or misses its expectation.
-/

namespace Reparse

theorem Suite.parts_of_load {suite : Suite} {volume : Volume} {id : String} {trial : Trial}
    (loaded : suite.load volume id = .ok trial) :
    trial.id = id ∧ trial.goal = suite.goalOf id := by
  unfold load at loaded
  split at loaded
  · contradiction
  · dsimp only at loaded
    by_cases present : volume.isFile (Path.join suite.explicitDirectory id) = true
    · rw [if_pos present] at loaded
      cases twin : readSource volume (Path.join suite.explicitDirectory id) with
      | error error =>
          rw [twin] at loaded
          contradiction
      | ok explicit =>
          rw [twin] at loaded
          cases loaded
          exact ⟨rfl, rfl⟩
    · rw [if_neg present] at loaded
      contradiction

theorem Suite.id_of_load {suite : Suite} {volume : Volume} {id : String} {trial : Trial}
    (loaded : suite.load volume id = .ok trial) : trial.id = id :=
  (Suite.parts_of_load loaded).1

theorem Suite.nodup_ids {suite : Suite} {volume : Volume} {ids : List String}
    (listed : suite.ids volume = .ok ids) : ids.Nodup := by
  simp only [Suite.ids] at listed
  split at listed
  · contradiction
  · cases listed
    exact Dictionary.nodup_names (Dictionary.ordered_ofList _)

namespace Runner

/-- The fold that a run comes to when each identifier has one trial and each trial one finding. -/
def tally (table : ExpectationTable) (load : String → Except SuiteError Trial)
    (examine : Trial → Finding) (summary : Summary) : List String → Except RunError Summary
  | [] => .ok summary
  | id :: ids =>
      match load id with
      | .error error => .error (.suite error)
      | .ok trial =>
          match table.judge trial.id (examine trial).outcome with
          | .ok verdict => tally table load examine (summary.begin.meet verdict) ids
          | .error mismatch => .error (.mismatch ⟨mismatch, examine trial, summary.begin⟩)

def AllMet (table : ExpectationTable) (load : String → Except SuiteError Trial)
    (examine : Trial → Finding) (ids : List String) : Prop :=
  ∀ id ∈ ids, ∃ trial, load id = .ok trial ∧ (examine trial).outcome = table.wanted id

def countAll (table : ExpectationTable) (summary : Summary) (ids : List String) : Summary where
  total := summary.total + ids.length
  passed := summary.passed + ids.countP fun id => !table.tracks id
  expectedFailures := summary.expectedFailures + ids.countP table.tracks

section Tally

variable {table : ExpectationTable} {load : String → Except SuiteError Trial}
  {examine : Trial → Finding}

theorem countAll_cons (summary : Summary) (id : String) (ids : List String) (outcome : Outcome) :
    countAll table
        (summary.begin.meet (if table.tracks id then .expectedFailure outcome else .passed)) ids =
      countAll table summary (id :: ids) := by
  cases tracked : table.tracks id with
  | false =>
      simp [countAll, Summary.begin, Summary.meet, tracked]
      omega
  | true =>
      simp [countAll, Summary.begin, Summary.meet, tracked]
      omega

/-- A fold gets to its end exactly over trials that all come to what is wanted of them. -/
theorem tally_eq_ok_iff (named : ∀ id trial, load id = .ok trial → trial.id = id)
    (ids : List String) (start summary : Summary) :
    tally table load examine start ids = .ok summary ↔
      AllMet table load examine ids ∧ summary = countAll table start ids := by
  induction ids generalizing start with
  | nil => simp [tally, AllMet, countAll, eq_comm]
  | cons id ids induction =>
      simp only [tally]
      cases loaded : load id with
      | error error => simp [AllMet, loaded]
      | ok trial =>
          obtain rfl := named id trial loaded
          dsimp only
          cases judged : table.judge trial.id (examine trial).outcome with
          | error mismatch =>
              have missed : (examine trial).outcome ≠ table.wanted trial.id := by
                intro wanted
                rw [(table.judge_eq_ok_iff _ _ _).2 ⟨wanted, rfl⟩] at judged
                contradiction
              simp [AllMet, loaded, missed]
          | ok verdict =>
              obtain ⟨wanted, rfl⟩ := (table.judge_eq_ok_iff _ _ _).1 judged
              simp only [induction, countAll_cons]
              simp [AllMet, loaded, wanted]

end Tally

variable {σ : Type}

/-- The trials of the suite stay as they are over the calls that lead from a session to another. -/
def Steady (runner : Runner σ) (session after : Session σ) : Prop :=
  ∀ made : List Call, session.calls ++ made <+: after.calls → ∀ id,
    runner.suite.load (runner.volume (made.foldl runner.chain.make session).state) id =
      runner.suite.load (runner.volume session.state) id

theorem step_met (runner : Runner σ) (summary : Summary) (trial : Trial) (session : Session σ)
    {verdict : Verdict}
    (met : runner.table.judge trial.id ((trial.verify runner.chain).run session).1 = .ok verdict) :
    (runner.step summary trial).run session =
      (.ok (summary.begin.meet verdict),
        ((Session.tell (metEvent trial.id verdict)).run
          ((trial.verify runner.chain).run session).2).2) := by
  rw [step, Session.run_bind, met]
  rfl

theorem step_missed (runner : Runner σ) (summary : Summary) (trial : Trial) (session : Session σ)
    {mismatch : Mismatch}
    (missed :
      runner.table.judge trial.id ((trial.verify runner.chain).run session).1 = .error mismatch) :
    let told := ((Session.tell (.rerunning trial.id mismatch.code)).run
      ((trial.verify runner.chain).run session).2).2
    let examined := (trial.examine runner.chain true).run told
    (runner.step summary trial).run session =
      (.error (.mismatch ⟨mismatch, examined.1, summary.begin⟩), examined.2) := by
  rw [step, Session.run_bind, missed]
  rfl

-- Unfolding `load` while the two sides are compared does not end in reasonable time.
seal Suite.load in
theorem runFrom_unfold (runner : Runner σ) (summary : Summary) (id : String) (ids : List String)
    (session : Session σ) :
    (runner.runFrom summary (id :: ids)).run session =
      StateT.run
        (match runner.suite.load (runner.volume session.state) id with
        | .error error => return .error (.suite error)
        | .ok trial => do
            match ← runner.step summary trial with
            | .error error => return .error error
            | .ok summary => runner.runFrom summary ids)
        session := by
  rfl

theorem runFrom_cons (runner : Runner σ) (summary : Summary) (id : String) (ids : List String)
    (session : Session σ) :
    (runner.runFrom summary (id :: ids)).run session =
      match runner.suite.load (runner.volume session.state) id with
      | .error error => (.error (.suite error), session)
      | .ok trial =>
          match (runner.step summary trial).run session with
          | (.error error, after) => (.error error, after)
          | (.ok summary, after) => (runner.runFrom summary ids).run after := by
  rw [runFrom_unfold]
  cases runner.suite.load (runner.volume session.state) id with
  | error error => rfl
  | ok trial =>
      dsimp only
      rw [Session.run_bind]
      cases (runner.step summary trial).run session with
      | mk result after =>
          cases result with
          | error error => rfl
          | ok summary => rfl

theorem step_reaches (runner : Runner σ) (summary : Summary) (trial : Trial) (session : Session σ) :
    ∃ made, session.Reaches runner.chain ((runner.step summary trial).run session).2 made := by
  obtain ⟨outcome, report, calls, course⟩ := trial.exists_course runner.chain session.state
  have verified :
      session.Reaches runner.chain ((trial.verify runner.chain).run session).2 calls := by
    rw [course.verify_run]
    exact .foldl_make _ _ _
  cases judged : runner.table.judge trial.id ((trial.verify runner.chain).run session).1 with
  | ok verdict =>
      rw [runner.step_met summary trial session judged]
      exact ⟨calls, verified.tell _⟩
  | error mismatch =>
      rw [runner.step_missed summary trial session judged]
      generalize toldIs : ((Session.tell (.rerunning trial.id mismatch.code)).run
        ((trial.verify runner.chain).run session).2).2 = told
      have reached : session.Reaches runner.chain told calls := toldIs ▸ verified.tell _
      obtain ⟨_, _, again, course⟩ := trial.exists_course runner.chain told.state
      dsimp only
      rw [course.examine_run]
      exact ⟨_, reached.trans (.foldl_make _ _ again)⟩

theorem runFrom_reaches (runner : Runner σ) (summary : Summary) (ids : List String)
    (session : Session σ) :
    ∃ made, session.Reaches runner.chain ((runner.runFrom summary ids).run session).2 made := by
  induction ids generalizing summary session with
  | nil => exact ⟨[], (Session.Reaches.refl _ _).tell _⟩
  | cons id ids induction =>
      rw [runFrom_cons]
      cases runner.suite.load (runner.volume session.state) id with
      | error error => exact ⟨[], .refl _ _⟩
      | ok trial =>
          obtain ⟨made, reached⟩ := runner.step_reaches summary trial session
          dsimp only
          cases stepped : (runner.step summary trial).run session with
          | mk result after =>
              rw [stepped] at reached
              cases result with
              | error error => exact ⟨made, reached⟩
              | ok summary =>
                  obtain ⟨later, reachedLater⟩ := induction summary after
                  exact ⟨made ++ later, reached.trans reachedLater⟩

/-- A run over steady trials, by tools with one finding for each, is the fold over them. -/
theorem runFrom_eq_tally (runner : Runner σ) {load : String → Except SuiteError Trial}
    {examine : Trial → Finding}
    (found : ∀ trial session, ((trial.examine runner.chain true).run session).1 = examine trial)
    (summary : Summary) (ids : List String) (session : Session σ)
    (steady : ∀ made : List Call,
      session.calls ++ made <+: ((runner.runFrom summary ids).run session).2.calls → ∀ id,
        runner.suite.load (runner.volume (made.foldl runner.chain.make session).state) id =
          load id) :
    ((runner.runFrom summary ids).run session).1 =
      tally runner.table load examine summary ids := by
  induction ids generalizing summary session with
  | nil => rfl
  | cons id ids induction =>
      obtain ⟨all, reached⟩ := runner.runFrom_reaches summary (id :: ids) session
      have here := steady [] (by rw [reached.calls]; simp) id
      simp only [List.foldl_nil] at here
      rw [runFrom_cons, here] at steady ⊢
      cases loaded : load id with
      | error error => simp only [tally, loaded]
      | ok trial =>
          have outcome : ((trial.verify runner.chain).run session).1 = (examine trial).outcome := by
            rw [← found trial session, Trial.examine_outcome]
          simp only [tally, loaded] at steady ⊢
          cases judged : runner.table.judge trial.id (examine trial).outcome with
          | error mismatch =>
              rw [← outcome] at judged
              rw [runner.step_missed summary trial session judged]
              simp only [found]
          | ok verdict =>
              rw [← outcome] at judged
              obtain ⟨made, reached⟩ := runner.step_reaches summary trial session
              rw [runner.step_met summary trial session judged] at steady reached ⊢
              refine induction _ _ ?_
              intro later short other
              rw [reached.state_foldl]
              refine steady (made ++ later) ?_ other
              rw [← List.append_assoc, ← reached.calls]
              exact short

theorem warnStale_reaches (chain : Toolchain σ) (entries : List Expectation)
    (session : Session σ) :
    session.Reaches chain ((warnStale entries).run session).2 [] := by
  induction entries generalizing session with
  | nil => exact .refl chain session
  | cons entry rest induction =>
      have told := (Session.Reaches.refl chain session).tell
        (.staleExpectation entry.id entry.expected)
      exact told.trans (induction _)

theorem run_unfold (runner : Runner σ) (session : Session σ) :
    (runner.run []).run session =
      StateT.run
        (match runner.suite.ids (runner.volume session.state) with
        | .error error => return .error (.suite error)
        | .ok ids => do
            warnStale (runner.table.stale ids)
            runner.runIds ids)
        session :=
  rfl

theorem run_all (runner : Runner σ) (session : Session σ) {ids : List String}
    (listed : runner.suite.ids (runner.volume session.state) = .ok ids) :
    (runner.run []).run session =
      (runner.runIds ids).run ((warnStale (runner.table.stale ids)).run session).2 := by
  rw [run_unfold, listed]
  rfl

def findingOf (runner : Runner σ) (session : Session σ) (trial : Trial) : Finding :=
  ((trial.examine runner.chain true).run session).1

theorem run_all_eq_tally (runner : Runner σ) (session : Session σ) {ids : List String}
    (pure : runner.chain.Pure) (steady : runner.Steady session ((runner.run []).run session).2)
    (listed : runner.suite.ids (runner.volume session.state) = .ok ids) :
    ((runner.run []).run session).1 =
      tally runner.table (runner.suite.load (runner.volume session.state))
        (runner.findingOf session) {} ids := by
  have warned := warnStale_reaches runner.chain (runner.table.stale ids) session
  rw [Steady, runner.run_all session listed] at steady
  rw [runner.run_all session listed, runIds]
  refine runner.runFrom_eq_tally (fun trial other => trial.examine_of_pure pure true other session)
    {} ids _ ?_
  intro made short id
  rw [warned.state_foldl, List.nil_append]
  refine steady made ?_ id
  rw [warned.calls, List.append_nil] at short
  exact short

/-- A full run is fine exactly when every trial of the suite loads and comes to what the table wants
of it.  All trials are then counted, as expected failures as many of them as the table has entries
that are not stale. -/
theorem run_all_eq_ok_iff (runner : Runner σ) (session : Session σ) {ids : List String}
    (pure : runner.chain.Pure) (steady : runner.Steady session ((runner.run []).run session).2)
    (listed : runner.suite.ids (runner.volume session.state) = .ok ids) :
    ((∃ summary, ((runner.run []).run session).1 = .ok summary) ↔
        ∀ id ∈ ids, ∃ trial,
          runner.suite.load (runner.volume session.state) id = .ok trial ∧
            ((trial.verify runner.chain).run session).1 = runner.table.wanted id) ∧
      ∀ summary, ((runner.run []).run session).1 = .ok summary →
        summary.total = ids.length ∧
          summary.expectedFailures + (runner.table.stale ids).length = runner.table.size ∧
          summary.passed + summary.expectedFailures = summary.total := by
  have named (id : String) (trial : Trial) :
      runner.suite.load (runner.volume session.state) id = .ok trial → trial.id = id :=
    Suite.id_of_load
  have met : AllMet runner.table (runner.suite.load (runner.volume session.state))
      (runner.findingOf session) ids ↔
        ∀ id ∈ ids, ∃ trial,
          runner.suite.load (runner.volume session.state) id = .ok trial ∧
            ((trial.verify runner.chain).run session).1 = runner.table.wanted id := by
    simp only [AllMet, findingOf, Trial.examine_outcome]
  rw [runner.run_all_eq_tally session pure steady listed]
  simp only [tally_eq_ok_iff named, met]
  refine ⟨⟨fun ⟨_, all, _⟩ => all, fun all => ⟨_, all, rfl⟩⟩, ?_⟩
  rintro summary ⟨-, rfl⟩
  have tracked := runner.table.countP_tracks_add_stale (Suite.nodup_ids listed)
  have untracked := List.length_eq_countP_add_countP runner.table.tracks (l := ids)
  simp only [countAll, Nat.zero_add]
  refine ⟨trivial, tracked, ?_⟩
  rw [untracked, Nat.add_comm]
  simp only [Bool.not_eq_true, Bool.decide_eq_false]

def sample : Runner Unit where
  volume _ :=
    { root := .directory
        [("pass", .directory [("a", .file [0x61]), ("b", .file [0x62])]),
          ("twins", .directory [("a", .file [0x61]), ("b", .file [0x62])])]
      workingDirectory := [] }
  suite :=
    { actualDirectory := "pass"
      explicitDirectory := "twins"
      globs := [Glob.automaton [.anyMany]]
      modules := ⟨#[], 0⟩ }
  table :=
    { entries := [⟨"b", .generateFailed, none⟩, ⟨"c", .parseFailed, none⟩]
      ordered := by decide
      named := by decide
      failing := by decide }
  chain :=
    { parse := fun _ source _ => ⟨.ok (.bare (.other source)), [], ()⟩
      generate := fun _ tree _ =>
        if tree.kind.name = "b" then ⟨.error ⟨"unknown kind"⟩, [], ()⟩
        else ⟨.ok tree.kind.name, [], ()⟩ }

theorem sample_pure : sample.chain.Pure where
  parse _ _ _ _ := rfl
  generate _ _ _ _ := rfl

theorem run_all_eq_ok_iff_sample :
    ∃ summary, ((sample.run []).run ⟨(), [], []⟩).1 = .ok summary ∧
      summary.total = 2 ∧ summary.passed = 1 ∧ summary.expectedFailures = 1 := by
  have listed : sample.suite.ids (sample.volume ()) = .ok ["a", "b"] := rfl
  obtain ⟨fine, counts⟩ := run_all_eq_ok_iff sample ⟨(), [], []⟩ sample_pure
    (fun _ _ _ => rfl) listed
  have met : ∀ id ∈ ["a", "b"], ∃ trial,
      sample.suite.load (sample.volume ()) id = .ok trial ∧
        ((trial.verify sample.chain).run ⟨(), [], []⟩).1 = sample.table.wanted id := by
    intro id member
    rcases List.mem_pair.1 member with rfl | rfl
    · exact ⟨⟨"a", "a", "a", .script⟩, rfl, rfl⟩
    · exact ⟨⟨"b", "b", "b", .script⟩, rfl, rfl⟩
  obtain ⟨summary, ran⟩ := fine.2 met
  have stale : (sample.table.stale ["a", "b"]).length = 1 := by decide
  have size : sample.table.size = 2 := rfl
  obtain ⟨total, expected, passed⟩ := counts summary ran
  rw [stale, size] at expected
  simp only [List.length_cons, List.length_nil] at total
  exact ⟨summary, ran, by omega, by omega, by omega⟩

end Runner

end Reparse
