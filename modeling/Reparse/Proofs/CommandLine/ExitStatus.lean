import Reparse.CommandLine.Perform
import Reparse.Proofs.Suite.Selection

namespace Reparse

/-- Programs whose status and output depend on their arguments and their input alone, and which
leave the files as they are. -/
def Launcher.ofAnswers (answer : Command → Bytes → Except String Completion) : Launcher :=
  fun command volume input => (answer command input, volume)

namespace Toolchain

variable {σ : Type} {chain : Toolchain σ}

structure Keeps (chain : Toolchain σ) : Prop where
  parse : ∀ state source goal, (chain.parse state source goal).state = state
  generate : ∀ state tree options, (chain.generate state tree options).state = state

theorem Keeps.make (keeps : chain.Keeps) (session : Session σ) (call : Call) :
    (chain.make session call).state = session.state := by
  cases call with
  | parse source goal => exact keeps.parse _ _ _
  | generate tree options => exact keeps.generate _ _ _

theorem Keeps.foldl_make (keeps : chain.Keeps) (session : Session σ) (calls : List Call) :
    (calls.foldl chain.make session).state = session.state := by
  induction calls generalizing session with
  | nil => rfl
  | cons call rest induction => exact (induction _).trans (keeps.make session call)

theorem keeps_ofCommands (answer : Command → Bytes → Except String Completion)
    (parser generator : Command) :
    (Toolchain.ofCommands (.ofAnswers answer) parser generator).Keeps where
  parse _ _ _ := rfl
  generate _ _ _ := rfl

theorem pure_ofCommands (answer : Command → Bytes → Except String Completion)
    (parser generator : Command) :
    (Toolchain.ofCommands (.ofAnswers answer) parser generator).Pure where
  parse _ _ _ _ := rfl
  generate _ _ _ _ := rfl

end Toolchain

theorem Runner.steady_of_keeps {σ : Type} (runner : Runner σ) (keeps : runner.chain.Keeps)
    (session after : Session σ) : runner.Steady session after := by
  intro made _ id
  rw [keeps.foldl_make]

namespace CommandLine

namespace Desk

/-- The settings load, the table of expected failures does where the settings name one, and the
suite opens. -/
structure Ready (volume : Volume) (path : String) (settings : Settings)
    (table : ExpectationTable) (suite : Suite) : Prop where
  settled : Settings.load volume path = .ok settings
  untracked : settings.tablePath = none → table = .empty
  tracked : ∀ file, settings.tablePath = some file → ExpectationTable.load volume file = .ok table
  opened : Suite.ofLayout volume settings.layout = .ok suite

def runner (launcher : Launcher) (settings : Settings) (table : ExpectationTable)
    (suite : Suite) : Runner Volume where
  volume := id
  suite := suite
  table := table
  chain := .ofCommands launcher settings.parser settings.generator

section Setup

variable {desk : Desk} {path : String} {settings : Settings} {table : ExpectationTable}
  {suite : Suite}

theorem loadTable_eq_ok_iff :
    desk.loadTable settings = .ok table ↔
      (settings.tablePath = none → table = .empty) ∧
        ∀ file, settings.tablePath = some file →
          ExpectationTable.load desk.volume file = .ok table := by
  rw [loadTable]
  cases settings.tablePath with
  | none => simp [eq_comm]
  | some file =>
      simp only [reduceCtorEq, false_implies, Option.some.injEq, forall_eq', true_and]
      cases ExpectationTable.load desk.volume file with
      | error error => simp [Except.mapError]
      | ok other => simp [Except.mapError]

theorem Ready.loadTable (ready : Ready desk.volume path settings table suite) :
    desk.loadTable settings = .ok table :=
  loadTable_eq_ok_iff.2 ⟨ready.untracked, ready.tracked⟩

/-- There is one choice at most of what is ready. -/
theorem Ready.exists_iff {volume : Volume} (ready : Ready volume path settings table suite)
    {property : Settings → ExpectationTable → Suite → Prop} :
    (∃ settings table suite, Ready volume path settings table suite ∧
      property settings table suite) ↔ property settings table suite := by
  constructor
  · rintro ⟨otherSettings, otherTable, otherSuite, other, holds⟩
    obtain rfl := Except.ok.inj (ready.settled.symm.trans other.settled)
    obtain rfl := Except.ok.inj (ready.opened.symm.trans other.opened)
    have tables : table = otherTable := by
      cases named : settings.tablePath with
      | none => rw [ready.untracked named, other.untracked named]
      | some file =>
          exact Except.ok.inj ((ready.tracked file named).symm.trans (other.tracked file named))
    rw [tables]
    exact holds
  · intro holds
    exact ⟨settings, table, suite, ready, holds⟩

theorem withSuite_of_ready (ready : Ready desk.volume path settings table suite)
    (next : Settings → ExpectationTable → Suite → Conclusion) :
    desk.withSuite path next = next settings table suite := by
  rw [withSuite, ready.settled]
  dsimp only
  rw [ready.loadTable]
  dsimp only
  rw [ready.opened]

/-- Where something is not ready the program refuses, whatever it would have done with the suite. -/
theorem withSuite_of_unready (desk : Desk)
    (unready : ∀ settings table suite, ¬Ready desk.volume path settings table suite) :
    ∃ errors, ∀ launcher next,
      withSuite ⟨launcher, desk.volume⟩ path next = refuse ⟨launcher, desk.volume⟩ errors := by
  cases settled : Settings.load desk.volume path with
  | error error =>
      refine ⟨(desk.refuseSettings path error).errors, fun launcher next => ?_⟩
      rw [withSuite, settled]
      rfl
  | ok settings =>
      cases loaded : desk.loadTable settings with
      | error notice =>
          refine ⟨notice.text ++ "\n", fun launcher next => ?_⟩
          have same : loadTable ⟨launcher, desk.volume⟩ settings = .error notice := loaded
          rw [withSuite, settled]
          dsimp only
          rw [same]
          rfl
      | ok table =>
          cases opened : Suite.ofLayout desk.volume settings.layout with
          | error error =>
              refine ⟨(desk.refuseSuite error).errors, fun launcher next => ?_⟩
              have same : loadTable ⟨launcher, desk.volume⟩ settings = .ok table := loaded
              rw [withSuite, settled]
              dsimp only
              rw [same]
              dsimp only
              rw [opened]
              rfl
          | ok suite =>
              obtain ⟨untracked, tracked⟩ := loadTable_eq_ok_iff.1 loaded
              exact absurd ⟨settled, untracked, tracked, opened⟩ (unready settings table suite)

end Setup

def exitOf : Except RunError Summary → Nat
  | .ok _ => 0
  | .error (.mismatch _) => 1
  | .error (.suite _) => 2

theorem exitOf_eq_zero_iff {result : Except RunError Summary} :
    exitOf result = 0 ↔ ∃ summary, result = .ok summary := by
  match result with
  | .ok summary => simp [exitOf]
  | .error (.mismatch failure) => simp [exitOf]
  | .error (.suite error) => simp [exitOf]

theorem exitOf_eq_one_iff {result : Except RunError Summary} :
    exitOf result = 1 ↔ ∃ failure, result = .error (.mismatch failure) := by
  match result with
  | .ok summary => simp [exitOf]
  | .error (.mismatch failure) => simp [exitOf]
  | .error (.suite error) => simp [exitOf]

theorem exitOf_le (result : Except RunError Summary) : exitOf result ≤ 2 := by
  match result with
  | .ok summary => simp [exitOf]
  | .error (.mismatch failure) => simp [exitOf]
  | .error (.suite error) => simp [exitOf]

theorem exit_run_of_ready {desk : Desk} {path : String} {settings : Settings}
    {table : ExpectationTable} {suite : Suite}
    (ready : Ready desk.volume path settings table suite) (chosen : List String) :
    (desk.run path chosen).exit =
      exitOf (((runner desk.launcher settings table suite).run chosen).run
        ⟨desk.volume, [], []⟩).1 := by
  rw [run, withSuite_of_ready ready, runner]
  dsimp only
  generalize StateT.run (Runner.run _ chosen) _ = ran
  obtain ⟨result, session⟩ := ran
  match result with
  | .ok summary => rfl
  | .error (.mismatch failure) => rfl
  | .error (.suite error) => rfl

section Run

variable {answer : Reparse.Command → Bytes → Except String Completion} {volume : Volume}
  {path : String} {settings : Settings} {table : ExpectationTable} {suite : Suite}

theorem exit_run_eq (ready : Ready volume path settings table suite) (chosen : List String) :
    (run ⟨.ofAnswers answer, volume⟩ path chosen).exit =
      match (runner (.ofAnswers answer) settings table suite).selected ⟨volume, [], []⟩ chosen with
      | .error _ => 2
      | .ok ids =>
          exitOf (Runner.tally table (suite.load volume)
            ((runner (.ofAnswers answer) settings table suite).findingOf ⟨volume, [], []⟩) {}
            ids) := by
  have pure := Toolchain.pure_ofCommands answer settings.parser settings.generator
  have keeps := Toolchain.keeps_ofCommands answer settings.parser settings.generator
  have folded := (runner (.ofAnswers answer) settings table suite).run_eq_tally ⟨volume, [], []⟩
    chosen pure (Runner.steady_of_keeps _ keeps _ _)
  rw [exit_run_of_ready ready, folded]
  cases (runner (.ofAnswers answer) settings table suite).selected ⟨volume, [], []⟩ chosen with
  | error error => rfl
  | ok ids => rfl

theorem exit_run_eq_zero_iff (ready : Ready volume path settings table suite)
    (chosen : List String) :
    (run ⟨.ofAnswers answer, volume⟩ path chosen).exit = 0 ↔
      ∃ ids, (runner (.ofAnswers answer) settings table suite).selected ⟨volume, [], []⟩ chosen =
          .ok ids ∧
        ∀ id ∈ ids, (runner (.ofAnswers answer) settings table suite).Yields ⟨volume, [], []⟩ id
          (table.wanted id) := by
  rw [exit_run_eq ready]
  cases (runner (.ofAnswers answer) settings table suite).selected ⟨volume, [], []⟩ chosen with
  | error error => simp
  | ok ids =>
      have named (id : String) (trial : Trial) : suite.load volume id = .ok trial → trial.id = id :=
        Suite.id_of_load
      have met := (runner (.ofAnswers answer) settings table suite).allMet_iff ⟨volume, [], []⟩ ids
      simp only [exitOf_eq_zero_iff, Runner.tally_eq_ok_iff named, Except.ok.injEq]
      constructor
      · rintro ⟨summary, all, -⟩
        exact ⟨ids, rfl, met.1 all⟩
      · rintro ⟨_, rfl, all⟩
        exact ⟨_, met.2 all, rfl⟩

theorem exit_run_eq_one_iff (ready : Ready volume path settings table suite)
    (chosen : List String) :
    (run ⟨.ofAnswers answer, volume⟩ path chosen).exit = 1 ↔
      ∃ ids, (runner (.ofAnswers answer) settings table suite).selected ⟨volume, [], []⟩ chosen =
          .ok ids ∧
        ∃ before id after outcome, ids = before ++ id :: after ∧
          (∀ other ∈ before, (runner (.ofAnswers answer) settings table suite).Yields
            ⟨volume, [], []⟩ other (table.wanted other)) ∧
          (runner (.ofAnswers answer) settings table suite).Yields ⟨volume, [], []⟩ id outcome ∧
          outcome ≠ table.wanted id := by
  rw [exit_run_eq ready]
  cases (runner (.ofAnswers answer) settings table suite).selected ⟨volume, [], []⟩ chosen with
  | error error => simp
  | ok ids =>
      have named (id : String) (trial : Trial) : suite.load volume id = .ok trial → trial.id = id :=
        Suite.id_of_load
      have met (before : List String) :=
        (runner (.ofAnswers answer) settings table suite).allMet_iff ⟨volume, [], []⟩ before
      simp only [exitOf_eq_one_iff, Runner.tally_eq_mismatch_iff named, Except.ok.injEq,
        Runner.outcome_findingOf]
      constructor
      · rintro ⟨before, id, after, trial, rfl, all, loaded, unwanted⟩
        exact ⟨_, rfl, before, id, after, _, rfl, (met before).1 all, ⟨trial, loaded, rfl⟩,
          unwanted⟩
      · rintro ⟨_, rfl, before, id, after, outcome, rfl, all, ⟨trial, loaded, rfl⟩, unwanted⟩
        exact ⟨before, id, after, trial, rfl, (met before).2 all, loaded, unwanted⟩

theorem exit_run_le (ready : Ready volume path settings table suite) (chosen : List String) :
    (run ⟨.ofAnswers answer, volume⟩ path chosen).exit ≤ 2 := by
  rw [exit_run_of_ready ready]
  exact exitOf_le _

end Run

/-- With programs that answer by their arguments and input, the program ends with zero exactly when
settings, table and suite are ready and all selected trials come to what is wanted of them, with
one exactly when these are ready and the first other trial is loaded and comes to something else,
and with two in all other cases.  Where they are not ready no launcher gets to do anything. -/
theorem exit_perform_run (answer : Reparse.Command → Bytes → Except String Completion)
    (volume : Volume) {arguments : List String} {options : Options}
    (parsed : read arguments = .perform .run options) :
    let exit := (perform ⟨.ofAnswers answer, volume⟩ arguments).exit
    let path := options.settingsPath.getD Settings.defaultPath
    let runner := runner (.ofAnswers answer)
    let start : Session Volume := ⟨volume, [], []⟩
    (exit = 0 ↔ ∃ settings table suite, Ready volume path settings table suite ∧
      ∃ ids, (runner settings table suite).selected start options.chosen = .ok ids ∧
        ∀ id ∈ ids, (runner settings table suite).Yields start id (table.wanted id)) ∧
    (exit = 1 ↔ ∃ settings table suite, Ready volume path settings table suite ∧
      ∃ ids, (runner settings table suite).selected start options.chosen = .ok ids ∧
        ∃ before id after outcome, ids = before ++ id :: after ∧
          (∀ other ∈ before,
            (runner settings table suite).Yields start other (table.wanted other)) ∧
          (runner settings table suite).Yields start id outcome ∧ outcome ≠ table.wanted id) ∧
    (exit = 0 ∨ exit = 1 ∨ exit = 2) ∧
    ((∀ settings table suite, ¬Ready volume path settings table suite) →
      ∃ errors, ∀ launcher,
        perform ⟨launcher, volume⟩ arguments = refuse ⟨launcher, volume⟩ errors) := by
  intro exit path runner start
  have performed (launcher : Launcher) :
      perform ⟨launcher, volume⟩ arguments = run ⟨launcher, volume⟩ path options.chosen := by
    rw [perform, parsed]
    rfl
  have exits : exit = (run ⟨.ofAnswers answer, volume⟩ path options.chosen).exit :=
    congrArg Conclusion.exit (performed _)
  rw [exits]
  by_cases prepared : ∃ settings table suite, Ready volume path settings table suite
  · obtain ⟨settings, table, suite, ready⟩ := prepared
    have bound : (run ⟨.ofAnswers answer, volume⟩ path options.chosen).exit ≤ 2 :=
      exit_run_le ready options.chosen
    refine ⟨?_, ?_, by omega, fun unready => absurd ready (unready _ _ _)⟩
    · refine (Iff.trans ?_ (exit_run_eq_zero_iff ready _).symm).symm
      exact ready.exists_iff
    · refine (Iff.trans ?_ (exit_run_eq_one_iff ready _).symm).symm
      exact ready.exists_iff
  · have unready (settings : Settings) (table : ExpectationTable) (suite : Suite) :
        ¬Ready volume path settings table suite :=
      fun ready => prepared ⟨settings, table, suite, ready⟩
    obtain ⟨errors, refused⟩ := withSuite_of_unready ⟨.ofAnswers answer, volume⟩ unready
    have two : (run ⟨.ofAnswers answer, volume⟩ path options.chosen).exit = 2 :=
      congrArg Conclusion.exit (refused _ _)
    rw [two]
    refine ⟨?_, ?_, .inr (.inr rfl), fun _ => ⟨errors, fun launcher => ?_⟩⟩
    · simp [unready]
    · simp [unready]
    · exact (performed launcher).trans (refused launcher _)

def sampleVolume : Volume where
  root := .directory
    [("known.toml", .file (Utf8.encode "[[xfail]]\nid = \"a.js\"\nexpect = \"PARSE_FAILED\"\n")),
      ("pass", .directory [("a.js", .file [0x61]), ("b.js", .file [0x62])]),
      ("pass-explicit", .directory [("a.js", .file [0x61]), ("b.js", .file [0x62])]),
      ("roundtrip.toml", .file (Utf8.encode
        "version = 1
[corpus]
root = \".\"
[parser]
command = [\"read\"]
[generator]
command = [\"write\"]
[xfail]
path = \"known.toml\"
"))]
  workingDirectory := []

theorem exit_perform_run_sample :
    ((perform ⟨.ofAnswers fun _ _ => .error "", sampleVolume⟩
        ["run", "--case", "a.js", "--case", "a.js"]).exit = 0 ∧
      ∃ settings table suite, Ready sampleVolume "roundtrip.toml" settings table suite ∧
        (runner (.ofAnswers fun _ _ => .error "") settings table suite).Yields
          ⟨sampleVolume, [], []⟩ "a.js" (table.wanted "a.js")) ∧
    (perform ⟨.ofAnswers fun _ _ => .error "", sampleVolume⟩ ["run", "-v"]).exit = 1 ∧
      ∃ settings table suite, Ready sampleVolume "roundtrip.toml" settings table suite ∧
        ∃ id outcome, (runner (.ofAnswers fun _ _ => .error "") settings table suite).Yields
          ⟨sampleVolume, [], []⟩ id outcome ∧ outcome ≠ table.wanted id := by
  have zero : (perform ⟨.ofAnswers fun _ _ => .error "", sampleVolume⟩
      ["run", "--case", "a.js", "--case", "a.js"]).exit = 0 := by decide +kernel
  have one : (perform ⟨.ofAnswers fun _ _ => .error "", sampleVolume⟩ ["run", "-v"]).exit = 1 := by
    decide +kernel
  refine ⟨⟨zero, ?_⟩, one, ?_⟩
  · obtain ⟨settings, table, suite, ready, ids, chosen, all⟩ :=
      (exit_perform_run (fun _ _ => .error "") sampleVolume rfl).1.1 zero
    refine ⟨settings, table, suite, ready, all "a.js" ?_⟩
    cases chosen
    decide
  · obtain ⟨settings, table, suite, ready, ids, -, -, id, -, outcome, -, -, yields, unwanted⟩ :=
      (exit_perform_run (fun _ _ => .error "") sampleVolume rfl).2.1.1 one
    exact ⟨settings, table, suite, ready, id, outcome, yields, unwanted⟩

end Desk

end CommandLine

end Reparse
