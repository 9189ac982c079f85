import Reparse.CommandLine.Arguments
import Reparse.Expectation.File
import Reparse.Notice
import Reparse.Suite.Run

/-!
What the program does and says.

It ends with zero if all is well, with one if a trial missed its expectation, and with two if there
is something wrong with the arguments, the settings or the files.
-/

namespace Reparse

namespace CommandLine

structure Conclusion where
  exit : Nat
  output : String := ""
  errors : String := ""
  events : List Event := []
  volume : Volume

structure Desk where
  launcher : Launcher
  volume : Volume

namespace Desk

def succeed (desk : Desk) (output : String) : Conclusion where
  exit := 0
  output := output
  volume := desk.volume

def refuse (desk : Desk) (errors : String) : Conclusion where
  exit := 2
  errors := errors
  volume := desk.volume

def refuseWith (desk : Desk) (notice : Notice) : Conclusion :=
  desk.refuse (notice.text ++ "\n")

/-- End because there are no settings, and show how they are written if the file is missing. -/
def refuseSettings (desk : Desk) (path : String) (error : SettingsError) : Conclusion :=
  let notice : Notice := { code := error.code, message := error.message, source := some path }
  let help :=
    match error with
    | .missing path =>
        let template := Settings.template
        s!"create {path} with:\n\n{template}\n"
    | _ => ""
  desk.refuse (notice.text ++ "\n" ++ help)

def refuseSuite (desk : Desk) (error : SuiteError) : Conclusion :=
  desk.refuseWith { code := error.code, message := error.message }

def loadTable (desk : Desk) (settings : Settings) : Except Notice ExpectationTable :=
  match settings.tablePath with
  | none => .ok .empty
  | some path =>
      (ExpectationTable.load desk.volume path).mapError fun error =>
        { code := error.code, message := error.message, source := some path }

def withSuite (desk : Desk) (path : String)
    (next : Settings → ExpectationTable → Suite → Conclusion) : Conclusion :=
  match Settings.load desk.volume path with
  | .error error => desk.refuseSettings path error
  | .ok settings =>
      match desk.loadTable settings with
      | .error notice => desk.refuseWith notice
      | .ok table =>
          match Suite.ofLayout desk.volume settings.layout with
          | .error error => desk.refuseSuite error
          | .ok suite => next settings table suite

def countsText (summary : Summary) : String :=
  s!"{summary.passed} passed, {summary.expectedFailures} failed as expected"

def failureText (failure : RunFailure) : String :=
  let notice : Notice :=
    { code := failure.mismatch.code
      message := failure.mismatch.message
      source := some failure.mismatch.id }
  let report := (failure.finding.report.map Report.text).getD ""
  let description := failure.finding.outcome.description
  let counts := countsText failure.summary
  s!"{notice.text}\noutcome on re-run: {description}\n{report}" ++
    s!"stopped after {failure.summary.total} cases ({counts})\n"

def run (desk : Desk) (path : String) (chosen : List String) : Conclusion :=
  desk.withSuite path fun settings table suite =>
    let runner : Runner Volume :=
      { volume := id
        suite := suite
        table := table
        chain := .ofCommands desk.launcher settings.parser settings.generator }
    let (result, session) := (runner.run chosen).run { state := desk.volume }
    let desk := { desk with volume := session.state }
    match result with
    | .ok summary =>
        { desk.succeed s!"ok: {summary.total} cases, {countsText summary}\n" with
          events := session.events }
    | .error (.mismatch failure) =>
        { exit := 1
          errors := failureText failure
          events := session.events
          volume := desk.volume }
    | .error (.suite error) => { desk.refuseSuite error with events := session.events }

def checkTable (desk : Desk) (path : String) : Conclusion :=
  desk.withSuite path fun _ table suite =>
    match suite.ids desk.volume with
    | .error error => desk.refuseSuite error
    | .ok ids =>
        let stale := table.stale ids
        let lines := stale.map fun entry => s!"stale: {entry.id} ({entry.expected.code})\n"
        desk.succeed (String.join lines ++
          s!"ok: {table.size} xfail entries, {stale.length} stale, {ids.length} corpus cases\n")

def writeTemplate (desk : Desk) (path : String) : Conclusion :=
  if desk.volume.itemExists path then
    desk.refuseWith
      { code := "E-CONFIG", message := "config file already exists", source := some path }
  else
    match desk.volume.write path (Utf8.encode Settings.template) with
    | .error cause =>
        desk.refuseWith
          { code := "E-IO"
            message := s!"failed to write config: {cause.message}"
            source := some path }
    | .ok volume =>
        { desk.succeed s!"wrote {path}\n" with volume := volume }

def helpText : Option Command → String
  | none =>
      let usage := usageOf none
      s!"Parse/generate round-trip consistency checker\n\n{usage}\n\n" ++
        "Commands:\n" ++
        "  run     Verify every corpus case, stopping at the first unexpected result\n" ++
        "  xfails  Validate the expected-failure table against the corpus\n" ++
        "  init    Write a template configuration\n" ++
        "  help    Print this message or the help of the given subcommand(s)\n\n" ++
        "Options:\n  -h, --help  Print help\n"
  | some .run =>
      let usage := usageOf (some .run)
      s!"Verify every corpus case, stopping at the first unexpected result\n\n{usage}\n\n" ++
        "Options:\n" ++
        "      --config <CONFIG>  [default: roundtrip.toml]\n" ++
        "      --case <CASES>     Only run these case identifiers\n" ++
        "  -v, --verbose          \n" ++
        "  -h, --help             Print help\n"
  | some command =>
      let about :=
        if command = .xfails then
          "Validate the expected-failure table against the corpus"
        else
          "Write a template configuration"
      let usage := usageOf (some command)
      s!"{about}\n\n{usage}\n\n" ++
        "Options:\n" ++
        "      --config <CONFIG>  [default: roundtrip.toml]\n" ++
        "  -h, --help             Print help\n"

def carryOut (desk : Desk) (command : Command) (options : Options) : Conclusion :=
  let path := options.settingsPath.getD Settings.defaultPath
  match command with
  | .run => desk.run path options.chosen
  | .xfails => desk.checkTable path
  | .init => desk.writeTemplate path

def perform (desk : Desk) (arguments : List String) : Conclusion :=
  match read arguments with
  | .perform command options => desk.carryOut command options
  | .help command => desk.succeed (helpText command)
  | .refuse error => desk.refuse error.message

end Desk

end CommandLine

end Reparse
