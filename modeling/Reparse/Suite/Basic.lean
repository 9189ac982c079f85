import Reparse.Pattern.Glob
import Reparse.Pattern.Regex
import Reparse.Storage.Volume
import Reparse.Suite.Layout
import Reparse.Trial.Examination

/-!
Suites of trials on a volume.

A trial has its source in one directory and its explicit twin, under the same name, in another one.
The name is the identifier of the trial.
-/

namespace Reparse

structure Suite where
  actualDirectory : String
  explicitDirectory : String
  globs : List (Pattern.Automaton UInt8)
  modules : Pattern.Automaton Char

inductive SuiteError where
  | invalidPattern (pattern : String)
  | missingDirectory (path : String)
  | missingExplicit (id path : String)
  | unreadable (path : String) (cause : StorageError)
deriving DecidableEq

namespace SuiteError

def code : SuiteError → String
  | .invalidPattern _ => "E-CONFIG"
  | _ => "E-IO"

def message : SuiteError → String
  | .invalidPattern pattern => s!"invalid pattern `{pattern}`: it is not well formed"
  | .missingDirectory path => s!"corpus directory {path} does not exist"
  | .missingExplicit id path => s!"case `{id}` has no explicit variant at {path}"
  | .unreadable path cause => s!"failed to read {path}: {cause.message}"

end SuiteError

namespace Suite

def parseGlobs : List String → Except SuiteError (List (List Glob.Token))
  | [] => .ok []
  | text :: rest =>
      match Glob.parse? text with
      | none => .error (.invalidPattern text)
      | some glob => (parseGlobs rest).map (glob :: ·)

def readGlobs (texts : List String) : Except SuiteError (List (List Glob.Token)) :=
  match parseGlobs texts with
  | .error error => .error error
  | .ok globs =>
      if globs.all Glob.isShallow then .ok globs
      else .error (.invalidPattern (", ".intercalate texts))

/-- Open the suite of a layout.  Patterns come before directories, and the directory of the sources
before that of their twins. -/
def ofLayout (volume : Volume) (layout : Layout) : Except SuiteError Suite :=
  match readGlobs layout.globs with
  | .error error => .error error
  | .ok globs =>
      match Pattern.parse? layout.modulePattern with
      | none => .error (.invalidPattern layout.modulePattern)
      | some modules =>
          let actual := Path.join layout.root layout.actualDirectory
          let explicit := Path.join layout.root layout.explicitDirectory
          if !volume.isDirectory actual then
            .error (.missingDirectory actual)
          else if !volume.isDirectory explicit then
            .error (.missingDirectory explicit)
          else
            .ok
              { actualDirectory := actual
                explicitDirectory := explicit
                globs := globs.map Glob.automaton
                modules := modules }

def goalOf (suite : Suite) (id : String) : Goal :=
  if Pattern.isFoundIn suite.modules id then .module else .script

def includes (suite : Suite) (name : String) : Bool :=
  suite.globs.any fun glob => Glob.accepts glob name

def ids (suite : Suite) (volume : Volume) : Except SuiteError (List String) :=
  match volume.filesIn suite.actualDirectory with
  | .error cause => .error (.unreadable suite.actualDirectory cause)
  | .ok names =>
      .ok (Dictionary.ofList ((names.filter suite.includes).map fun name => (name, ()))).names

def readSource (volume : Volume) (path : String) : Except SuiteError String :=
  (volume.readText path).mapError (.unreadable path)

/-- Load a trial.  Its identifier need not be one of `ids`. -/
def load (suite : Suite) (volume : Volume) (id : String) : Except SuiteError Trial :=
  match readSource volume (Path.join suite.actualDirectory id) with
  | .error error => .error error
  | .ok actual =>
      let explicitPath := Path.join suite.explicitDirectory id
      if volume.isFile explicitPath then
        match readSource volume explicitPath with
        | .error error => .error error
        | .ok explicit =>
            .ok { id := id, actual := actual, explicit := explicit, goal := suite.goalOf id }
      else
        .error (.missingExplicit id explicitPath)

end Suite

end Reparse
