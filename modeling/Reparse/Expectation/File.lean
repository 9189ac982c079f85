import Reparse.Expectation.Table
import Reparse.Storage.Volume
import Reparse.Toml.Reader
import Reparse.Toml.Record

namespace Reparse

inductive TableFileError where
  | unreadable (path : String) (cause : StorageError)
  | malformed
  | invalid (error : TableError)
deriving DecidableEq

namespace TableFileError

def code : TableFileError → String
  | .unreadable .. => "E-IO"
  | .malformed => "E-XFAIL-TABLE"
  | .invalid _ => "E-XFAIL-TABLE"

def message : TableFileError → String
  | .unreadable path cause => s!"failed to read {path}: {cause.message}"
  | .malformed => "invalid xfail table: the file is no list of expected failures"
  | .invalid error => error.message

end TableFileError

/-- An outcome by its code, alone or as the name of something empty. -/
def Outcome.ofToml? : Toml.Value → Option Outcome
  | .string code => ofCode? code
  | .table _ [(code, .table _ [])] => ofCode? code
  | .table _ [(code, .array [])] => ofCode? code
  | _ => none

def Expectation.ofToml? (value : Toml.Value) : Option Expectation := do
  match ← value.fields? ["id", "expect", "reason"] with
  | [id, expected, reason] =>
      return {
        id := ← Toml.required? Toml.Value.text? id
        expected := ← Toml.required? Outcome.ofToml? expected
        reason := ← Toml.orElse? (fun value => value.text?.map some) none reason }
  | _ => none

namespace ExpectationTable

def recordsOf? (text : String) : Option (List Expectation) := do
  match ← Toml.fields? ["xfail"] (← Toml.parse? text.toList) with
  | [records] =>
      Toml.orElse? (fun value => value.items? >>= List.mapM Expectation.ofToml?) [] records
  | _ => none

def ofText (text : String) : Except TableFileError ExpectationTable :=
  match recordsOf? text with
  | none => .error .malformed
  | some entries => (ofList entries).mapError .invalid

def load (volume : Volume) (path : String) : Except TableFileError ExpectationTable :=
  match volume.readText path with
  | .error cause => .error (.unreadable path cause)
  | .ok text => ofText text

end ExpectationTable

end Reparse
