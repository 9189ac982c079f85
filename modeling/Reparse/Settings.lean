import Reparse.Storage.Volume
import Reparse.Suite.Layout
import Reparse.Toml.Reader
import Reparse.Toml.Record
import Reparse.Tool.Command

/-!
The settings of a run, and the file that holds them.

Relative paths in the file are seen from the directory of the file.
-/

namespace Reparse

structure Settings where
  layout : Layout
  parser : Command
  generator : Command
  tablePath : Option String
deriving DecidableEq

inductive ToolRole where
  | parser
  | generator
deriving DecidableEq

def ToolRole.name : ToolRole → String
  | .parser => "parser"
  | .generator => "generator"

inductive SettingsError where
  | missing (path : String)
  | unreadable (path : String) (cause : StorageError)
  | malformed
  | unsupportedVersion (version : Nat)
  | emptyCommand (role : ToolRole)
deriving DecidableEq

namespace SettingsError

def code : SettingsError → String
  | .unreadable .. => "E-IO"
  | _ => "E-CONFIG"

def message : SettingsError → String
  | .missing path => s!"config file {path} not found"
  | .unreadable path cause => s!"failed to read {path}: {cause.message}"
  | .malformed => "invalid config: the file is not well formed"
  | .unsupportedVersion version =>
      s!"invalid config: unsupported config version {version}; expected 1"
  | .emptyCommand role => s!"invalid config: {role.name}.command must not be empty"

end SettingsError

namespace Settings

def defaultPath : String := "roundtrip.toml"

def template : String :=
  "version = 1

[corpus]
root = \"test262-parser-tests\"
actual_dir = \"pass\"
explicit_dir = \"pass-explicit\"
include = [\"*.js\"]
module_pattern = '\\.module\\.js$'

[parser]
# Reads source on stdin, receives `--source-type script|module`, prints the tree as JSON.
command = [\"node\", \"tools/parse.js\"]

[generator]
# Reads \x7b\"tree\": ..., \"options\": ...\x7d on stdin, prints generated source.
command = [\"node\", \"tools/generate.js\"]

[xfail]
path = \"xfails/pass.toml\"
"

structure Content where
  version : Nat
  layout : Layout
  parser : List String
  generator : List String
  tablePath : Option String

def supportedVersion : Nat := 1

def largestVersion : Nat := 0xffffffff

def version? (value : Toml.Value) : Option Nat := do
  let version ← value.integer?
  if 0 ≤ version ∧ version ≤ largestVersion then
    return version.toNat
  else
    none

/-- The section of the suite.  What it leaves out is as in `Layout`. -/
def layout? (value : Toml.Value) : Option Layout := do
  match ← value.fields? ["root", "actual_dir", "explicit_dir", "include", "module_pattern"] with
  | [root, actual, explicit, globs, modulePattern] =>
      let standard : Layout := { root := ← Toml.required? Toml.Value.text? root }
      return { standard with
        actualDirectory := ← Toml.orElse? Toml.Value.text? standard.actualDirectory actual
        explicitDirectory := ← Toml.orElse? Toml.Value.text? standard.explicitDirectory explicit
        globs := ← Toml.orElse? Toml.Value.texts? standard.globs globs
        modulePattern := ← Toml.orElse? Toml.Value.text? standard.modulePattern modulePattern }
  | _ => none

def command? (value : Toml.Value) : Option (List String) := do
  match ← value.fields? ["command"] with
  | [command] => Toml.required? Toml.Value.texts? command
  | _ => none

def tablePath? (value : Toml.Value) : Option (Option String) := do
  match ← value.fields? ["path"] with
  | [path] => return some (← Toml.required? Toml.Value.text? path)
  | _ => none

def contentOf? (text : String) : Option Content := do
  let document ← Toml.parse? text.toList
  match ← Toml.fields? ["version", "corpus", "parser", "generator", "xfail"] document with
  | [version, corpus, parser, generator, xfail] =>
      return {
        version := ← Toml.required? version? version
        layout := ← Toml.required? layout? corpus
        parser := ← Toml.required? command? parser
        generator := ← Toml.required? command? generator
        tablePath := ← Toml.orElse? tablePath? none xfail }
  | _ => none

def ofText (text base : String) : Except SettingsError Settings :=
  match contentOf? text with
  | none => .error .malformed
  | some content =>
      if content.version ≠ supportedVersion then
        .error (.unsupportedVersion content.version)
      else
        match Command.ofList? content.parser, Command.ofList? content.generator with
        | none, _ => .error (.emptyCommand .parser)
        | _, none => .error (.emptyCommand .generator)
        | some parser, some generator =>
            .ok
              { layout := { content.layout with root := Path.join base content.layout.root }
                parser := parser
                generator := generator
                tablePath := content.tablePath.map (Path.join base) }

def load (volume : Volume) (path : String) : Except SettingsError Settings :=
  if volume.itemExists path then
    match volume.readText path with
    | .error cause => .error (.unreadable path cause)
    | .ok text => ofText text ((Path.parent? path).getD ".")
  else
    .error (.missing path)

end Settings

end Reparse
