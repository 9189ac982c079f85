namespace Reparse

structure Notice where
  code : String
  message : String
  source : Option String := none
deriving DecidableEq

namespace Notice

def hintFor? (code : String) : Option String :=
  if code = "E-IO" then
    some "check the configured paths and file permissions."
  else if code = "E-CONFIG" then
    some "run `roundtrip init` for a template configuration."
  else if code = "E-XFAIL-TABLE" then
    some "every entry needs a unique, non-empty id and a failure code."
  else if code = "E-UNEXPECTED-FAIL" then
    some "fix the regression, or record the case in the xfail table with its cause."
  else if code = "E-WRONG-CAUSE" then
    some "the known defect changed shape; update the recorded cause."
  else if code = "E-UNEXPECTED-PASS" then
    some "the case is fixed; remove its xfail entry."
  else
    none

def hint? (notice : Notice) : Option String :=
  hintFor? notice.code

def sourceText (notice : Notice) : String :=
  match notice.source with
  | some source => s!"{source}: "
  | none => ""

def hintText (notice : Notice) : String :=
  match notice.hint? with
  | some hint => s!" (hint: {hint})"
  | none => ""

def text (notice : Notice) : String :=
  s!"{notice.sourceText}{notice.code}: {notice.message}{notice.hintText}"

end Notice

end Reparse
