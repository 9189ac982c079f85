namespace Reparse

inductive Goal where
  | script
  | module
deriving DecidableEq

def Goal.name : Goal → String
  | .script => "script"
  | .module => "module"

structure GenerateOptions where
  retainLines : Bool
  retainFunctionParens : Bool
  comments : Bool
  compact : Bool
deriving DecidableEq

/-- Keep nothing and write as compactly as possible, so that reparsing sees little formatting. -/
def GenerateOptions.roundTrip : GenerateOptions where
  retainLines := false
  retainFunctionParens := false
  comments := false
  compact := true

end Reparse
