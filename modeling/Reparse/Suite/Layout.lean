namespace Reparse

structure Layout where
  root : String
  actualDirectory : String := "pass"
  explicitDirectory : String := "pass-explicit"
  globs : List String := ["*.js"]
  modulePattern : String := "\\.module\\.js$"
deriving DecidableEq

end Reparse
