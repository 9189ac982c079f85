namespace Reparse

namespace Path

def isAbsolute (path : String) : Bool :=
  path.toList.head? == some '/'

/-- A path as seen from a base directory.  An absolute path stays as it is. -/
def join (base path : String) : String :=
  if isAbsolute path || base.isEmpty || base.toList.getLast? == some '/' then
    if isAbsolute path then path else base ++ path
  else
    base ++ "/" ++ path

/-- A reversed path without the slashes and single points at its end; a leading slash or a single
point alone stays. -/
def trimReversed : List Char → List Char
  | '/' :: c :: rest => trimReversed (c :: rest)
  | '.' :: '/' :: rest => trimReversed ('/' :: rest)
  | path => path

def parent? (path : String) : Option String :=
  let trimmed := trimReversed path.toList.reverse
  match trimmed with
  | [] | ['/'] => none
  | _ => some (String.ofList (trimReversed (trimmed.dropWhile (· != '/'))).reverse)

def splitSlashes : List Char → List (List Char)
  | [] => [[]]
  | c :: rest =>
      match splitSlashes rest with
      | [] => [[c]]
      | name :: names => if c = '/' then [] :: name :: names else (c :: name) :: names

def names (path : String) : List String :=
  ((splitSlashes path.toList).filter (!·.isEmpty)).map String.ofList

def wantsDirectory (path : String) : Bool :=
  path.toList.getLast? == some '/'

end Path

end Reparse
