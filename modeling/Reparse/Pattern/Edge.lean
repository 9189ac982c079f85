import Reparse.Pattern.ClassName

namespace Reparse

namespace Pattern

inductive WordRule where
  | edge
  | noEdge
  | start
  | stop
  | noneBefore
  | noneAfter
deriving DecidableEq

inductive Edge where
  | textStart
  | textEnd
  /-- `returns` tells that a carriage return ends a line too. -/
  | lineStart (returns : Bool)
  | lineEnd (returns : Bool)
  | word (rule : WordRule) (allScripts : Bool)
deriving DecidableEq

namespace WordRule

def holds : WordRule → Bool → Bool → Bool
  | .edge, before, after => before != after
  | .noEdge, before, after => before == after
  | .start, before, after => !before && after
  | .stop, before, after => before && !after
  | .noneBefore, before, _ => !before
  | .noneAfter, _, after => !after

def ofName? (name : String) : Option WordRule :=
  if name = "start" then some .start
  else if name = "end" then some .stop
  else if name = "start-half" then some .noneBefore
  else if name = "end-half" then some .noneAfter
  else none

end WordRule

namespace Edge

def test : Edge → Option Char → Option Char → Bool
  | .textStart => fun before _ => before.isNone
  | .textEnd => fun _ after => after.isNone
  | .lineStart false => fun before _ => before.isNone || before == some '\n'
  | .lineStart true => fun before after =>
      before.isNone || before == some '\n' || (before == some '\r' && after != some '\n')
  | .lineEnd false => fun _ after => after.isNone || after == some '\n'
  | .lineEnd true => fun before after =>
      after.isNone || after == some '\r' || (after == some '\n' && before != some '\r')
  | .word rule allScripts =>
      let words := if allScripts then CharacterProperty.wordCharacters else ClassName.asciiWord
      let isWord := words.test
      fun before after => rule.holds (before.any isWord) (after.any isWord)

end Edge

end Pattern

end Reparse
