namespace Reparse

structure Report where
  source : Option String := none
  explicitSource : Option String := none
  generated : Option String := none
  expectedTree : Option String := none
  actualTree : Option String := none
  toolError : Option String := none
deriving DecidableEq

namespace Report

def sections (report : Report) : List (String × String) :=
  [("source", report.source), ("explicit source", report.explicitSource),
    ("generated", report.generated), ("tool error", report.toolError),
    ("expected tree", report.expectedTree), ("actual tree", report.actualTree)].filterMap
      fun part => part.2.map fun body => (part.1, body)

def sectionText (part : String × String) : String :=
  s!"--- {part.1}\n{part.2}\n"

def text (report : Report) : String :=
  "\n".intercalate (report.sections.map sectionText)

end Report

end Reparse
