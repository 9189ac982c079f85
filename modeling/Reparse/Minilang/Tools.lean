import Reparse.Minilang.Parser
import Reparse.Minilang.Printer
import Reparse.Tool.Chain

namespace Reparse

namespace Minilang

/-- The tools answer alike in every state and leave it as it is. -/
def tools (σ : Type) (defect : Option Defect) : Toolchain σ where
  parse state source goal :=
    { answer := (parse source goal).mapError fun fault => ⟨fault.message⟩
      events := []
      state := state }
  generate state tree options :=
    { answer := (print defect tree options).mapError fun error => ⟨error.message⟩
      events := []
      state := state }

end Minilang

end Reparse
