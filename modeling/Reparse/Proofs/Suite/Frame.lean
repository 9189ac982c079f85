import Reparse.Proofs.Suite.Run
import Reparse.Proofs.Tool.Frame

namespace Reparse

variable {σ : Type} {own : Event → Prop}

namespace Trial

theorem framed_regenerate (chain : Toolchain σ) (trial : Trial) (traced : Bool)
    (tree : Ast.Node) : Framed chain own (trial.regenerate chain traced tree) := by
  apply Framed.bind (.askGenerate tree .roundTrip)
  intro written
  cases written with
  | error error => exact .pure _
  | ok generated =>
      apply Framed.bind (.askParse generated trial.goal)
      intro read
      cases read with
      | error error => exact .pure _
      | ok reparsed => exact .pure _

theorem framed_examine (chain : Toolchain σ) (trial : Trial) (traced : Bool) :
    Framed chain own (trial.examine chain traced) := by
  apply Framed.bind (.askParse trial.actual trial.goal)
  intro actual
  cases actual with
  | error error => exact .pure _
  | ok tree =>
      apply Framed.bind (.askParse trial.explicit trial.goal)
      intro twin
      cases twin with
      | error error => exact .pure _
      | ok explicit =>
          dsimp only
          split
          · exact trial.framed_regenerate chain traced tree
          · exact .pure _

theorem framed_verify (chain : Toolchain σ) (trial : Trial) :
    Framed chain own (trial.verify chain) :=
  (trial.framed_examine chain false).bind fun _ => .pure _

end Trial

namespace Runner

theorem framed_step (runner : Runner σ) (summary : Summary) (trial : Trial) :
    Framed runner.chain (·.level ≠ .warn) (runner.step summary trial) := by
  apply Framed.bind (trial.framed_verify runner.chain)
  intro outcome
  cases runner.table.judge trial.id outcome with
  | ok verdict =>
      have quiet : (metEvent trial.id verdict).level ≠ .warn := by
        cases verdict <;> simp [metEvent, Event.level]
      exact .bind (.tell quiet) fun _ => .pure _
  | error mismatch =>
      apply Framed.bind (.tell (by simp [Event.level]))
      intro _
      exact (trial.framed_examine runner.chain true).bind fun _ => .pure _

-- Unfolding `load` while the two sides are compared does not end in reasonable time.
seal Suite.load in
theorem framed_runFrom (runner : Runner σ) (summary : Summary) (ids : List String) :
    Framed runner.chain (·.level ≠ .warn) (runner.runFrom summary ids) := by
  induction ids generalizing summary with
  | nil => exact .bind (.tell (by simp [Event.level])) fun _ => .pure _
  | cons id ids induction =>
      apply Framed.get
      · intro session
        cases runner.suite.load (runner.volume session.state) id with
        | error error => exact .pure _
        | ok trial =>
            apply Framed.bind (runner.framed_step summary trial)
            intro stepped
            cases stepped with
            | error error => exact .pure _
            | ok summary => exact induction summary
      · intro session other same
        rw [same]

end Runner

end Reparse
