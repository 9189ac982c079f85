import Reparse.Proofs.Tool.Session
import Reparse.Trial.Examination

/-!
The course of a trial, told by the answers of the tools.

Each reply is the reply in the state that the calls before it leave, so tools may answer the same
question in different ways.
-/

namespace Reparse

namespace Outcome

def callCount : Outcome → Nat
  | .parseFailed => 1
  | .parseExplicitFailed => 2
  | .explicitTreesNotEqual => 2
  | .generateFailed => 3
  | .generatedNotParsed => 4
  | .generatedTreesNotEqual => 4
  | .success => 4

end Outcome

namespace Trial

variable {σ : Type} (chain : Toolchain σ) (trial : Trial) (start : σ)

def actualReply : Reply σ Ast.Node :=
  chain.parse start trial.actual trial.goal

def explicitReply : Reply σ Ast.Node :=
  chain.parse (trial.actualReply chain start).state trial.explicit trial.goal

def generation (tree : Ast.Node) : Reply σ String :=
  chain.generate (trial.explicitReply chain start).state tree .roundTrip

def reparse (tree : Ast.Node) (generated : String) : Reply σ Ast.Node :=
  chain.parse (trial.generation chain start tree).state generated trial.goal

def protocolCalls (tree : Ast.Node) (generated : String) : List Call :=
  [.parse trial.actual trial.goal, .parse trial.explicit trial.goal, .generate tree .roundTrip,
    .parse generated trial.goal]

/-- Both sources are read, as trees with one canonical text; the tree is that of the first. -/
structure Twins (tree : Ast.Node) : Prop where
  actual : (trial.actualReply chain start).answer = .ok tree
  explicit : ∃ explicit, (trial.explicitReply chain start).answer = .ok explicit ∧
    tree.canonicalText = explicit.canonicalText

/-- The stage that decides a trial, what there is to report of it, and the calls made until then. -/
inductive Course : Outcome → Option Report → List Call → Prop where
  | parseFailed {error : ToolError}
      (refused : (trial.actualReply chain start).answer = .error error) :
      Course .parseFailed
        (some { source := some trial.actual, toolError := some error.message })
        [.parse trial.actual trial.goal]
  | parseExplicitFailed {tree : Ast.Node} {error : ToolError}
      (actual : (trial.actualReply chain start).answer = .ok tree)
      (refused : (trial.explicitReply chain start).answer = .error error) :
      Course .parseExplicitFailed
        (some { explicitSource := some trial.explicit, toolError := some error.message })
        [.parse trial.actual trial.goal, .parse trial.explicit trial.goal]
  | explicitTreesNotEqual {tree explicit : Ast.Node}
      (actual : (trial.actualReply chain start).answer = .ok tree)
      (twin : (trial.explicitReply chain start).answer = .ok explicit)
      (different : tree.canonicalText ≠ explicit.canonicalText) :
      Course .explicitTreesNotEqual
        (some
          { source := some trial.actual
            explicitSource := some trial.explicit
            expectedTree := some tree.canonicalText
            actualTree := some explicit.canonicalText })
        [.parse trial.actual trial.goal, .parse trial.explicit trial.goal]
  | generateFailed {tree : Ast.Node} {error : ToolError} (twins : trial.Twins chain start tree)
      (refused : (trial.generation chain start tree).answer = .error error) :
      Course .generateFailed
        (some { source := some trial.actual, toolError := some error.message })
        [.parse trial.actual trial.goal, .parse trial.explicit trial.goal,
          .generate tree .roundTrip]
  | generatedNotParsed {tree : Ast.Node} {generated : String} {error : ToolError}
      (twins : trial.Twins chain start tree)
      (written : (trial.generation chain start tree).answer = .ok generated)
      (refused : (trial.reparse chain start tree generated).answer = .error error) :
      Course .generatedNotParsed
        (some
          { source := some trial.actual
            generated := some generated
            toolError := some error.message })
        (trial.protocolCalls tree generated)
  | generatedTreesNotEqual {tree reparsed : Ast.Node} {generated : String}
      (twins : trial.Twins chain start tree)
      (written : (trial.generation chain start tree).answer = .ok generated)
      (read : (trial.reparse chain start tree generated).answer = .ok reparsed)
      (different : tree.canonicalText ≠ reparsed.canonicalText) :
      Course .generatedTreesNotEqual
        (some
          { source := some trial.actual
            generated := some generated
            expectedTree := some tree.canonicalText
            actualTree := some reparsed.canonicalText })
        (trial.protocolCalls tree generated)
  | success {tree reparsed : Ast.Node} {generated : String} (twins : trial.Twins chain start tree)
      (written : (trial.generation chain start tree).answer = .ok generated)
      (read : (trial.reparse chain start tree generated).answer = .ok reparsed)
      (same : tree.canonicalText = reparsed.canonicalText) :
      Course .success none (trial.protocolCalls tree generated)

variable {chain trial start}

theorem exists_course (chain : Toolchain σ) (trial : Trial) (start : σ) :
    ∃ outcome report calls, trial.Course chain start outcome report calls := by
  cases actual : (trial.actualReply chain start).answer with
  | error error => exact ⟨_, _, _, .parseFailed actual⟩
  | ok tree =>
      cases twin : (trial.explicitReply chain start).answer with
      | error error => exact ⟨_, _, _, .parseExplicitFailed actual twin⟩
      | ok explicit =>
          by_cases same : tree.canonicalText = explicit.canonicalText
          · have twins : trial.Twins chain start tree := ⟨actual, explicit, twin, same⟩
            cases written : (trial.generation chain start tree).answer with
            | error error => exact ⟨_, _, _, .generateFailed twins written⟩
            | ok generated =>
                cases read : (trial.reparse chain start tree generated).answer with
                | error error => exact ⟨_, _, _, .generatedNotParsed twins written read⟩
                | ok reparsed =>
                    by_cases same : tree.canonicalText = reparsed.canonicalText
                    · exact ⟨_, _, _, .success twins written read same⟩
                    · exact ⟨_, _, _, .generatedTreesNotEqual twins written read same⟩
          · exact ⟨_, _, _, .explicitTreesNotEqual actual twin same⟩

theorem Twins.examine_run {tree : Ast.Node} {session : Session σ}
    (twins : trial.Twins chain session.state tree) (traced : Bool) :
    (trial.examine chain traced).run session =
      (trial.regenerate chain traced tree).run
        ([.parse trial.actual trial.goal, .parse trial.explicit trial.goal].foldl chain.make
          session) := by
  obtain ⟨actual, explicit, twin, same⟩ := twins
  simp only [explicitReply, actualReply] at actual twin
  simp only [examine, chain.run_askParse_bind, chain.state_make_parse, actual, twin, if_pos same]
  rfl

theorem Course.examine_run {session : Session σ} {outcome : Outcome} {report : Option Report}
    {calls : List Call} (course : trial.Course chain session.state outcome report calls)
    (traced : Bool) :
    (trial.examine chain traced).run session =
      (⟨outcome, if traced then report else none⟩, calls.foldl chain.make session) := by
  cases course with
  | parseFailed refused =>
      simp only [actualReply] at refused
      simp only [examine, chain.run_askParse_bind, refused]
      rfl
  | parseExplicitFailed actual refused =>
      simp only [explicitReply, actualReply] at actual refused
      simp only [examine, chain.run_askParse_bind, chain.state_make_parse, actual, refused]
      rfl
  | explicitTreesNotEqual actual twin different =>
      simp only [explicitReply, actualReply] at actual twin
      simp only [examine, chain.run_askParse_bind, chain.state_make_parse, actual, twin,
        if_neg different]
      rfl
  | generateFailed twins refused =>
      simp only [generation, explicitReply, actualReply] at refused
      rw [twins.examine_run]
      simp only [regenerate, chain.run_askGenerate_bind, List.foldl_cons, List.foldl_nil,
        chain.state_make_parse, refused]
      rfl
  | generatedNotParsed twins written refused =>
      simp only [reparse, generation, explicitReply, actualReply] at written refused
      rw [twins.examine_run]
      simp only [regenerate, chain.run_askGenerate_bind, chain.run_askParse_bind, List.foldl_cons,
        List.foldl_nil, chain.state_make_parse, chain.state_make_generate, written, refused]
      rfl
  | generatedTreesNotEqual twins written read different =>
      simp only [reparse, generation, explicitReply, actualReply] at written read
      rw [twins.examine_run]
      simp only [regenerate, chain.run_askGenerate_bind, chain.run_askParse_bind, List.foldl_cons,
        List.foldl_nil, chain.state_make_parse, chain.state_make_generate, written, read,
        compareGenerated, if_neg different]
      rfl
  | success twins written read same =>
      simp only [reparse, generation, explicitReply, actualReply] at written read
      rw [twins.examine_run]
      simp only [regenerate, chain.run_askGenerate_bind, chain.run_askParse_bind, List.foldl_cons,
        List.foldl_nil, chain.state_make_parse, chain.state_make_generate, written, read,
        compareGenerated, if_pos same]
      rw [ite_self]
      rfl

theorem Course.verify_run {session : Session σ} {outcome : Outcome} {report : Option Report}
    {calls : List Call} (course : trial.Course chain session.state outcome report calls) :
    (trial.verify chain).run session = (outcome, calls.foldl chain.make session) := by
  rw [verify, StateT.run_bind, course.examine_run false]
  rfl

theorem Course.unique {outcome otherOutcome : Outcome} {report otherReport : Option Report}
    {calls otherCalls : List Call} (course : trial.Course chain start outcome report calls)
    (other : trial.Course chain start otherOutcome otherReport otherCalls) :
    outcome = otherOutcome ∧ report = otherReport ∧ calls = otherCalls := by
  have run : (trial.examine chain true).run ⟨start, [], []⟩ = _ := course.examine_run true
  rw [Course.examine_run other true] at run
  obtain ⟨findings, sessions⟩ := Prod.mk.inj run
  obtain ⟨outcomes, reports⟩ := Finding.mk.inj findings
  have made := congrArg Session.calls sessions
  rw [chain.calls_foldl_make, chain.calls_foldl_make] at made
  exact ⟨outcomes.symm, reports.symm, made.symm⟩

theorem Twins.of_pure {tree : Ast.Node} (pure : chain.Pure)
    (twins : trial.Twins chain start tree) (other : σ) : trial.Twins chain other tree := by
  obtain ⟨actual, explicit, twin, same⟩ := twins
  exact ⟨(pure.parse _ _ _ _).trans actual, explicit, (pure.parse _ _ _ _).trans twin, same⟩

theorem Course.of_pure {outcome : Outcome} {report : Option Report} {calls : List Call}
    (pure : chain.Pure) (course : trial.Course chain start outcome report calls) (other : σ) :
    trial.Course chain other outcome report calls := by
  cases course with
  | parseFailed refused => exact .parseFailed ((pure.parse _ _ _ _).trans refused)
  | parseExplicitFailed actual refused =>
      exact .parseExplicitFailed ((pure.parse _ _ _ _).trans actual)
        ((pure.parse _ _ _ _).trans refused)
  | explicitTreesNotEqual actual twin different =>
      exact .explicitTreesNotEqual ((pure.parse _ _ _ _).trans actual)
        ((pure.parse _ _ _ _).trans twin) different
  | generateFailed twins refused =>
      exact .generateFailed (twins.of_pure pure other) ((pure.generate _ _ _ _).trans refused)
  | generatedNotParsed twins written refused =>
      exact .generatedNotParsed (twins.of_pure pure other)
        ((pure.generate _ _ _ _).trans written) ((pure.parse _ _ _ _).trans refused)
  | generatedTreesNotEqual twins written read different =>
      exact .generatedTreesNotEqual (twins.of_pure pure other)
        ((pure.generate _ _ _ _).trans written) ((pure.parse _ _ _ _).trans read) different
  | success twins written read same =>
      exact .success (twins.of_pure pure other) ((pure.generate _ _ _ _).trans written)
        ((pure.parse _ _ _ _).trans read) same

theorem examine_of_pure (pure : chain.Pure) (trial : Trial) (traced : Bool)
    (session other : Session σ) :
    ((trial.examine chain traced).run session).1 = ((trial.examine chain traced).run other).1 := by
  obtain ⟨outcome, report, calls, course⟩ := exists_course chain trial session.state
  rw [course.examine_run, (course.of_pure pure other.state).examine_run]

theorem examine_outcome (chain : Toolchain σ) (trial : Trial) (traced : Bool)
    (session : Session σ) :
    ((trial.examine chain traced).run session).1.outcome =
      ((trial.verify chain).run session).1 := by
  obtain ⟨outcome, report, calls, course⟩ := exists_course chain trial session.state
  rw [course.examine_run, course.verify_run]

theorem Course.isSome_report {outcome : Outcome} {report : Option Report} {calls : List Call}
    (course : trial.Course chain start outcome report calls) :
    report.isSome = true ↔ outcome ≠ .success := by
  cases course with
  | success => simp
  | _ => exact iff_of_true rfl (by simp)

theorem isSome_report_examine (chain : Toolchain σ) (trial : Trial) (session : Session σ) :
    ((trial.examine chain true).run session).1.report.isSome = true ↔
      ((trial.verify chain).run session).1 ≠ .success := by
  obtain ⟨outcome, report, calls, course⟩ := exists_course chain trial session.state
  rw [course.examine_run, course.verify_run, if_pos rfl]
  exact course.isSome_report

/-- The calls of a course are the first of those that a trial can make.  What it has the generator
write is the tree that the parser gave, and what it has read again is what the generator wrote. -/
theorem Course.calls_eq_take {outcome : Outcome} {report : Option Report} {calls : List Call}
    (course : trial.Course chain start outcome report calls) :
    ∃ tree generated, calls = (trial.protocolCalls tree generated).take outcome.callCount ∧
      (2 < outcome.callCount → (trial.actualReply chain start).answer = .ok tree) ∧
      (3 < outcome.callCount → (trial.generation chain start tree).answer = .ok generated) := by
  cases course with
  | parseFailed | parseExplicitFailed | explicitTreesNotEqual =>
      exact ⟨default, default, rfl, by simp [Outcome.callCount], by simp [Outcome.callCount]⟩
  | generateFailed twins refused =>
      exact ⟨_, default, rfl, fun _ => twins.actual, by simp [Outcome.callCount]⟩
  | generatedNotParsed twins written | generatedTreesNotEqual twins written
  | success twins written =>
      exact ⟨_, _, rfl, fun _ => twins.actual, fun _ => written⟩

/-- A trial makes a first part of the calls of its protocol.  Its outcome and its calls are those of
the one course that the answers lay out. -/
theorem verify_protocol (chain : Toolchain σ) (trial : Trial) (session : Session σ) :
    ∃ calls,
      ((trial.verify chain).run session).2 = calls.foldl chain.make session ∧
      ((trial.verify chain).run session).2.calls = session.calls ++ calls ∧
      (∃ tree generated,
        calls = (trial.protocolCalls tree generated).take
          ((trial.verify chain).run session).1.callCount ∧
        (2 < calls.length → (trial.actualReply chain session.state).answer = .ok tree) ∧
        (3 < calls.length → (trial.generation chain session.state tree).answer = .ok generated)) ∧
      ∀ outcome made, (∃ report, trial.Course chain session.state outcome report made) ↔
        ((trial.verify chain).run session).1 = outcome ∧ calls = made := by
  obtain ⟨outcome, report, calls, course⟩ := exists_course chain trial session.state
  rw [course.verify_run]
  refine ⟨calls, rfl, chain.calls_foldl_make session calls, ?_, fun stage made => ⟨?_, ?_⟩⟩
  · obtain ⟨tree, generated, taken, given, written⟩ := course.calls_eq_take
    have bound : calls.length ≤ outcome.callCount := by
      rw [taken]
      exact List.length_take_le _ _
    exact ⟨tree, generated, taken, fun long => given (Nat.lt_of_lt_of_le long bound),
      fun long => written (Nat.lt_of_lt_of_le long bound)⟩
  · rintro ⟨otherReport, otherCourse⟩
    obtain ⟨outcomes, -, made⟩ := course.unique otherCourse
    exact ⟨outcomes, made⟩
  · rintro ⟨rfl, rfl⟩
    exact ⟨report, course⟩

end Trial

end Reparse
