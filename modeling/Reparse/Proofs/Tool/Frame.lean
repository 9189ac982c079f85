import Reparse.Proofs.Tool.Session

/-!
Programs over sessions that depend on the state of the tools alone.

Such a program adds to the calls and to the log of a session, and does the same whatever stands
there already.
-/

namespace Reparse

variable {σ α β : Type}

namespace Session

def fresh (state : σ) : Session σ where
  state := state

def behind (earlier later : Session σ) : Session σ where
  state := later.state
  calls := earlier.calls ++ later.calls
  events := earlier.events ++ later.events

@[simp] theorem state_fresh (state : σ) : (fresh state).state = state := rfl

@[simp] theorem state_behind (earlier later : Session σ) :
    (earlier.behind later).state = later.state :=
  rfl

@[simp] theorem behind_fresh (session : Session σ) :
    session.behind (fresh session.state) = session := by
  simp [behind, fresh]

theorem behind_assoc (first second third : Session σ) :
    (first.behind second).behind third = first.behind (second.behind third) := by
  simp [behind]

end Session

/-- An event that a tool can write to the log. -/
inductive Toolchain.Tells (chain : Toolchain σ) (event : Event) : Prop where
  | parse {state : σ} {source : String} {goal : Goal}
      (told : event ∈ (chain.parse state source goal).events) : Toolchain.Tells chain event
  | generate {state : σ} {tree : Ast.Node} {options : GenerateOptions}
      (told : event ∈ (chain.generate state tree options).events) : Toolchain.Tells chain event

/-- A program that depends on the state alone and only adds to its session, to the log nothing but
events of its own and of the tools. -/
structure Framed (chain : Toolchain σ) (own : Event → Prop) (program : StateM (Session σ) α) :
    Prop where
  run_eq : ∀ session, program.run session =
    ((program.run (.fresh session.state)).1,
      session.behind (program.run (.fresh session.state)).2)
  told : ∀ state, ∀ event ∈ (program.run (.fresh state)).2.events,
    own event ∨ chain.Tells event

namespace Framed

variable {chain : Toolchain σ} {own : Event → Prop}

theorem pure (value : α) : Framed chain own (pure value : StateM (Session σ) α) where
  run_eq session := congrArg (value, ·) session.behind_fresh.symm
  told _ _ member := by cases member

theorem bind {first : StateM (Session σ) α} {next : α → StateM (Session σ) β}
    (framed : Framed chain own first) (follows : ∀ value, Framed chain own (next value)) :
    Framed chain own (first >>= next) where
  run_eq session := by
    rw [Session.run_bind, Session.run_bind, framed.run_eq session]
    generalize first.run (.fresh session.state) = done
    rw [(follows done.1).run_eq (session.behind done.2), (follows done.1).run_eq done.2,
      Session.behind_assoc]
    rfl
  told state event member := by
    rw [Session.run_bind, (follows _).run_eq] at member
    rcases List.mem_append.1 member with before | after
    · exact framed.told state event before
    · exact (follows _).told _ event after

theorem get {next : Session σ → StateM (Session σ) α}
    (follows : ∀ session, Framed chain own (next session))
    (depends : ∀ session other, session.state = other.state → next session = next other) :
    Framed chain own (get >>= next) where
  run_eq session := by
    have same : next (.fresh session.state) = next session := depends _ _ rfl
    rw [Session.run_bind, Session.run_bind]
    change (next session).run session = _
    rw [(follows session).run_eq session, ← same]
    rfl
  told state := (follows (.fresh state)).told state

theorem tell {event : Event} (allowed : own event) :
    Framed chain own (Session.tell event : StateM (Session σ) Unit) where
  run_eq session := by
    rw [Session.run_tell, Session.run_tell]
    simp [Session.behind, Session.fresh]
  told state other member := by
    obtain rfl := List.mem_singleton.1 member
    exact .inl allowed

theorem askParse (source : String) (goal : Goal) :
    Framed chain own (chain.askParse source goal) where
  run_eq _ := rfl
  told _ _ member := .inr (.parse member)

theorem askGenerate (tree : Ast.Node) (options : GenerateOptions) :
    Framed chain own (chain.askGenerate tree options) where
  run_eq _ := rfl
  told _ _ member := .inr (.generate member)

end Framed

end Reparse
