import Reparse.Tool.Chain

namespace Reparse

namespace Toolchain

variable {σ : Type}

def make (chain : Toolchain σ) (session : Session σ) : Call → Session σ
  | .parse source goal => ((chain.askParse source goal).run session).2
  | .generate tree options => ((chain.askGenerate tree options).run session).2

theorem calls_make (chain : Toolchain σ) (session : Session σ) (call : Call) :
    (chain.make session call).calls = session.calls ++ [call] := by
  cases call with
  | parse source goal => rfl
  | generate tree options => rfl

theorem calls_foldl_make (chain : Toolchain σ) (session : Session σ) (calls : List Call) :
    (calls.foldl chain.make session).calls = session.calls ++ calls := by
  induction calls generalizing session with
  | nil => simp
  | cons call rest induction => simp [induction, calls_make]

@[simp] theorem state_make_parse (chain : Toolchain σ) (session : Session σ) (source : String)
    (goal : Goal) :
    (chain.make session (.parse source goal)).state =
      (chain.parse session.state source goal).state :=
  rfl

@[simp] theorem state_make_generate (chain : Toolchain σ) (session : Session σ) (tree : Ast.Node)
    (options : GenerateOptions) :
    (chain.make session (.generate tree options)).state =
      (chain.generate session.state tree options).state :=
  rfl

theorem run_askParse_bind (chain : Toolchain σ) {α : Type} (session : Session σ) (source : String)
    (goal : Goal) (next : Except ToolError Ast.Node → StateM (Session σ) α) :
    (chain.askParse source goal >>= next).run session =
      (next (chain.parse session.state source goal).answer).run
        (chain.make session (.parse source goal)) :=
  rfl

theorem run_askGenerate_bind (chain : Toolchain σ) {α : Type} (session : Session σ)
    (tree : Ast.Node) (options : GenerateOptions)
    (next : Except ToolError String → StateM (Session σ) α) :
    (chain.askGenerate tree options >>= next).run session =
      (next (chain.generate session.state tree options).answer).run
        (chain.make session (.generate tree options)) :=
  rfl

end Toolchain

/-- The answers of the tools depend on nothing but what they are asked. -/
structure Toolchain.Pure {σ : Type} (chain : Toolchain σ) : Prop where
  parse : ∀ left right source goal,
    (chain.parse left source goal).answer = (chain.parse right source goal).answer
  generate : ∀ left right tree options,
    (chain.generate left tree options).answer = (chain.generate right tree options).answer

/-- A session that the tools are led to by some calls, whatever was logged on the way. -/
structure Session.Reaches {σ : Type} (chain : Toolchain σ) (session after : Session σ)
    (made : List Call) : Prop where
  calls : after.calls = session.calls ++ made
  state : after.state = (made.foldl chain.make session).state

namespace Session

theorem run_bind {σ α β : Type} (session : Session σ) (first : StateM (Session σ) α)
    (next : α → StateM (Session σ) β) :
    (first >>= next).run session = (next (first.run session).1).run (first.run session).2 :=
  rfl

theorem run_tell {σ : Type} (session : Session σ) (event : Event) :
    (tell event).run session = ((), { session with events := session.events ++ [event] }) :=
  rfl

variable {σ : Type} {chain : Toolchain σ} {session middle after : Session σ}

theorem Reaches.refl (chain : Toolchain σ) (session : Session σ) :
    session.Reaches chain session [] :=
  ⟨by simp, rfl⟩

theorem state_make (chain : Toolchain σ) (same : session.state = after.state) (call : Call) :
    (chain.make session call).state = (chain.make after call).state := by
  cases call with
  | parse source goal => simp [same]
  | generate tree options => simp [same]

theorem state_foldl_make (chain : Toolchain σ) (same : session.state = after.state)
    (calls : List Call) :
    (calls.foldl chain.make session).state = (calls.foldl chain.make after).state := by
  induction calls generalizing session after with
  | nil => exact same
  | cons call rest induction => exact induction (state_make chain same call)

theorem Reaches.state_foldl {made : List Call} (reaches : session.Reaches chain middle made)
    (calls : List Call) :
    (calls.foldl chain.make middle).state =
      ((made ++ calls).foldl chain.make session).state := by
  rw [List.foldl_append]
  exact state_foldl_make chain reaches.state calls

theorem Reaches.trans {made later : List Call} (first : session.Reaches chain middle made)
    (second : middle.Reaches chain after later) :
    session.Reaches chain after (made ++ later) where
  calls := by rw [second.calls, first.calls, List.append_assoc]
  state := by rw [second.state, first.state_foldl]

theorem Reaches.foldl_make (chain : Toolchain σ) (session : Session σ) (calls : List Call) :
    session.Reaches chain (calls.foldl chain.make session) calls :=
  ⟨chain.calls_foldl_make session calls, rfl⟩

theorem Reaches.tell {made : List Call} (reaches : session.Reaches chain after made)
    (event : Event) : session.Reaches chain ((Session.tell event).run after).2 made :=
  ⟨reaches.calls, reaches.state⟩

end Session

end Reparse
