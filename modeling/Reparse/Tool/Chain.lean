import Reparse.Ast.Tree
import Reparse.Tool.Event
import Reparse.Tool.Goal

/-!
A parser and a generator that work together.

Their answers may depend on a state that every call can change.  A session keeps this state, the
calls made so far and the log.
-/

namespace Reparse

structure ToolError where
  message : String
deriving DecidableEq

/-- The answer of a tool, what it wrote to the log, and the state in which it leaves the chain. -/
structure Reply (σ α : Type) where
  answer : Except ToolError α
  events : List Event
  state : σ

structure Toolchain (σ : Type) where
  parse : σ → String → Goal → Reply σ Ast.Node
  generate : σ → Ast.Node → GenerateOptions → Reply σ String

inductive Call where
  | parse (source : String) (goal : Goal)
  | generate (tree : Ast.Node) (options : GenerateOptions)

/-- What lasts from one call to the next; calls and events stand in the order of time. -/
structure Session (σ : Type) where
  state : σ
  calls : List Call := []
  events : List Event := []

namespace Session

variable {σ α : Type}

def tell (event : Event) : StateM (Session σ) Unit :=
  modify fun session => { session with events := session.events ++ [event] }

def record (call : Call) (reply : σ → Reply σ α) : StateM (Session σ) (Except ToolError α) :=
  fun session =>
    let reply := reply session.state
    (reply.answer,
      { state := reply.state
        calls := session.calls ++ [call]
        events := session.events ++ reply.events })

end Session

namespace Toolchain

variable {σ : Type}

def askParse (chain : Toolchain σ) (source : String) (goal : Goal) :
    StateM (Session σ) (Except ToolError Ast.Node) :=
  Session.record (.parse source goal) fun state => chain.parse state source goal

def askGenerate (chain : Toolchain σ) (tree : Ast.Node) (options : GenerateOptions) :
    StateM (Session σ) (Except ToolError String) :=
  Session.record (.generate tree options) fun state => chain.generate state tree options

end Toolchain

end Reparse
