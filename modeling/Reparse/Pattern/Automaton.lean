import Reparse.Pattern.Expression

/-!
Automata that find where an expression matches.

An automaton is a program whose instructions are its states.  It reads a word once and keeps the set
of the states that it may be in, so the time for a symbol is at most that for all states.
-/

namespace Reparse

namespace Pattern

variable {α : Type}

inductive Instruction (α : Type) where
  | done
  | symbol (accepts : α → Bool) (next : Nat)
  | place (holds : Option α → Option α → Bool) (next : Nat)
  | fork (first second : Nat)

abbrev Program (α : Type) :=
  Array (Instruction α)

structure Automaton (α : Type) where
  program : Program α
  start : Nat

namespace Program

def add (program : Program α) (instruction : Instruction α) : Nat × Program α :=
  (program.size, program.push instruction)

def addTimes (add : Nat → Program α → Nat × Program α) :
    Nat → Nat → Program α → Nat × Program α
  | 0, next, program => (next, program)
  | count + 1, next, program =>
      let (start, program) := add next program
      addTimes add count start program

def addAtMost (add : Nat → Program α → Nat × Program α) (next : Nat) :
    Nat → Nat → Program α → Nat × Program α
  | 0, start, program => (start, program)
  | count + 1, start, program =>
      let (once, program) := add start program
      let (start, program) := Program.add program (.fork once next)
      addAtMost add next count start program

def addExpression : Expression α → Nat → Program α → Nat × Program α
  | .empty, next, program => (next, program)
  | .symbol accepts, next, program => program.add (.symbol accepts next)
  | .place holds, next, program => program.add (.place holds next)
  | .sequence first second, next, program =>
      let (next, program) := addExpression second next program
      addExpression first next program
  | .either first second, next, program =>
      let (first, program) := addExpression first next program
      let (second, program) := addExpression second next program
      program.add (.fork first second)
  | .repeated inner least none, next, program =>
      let (fork, program) := program.add (.fork next next)
      let (once, program) := addExpression inner fork program
      let program := program.setIfInBounds fork (.fork once next)
      addTimes (addExpression inner) least fork program
  | .repeated inner least (some most), next, program =>
      let (start, program) := addAtMost (addExpression inner) next (most - least) next program
      addTimes (addExpression inner) least start program

end Program

def Expression.automaton (expression : Expression α) : Automaton α :=
  let (start, program) := Program.addExpression expression 0 #[.done]
  ⟨program, start⟩

/-- What is known at one place of a word: at which place each state was met last, counted from one,
the states that wait for the symbol after the place, and whether a match ends here. -/
structure Frontier where
  met : Array Nat
  waiting : List Nat
  ended : Bool

namespace Automaton

def spread (program : Program α) (before after : Option α) (place : Nat) :
    (fuel : Nat) → List Nat → Frontier → Frontier
  | 0, _, frontier => frontier
  | _, [], frontier => frontier
  | fuel + 1, state :: states, frontier =>
      if frontier.met[state]? = some place then
        spread program before after place fuel states frontier
      else
        let met := frontier.met.setIfInBounds state place
        match program[state]? with
        | none =>
            spread program before after place fuel states ⟨met, frontier.waiting, frontier.ended⟩
        | some .done => spread program before after place fuel states ⟨met, frontier.waiting, true⟩
        | some (.symbol _ _) =>
            spread program before after place fuel states
              ⟨met, state :: frontier.waiting, frontier.ended⟩
        | some (.place holds next) =>
            let states := if holds before after then next :: states else states
            spread program before after place fuel states ⟨met, frontier.waiting, frontier.ended⟩
        | some (.fork first second) =>
            spread program before after place fuel (first :: second :: states)
              ⟨met, frontier.waiting, frontier.ended⟩

def advance (program : Program α) (symbol : α) (states : List Nat) : List Nat :=
  states.filterMap fun state =>
    match (program[state]? : Option (Instruction α)) with
    | some (.symbol accepts next) => if accepts symbol then some next else none
    | _ => none

/-- Whether a match that began at one of some states, or begins later where that is allowed, ends
where it may: anywhere, or at the end of the word only. -/
def run (automaton : Automaton α) (anywhere : Bool) (before : Option α) (place : Nat)
    (states : List Nat) (met : Array Nat) : List α → Bool
  | [] =>
      (spread automaton.program before none place (states.length + 2 * automaton.program.size + 1)
        states ⟨met, [], false⟩).ended
  | symbol :: rest =>
      let frontier :=
        spread automaton.program before (some symbol) place
          (states.length + 2 * automaton.program.size + 1) states ⟨met, [], false⟩
      if anywhere && frontier.ended then
        true
      else
        let next := advance automaton.program symbol frontier.waiting
        let next := if anywhere then automaton.start :: next else next
        if next.isEmpty then
          false
        else
          run automaton anywhere (some symbol) (place + 1) next frontier.met rest

def matchesAll (automaton : Automaton α) (word : List α) : Bool :=
  run automaton false none 1 [automaton.start] (Array.replicate automaton.program.size 0) word

def matchesWithin (automaton : Automaton α) (word : List α) : Bool :=
  run automaton true none 1 [automaton.start] (Array.replicate automaton.program.size 0) word

end Automaton

end Pattern

end Reparse
