import Reparse.Pattern.Automaton
import Reparse.Pattern.Edge

/-!
What a pattern comes to.

A form is built by functions that keep it simple: texts side by side are one text, what is in
sequence is flat, a choice between characters is a set, and what all branches of a choice begin with
stands before the choice.
-/

namespace Reparse

namespace Pattern

inductive Form where
  | empty
  | literal (text : List Char)
  | oneOf (set : CharacterSet)
  | edge (condition : Edge)
  | repeated (least : Nat) (most : Option Nat) (greedy : Bool) (inner : Form)
  | group (index : Nat) (inner : Form)
  | sequence (parts : List Form)
  | choice (branches : List Form)

namespace Form

mutual

def same : Form → Form → Bool
  | .empty, .empty => true
  | .literal left, .literal right => left == right
  | .oneOf left, .oneOf right => left == right
  | .edge left, .edge right => left == right
  | .repeated least most greedy inner, .repeated least' most' greedy' inner' =>
      least == least' && most == most' && greedy == greedy' && same inner inner'
  | .group index inner, .group index' inner' => index == index' && same inner inner'
  | .sequence parts, .sequence parts' => sameAll parts parts'
  | .choice branches, .choice branches' => sameAll branches branches'
  | _, _ => false

def sameAll : List Form → List Form → Bool
  | [], [] => true
  | form :: rest, form' :: rest' => same form form' && sameAll rest rest'
  | _, _ => false

end

mutual

/-- Whether what a form matches may be longer than the empty text, as far as it shows. -/
def mayConsume : Form → Bool
  | .empty => false
  | .literal text => !text.isEmpty
  | .oneOf _ => true
  | .edge _ => false
  | .repeated _ most _ inner => most.isNone || mayConsume inner
  | .group _ inner => mayConsume inner
  | .sequence parts => anyMayConsume parts
  | .choice branches => anyMayConsume branches

def anyMayConsume : List Form → Bool
  | [] => false
  | form :: rest => mayConsume form || anyMayConsume rest

end

mutual

def shortest? : Form → Option Nat
  | .empty => some 0
  | .literal text => some text.length
  | .oneOf set => if set.isEmpty then none else some 1
  | .edge _ => some 0
  | .repeated least _ _ inner => (shortest? inner).map (least * ·)
  | .group _ inner => shortest? inner
  | .sequence parts => shortestSum? parts
  | .choice branches => shortestOf? branches

def shortestSum? : List Form → Option Nat
  | [] => some 0
  | form :: rest =>
      match shortest? form, shortestSum? rest with
      | some length, some total => some (length + total)
      | _, _ => none

def shortestOf? : List Form → Option Nat
  | [] => none
  | [form] => shortest? form
  | form :: rest =>
      match shortest? form, shortestOf? rest with
      | some length, some least => some (min length least)
      | _, _ => none

end

mutual

def startsText : Form → Bool
  | .edge .textStart => true
  | .repeated least _ _ inner => 0 < least && startsText inner
  | .group _ inner => startsText inner
  | .sequence parts => firstStartsText parts
  | .choice branches => allStartText branches
  | _ => false

def firstStartsText : List Form → Bool
  | [] => false
  | form :: rest => startsText form || (!mayConsume form && firstStartsText rest)

def allStartText : List Form → Bool
  | [] => true
  | form :: rest => startsText form && allStartText rest

end

mutual

def endsText : Form → Bool
  | .edge .textEnd => true
  | .repeated least _ _ inner => 0 < least && endsText inner
  | .group _ inner => endsText inner
  | .sequence parts => lastEndsText parts
  | .choice branches => allEndText branches
  | _ => false

def lastEndsText : List Form → Bool
  | [] => false
  | form :: rest => lastEndsText rest || (!anyMayConsume rest && endsText form)

def allEndText : List Form → Bool
  | [] => true
  | form :: rest => endsText form && allEndText rest

end

def ofSet (set : CharacterSet) : Form :=
  match set.only? with
  | some c => .literal [c]
  | none => .oneOf set

def consPart (form : Form) (parts : List Form) : List Form :=
  match form, parts with
  | .empty, parts => parts
  | .literal text, .literal next :: rest => .literal (text ++ next) :: rest
  | form, parts => form :: parts

def partsOf : Form → List Form
  | .sequence parts => parts
  | form => [form]

def inSequence (forms : List Form) : Form :=
  match (forms.flatMap partsOf).foldr consPart [] with
  | [] => .empty
  | [form] => form
  | parts => .sequence parts

def characters? : Form → Option CharacterSet
  | .oneOf set => some set
  | _ => none

def character? : Form → Option Char
  | .literal [c] => some c
  | _ => none

def commonLength : List Form → List Form → Nat
  | form :: rest, form' :: rest' => if same form form' then commonLength rest rest' + 1 else 0
  | _, _ => 0

def sequence? : Form → Option (List Form)
  | .sequence parts => some parts
  | _ => none

def commonStart (first : List Form) (others : List (List Form)) : Nat :=
  others.foldl (fun length other => min length (commonLength first other)) first.length

def setOf? (branches : List Form) : Option CharacterSet :=
  match branches.mapM character? with
  | some characters => some (.ofCodes (characters.map Char.toNat))
  | none =>
      (branches.mapM characters?).map fun sets => sets.foldl CharacterSet.union .empty

def branchesOf : Form → List Form
  | .choice branches => branches
  | form => [form]

mutual

def size : Form → Nat
  | .repeated _ _ _ inner => size inner + 1
  | .group _ inner => size inner + 1
  | .sequence parts => sizes parts + 1
  | .choice branches => sizes branches + 1
  | _ => 1

def sizes : List Form → Nat
  | [] => 0
  | form :: rest => size form + sizes rest

end

/-- A choice between forms.  Fuel bounds how often a common start is taken out; each time the
branches lose at least one part. -/
def choiceOf : (fuel : Nat) → List Form → Form
  | fuel, forms =>
      match forms.flatMap branchesOf with
      | [] => .oneOf .empty
      | [form] => form
      | branches =>
          match setOf? branches with
          | some set => ofSet set
          | none =>
              match fuel, branches.mapM sequence? with
              | fuel + 1, some (first :: others) =>
                  let length := commonStart first others
                  if length = 0 then
                    .choice branches
                  else
                    let suffixes :=
                      (first :: others).map fun parts => inSequence (parts.drop length)
                    inSequence (first.take length ++ [choiceOf fuel suffixes])
              | _, _ => .choice branches

def anyOf (forms : List Form) : Form :=
  choiceOf (sizes forms) forms

/-- A form some number of times.  One that matches the empty text alone is not repeated. -/
def times (least : Nat) (most : Option Nat) (greedy : Bool) (inner : Form) : Form :=
  let least := if inner.mayConsume then least else min least 1
  let most := if inner.mayConsume then most else some (min (most.getD 1) 1)
  if least = 0 ∧ most = some 0 then .empty
  else if least = 1 ∧ most = some 1 then inner
  else .repeated least most greedy inner

mutual

def expression : Form → Expression Char
  | .empty => .empty
  | .literal text => .inSequence (text.map fun c => .symbol (· == c))
  | .oneOf set => .symbol set.test
  | .edge condition => .place condition.test
  | .repeated least most _ inner => .repeated (expression inner) least most
  | .group _ inner => expression inner
  | .sequence parts => .inSequence (expressions parts)
  | .choice branches => .anyOf (expressions branches)

def expressions : List Form → List (Expression Char)
  | [] => []
  | form :: rest => expression form :: expressions rest

end

end Form

end Pattern

end Reparse
