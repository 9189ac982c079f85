import Reparse.Text.Blank
import Reparse.Trial.Outcome

/-!
Expected failures.

A table records for some cases the failure that a known defect causes.  No identifier is blank, no
entry expects success, and each case has at most one entry; a table is built only from entries that
keep these rules.
-/

namespace Reparse

structure Expectation where
  id : String
  expected : Outcome
  reason : Option String := none
deriving DecidableEq

inductive TableError where
  | blankId (index : Nat)
  | expectsSuccess (id : String)
  | duplicateId (id : String)
deriving DecidableEq

def TableError.message : TableError → String
  | .blankId index => s!"xfail entry #{index} has an empty identifier"
  | .expectsSuccess id => s!"xfail entry `{id}` expects SUCCESS; passing cases need no entry"
  | .duplicateId id => s!"xfail entry `{id}` is listed more than once"

/-- Entries in the order of their identifiers. -/
structure ExpectationTable where
  entries : List Expectation
  ordered : entries.Pairwise fun left right => left.id < right.id
  named : ∀ entry ∈ entries, isBlankText entry.id = false
  failing : ∀ entry ∈ entries, entry.expected ≠ .success

namespace ExpectationTable

def empty : ExpectationTable where
  entries := []
  ordered := .nil
  named := by simp
  failing := by simp

instance : Inhabited ExpectationTable := ⟨empty⟩

def size (table : ExpectationTable) : Nat :=
  table.entries.length

def isEmpty (table : ExpectationTable) : Bool :=
  table.entries.isEmpty

def get? (table : ExpectationTable) (id : String) : Option Expectation :=
  table.entries.find? fun entry => entry.id == id

def expected? (table : ExpectationTable) (id : String) : Option Outcome :=
  (table.get? id).map (·.expected)

def stale (table : ExpectationTable) (known : List String) : List Expectation :=
  table.entries.filter fun entry => !known.contains entry.id

def place (entry : Expectation) : List Expectation → List Expectation
  | [] => [entry]
  | head :: rest => if entry.id < head.id then entry :: head :: rest else head :: place entry rest

theorem mem_place {entry other : Expectation} {entries : List Expectation} :
    other ∈ place entry entries ↔ other = entry ∨ other ∈ entries := by
  induction entries with
  | nil => simp [place]
  | cons head rest ih =>
      simp only [place]
      split
      · simp
      · simp only [List.mem_cons, ih]
        exact or_left_comm

theorem place_ordered {entry : Expectation} {entries : List Expectation}
    (ordered : entries.Pairwise fun left right => left.id < right.id)
    (fresh : ∀ other ∈ entries, other.id ≠ entry.id) :
    (place entry entries).Pairwise fun left right => left.id < right.id := by
  induction entries with
  | nil => simp [place]
  | cons head rest ih =>
      obtain ⟨before, ordered⟩ := List.pairwise_cons.1 ordered
      simp only [place]
      split
      · next smaller =>
          refine List.pairwise_cons.2 ⟨?_, List.pairwise_cons.2 ⟨before, ordered⟩⟩
          intro other member
          rcases List.mem_cons.1 member with rfl | member
          · exact smaller
          · exact String.lt_trans smaller (before other member)
      · next notSmaller =>
          refine List.pairwise_cons.2
            ⟨?_, ih ordered fun other member => fresh other (List.mem_cons_of_mem _ member)⟩
          intro other member
          rcases mem_place.1 member with rfl | member
          · rcases String.le_total head.id other.id with below | above
            · rcases Decidable.em (head.id < other.id) with less | notLess
              · exact less
              · exact absurd (String.le_antisymm below notLess) (fresh head List.mem_cons_self)
            · exact absurd (String.le_antisymm above notSmaller).symm
                (fresh head List.mem_cons_self)
          · exact before other member

/-- Add an entry, unless it is offending; `index` is its place in the list of all entries. -/
def add (table : ExpectationTable) (index : Nat) (entry : Expectation) :
    Except TableError ExpectationTable :=
  if named : isBlankText entry.id = true then
    .error (.blankId index)
  else if failing : entry.expected = .success then
    .error (.expectsSuccess entry.id)
  else if fresh : ∃ other ∈ table.entries, other.id = entry.id then
    .error (.duplicateId entry.id)
  else
    .ok
      { entries := place entry table.entries
        ordered := place_ordered table.ordered fun other member same =>
          fresh ⟨other, member, same⟩
        named := fun other member => by
          rcases mem_place.1 member with rfl | member
          · simpa using named
          · exact table.named other member
        failing := fun other member => by
          rcases mem_place.1 member with rfl | member
          · exact failing
          · exact table.failing other member }

def addAll (table : ExpectationTable) (index : Nat) :
    List Expectation → Except TableError ExpectationTable
  | [] => .ok table
  | entry :: rest =>
      match table.add index entry with
      | .error error => .error error
      | .ok table => table.addAll (index + 1) rest

/-- The table of a list of entries; the first offending entry decides the error. -/
def ofList (entries : List Expectation) : Except TableError ExpectationTable :=
  empty.addAll 0 entries

end ExpectationTable

end Reparse
