/-!
Named entries in the order of their names.

Strings compare by code points, which is also the order of their UTF-8 bytes.
-/

namespace Reparse

/-- Entries under names.  The operations keep the names strictly increasing. -/
abbrev Dictionary (α : Type) :=
  List (String × α)

namespace Dictionary

variable {α β : Type}

def Ordered (entries : Dictionary α) : Prop :=
  entries.Pairwise (fun left right => left.1 < right.1)

def find? (entries : Dictionary α) (name : String) : Option α :=
  match entries with
  | [] => none
  | (key, value) :: rest => if key = name then some value else find? rest name

def contains (entries : Dictionary α) (name : String) : Bool :=
  (entries.find? name).isSome

def insert (entries : Dictionary α) (name : String) (value : α) : Dictionary α :=
  match entries with
  | [] => [(name, value)]
  | (key, old) :: rest =>
      if key = name then
        (name, value) :: rest
      else if name < key then
        (name, value) :: (key, old) :: rest
      else
        (key, old) :: insert rest name value

def replace (entries : Dictionary α) (name : String) (value : α) : Dictionary α :=
  match entries with
  | [] => []
  | (key, old) :: rest =>
      if key = name then (name, value) :: rest else (key, old) :: replace rest name value

/-- Insert entries one after the other, so that the last of several equal names stays. -/
def insertAll (entries : Dictionary α) (added : List (String × α)) : Dictionary α :=
  added.foldl (fun result entry => insert result entry.1 entry.2) entries

def ofList (added : List (String × α)) : Dictionary α :=
  insertAll [] added

def names (entries : Dictionary α) : List String :=
  entries.map (·.1)

@[simp] theorem find?_nil (name : String) : find? ([] : Dictionary α) name = none := rfl

theorem find?_cons (key : String) (value : α) (rest : Dictionary α) (name : String) :
    find? ((key, value) :: rest) name = if key = name then some value else find? rest name := rfl

theorem find?_insert (entries : Dictionary α) (name other : String) (value : α) :
    find? (insert entries name value) other =
      if name = other then some value else find? entries other := by
  induction entries with
  | nil => simp [insert, find?]
  | cons entry rest ih =>
      obtain ⟨key, old⟩ := entry
      simp only [insert]
      split
      · next same =>
          subst same
          simp only [find?_cons]
          split <;> rfl
      · split
        · simp only [find?_cons]
        · simp only [find?_cons, ih]
          split
          · next different same =>
              subst same
              simp [Ne.symm (a := key) (b := name) (by assumption)]
          · rfl

end Dictionary

end Reparse
