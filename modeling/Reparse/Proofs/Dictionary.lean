import Reparse.Dictionary

namespace Reparse

namespace Dictionary

variable {α β : Type}

theorem mem_names_insert {entries : Dictionary α} {name other : String} {value : α} :
    other ∈ (insert entries name value).names ↔ other = name ∨ other ∈ entries.names := by
  induction entries with
  | nil => simp [insert, names]
  | cons entry rest induction =>
      obtain ⟨key, old⟩ := entry
      simp only [names] at induction
      simp only [insert]
      split
      · next same =>
          subst same
          simp [names]
      · split
        · simp [names]
        · simp only [names, List.map_cons, List.mem_cons, induction]
          exact or_left_comm

theorem mem_of_mem_insert {entries : Dictionary α} {name : String} {value : α}
    {entry : String × α} (member : entry ∈ insert entries name value) :
    entry ∈ entries ∨ entry = (name, value) := by
  induction entries with
  | nil => exact .inr (List.mem_singleton.1 member)
  | cons first rest induction =>
      obtain ⟨key, old⟩ := first
      rw [insert] at member
      split at member
      · rcases List.mem_cons.1 member with same | later
        · exact .inr same
        · exact .inl (List.mem_cons_of_mem _ later)
      · split at member
        · exact (List.mem_cons.1 member).symm
        · rcases List.mem_cons.1 member with same | later
          · exact .inl (List.mem_cons.2 (.inl same))
          · exact (induction later).imp_left (List.mem_cons_of_mem _)

theorem ordered_iff_names {entries : Dictionary α} :
    entries.Ordered ↔ entries.names.Pairwise (· < ·) := by
  rw [Ordered, names, List.pairwise_map]

theorem ordered_insert {entries : Dictionary α} (ordered : entries.Ordered) (name : String)
    (value : α) : (insert entries name value).Ordered := by
  rw [ordered_iff_names] at ordered ⊢
  induction entries with
  | nil => simp [insert, names]
  | cons entry rest induction =>
      obtain ⟨key, old⟩ := entry
      obtain ⟨before, orderedRest⟩ := List.pairwise_cons.1 ordered
      simp only [insert]
      split
      · next same =>
          subst same
          exact ordered
      · next different =>
          split
          · next smaller =>
              refine List.pairwise_cons.2 ⟨?_, ordered⟩
              intro other member
              rcases List.mem_cons.1 member with rfl | member
              · exact smaller
              · exact String.lt_trans smaller (before other member)
          · next notSmaller =>
              refine List.pairwise_cons.2 ⟨?_, induction orderedRest⟩
              intro other member
              rcases mem_names_insert.1 member with rfl | member
              · exact Decidable.byContradiction fun notLarger =>
                  different (String.le_antisymm notSmaller notLarger)
              · exact before other member

theorem ordered_insertAll {entries : Dictionary α} (ordered : entries.Ordered)
    (added : List (String × α)) : (insertAll entries added).Ordered := by
  induction added generalizing entries with
  | nil => exact ordered
  | cons entry rest induction => exact induction (ordered_insert ordered entry.1 entry.2)

theorem ordered_ofList (added : List (String × α)) : (ofList added).Ordered :=
  ordered_insertAll .nil added

theorem nodup_names {entries : Dictionary α} (ordered : entries.Ordered) : entries.names.Nodup := by
  refine (ordered_iff_names.1 ordered).imp ?_
  rintro left _ smaller rfl
  exact String.lt_irrefl left smaller

theorem mem_of_find? {entries : Dictionary α} {name : String} {value : α}
    (found : find? entries name = some value) : (name, value) ∈ entries := by
  induction entries with
  | nil => contradiction
  | cons entry rest induction =>
      obtain ⟨key, old⟩ := entry
      rw [find?_cons] at found
      split at found
      · next same =>
          subst same
          cases found
          exact List.mem_cons_self
      · exact List.mem_cons_of_mem _ (induction found)

theorem find?_of_mem {entries : Dictionary α} (ordered : entries.Ordered) {name : String}
    {value : α} (member : (name, value) ∈ entries) : find? entries name = some value := by
  induction entries with
  | nil => contradiction
  | cons entry rest induction =>
      obtain ⟨key, old⟩ := entry
      obtain ⟨before, orderedRest⟩ := List.pairwise_cons.1 ordered
      rw [find?_cons]
      cases member with
      | head => rw [if_pos rfl]
      | tail _ member =>
          have smaller : key < name := before _ member
          have different : key ≠ name := by
            rintro rfl
            exact String.lt_irrefl key smaller
          rw [if_neg different]
          exact induction orderedRest member

theorem find?_eq_some_iff {entries : Dictionary α} (ordered : entries.Ordered) {name : String}
    {value : α} : find? entries name = some value ↔ (name, value) ∈ entries :=
  ⟨mem_of_find?, find?_of_mem ordered⟩

theorem find?_eq_none_iff {entries : Dictionary α} {name : String} :
    find? entries name = none ↔ name ∉ entries.names := by
  induction entries with
  | nil => simp [names]
  | cons entry rest induction =>
      obtain ⟨key, old⟩ := entry
      rw [find?_cons, names, List.map_cons, List.mem_cons, not_or]
      split
      · next same => simp [same]
      · next different => simp [induction, names, Ne.symm different]

/-- What is found under each name tells an ordered dictionary. -/
theorem ext {left right : Dictionary α} (leftOrdered : left.Ordered) (rightOrdered : right.Ordered)
    (same : ∀ name, find? left name = find? right name) : left = right := by
  have members (entry : String × α) : entry ∈ left ↔ entry ∈ right := by
    obtain ⟨name, value⟩ := entry
    rw [← find?_eq_some_iff leftOrdered, ← find?_eq_some_iff rightOrdered, same]
  have distinct {entries : Dictionary α} (ordered : entries.Ordered) : entries.Nodup :=
    List.Pairwise.of_map Prod.fst (fun _ _ different same => different (congrArg Prod.fst same))
      (nodup_names ordered)
  refine List.Perm.eq_of_pairwise ?_ leftOrdered rightOrdered
    ((List.perm_ext_iff_of_nodup (distinct leftOrdered) (distinct rightOrdered)).2 members)
  intro first second _ _ smaller larger
  exact absurd (String.lt_trans smaller larger) (String.lt_irrefl _)

theorem find?_filter (entries : Dictionary α) (kept : String → Bool) (name : String) :
    find? (entries.filter fun entry => kept entry.1) name =
      if kept name then find? entries name else none := by
  induction entries with
  | nil => simp
  | cons entry rest induction =>
      obtain ⟨key, value⟩ := entry
      rw [List.filter_cons, find?_cons]
      by_cases same : key = name
      · subst same
        cases shown : kept key with
        | true => simp [find?_cons]
        | false => simp [induction, shown]
      · rw [if_neg same]
        split
        · rw [find?_cons, if_neg same, induction]
        · exact induction

theorem ordered_filter {entries : Dictionary α} (ordered : entries.Ordered)
    (kept : String × α → Bool) : Ordered (entries.filter kept) :=
  List.Pairwise.filter kept ordered

theorem find?_map (entries : Dictionary α) (change : String → α → β) (name : String) :
    find? (entries.map fun entry => (entry.1, change entry.1 entry.2)) name =
      (find? entries name).map (change name) := by
  induction entries with
  | nil => rfl
  | cons entry rest induction =>
      obtain ⟨key, value⟩ := entry
      rw [List.map_cons, find?_cons, find?_cons, induction]
      split
      · next same =>
          subst same
          rfl
      · rfl

theorem ordered_map {entries : Dictionary α} (ordered : entries.Ordered)
    (change : String → α → β) :
    Ordered (entries.map fun entry => (entry.1, change entry.1 entry.2)) :=
  List.pairwise_map.2 ordered

theorem find?_insertAll (entries : Dictionary α) {added : Dictionary α}
    (distinct : added.names.Nodup) (name : String) :
    find? (insertAll entries added) name = (find? added name).or (find? entries name) := by
  induction added generalizing entries with
  | nil => rfl
  | cons entry rest induction =>
      obtain ⟨key, value⟩ := entry
      obtain ⟨new, distinctRest⟩ := List.nodup_cons.1 distinct
      have step : insertAll entries ((key, value) :: rest) =
          insertAll (insert entries key value) rest := rfl
      rw [step, induction _ distinctRest, find?_insert, find?_cons]
      split
      · next same =>
          subst same
          rw [find?_eq_none_iff.2 new]
          rfl
      · rfl

theorem find?_ofList {added : Dictionary α} (distinct : added.names.Nodup) (name : String) :
    find? (ofList added) name = find? added name := by
  rw [ofList, find?_insertAll _ distinct, find?_nil, Option.or_none]

theorem ofList_of_ordered {entries : Dictionary α} (ordered : entries.Ordered) :
    ofList entries = entries :=
  ext (ordered_ofList entries) ordered (find?_ofList (nodup_names ordered))

/-- What is put under a name that is not kept makes no difference. -/
theorem filter_insert (entries : Dictionary α) (kept : String → Bool) {name : String} (value : α)
    (dropped : kept name = false) :
    (insert entries name value).filter (fun entry => kept entry.1) =
      entries.filter fun entry => kept entry.1 := by
  induction entries with
  | nil => simp [insert, dropped]
  | cons entry rest induction =>
      obtain ⟨key, old⟩ := entry
      simp only [insert]
      split
      · next same =>
          subst same
          simp [dropped]
      · split
        · simp [List.filter_cons, dropped]
        · rw [List.filter_cons, List.filter_cons, induction]

theorem find?_replace (entries : Dictionary α) (name other : String) (value : α) :
    find? (replace entries name value) other =
      if name = other then (find? entries other).map fun _ => value else find? entries other := by
  induction entries with
  | nil => simp [replace]
  | cons entry rest induction =>
      obtain ⟨key, old⟩ := entry
      simp only [replace, find?_cons]
      by_cases same : key = name
      · subst same
        rw [if_pos rfl, find?_cons]
        split
        · rfl
        · rfl
      · rw [if_neg same, find?_cons, induction]
        by_cases wanted : key = other
        · subst wanted
          simp [Ne.symm same]
        · simp [wanted]

@[simp] theorem names_replace (entries : Dictionary α) (name : String) (value : α) :
    names (replace entries name value) = entries.names := by
  induction entries with
  | nil => rfl
  | cons entry rest induction =>
      obtain ⟨key, old⟩ := entry
      simp only [replace]
      split
      · next same =>
          subst same
          rfl
      · simp only [names, List.map_cons] at induction ⊢
        rw [induction]

theorem ordered_replace {entries : Dictionary α} (ordered : entries.Ordered) (name : String)
    (value : α) : (replace entries name value).Ordered := by
  rw [ordered_iff_names, names_replace, ← ordered_iff_names]
  exact ordered

theorem mem_of_mem_replace {entries : Dictionary α} {name : String} {value : α}
    {entry : String × α} (member : entry ∈ replace entries name value) :
    entry ∈ entries ∨ entry = (name, value) := by
  induction entries with
  | nil => contradiction
  | cons first rest induction =>
      obtain ⟨key, old⟩ := first
      rw [replace] at member
      split at member
      · rcases List.mem_cons.1 member with same | later
        · exact .inr same
        · exact .inl (List.mem_cons_of_mem _ later)
      · rcases List.mem_cons.1 member with same | later
        · exact .inl (List.mem_cons.2 (.inl same))
        · exact (induction later).imp_left (List.mem_cons_of_mem _)

theorem replace_of_find? {entries : Dictionary α} {name : String} {value : α}
    (found : find? entries name = some value) : replace entries name value = entries := by
  induction entries with
  | nil => rfl
  | cons entry rest induction =>
      obtain ⟨key, old⟩ := entry
      rw [find?_cons] at found
      simp only [replace]
      split
      · next same =>
          subst same
          rw [if_pos rfl] at found
          cases found
          rfl
      · next different =>
          rw [if_neg different] at found
          rw [induction found]

end Dictionary

end Reparse
