import Mathlib.Data.List.Induction
import Mathlib.Data.List.Nodup
import Reparse.Expectation.Table
import Reparse.Proofs.Expectation.Verdict
import Reparse.Proofs.Text.Utf8

namespace Reparse

namespace ExpectationTable

/-- Entries that make a table. -/
structure Acceptable (entries : List Expectation) : Prop where
  named : ∀ entry ∈ entries, isBlankText entry.id = false
  failing : ∀ entry ∈ entries, entry.expected ≠ .success
  distinct : (entries.map (·.id)).Nodup

/-- What is wrong with an entry that comes after others.  A blank identifier is found first, an
expected success next. -/
inductive Offends (before : List Expectation) (entry : Expectation) : TableError → Prop where
  | blankId (blank : isBlankText entry.id = true) : Offends before entry (.blankId before.length)
  | expectsSuccess (named : isBlankText entry.id = false) (passing : entry.expected = .success) :
      Offends before entry (.expectsSuccess entry.id)
  | duplicateId (named : isBlankText entry.id = false) (failing : entry.expected ≠ .success)
      (listed : ∃ other ∈ before, other.id = entry.id) :
      Offends before entry (.duplicateId entry.id)

namespace Acceptable

variable {before entries others : List Expectation} {entry : Expectation}

theorem nil : Acceptable [] where
  named := by simp
  failing := by simp
  distinct := .nil

theorem of_perm (acceptable : Acceptable entries) (perm : others.Perm entries) :
    Acceptable others where
  named other member := acceptable.named other (perm.mem_iff.1 member)
  failing other member := acceptable.failing other (perm.mem_iff.1 member)
  distinct := (perm.map _).nodup_iff.2 acceptable.distinct

theorem concat_iff :
    Acceptable (before ++ [entry]) ↔
      Acceptable before ∧ isBlankText entry.id = false ∧ entry.expected ≠ .success ∧
        ¬∃ other ∈ before, other.id = entry.id := by
  constructor
  · rintro ⟨named, failing, distinct⟩
    rw [List.map_append, List.nodup_append] at distinct
    obtain ⟨distinct, -, fresh⟩ := distinct
    simp only [List.forall_mem_append, List.forall_mem_singleton] at named failing
    refine ⟨⟨named.1, failing.1, distinct⟩, named.2, failing.2, ?_⟩
    rintro ⟨other, member, same⟩
    exact fresh other.id (List.mem_map_of_mem member) entry.id (by simp) same
  · rintro ⟨⟨named, failing, distinct⟩, entryNamed, entryFailing, fresh⟩
    refine ⟨?_, ?_, ?_⟩
    · simpa only [List.forall_mem_append, List.forall_mem_singleton] using ⟨named, entryNamed⟩
    · simpa only [List.forall_mem_append, List.forall_mem_singleton] using ⟨failing, entryFailing⟩
    · rw [List.map_append, List.nodup_append]
      refine ⟨distinct, by simp, ?_⟩
      intro id member same isEntry
      obtain ⟨other, listed, rfl⟩ := List.mem_map.1 member
      rintro equal
      subst equal
      exact fresh ⟨other, listed, List.mem_singleton.1 isEntry⟩

end Acceptable

theorem exists_offends {before : List Expectation} {entry : Expectation}
    (acceptable : Acceptable before) (refused : ¬Acceptable (before ++ [entry])) :
    ∃ error, Offends before entry error := by
  rw [Acceptable.concat_iff, and_iff_right acceptable] at refused
  cases blank : isBlankText entry.id with
  | true => exact ⟨_, .blankId blank⟩
  | false =>
      by_cases passing : entry.expected = .success
      · exact ⟨_, .expectsSuccess blank passing⟩
      · have listed : ∃ other ∈ before, other.id = entry.id :=
          Decidable.not_not.1 fun fresh => refused ⟨blank, passing, fresh⟩
        exact ⟨_, .duplicateId blank passing listed⟩

theorem acceptable_or_offends (entries : List Expectation) :
    Acceptable entries ∨ ∃ before entry after error,
      entries = before ++ entry :: after ∧ Acceptable before ∧ Offends before entry error := by
  induction entries using List.reverseRecOn with
  | nil => exact .inl .nil
  | append_singleton front last induction =>
      rcases induction with acceptable | ⟨before, entry, after, error, rfl, acceptable, offends⟩
      · rcases Classical.em (Acceptable (front ++ [last])) with whole | refused
        · exact .inl whole
        · obtain ⟨error, offends⟩ := exists_offends acceptable refused
          exact .inr ⟨front, last, [], error, rfl, acceptable, offends⟩
      · exact .inr ⟨before, entry, after ++ [last], error, by simp, acceptable, offends⟩

theorem ext {left right : ExpectationTable} (same : left.entries = right.entries) :
    left = right := by
  cases left
  cases right
  cases same
  rfl

theorem perm_place (entry : Expectation) (entries : List Expectation) :
    (place entry entries).Perm (entry :: entries) := by
  induction entries with
  | nil => exact .refl _
  | cons head rest induction =>
      simp only [place]
      split
      · exact .refl _
      · exact (induction.cons head).trans (.swap entry head rest)

theorem eq_of_perm {left right : ExpectationTable} (perm : left.entries.Perm right.entries) :
    left = right := by
  apply ext
  refine perm.eq_of_pairwise ?_ left.ordered right.ordered
  intro first second _ _ smaller larger
  exact absurd (String.lt_trans smaller larger) (String.lt_irrefl _)

theorem get?_eq_some_iff {table : ExpectationTable} {id : String} {entry : Expectation} :
    table.get? id = some entry ↔ entry ∈ table.entries ∧ entry.id = id := by
  constructor
  · intro found
    exact ⟨List.mem_of_find?_eq_some found, by simpa using List.find?_some found⟩
  · rintro ⟨member, rfl⟩
    have listed : (table.get? entry.id).isSome = true := by
      rw [get?, List.find?_isSome]
      exact ⟨entry, member, beq_self_eq_true _⟩
    obtain ⟨other, found⟩ := Option.isSome_iff_exists.1 listed
    have same : other.id = entry.id := by simpa using List.find?_some found
    rw [found, List.inj_on_of_nodup_map table.nodup_ids (List.mem_of_find?_eq_some found) member
      same]

section Adding

variable {table : ExpectationTable} {before : List Expectation} {entry : Expectation}

theorem add_of_offends {error : TableError} (held : table.entries.Perm before)
    (offends : Offends before entry error) :
    table.add before.length entry = .error error := by
  cases offends with
  | blankId blank => rw [add, dif_pos blank]
  | expectsSuccess named passing => rw [add, dif_neg (by simp [named]), dif_pos passing]
  | duplicateId named failing listed =>
      obtain ⟨other, member, same⟩ := listed
      rw [add, dif_neg (by simp [named]), dif_neg failing,
        dif_pos ⟨other, held.mem_iff.2 member, same⟩]

theorem exists_add (held : table.entries.Perm before)
    (acceptable : Acceptable (before ++ [entry])) (index : Nat) :
    ∃ new, table.add index entry = .ok new ∧ new.entries.Perm (before ++ [entry]) := by
  obtain ⟨-, named, failing, fresh⟩ := Acceptable.concat_iff.1 acceptable
  have absent : ¬∃ other ∈ table.entries, other.id = entry.id := by
    rintro ⟨other, member, same⟩
    exact fresh ⟨other, held.mem_iff.1 member, same⟩
  refine ⟨_, by rw [add, dif_neg (by simp [named]), dif_neg failing, dif_neg absent], ?_⟩
  calc (place entry table.entries).Perm (entry :: table.entries) := perm_place entry _
    List.Perm _ (entry :: before) := held.cons entry
    List.Perm _ (before ++ [entry]) := (List.perm_append_singleton entry before).symm

theorem addAll_cons (table : ExpectationTable) (index : Nat) (entry : Expectation)
    (rest : List Expectation) :
    table.addAll index (entry :: rest) =
      (table.add index entry).bind fun next => next.addAll (index + 1) rest := by
  rw [addAll]
  cases table.add index entry with
  | error error => rfl
  | ok next => rfl

theorem addAll_append (table : ExpectationTable) (index : Nat) (front rest : List Expectation) :
    table.addAll index (front ++ rest) =
      (table.addAll index front).bind fun next => next.addAll (index + front.length) rest := by
  induction front generalizing table index with
  | nil => rfl
  | cons entry others induction =>
      rw [List.cons_append, addAll_cons, addAll_cons]
      cases table.add index entry with
      | error error => rfl
      | ok next =>
          have step := induction next (index + 1)
          rw [Nat.add_assoc, Nat.add_comm 1] at step
          exact step

end Adding

variable {entries before : List Expectation} {entry : Expectation}

theorem exists_ofList (acceptable : Acceptable entries) :
    ∃ table, ofList entries = .ok table ∧ table.entries.Perm entries := by
  -- The invariant of the loop: after a front of the list, the table holds just this front.
  induction entries using List.reverseRecOn with
  | nil => exact ⟨empty, rfl, .nil⟩
  | append_singleton front last induction =>
      obtain ⟨table, made, held⟩ := induction (Acceptable.concat_iff.1 acceptable).1
      obtain ⟨new, added, holds⟩ := exists_add held acceptable front.length
      rw [ofList] at made ⊢
      refine ⟨new, ?_, holds⟩
      rw [addAll_append, made, Nat.zero_add]
      simp only [Except.bind, addAll, added]

theorem ofList_of_offends {error : TableError} (acceptable : Acceptable before)
    (offends : Offends before entry error) (after : List Expectation) :
    ofList (before ++ entry :: after) = .error error := by
  obtain ⟨table, made, held⟩ := exists_ofList acceptable
  rw [ofList] at made ⊢
  rw [addAll_append, made, Nat.zero_add]
  simp only [Except.bind, addAll, add_of_offends held offends]

theorem acceptable_of_ofList {table : ExpectationTable} (made : ofList entries = .ok table) :
    Acceptable entries := by
  rcases acceptable_or_offends entries with acceptable |
    ⟨before, entry, after, error, rfl, acceptable, offends⟩
  · exact acceptable
  · rw [ofList_of_offends acceptable offends] at made
    contradiction

theorem perm_of_ofList {table : ExpectationTable} (made : ofList entries = .ok table) :
    table.entries.Perm entries := by
  obtain ⟨other, alsoMade, held⟩ := exists_ofList (acceptable_of_ofList made)
  rw [made] at alsoMade
  cases alsoMade
  exact held

theorem ofList_eq_error_iff {error : TableError} :
    ofList entries = .error error ↔
      ∃ before entry after, entries = before ++ entry :: after ∧ Acceptable before ∧
        Offends before entry error := by
  constructor
  · intro refused
    rcases acceptable_or_offends entries with acceptable |
      ⟨before, entry, after, found, rfl, acceptable, offends⟩
    · obtain ⟨table, made, -⟩ := exists_ofList acceptable
      rw [made] at refused
      contradiction
    · rw [ofList_of_offends acceptable offends] at refused
      cases refused
      exact ⟨before, entry, after, rfl, acceptable, offends⟩
  · rintro ⟨before, entry, after, rfl, acceptable, offends⟩
    exact ofList_of_offends acceptable offends after

/-- A list makes a table exactly when its identifiers are distinct, none is blank, and no entry
expects success.  The table then holds each entry under its identifier, in the order of the bytes of
the identifiers, and any other order of the list makes the same table.  Otherwise the first entry
that offends those before it is blamed. -/
theorem ofList_builds (entries : List Expectation) :
    ((∃ table, ofList entries = .ok table) ↔
      (∀ entry ∈ entries, isBlankText entry.id = false) ∧
        (∀ entry ∈ entries, entry.expected ≠ .success) ∧ (entries.map (·.id)).Nodup) ∧
    (∀ table, ofList entries = .ok table →
      table.size = entries.length ∧
      (∀ id entry, table.get? id = some entry ↔ entry ∈ entries ∧ entry.id = id) ∧
      table.entries.Perm entries ∧
      (table.entries.Pairwise fun left right => Utf8.encode left.id < Utf8.encode right.id) ∧
      ∀ others : List Expectation, others.Perm entries → ofList others = .ok table) ∧
    ∀ error, ofList entries = .error error ↔
      ∃ before entry after, entries = before ++ entry :: after ∧ Acceptable before ∧
        Offends before entry error := by
  refine ⟨⟨?_, ?_⟩, fun table made => ?_, fun error => ofList_eq_error_iff⟩
  · rintro ⟨table, made⟩
    obtain ⟨named, failing, distinct⟩ := acceptable_of_ofList made
    exact ⟨named, failing, distinct⟩
  · rintro ⟨named, failing, distinct⟩
    obtain ⟨table, made, -⟩ := exists_ofList ⟨named, failing, distinct⟩
    exact ⟨table, made⟩
  · have held := perm_of_ofList made
    refine ⟨held.length_eq, fun id entry => ?_, held, ?_, fun others perm => ?_⟩
    · rw [get?_eq_some_iff, held.mem_iff]
    · exact table.ordered.imp Utf8.encode_lt_encode.2
    · obtain ⟨other, otherMade, otherHeld⟩ :=
        exists_ofList ((acceptable_of_ofList made).of_perm perm)
      rw [otherMade, eq_of_perm (otherHeld.trans (perm.trans held.symm))]

theorem ofList_builds_pair :
    ∃ table,
      ofList [⟨"b.js", .parseFailed, some "known"⟩, ⟨"a.js", .generateFailed, none⟩] = .ok table ∧
      table.get? "b.js" = some ⟨"b.js", .parseFailed, some "known"⟩ ∧
      ofList [⟨"a.js", .generateFailed, none⟩, ⟨"b.js", .parseFailed, some "known"⟩] = .ok table ∧
      ofList [⟨"b.js", .parseFailed, some "known"⟩, ⟨"b.js", .generateFailed, none⟩] =
        .error (.duplicateId "b.js") := by
  obtain ⟨made, holds, -⟩ := ofList_builds
    [⟨"b.js", .parseFailed, some "known"⟩, ⟨"a.js", .generateFailed, none⟩]
  obtain ⟨table, found⟩ := made.2 ⟨by decide, by decide, by decide⟩
  obtain ⟨-, get, -, -, anyOrder⟩ := holds table found
  refine ⟨table, found, (get _ _).2 ⟨List.mem_cons_self, rfl⟩, anyOrder _ (.swap _ _ _), ?_⟩
  obtain ⟨-, -, blames⟩ := ofList_builds
    [⟨"b.js", .parseFailed, some "known"⟩, ⟨"b.js", .generateFailed, none⟩]
  refine (blames _).2 ⟨[⟨"b.js", .parseFailed, some "known"⟩], _, [], rfl, ?_, ?_⟩
  · exact ⟨by decide, by decide, by decide⟩
  · exact .duplicateId (by decide) (by decide) ⟨_, List.mem_cons_self, rfl⟩

end ExpectationTable

end Reparse
