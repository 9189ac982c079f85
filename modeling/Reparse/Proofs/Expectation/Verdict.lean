import Reparse.Expectation.Verdict
import Mathlib.Data.List.Basic

namespace Reparse

namespace ExpectationTable

def wanted (table : ExpectationTable) (id : String) : Outcome :=
  (table.expected? id).getD .success

def tracks (table : ExpectationTable) (id : String) : Bool :=
  (table.get? id).isSome

theorem expected?_ne_success (table : ExpectationTable) {id : String} {want : Outcome}
    (expected : table.expected? id = some want) : want ≠ .success := by
  obtain ⟨entry, found, rfl⟩ := Option.map_eq_some_iff.1 expected
  exact table.failing entry (List.mem_of_find?_eq_some found)

theorem isSome_expected? (table : ExpectationTable) (id : String) :
    (table.expected? id).isSome = (table.get? id).isSome :=
  Option.isSome_map

theorem wanted_of_untracked (table : ExpectationTable) {id : String}
    (untracked : table.tracks id = false) : table.wanted id = .success := by
  rw [tracks, Option.isSome_eq_false_iff, Option.isNone_iff_eq_none] at untracked
  rw [wanted, expected?, untracked]
  rfl

/-- A case meets its expectation exactly when it comes to what the table asks of it, and is then
counted by whether the table has an entry for it. -/
theorem judge_eq_ok_iff (table : ExpectationTable) (id : String) (outcome : Outcome)
    (verdict : Verdict) :
    table.judge id outcome = .ok verdict ↔
      outcome = table.wanted id ∧
        verdict = if table.tracks id then .expectedFailure outcome else .passed := by
  simp only [judge, wanted, tracks, ← table.isSome_expected? id]
  cases expected : table.expected? id with
  | none =>
      by_cases success : outcome = .success
      · simp [success, eq_comm]
      · simp [success]
  | some want =>
      have failing := table.expected?_ne_success expected
      by_cases success : outcome = .success
      · simp [success, failing.symm]
      · by_cases same : outcome = want
        · simp [same, failing, eq_comm]
        · simp [success, same]

theorem judge_eq_error_iff (table : ExpectationTable) (id : String) (outcome : Outcome)
    (mismatch : Mismatch) :
    table.judge id outcome = .error mismatch ↔
      outcome ≠ table.wanted id ∧
        mismatch =
          if outcome = .success then .unexpectedPass id
          else if table.tracks id then .wrongCause id outcome (table.wanted id)
          else .unexpectedFailure id outcome := by
  simp only [judge, wanted, tracks, ← table.isSome_expected? id]
  cases expected : table.expected? id with
  | none =>
      by_cases success : outcome = .success
      · simp [success]
      · simp [success, eq_comm]
  | some want =>
      have failing := table.expected?_ne_success expected
      by_cases success : outcome = .success
      · simp [success, failing.symm, eq_comm]
      · by_cases same : outcome = want
        · simp [same, failing]
        · simp [success, same, eq_comm]

theorem tracks_iff_mem {table : ExpectationTable} {id : String} :
    table.tracks id = true ↔ id ∈ table.entries.map (·.id) := by
  simp [tracks, get?]

theorem nodup_ids (table : ExpectationTable) : (table.entries.map (·.id)).Nodup := by
  refine (List.pairwise_map.2 table.ordered).imp ?_
  rintro left _ smaller rfl
  exact String.lt_irrefl left smaller

/-- Of different cases, as many are tracked as there are entries that are not stale. -/
theorem countP_tracks_add_stale (table : ExpectationTable) {ids : List String}
    (distinct : ids.Nodup) :
    ids.countP table.tracks + (table.stale ids).length = table.size := by
  have tracked : (ids.filter table.tracks).Perm
      ((table.entries.map (·.id)).filter fun id => ids.contains id) := by
    refine (List.perm_ext_iff_of_nodup (distinct.filter _) (table.nodup_ids.filter _)).2 ?_
    intro id
    simp only [List.mem_filter, tracks_iff_mem, List.contains_iff_mem]
    exact And.comm
  rw [List.countP_eq_length_filter, tracked.length_eq, List.filter_map, List.length_map]
  exact (List.length_eq_length_filter_add fun entry : Expectation => ids.contains entry.id).symm

end ExpectationTable

end Reparse
