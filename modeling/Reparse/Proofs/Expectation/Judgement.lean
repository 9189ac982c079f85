import Reparse.Proofs.Expectation.Table

namespace Reparse

namespace ExpectationTable

/-- What a list of entries asks of a case. -/
inductive Asks (entries : List Expectation) (id : String) : Outcome → Prop where
  | listed {entry : Expectation} (member : entry ∈ entries) (same : entry.id = id) :
      Asks entries id entry.expected
  | unlisted (absent : id ∉ entries.map (·.id)) : Asks entries id .success

section Made

variable {entries : List Expectation} {table : ExpectationTable}

theorem get?_of_ofList (made : ofList entries = .ok table) (id : String) (entry : Expectation) :
    table.get? id = some entry ↔ entry ∈ entries ∧ entry.id = id := by
  rw [get?_eq_some_iff, (perm_of_ofList made).mem_iff]

theorem tracks_of_ofList (made : ofList entries = .ok table) (id : String) :
    table.tracks id = true ↔ id ∈ entries.map (·.id) := by
  rw [tracks_iff_mem, ((perm_of_ofList made).map _).mem_iff]

theorem asks_iff_wanted (made : ofList entries = .ok table) (id : String) (asked : Outcome) :
    Asks entries id asked ↔ asked = table.wanted id := by
  rw [wanted, expected?]
  cases found : table.get? id with
  | none =>
      have absent : id ∉ entries.map (·.id) := by
        rw [← tracks_of_ofList made, tracks, found]
        exact Bool.false_ne_true
      constructor
      · rintro (⟨member, same⟩ | -)
        · exact absurd (List.mem_map.2 ⟨_, member, same⟩) absent
        · rfl
      · rintro rfl
        exact .unlisted absent
  | some entry =>
      obtain ⟨member, same⟩ := (get?_of_ofList made id entry).1 found
      constructor
      · rintro (⟨otherMember, otherSame⟩ | absent)
        · have other := (get?_of_ofList made id _).2 ⟨otherMember, otherSame⟩
          rw [found] at other
          cases other
          rfl
        · exact absurd (List.mem_map.2 ⟨entry, member, same⟩) absent
      · rintro rfl
        exact .listed member same

theorem get?_congr {others : List Expectation} {other : ExpectationTable}
    (made : ofList entries = .ok table) (otherMade : ofList others = .ok other) {id : String}
    (own : ∀ entry : Expectation, entry.id = id → (entry ∈ others ↔ entry ∈ entries)) :
    other.get? id = table.get? id := by
  apply Option.ext
  intro entry
  rw [get?_of_ofList made, get?_of_ofList otherMade]
  constructor
  · rintro ⟨member, same⟩
    exact ⟨(own entry same).1 member, same⟩
  · rintro ⟨member, same⟩
    exact ⟨(own entry same).2 member, same⟩

theorem judge_congr {other : ExpectationTable} {id : String}
    (same : other.get? id = table.get? id) (outcome : Outcome) :
    other.judge id outcome = table.judge id outcome := by
  simp only [judge, expected?, same]

end Made

/-- One outcome is asked of a case, and it is the one that meets the expectation: as an expected
failure when the case has an entry, else as a pass.  Any other outcome is an unexpected pass when it
is success, an unexpected failure when the case has no entry, and a failure with a wrong cause when
it has one.  Entries for other cases change nothing. -/
theorem judge_of_ofList {entries : List Expectation} {table : ExpectationTable}
    (made : ofList entries = .ok table) (id : String) :
    ∃ want, (∀ asked, Asks entries id asked ↔ asked = want) ∧
      (∀ outcome,
        ((∃ verdict, table.judge id outcome = .ok verdict) ↔ outcome = want) ∧
        (outcome = want →
          (table.judge id outcome = .ok (.expectedFailure outcome) ↔
            id ∈ entries.map (·.id)) ∧
          (table.judge id outcome = .ok .passed ↔ id ∉ entries.map (·.id))) ∧
        (outcome ≠ want →
          (table.judge id outcome = .error (.unexpectedPass id) ↔ outcome = .success) ∧
          (table.judge id outcome = .error (.unexpectedFailure id outcome) ↔
            id ∉ entries.map (·.id)) ∧
          (table.judge id outcome = .error (.wrongCause id outcome want) ↔
            id ∈ entries.map (·.id) ∧ outcome ≠ .success))) ∧
      ∀ others other, ofList others = .ok other →
        (∀ entry : Expectation, entry.id = id → (entry ∈ others ↔ entry ∈ entries)) →
        ∀ outcome, other.judge id outcome = table.judge id outcome := by
  refine ⟨table.wanted id, asks_iff_wanted made id, fun outcome => ?_, ?_⟩
  · simp only [← tracks_of_ofList made id, judge_eq_ok_iff, judge_eq_error_iff]
    cases tracked : table.tracks id with
    | false =>
        have want := table.wanted_of_untracked tracked
        refine ⟨by simp, fun asked => by simp [asked], fun missed => ?_⟩
        have failed : outcome ≠ .success := want ▸ missed
        simp [missed, failed]
    | true =>
        refine ⟨by simp, fun asked => by simp [asked], fun missed => ?_⟩
        by_cases success : outcome = .success
        · subst success
          simp [missed]
        · simp [missed, success]
  · intro others other otherMade own
    exact judge_congr (get?_congr made otherMade own)

theorem judge_of_ofList_pair :
    ∃ table,
      ofList [⟨"b.js", .generateFailed, none⟩, ⟨"a.js", .parseFailed, some "known"⟩] = .ok table ∧
      table.judge "b.js" .generateFailed = .ok (.expectedFailure .generateFailed) ∧
      table.judge "b.js" .parseFailed =
        .error (.wrongCause "b.js" .parseFailed .generateFailed) ∧
      table.judge "b.js" .success = .error (.unexpectedPass "b.js") ∧
      table.judge "c.js" .parseFailed = .error (.unexpectedFailure "c.js" .parseFailed) := by
  have acceptable : Acceptable
      [⟨"b.js", .generateFailed, none⟩, ⟨"a.js", .parseFailed, some "known"⟩] :=
    ⟨by decide, by decide, by decide⟩
  obtain ⟨table, made, -⟩ := exists_ofList acceptable
  obtain ⟨want, asks, judged, -⟩ := judge_of_ofList made "b.js"
  obtain rfl := (asks _).1 (.listed List.mem_cons_self rfl)
  obtain ⟨other, otherAsks, otherJudged, -⟩ := judge_of_ofList made "c.js"
  obtain rfl := (otherAsks _).1 (.unlisted (by decide))
  refine ⟨table, made, ?_, ?_, ?_, ?_⟩
  · exact ((judged _).2.1 rfl).1.2 (by decide)
  · exact ((judged _).2.2 (by decide)).2.2.2 ⟨by decide, by decide⟩
  · exact ((judged _).2.2 (by decide)).1.2 rfl
  · exact ((otherJudged _).2.2 (by decide)).2.1.2 (by decide)

end ExpectationTable

end Reparse
