import Reparse.Proofs.Suite.Frame
import Reparse.Proofs.Suite.Selection

namespace Reparse

theorem Suite.ordered_ids {suite : Suite} {volume : Volume} {ids : List String}
    (listed : suite.ids volume = .ok ids) : ids.Pairwise (· < ·) := by
  simp only [Suite.ids] at listed
  split at listed
  · contradiction
  · cases listed
    exact Dictionary.ordered_iff_names.1 (Dictionary.ordered_ofList _)

namespace Runner

theorem mem_firstOccurrences {seen ids : List String} {id : String} :
    id ∈ firstOccurrences seen ids ↔ id ∈ ids ∧ id ∉ seen := by
  simp [firstOccurrences_eq, List.mem_eraseDups]

theorem nodup_firstOccurrences (seen ids : List String) : (firstOccurrences seen ids).Nodup := by
  induction ids generalizing seen with
  | nil => exact .nil
  | cons id ids induction =>
      rw [firstOccurrences]
      split
      · exact induction seen
      · refine List.nodup_cons.2 ⟨?_, induction (id :: seen)⟩
        rw [mem_firstOccurrences]
        rintro ⟨-, unseen⟩
        exact unseen List.mem_cons_self

theorem nodup_eraseDups (ids : List String) : ids.eraseDups.Nodup := by
  rw [← firstOccurrences_nil]
  exact nodup_firstOccurrences [] ids

section Tally

variable {table : ExpectationTable} {load : String → Except SuiteError Trial}
  {examine : Trial → Finding}

theorem tally_eq_ok_of_perm (named : ∀ id trial, load id = .ok trial → trial.id = id)
    {ids others : List String} (perm : ids.Perm others) (start summary : Summary) :
    tally table load examine start ids = .ok summary ↔
      tally table load examine start others = .ok summary := by
  have met : AllMet table load examine ids ↔ AllMet table load examine others := by
    simp only [AllMet, perm.mem_iff]
  have counts : countAll table start ids = countAll table start others := by
    simp only [countAll, perm.length_eq, perm.countP_eq]
  rw [tally_eq_ok_iff named, tally_eq_ok_iff named, met, counts]

end Tally

variable {σ : Type}

theorem nodup_selected {runner : Runner σ} {session : Session σ} {chosen ids : List String}
    (selects : runner.selected session chosen = .ok ids) : ids.Nodup := by
  rw [selected] at selects
  split at selects
  · exact Suite.nodup_ids selects
  · cases selects
    exact nodup_eraseDups chosen

theorem run_eq_ok_of_selected (runner : Runner σ) (session : Session σ) (pure : runner.chain.Pure)
    {left right leftIds rightIds : List String}
    (leftSelects : runner.selected session left = .ok leftIds)
    (rightSelects : runner.selected session right = .ok rightIds)
    (same : ∀ id, id ∈ leftIds ↔ id ∈ rightIds)
    (leftSteady : runner.Steady session ((runner.run left).run session).2)
    (rightSteady : runner.Steady session ((runner.run right).run session).2)
    (summary : Summary) :
    ((runner.run left).run session).1 = .ok summary ↔
      ((runner.run right).run session).1 = .ok summary := by
  have perm : leftIds.Perm rightIds :=
    (List.perm_ext_iff_of_nodup (nodup_selected leftSelects) (nodup_selected rightSelects)).2 same
  rw [runner.run_eq_tally session left pure leftSteady, leftSelects,
    runner.run_eq_tally session right pure rightSteady, rightSelects]
  exact tally_eq_ok_of_perm (fun _ _ => Suite.id_of_load) perm {} summary

theorem selected_of_chosen (runner : Runner σ) (session : Session σ) {chosen : List String}
    (some : chosen ≠ []) : runner.selected session chosen = .ok chosen.eraseDups := by
  rw [selected, if_neg some]

theorem selected_nil (runner : Runner σ) (session : Session σ) :
    runner.selected session [] = runner.suite.ids (runner.volume session.state) := by
  rw [selected, if_pos rfl]

/-- First occurrences that stand in order and name all trials are the list of all trials. -/
theorem eraseDups_eq_ids {suite : Suite} {volume : Volume} {ids chosen : List String}
    (listed : suite.ids volume = .ok ids) (same : ∀ id, id ∈ chosen ↔ id ∈ ids)
    (sorted : chosen.eraseDups.Pairwise (· < ·)) : chosen.eraseDups = ids := by
  have perm : chosen.eraseDups.Perm ids := by
    refine (List.perm_ext_iff_of_nodup (nodup_eraseDups chosen) (Suite.nodup_ids listed)).2 ?_
    intro id
    rw [List.mem_eraseDups, same]
  refine perm.eq_of_pairwise ?_ sorted (Suite.ordered_ids listed)
  intro first second _ _ smaller larger
  exact absurd (String.lt_trans smaller larger) (String.lt_irrefl _)

def staleWarning (entry : Expectation) : Event :=
  .staleExpectation entry.id entry.expected

theorem warnStale_run (entries : List Expectation) (session : Session σ) :
    ((warnStale entries).run session).2 =
      { session with events := session.events ++ entries.map staleWarning } := by
  induction entries generalizing session with
  | nil =>
      rw [List.map_nil, List.append_nil]
      rfl
  | cons entry rest induction =>
      rw [warnStale, Session.run_bind, Session.run_tell, induction]
      simp [staleWarning]

/-- What trials do, told apart from what stood in the session before. -/
theorem runIds_eq (runner : Runner σ) (ids : List String) (session : Session σ) :
    (runner.runIds ids).run session =
      (((runner.runIds ids).run (.fresh session.state)).1,
        session.behind ((runner.runIds ids).run (.fresh session.state)).2) :=
  (runner.framed_runFrom {} ids).run_eq session

theorem tells_of_warning (runner : Runner σ) (ids : List String) (state : σ) :
    ∀ event ∈ ((runner.runIds ids).run (.fresh state)).2.events,
      event.level = .warn → runner.chain.Tells event := by
  intro event member warns
  rcases (runner.framed_runFrom {} ids).told state event member with quiet | tells
  · exact absurd warns quiet
  · exact tells

theorem run_all_eq (runner : Runner σ) (session : Session σ) {ids : List String}
    (listed : runner.suite.ids (runner.volume session.state) = .ok ids) :
    (runner.run []).run session =
      (((runner.runIds ids).run (.fresh session.state)).1,
        { session with
            events := session.events ++ (runner.table.stale ids).map staleWarning }.behind
          ((runner.runIds ids).run (.fresh session.state)).2) := by
  rw [run_all runner session listed, warnStale_run, runIds_eq]

theorem mem_stale {table : ExpectationTable} {ids : List String} {entry : Expectation} :
    entry ∈ table.stale ids ↔ entry ∈ table.entries ∧ entry.id ∉ ids := by
  simp [ExpectationTable.stale]

/-- A selection runs each of its trials where it is named first, without a warning.  Selections of
the same trials get to their ends together and with the same counts.  A run over all trials first
warns of each entry that belongs to none, in the order of identifiers; selections of all trials get
to their ends when it does and with the same counts, and one whose first occurrences are sorted
comes to the same in every respect and logs the same but the warnings. -/
theorem run_selections (runner : Runner σ) (session : Session σ) :
    (∀ chosen, chosen ≠ [] →
      runner.run chosen = runner.runIds chosen.eraseDups ∧
      ∃ told, ((runner.run chosen).run session).2.events = session.events ++ told ∧
        ∀ event ∈ told, event.level = .warn → runner.chain.Tells event) ∧
    (∀ left right, left ≠ [] → right ≠ [] → (∀ id, id ∈ left ↔ id ∈ right) →
      runner.chain.Pure → runner.Steady session ((runner.run left).run session).2 →
      runner.Steady session ((runner.run right).run session).2 →
      ∀ summary, ((runner.run left).run session).1 = .ok summary ↔
        ((runner.run right).run session).1 = .ok summary) ∧
    ∀ ids, runner.suite.ids (runner.volume session.state) = .ok ids →
      (∀ entry, entry ∈ runner.table.stale ids ↔
        entry ∈ runner.table.entries ∧ entry.id ∉ ids) ∧
      ((runner.table.stale ids).Pairwise fun left right => left.id < right.id) ∧
      (∃ told,
        ((runner.run []).run session).2.events =
          session.events ++ (runner.table.stale ids).map staleWarning ++ told ∧
        (∀ event ∈ told, event.level = .warn → runner.chain.Tells event) ∧
        ∀ chosen, chosen ≠ [] → (∀ id, id ∈ chosen ↔ id ∈ ids) →
          chosen.eraseDups.Pairwise (· < ·) →
          ((runner.run chosen).run session).1 = ((runner.run []).run session).1 ∧
          ((runner.run chosen).run session).2.events = session.events ++ told) ∧
      ∀ chosen, chosen ≠ [] → (∀ id, id ∈ chosen ↔ id ∈ ids) →
        runner.chain.Pure → runner.Steady session ((runner.run chosen).run session).2 →
        runner.Steady session ((runner.run []).run session).2 →
        ∀ summary, ((runner.run chosen).run session).1 = .ok summary ↔
          ((runner.run []).run session).1 = .ok summary := by
  refine ⟨?_, ?_, ?_⟩
  · intro chosen some
    rw [runner.run_chosen some, runIds_eq]
    exact ⟨rfl, _, rfl, runner.tells_of_warning _ _⟩
  · intro left right leftSome rightSome same pure leftSteady rightSteady
    refine runner.run_eq_ok_of_selected session pure (runner.selected_of_chosen session leftSome)
      (runner.selected_of_chosen session rightSome) ?_ leftSteady rightSteady
    simpa only [List.mem_eraseDups] using same
  · intro ids listed
    refine ⟨fun _ => mem_stale, runner.table.ordered.filter _, ?_, ?_⟩
    · rw [runner.run_all_eq session listed]
      refine ⟨_, rfl, runner.tells_of_warning _ _, ?_⟩
      intro chosen some same sorted
      rw [runner.run_chosen some, eraseDups_eq_ids listed same sorted, runIds_eq]
      exact ⟨rfl, rfl⟩
    · intro chosen some same pure chosenSteady allSteady
      refine runner.run_eq_ok_of_selected session pure (runner.selected_of_chosen session some)
        ((runner.selected_nil session).trans listed) ?_ chosenSteady allSteady
      simpa only [List.mem_eraseDups] using same

theorem run_selections_sample :
    (∀ summary, ((sample.run ["b", "a", "b"]).run ⟨(), [], []⟩).1 = .ok summary ↔
      ((sample.run ["a", "b"]).run ⟨(), [], []⟩).1 = .ok summary) ∧
    (∀ summary, ((sample.run ["b", "a", "b"]).run ⟨(), [], []⟩).1 = .ok summary ↔
      ((sample.run []).run ⟨(), [], []⟩).1 = .ok summary) ∧
    ∃ told,
      ((sample.run []).run ⟨(), [], []⟩).2.events =
        .staleExpectation "c" .parseFailed :: told ∧
      ((sample.run ["a", "b", "a"]).run ⟨(), [], []⟩).1 =
        ((sample.run []).run ⟨(), [], []⟩).1 ∧
      ((sample.run ["a", "b", "a"]).run ⟨(), [], []⟩).2.events = told := by
  obtain ⟨-, selections, all⟩ := run_selections sample ⟨(), [], []⟩
  have listed : sample.suite.ids (sample.volume ()) = .ok ["a", "b"] := rfl
  obtain ⟨-, -, ⟨told, warned, -, sorted⟩, ends⟩ := all ["a", "b"] listed
  refine ⟨?_, ?_, told, warned, ?_⟩
  · exact selections _ _ (by simp) (by simp) (by grind) sample_pure (fun _ _ _ => rfl)
      (fun _ _ _ => rfl)
  · exact ends _ (by simp) (by grind) sample_pure (fun _ _ _ => rfl) (fun _ _ _ => rfl)
  · exact sorted ["a", "b", "a"] (by simp) (by grind) (by decide)

end Runner

end Reparse
