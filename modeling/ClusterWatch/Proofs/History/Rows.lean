import ClusterWatch.Proofs.History.Requests
import ClusterWatch.Proofs.History.Table

namespace ClusterWatch.History

def Slot.row (s : Slot) : Row :=
  ⟨Entry.idOf s.entry.cluster s.entry.time, s.entry.cluster, s.entry.time.clampedNanos, s.snapshot.encode.print⟩

theorem time_row {s : Slot} (kept : s.entry.time.IsColumnTime) : s.row.entry.time = s.entry.time :=
  Instant.clamped_of_column kept

theorem entry_row {s : Slot} (kept : s.entry.time.IsColumnTime) :
    s.row.entry = ⟨Entry.idOf s.entry.cluster s.entry.time, s.entry.cluster, s.entry.time⟩ := by
  have same : Instant.ofNanos s.entry.time.clampedNanos = s.entry.time := time_row kept
  simp only [Row.entry, Slot.row, same]

namespace Table

def after (t : Table) : Request → Table
  | .save _ cluster time snapshot => (t.put (documentOf cluster time snapshot)).toOption.getD t
  | .list .. | .fetch _ => t
  | .remove cutoff => (t.delete ((expired t cutoff).map Entry.id)).2

theorem put_documentOf (t : Table) {s : Slot} (fits : s.entry.time.FitsColumn) :
    t.put (documentOf s.entry.cluster s.entry.time s.snapshot) = .ok (t.insert s.row) :=
  t.put_of_fits fits

theorem put_documentOf_beyond (t : Table) {s : Slot} (beyond : ¬ s.entry.time.FitsColumn) :
    t.put (documentOf s.entry.cluster s.entry.time s.snapshot) =
      .error (.store ("entry time " ++ s.entry.time.display ++ " out of range")) :=
  t.put_of_not_fits beyond

variable (t : Table) {r : Row}

theorem after_save (fresh : Uuid) (cluster : String) {time : Instant} (snapshot : Snapshot) (fits : time.FitsColumn) :
    t.after (.save fresh cluster time snapshot) = t.insert (Slot.row ⟨⟨fresh, cluster, time⟩, snapshot⟩) := by
  have put := t.put_documentOf (s := ⟨⟨fresh, cluster, time⟩, snapshot⟩) fits
  simp only [after, put, Except.toOption, Option.getD_some]

theorem after_save_beyond (fresh : Uuid) (cluster : String) {time : Instant} (snapshot : Snapshot)
    (beyond : ¬ time.FitsColumn) : t.after (.save fresh cluster time snapshot) = t := by
  have put := t.put_documentOf_beyond (s := ⟨⟨fresh, cluster, time⟩, snapshot⟩) beyond
  simp only [after, put, Except.toOption, Option.getD_none]

theorem answer_documents (request : Request) : ((documents t).answer request).2 = documents (t.after request) := by
  cases request with
  | save fresh cluster time snapshot =>
    simp only [answer, History.save, after]
    cases t.put (documentOf cluster time snapshot) with
    | ok next => rfl
    | error f => rfl
  | list cluster since till => rfl
  | fetch id => rfl
  | remove cutoff => rfl

theorem after_documents (requests : List Request) :
    (documents t).after requests = documents (requests.foldl after t) := by
  induction requests generalizing t with
  | nil => rfl
  | cons request rest ih =>
    have first : (documents t).after (request :: rest) = ((documents t).answer request).2.after rest := rfl
    rw [first, answer_documents, ih, List.foldl_cons]

theorem rows_after_remove (cutoff : Instant) :
    (t.after (.remove cutoff)).rows = t.rows.filter fun r => ¬ r.entry.time < cutoff.clamped := by
  simp only [after, rows_delete]
  apply List.filter_congr
  intro r member
  rw [decide_eq_decide, t.id_mem_expired_clamped_iff cutoff member]

theorem mem_of_mem_after {request : Request} (member : r ∈ (t.after request).rows) :
    r ∈ t.rows ∨ ∃ s ∈ savedBy [request], s.entry.time.FitsColumn ∧ r = s.row := by
  cases request with
  | save fresh cluster time snapshot =>
    by_cases fits : time.FitsColumn
    · rw [t.after_save fresh cluster snapshot fits, mem_insert_iff] at member
      rcases member with rfl | ⟨old, -⟩
      · exact Or.inr ⟨_, List.mem_singleton_self _, fits, rfl⟩
      · exact Or.inl old
    · rw [t.after_save_beyond fresh cluster snapshot fits] at member
      exact Or.inl member
  | list cluster since till => exact Or.inl member
  | fetch id => exact Or.inl member
  | remove cutoff =>
    rw [rows_after_remove] at member
    exact Or.inl (List.mem_of_mem_filter member)

theorem mem_of_mem_run {requests : List Request} (member : r ∈ (requests.foldl after t).rows) :
    r ∈ t.rows ∨ ∃ s ∈ savedBy requests, s.entry.time.FitsColumn ∧ r = s.row := by
  induction requests generalizing t with
  | nil => exact Or.inl member
  | cons request rest ih =>
    rw [List.foldl_cons] at member
    rw [savedBy_cons]
    rcases ih (t.after request) member with early | ⟨s, saved, left⟩
    · rcases t.mem_of_mem_after early with old | ⟨s, saved, left⟩
      · exact Or.inl old
      · exact Or.inr ⟨s, List.mem_append_left _ saved, left⟩
    · exact Or.inr ⟨s, List.mem_append_right _ saved, left⟩

theorem exists_save_of_mem_run {requests : List Request} (member : r ∈ (requests.foldl after ∅).rows) :
    ∃ s ∈ savedBy requests, s.entry.time.FitsColumn ∧ r = s.row := by
  rcases mem_of_mem_run ∅ member with old | saved
  · exact absurd old List.not_mem_nil
  · exact saved

end Table

end ClusterWatch.History
