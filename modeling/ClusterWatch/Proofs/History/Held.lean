import ClusterWatch.Proofs.History.Columns
import ClusterWatch.Proofs.History.Payloads
import ClusterWatch.Proofs.History.Ring

namespace ClusterWatch.History

/-- The states that requests lead to. A ring is given an id of its own for each save. -/
inductive Reached : List Request → History → Prop where
  | ring (capacity : Nat) {requests : List Request} (distinct : ((savedBy requests).map fun s => s.entry.id).Nodup) :
      Reached requests ((History.ring (.empty capacity)).after requests)
  | documents (requests : List Request) : Reached requests ((History.documents ∅).after requests)

def idOf? (h : History) (s : Slot) : Option Uuid :=
  match h with
  | .ring _ => some s.entry.id
  | .documents _ => if s.entry.time.FitsColumn then some s.row.id else none

structure IsLeftBy (h : History) (saved : List Slot) (e : Entry) (s : Slot) : Prop where
  id : h.idOf? s = some e.id
  cluster : e.cluster = s.entry.cluster
  time : e.time.nanosSinceEpoch = s.entry.time.nanosSinceEpoch
  last : ∃ before later, saved = before ++ s :: later ∧ ∀ u ∈ later, h.idOf? u ≠ some e.id

namespace Table

variable {t : Table} {r : Row}

theorem left_of_mem_after {request : Request} (member : r ∈ (t.after request).rows) :
    (r ∈ t.rows ∧ ∀ u ∈ savedBy [request], u.entry.time.FitsColumn → u.row.id ≠ r.id) ∨
      ∃ s, savedBy [request] = [s] ∧ s.entry.time.FitsColumn ∧ r = s.row := by
  cases request with
  | save fresh cluster time snapshot =>
    by_cases fits : time.FitsColumn
    · rw [t.after_save fresh cluster snapshot fits, mem_insert_iff] at member
      rcases member with rfl | ⟨old, other⟩
      · exact Or.inr ⟨_, rfl, fits, rfl⟩
      · refine Or.inl ⟨old, fun u saved _ => ?_⟩
        rw [List.mem_singleton.1 saved]
        exact Ne.symm other
    · rw [t.after_save_beyond fresh cluster snapshot fits] at member
      refine Or.inl ⟨member, fun u saved fits' => ?_⟩
      rw [List.mem_singleton.1 saved] at fits'
      exact absurd fits' fits
  | list cluster since till => exact Or.inl ⟨member, fun u saved => absurd saved List.not_mem_nil⟩
  | fetch id => exact Or.inl ⟨member, fun u saved => absurd saved List.not_mem_nil⟩
  | remove cutoff =>
    rw [rows_after_remove] at member
    exact Or.inl ⟨List.mem_of_mem_filter member, fun u saved => absurd saved List.not_mem_nil⟩

theorem left_of_mem_run {requests : List Request} (member : r ∈ (requests.foldl after t).rows) :
    (r ∈ t.rows ∧ ∀ u ∈ savedBy requests, u.entry.time.FitsColumn → u.row.id ≠ r.id) ∨
      ∃ s before later, savedBy requests = before ++ s :: later ∧ s.entry.time.FitsColumn ∧ r = s.row ∧
        ∀ u ∈ later, u.entry.time.FitsColumn → u.row.id ≠ r.id := by
  induction requests generalizing t with
  | nil => exact Or.inl ⟨member, fun u saved => absurd saved List.not_mem_nil⟩
  | cons request rest ih =>
    rw [List.foldl_cons] at member
    rw [savedBy_cons]
    rcases ih member with ⟨early, untouched⟩ | ⟨s, before, later, saved, fits, same, last⟩
    -- Later requests have not touched the row, so it is as the first one has left it.
    · rcases left_of_mem_after early with ⟨old, kept⟩ | ⟨s, saved, fits, same⟩
      · refine Or.inl ⟨old, fun u member => ?_⟩
        rcases List.mem_append.1 member with first | after
        · exact kept u first
        · exact untouched u after
      · exact Or.inr ⟨s, [], savedBy rest, by rw [saved]; rfl, fits, same, untouched⟩
    · exact Or.inr ⟨s, savedBy [request] ++ before, later, by rw [saved, List.append_assoc], fits, same, last⟩

theorem exists_last_save {requests : List Request} (member : r ∈ (requests.foldl after ∅).rows) :
    ∃ s, s.entry.time.FitsColumn ∧ r = s.row ∧ ∃ before later, savedBy requests = before ++ s :: later ∧
      ∀ u ∈ later, u.entry.time.FitsColumn → u.row.id ≠ r.id := by
  rcases left_of_mem_run member with ⟨old, _⟩ | ⟨s, before, later, saved, fits, same, last⟩
  · exact absurd old List.not_mem_nil
  · exact ⟨s, fits, same, before, later, saved, last⟩

end Table

namespace Ring

variable {saved : List Slot}

theorem exists_last_save {capacity : Nat} (distinct : (saved.map fun s => s.entry.id).Nodup) {s : Slot}
    (held : s ∈ (saved.foldl save (empty capacity)).held) :
    ∃ before later, saved = before ++ s :: later ∧ ∀ u ∈ later, u.entry.id ≠ s.entry.id := by
  -- The latest slots are the end of what was saved, so what comes after one of them comes after it in both.
  rw [held_saves] at held
  obtain ⟨before, later, rfl⟩ := List.append_of_mem (List.mem_of_mem_drop held)
  refine ⟨before, later, rfl, fun u after same => ?_⟩
  have apart := (List.nodup_append.1 (by simpa using distinct)).2.1
  exact (List.nodup_cons.1 apart).1 (List.mem_map.2 ⟨u, after, same⟩)

theorem distinct_held (capacity : Nat) (distinct : (saved.map fun s => s.entry.id).Nodup) :
    ((saved.foldl save (empty capacity)).held.map fun s => s.entry.id).Nodup := by
  rw [held_saves]
  exact distinct.sublist ((List.drop_sublist _ _).map _)

end Ring

namespace Reached

variable {requests : List Request} {h : History}

theorem distinct (reached : Reached requests h) : (h.heldEntries.map Entry.id).Nodup := by
  cases reached with
  | ring capacity distinct =>
    rw [after_ring, heldEntries, List.map_map]
    exact Ring.distinct_held capacity distinct
  | documents requests =>
    rw [Table.after_documents, heldEntries, List.map_map]
    exact (requests.foldl Table.after ∅).distinct

theorem fetch_of_held (reached : Reached requests h) {e : Entry} (held : e ∈ h.heldEntries) :
    ∃ s, h.IsLeftBy (savedBy requests) e s ∧ h.fetch e.id = .ok s.snapshot := by
  cases reached with
  | ring capacity distinct =>
    rw [after_ring] at held ⊢
    obtain ⟨s, member, rfl⟩ := List.mem_map.1 held
    obtain ⟨before, later, saved, last⟩ := Ring.exists_last_save distinct member
    have search := (Keyed.find?_eq_some_iff (Ring.distinct_held capacity distinct)).2 ⟨member, rfl⟩
    refine ⟨s, ⟨rfl, rfl, rfl, before, later, saved, ?_⟩, ?_⟩
    · intro u after same
      exact last u after (Option.some.inj same)
    · simp only [fetch, Ring.find?, search, Option.map_some]
  | documents requests =>
    rw [Table.after_documents] at held ⊢
    obtain ⟨r, member, rfl⟩ := List.mem_map.1 held
    obtain ⟨s, fits, rfl, before, later, saved, last⟩ := Table.exists_last_save member
    have left := isOf_row fits
    have search : (requests.foldl Table.after ∅).row? s.row.id = some s.row :=
      Table.row?_eq_some_iff _ |>.2 ⟨member, rfl⟩
    have payload : s.row.payload = s.snapshot.encode.print := rfl
    refine ⟨s, ⟨if_pos fits, rfl, left.nanos, before, later, saved, ?_⟩, ?_⟩
    · intro u after same
      obtain ⟨fits', id⟩ := Option.ite_none_right_eq_some.1 same
      exact last u after fits' (Option.some.inj id)
    · simp only [Row.entry, fetch, Table.get?, search, Option.map_some, payload, readSnapshot?_print]

theorem fetch_of_missing (reached : Reached requests h) {id : Uuid} (gone : id ∉ h.heldEntries.map Entry.id) :
    h.fetch id = .error (missing id) := by
  cases reached with
  | ring capacity distinct =>
    rw [after_ring] at gone ⊢
    rw [heldEntries, List.map_map] at gone
    have search := Keyed.find?_eq_none_iff.2 gone
    simp only [Function.comp_apply] at search
    simp only [fetch, Ring.find?, search, Option.map_none]
  | documents requests =>
    rw [Table.after_documents] at gone ⊢
    rw [heldEntries, List.map_map] at gone
    have search := Table.row?_eq_none_iff _ |>.2 gone
    simp only [fetch, Table.get?, search, Option.map_none]

theorem mem_entries_iff (reached : Reached requests h) {since till : Instant} (low : since.isLeap = false)
    (high : till.isLeap = false) (covers : ∀ e ∈ h.heldEntries, since ≤ e.time ∧ e.time ≤ till) (cluster : String)
    (e : Entry) : e ∈ h.entries cluster since till ↔ e ∈ h.heldEntries ∧ e.cluster = cluster := by
  cases reached with
  | ring capacity distinct =>
    rw [after_ring] at covers ⊢
    simp only [entries, Ring.list, List.mem_mergeSort, List.mem_filter, Bool.and_eq_true, decide_eq_true_eq]
    constructor
    · rintro ⟨held, ⟨same, _⟩, _⟩
      exact ⟨held, same⟩
    · rintro ⟨held, same⟩
      obtain ⟨after, before⟩ := covers e held
      exact ⟨held, ⟨same, after⟩, before⟩
  | documents requests =>
    rw [mem_entries_after]
    rw [Table.after_documents] at covers ⊢
    constructor
    · rintro ⟨held, same, _⟩
      exact ⟨held, same⟩
    · rintro ⟨held, same⟩
      obtain ⟨start, stop⟩ := range_of_held held
      obtain ⟨after, before⟩ := covers e held
      exact ⟨held, same, (Instant.clamped_le_iff low start stop).2 (Or.inl after),
        (Instant.le_clamped_iff high start stop).2 (Or.inl before)⟩

end Reached

end ClusterWatch.History
