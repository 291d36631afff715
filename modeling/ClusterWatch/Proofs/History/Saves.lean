import ClusterWatch.Proofs.History.Ring
import ClusterWatch.Proofs.History.Rows

namespace ClusterWatch.History

def Slot.request (s : Slot) : Request :=
  .save s.entry.id s.entry.cluster s.entry.time s.snapshot

/-- What some saves do to a history. A ring drops as many of its oldest slots as it takes; in a table the last save under
an id stands, and one of a time beyond the columns changes nothing. -/
def Takes : History → List Slot → History → Prop
  | .ring r, slots, .ring r' => r'.rotated = (r.rotated ++ slots.map some).drop slots.length
  | .documents t, slots, .documents t' => ∀ id, t'.row? id =
      ((slots.reverse.find? fun s => s.entry.time.FitsColumn ∧ s.row.id = id).map Slot.row).or (t.row? id)
  | _, _, _ => False

theorem savedBy_requests (slots : List Slot) : savedBy (slots.map Slot.request) = slots := by
  induction slots with
  | nil => rfl
  | cons s slots ih =>
    rw [List.map_cons, savedBy_cons, ih]
    rfl

namespace Table

theorem row?_insert (t : Table) (row : Row) (id : Uuid) :
    (t.insert row).row? id = if row.id = id then some row else t.row? id := by
  split
  · rename_i same
    exact (t.insert row).row?_eq_some_iff.2 ⟨t.mem_insert_iff.2 (Or.inl rfl), same⟩
  · rename_i other
    apply Option.ext
    intro r
    rw [row?_eq_some_iff, row?_eq_some_iff, mem_insert_iff]
    constructor
    · rintro ⟨rfl | ⟨old, -⟩, same⟩
      · exact absurd same other
      · exact ⟨old, same⟩
    · rintro ⟨old, rfl⟩
      exact ⟨Or.inr ⟨old, fun same => other same.symm⟩, rfl⟩

theorem row?_after_save (t : Table) (s : Slot) (id : Uuid) : (t.after s.request).row? id =
    if s.entry.time.FitsColumn ∧ s.row.id = id then some s.row else t.row? id := by
  obtain ⟨⟨fresh, cluster, time⟩, snapshot⟩ := s
  by_cases fits : time.FitsColumn
  · have saved := t.after_save fresh cluster snapshot fits
    rw [Slot.request, saved, row?_insert]
    simp only [fits, true_and]
  · have saved := t.after_save_beyond fresh cluster snapshot fits
    rw [Slot.request, saved]
    simp only [fits, false_and, if_false]

theorem row?_run (t : Table) (slots : List Slot) (id : Uuid) : ((slots.map Slot.request).foldl after t).row? id =
    ((slots.reverse.find? fun s => s.entry.time.FitsColumn ∧ s.row.id = id).map Slot.row).or (t.row? id) := by
  induction slots generalizing t with
  | nil => rfl
  | cons s slots ih =>
    rw [List.map_cons, List.foldl_cons, ih, row?_after_save, List.reverse_cons, List.find?_append]
    -- The first save counts only where none after it is under the id.
    cases slots.reverse.find? fun s => s.entry.time.FitsColumn ∧ s.row.id = id with
    | some later => rfl
    | none =>
      by_cases here : s.entry.time.FitsColumn ∧ s.row.id = id
      · simp [here]
      · simp [here]

end Table

theorem takes_after (h : History) (slots : List Slot) : h.Takes slots (h.after (slots.map Slot.request)) := by
  cases h with
  | ring r =>
    rw [after_ring, savedBy_requests]
    exact Ring.rotated_saves slots r
  | documents t =>
    rw [Table.after_documents]
    exact t.row?_run slots

end ClusterWatch.History
