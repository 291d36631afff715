import ClusterWatch.Proofs.History.Table
import ClusterWatch.Proofs.Snapshot.RoundTrip

namespace ClusterWatch.History

theorem readSnapshot?_print (s : Snapshot) : readSnapshot? s.encode.print = some s :=
  Snapshot.codes.read_print (by decide) s

theorem fromUTF8?_toUTF8 (text : String) : String.fromUTF8? text.toUTF8 = some text := by
  unfold String.fromUTF8?
  rw [String.toUTF8_eq_toByteArray, dif_pos text.isValidUTF8]
  rfl

theorem get?_insert (t : Table) (row : Row) : (t.insert row).get? row.id = some ⟨row.entry, row.payload⟩ := by
  have found : (t.insert row).row? row.id = some row :=
    (t.insert row).row?_eq_some_iff.2 ⟨t.mem_insert_iff.2 (Or.inl rfl), rfl⟩
  rw [Table.get?, found, Option.map_some]

theorem fetch_save {t : Table} {cluster : String} {time : Instant} {n : Int64} (column : time.toNanos? = some n)
    (fresh : Uuid) (s : Snapshot) :
    ∃ kept, (documents t).save fresh cluster time s = .ok (Entry.idOf cluster time, kept) ∧
      kept.fetch (Entry.idOf cluster time) = .ok s := by
  let row : Row := ⟨Entry.idOf cluster time, cluster, n, s.encode.print⟩
  have put : t.put (documentOf cluster time s) = .ok (t.insert row) := by
    simp only [Table.put, documentOf, column, row]
  refine ⟨documents (t.insert row), ?_, ?_⟩
  · simp only [History.save, put, Except.map]
  · have found : (t.insert row).get? (Entry.idOf cluster time) = some ⟨row.entry, s.encode.print⟩ :=
      get?_insert t row
    simp only [History.fetch, found, readSnapshot?_print]

/-- The bytes of every snapshot are read back as that snapshot, and so is what has been saved of it. -/
theorem snapshots_are_read_back (s : Snapshot) :
    (String.fromUTF8? s.encode.print.toUTF8).bind readSnapshot? = some s ∧
      ∀ (t : Table) (fresh : Uuid) (cluster : String) (time : Instant),
        (∃ kept, (documents t).save fresh cluster time s = .ok (Entry.idOf cluster time, kept) ∧
          kept.fetch (Entry.idOf cluster time) = .ok s) ∨
        (time.toNanos? = none ∧ (documents t).save fresh cluster time s =
          .error (.store ("entry time " ++ time.display ++ " out of range"))) := by
  constructor
  · rw [fromUTF8?_toUTF8, Option.bind_some, readSnapshot?_print]
  · intro t fresh cluster time
    cases column : time.toNanos? with
    | some n => exact Or.inl (fetch_save column fresh s)
    | none =>
      refine Or.inr ⟨rfl, ?_⟩
      simp only [History.save, Table.put, documentOf, column, Except.map]

end ClusterWatch.History
