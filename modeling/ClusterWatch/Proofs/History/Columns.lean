import ClusterWatch.Proofs.History.Rows

namespace ClusterWatch.History

def heldEntries : History → List Entry
  | .ring r => r.held.map Slot.entry
  | .documents t => t.rows.map Row.entry

section Membership

variable {t : Table} {e : Entry}

theorem mem_entries_documents (cluster : String) (since till : Instant) :
    e ∈ (documents t).entries cluster since till ↔ e ∈ (documents t).heldEntries ∧ e.cluster = cluster ∧
      since.clamped ≤ e.time ∧ e.time ≤ till.clamped := by
  rw [entries, t.query_eq_map_found, heldEntries, List.mem_map, List.mem_map]
  constructor
  · rintro ⟨r, member, rfl⟩
    obtain ⟨there, same, after, before⟩ := (t.mem_found_clamped_iff cluster since till).1 member
    exact ⟨⟨r, there, rfl⟩, same, after, before⟩
  · rintro ⟨⟨r, there, rfl⟩, same, after, before⟩
    exact ⟨r, (t.mem_found_clamped_iff cluster since till).2 ⟨there, same, after, before⟩, rfl⟩

theorem mem_held_removeBefore (cutoff : Instant) : e ∈ ((documents t).removeBefore cutoff).2.heldEntries ↔
    e ∈ (documents t).heldEntries ∧ ¬ e.time < cutoff.clamped := by
  have rows := t.rows_after_remove cutoff
  simp only [Table.after] at rows
  simp only [removeBefore, heldEntries, rows, List.mem_map, List.mem_filter, decide_eq_true_eq]
  constructor
  · rintro ⟨r, ⟨there, stays⟩, rfl⟩
    exact ⟨⟨r, there, rfl⟩, stays⟩
  · rintro ⟨⟨r, there, rfl⟩, stays⟩
    exact ⟨r, ⟨there, stays⟩, rfl⟩

theorem mem_held_insert {row : Row} : e ∈ (documents (t.insert row)).heldEntries ↔
    e = row.entry ∨ (e ∈ (documents t).heldEntries ∧ e.id ≠ row.id) := by
  simp only [heldEntries, List.mem_map, t.mem_insert_iff]
  constructor
  · rintro ⟨r, rfl | ⟨there, other⟩, rfl⟩
    · exact Or.inl rfl
    · exact Or.inr ⟨⟨r, there, rfl⟩, other⟩
  · rintro (rfl | ⟨⟨r, there, rfl⟩, other⟩)
    · exact ⟨row, Or.inl rfl, rfl⟩
    · exact ⟨r, Or.inr ⟨there, other⟩, rfl⟩

theorem mem_entries_after {requests : List Request} (cluster : String) (since till : Instant) :
    e ∈ ((documents t).after requests).entries cluster since till ↔ e ∈ ((documents t).after requests).heldEntries ∧
      e.cluster = cluster ∧ since.clamped ≤ e.time ∧ e.time ≤ till.clamped := by
  rw [Table.after_documents]
  exact mem_entries_documents cluster since till

theorem range_of_held (held : e ∈ (documents t).heldEntries) :
    Instant.columnStart ≤ e.time ∧ e.time ≤ Instant.columnEnd := by
  obtain ⟨r, _, rfl⟩ := List.mem_map.1 held
  exact ⟨Instant.columnStart_le r.nanos, Instant.le_columnEnd r.nanos⟩

end Membership

structure Entry.IsOf (e : Entry) (s : Slot) : Prop where
  cluster : e.cluster = s.entry.cluster
  id : e.id = Entry.idOf s.entry.cluster s.entry.time
  plain : e.time.isLeap = false
  nanos : e.time.nanosSinceEpoch = s.entry.time.nanosSinceEpoch

theorem isOf_row {s : Slot} (fits : s.entry.time.FitsColumn) : s.row.entry.IsOf s where
  cluster := rfl
  id := rfl
  plain := (Instant.isColumnTime_ofNanos _).1
  nanos := Instant.ofNanos_clampedNanos _ fits

theorem Entry.IsOf.time_eq_iff {e : Entry} {s : Slot} (left : e.IsOf s) :
    e.time = s.entry.time ↔ s.entry.time.isLeap = false := by
  constructor
  · intro same
    rw [← same]
    exact left.plain
  · intro plain
    exact Instant.eq_of_nanosSinceEpoch left.plain plain left.nanos

theorem exists_save_of_held {requests : List Request} {e : Entry}
    (held : e ∈ ((documents ∅).after requests).heldEntries) : ∃ s ∈ savedBy requests, e.IsOf s := by
  rw [Table.after_documents] at held
  obtain ⟨r, member, rfl⟩ := List.mem_map.1 held
  obtain ⟨s, saved, fits, rfl⟩ := Table.exists_save_of_mem_run member
  exact ⟨s, saved, isOf_row fits⟩

/-- A time at an end of the range that is outside of a search, but that an end of the search stands for. -/
def Strays (since till time : Instant) : Prop :=
  (time = .columnEnd ∧ .columnEnd < since ∧ .columnEnd ≤ till) ∨
    (time = .columnStart ∧ till < .columnStart ∧ since ≤ .columnStart)

theorem within_clamped_iff {since till time : Instant} (low : since.isLeap = false) (high : till.isLeap = false)
    (start : Instant.columnStart ≤ time) (stop : time ≤ Instant.columnEnd) :
    ((since.clamped ≤ time ∧ time ≤ till.clamped) ↔ since ≤ time ∧ time ≤ till) ↔ ¬ Strays since till time := by
  have ends : ¬ Instant.columnEnd = Instant.columnStart := by decide
  rw [Instant.clamped_le_iff low start stop, Instant.le_clamped_iff high start stop, Strays,
    Instant.lt_iff_not_le, Instant.lt_iff_not_le]
  by_cases atEnd : time = Instant.columnEnd
  · subst atEnd
    simp only [ends, and_true, and_false, or_false, true_and, false_and]
    tauto
  · by_cases atStart : time = Instant.columnStart
    · subst atStart
      simp only [atEnd, and_true, and_false, or_false, true_and, false_and, false_or]
      tauto
    · simp only [atEnd, atStart, and_false, or_false, false_and, not_false_eq_true]

theorem before_clamped_iff {cutoff time : Instant} (plain : cutoff.isLeap = false)
    (start : Instant.columnStart ≤ time) (stop : time ≤ Instant.columnEnd) :
    (time < cutoff.clamped ↔ time < cutoff) ↔ ¬ (time = .columnEnd ∧ .columnEnd < cutoff) := by
  rw [Instant.lt_clamped_iff plain start stop]
  by_cases atEnd : time = Instant.columnEnd
  · subst atEnd
    tauto
  · simp only [atEnd, and_false, and_true, false_and, not_false_eq_true]

/-- Which of the held entries a search lists and a removal takes away. Both go by the bounds as they are, but for
entries at the very ends of the range of columns. -/
structure GoesByBounds (h : History) (saved : List Slot) (cluster : String) (since till cutoff : Instant) : Prop where
  listed : ∀ e ∈ h.entries cluster since till, e ∈ h.heldEntries ∧ e.cluster = cluster
  left : ∀ e ∈ (h.removeBefore cutoff).2.heldEntries, e ∈ h.heldEntries
  saved : ∀ e ∈ h.heldEntries, ∃ s ∈ saved, e.IsOf s ∧ e.time = s.entry.time
  searches : ∀ e ∈ h.heldEntries, e.cluster = cluster →
    ((e ∈ h.entries cluster since till ↔ since ≤ e.time ∧ e.time ≤ till) ↔ ¬ Strays since till e.time)
  removes : ∀ e ∈ h.heldEntries,
    ((e ∉ (h.removeBefore cutoff).2.heldEntries ↔ e.time < cutoff) ↔ ¬ (e.time = .columnEnd ∧ .columnEnd < cutoff))

theorem clamped_bounds_exact_iff (requests : List Request) (ordinary : ∀ s ∈ savedBy requests, s.entry.time.isLeap = false)
    (cluster : String) {since till cutoff : Instant} (low : since.isLeap = false) (high : till.isLeap = false)
    (plain : cutoff.isLeap = false) :
    GoesByBounds ((documents ∅).after requests) (savedBy requests) cluster since till cutoff := by
  have saved : ∀ e ∈ ((documents ∅).after requests).heldEntries, ∃ s ∈ savedBy requests,
      e.IsOf s ∧ e.time = s.entry.time := by
    intro e held
    obtain ⟨s, member, left⟩ := exists_save_of_held held
    exact ⟨s, member, left, left.time_eq_iff.2 (ordinary s member)⟩
  rw [Table.after_documents] at saved ⊢
  generalize requests.foldl Table.after ∅ = t at saved ⊢
  constructor
  case listed =>
    intro e member
    obtain ⟨held, same, _⟩ := (mem_entries_documents cluster since till).1 member
    exact ⟨held, same⟩
  case left =>
    intro e member
    exact ((mem_held_removeBefore cutoff).1 member).1
  case saved => exact saved
  case searches =>
    intro e held same
    obtain ⟨start, stop⟩ := range_of_held held
    rw [← within_clamped_iff low high start stop, mem_entries_documents]
    simp only [held, same, true_and]
  case removes =>
    intro e held
    obtain ⟨start, stop⟩ := range_of_held held
    rw [← before_clamped_iff plain start stop, mem_held_removeBefore]
    simp only [held, true_and, not_not]

def saveAtEnd : Request :=
  .save default "prod" .columnEnd { warnings := ["last"] }

def beyondColumns : Instant := ⟨13569465600, 0, by decide, by decide⟩

theorem clamped_bounds_exact_at_end :
    (∀ s ∈ savedBy [saveAtEnd], s.entry.time.isLeap = false) ∧ beyondColumns.isLeap = false ∧
      GoesByBounds ((documents ∅).after [saveAtEnd]) (savedBy [saveAtEnd]) "prod" .epoch beyondColumns beyondColumns :=
  have ordinary : ∀ s ∈ savedBy [saveAtEnd], s.entry.time.isLeap = false := by decide
  ⟨ordinary, rfl, clamped_bounds_exact_iff [saveAtEnd] ordinary "prod" rfl rfl rfl⟩

/-- The entry is listed from a time on that is after it, and outlives a removal of all that is older than that time. -/
theorem entry_at_end_misjudged :
    ∃ e ∈ ((documents ∅).after [saveAtEnd]).heldEntries,
      (e ∈ ((documents ∅).after [saveAtEnd]).entries "prod" beyondColumns beyondColumns ∧ ¬ beyondColumns ≤ e.time) ∧
        e.time < beyondColumns ∧ e ∈ (((documents ∅).after [saveAtEnd]).removeBefore beyondColumns).2.heldEntries := by
  have atEnd : Instant.columnEnd.IsColumnTime := Instant.isColumnTime_ofNanos _
  obtain ⟨late, clamped⟩ := Instant.columnEnd_lt_of_late (t := beyondColumns) rfl (by decide)
  have after : ¬ beyondColumns ≤ Instant.columnEnd := Instant.lt_iff_not_le.1 late
  have there : ¬ Instant.columnEnd < Instant.columnEnd := fun less => Instant.lt_iff_not_le.1 less (Instant.le_refl _)
  have held : ⟨Entry.idOf "prod" .columnEnd, "prod", .columnEnd⟩ ∈ ((documents ∅).after [saveAtEnd]).heldEntries := by
    rw [Table.after_documents, List.foldl_cons, List.foldl_nil, saveAtEnd, Table.after_save _ _ _ _ atEnd.2]
    exact mem_held_insert.2 (Or.inl (Eq.symm (entry_row atEnd)))
  refine ⟨_, held, ⟨(mem_entries_after _ _ _).2 ⟨held, rfl, ?_, ?_⟩, after⟩, late, ?_⟩
  · rw [clamped]
    exact Instant.le_refl _
  · rw [clamped]
    exact Instant.le_refl _
  · rw [Table.after_documents] at held ⊢
    refine (mem_held_removeBefore _).2 ⟨held, ?_⟩
    rw [clamped]
    exact there

def InStep (entries : List Entry) : Prop :=
  (∀ e ∈ entries, e.id = Entry.idOf e.cluster e.time) ∧ (entries.map Entry.time).Nodup

theorem ids_of_entries (t : Table) (cluster : String) (since till : Instant) :
    ((documents t).entries cluster since till).Pairwise fun a b => a.id ≠ b.id := by
  have distinct := t.found_distinct ⟨some cluster, .included since, .included till⟩
  rw [entries, t.query_eq_map_found, List.pairwise_map]
  exact List.pairwise_map.1 distinct

theorem Entry.IsOf.id_eq {a b : Entry} {s u : Slot} (left : a.IsOf s) (right : b.IsOf u) (cluster : a.cluster = b.cluster)
    (time : a.time = b.time) (ordinary : s.entry.time.isLeap = false) (ordinary' : u.entry.time.isLeap = false) :
    a.id = b.id := by
  have clusters : s.entry.cluster = u.entry.cluster := by
    rw [← left.cluster, cluster, right.cluster]
  have times : s.entry.time = u.entry.time := by
    rw [← left.time_eq_iff.2 ordinary, time, right.time_eq_iff.2 ordinary']
  rw [left.id, right.id, clusters, times]

section Listing

variable (requests : List Request) (cluster : String) (since till : Instant)

theorem exists_save_of_listed {e : Entry}
    (listed : e ∈ ((documents ∅).after requests).entries cluster since till) :
    e.cluster = cluster ∧ ∃ s ∈ savedBy requests, e.IsOf s := by
  obtain ⟨held, same, _⟩ := (mem_entries_after cluster since till).1 listed
  exact ⟨same, exists_save_of_held held⟩

theorem leap_of_same_time : (((documents ∅).after requests).entries cluster since till).Pairwise fun a b =>
    a.time = b.time → ∃ s ∈ savedBy requests, s.entry.time.isLeap = true ∧ (a.IsOf s ∨ b.IsOf s) := by
  have ids : (((documents ∅).after requests).entries cluster since till).Pairwise fun a b => a.id ≠ b.id := by
    rw [Table.after_documents]
    exact ids_of_entries _ cluster since till
  refine ids.imp_of_mem ?_
  intro a b listedA listedB different time
  obtain ⟨clusterA, s, savedA, left⟩ := exists_save_of_listed requests cluster since till listedA
  obtain ⟨clusterB, u, savedB, right⟩ := exists_save_of_listed requests cluster since till listedB
  by_cases leapA : s.entry.time.isLeap
  · exact ⟨s, savedA, leapA, Or.inl left⟩
  · by_cases leapB : u.entry.time.isLeap
    · exact ⟨u, savedB, leapB, Or.inr right⟩
    · have same := left.id_eq right (clusterA.trans clusterB.symm) time (by simpa using leapA) (by simpa using leapB)
      exact absurd same different

end Listing

theorem Entry.IsOf.id_in_step_iff {e : Entry} {s : Slot} (left : e.IsOf s)
    (apart : Entry.idOf e.cluster s.entry.time = Entry.idOf e.cluster e.time → s.entry.time = e.time) :
    e.id = Entry.idOf e.cluster e.time ↔ s.entry.time.isLeap = false := by
  rw [left.id, ← left.cluster, ← left.time_eq_iff]
  constructor
  · intro same
    exact (apart same).symm
  · intro same
    rw [same]

/-- A listed entry is at the time that it was saved with, and has the id of that time, unless it was saved in a leap
second; and only with such entries do others share a time. -/
theorem listed_entries_in_step (requests : List Request) (cluster : String) (since till : Instant) :
    (∀ e ∈ ((documents ∅).after requests).entries cluster since till, ∃ s ∈ savedBy requests, e.IsOf s ∧
      (e.time = s.entry.time ↔ s.entry.time.isLeap = false) ∧
      ((Entry.idOf e.cluster s.entry.time = Entry.idOf e.cluster e.time → s.entry.time = e.time) →
        (e.id = Entry.idOf e.cluster e.time ↔ s.entry.time.isLeap = false))) ∧
    ((((documents ∅).after requests).entries cluster since till).Pairwise fun a b => a.time = b.time →
      ∃ s ∈ savedBy requests, s.entry.time.isLeap = true ∧ (a.IsOf s ∨ b.IsOf s)) ∧
    ((∀ s ∈ savedBy requests, s.entry.time.isLeap = false) →
      InStep (((documents ∅).after requests).entries cluster since till)) := by
  have shared := leap_of_same_time requests cluster since till
  refine ⟨?_, shared, fun ordinary => ⟨?_, ?_⟩⟩
  · intro e listed
    obtain ⟨_, s, saved, left⟩ := exists_save_of_listed requests cluster since till listed
    exact ⟨s, saved, left, left.time_eq_iff, left.id_in_step_iff⟩
  · intro e listed
    obtain ⟨_, s, saved, left⟩ := exists_save_of_listed requests cluster since till listed
    rw [left.id, left.cluster, left.time_eq_iff.2 (ordinary s saved)]
  · apply List.pairwise_map.2
    refine shared.imp ?_
    intro a b leap time
    obtain ⟨s, saved, leap, _⟩ := leap time
    rw [ordinary s saved] at leap
    exact Bool.false_ne_true leap

def leapSecond : Instant := ⟨1483228799, 1500000000, by decide, by decide⟩
def secondAfter : Instant := ⟨1483228800, 500000000, by decide, by decide⟩

def leapSaves : List Request :=
  [.save default "prod" leapSecond { warnings := ["leap"] }, .save default "prod" secondAfter { warnings := ["after"] }]

/-- Both are listed at the second after, and the id of one of them is not that of its time. -/
theorem leap_second_out_of_step :
    (∃ e ∈ ((documents ∅).after leapSaves).entries "prod" .epoch beyondColumns,
      e.id ≠ Entry.idOf e.cluster e.time) ∧
    ¬ ((((documents ∅).after leapSaves).entries "prod" .epoch beyondColumns).map Entry.time).Nodup := by
  have ids : Entry.idOf "prod" leapSecond ≠ Entry.idOf "prod" secondAfter := by decide +kernel
  have leapColumn : leapSecond.FitsColumn := by decide
  have afterColumn : secondAfter.IsColumnTime := by decide
  have leapTime : leapSecond.clamped = secondAfter := by decide
  have inside : Instant.epoch.clamped ≤ secondAfter ∧ secondAfter ≤ beyondColumns.clamped := by decide
  have held : ∀ id, id = Entry.idOf "prod" leapSecond ∨ id = Entry.idOf "prod" secondAfter →
      ⟨id, "prod", secondAfter⟩ ∈ ((documents ∅).after leapSaves).entries "prod" .epoch beyondColumns := by
    have time : Instant.ofNanos leapSecond.clampedNanos = secondAfter := leapTime
    intro id either
    refine (mem_entries_after _ _ _).2 ⟨?_, rfl, inside⟩
    rw [Table.after_documents, leapSaves, List.foldl_cons, List.foldl_cons, List.foldl_nil,
      Table.after_save _ _ _ _ leapColumn, Table.after_save _ _ _ _ afterColumn.2, mem_held_insert, mem_held_insert]
    rcases either with rfl | rfl
    · exact Or.inr ⟨Or.inl (by simp only [Row.entry, Slot.row, time]), ids⟩
    · exact Or.inl (Eq.symm (entry_row afterColumn))
  have first := held _ (Or.inl rfl)
  have second := held _ (Or.inr rfl)
  refine ⟨⟨_, first, ids⟩, fun distinct => ?_⟩
  have same := List.inj_on_of_nodup_map distinct first second rfl
  exact ids (Entry.mk.inj same).1

end ClusterWatch.History
