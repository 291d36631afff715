import ClusterWatch.History
import ClusterWatch.Proofs.History.Nanoseconds
import ClusterWatch.Proofs.Keyed
import Mathlib.Data.List.Perm.Basic

namespace ClusterWatch.History

namespace Bound

variable (t : Instant) (n : Int64)

theorem allowsFrom_included : (included t).allowsFrom n ↔ t.clamped ≤ Instant.ofNanos n := by
  rw [Instant.clamped, Instant.ofNanos_le_iff, allowsFrom, decide_eq_true_iff]

theorem allowsTo_included : (included t).allowsTo n ↔ Instant.ofNanos n ≤ t.clamped := by
  rw [Instant.clamped, Instant.ofNanos_le_iff, allowsTo, decide_eq_true_iff]

theorem allowsTo_excluded : (excluded t).allowsTo n ↔ Instant.ofNanos n < t.clamped := by
  rw [Instant.clamped, Instant.ofNanos_lt_iff, allowsTo, decide_eq_true_iff]

end Bound

namespace Table

theorem mem_place_iff {row r : Row} {rows : List Row} (distinct : (rows.map Row.id).Nodup) :
    r ∈ place row rows ↔ r = row ∨ (r ∈ rows ∧ r.id ≠ row.id) := by
  induction rows with
  | nil => simp [place]
  | cons x rest ih =>
    obtain ⟨fresh, tail⟩ := List.nodup_cons.1 distinct
    have elsewhere : ∀ y ∈ rest, y.id ≠ x.id := by
      intro y member same
      exact fresh (List.mem_map.2 ⟨y, member, same⟩)
    rw [place]
    split
    · rename_i same
      simp only [List.mem_cons]
      constructor
      · rintro (rfl | member)
        · exact Or.inl rfl
        · exact Or.inr ⟨Or.inr member, same ▸ elsewhere r member⟩
      · rintro (rfl | ⟨rfl | member, other⟩)
        · exact Or.inl rfl
        · exact absurd same other
        · exact Or.inr member
    · rename_i other
      simp only [List.mem_cons, ih tail]
      constructor
      · rintro (rfl | rfl | ⟨member, apart⟩)
        · exact Or.inr ⟨Or.inl rfl, other⟩
        · exact Or.inl rfl
        · exact Or.inr ⟨Or.inr member, apart⟩
      · rintro (rfl | ⟨rfl | member, apart⟩)
        · exact Or.inr (Or.inl rfl)
        · exact Or.inl rfl
        · exact Or.inr (Or.inr ⟨member, apart⟩)

theorem mem_insert_iff (t : Table) {row r : Row} :
    r ∈ (t.insert row).rows ↔ r = row ∨ (r ∈ t.rows ∧ r.id ≠ row.id) :=
  mem_place_iff t.distinct

theorem place_of_fresh {row : Row} {rows : List Row} (fresh : row.id ∉ rows.map Row.id) :
    place row rows = rows ++ [row] := by
  induction rows with
  | nil => rfl
  | cons r rest ih =>
    rw [List.map_cons, List.mem_cons, not_or] at fresh
    obtain ⟨other, later⟩ := fresh
    rw [place, if_neg (Ne.symm other), ih later, List.cons_append]

theorem map_place {β : Type} {f : Row → β} {row : Row} {rows : List Row} (there : row.id ∈ rows.map Row.id)
    (same : ∀ r ∈ rows, r.id = row.id → f r = f row) : (place row rows).map f = rows.map f := by
  induction rows with
  | nil => exact absurd there List.not_mem_nil
  | cons r rest ih =>
    by_cases found : r.id = row.id
    · rw [place, if_pos found, List.map_cons, List.map_cons, same r List.mem_cons_self found]
    · have later : row.id ∈ rest.map Row.id := (List.mem_cons.1 there).resolve_left (Ne.symm found)
      rw [place, if_neg found, List.map_cons, List.map_cons,
        ih later fun r member => same r (List.mem_cons_of_mem _ member)]

theorem rows_insert_of_fresh (t : Table) {row : Row} (fresh : row.id ∉ t.rows.map Row.id) :
    (t.insert row).rows = t.rows ++ [row] :=
  place_of_fresh fresh

theorem put_of_fits (t : Table) {d : Document} (fits : d.entry.time.FitsColumn) :
    t.put d = .ok (t.insert ⟨d.entry.id, d.entry.cluster, d.entry.time.clampedNanos, d.payload⟩) := by
  have column := Instant.toNanos?_of_fits fits
  have clamped : d.entry.time.clampedNanos = Int64.ofInt d.entry.time.nanosSinceEpoch := by
    rw [Instant.clampedNanos, column, Option.getD_some]
  simp only [put, column, clamped]

theorem put_of_not_fits (t : Table) {d : Document} (beyond : ¬ d.entry.time.FitsColumn) :
    t.put d = .error (.store ("entry time " ++ d.entry.time.display ++ " out of range")) := by
  simp only [put, Instant.toNanos?_of_not_fits beyond]

theorem row?_eq_some_iff (t : Table) {id : Uuid} {r : Row} :
    t.row? id = some r ↔ r ∈ t.rows ∧ r.id = id :=
  Keyed.find?_eq_some_iff t.distinct

theorem row?_eq_none_iff (t : Table) {id : Uuid} : t.row? id = none ↔ id ∉ t.rows.map Row.id :=
  Keyed.find?_eq_none_iff

theorem rowBefore_trans (a b c : Row) (ab : rowBefore a b) (bc : rowBefore b c) : rowBefore a c := by
  simp only [rowBefore, Bool.or_eq_true, Bool.and_eq_true, decide_eq_true_eq, Int64.lt_iff_toInt_lt,
    ← Int64.toInt_inj] at ab bc ⊢
  rcases ab with ab | ⟨ab, ab'⟩ <;> rcases bc with bc | ⟨bc, bc'⟩
  · exact Or.inl (by omega)
  · exact Or.inl (by omega)
  · exact Or.inl (by omega)
  · exact Or.inr ⟨by omega, Nat.le_trans ab' bc'⟩

theorem rowBefore_total (a b : Row) : rowBefore a b || rowBefore b a := by
  simp only [rowBefore, Bool.or_eq_true, Bool.and_eq_true, decide_eq_true_eq, Int64.lt_iff_toInt_lt,
    ← Int64.toInt_inj]
  have ids : a.id ≤ b.id ∨ b.id ≤ a.id := Nat.le_total a.id.bits.toNat b.id.bits.toNat
  by_cases less : a.nanos.toInt < b.nanos.toInt
  · exact Or.inl (Or.inl less)
  · by_cases same : a.nanos.toInt = b.nanos.toInt
    · rcases ids with ids | ids
      · exact Or.inl (Or.inr ⟨same, ids⟩)
      · exact Or.inr (Or.inr ⟨same.symm, ids⟩)
    · exact Or.inr (Or.inl (by omega))

def found (t : Table) (f : Filter) : List Row :=
  (t.rows.filter f.allows).mergeSort rowBefore

theorem query_eq_map_found (t : Table) (f : Filter) : t.query f = (t.found f).map Row.entry :=
  rfl

theorem found_perm (t : Table) (f : Filter) : (t.found f).Perm (t.rows.filter f.allows) :=
  List.mergeSort_perm _ _

theorem mem_found_iff (t : Table) {f : Filter} {r : Row} : r ∈ t.found f ↔ r ∈ t.rows ∧ f.allows r := by
  rw [(t.found_perm f).mem_iff, List.mem_filter]

theorem nanos_le_of_rowBefore {a b : Row} (before : rowBefore a b) : a.nanos ≤ b.nanos := by
  simp only [rowBefore, Bool.or_eq_true, Bool.and_eq_true, decide_eq_true_eq] at before
  rcases before with less | ⟨same, _⟩
  · exact Int64.le_of_lt less
  · exact Int64.le_of_eq same

theorem found_ascending (t : Table) (f : Filter) :
    (t.found f).Pairwise fun a b => a.nanos ≤ b.nanos :=
  (List.pairwise_mergeSort rowBefore_trans rowBefore_total _).imp nanos_le_of_rowBefore

theorem found_distinct (t : Table) (f : Filter) : ((t.found f).map Row.id).Nodup := by
  apply ((t.found_perm f).map Row.id).nodup_iff.2
  exact t.distinct.sublist (List.filter_sublist.map Row.id)

theorem mem_found_clamped_iff (t : Table) (cluster : String) (since till : Instant) {r : Row} :
    r ∈ t.found ⟨some cluster, .included since, .included till⟩ ↔
      r ∈ t.rows ∧ r.cluster = cluster ∧ since.clamped ≤ r.entry.time ∧ r.entry.time ≤ till.clamped := by
  rw [t.mem_found_iff, Filter.allows, Bool.and_eq_true, Bool.and_eq_true, Bound.allowsFrom_included,
    Bound.allowsTo_included, Option.all_some, decide_eq_true_iff, eq_comm, and_assoc]
  rfl

theorem mem_found_span_iff (t : Table) (cluster : String) {since till : Instant} (low : since.IsColumnTime)
    (high : till.IsColumnTime) {r : Row} :
    r ∈ t.found ⟨some cluster, .included since, .included till⟩ ↔
      r ∈ t.rows ∧ r.cluster = cluster ∧ since ≤ r.entry.time ∧ r.entry.time ≤ till := by
  rw [mem_found_clamped_iff, Instant.clamped_of_column low, Instant.clamped_of_column high]

theorem mem_found_expired_iff (t : Table) (cutoff : Instant) {r : Row} :
    r ∈ t.found ⟨none, .none, .excluded cutoff⟩ ↔ r ∈ t.rows ∧ r.entry.time < cutoff.clamped := by
  rw [t.mem_found_iff, Filter.allows, Bool.and_eq_true, Bool.and_eq_true, Bound.allowsTo_excluded]
  simp [Bound.allowsFrom, Row.entry]

theorem id_mem_expired_clamped_iff (t : Table) (cutoff : Instant) {r : Row} (member : r ∈ t.rows) :
    r.id ∈ (expired t cutoff).map Entry.id ↔ r.entry.time < cutoff.clamped := by
  rw [expired, t.query_eq_map_found, List.map_map]
  constructor
  · intro inside
    obtain ⟨other, old, same⟩ := List.mem_map.1 inside
    obtain ⟨there, before⟩ := (t.mem_found_expired_iff cutoff).1 old
    rwa [← List.inj_on_of_nodup_map t.distinct there member same]
  · intro before
    exact List.mem_map.2 ⟨r, (t.mem_found_expired_iff cutoff).2 ⟨member, before⟩, rfl⟩

theorem id_mem_expired_iff (t : Table) {cutoff : Instant} (column : cutoff.IsColumnTime) {r : Row}
    (member : r ∈ t.rows) : r.id ∈ (expired t cutoff).map Entry.id ↔ r.entry.time < cutoff := by
  rw [id_mem_expired_clamped_iff t cutoff member, Instant.clamped_of_column column]

theorem flatten_chunks {size : Nat} (positive : 0 < size) (fuel : Nat) (ids : List Uuid)
    (enough : ids.length ≤ fuel) : (chunks size fuel ids).flatten = ids := by
  induction fuel generalizing ids with
  | zero =>
    have none : ids = [] := List.eq_nil_of_length_eq_zero (Nat.le_zero.1 enough)
    rw [none, chunks, List.flatten_nil]
  | succ fuel ih =>
    cases ids with
    | nil => rfl
    | cons id rest =>
      have shorter : ((id :: rest).drop size).length ≤ fuel := by
        rw [List.length_drop]
        omega
      rw [chunks, List.flatten_cons, ih _ shorter, List.take_append_drop]
      exact List.cons_ne_nil id rest

def removeChunk (done : Nat × Table) (chunk : List Uuid) : Nat × Table :=
  (done.1 + (done.2.deleteChunk chunk).1, (done.2.deleteChunk chunk).2)

theorem length_deleteChunk (t : Table) (ids : List Uuid) :
    (t.deleteChunk ids).1 + (t.deleteChunk ids).2.rows.length = t.rows.length := by
  have fewer := List.length_filter_le (fun r => decide (r.id ∉ ids)) t.rows
  simp only [deleteChunk]
  omega

theorem foldl_removeChunk (statements : List (List Uuid)) (done : Nat × Table) :
    (statements.foldl removeChunk done).2.rows = (done.2.rows.filter fun r => r.id ∉ statements.flatten) ∧
      (statements.foldl removeChunk done).1 + (statements.foldl removeChunk done).2.rows.length =
        done.1 + done.2.rows.length := by
  -- The invariant is that what is counted and what is left make up what was there.
  induction statements generalizing done with
  | nil => simp
  | cons chunk rest ih =>
    obtain ⟨rows, count⟩ := ih (removeChunk done chunk)
    constructor
    · rw [List.foldl_cons, rows]
      simp only [removeChunk, deleteChunk, List.filter_filter, List.flatten_cons, List.mem_append, not_or]
      apply List.filter_congr
      intro r _
      rw [Bool.decide_and, Bool.and_comm]
    · have step := done.2.length_deleteChunk chunk
      rw [List.foldl_cons, count]
      simp only [removeChunk]
      omega

theorem delete_eq_foldl (t : Table) (ids : List Uuid) :
    t.delete ids = (chunks chunkSize ids.length ids).foldl removeChunk (0, t) :=
  rfl

theorem rows_delete (t : Table) (ids : List Uuid) :
    (t.delete ids).2.rows = t.rows.filter fun r => r.id ∉ ids := by
  rw [delete_eq_foldl, (foldl_removeChunk _ _).1, flatten_chunks (by decide) _ _ (Nat.le_refl _)]

theorem length_delete (t : Table) (ids : List Uuid) :
    (t.delete ids).1 + (t.delete ids).2.rows.length = t.rows.length := by
  rw [delete_eq_foldl, (foldl_removeChunk _ _).2, Nat.zero_add]

theorem count_delete (t : Table) (ids : List Uuid) :
    (t.delete ids).1 = (t.rows.filter fun r => r.id ∈ ids).length := by
  have all := t.length_delete ids
  have parts := List.length_eq_length_filter_add (l := t.rows) fun r => decide (r.id ∈ ids)
  simp only [← decide_not] at parts
  rw [rows_delete] at all
  omega

end Table

end ClusterWatch.History
