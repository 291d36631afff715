import ClusterWatch.Proofs.History.Requests
import ClusterWatch.Proofs.Keyed
import ClusterWatch.Proofs.Sorting

namespace ClusterWatch.History

namespace Ring

theorem length_rotated (r : Ring) : r.rotated.length = r.slots.length := by
  have := r.inside
  simp only [rotated, List.length_append, List.length_drop, List.length_take]
  omega

theorem rotated_eq_cons (r : Ring) : ∃ first, r.rotated = first :: r.rotated.tail := by
  have size := r.length_rotated
  have := r.inside
  cases shape : r.rotated with
  | nil =>
    rw [shape, List.length_nil] at size
    omega
  | cons first rest => exact ⟨first, rfl⟩

theorem rotated_empty (capacity : Nat) :
    (empty capacity).rotated = List.replicate (max capacity 1) none := by
  simp [rotated, empty]

theorem rotated_save (r : Ring) (slot : Slot) :
    (r.save slot).rotated = r.rotated.tail ++ [some slot] := by
  have inside := r.inside
  have tail : r.rotated.tail = r.slots.drop (r.next + 1) ++ r.slots.take r.next := by
    rw [rotated, List.drop_eq_getElem_cons inside, List.cons_append, List.tail_cons]
  have front : (r.slots.set r.next (some slot)).take (r.next + 1) =
      r.slots.take r.next ++ [some slot] := by
    rw [List.take_add_one, List.take_set_of_le (Nat.le_refl _), List.getElem?_set_self inside]
    rfl
  have back : (r.slots.set r.next (some slot)).drop (r.next + 1) = r.slots.drop (r.next + 1) :=
    List.drop_set_of_lt (Nat.lt_succ_self _)
  rw [tail]
  -- After the last slot the writing is at the first one again, and the row needs no rotation.
  by_cases last : r.next + 1 = r.slots.length
  · have start : (r.save slot).next = 0 := by
      simp only [save, last, Nat.mod_self]
    have whole : (r.save slot).slots = r.slots.take r.next ++ [some slot] := by
      rw [← front, List.take_of_length_le]
      · rfl
      · rw [List.length_set]
        omega
    rw [rotated, start, List.drop_zero, List.take_zero, List.append_nil, whole,
      List.drop_of_length_le (Nat.le_of_eq last.symm), List.nil_append]
  · have start : (r.save slot).next = r.next + 1 := Nat.mod_eq_of_lt (by omega)
    rw [rotated, start]
    simp only [save]
    rw [front, back, List.append_assoc]

theorem rotated_saves (slots : List Slot) (r : Ring) :
    (slots.foldl save r).rotated = (r.rotated ++ slots.map some).drop slots.length := by
  induction slots generalizing r with
  | nil => simp
  | cons slot rest ih =>
    obtain ⟨first, shape⟩ := r.rotated_eq_cons
    rw [List.foldl_cons, ih, rotated_save, List.append_assoc, List.singleton_append, ← List.map_cons,
      List.length_cons]
    conv => rhs; rw [shape]
    rw [List.cons_append, List.drop_succ_cons]

theorem held_saves (capacity : Nat) (slots : List Slot) :
    (slots.foldl save (empty capacity)).held = slots.drop (slots.length - max capacity 1) := by
  rw [held, rotated_saves, rotated_empty, List.drop_append, List.length_replicate, List.drop_replicate,
    List.filterMap_append, ← List.map_drop, List.filterMap_map]
  have blanks : (List.replicate (max capacity 1 - slots.length) (none : Option Slot)).filterMap id = [] := by
    simp
  rw [blanks, List.nil_append]
  exact List.filterMap_some

end Ring

theorem after_ring (requests : List Request) (r : Ring) :
    after (.ring r) requests = .ring ((savedBy requests).foldl Ring.save r) := by
  induction requests generalizing r with
  | nil => rfl
  | cons request rest ih =>
    cases request with
    | save fresh cluster time snapshot => exact ih (r.save ⟨⟨fresh, cluster, time⟩, snapshot⟩)
    | list cluster since till => exact ih r
    | fetch id => exact ih r
    | remove cutoff => exact ih r

structure IsChronicle (entries listed : List Entry) : Prop where
  same : listed.Perm entries
  ascending : listed.Pairwise fun a b => a.time ≤ b.time
  stable : ∀ time, (listed.filter fun e => e.time = time) = entries.filter fun e => e.time = time

theorem isChronicle_mergeSort (entries : List Entry) :
    IsChronicle entries (entries.mergeSort fun a b => a.time ≤ b.time) := by
  constructor
  · exact List.mergeSort_perm _ _
  · exact Sorting.pairwise_mergeSort_by_key Instant.le_trans Instant.le_total entries
  · intro time
    apply Sorting.filter_mergeSort_of_rank (Sorting.trans_by_key Instant.le_trans)
      (Sorting.total_by_key Instant.le_total)
    intro a b ha hb
    simp only [decide_eq_true_eq] at ha hb ⊢
    rw [ha, hb]
    exact Instant.le_refl time

theorem index_eq_of_id_eq {slots : List Slot} (distinct : (slots.map fun s => s.entry.id).Nodup) {i j : Nat}
    (hi : i < slots.length) (hj : j < slots.length) (same : slots[i].entry.id = slots[j].entry.id) :
    i = j := by
  have bi : i < (slots.map fun s => s.entry.id).length := by rwa [List.length_map]
  have bj : j < (slots.map fun s => s.entry.id).length := by rwa [List.length_map]
  have mapped : (slots.map fun s => s.entry.id)[i] = (slots.map fun s => s.entry.id)[j] := by
    rwa [List.getElem_map, List.getElem_map]
  exact (List.Nodup.getElem_inj_iff distinct).1 mapped

/-- A history that answers from the latest of what was saved, as many as there are slots, and from nothing
else. -/
structure KeepsLatest (capacity : Nat) (saved : List Slot) (h : History) : Prop where
  holds : ∃ r : Ring, h = .ring r ∧ r.held = saved.drop (saved.length - max capacity 1)
  saves : ∀ fresh cluster time snapshot, ∃ r : Ring, h.save fresh cluster time snapshot = .ok (fresh, .ring r)
  fetches : ∀ (i : Nat) (inside : i < saved.length), h.fetch saved[i].entry.id =
    if saved.length - max capacity 1 ≤ i then .ok saved[i].snapshot
    else .error (missing saved[i].entry.id)
  misses : ∀ id, (id ∉ saved.map fun s => s.entry.id) → h.fetch id = .error (missing id)
  lists : ∀ cluster since till,
    IsChronicle
      (((saved.drop (saved.length - max capacity 1)).map Slot.entry).filter fun e =>
        e.cluster = cluster ∧ since ≤ e.time ∧ e.time ≤ till)
      (h.entries cluster since till)
  removes : ∀ cutoff, h.removeBefore cutoff = (0, h)

theorem ring_keeps_latest (capacity : Nat) (requests : List Request)
    (distinct : ((savedBy requests).map fun s => s.entry.id).Nodup) :
    KeepsLatest capacity (savedBy requests) (after (.ring (.empty capacity)) requests) := by
  rw [after_ring]
  generalize savedBy requests = saved at distinct
  have held := Ring.held_saves capacity saved
  generalize saved.foldl Ring.save (.empty capacity) = r at held
  have part : List.Sublist (saved.drop (saved.length - max capacity 1)) saved := List.drop_sublist _ _
  have heldDistinct : (r.held.map fun s => s.entry.id).Nodup := by
    rw [held]
    exact distinct.sublist (part.map _)
  constructor
  case holds => exact ⟨r, rfl, held⟩
  case saves =>
    intro fresh cluster time snapshot
    exact ⟨_, rfl⟩
  case fetches =>
    intro i inside
    split
    · rename_i late
      have member : saved[i] ∈ r.held := by
        rw [held]
        apply List.mem_drop_iff_getElem.2
        exact ⟨i - (saved.length - max capacity 1), by omega, by simp [Nat.add_sub_cancel' late]⟩
      have search := (Keyed.find?_eq_some_iff heldDistinct).2 ⟨member, rfl⟩
      simp only [fetch, Ring.find?, search, Option.map_some]
    · rename_i early
      -- Were the id held, it would be that of a later save.
      have gone : saved[i].entry.id ∉ r.held.map fun s => s.entry.id := by
        rw [held]
        intro member
        obtain ⟨slot, member, same⟩ := List.mem_map.1 member
        obtain ⟨j, bound, rfl⟩ := List.mem_drop_iff_getElem.1 member
        have equal := index_eq_of_id_eq distinct (by omega) inside same
        omega
      simp only [fetch, Ring.find?, Keyed.find?_eq_none_iff.2 gone, Option.map_none]
  case misses =>
    intro id fresh
    have gone : id ∉ r.held.map fun s => s.entry.id := by
      rw [held]
      intro member
      exact fresh ((part.map _).subset member)
    simp only [fetch, Ring.find?, Keyed.find?_eq_none_iff.2 gone, Option.map_none]
  case lists =>
    intro cluster since till
    have window : (fun e : Entry => decide (e.cluster = cluster ∧ since ≤ e.time ∧ e.time ≤ till)) =
        fun e => e.cluster = cluster && since ≤ e.time && e.time ≤ till := by
      funext e
      simp only [Bool.decide_and, Bool.and_assoc]
    rw [window, ← held]
    exact isChronicle_mergeSort _
  case removes =>
    intro cutoff
    rfl

def threeSaves : List Request :=
  let one (id : BitVec 128) (second : Nat) (warning : String) : Request :=
    .save ⟨id⟩ "prod" (Instant.ofNanos (Int64.ofNat (second * 1000000000))) { warnings := [warning] }
  [one 1 30 "first", .remove default, one 2 20 "second", .list "prod" default default, one 3 10 "third"]

theorem ring_of_two_keeps_latest :
    ((savedBy threeSaves).map fun s => s.entry.id).Nodup ∧
      KeepsLatest 2 (savedBy threeSaves) (after (.ring (.empty 2)) threeSaves) :=
  ⟨by decide, ring_keeps_latest 2 threeSaves (by decide)⟩

end ClusterWatch.History
