import ClusterWatch.History.Entry

namespace ClusterWatch.History

structure Slot where
  entry : Entry
  snapshot : Snapshot
  deriving Repr, DecidableEq

structure Ring where
  slots : List (Option Slot)
  next : Nat
  inside : next < slots.length
  deriving Repr

namespace Ring

def empty (capacity : Nat) : Ring where
  slots := List.replicate (max capacity 1) none
  next := 0
  inside := by
    rw [List.length_replicate]
    omega

/-- All slots, from the one that is written next, so that the oldest comes first. -/
def rotated (r : Ring) : List (Option Slot) :=
  r.slots.drop r.next ++ r.slots.take r.next

def held (r : Ring) : List Slot :=
  r.rotated.filterMap id

def save (r : Ring) (slot : Slot) : Ring where
  slots := r.slots.set r.next (some slot)
  next := (r.next + 1) % r.slots.length
  inside := by
    rw [List.length_set]
    exact Nat.mod_lt _ (Nat.zero_lt_of_lt r.inside)

/-- Entries by time, and entries of one time in the order in which they came. -/
def list (r : Ring) (cluster : String) (since till : Instant) : List Entry :=
  ((r.held.map Slot.entry).filter fun e =>
    e.cluster = cluster && since ≤ e.time && e.time ≤ till).mergeSort fun a b => a.time ≤ b.time

def find? (r : Ring) (id : Uuid) : Option Snapshot :=
  (r.held.find? fun s => s.entry.id = id).map Slot.snapshot

end Ring

end ClusterWatch.History
