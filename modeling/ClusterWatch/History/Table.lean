import ClusterWatch.Failure
import ClusterWatch.History.Entry

namespace ClusterWatch.History

structure Document where
  entry : Entry
  payload : String
  deriving Repr, DecidableEq

structure Row where
  id : Uuid
  cluster : String
  nanos : Int64
  payload : String
  deriving Repr, DecidableEq

def Row.entry (r : Row) : Entry :=
  ⟨r.id, r.cluster, Instant.ofNanos r.nanos⟩

inductive Bound where
  | none
  | included (t : Instant)
  | excluded (t : Instant)
  deriving Repr, DecidableEq

namespace Bound

/-- Bounds that have no column value count as the end of the range they lie beyond. -/
def allowsFrom (b : Bound) (nanos : Int64) : Bool :=
  match b with
  | .none => true
  | .included t => t.clampedNanos ≤ nanos
  | .excluded t => t.clampedNanos < nanos

def allowsTo (b : Bound) (nanos : Int64) : Bool :=
  match b with
  | .none => true
  | .included t => nanos ≤ t.clampedNanos
  | .excluded t => nanos < t.clampedNanos

end Bound

structure Filter where
  cluster : Option String
  since : Bound
  till : Bound
  deriving Repr, DecidableEq

def Filter.allows (f : Filter) (r : Row) : Bool :=
  f.cluster.all (· = r.cluster) && f.since.allowsFrom r.nanos && f.till.allowsTo r.nanos

structure Table where
  rows : List Row := []
  distinct : (rows.map Row.id).Nodup := by simp
  deriving Repr

namespace Table

instance : EmptyCollection Table := ⟨{}⟩
instance : Inhabited Table := ⟨∅⟩

def place (row : Row) : List Row → List Row
  | [] => [row]
  | r :: rest => if r.id = row.id then row :: rest else r :: place row rest

theorem mem_of_mem_place {row r : Row} : ∀ {rows : List Row}, r ∈ place row rows → r = row ∨ r ∈ rows
  | [], h => by simpa [place] using h
  | x :: rest, h => by
    unfold place at h
    split at h
    · rcases List.mem_cons.1 h with h | h
      · exact Or.inl h
      · exact Or.inr (by simp [h])
    · rcases List.mem_cons.1 h with h | h
      · exact Or.inr (by simp [h])
      · rcases mem_of_mem_place h with h | h
        · exact Or.inl h
        · exact Or.inr (by simp [h])

theorem place_distinct (row : Row) :
    ∀ {rows : List Row}, (rows.map Row.id).Nodup → ((place row rows).map Row.id).Nodup
  | [], _ => by simp [place]
  | x :: rest, h => by
    obtain ⟨fresh, tail⟩ := List.nodup_cons.1 h
    unfold place
    split
    · rename_i same
      exact List.nodup_cons.2 ⟨same ▸ fresh, tail⟩
    · rename_i other
      refine List.nodup_cons.2 ⟨fun member => ?_, place_distinct row tail⟩
      obtain ⟨r, member, same⟩ := List.mem_map.1 member
      rcases mem_of_mem_place member with rfl | member
      · exact other same.symm
      · exact fresh (List.mem_map.2 ⟨r, member, same⟩)

def insert (t : Table) (row : Row) : Table :=
  ⟨place row t.rows, place_distinct row t.distinct⟩

/-- A time that has no column value cannot be kept. -/
def put (t : Table) (d : Document) : Except Failure Table :=
  match d.entry.time.toNanos? with
  | none => .error (.store ("entry time " ++ d.entry.time.display ++ " out of range"))
  | some nanos => .ok (t.insert ⟨d.entry.id, d.entry.cluster, nanos, d.payload⟩)

def row? (t : Table) (id : Uuid) : Option Row :=
  t.rows.find? fun r => r.id = id

def get? (t : Table) (id : Uuid) : Option Document :=
  (t.row? id).map fun r => ⟨r.entry, r.payload⟩

def rowBefore (a b : Row) : Bool :=
  a.nanos < b.nanos || (a.nanos = b.nanos && a.id ≤ b.id)

/-- Entries by time, and entries of one time by id. -/
def query (t : Table) (f : Filter) : List Entry :=
  ((t.rows.filter f.allows).mergeSort rowBefore).map Row.entry

def deleteChunk (t : Table) (ids : List Uuid) : Nat × Table :=
  let kept := t.rows.filter fun r => r.id ∉ ids
  (t.rows.length - kept.length,
    ⟨kept, t.distinct.sublist (List.filter_sublist.map Row.id)⟩)

def chunkSize : Nat := 500

def chunks (size : Nat) : Nat → List Uuid → List (List Uuid)
  | 0, _ => []
  | _ + 1, [] => []
  | fuel + 1, ids => ids.take size :: chunks size fuel (ids.drop size)

def delete (t : Table) (ids : List Uuid) : Nat × Table :=
  (chunks chunkSize ids.length ids).foldl (fun (removed, t) chunk =>
    let (n, t) := t.deleteChunk chunk
    (removed + n, t)) (0, t)

end Table

end ClusterWatch.History
