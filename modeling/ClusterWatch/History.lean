import ClusterWatch.History.Ring
import ClusterWatch.History.Table
import ClusterWatch.Json.Printer

namespace ClusterWatch

open History

inductive History where
  | ring (r : Ring)
  | documents (t : Table)

namespace History

def evictsByAge : History → Bool
  | .ring _ => false
  | .documents _ => true

def documentOf (cluster : String) (time : Instant) (snapshot : Snapshot) : Document :=
  ⟨⟨Entry.idOf cluster time, cluster, time⟩, snapshot.encode.print⟩

/-- Keeps a snapshot and tells its id. A ring takes the id it is given; a document is named by its cluster and time,
so that keeping the same pair again replaces it. -/
def save (h : History) (fresh : Uuid) (cluster : String) (time : Instant) (snapshot : Snapshot) :
    Except Failure (Uuid × History) :=
  match h with
  | .ring r => .ok (fresh, .ring (r.save ⟨⟨fresh, cluster, time⟩, snapshot⟩))
  | .documents t =>
    (t.put (documentOf cluster time snapshot)).map fun t => (Entry.idOf cluster time, .documents t)

def entries (h : History) (cluster : String) (since till : Instant) : List Entry :=
  match h with
  | .ring r => r.list cluster since till
  | .documents t => t.query ⟨some cluster, .included since, .included till⟩

def missing (id : Uuid) : Failure :=
  .notFound ("history entry " ++ id.text)

def readSnapshot? (payload : String) : Option Snapshot :=
  (Json.read? payload).bind (Snapshot.decode Json.textRoom)

def fetch (h : History) (id : Uuid) : Except Failure Snapshot :=
  match h with
  | .ring r => match r.find? id with
    | some s => .ok s
    | none => .error (missing id)
  | .documents t => match t.get? id with
    | none => .error (missing id)
    | some d => match readSnapshot? d.payload with
      | some s => .ok s
      | none => .error (.store ("decoding snapshot " ++ id.text ++ ": not a snapshot"))

structure Shelf where
  entries : String → Instant → Instant → Except Failure (List Entry)
  fetch : Uuid → Except Failure Snapshot

def shelf (h : History) : Shelf where
  entries cluster since till := .ok (h.entries cluster since till)
  fetch := h.fetch

instance : Coe History Shelf := ⟨shelf⟩

def expired (t : Table) (cutoff : Instant) : List Entry :=
  t.query ⟨none, .none, .excluded cutoff⟩

def removeBefore (h : History) (cutoff : Instant) : Nat × History :=
  match h with
  | .ring r => (0, .ring r)
  | .documents t =>
    let (n, t) := t.delete ((expired t cutoff).map Entry.id)
    (n, .documents t)

/-- Removes what is older than a span of nanoseconds before now; `none` if there is no such time. -/
def collect? (h : History) (now : Instant) (span : Int) : Option (Nat × History) :=
  (now.minus? span).map h.removeBefore

def collectAt? (h : History) (now : Instant) (retention : Int) : Option (Nat × History) :=
  h.collect? now (retention * 1000000000)

end History

end ClusterWatch
