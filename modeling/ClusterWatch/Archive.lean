import ClusterWatch.Cadence
import ClusterWatch.Fetch
import ClusterWatch.History

namespace ClusterWatch

structure Archive where
  history : History
  ids : Nat → Uuid
  next : Nat := 0

namespace Archive

def save (a : Archive) (cluster : String) (time : Instant) (snapshot : Snapshot) :
    Except Failure (Uuid × Archive) :=
  (a.history.save (a.ids a.next) cluster time snapshot).map fun (id, history) =>
    (id, { a with history, next := a.next + 1 })

structure Report where
  saved : Nat := 0
  failed : Nat := 0
  deriving Repr, DecidableEq

/-- A snapshot is kept at the time when it is ready. -/
def keep (clock : Duration → Instant) (before : Report × Archive) (done : Cluster × Fetch.Course) :
    Report × Archive :=
  let (report, a) := before
  let failed := ({ report with failed := report.failed + 1 }, a)
  match done.2.result with
  | .error _ => failed
  | .ok snapshot =>
    match a.save done.1.identifier (clock done.2.elapsed) snapshot with
    | .error _ => failed
    | .ok (_, a) => ({ report with saved := report.saved + 1 }, a)

def courses (connector : Connector) (limits : Limits) (clusters : List Cluster) :
    List (Cluster × Fetch.Course) :=
  (clusters.map fun c => (c, fetchSnapshot connector limits c)).mergeSort
    fun a b => a.2.elapsed ≤ b.2.elapsed

def snapshotPass (connector : Connector) (limits : Limits) (clock : Duration → Instant)
    (clusters : List Cluster) (a : Archive) : Report × Archive :=
  (courses connector limits clusters).foldl (keep clock) ({}, a)

def passTime (connector : Connector) (limits : Limits) (clusters : List Cluster) : Duration :=
  .longest (clusters.map fun c => (fetchSnapshot connector limits c).elapsed)

/-- Snapshot passes at regular times. A pass that does not learn the clusters does nothing. -/
def record (cadence : Cadence) (stop : Duration) (ties : List Bool) (connector : Connector)
    (limits : Limits) (clock : Duration → Instant) (clusters : Nat → Except Failure (List Cluster))
    (a : Archive) : Cadence.Course Archive :=
  cadence.run stop ties (fun k start a =>
    match clusters k with
    | .error _ => (0, a)
    | .ok clusters =>
      (passTime connector limits clusters,
        (snapshotPass connector limits (fun t => clock (start + t)) clusters a).2)) a

def recordEvery (interval stop : Duration) (ties : List Bool) (connector : Connector) (limits : Limits)
    (clock : Duration → Instant) (clusters : Nat → Except Failure (List Cluster)) (a : Archive) :
    Option (Cadence.Course Archive) :=
  (Cadence.ofInterval? interval).map fun c => record c stop ties connector limits clock clusters a

/-- Removal passes at regular times, or none where the history bounds itself. A pass that fails changes nothing. -/
def evict {σ : Type} (cadence : Cadence) (stop : Duration) (ties : List Bool) (evicts : Bool)
    (pass : Cadence.Pass σ) (state : σ) : Cadence.Course σ :=
  if evicts then cadence.run stop ties pass state else ⟨[], 0, state⟩

end Archive

end ClusterWatch
