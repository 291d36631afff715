import ClusterWatch.ControlPlane
import ClusterWatch.Status

namespace ClusterWatch

open Kube

structure Limits where
  call : Duration
  fetch : Duration
  deriving Repr, DecidableEq

structure NodePods where
  node : Node
  pods : List Pod

def successes {ε α : Type} (rs : List (Except ε α)) : List α :=
  rs.filterMap fun
    | .ok a => some a
    | .error _ => none

def failures {ε α : Type} (rs : List (Except ε α)) : List ε :=
  rs.filterMap fun
    | .ok _ => none
    | .error e => some e

namespace Fetch

def reported (nodes : List Node) : List Node :=
  nodes.filter fun n => !n.status.conditions.isEmpty

/-- Only pods bound to the node count, whatever else is listed. -/
def podsOf (plane : ControlPlane) (limit : Duration) (node : Node) : Except Failure NodePods :=
  match ((plane.pods node.metadata.name).bounded limit).ending.result with
  | .ok list => .ok ⟨node, list.items.filter fun p => p.spec.node = node.metadata.name⟩
  | .error reason => .error (.partialFetch ("pods of node " ++ node.metadata.name) reason)

def targetsOf (n : NodePods) : List Target :=
  (if nodeReadiness n.node = .notReady then [.ofNode n.node] else []) ++
    (n.pods.filter fun p => !podIsReady p).map .ofPod

def targets (listed : List NodePods) : List Target :=
  listed.flatMap targetsOf

def eventsOf (plane : ControlPlane) (limit : Duration) (target : Target) :
    Except Failure (Target × List Event) :=
  match ((plane.events target).bounded limit).ending.result with
  | .ok list => .ok (target, list.items)
  | .error reason => .error (.partialFetch ("events of " ++ target.display) reason)

/-- A snapshot while it is put together, with the events that are not given out yet. Of several answers for one
target the last one counts, so it stands first. -/
structure Assembly where
  events : List (Target × List Event)
  nodes : List NodeStatus := []
  pods : Dictionary (List PodStatus) := ∅
  failures : List Failure := []

namespace Assembly

def withoutEvents (a : Assembly) (target : Target) : Assembly :=
  { a with events := a.events.filter fun e => e.1 ≠ target }

def eventsFor (a : Assembly) (target : Target) : List Event :=
  (a.events.lookup target).getD []

def addPod (a : Assembly) (pod : Pod) : Assembly :=
  let target := Target.ofPod pod
  let status := podStatus pod (a.eventsFor target)
  { a.withoutEvents target with
    pods := a.pods.update pod.metadata.ns fun others => others.getD [] ++ [status] }

/-- A node that cannot be added up is left out; its pods are not. -/
def addNode (a : Assembly) (n : NodePods) : Assembly :=
  let target := Target.ofNode n.node
  let rest := a.withoutEvents target
  let a := match nodeStatus n.node n.pods (a.eventsFor target) with
    | .ok (some status) => { rest with nodes := rest.nodes ++ [status] }
    | .ok none => rest
    | .error f => { rest with failures := rest.failures ++ [f] }
  n.pods.foldl addPod a

/-- Nodes and the pods of each namespace in the order of their names; equal names keep their order. -/
def snapshot (a : Assembly) (failures : List Failure) : Snapshot where
  nodes := a.nodes.mergeSort fun x y => x.name ≤ y.name
  pods := a.pods.map fun ps => ps.mergeSort fun x y => x.name ≤ y.name
  warnings := (failures ++ a.failures).map Failure.message

end Assembly

def snapshotOf (plane : ControlPlane) (limit : Duration) (nodes : List Node) : Snapshot :=
  let listings := (reported nodes).map (podsOf plane limit)
  let listed := successes listings
  let lookups := (targets listed).map (eventsOf plane limit)
  let assembly := listed.foldl Assembly.addNode { events := (successes lookups).reverse }
  assembly.snapshot (failures listings ++ failures lookups)

structure Course where
  elapsed : Duration
  asked : List (Duration × Question)
  result : Except Mishap Snapshot

def askAll (start limit : Duration) (plane : ControlPlane) (nodes : List Node) :
    Duration × List (Duration × Question) :=
  let nodes := reported nodes
  let wanted := targets (successes (nodes.map (podsOf plane limit)))
  let podTime := Duration.longest
    (nodes.map fun n => ((plane.pods n.metadata.name).bounded limit).delay)
  let eventTime := Duration.longest (wanted.map fun t => ((plane.events t).bounded limit).delay)
  (start + podTime + eventTime,
    (nodes.map fun n => (start, Question.pods n.metadata.name)) ++
      wanted.map fun t => (start + podTime, Question.events t))

def course (connector : Connector) (limit : Duration) (cluster : Cluster) : Course :=
  let first := (connector cluster).bounded limit
  let asked := [((0 : Duration), Question.version)]
  match first.ending with
  | .crash _ => ⟨first.delay, asked, .error .crash⟩
  | .fault f =>
    ⟨first.delay, asked, .error (Failure.connection cluster.identifier f.message)⟩
  | .answer plane =>
    let listing := plane.nodes.bounded limit
    let asked := asked ++ [(first.delay, Question.nodes)]
    let start := first.delay + listing.delay
    match listing.ending with
    | .crash _ => ⟨start, asked, .error .crash⟩
    | .fault f => ⟨start, asked, .error (Failure.list cluster.identifier f.message)⟩
    | .answer list =>
      let (elapsed, more) := askAll start limit plane list.items
      ⟨elapsed, asked ++ more, .ok (snapshotOf plane limit list.items)⟩

/-- A course that is broken off at a limit; what is asked before it stays asked. -/
def Course.bounded (limit : Duration) (operation : String) (c : Course) : Course :=
  if c.elapsed ≤ limit then c
  else ⟨limit, c.asked.filter fun q => q.1 < limit, .error (Failure.timeout operation limit)⟩

end Fetch

def fetchSnapshot (connector : Connector) (limits : Limits) (cluster : Cluster) : Fetch.Course :=
  (Fetch.course connector limits.call cluster).bounded limits.fetch
    ("snapshot of cluster " ++ cluster.identifier)

end ClusterWatch
