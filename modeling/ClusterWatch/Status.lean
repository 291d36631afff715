import ClusterWatch.Resources

namespace ClusterWatch

open Kube

def isReadyCondition (type status : String) : Bool :=
  type = "Ready" && status = "True"

def nodeReadiness (node : Node) : Readiness :=
  if node.status.conditions.any fun c => isReadyCondition c.type c.status then .ready else .notReady

def podIsReady (pod : Pod) : Bool :=
  pod.status.conditions.any fun c => isReadyCondition c.type c.status

def activityOf (p : ContainerPhase) : Activity :=
  if p.running.isSome then .running else if p.terminated.isSome then .terminated else .waiting

/-- A quantity in its canonical form, or as it was reported if it is none. -/
def shownQuantity (m : Quantity.Measure) (name : String) (list : ResourceList) : String :=
  match list.get? name with
  | none => "0"
  | some q =>
    match Quantity.read m q with
    | .ok n => Quantity.print m n
    | .error _ => q

def reportOn (reports : List ContainerReport) (name : String) : Option ContainerReport :=
  reports.reverse.find? fun r => r.name = name

def containerStatus (reports : List ContainerReport) (c : Container) : ContainerStatus :=
  let report := reportOn reports c.name
  { name := c.name
    activity := report.map fun r => activityOf r.phase
    ready := report.any (·.ready)
    restarts := (report.map (·.restarts)).getD 0
    resources := {
      cpu := ⟨shownQuantity .cpu "cpu" c.requests, shownQuantity .cpu "cpu" c.limits⟩
      memory := ⟨shownQuantity .memory "memory" c.requests, shownQuantity .memory "memory" c.limits⟩ } }

def podStatus (pod : Pod) (events : List Event) : PodStatus where
  ns := pod.metadata.ns
  name := pod.metadata.name
  phase := pod.status.phase
  created := pod.metadata.created.getD ""
  ready := podIsReady pod
  node := pod.spec.node
  containers := pod.spec.containers.map (containerStatus pod.status.containers)
  events

/-- There is no status of a node that nothing has been reported on. -/
def nodeStatus (node : Node) (pods : List Pod) (events : List Event) :
    Except Failure (Option NodeStatus) := do
  if node.status.conditions.isEmpty then return none
  let capacity ← NodeCapacity.ofNode node
  let usage ← NodeUsage.ofPods capacity.allocatable pods
  return some {
    name := node.metadata.name
    created := node.metadata.created.getD ""
    readiness := nodeReadiness node
    conditions := node.status.conditions
    events
    resources := usage.summary
    capacity := Usage.display capacity.capacity
    allocatable := Usage.display capacity.allocatable
    volumesInUse := UInt64.ofNat node.status.volumesInUse.length }

end ClusterWatch
