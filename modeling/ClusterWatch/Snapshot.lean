import ClusterWatch.Kube.Listing

namespace ClusterWatch

structure ByResource (α : Type) where
  cpu : α
  memory : α
  deriving Repr, DecidableEq, Inhabited

structure ByBound (α : Type) where
  requests : α
  limits : α
  deriving Repr, DecidableEq, Inhabited

inductive Readiness where
  | ready
  | notReady
  deriving Repr, DecidableEq, Inhabited

structure ResourceSummary where
  cpu : ByBound String
  memory : ByBound String
  percent : ByResource (ByBound UInt32)
  deriving Repr, DecidableEq, Inhabited

structure NodeStatus where
  name : String
  created : String
  readiness : Readiness
  conditions : List Kube.NodeCondition
  events : List Kube.Event := []
  resources : ResourceSummary
  capacity : ByResource String
  allocatable : ByResource String
  volumesInUse : UInt64
  deriving Repr, DecidableEq, Inhabited

inductive Activity where
  | running
  | terminated
  | waiting
  deriving Repr, DecidableEq, Inhabited

structure ContainerStatus where
  name : String
  /-- There is none while the control plane has not reported on the container. -/
  activity : Option Activity
  ready : Bool
  restarts : Int32
  resources : ByResource (ByBound String)
  deriving Repr, DecidableEq, Inhabited

structure PodStatus where
  ns : String
  name : String
  phase : String
  created : String
  ready : Bool
  node : String
  containers : List ContainerStatus
  events : List Kube.Event := []
  deriving Repr, DecidableEq, Inhabited

structure Snapshot where
  nodes : List NodeStatus := []
  pods : Dictionary (List PodStatus) := ∅
  warnings : List String := []
  deriving Repr, DecidableEq, Inhabited

end ClusterWatch
