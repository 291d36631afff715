import ClusterWatch.Proofs.Computations
import ClusterWatch.Status

namespace ClusterWatch

open Kube

def namesQuantity (m : Quantity.Measure) (name : String) (list : ResourceList) : Bool :=
  (list.get? name).all fun q => (Quantity.read m q).isOk

def isMeasured (list : ResourceList) : Bool :=
  namesQuantity .cpu "cpu" list && namesQuantity .memory "memory" list

def Kube.Container.isMeasured (c : Container) : Bool :=
  ClusterWatch.isMeasured c.requests && ClusterWatch.isMeasured c.limits

def Kube.Pod.isMeasured (p : Pod) : Bool :=
  p.spec.containers.all Container.isMeasured && p.spec.initContainers.all Container.isMeasured

def Kube.Node.isMeasured (n : Node) : Bool :=
  ClusterWatch.isMeasured n.status.capacity &&
    (n.status.allocatable.isEmpty || ClusterWatch.isMeasured n.status.allocatable)

theorem isOk_amount (m : Quantity.Measure) (name : String) (list : ResourceList) :
    (Usage.amount m name list).isOk = namesQuantity m name list := by
  rw [Usage.amount, namesQuantity]
  cases list.get? name <;> rfl

theorem isOk_usage (list : ResourceList) : (Usage.ofList list).isOk = isMeasured list := by
  rw [Usage.ofList, isOk_bind (namesQuantity .memory "memory" list), isOk_amount, isMeasured]
  intro cpu
  rw [isOk_bind_pure, isOk_amount]

theorem isOk_containerUsage (c : Container) : (containerUsage c).isOk = c.isMeasured := by
  rw [containerUsage, isOk_bind (isMeasured c.limits), isOk_usage, Container.isMeasured]
  intro requests
  rw [isOk_bind_pure, isOk_usage]

theorem isOk_podUsage (p : Pod) : (podUsage p).isOk = p.isMeasured := by
  have step : ∀ (f : Usage → Usage → Usage) (t : ByBound Usage) (c : Container),
      (do return t.zip f (← containerUsage c) : Except Quantity.Refusal (ByBound Usage)).isOk = c.isMeasured := by
    intro f t c
    rw [isOk_bind_pure, isOk_containerUsage]
  rw [podUsage, isOk_bind (p.spec.initContainers.all Container.isMeasured), isOk_foldlM (step Usage.add),
    Pod.isMeasured]
  exact isOk_foldlM (step Usage.max) _

theorem isOk_capacity (n : Node) : (NodeCapacity.ofNode n).isOk = n.isMeasured := by
  rw [NodeCapacity.ofNode, isOk_bind (n.status.allocatable.isEmpty || isMeasured n.status.allocatable),
    isOk_mapError, isOk_usage, Node.isMeasured]
  intro capacity
  by_cases empty : n.status.allocatable.isEmpty
  · simp only [empty, if_true, Bool.true_or]
    rfl
  · rw [if_neg empty, isOk_bind_pure, isOk_mapError, isOk_usage]
    simp only [empty, Bool.false_or]

theorem isOk_podTotal (pods : List Pod) : (podTotal pods).isOk = pods.all Pod.isMeasured := by
  apply isOk_foldlM
  intro total p
  rw [isOk_bind_pure, isOk_mapError, isOk_podUsage]

section Status

variable {node : Node} {pods : List Pod}

def IsAggregationOf (node : Node) (pods : List Pod) (f : Failure) : Prop :=
  ∃ reason, f = .aggregation ("node " ++ node.metadata.name) reason ∨
    ∃ p ∈ pods, f = .aggregation ("pod " ++ p.metadata.ns ++ "/" ++ p.metadata.name) reason

theorem isAggregationOf_of_capacity {f : Failure} (failed : NodeCapacity.ofNode node = .error f) :
    IsAggregationOf node pods f := by
  rw [NodeCapacity.ofNode] at failed
  cases first : Usage.ofList node.status.capacity with
  | error e =>
    simp only [first] at failed
    cases failed
    exact ⟨_, Or.inl rfl⟩
  | ok capacity =>
    simp only [first] at failed
    by_cases empty : node.status.allocatable.isEmpty
    · simp only [empty] at failed
      cases failed
    · cases second : Usage.ofList node.status.allocatable with
      | error e =>
        simp only [empty, second] at failed
        cases failed
        exact ⟨_, Or.inl rfl⟩
      | ok allocatable =>
        simp only [empty, second] at failed
        cases failed

theorem isAggregationOf_of_podTotal {f : Failure} (failed : podTotal pods = .error f) :
    IsAggregationOf node pods f := by
  obtain ⟨before, p, after, total, rfl, -, step⟩ := exists_error_of_foldlM failed
  cases usage : podUsage p with
  | error e =>
    rw [usage] at step
    cases step
    exact ⟨_, Or.inr ⟨p, List.mem_append_cons_self, rfl⟩⟩
  | ok u =>
    rw [usage] at step
    cases step

theorem nodeStatus_cases (reported : node.status.conditions.isEmpty = false) (pods : List Pod)
    (events : List Event) :
    ((node.isMeasured && pods.all Pod.isMeasured) = true ∧
      ∃ status, nodeStatus node pods events = .ok (some status) ∧ status.name = node.metadata.name ∧
        status.readiness = nodeReadiness node ∧ status.events = events) ∨
    ((node.isMeasured && pods.all Pod.isMeasured) = false ∧
      ∃ f, nodeStatus node pods events = .error f ∧ IsAggregationOf node pods f) := by
  rw [← isOk_capacity, ← isOk_podTotal]
  unfold nodeStatus NodeUsage.ofPods
  simp only [reported]
  cases capacity : NodeCapacity.ofNode node with
  | error f => exact Or.inr ⟨rfl, f, rfl, isAggregationOf_of_capacity capacity⟩
  | ok c =>
    cases total : podTotal pods with
    | error f => exact Or.inr ⟨rfl, f, rfl, isAggregationOf_of_podTotal total⟩
    | ok t => exact Or.inl ⟨rfl, _, rfl, rfl, rfl, rfl⟩

theorem shown_of_nodeStatus {events : List Event} {status : NodeStatus}
    (built : nodeStatus node pods events = .ok (some status)) :
    status.name = node.metadata.name ∧ status.readiness = nodeReadiness node ∧ status.events = events := by
  by_cases empty : node.status.conditions.isEmpty
  · rw [nodeStatus, if_pos empty] at built
    cases built
  · rcases nodeStatus_cases (by simpa using empty) pods events with ⟨-, other, shown, fields⟩ | ⟨-, f, refused, -⟩
    · rw [shown] at built
      cases built
      exact fields
    · rw [refused] at built
      cases built

theorem name_of_nodeStatus {events : List Event} {status : NodeStatus}
    (built : nodeStatus node pods events = .ok (some status)) : status.name = node.metadata.name :=
  (shown_of_nodeStatus built).1

end Status

end ClusterWatch
