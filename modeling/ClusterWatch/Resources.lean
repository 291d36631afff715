import ClusterWatch.Failure
import ClusterWatch.Quantity.Reader
import ClusterWatch.Snapshot

namespace ClusterWatch

open Kube

abbrev Usage := ByResource Nat

namespace Usage

def zero : Usage := ⟨0, 0⟩

def add (a b : Usage) : Usage :=
  ⟨Amount.add a.cpu b.cpu, Amount.add a.memory b.memory⟩

def max (a b : Usage) : Usage :=
  ⟨Nat.max a.cpu b.cpu, Nat.max a.memory b.memory⟩

def display (u : Usage) : ByResource String :=
  ⟨Quantity.printCpu u.cpu, Quantity.printMemory u.memory⟩

def amount (m : Quantity.Measure) (name : String) (list : ResourceList) :
    Except Quantity.Refusal Nat :=
  match list.get? name with
  | none => .ok 0
  | some q => Quantity.read m q

def ofList (list : ResourceList) : Except Quantity.Refusal Usage := do
  let cpu ← amount .cpu "cpu" list
  let memory ← amount .memory "memory" list
  return ⟨cpu, memory⟩

end Usage

def containerUsage (c : Container) : Except Quantity.Refusal (ByBound Usage) := do
  let requests ← Usage.ofList c.requests
  let limits ← Usage.ofList c.limits
  return ⟨requests, limits⟩

def ByBound.zip {α : Type} (f : α → α → α) (a b : ByBound α) : ByBound α :=
  ⟨f a.requests b.requests, f a.limits b.limits⟩

def noUsage : ByBound Usage := ⟨Usage.zero, Usage.zero⟩

/-- What a pod takes: the sum over its containers, or the greatest of its init containers where that is more, since
those run one at a time and before the others. -/
def podUsage (pod : Pod) : Except Quantity.Refusal (ByBound Usage) := do
  let running ← pod.spec.containers.foldlM (fun t c => do return t.zip Usage.add (← containerUsage c))
    noUsage
  pod.spec.initContainers.foldlM (fun t c => do return t.zip Usage.max (← containerUsage c)) running

structure NodeCapacity where
  capacity : Usage
  allocatable : Usage
  deriving Repr, DecidableEq

/-- A node that does not say what it can give gives all it has. -/
def NodeCapacity.ofNode (node : Node) : Except Failure NodeCapacity := do
  let read (list : ResourceList) :=
    (Usage.ofList list).mapError fun e => .aggregation ("node " ++ node.metadata.name) e.message
  let capacity ← read node.status.capacity
  let allocatable ←
    if node.status.allocatable.isEmpty then pure capacity else read node.status.allocatable
  return ⟨capacity, allocatable⟩

/-- The share of what there is that is used, in whole percent and a hundred at most; of nothing it is
none. -/
def percentOf (used available : Nat) : UInt32 :=
  if available = 0 then 0 else UInt32.ofNat (min (used * 100 / available) 100)

structure NodeUsage where
  total : ByBound Usage
  percent : ByResource (ByBound UInt32)
  deriving Repr, DecidableEq

def podTotal (pods : List Pod) : Except Failure (ByBound Usage) :=
  pods.foldlM (fun total pod => do
    let usage ← (podUsage pod).mapError fun e =>
      Failure.aggregation ("pod " ++ pod.metadata.ns ++ "/" ++ pod.metadata.name) e.message
    return total.zip Usage.add usage) noUsage

def NodeUsage.ofPods (allocatable : Usage) (pods : List Pod) : Except Failure NodeUsage := do
  let total ← podTotal pods
  return {
    total
    percent := {
      cpu := ⟨percentOf total.requests.cpu allocatable.cpu, percentOf total.limits.cpu allocatable.cpu⟩
      memory :=
        ⟨percentOf total.requests.memory allocatable.memory,
          percentOf total.limits.memory allocatable.memory⟩ } }

def NodeUsage.summary (u : NodeUsage) : ResourceSummary where
  cpu := ⟨Quantity.printCpu u.total.requests.cpu, Quantity.printCpu u.total.limits.cpu⟩
  memory := ⟨Quantity.printMemory u.total.requests.memory, Quantity.printMemory u.total.limits.memory⟩
  percent := u.percent

end ClusterWatch
