import ClusterWatch.Proofs.Fetch.Accounting
import ClusterWatch.Proofs.Totals
import Mathlib.Algebra.Ring.Nat
import Mathlib.Data.List.Perm.Basic

namespace ClusterWatch.Fetch

open Kube

section Pods

variable {plane : ControlPlane} {limit : Duration} {nodes : List Node}

theorem exists_node_of_shown {s : Snapshot} {status : NodeStatus} (accounts : Accounts plane limit nodes s)
    (shown : status ∈ s.nodes) :
    ∃ n ∈ answering plane limit nodes, nodeStatus n (boundPods plane limit n) status.events = .ok (some status) := by
  obtain ⟨statuses, same, each⟩ := accounts.shown
  obtain ⟨n, member, built, -⟩ := exists_of_mem_forall₂ each (same.mem_iff.1 shown)
  obtain ⟨there, fit⟩ := List.mem_filter.1 member
  exact ⟨n, List.mem_filter.2 ⟨there, (Bool.and_eq_true_iff.1 fit).1⟩, built⟩

theorem pods_of_shown {s : Snapshot} {n : Node} (accounts : Accounts plane limit nodes s)
    (names : (nodes.map fun n => n.metadata.name).Nodup) (member : n ∈ answering plane limit nodes) :
    ∃ statuses, (s.pods.values.filter fun p => p.node = n.metadata.name).Perm statuses ∧
      List.Forall₂ (fun p status => podStatus p status.events = status) (boundPods plane limit n) statuses := by
  obtain ⟨statuses, same, each⟩ := accounts.held
  have only : ((answering plane limit nodes).filter fun k => k.metadata.name = n.metadata.name) = [n] := by
    apply Keyed.filter_eq_singleton _ member
    exact names.sublist (List.filter_sublist.map _)
  have bound : ∀ n, ∀ p ∈ boundPods plane limit n, p.spec.node = n.metadata.name :=
    fun _ _ => node_of_mem_boundPods
  have own := Keyed.filter_flatMap bound (fun name => name = n.metadata.name) (answering plane limit nodes)
  rw [only, List.flatMap_singleton] at own
  refine ⟨_, same.filter _, ?_⟩
  rw [← own]
  apply List.rel_filter _ (each.imp fun _ _ h => h.1)
  intro p status built
  rw [← built]
  rfl

end Pods

def podsAt (s : Snapshot) (name : String) : List PodStatus :=
  s.pods.values.filter fun p => p.node = name

/-- What is shown of a measure and a bound for a node and for the containers of its pods is read, and the node has no
less than they have together. -/
structure Agrees (m : Quantity.Measure) (b : Side) (status : NodeStatus) (pods : List PodStatus) (amounts : List Nat)
    (total available : Nat) : Prop where
  containers : List.Forall₂ (fun c a => Quantity.read m (c.shown m b) = .ok a) (pods.flatMap PodStatus.containers)
    amounts
  node : ShowsUsage m b status total available
  enough : min amounts.sum Amount.ceiling ≤ total
  percent : (status.resources.percent.get m).get b ≤ 100

theorem containers_of_statuses {pods : List Pod} {statuses : List PodStatus}
    (each : List.Forall₂ (fun p status => podStatus p status.events = status) pods statuses) :
    statuses.flatMap PodStatus.containers =
      pods.flatMap fun p => p.spec.containers.map (containerStatus p.status.containers) := by
  induction each with
  | nil => rfl
  | cons first _ ih =>
    rw [List.flatMap_cons, List.flatMap_cons, ih, ← first]
    rfl

theorem agrees_of_statuses {node : Node} {pods : List Pod} {status : NodeStatus} {shown statuses : List PodStatus}
    (built : nodeStatus node pods status.events = .ok (some status)) (same : shown.Perm statuses)
    (each : List.Forall₂ (fun p status => podStatus p status.events = status) pods statuses)
    (m : Quantity.Measure) (b : Side) :
    ∃ amounts total available, Agrees m b status shown amounts total available ∧
      ((∀ p ∈ pods, p.spec.initContainers = []) → total = min amounts.sum Amount.ceiling) := by
  obtain ⟨usages, available, used, shows⟩ := showsUsage_of_nodeStatus (m := m) (b := b) built
  obtain ⟨inOrder, read, enough, exactly⟩ := amounts_of_pods (m := m) (b := b) used
  rw [← containers_of_statuses each] at read
  -- The pods are shown by namespace and name, and were added up as they were listed.
  obtain ⟨amounts, reads, reordered⟩ := List.perm_comp_forall₂ (same.flatMap_right _) read
  have sum : amounts.sum = inOrder.sum := reordered.sum_nat
  refine ⟨amounts, _, available, ⟨reads, shows, ?_, ?_⟩, ?_⟩
  · rw [sum]
    exact enough
  · rw [shows.share]
    exact percentOf_le _ _
  · rw [sum]
    exact exactly

/-- Pods with init containers may take more than their containers show. -/
theorem numbers_agree {connector : Connector} {limits : Limits} {cluster : Cluster} {plane : ControlPlane}
    {list : Listing Node} {s : Snapshot} {status : NodeStatus} (reached : (connector cluster).ending = .answer plane)
    (listing : plane.nodes.ending = .answer list) (names : (list.items.map fun n => n.metadata.name).Nodup)
    (taken : (fetchSnapshot connector limits cluster).result = .ok s) (shown : status ∈ s.nodes) :
    ∃ n ∈ list.items, n.metadata.name = status.name ∧
      (∃ statuses, (podsAt s status.name).Perm statuses ∧
        List.Forall₂ (fun p status => podStatus p status.events = status) (boundPods plane limits.call n) statuses) ∧
      ∀ m b, ∃ amounts total available, Agrees m b status (podsAt s status.name) amounts total available ∧
        ((∀ p ∈ boundPods plane limits.call n, p.spec.initContainers = []) →
          total = min amounts.sum Amount.ceiling) := by
  obtain ⟨_, _, first, second, rfl⟩ := exists_plane_of_fetch taken
  cases Ending.answer.inj (first.symm.trans reached)
  cases Ending.answer.inj (second.symm.trans listing)
  have accounts := accounts_snapshotOf plane limits.call list.items
  obtain ⟨n, member, built⟩ := exists_node_of_shown accounts shown
  obtain ⟨statuses, same, each⟩ := pods_of_shown accounts names member
  rw [name_of_nodeStatus built]
  exact ⟨n, List.mem_of_mem_filter member, rfl, ⟨statuses, same, each⟩, agrees_of_statuses built same each⟩

def busyNode : ControlPlane :=
  let amounts (cpu memory : String) : ResourceList := ((∅ : Dictionary String).insert "cpu" cpu).insert "memory" memory
  let node : Node := {
    metadata := { name := "a" }
    status := { conditions := [{ type := "Ready", status := "True" }], capacity := amounts "4" "1Gi" } }
  let pod (name : String) (containers initContainers : List Container) : Pod := {
    metadata := { name, ns := "default", uid := name }
    spec := { node := "a", containers, initContainers }
    status := { conditions := [{ type := "Ready", status := "True" }] } }
  let pods : List Pod := [
    pod "web" [{ requests := amounts "0.25" "100M" }, { requests := amounts "1.5" "1Ki" }] [],
    pod "job" [{ requests := amounts "100u" "0" }] [{ requests := amounts "2" "64Mi" }]]
  { nodes := ⟨.ofSeconds 1, .answer { items := [node] }⟩
    pods := fun _ => ⟨.ofSeconds 1, .answer { items := pods }⟩
    events := fun _ => ⟨.ofSeconds 1, .answer {}⟩ }

theorem busy_node_agrees :
    ∃ list s status, (reaching busyNode default).ending = .answer busyNode ∧ busyNode.nodes.ending = .answer list ∧
      (list.items.map fun n => n.metadata.name).Nodup ∧
      (fetchSnapshot (reaching busyNode) usualLimits default).result = .ok s ∧ status ∈ s.nodes ∧
      ∃ n ∈ list.items, n.metadata.name = status.name ∧
        (∃ statuses, (podsAt s status.name).Perm statuses ∧
          List.Forall₂ (fun p status => podStatus p status.events = status)
            (boundPods busyNode usualLimits.call n) statuses) ∧
        ∀ m b, ∃ amounts total available, Agrees m b status (podsAt s status.name) amounts total available ∧
          ((∀ p ∈ boundPods busyNode usualLimits.call n, p.spec.initContainers = []) →
            total = min amounts.sum Amount.ceiling) :=
  have reached : (reaching busyNode default).ending = .answer busyNode := rfl
  have taken : ∃ s, (fetchSnapshot (reaching busyNode) usualLimits default).result = .ok s ∧ 0 < s.nodes.length :=
    ⟨_, rfl, by rw [snapshotOf_eq, List.length_mergeSort]; decide⟩
  taken.elim fun s given => (List.exists_mem_of_length_pos given.2).elim fun status shown =>
    ⟨_, s, status, reached, rfl, by decide, given.1, shown, numbers_agree reached rfl (by decide) given.1 shown⟩

end ClusterWatch.Fetch
