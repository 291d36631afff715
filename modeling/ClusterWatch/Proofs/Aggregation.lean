import ClusterWatch.Proofs.Fetch.Measuring
import ClusterWatch.Proofs.Totals
import Mathlib.Data.List.Perm.Basic

namespace ClusterWatch

open Kube

def amountIn (m : Quantity.Measure) (list : ResourceList) : Nat :=
  match list.get? m.resource with
  | none => 0
  | some q => (Quantity.read m q).toOption.getD 0

def Kube.Container.amount (c : Container) (m : Quantity.Measure) (b : Side) : Nat :=
  amountIn m (c.list b)

/-- Containers run at once, and init containers one at a time. -/
def Kube.Pod.amount (p : Pod) (m : Quantity.Measure) (b : Side) : Nat :=
  Nat.max (p.spec.containers.map fun c => c.amount m b).sum
    ((p.spec.initContainers.map fun c => c.amount m b).max?.getD 0)

/-- The whole percent that a total is of what is available, a hundred where it is all or more; of nothing it is none. -/
def IsShare (total available share : Nat) : Prop :=
  if available = 0 then share = 0
  else share ≤ 100 ∧ (available ≤ total → share = 100) ∧
    (total < available → share * available ≤ 100 * total ∧ 100 * total < (share + 1) * available)

structure FailsAt (pods : List Pod) (f : Failure) (before : List Pod) (p : Pod) (after : List Pod)
    (e : Quantity.Refusal) : Prop where
  order : pods = before ++ p :: after
  measured : ∀ q ∈ before, q.isMeasured
  unmeasured : p.isMeasured = false
  refused : podUsage p = .error e
  named : f = .aggregation ("pod " ++ p.metadata.ns ++ "/" ++ p.metadata.name) e.message

structure Kube.Pod.Reordered (p q : Pod) : Prop where
  containers : p.spec.containers.Perm q.spec.containers
  initContainers : p.spec.initContainers.Perm q.spec.initContainers

def Reordered (pods others : List Pod) : Prop :=
  ∃ between, pods.Perm between ∧ List.Forall₂ Pod.Reordered between others

theorem foldl_max_eq (amounts : List Nat) (a : Nat) : amounts.foldl Nat.max a = Nat.max a (amounts.max?.getD 0) := by
  have whole : (a :: amounts).max?.getD 0 = amounts.foldl Nat.max a := by
    rw [List.max?_cons', Option.getD_some]
  rw [← whole, List.max?_cons]
  cases amounts.max? with
  | none => exact (Nat.max_zero a).symm
  | some greatest => rfl

theorem max?_getD_perm {amounts others : List Nat} (same : amounts.Perm others) :
    amounts.max?.getD 0 = others.max?.getD 0 := by
  have folded : amounts.foldl Nat.max 0 = others.foldl Nat.max 0 := by
    apply same.foldl_eq'
    intro x _ y _ z
    exact Nat.max_right_comm z x y
  rw [foldl_max_eq, foldl_max_eq] at folded
  change max _ _ = max _ _ at folded
  rwa [Nat.zero_max, Nat.zero_max] at folded

theorem max?_getD_le {amounts : List Nat} {bound : Nat} (each : ∀ n ∈ amounts, n ≤ bound) :
    amounts.max?.getD 0 ≤ bound := by
  have folded := foldl_max_le (Nat.zero_le bound) each
  rw [foldl_max_eq] at folded
  exact Nat.le_trans (Nat.le_max_right _ _) folded

theorem min_sum_min (bound : Nat) (amounts : List Nat) :
    min (amounts.map fun n => min n bound).sum bound = min amounts.sum bound := by
  induction amounts with
  | nil => rfl
  | cons n rest ih =>
    rw [List.map_cons, List.sum_cons, List.sum_cons]
    omega

theorem toNat_percentOf (total available : Nat) :
    (percentOf total available).toNat = if available = 0 then 0 else min (total * 100 / available) 100 := by
  rw [percentOf]
  split
  · rfl
  · have small : min (total * 100 / available) 100 < 2 ^ 32 := by omega
    rw [UInt32.toNat_ofNat', Nat.mod_eq_of_lt small]

theorem isShare_iff (total available share : Nat) :
    IsShare total available share ↔ share = (percentOf total available).toNat := by
  rw [IsShare, toNat_percentOf]
  split
  · exact Iff.rfl
  · rename_i some
    have positive : 0 < available := Nat.pos_of_ne_zero some
    rcases Nat.lt_or_ge total available with less | all
    · have below : total * 100 / available < 100 := by
        rw [Nat.div_lt_iff_lt_mul positive]
        omega
      have quotient : share = total * 100 / available ↔
          share * available ≤ 100 * total ∧ 100 * total < (share + 1) * available := by
        rw [eq_comm, Nat.div_eq_iff positive, Nat.mul_comm 100 total]
        rw [Nat.add_mul]
        omega
      rw [Nat.min_eq_left (Nat.le_of_lt below), quotient]
      constructor
      · exact fun given => given.2.2 less
      · intro given
        have same := quotient.2 given
        refine ⟨by omega, ?_, fun _ => given⟩
        omega
    · have above : 100 ≤ total * 100 / available := by
        rw [Nat.le_div_iff_mul_le positive]
        omega
      rw [Nat.min_eq_right above]
      omega

section Pods

variable {m : Quantity.Measure} {b : Side} {pods others : List Pod} {p q : Pod}

theorem amountIn_of_usage {list : ResourceList} {n : Nat} (given : Usage.amount m m.resource list = .ok n) :
    amountIn m list = n := by
  rw [Usage.amount] at given
  rw [amountIn]
  cases named : list.get? m.resource with
  | none =>
    rw [named] at given
    exact Except.ok.inj given
  | some quantity =>
    rw [named] at given
    have read : Quantity.read m quantity = .ok n := given
    simp only [read]
    rfl

theorem amounts_of_containers {containers : List Container} {usages : List (ByBound Usage)}
    (each : List.Forall₂ (fun c u => containerUsage c = .ok u) containers usages) :
    usages.map (used m b) = containers.map fun c => c.amount m b := by
  rw [← List.forall₂_eq_eq_eq, List.forall₂_map_left_iff, List.forall₂_map_right_iff]
  apply each.flip.imp
  intro u c usage
  exact (amountIn_of_usage (amount_of_containerUsage usage)).symm

theorem used_eq_min_amount {u : ByBound Usage} (given : podUsage p = .ok u) :
    used m b u = min (p.amount m b) Amount.ceiling := by
  obtain ⟨running, first, rest⟩ := exists_of_bind_ok given
  obtain ⟨usages, each, rfl⟩ := forall₂_of_foldlM first
  obtain ⟨inits, eachInit, rfl⟩ := forall₂_of_foldlM rest
  have fits : (inits.map (used m b)).max?.getD 0 ≤ Amount.ceiling := by
    apply max?_getD_le
    intro n member
    obtain ⟨u, inside, rfl⟩ := List.mem_map.1 member
    obtain ⟨c, -, usage⟩ := exists_of_mem_forall₂ eachInit inside
    exact le_ceiling_of_usage (amount_of_containerUsage usage)
  rw [used_foldl_max, used_foldl_add, foldl_max_eq, Pod.amount, ← amounts_of_containers each,
    ← amounts_of_containers eachInit]
  change max _ _ = min (max _ _) _
  omega

theorem used_podTotal {total : ByBound Usage} (given : podTotal pods = .ok total) :
    used m b total = min (pods.map fun p => p.amount m b).sum Amount.ceiling := by
  obtain ⟨usages, each, rfl⟩ := forall₂_of_foldlM given
  have amounts : usages.map (used m b) = (pods.map fun p => p.amount m b).map fun n => min n Amount.ceiling := by
    rw [List.map_map, ← List.forall₂_eq_eq_eq, List.forall₂_map_left_iff, List.forall₂_map_right_iff]
    apply each.flip.imp
    intro u p usage
    exact used_eq_min_amount (ok_of_mapError usage)
  rw [used_foldl_add, amounts, min_sum_min]

theorem failsAt_of_podTotal {f : Failure} (failed : podTotal pods = .error f) :
    ∃ before p after e, FailsAt pods f before p after e := by
  obtain ⟨before, p, after, total, order, added, step⟩ := exists_error_of_foldlM failed
  cases usage : podUsage p with
  | ok u =>
    rw [usage] at step
    cases step
  | error e =>
    rw [usage] at step
    cases step
    have all := isOk_podTotal before
    rw [podTotal, added] at all
    have culprit := isOk_podUsage p
    rw [usage] at culprit
    exact ⟨before, p, after, e, order, List.all_eq_true.1 all.symm, culprit.symm, usage, rfl⟩

theorem Kube.Pod.Reordered.amount (same : p.Reordered q) : p.amount m b = q.amount m b := by
  have running := (same.containers.map fun c => c.amount m b).sum_nat
  have inits := max?_getD_perm (same.initContainers.map fun c => c.amount m b)
  rw [Pod.amount, Pod.amount, running, inits]

theorem Kube.Pod.Reordered.isMeasured (same : p.Reordered q) : p.isMeasured = q.isMeasured := by
  rw [Pod.isMeasured, Pod.isMeasured, same.containers.all_eq, same.initContainers.all_eq]

theorem Reordered.sum (same : Reordered pods others) :
    (pods.map fun p => p.amount m b).sum = (others.map fun p => p.amount m b).sum := by
  obtain ⟨between, order, each⟩ := same
  have amounts : (between.map fun p => p.amount m b) = others.map fun p => p.amount m b := by
    rw [← List.forall₂_eq_eq_eq, List.forall₂_map_left_iff, List.forall₂_map_right_iff]
    exact each.imp fun _ _ same => same.amount
  rw [(order.map _).sum_nat, amounts]

theorem Reordered.all_isMeasured (same : Reordered pods others) :
    pods.all Pod.isMeasured = others.all Pod.isMeasured := by
  obtain ⟨between, order, each⟩ := same
  rw [order.all_eq]
  clear order
  induction each with
  | nil => rfl
  | cons first _ ih => rw [List.all_cons, List.all_cons, first.isMeasured, ih]

theorem ext_used {t u : ByBound Usage} (same : ∀ m b, used m b t = used m b u) : t = u := by
  obtain ⟨⟨_, _⟩, ⟨_, _⟩⟩ := t
  obtain ⟨⟨_, _⟩, ⟨_, _⟩⟩ := u
  have cpuRequests := same .cpu .requests
  have cpuLimits := same .cpu .limits
  have memoryRequests := same .memory .requests
  have memoryLimits := same .memory .limits
  simp only [used, ByBound.get, ByResource.get] at cpuRequests cpuLimits memoryRequests memoryLimits
  rw [cpuRequests, cpuLimits, memoryRequests, memoryLimits]

theorem Reordered.podTotal (same : Reordered pods others) :
    (ClusterWatch.podTotal others).toOption = (ClusterWatch.podTotal pods).toOption := by
  have good := same.all_isMeasured
  rw [← isOk_podTotal, ← isOk_podTotal] at good
  cases first : ClusterWatch.podTotal pods with
  | error f =>
    cases second : ClusterWatch.podTotal others with
    | error f' => rfl
    | ok total' =>
      rw [first, second] at good
      cases good
  | ok total =>
    cases second : ClusterWatch.podTotal others with
    | error f' =>
      rw [first, second] at good
      cases good
    | ok total' =>
      apply congrArg some
      apply ext_used
      intro m b
      rw [used_podTotal first, used_podTotal second, same.sum]

end Pods

section Nodes

variable {allocatable : Usage} {pods others : List Pod}

def NodeUsage.ofTotal (allocatable : Usage) (total : ByBound Usage) : NodeUsage where
  total
  percent :=
    ⟨⟨percentOf total.requests.cpu allocatable.cpu, percentOf total.limits.cpu allocatable.cpu⟩,
      ⟨percentOf total.requests.memory allocatable.memory, percentOf total.limits.memory allocatable.memory⟩⟩

theorem ofPods_eq (allocatable : Usage) (pods : List Pod) :
    NodeUsage.ofPods allocatable pods = (podTotal pods).map (NodeUsage.ofTotal allocatable) := by
  rw [NodeUsage.ofPods]
  cases podTotal pods <;> rfl

theorem percent_ofTotal (allocatable : Usage) (total : ByBound Usage) (m : Quantity.Measure) (b : Side) :
    ((NodeUsage.ofTotal allocatable total).percent.get m).get b = percentOf (used m b total) (allocatable.get m) := by
  cases m <;> cases b <;> rfl

theorem exists_total_of_ofPods {u : NodeUsage} (added : NodeUsage.ofPods allocatable pods = .ok u) :
    ∃ total, podTotal pods = .ok total ∧ u = NodeUsage.ofTotal allocatable total := by
  rw [ofPods_eq] at added
  cases given : podTotal pods with
  | error f =>
    rw [given] at added
    cases added
  | ok total =>
    rw [given] at added
    exact ⟨total, rfl, (Except.ok.inj added).symm⟩

theorem isOk_ofPods (allocatable : Usage) (pods : List Pod) :
    (NodeUsage.ofPods allocatable pods).isOk = pods.all Pod.isMeasured := by
  rw [ofPods_eq, ← isOk_podTotal]
  cases podTotal pods <;> rfl

theorem failsAt_of_ofPods {f : Failure} (failed : NodeUsage.ofPods allocatable pods = .error f) :
    ∃ before p after e, FailsAt pods f before p after e := by
  rw [ofPods_eq] at failed
  cases given : podTotal pods with
  | error f' =>
    rw [given] at failed
    cases failed
    exact failsAt_of_podTotal given
  | ok total =>
    rw [given] at failed
    cases failed

theorem Reordered.ofPods (same : Reordered pods others) (allocatable : Usage) :
    (NodeUsage.ofPods allocatable others).toOption = (NodeUsage.ofPods allocatable pods).toOption := by
  have map : ∀ x : Except Failure (ByBound Usage), (x.map (NodeUsage.ofTotal allocatable)).toOption =
      x.toOption.map (NodeUsage.ofTotal allocatable) := by
    intro x
    cases x <;> rfl
  rw [ofPods_eq, ofPods_eq, map, map, same.podTotal]

end Nodes

/-- Pods add up if all their quantities are read, and otherwise the first one with another quantity is named. -/
theorem totals_are_clamped_sums (allocatable : Usage) (pods : List Pod) :
    ((NodeUsage.ofPods allocatable pods).isOk ↔ ∀ p ∈ pods, p.isMeasured) ∧
    (∀ f, NodeUsage.ofPods allocatable pods = .error f → ∃ before p after e, FailsAt pods f before p after e) ∧
    (∀ u, NodeUsage.ofPods allocatable pods = .ok u → ∀ m b,
      used m b u.total = min (pods.map fun p => p.amount m b).sum Amount.ceiling ∧
      ∀ share, IsShare (used m b u.total) (allocatable.get m) share ↔ share = ((u.percent.get m).get b).toNat) ∧
    ∀ others, Reordered pods others →
      (NodeUsage.ofPods allocatable others).toOption = (NodeUsage.ofPods allocatable pods).toOption := by
  refine ⟨?_, fun f => failsAt_of_ofPods, ?_, fun others same => same.ofPods allocatable⟩
  · rw [isOk_ofPods, List.all_eq_true]
  · intro u added m b
    obtain ⟨total, given, rfl⟩ := exists_total_of_ofPods added
    refine ⟨used_podTotal given, fun share => ?_⟩
    rw [percent_ofTotal]
    exact isShare_iff _ _ _

end ClusterWatch
