import ClusterWatch.Proofs.Computations
import ClusterWatch.Proofs.Quantity.RoundTrip
import ClusterWatch.Status
import Mathlib.Algebra.Ring.Nat

namespace ClusterWatch

open Kube

inductive Side where
  | requests
  | limits
  deriving Repr, DecidableEq

def ByBound.get {α : Type} (b : ByBound α) : Side → α
  | .requests => b.requests
  | .limits => b.limits

def ByResource.get {α : Type} (r : ByResource α) : Quantity.Measure → α
  | .cpu => r.cpu
  | .memory => r.memory

def ResourceSummary.shown (s : ResourceSummary) (m : Quantity.Measure) (b : Side) : String :=
  match m with
  | .cpu => s.cpu.get b
  | .memory => s.memory.get b

def ContainerStatus.shown (c : ContainerStatus) (m : Quantity.Measure) (b : Side) : String :=
  (c.resources.get m).get b

def used (m : Quantity.Measure) (b : Side) (u : ByBound Usage) : Nat :=
  (u.get b).get m

theorem foldl_amountAdd (amounts : List Nat) {a : Nat} (fits : a ≤ Amount.ceiling) :
    amounts.foldl Amount.add a = min (a + amounts.sum) Amount.ceiling := by
  induction amounts generalizing a with
  | nil => simp [fits]
  | cons n rest ih =>
    rw [List.foldl_cons, ih (Amount.add_le_ceiling a n), List.sum_cons, Amount.add]
    omega

theorem le_foldl_max (amounts : List Nat) (a : Nat) : a ≤ amounts.foldl Nat.max a := by
  induction amounts generalizing a with
  | nil => exact Nat.le_refl a
  | cons n rest ih => exact Nat.le_trans (Nat.le_max_left a n) (ih (Nat.max a n))

theorem foldl_max_le {amounts : List Nat} {a bound : Nat} (first : a ≤ bound) (rest : ∀ n ∈ amounts, n ≤ bound) :
    amounts.foldl Nat.max a ≤ bound := by
  induction amounts generalizing a with
  | nil => exact first
  | cons n others ih =>
    apply ih
    · exact Nat.max_le.2 ⟨first, rest n List.mem_cons_self⟩
    · exact fun k member => rest k (List.mem_cons_of_mem _ member)

section Amounts

variable {m : Quantity.Measure} {b : Side}

def Quantity.Measure.resource : Quantity.Measure → String
  | .cpu => "cpu"
  | .memory => "memory"

def Kube.Container.list (c : Container) : Side → ResourceList
  | .requests => c.requests
  | .limits => c.limits

theorem amount_of_usage {list : ResourceList} {u : Usage} (given : Usage.ofList list = .ok u) :
    Usage.amount m m.resource list = .ok (u.get m) := by
  obtain ⟨cpu, first, rest⟩ := exists_of_bind_ok given
  obtain ⟨memory, second, same⟩ := exists_of_bind_ok rest
  cases same
  cases m with
  | cpu => exact first
  | memory => exact second

theorem amount_of_containerUsage {c : Container} {u : ByBound Usage} (given : containerUsage c = .ok u) :
    Usage.amount m m.resource (c.list b) = .ok (used m b u) := by
  obtain ⟨requests, first, rest⟩ := exists_of_bind_ok given
  obtain ⟨limits, second, same⟩ := exists_of_bind_ok rest
  cases same
  cases b with
  | requests => exact amount_of_usage first
  | limits => exact amount_of_usage second

theorem le_ceiling_of_usage {list : ResourceList} {n : Nat} (given : Usage.amount m m.resource list = .ok n) :
    n ≤ Amount.ceiling := by
  rw [Usage.amount] at given
  cases named : list.get? m.resource with
  | none =>
    rw [named] at given
    cases given
    exact Nat.zero_le _
  | some q =>
    rw [named] at given
    exact Quantity.le_ceiling_of_read given

theorem read_shownQuantity {list : ResourceList} {n : Nat} (given : Usage.amount m m.resource list = .ok n) :
    Quantity.read m (shownQuantity m m.resource list) = .ok n := by
  have fits := le_ceiling_of_usage given
  rw [Usage.amount] at given
  rw [shownQuantity]
  cases named : list.get? m.resource with
  | none =>
    rw [named] at given
    cases given
    have nothing : Quantity.print m 0 = "0" := by cases m <;> rfl
    rw [← nothing]
    exact Quantity.read_print m fits
  | some q =>
    rw [named] at given
    have amount : Quantity.read m q = .ok n := given
    simp only [amount]
    exact Quantity.read_print m fits

theorem read_shown_of_containerUsage {c : Container} {u : ByBound Usage} (given : containerUsage c = .ok u)
    (reports : List ContainerReport) :
    Quantity.read m ((containerStatus reports c).shown m b) = .ok (used m b u) := by
  have same : (containerStatus reports c).shown m b = shownQuantity m m.resource (c.list b) := by
    cases m <;> cases b <;> rfl
  rw [same]
  exact read_shownQuantity (amount_of_containerUsage given)

theorem used_zip_add (t u : ByBound Usage) :
    used m b (t.zip Usage.add u) = Amount.add (used m b t) (used m b u) := by
  cases m <;> cases b <;> rfl

theorem used_zip_max (t u : ByBound Usage) :
    used m b (t.zip Usage.max u) = Nat.max (used m b t) (used m b u) := by
  cases m <;> cases b <;> rfl

theorem used_noUsage : used m b noUsage = 0 := by
  cases m <;> cases b <;> rfl

theorem used_foldl_add (usages : List (ByBound Usage)) :
    used m b (usages.foldl (fun t u => t.zip Usage.add u) noUsage) =
      min (usages.map (used m b)).sum Amount.ceiling := by
  have sum := foldl_amountAdd (usages.map (used m b)) (Nat.zero_le Amount.ceiling)
  rw [Nat.zero_add, List.foldl_map, ← used_noUsage (m := m) (b := b)] at sum
  rw [← sum]
  exact (List.foldl_hom (used m b) fun t u => (used_zip_add t u).symm).symm

theorem used_foldl_max (usages : List (ByBound Usage)) (t : ByBound Usage) :
    used m b (usages.foldl (fun t u => t.zip Usage.max u) t) =
      (usages.map (used m b)).foldl Nat.max (used m b t) := by
  rw [List.foldl_map]
  exact (List.foldl_hom (used m b) fun t u => (used_zip_max t u).symm).symm

theorem used_of_podUsage {p : Pod} {u : ByBound Usage} (given : podUsage p = .ok u) :
    ∃ amounts : List Nat,
      List.Forall₂ (fun c a => Quantity.read m (c.shown m b) = .ok a)
        (p.spec.containers.map (containerStatus p.status.containers)) amounts ∧
      min amounts.sum Amount.ceiling ≤ used m b u ∧ used m b u ≤ Amount.ceiling ∧
      (p.spec.initContainers = [] → used m b u = min amounts.sum Amount.ceiling) := by
  obtain ⟨running, first, rest⟩ := exists_of_bind_ok given
  obtain ⟨usages, each, rfl⟩ := forall₂_of_foldlM first
  obtain ⟨inits, eachInit, rfl⟩ := forall₂_of_foldlM rest
  refine ⟨usages.map (used m b), ?_, ?_, ?_, ?_⟩
  · rw [List.forall₂_map_left_iff, List.forall₂_map_right_iff]
    exact each.imp fun c u usage => read_shown_of_containerUsage usage _
  · rw [used_foldl_max, used_foldl_add]
    exact le_foldl_max _ _
  · rw [used_foldl_max, used_foldl_add]
    apply foldl_max_le (Nat.min_le_right _ _)
    intro n member
    obtain ⟨u, inside, rfl⟩ := List.mem_map.1 member
    obtain ⟨c, -, usage⟩ := exists_of_mem_forall₂ eachInit inside
    exact le_ceiling_of_usage (amount_of_containerUsage usage)
  · intro none
    rw [none] at eachInit
    cases eachInit
    rw [List.foldl_nil, used_foldl_add]

theorem amounts_of_pods {pods : List Pod} {usages : List (ByBound Usage)}
    (each : List.Forall₂ (fun p u => podUsage p = .ok u) pods usages) :
    ∃ amounts : List Nat,
      List.Forall₂ (fun c a => Quantity.read m (c.shown m b) = .ok a)
        (pods.flatMap fun p => p.spec.containers.map (containerStatus p.status.containers)) amounts ∧
      min amounts.sum Amount.ceiling ≤ min (usages.map (used m b)).sum Amount.ceiling ∧
      ((∀ p ∈ pods, p.spec.initContainers = []) →
        min (usages.map (used m b)).sum Amount.ceiling = min amounts.sum Amount.ceiling) := by
  induction each with
  | nil => exact ⟨[], .nil, Nat.le_refl _, fun _ => rfl⟩
  | @cons p u pods usages first _ ih =>
    obtain ⟨own, read, above, _, exactly⟩ := used_of_podUsage (m := m) (b := b) first
    obtain ⟨others, readOthers, aboveOthers, exactlyOthers⟩ := ih
    refine ⟨own ++ others, ?_, ?_, ?_⟩
    · rw [List.flatMap_cons]
      exact List.rel_append read readOthers
    · rw [List.map_cons, List.sum_cons, List.sum_append]
      omega
    · intro none
      have here := exactly (none p List.mem_cons_self)
      have there := exactlyOthers fun q member => none q (List.mem_cons_of_mem _ member)
      rw [List.map_cons, List.sum_cons, List.sum_append]
      omega

theorem le_ceiling_of_capacity {node : Node} {c : NodeCapacity} (given : NodeCapacity.ofNode node = .ok c) :
    c.allocatable.get m ≤ Amount.ceiling := by
  obtain ⟨capacity, first, rest⟩ := exists_of_bind_ok given
  dsimp only at rest
  split at rest
  · cases rest
    exact le_ceiling_of_usage (amount_of_usage (ok_of_mapError first))
  · obtain ⟨allocatable, second, same⟩ := exists_of_bind_ok rest
    cases same
    exact le_ceiling_of_usage (amount_of_usage (ok_of_mapError second))

theorem percentOf_le (used available : Nat) : percentOf used available ≤ 100 := by
  rw [percentOf]
  split
  · decide
  · rw [UInt32.le_iff_toNat_le, UInt32.toNat_ofNat']
    have bound : min (used * 100 / available) 100 ≤ 100 := Nat.min_le_right _ _
    exact Nat.le_trans (Nat.mod_le _ _) bound

structure ShowsUsage (m : Quantity.Measure) (b : Side) (status : NodeStatus) (total available : Nat) : Prop where
  sum : Quantity.read m (status.resources.shown m b) = .ok total
  room : Quantity.read m (status.allocatable.get m) = .ok available
  share : (status.resources.percent.get m).get b = percentOf total available

theorem showsUsage_of_nodeStatus {node : Node} {pods : List Pod} {events : List Event} {status : NodeStatus}
    (built : nodeStatus node pods events = .ok (some status)) :
    ∃ (usages : List (ByBound Usage)) (available : Nat),
      List.Forall₂ (fun p u => podUsage p = .ok u) pods usages ∧
      ShowsUsage m b status (min (usages.map (used m b)).sum Amount.ceiling) available := by
  rw [nodeStatus] at built
  split at built
  · cases built
  · obtain ⟨capacity, read, rest⟩ := exists_of_bind_ok built
    obtain ⟨usage, added, same⟩ := exists_of_bind_ok rest
    obtain ⟨total, sum, filled⟩ := exists_of_bind_ok added
    obtain ⟨usages, each, rfl⟩ := forall₂_of_foldlM sum
    cases same
    cases filled
    refine ⟨usages, capacity.allocatable.get m, each.imp fun p u => ok_of_mapError, ?_⟩
    rw [← used_foldl_add]
    constructor
    case sum =>
      rw [show ∀ u : NodeUsage, u.summary.shown m b = Quantity.print m (used m b u.total) by
        intro u
        cases m <;> cases b <;> rfl]
      apply Quantity.read_print
      rw [used_foldl_add]
      exact Nat.min_le_right _ _
    case room =>
      rw [show ∀ u : Usage, (Usage.display u).get m = Quantity.print m (u.get m) by
        intro u
        cases m <;> rfl]
      exact Quantity.read_print m (le_ceiling_of_capacity read)
    case share =>
      cases m <;> cases b <;> rfl

end Amounts

end ClusterWatch
