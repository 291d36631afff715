import ClusterWatch.Proofs.Aggregation
import ClusterWatch.Proofs.Fetch.Isolation
import ClusterWatch.Proofs.Fetch.Schedules

namespace ClusterWatch

def Kube.Listing.Permuted {α : Type} (list list' : Kube.Listing α) : Prop :=
  list.items.Perm list'.items

structure ControlPlane.Permuted (limit : Duration) (plane plane' : ControlPlane) : Prop where
  nodes : Call.Alike limit Kube.Listing.Permuted plane.nodes plane'.nodes
  pods (name : String) : Call.Alike limit Kube.Listing.Permuted (plane.pods name) (plane'.pods name)
  events (target : Kube.Target) : Call.Alike limit Eq (plane.events target) (plane'.events target)

namespace Fetch

open Kube

structure NamesApart (plane : ControlPlane) (limit : Duration) (nodes : List Node) : Prop where
  names : (nodes.map fun n => n.metadata.name).Nodup
  pods : (((answering plane limit nodes).flatMap (boundPods plane limit)).map fun p =>
    (p.metadata.ns, p.metadata.name)).Nodup

section Calls

variable {α : Type} {limit : Duration} {same : Listing α → Listing α → Prop} {c d : Call (Listing α)}

theorem told_alike (alike : Call.Alike limit same c d) :
    (told limit c = none ∧ told limit d = none) ∨
      ∃ list list', same list list' ∧ told limit c = some list.items ∧ told limit d = some list'.items := by
  obtain ⟨delay, ending⟩ := c
  obtain ⟨delay', ending'⟩ := d
  obtain ⟨inTime, ending⟩ := alike
  simp only at inTime ending
  cases ending with
  | answer first =>
    by_cases given : delay ≤ limit
    · exact Or.inr ⟨_, _, first, by simp [told, given], by simp [told, inTime.1 given]⟩
    · have late : ¬ delay' ≤ limit := fun given' => given (inTime.2 given')
      exact Or.inl ⟨by simp [told, given], by simp [told, late]⟩
  | fault f => exact Or.inl ⟨rfl, rfl⟩
  | crash message => exact Or.inl ⟨rfl, rfl⟩

theorem told_eq_of_alike (alike : Call.Alike limit Eq c d) : told limit c = told limit d := by
  rcases told_alike alike with ⟨none, none'⟩ | ⟨list, list', rfl, some, some'⟩
  · rw [none, none']
  · rw [some, some']

theorem isSome_told_of_permuted (alike : Call.Alike limit Listing.Permuted c d) :
    (told limit c).isSome = (told limit d).isSome := by
  rcases told_alike alike with ⟨none, none'⟩ | ⟨list, list', _, some, some'⟩
  · rw [none, none']
  · rw [some, some', Option.isSome_some, Option.isSome_some]

theorem told_perm (alike : Call.Alike limit Listing.Permuted c d) :
    ((told limit c).getD []).Perm ((told limit d).getD []) := by
  rcases told_alike alike with ⟨none, none'⟩ | ⟨list, list', perm, some, some'⟩
  · rw [none, none']
  · rw [some, some']
    exact perm

end Calls

section Settled

variable {plane plane' : ControlPlane} {limit : Duration}

theorem answers_eq (permuted : plane.Permuted limit plane') (n : Node) :
    answers plane limit n = answers plane' limit n :=
  isSome_told_of_permuted (permuted.pods n.metadata.name)

theorem boundPods_perm (permuted : plane.Permuted limit plane') (n : Node) :
    (boundPods plane limit n).Perm (boundPods plane' limit n) :=
  (told_perm (permuted.pods n.metadata.name)).filter _

theorem isSound_eq (permuted : plane.Permuted limit plane') (n : Node) :
    isSound plane limit n = isSound plane' limit n := by
  rw [isSound, isSound, (boundPods_perm permuted n).all_eq]

theorem eventsUnless_eq (permuted : plane.Permuted limit plane') :
    eventsUnless plane limit = eventsUnless plane' limit := by
  funext ready target
  rw [eventsUnless, eventsUnless, told_eq_of_alike (permuted.events target)]

theorem reordered_of_perm {pods others : List Pod} (perm : pods.Perm others) : Reordered pods others :=
  ⟨others, perm, List.forall₂_same.2 fun _ _ => ⟨.refl _, .refl _⟩⟩

/-- Which failure a node has may depend on the order of its pods, but not its status. -/
theorem toOption_nodeStatus_of_perm {pods others : List Pod} (perm : pods.Perm others) (n : Node)
    (events : List Event) : (nodeStatus n others events).toOption = (nodeStatus n pods events).toOption := by
  unfold nodeStatus
  by_cases silent : n.status.conditions.isEmpty
  · simp only [silent, if_true]
  · have usage := (reordered_of_perm perm).ofPods
    rw [if_neg silent, if_neg silent]
    simp only [toOption_bind, usage]

theorem status?_eq_toOption (d : Dealt) :
    d.status? = (nodeStatus d.node.node d.node.pods d.events).toOption.join := by
  rw [Dealt.status?]
  cases nodeStatus d.node.node d.node.pods d.events <;> rfl

theorem status?_settled (permuted : plane.Permuted limit plane') (n : Node) :
    (settled plane limit n).status? = (settled plane' limit n).status? := by
  rw [status?_eq_toOption, status?_eq_toOption, settled, settled, eventsUnless_eq permuted,
    toOption_nodeStatus_of_perm (boundPods_perm permuted n)]

theorem podStatuses_settled (permuted : plane.Permuted limit plane') (n : Node) :
    (settled plane limit n).podStatuses.Perm (settled plane' limit n).podStatuses := by
  rw [Dealt.podStatuses, Dealt.podStatuses, settled, settled, eventsUnless_eq permuted]
  exact ((boundPods_perm permuted n).map _).map _

theorem targetsOf_perm {n : Node} {pods others : List Pod} (perm : pods.Perm others) :
    (targetsOf ⟨n, pods⟩).Perm (targetsOf ⟨n, others⟩) :=
  ((perm.filter _).map _).append_left _

end Settled

section Nodes

variable {plane plane' : ControlPlane} {limit : Duration} {nodes nodes' : List Node}

theorem answering_perm (permuted : plane.Permuted limit plane') (perm : nodes.Perm nodes') :
    (answering plane limit nodes).Perm (answering plane' limit nodes') := by
  have same : (fun n => hasReport n && answers plane limit n) = fun n => hasReport n && answers plane' limit n := by
    funext n
    rw [answers_eq permuted]
  rw [answering, answering, same]
  exact perm.filter _

theorem wanted_perm (permuted : plane.Permuted limit plane') (perm : nodes.Perm nodes') :
    (wanted plane limit nodes).Perm (wanted plane' limit nodes') :=
  (answering_perm permuted perm).flatMap fun n _ => targetsOf_perm (boundPods_perm permuted n)

theorem accepted_perm (permuted : plane.Permuted limit plane') (perm : nodes.Perm nodes') :
    ((answering plane limit nodes).flatMap (boundPods plane limit)).Perm
      ((answering plane' limit nodes').flatMap (boundPods plane' limit)) :=
  (answering_perm permuted perm).flatMap fun n _ => boundPods_perm permuted n

theorem NamesApart.tellsApart (apart : NamesApart plane limit nodes) : TellsApart plane limit nodes where
  names := apart.names
  targets := by
    have distinct := apart.pods
    refine (distinct.of_map _).map_on fun p left q right same => ?_
    obtain ⟨ns, name, -⟩ := Target.pod.inj same
    exact List.inj_on_of_nodup_map distinct left right (Prod.ext ns name)

theorem NamesApart.of_perm (apart : NamesApart plane limit nodes) (permuted : plane.Permuted limit plane')
    (perm : nodes.Perm nodes') : NamesApart plane' limit nodes' where
  names := (perm.map _).nodup_iff.1 apart.names
  pods := ((accepted_perm permuted perm).map _).nodup_iff.1 apart.pods

theorem nodes_snapshotOf (apart : NamesApart plane limit nodes) : (snapshotOf plane limit nodes).nodes =
    ((answering plane limit nodes).filterMap fun n => (settled plane limit n).status?).mergeSort
      fun x y => x.name ≤ y.name := by
  rw [snapshotOf_eq, dealt_eq_map_settled apart.tellsApart, List.filterMap_map]
  rfl

theorem nodup_node_names (apart : NamesApart plane limit nodes) :
    (((answering plane limit nodes).filterMap fun n => (settled plane limit n).status?).map
      NodeStatus.name).Nodup := by
  have names := apart.names.sublist (List.filter_sublist (p := fun n => hasReport n && answers plane limit n).map _)
  exact names.sublist (Keyed.map_filterMap_sublist (fun n status built => name_of_status? built) _)

theorem nodes_snapshotOf_eq (apart : NamesApart plane limit nodes) (permuted : plane.Permuted limit plane')
    (perm : nodes.Perm nodes') : (snapshotOf plane limit nodes).nodes = (snapshotOf plane' limit nodes').nodes := by
  rw [nodes_snapshotOf apart, nodes_snapshotOf (apart.of_perm permuted perm)]
  have same : (fun n => (settled plane limit n).status?) = fun n => (settled plane' limit n).status? := by
    funext n
    exact status?_settled permuted n
  apply Sorting.mergeSort_eq_of_perm_by_key String.le_trans String.le_total String.le_antisymm
  · exact nodup_node_names apart
  · rw [same]
    exact (answering_perm permuted perm).filterMap _

theorem nodup_pod_names (apart : NamesApart plane limit nodes) :
    (((answering plane limit nodes).flatMap fun n => (settled plane limit n).podStatuses).map fun status =>
      (status.ns, status.name)).Nodup := by
  have same : ∀ n, ((settled plane limit n).podStatuses.map fun status => (status.ns, status.name)) =
      (boundPods plane limit n).map fun p => (p.metadata.ns, p.metadata.name) := by
    intro n
    rw [Dealt.podStatuses, settled, List.map_map, List.map_map]
    rfl
  rw [List.map_flatMap]
  simp only [same]
  rw [← List.map_flatMap]
  exact apart.pods

theorem pods_snapshotOf_eq (apart : NamesApart plane limit nodes) (permuted : plane.Permuted limit plane')
    (perm : nodes.Perm nodes') : (snapshotOf plane limit nodes).pods = (snapshotOf plane' limit nodes').pods := by
  apply Dictionary.ext_of_isFiled (accounts_snapshotOf plane limit nodes).filed
    (accounts_snapshotOf plane' limit nodes').filed
  intro ns
  rw [pods_under, pods_under, dealt_eq_map_settled apart.tellsApart,
    dealt_eq_map_settled (apart.of_perm permuted perm).tellsApart, List.flatMap_map, List.flatMap_map]
  have statuses := (answering_perm permuted perm).flatMap fun n _ => podStatuses_settled permuted n
  apply Sorting.mergeSort_eq_of_perm_by_key String.le_trans String.le_total String.le_antisymm
  · exact Keyed.nodup_map_filter (nodup_pod_names apart) ns
  · exact statuses.filter _

theorem length_recorded (plane : ControlPlane) (limit : Duration) (nodes : List Node) :
    (recorded plane limit nodes).length =
      (nodes.filter fun n => hasReport n && !answers plane limit n).length +
        ((wanted plane limit nodes).filter fun t => (told limit (plane.events t)).isNone).length +
        (nodes.filter fun n => hasReport n && answers plane limit n && !isSound plane limit n).length := by
  rw [recorded, List.length_append, List.length_append, (failures_listings plane limit nodes).length_eq,
    (failures_lookups plane limit nodes).length_eq, (shown_of_dealt plane limit nodes).2.length_eq]

theorem length_recorded_eq (permuted : plane.Permuted limit plane') (perm : nodes.Perm nodes') :
    (recorded plane limit nodes).length = (recorded plane' limit nodes').length := by
  rw [length_recorded, length_recorded]
  simp only [answers_eq permuted, isSound_eq permuted, fun t => told_eq_of_alike (permuted.events t)]
  rw [(perm.filter _).length_eq, ((wanted_perm permuted perm).filter _).length_eq, (perm.filter _).length_eq]

end Nodes

/-- Two snapshots of one cluster whose control plane lists in another order show the same nodes and pods, and have as
many warnings. -/
theorem snapshots_are_independent_of_order {connector connector' : Connector} {limits : Limits} {cluster : Cluster}
    {plane plane' : ControlPlane} {list : Listing Node} {s s' : Snapshot}
    (reached : (connector cluster).ending = .answer plane) (reached' : (connector' cluster).ending = .answer plane')
    (listing : plane.nodes.ending = .answer list) (permuted : plane.Permuted limits.call plane')
    (apart : NamesApart plane limits.call list.items)
    (taken : (fetchSnapshot connector limits cluster).result = .ok s)
    (taken' : (fetchSnapshot connector' limits cluster).result = .ok s') :
    s.nodes = s'.nodes ∧ s.pods = s'.pods ∧ s.warnings.length = s'.warnings.length := by
  obtain ⟨p, l, first, second, rfl⟩ := exists_plane_of_fetch taken
  obtain ⟨p', l', first', second', rfl⟩ := exists_plane_of_fetch taken'
  cases Ending.answer.inj (first.symm.trans reached)
  cases Ending.answer.inj (first'.symm.trans reached')
  cases Ending.answer.inj (second.symm.trans listing)
  have nodes := permuted.nodes.ending
  rw [second, second'] at nodes
  cases nodes with
  | answer perm =>
    refine ⟨nodes_snapshotOf_eq apart permuted perm, pods_snapshotOf_eq apart permuted perm, ?_⟩
    rw [snapshotOf_eq, snapshotOf_eq, List.length_map, List.length_map]
    exact length_recorded_eq permuted perm

def pairOfPods : Call (Listing Pod) :=
  let pod (name amount : String) : Pod := {
    metadata := { name, ns := "default" }
    spec := {
      node := "b"
      containers := [{ name, requests := (∅ : Dictionary String).insert "memory" amount }] } }
  ⟨.ofSeconds 1, .answer { items := [pod "queue" "much", pod "db" "1Gi"] }⟩

def reversed (plane : ControlPlane) : ControlPlane :=
  let backwards {α : Type} (c : Call (Listing α)) : Call (Listing α) :=
    { c with ending := match c.ending with
      | .answer list => .answer { list with items := list.items.reverse }
      | .fault f => .fault f
      | .crash message => .crash message }
  { plane with
    nodes := backwards plane.nodes
    pods := fun name => backwards (plane.pods name) }

theorem permuted_reversed (limit : Duration) (plane : ControlPlane) : plane.Permuted limit (reversed plane) where
  nodes := by
    refine ⟨Iff.rfl, ?_⟩
    simp only [reversed]
    cases plane.nodes.ending with
    | answer list => exact .answer (List.reverse_perm list.items).symm
    | fault f => exact .fault f
    | crash message => exact .crash message
  pods name := by
    refine ⟨Iff.rfl, ?_⟩
    simp only [reversed]
    cases (plane.pods name).ending with
    | answer list => exact .answer (List.reverse_perm list.items).symm
    | fault f => exact .fault f
    | crash message => exact .crash message
  events target := by
    refine ⟨Iff.rfl, ?_⟩
    simp only [reversed]
    cases (plane.events target).ending with
    | answer list => exact .answer rfl
    | fault f => exact .fault f
    | crash message => exact .crash message

theorem reversed_snapshot_is_the_same :
    ∃ list s s', (threeNodes pairOfPods).nodes.ending = .answer list ∧
      (threeNodes pairOfPods).Permuted usualLimits.call (reversed (threeNodes pairOfPods)) ∧
      NamesApart (threeNodes pairOfPods) usualLimits.call list.items ∧
      (fetchSnapshot (reaching (threeNodes pairOfPods)) usualLimits default).result = .ok s ∧
      (fetchSnapshot (reaching (reversed (threeNodes pairOfPods))) usualLimits default).result = .ok s' ∧
      s.nodes = s'.nodes ∧ s.pods = s'.pods ∧ s.warnings.length = s'.warnings.length :=
  have reached : (reaching (threeNodes pairOfPods) default).ending = .answer (threeNodes pairOfPods) := rfl
  have reached' : (reaching (reversed (threeNodes pairOfPods)) default).ending =
      .answer (reversed (threeNodes pairOfPods)) := rfl
  have permuted := permuted_reversed usualLimits.call (threeNodes pairOfPods)
  have apart : NamesApart (threeNodes pairOfPods) usualLimits.call _ := ⟨by decide, by decide⟩
  ⟨_, _, _, rfl, permuted, apart, rfl, rfl,
    snapshots_are_independent_of_order reached reached' rfl permuted apart rfl rfl⟩

end Fetch

end ClusterWatch
