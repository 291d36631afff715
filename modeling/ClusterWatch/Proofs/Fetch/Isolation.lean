import ClusterWatch.Proofs.Fetch.Accounting

namespace ClusterWatch.Fetch

open Kube

structure DifferAt (b : String) (plane plane' : ControlPlane) : Prop where
  nodes : plane'.nodes = plane.nodes
  events : plane'.events = plane.events
  pods : ∀ name, name ≠ b → plane'.pods name = plane.pods name

/-- No two nodes have one name, and no two pods that are accepted are one target. -/
structure TellsApart (plane : ControlPlane) (limit : Duration) (nodes : List Node) : Prop where
  names : (nodes.map fun n => n.metadata.name).Nodup
  targets : (((answering plane limit nodes).flatMap (boundPods plane limit)).map Target.ofPod).Nodup

structure SameBut (b : String) (s s' : Snapshot) : Prop where
  nodes : (s.nodes.filter fun status => status.name ≠ b) = s'.nodes.filter fun status => status.name ≠ b
  pods : ∀ ns, (((s.pods.get? ns).getD []).filter fun status => status.node ≠ b) =
    ((s'.pods.get? ns).getD []).filter fun status => status.node ≠ b

def isAboutPodsOf (b : String) : Failure → Bool
  | .partialFetch entity _ => entity = "pods of node " ++ b
  | _ => false

structure LeavesOut (b : String) (plane : ControlPlane) (limit : Duration) (nodes : List Node) (s : Snapshot) :
    Prop where
  node : ∀ status ∈ s.nodes, status.name ≠ b
  pods : ∀ e ∈ s.pods.entries, ∀ status ∈ e.2, status.node ≠ b
  warnings : s.warnings = (recorded plane limit nodes).map Failure.message
  once : ((recorded plane limit nodes).filter (isAboutPodsOf b)).length = 1

section Settled

variable (plane : ControlPlane) (limit : Duration)

def eventsUnless (ready : Bool) (target : Target) : List Event :=
  if ready then [] else (told limit (plane.events target)).getD []

def settled (n : Node) : Dealt :=
  ⟨⟨n, boundPods plane limit n⟩, eventsUnless plane limit (nodeReadiness n = .ready) (.ofNode n),
    (boundPods plane limit n).map fun p => (p, eventsUnless plane limit (podIsReady p) (.ofPod p))⟩

theorem lookup_map_self {α β : Type} [DecidableEq α] (f : α → β) (a : α) (items : List α) :
    (items.map fun x => (x, f x)).lookup a = if a ∈ items then some (f a) else none := by
  induction items with
  | nil => rfl
  | cons x items ih =>
    rw [List.map_cons, List.lookup_cons, ih]
    by_cases same : a = x
    · simp [same]
    · have skip : (a == x) = false := by simpa using same
      simp [skip, same]

variable (nodes : List Node)

theorem give_lookups (target : Target) :
    Hand.give (successes (lookups plane limit nodes)).reverse target =
      eventsUnless plane limit (target ∉ wanted plane limit nodes) target := by
  have each := successes_map (eventsOf_of_told plane limit)
    (fun t missing => (eventsOf_of_not_told plane limit t missing).imp fun _ => And.left)
    (wanted plane limit nodes)
  rw [lookups, targets_listed, each, ← List.map_reverse, Hand.give,
    lookup_map_self fun t => (told limit (plane.events t)).getD [], eventsUnless]
  simp only [List.mem_reverse, List.mem_filter, decide_not, Bool.not_eq_true']
  by_cases inside : target ∈ wanted plane limit nodes
  · cases answer : told limit (plane.events target) with
    | none => simp [inside]
    | some events => simp [inside]
  · simp [inside]

theorem mem_wanted_iff (target : Target) : target ∈ wanted plane limit nodes ↔
    ∃ n ∈ answering plane limit nodes, (nodeReadiness n = .notReady ∧ target = .ofNode n) ∨
      ∃ p ∈ boundPods plane limit n, podIsReady p = false ∧ target = .ofPod p := by
  rw [wanted, List.mem_flatMap]
  apply exists_congr
  intro n
  apply and_congr_right
  intro _
  rw [targetsOf, List.mem_append]
  apply or_congr
  · by_cases unready : nodeReadiness n = .notReady <;> simp [unready]
  · rw [List.mem_map]
    constructor
    · rintro ⟨p, member, rfl⟩
      obtain ⟨bound, unready⟩ := List.mem_filter.1 member
      exact ⟨p, bound, by simpa using unready, rfl⟩
    · rintro ⟨p, bound, unready, rfl⟩
      exact ⟨p, List.mem_filter.2 ⟨bound, by simpa using unready⟩, rfl⟩

variable {plane limit nodes}

theorem answering_subset {n : Node} (member : n ∈ answering plane limit nodes) : n ∈ nodes :=
  List.mem_of_mem_filter member

theorem node_mem_wanted_iff (apart : TellsApart plane limit nodes) {n : Node}
    (member : n ∈ answering plane limit nodes) :
    Target.ofNode n ∈ wanted plane limit nodes ↔ nodeReadiness n = .notReady := by
  rw [mem_wanted_iff]
  constructor
  · rintro ⟨other, there, ⟨unready, same⟩ | ⟨p, _, _, same⟩⟩
    · have equal := List.inj_on_of_nodup_map apart.names (answering_subset member) (answering_subset there)
        (Target.node.inj same)
      rwa [equal]
    · cases same
  · intro unready
    exact ⟨n, member, Or.inl ⟨unready, rfl⟩⟩

theorem pod_mem_wanted_iff (apart : TellsApart plane limit nodes) {n : Node} {p : Pod}
    (member : n ∈ answering plane limit nodes) (bound : p ∈ boundPods plane limit n) :
    Target.ofPod p ∈ wanted plane limit nodes ↔ podIsReady p = false := by
  rw [mem_wanted_iff]
  constructor
  · rintro ⟨other, there, ⟨_, same⟩ | ⟨q, held, unready, same⟩⟩
    · cases same
    · have equal := List.inj_on_of_nodup_map apart.targets (List.mem_flatMap.2 ⟨n, member, bound⟩)
        (List.mem_flatMap.2 ⟨other, there, held⟩) same
      rwa [equal]
  · intro unready
    exact ⟨n, member, Or.inr ⟨p, bound, unready, rfl⟩⟩

theorem dealt_eq_map_settled (apart : TellsApart plane limit nodes) :
    dealt plane limit nodes = (answering plane limit nodes).map (settled plane limit) := by
  have names : ((listed plane limit nodes).map fun n => n.node.metadata.name).Nodup := by
    rw [listed_eq, List.map_map]
    exact apart.names.sublist (List.filter_sublist.map _)
  have targets : (((listed plane limit nodes).flatMap NodePods.pods).map Target.ofPod).Nodup := by
    rw [listed_eq, List.flatMap_map]
    exact apart.targets
  rw [dealt, deal_of_distinct names targets, listed_eq, List.map_map]
  apply List.map_congr_left
  intro n member
  rw [Function.comp_apply, dealAlone, settled, give_lookups]
  congr 1
  · congr 1
    rw [decide_eq_decide, node_mem_wanted_iff apart member]
    cases nodeReadiness n <;> simp
  · apply List.map_congr_left
    intro p bound
    rw [give_lookups]
    congr 2
    rw [← Bool.decide_coe (podIsReady p), decide_eq_decide, pod_mem_wanted_iff apart member bound]
    simp

end Settled

section Rest

variable {plane : ControlPlane} {limit : Duration} {nodes : List Node}

def others (plane : ControlPlane) (limit : Duration) (nodes : List Node) (b : String) : List Node :=
  (answering plane limit nodes).filter fun n => n.metadata.name ≠ b

theorem name_of_status? {d : Dealt} {status : NodeStatus} (built : d.status? = some status) :
    status.name = d.node.node.metadata.name := by
  cases outcome : nodeStatus d.node.node d.node.pods d.events with
  | error f => simp [Dealt.status?, outcome] at built
  | ok shown =>
    simp only [Dealt.status?, outcome] at built
    rw [built] at outcome
    exact name_of_nodeStatus outcome

theorem node_of_mem_podStatuses {n : Node} {status : PodStatus}
    (member : status ∈ (settled plane limit n).podStatuses) : status.node = n.metadata.name := by
  obtain ⟨p, turn, rfl⟩ := List.mem_map.1 member
  obtain ⟨pod, bound, rfl⟩ := List.mem_map.1 turn
  exact node_of_mem_boundPods bound

theorem other_nodes (apart : TellsApart plane limit nodes) (b : String) :
    ((snapshotOf plane limit nodes).nodes.filter fun status => status.name ≠ b) =
      ((others plane limit nodes b).filterMap fun n => (settled plane limit n).status?).mergeSort
        fun x y => x.name ≤ y.name := by
  rw [snapshotOf_eq, Sorting.filter_mergeSort_by_key String.le_trans String.le_total,
    dealt_eq_map_settled apart, List.filterMap_map, List.filter_filterMap, others, List.filterMap_filter]
  congr 1
  apply List.filterMap_congr
  intro n _
  rw [Function.comp_apply]
  cases built : (settled plane limit n).status? with
  | none => simp
  | some status =>
    have name : status.name = n.metadata.name := name_of_status? built
    simp only [Option.filter_some, name]

theorem pods_under (plane : ControlPlane) (limit : Duration) (nodes : List Node) (ns : String) :
    ((snapshotOf plane limit nodes).pods.get? ns).getD [] =
      (((dealt plane limit nodes).flatMap Dealt.podStatuses).filter fun status => status.ns = ns).mergeSort
        fun x y => x.name ≤ y.name := by
  have nothing : ((∅ : Dictionary (List PodStatus)).get? ns).getD [] = [] := rfl
  have under := Dictionary.filed_under PodStatus.ns ∅ ((dealt plane limit nodes).flatMap Dealt.podStatuses) ns
  rw [nothing, List.nil_append] at under
  rw [snapshotOf_eq, Dictionary.get?_map, ← under, filed]
  cases Dictionary.get? _ ns with
  | none => exact List.mergeSort_nil.symm
  | some ps => rfl

theorem other_pods (apart : TellsApart plane limit nodes) (b ns : String) :
    ((((snapshotOf plane limit nodes).pods.get? ns).getD []).filter fun status => status.node ≠ b) =
      (((others plane limit nodes b).flatMap fun n => (settled plane limit n).podStatuses).filter
        fun status => status.ns = ns).mergeSort fun x y => x.name ≤ y.name := by
  have own : ((dealt plane limit nodes).flatMap Dealt.podStatuses).filter (fun status => status.node ≠ b) =
      (others plane limit nodes b).flatMap fun n => (settled plane limit n).podStatuses := by
    rw [dealt_eq_map_settled apart, List.flatMap_map, others]
    -- The pods of a node are bound to it, so all of them go or none.
    have bound : ∀ n, ∀ status ∈ (settled plane limit n).podStatuses, status.node = n.metadata.name :=
      fun _ _ => node_of_mem_podStatuses
    exact Keyed.filter_flatMap bound (fun name => name ≠ b) _
  rw [pods_under, Sorting.filter_mergeSort_by_key String.le_trans String.le_total, ← own, List.filter_filter,
    List.filter_filter]
  simp only [Bool.and_comm]

section Two

variable {b : String} {plane' : ControlPlane}

theorem settled_congr (differ : DifferAt b plane plane') {n : Node} (other : n.metadata.name ≠ b) :
    settled plane' limit n = settled plane limit n := by
  have told : boundPods plane' limit n = boundPods plane limit n := by
    rw [boundPods, boundPods, differ.pods _ other]
  have events : eventsUnless plane' limit = eventsUnless plane limit := by
    funext ready target
    rw [eventsUnless, eventsUnless, differ.events]
  rw [settled, settled, told, events]

theorem others_congr (differ : DifferAt b plane plane') (nodes : List Node) :
    others plane' limit nodes b = others plane limit nodes b := by
  rw [others, others, answering, answering, List.filter_filter, List.filter_filter]
  apply List.filter_congr
  intro n _
  by_cases same : n.metadata.name = b
  · simp [same]
  · rw [answers, answers, differ.pods _ same]

theorem sameBut_of_differAt (differ : DifferAt b plane plane') (apart : TellsApart plane limit nodes)
    (apart' : TellsApart plane' limit nodes) :
    SameBut b (snapshotOf plane limit nodes) (snapshotOf plane' limit nodes) := by
  have alike : ∀ n ∈ others plane limit nodes b, settled plane' limit n = settled plane limit n := by
    intro n member
    exact settled_congr differ (by simpa using (List.mem_filter.1 member).2)
  constructor
  · rw [other_nodes apart, other_nodes apart', others_congr differ]
    congr 1
    apply List.filterMap_congr
    intro n member
    rw [alike n member]
  · intro ns
    rw [other_pods apart, other_pods apart', others_congr differ]
    congr 2
    apply List.flatMap_congr
    intro n member
    rw [alike n member]

end Two

section Silent

variable {b : String}

theorem name_ne_of_silent (silent : told limit (plane.pods b) = none) {n : Node}
    (member : n ∈ answering plane limit nodes) : n.metadata.name ≠ b := by
  rintro rfl
  have given := (Bool.and_eq_true_iff.1 (List.mem_filter.1 member).2).2
  rw [answers, silent] at given
  cases given

theorem isAboutPodsOf_events (b x reason : String) :
    isAboutPodsOf b (.partialFetch ("events of " ++ x) reason) = false := by
  rw [isAboutPodsOf, decide_eq_false_iff_not]
  intro same
  have chars := congrArg String.toList same
  simp [String.toList_append] at chars

theorem isAboutPodsOf_pods (b name reason : String) :
    isAboutPodsOf b (.partialFetch ("pods of node " ++ name) reason) = decide (name = b) := by
  rw [isAboutPodsOf, decide_eq_decide]
  exact String.append_right_inj _

theorem length_filter_of_forall₂ {α β : Type} {R : α → β → Prop} {p : α → Bool} {q : β → Bool} {items : List α}
    {results : List β} (related : List.Forall₂ R items results) (same : ∀ a r, R a r → q r = p a) :
    (results.filter q).length = (items.filter p).length := by
  induction related with
  | nil => rfl
  | @cons a r _ _ first _ ih =>
    rw [List.filter_cons, List.filter_cons, same a r first]
    split
    · rw [List.length_cons, List.length_cons, ih]
    · exact ih

theorem once_of_silent (names : (nodes.map fun n => n.metadata.name).Nodup)
    (listed : b ∈ (nodes.filter hasReport).map fun n => n.metadata.name)
    (silent : told limit (plane.pods b) = none) :
    ((recorded plane limit nodes).filter (isAboutPodsOf b)).length = 1 := by
  obtain ⟨node, member, rfl⟩ := List.mem_map.1 listed
  obtain ⟨there, reported⟩ := List.mem_filter.1 member
  have ofPods : ((failures (listings plane limit nodes)).filter (isAboutPodsOf node.metadata.name)).length =
      ((nodes.filter fun n => hasReport n && !answers plane limit n).filter
        fun n => n.metadata.name = node.metadata.name).length := by
    apply length_filter_of_forall₂ (failures_listings plane limit nodes)
    rintro n f ⟨reason, rfl⟩
    exact isAboutPodsOf_pods node.metadata.name n.metadata.name reason
  have ofEvents : (failures (lookups plane limit nodes)).filter (isAboutPodsOf node.metadata.name) = [] := by
    apply List.eq_nil_of_length_eq_zero
    rw [length_filter_of_forall₂ (p := fun _ => false) (failures_lookups plane limit nodes)]
    · simp
    · rintro t f ⟨reason, rfl⟩
      exact isAboutPodsOf_events node.metadata.name t.display reason
  have ofNodes : ((dealt plane limit nodes).filterMap Dealt.failure?).filter
      (isAboutPodsOf node.metadata.name) = [] := by
    apply List.eq_nil_of_length_eq_zero
    rw [length_filter_of_forall₂ (p := fun _ => false) (shown_of_dealt plane limit nodes).2]
    · simp
    · rintro n f ⟨reason, rfl | ⟨p, _, rfl⟩⟩ <;> rfl
  have one : ((nodes.filter fun n => hasReport n && !answers plane limit n).filter
      fun n => n.metadata.name = node.metadata.name) = [node] := by
    apply Keyed.filter_eq_singleton
    · exact names.sublist (List.filter_sublist.map _)
    · apply List.mem_filter.2
      simp [there, reported, answers, silent]
  -- Of the three groups of failures only the first is about pods of nodes.
  rw [recorded, List.filter_append, List.filter_append, ofEvents, ofNodes, List.append_nil, List.append_nil, ofPods,
    one, List.length_singleton]

theorem leavesOut_of_silent (names : (nodes.map fun n => n.metadata.name).Nodup)
    (listed : b ∈ (nodes.filter hasReport).map fun n => n.metadata.name)
    (silent : told limit (plane.pods b) = none) :
    LeavesOut b plane limit nodes (snapshotOf plane limit nodes) := by
  constructor
  · intro status shown
    rw [snapshotOf_eq] at shown
    obtain ⟨d, member, built⟩ := List.mem_filterMap.1 ((List.mergeSort_perm _ _).mem_iff.1 shown)
    obtain ⟨n, answered, same⟩ := exists_answering_of_mem_dealt plane limit nodes member
    rw [name_of_status? built, same]
    exact name_ne_of_silent silent answered
  · intro e member status inside
    have filed := (values_snapshotOf plane limit nodes).mem_iff.1 (List.mem_flatMap.2 ⟨e, member, inside⟩)
    obtain ⟨d, member, turn⟩ := List.mem_flatMap.1 filed
    obtain ⟨n, answered, same⟩ := exists_answering_of_mem_dealt plane limit nodes member
    obtain ⟨p, dealtTo, rfl⟩ := List.mem_map.1 turn
    have bound := List.mem_map_of_mem (f := Prod.fst) dealtTo
    rw [map_fst_pods_of_mem_deal member, same] at bound
    have node : (podStatus p.1 p.2).node = n.metadata.name := node_of_mem_boundPods bound
    rw [node]
    exact name_ne_of_silent silent answered
  · rw [snapshotOf_eq]
  · exact once_of_silent names listed silent

end Silent

end Rest

/-- Whatever becomes of the pods of one node, the rest of a snapshot is as it would be otherwise; and if they are not
told, the node is left out. -/
theorem failing_node_is_isolated {connector connector' : Connector} {limits : Limits} {cluster : Cluster}
    {plane plane' : ControlPlane} {list : Listing Node} {b : String} {s s' : Snapshot}
    (reached : (connector cluster).ending = .answer plane) (reached' : (connector' cluster).ending = .answer plane')
    (listing : plane.nodes.ending = .answer list) (differ : DifferAt b plane plane')
    (apart : TellsApart plane limits.call list.items) (apart' : TellsApart plane' limits.call list.items)
    (taken : (fetchSnapshot connector limits cluster).result = .ok s)
    (taken' : (fetchSnapshot connector' limits cluster).result = .ok s') :
    SameBut b s s' ∧
      ((b ∈ (list.items.filter hasReport).map fun n => n.metadata.name) →
        (told limits.call (plane.pods b) = none → LeavesOut b plane limits.call list.items s) ∧
        (told limits.call (plane'.pods b) = none → LeavesOut b plane' limits.call list.items s')) := by
  obtain ⟨p, l, first, second, rfl⟩ := exists_plane_of_fetch taken
  obtain ⟨p', l', first', second', rfl⟩ := exists_plane_of_fetch taken'
  cases Ending.answer.inj (first.symm.trans reached)
  cases Ending.answer.inj (first'.symm.trans reached')
  rw [differ.nodes] at second'
  cases Ending.answer.inj (second.symm.trans listing)
  cases Ending.answer.inj (second'.symm.trans listing)
  refine ⟨sameBut_of_differAt differ apart apart', fun there => ⟨?_, ?_⟩⟩
  · exact leavesOut_of_silent apart.names there
  · exact leavesOut_of_silent apart'.names there

def toldPods : Call (Listing Pod) :=
  ⟨.ofSeconds 2, .answer { items := [{ metadata := { name := "db", ns := "default" }, spec := { node := "b" } }] }⟩

theorem crashed_node_is_isolated :
    ∃ list s s', (threeNodes crashedPods).nodes.ending = .answer list ∧
      DifferAt "b" (threeNodes crashedPods) (threeNodes toldPods) ∧
      TellsApart (threeNodes crashedPods) usualLimits.call list.items ∧
      TellsApart (threeNodes toldPods) usualLimits.call list.items ∧
      (fetchSnapshot (reaching (threeNodes crashedPods)) usualLimits default).result = .ok s ∧
      (fetchSnapshot (reaching (threeNodes toldPods)) usualLimits default).result = .ok s' ∧
      SameBut "b" s s' ∧ LeavesOut "b" (threeNodes crashedPods) usualLimits.call list.items s :=
  have reached : (reaching (threeNodes crashedPods) default).ending = .answer (threeNodes crashedPods) := rfl
  have reached' : (reaching (threeNodes toldPods) default).ending = .answer (threeNodes toldPods) := rfl
  have differ : DifferAt "b" (threeNodes crashedPods) (threeNodes toldPods) :=
    ⟨rfl, rfl, fun name other => by simp only [threeNodes, if_neg other]⟩
  have apart : TellsApart (threeNodes crashedPods) usualLimits.call _ := ⟨by decide, by decide⟩
  have apart' : TellsApart (threeNodes toldPods) usualLimits.call _ := ⟨by decide, by decide⟩
  have isolated := failing_node_is_isolated reached reached' rfl differ apart apart' rfl rfl
  ⟨_, _, _, rfl, differ, apart, apart', rfl, rfl, isolated.1, (isolated.2 (by decide)).1 (by decide)⟩

end ClusterWatch.Fetch
