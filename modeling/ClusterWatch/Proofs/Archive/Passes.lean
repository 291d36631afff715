import ClusterWatch.Proofs.History.Saves
import ClusterWatch.Proofs.Tasks
import ClusterWatch.Service
import Mathlib.Data.List.Perm.Basic

namespace ClusterWatch.Archive

open Tasks

variable {β : Type}

abbrev Saver (β : Type) := String → Instant → Snapshot → β → Except Mishap Uuid × β

structure Receipt where
  cluster : String
  time : Instant
  snapshot : Snapshot
  outcome : Except Mishap Uuid

structure Ledger (β : Type) where
  history : β
  receipts : List Receipt

def Ledger.receive (saver : Saver β) (l : Ledger β) (cluster : String) (time : Instant) (s : Snapshot) :
    Receipt × Ledger β :=
  let (outcome, history) := saver cluster time s l.history
  let receipt : Receipt := ⟨cluster, time, s, outcome⟩
  (receipt, ⟨history, l.receipts ++ [receipt]⟩)

/-- Nothing has changed the history but the saves in the ledger. -/
inductive Ledger.From (saver : Saver β) (h : β) : Ledger β → Prop where
  | nothing : Ledger.From saver h ⟨h, []⟩
  | receive {l : Ledger β} (cluster : String) (time : Instant) (s : Snapshot) :
      Ledger.From saver h l → Ledger.From saver h (l.receive saver cluster time s).2

abbrev End := Except Mishap Receipt

def End.outcome (e : End) : Except Mishap Uuid :=
  e.bind Receipt.outcome

inductive Progress where
  | fetching
  | fetched (s : Snapshot)
  | ended (e : End)

inductive Keeping (saver : Saver β) (connector : Connector) (limits : Limits) (c : Cluster) :
    Ledger β × Progress → Ledger β × Progress → Prop where
  | fetch {s : Snapshot} (l : Ledger β) (taken : (fetchSnapshot connector limits c).result = .ok s) :
      Keeping saver connector limits c (l, .fetching) (l, .fetched s)
  | lose {m : Mishap} (l : Ledger β) (lost : (fetchSnapshot connector limits c).result = .error m) :
      Keeping saver connector limits c (l, .fetching) (l, .ended (.error m))
  | save {s : Snapshot} (l : Ledger β) (time : Instant) :
      Keeping saver connector limits c (l, .fetched s)
        ((l.receive saver c.identifier time s).2, .ended (.ok (l.receive saver c.identifier time s).1))

def count (report : Report) (e : End) : Report :=
  match e.outcome with
  | .ok _ => { report with saved := report.saved + 1 }
  | .error _ => { report with failed := report.failed + 1 }

/-- A pass on every schedule of its tasks: it ends, and the goal holds of what it returns and of the ledger. The ends of
the tasks are counted in the order of the clusters once all have ended. -/
def Passes (saver : Saver β) (connector : Connector) (limits : Limits) (told : Except Failure (List Cluster)) (h : β)
    (goal : Except Failure Report → Ledger β → Prop) : Prop :=
  match told with
  | .error f => goal (.error f) ⟨h, []⟩
  | .ok clusters =>
    Inevitably (Step (Keeping saver connector limits))
      (fun t => ∃ ends : List End, t.slots.map Prod.snd = ends.map .ended ∧ goal (.ok (ends.foldl count {})) t.shared)
      (begin .fetching clusters ⟨h, []⟩)

inductive EndsWith (connector : Connector) (limits : Limits) (c : Cluster) : End → Prop where
  | lost {m : Mishap} : (fetchSnapshot connector limits c).result = .error m → EndsWith connector limits c (.error m)
  | received {s : Snapshot} (time : Instant) (outcome : Except Mishap Uuid) :
      (fetchSnapshot connector limits c).result = .ok s →
      EndsWith connector limits c (.ok ⟨c.identifier, time, s, outcome⟩)

structure Balances (saver : Saver β) (connector : Connector) (limits : Limits) (clusters : List Cluster) (h : β)
    (report : Report) (l : Ledger β) (ends : List End) : Prop where
  each : List.Forall₂ (EndsWith connector limits) clusters ends
  receipts : l.receipts.Perm (successes ends)
  history : l.From saver h
  saved : report.saved = ends.countP fun e => e.outcome.isOk
  all : report.saved + report.failed = clusters.length

def Accounts (saver : Saver β) (connector : Connector) (limits : Limits) (told : Except Failure (List Cluster)) (h : β)
    (result : Except Failure Report) (l : Ledger β) : Prop :=
  match told with
  | .error f => result = .error f ∧ l = ⟨h, []⟩
  | .ok clusters => ∃ report ends, result = .ok report ∧ Balances saver connector limits clusters h report l ends

section Runs

variable {saver : Saver β} {connector : Connector} {limits : Limits} {c : Cluster} {l l' : Ledger β} {a b : Progress}

def Progress.rank : Progress → Nat
  | .fetching => 2
  | .fetched _ => 1
  | .ended _ => 0

def Progress.received : Progress → List Receipt
  | .ended (.ok receipt) => [receipt]
  | _ => []

def Progress.Sound (connector : Connector) (limits : Limits) (c : Cluster) : Progress → Prop
  | .fetching => True
  | .fetched s => (fetchSnapshot connector limits c).result = .ok s
  | .ended e => EndsWith connector limits c e

theorem Keeping.rank_lt (moved : Keeping saver connector limits c (l, a) (l', b)) : b.rank < a.rank := by
  cases moved with
  | fetch => exact Nat.lt_succ_self 1
  | lose => exact Nat.succ_pos 1
  | save => exact Nat.lt_succ_self 0

theorem Keeping.exists_of_rank (c : Cluster) (l : Ledger β) (a : Progress) (unfinished : a.rank ≠ 0) :
    ∃ next, Keeping saver connector limits c (l, a) next := by
  cases a with
  | fetching =>
    cases result : (fetchSnapshot connector limits c).result with
    | ok s => exact ⟨_, .fetch l result⟩
    | error m => exact ⟨_, .lose l result⟩
  | fetched s => exact ⟨_, .save l .epoch⟩
  | ended => exact absurd rfl unfinished

theorem Keeping.received (moved : Keeping saver connector limits c (l, a) (l', b)) :
    ∃ new, l'.receipts = l.receipts ++ new ∧ b.received = a.received ++ new := by
  cases moved with
  | fetch => exact ⟨[], (List.append_nil _).symm, rfl⟩
  | lose => exact ⟨[], (List.append_nil _).symm, rfl⟩
  | save => exact ⟨_, rfl, rfl⟩

theorem Keeping.sound {h : β} (moved : Keeping saver connector limits c (l, a) (l', b)) (old : l.From saver h)
    (sound : a.Sound connector limits c) : l'.From saver h ∧ b.Sound connector limits c := by
  cases moved with
  | fetch _ taken => exact ⟨old, taken⟩
  | lose _ lost => exact ⟨old, .lost lost⟩
  | save _ time => exact ⟨old.receive _ _ _, .received time _ sound⟩

theorem foldl_count (ends : List End) (report : Report) : ends.foldl count report =
    ⟨report.saved + ends.countP fun e => e.outcome.isOk, report.failed + ends.countP fun e => !e.outcome.isOk⟩ := by
  induction ends generalizing report with
  | nil => rfl
  | cons e ends ih =>
    rw [List.foldl_cons, ih, count]
    cases outcome : e.outcome with
    | ok =>
      simp [outcome, Except.isOk, Except.toBool]
      omega
    | error =>
      simp [outcome, Except.isOk, Except.toBool]
      omega

theorem saved_add_failed (ends : List End) :
    (ends.foldl count {}).saved + (ends.foldl count {}).failed = ends.length := by
  rw [foldl_count, List.length_eq_countP_add_countP (fun e => e.outcome.isOk)]
  simp only [Nat.zero_add, Bool.not_eq_true, Bool.decide_eq_false]

variable {clusters : List Cluster} {h : β} {t : Tasks (Ledger β) Cluster Progress} {ends : List End}

theorem ends_of_run (run : Run (Keeping saver connector limits) (begin .fetching clusters ⟨h, []⟩) t)
    (finished : ∀ slot ∈ t.slots, slot.2.rank = 0) :
    t.shared.From saver h ∧ ∃ ends : List End, t.slots.map Prod.snd = ends.map .ended ∧
      List.Forall₂ (EndsWith connector limits) clusters ends := by
  obtain ⟨history, sound⟩ := run.keeps (Ledger.From saver h) (Progress.Sound connector limits)
    (fun moved old sound => moved.sound old sound) .nothing (fun _ => trivial)
  refine ⟨history, run.results Progress.ended (EndsWith connector limits) ?_⟩
  rintro ⟨c, stage⟩ member
  cases stage with
  | ended e => exact ⟨e, rfl, sound _ member⟩
  | fetching => exact absurd (finished _ member) (Nat.succ_ne_zero 1)
  | fetched => exact absurd (finished _ member) (Nat.succ_ne_zero 0)

theorem receipts_of_run (run : Run (Keeping saver connector limits) (begin .fetching clusters ⟨h, []⟩) t)
    (ended : t.slots.map Prod.snd = ends.map .ended) : t.shared.receipts.Perm (successes ends) := by
  have traced := run.traced Ledger.receipts (fun _ => Progress.received) (fun moved => moved.received) rfl
    (fun _ => rfl)
  have written : (t.slots.flatMap fun slot => slot.2.received) = successes ends := by
    rw [← List.flatMap_map (f := Prod.snd) (g := Progress.received), ended, List.flatMap_map, successes,
      List.filterMap_eq_flatMap_toList]
    congr 1
    funext e
    cases e <;> rfl
  rw [written] at traced
  exact traced

theorem balances_of_run (run : Run (Keeping saver connector limits) (begin .fetching clusters ⟨h, []⟩) t)
    (finished : ∀ slot ∈ t.slots, slot.2.rank = 0) :
    ∃ ends : List End, t.slots.map Prod.snd = ends.map .ended ∧
      Balances saver connector limits clusters h (ends.foldl count {}) t.shared ends := by
  obtain ⟨history, ends, ended, each⟩ := ends_of_run run finished
  refine ⟨ends, ended, ?_⟩
  constructor
  case each => exact each
  case receipts => exact receipts_of_run run ended
  case history => exact history
  case saved => rw [foldl_count, Nat.zero_add]
  case all => rw [saved_add_failed, each.length_eq]

theorem passes_account (told : Except Failure (List Cluster)) :
    Passes saver connector limits told h (Accounts saver connector limits told h) := by
  cases told with
  | error f => exact ⟨rfl, rfl⟩
  | ok clusters =>
    refine inevitably_of_runs Keeping.rank_lt Keeping.exists_of_rank _ fun t run finished => ?_
    obtain ⟨ends, ended, balances⟩ := balances_of_run run finished
    exact ⟨ends, ended, _, ends, rfl, balances⟩

end Runs

section Stores

open History

/-- The saves of a history, each of which is given the next of some ids until one has been used. -/
def Saver.ofHistory (ids : Nat → Uuid) : Saver (History × Nat) := fun cluster time s (h, next) =>
  match h.save (ids next) cluster time s with
  | .ok (id, h) => (.ok id, (h, next + 1))
  | .error f => (.error f, (h, next))

def slotsOf (ids : Nat → Uuid) (next : Nat) (receipts : List Receipt) : List Slot :=
  receipts.mapIdx fun k r => ⟨⟨ids (next + k), r.cluster, r.time⟩, r.snapshot⟩

variable {ids : Nat → Uuid} {n : Nat}

theorem slotsOf_append (ids : Nat → Uuid) (n : Nat) (receipts : List Receipt) (r : Receipt) :
    slotsOf ids n (receipts ++ [r]) =
      slotsOf ids n receipts ++ [⟨⟨ids (n + receipts.length), r.cluster, r.time⟩, r.snapshot⟩] :=
  List.mapIdx_concat

theorem after_slotsOf_append (h : History) (ids : Nat → Uuid) (n : Nat) (receipts : List Receipt) (r : Receipt) :
    h.after ((slotsOf ids n (receipts ++ [r])).map Slot.request) =
      ((h.after ((slotsOf ids n receipts).map Slot.request)).answer
        (.save (ids (n + receipts.length)) r.cluster r.time r.snapshot)).2 := by
  rw [slotsOf_append, List.map_append, History.after, List.foldl_append]
  rfl

theorem history_ofHistory (h : History) (cluster : String) (time : Instant) (s : Snapshot) :
    (Saver.ofHistory ids cluster time s (h, n)).2.1 = (h.answer (.save (ids n) cluster time s)).2 := by
  unfold Saver.ofHistory answer
  dsimp only
  cases h.save (ids n) cluster time s <;> rfl

theorem Ledger.From.ring {r : Ring} {l : Ledger (History × Nat)} (saves : l.From (.ofHistory ids) (.ring r, n)) :
    (∃ r', l.history = (.ring r', n + l.receipts.length)) ∧
      l.history.1 = (History.ring r).after ((slotsOf ids n l.receipts).map Slot.request) := by
  -- A ring takes every save, so that each of them uses its id.
  induction saves with
  | nothing => exact ⟨⟨r, rfl⟩, rfl⟩
  | @receive l cluster time s saves ih =>
    obtain ⟨⟨r', used⟩, left⟩ := ih
    obtain ⟨held, receipts⟩ := l
    dsimp only at used left
    subst used
    refine ⟨⟨r'.save ⟨⟨ids (n + receipts.length), cluster, time⟩, s⟩, ?_⟩, ?_⟩
    · simp only [Ledger.receive, Saver.ofHistory, History.save, List.length_append, List.length_singleton,
        Nat.add_assoc]
    · simp only [Ledger.receive]
      rw [after_slotsOf_append, ← left]
      exact history_ofHistory _ cluster time s

theorem Ledger.From.documents {t : Table} {l : Ledger (History × Nat)}
    (saves : l.From (.ofHistory ids) (.documents t, n)) :
    l.history.1 = (History.documents t).after ((slotsOf ids n l.receipts).map Slot.request) := by
  -- A table makes its own ids, whatever it is given.
  induction saves with
  | nothing => rfl
  | @receive l cluster time s saves left =>
    obtain ⟨⟨held, next⟩, receipts⟩ := l
    dsimp only at left
    subst left
    simp only [Ledger.receive]
    rw [after_slotsOf_append, history_ofHistory, Table.after_documents, Table.answer_documents, Table.answer_documents]
    rfl

theorem Ledger.From.history_eq {h : History} {l : Ledger (History × Nat)} (saves : l.From (.ofHistory ids) (h, n)) :
    l.history.1 = h.after ((slotsOf ids n l.receipts).map Slot.request) := by
  cases h with
  | ring r => exact saves.ring.2
  | documents t => exact saves.documents

end Stores

section Turns

variable (connector : Connector) (limits : Limits) (clock : Duration → Instant) (ids : Nat → Uuid)

def settle (c : Cluster) (l : Ledger (History × Nat)) : Ledger (History × Nat) × End :=
  match (fetchSnapshot connector limits c).result with
  | .error m => (l, .error m)
  | .ok s =>
    let (receipt, l) := l.receive (.ofHistory ids) c.identifier (clock (fetchSnapshot connector limits c).elapsed) s
    (l, .ok receipt)

def settled (order : List Cluster) (l : Ledger (History × Nat)) :
    Tasks (Ledger (History × Nat)) Cluster Progress :=
  inTurn (fun c l => ((settle connector limits clock ids c l).1, .ended (settle connector limits clock ids c l).2))
    order l

theorem settles (c : Cluster) (l : Ledger (History × Nat)) :
    Relation.ReflTransGen (Keeping (.ofHistory ids) connector limits c) (l, .fetching)
      ((settle connector limits clock ids c l).1, .ended (settle connector limits clock ids c l).2) := by
  unfold settle
  cases result : (fetchSnapshot connector limits c).result with
  | error m => exact .single (.lose l result)
  | ok s => exact .tail (.single (.fetch l result)) (.save l _)

def IsTimely (clusters : List Cluster) (r : Receipt) : Prop :=
  ∃ c ∈ clusters, r.cluster = c.identifier ∧ r.time = clock (fetchSnapshot connector limits c).elapsed

theorem receipts_settle (c : Cluster) (l : Ledger (History × Nat)) :
    ∀ r ∈ (settle connector limits clock ids c l).1.receipts, r ∈ l.receipts ∨
      IsTimely connector limits clock [c] r := by
  unfold settle
  cases (fetchSnapshot connector limits c).result with
  | error m => exact fun r member => Or.inl member
  | ok s =>
    intro r member
    rcases List.mem_append.1 member with old | new
    · exact Or.inl old
    · obtain rfl := List.mem_singleton.1 new
      exact Or.inr ⟨c, List.mem_singleton_self c, rfl, rfl⟩

theorem receipts_settled (order : List Cluster) (l : Ledger (History × Nat)) :
    ∀ r ∈ (settled connector limits clock ids order l).shared.receipts, r ∈ l.receipts ∨
      IsTimely connector limits clock order r := by
  induction order generalizing l with
  | nil => exact fun r member => Or.inl member
  | cons c order ih =>
    intro r member
    rcases ih _ r member with first | ⟨d, inside, timely⟩
    · rcases receipts_settle connector limits clock ids c l r first with old | ⟨d, here, timely⟩
      · exact Or.inl old
      · obtain rfl := List.mem_singleton.1 here
        exact Or.inr ⟨d, List.mem_cons_self, timely⟩
    · exact Or.inr ⟨d, List.mem_cons_of_mem c inside, timely⟩

variable (a : Archive)

def holding (p : History × Nat) : Archive := { a with history := p.1, next := p.2 }

theorem keep_eq_settle (c : Cluster) (l : Ledger (History × Nat)) (report : Report) :
    keep clock (report, a.holding l.history) (c, fetchSnapshot connector limits c) =
      (count report (settle connector limits clock a.ids c l).2,
        a.holding (settle connector limits clock a.ids c l).1.history) := by
  unfold keep settle
  cases (fetchSnapshot connector limits c).result with
  | error => rfl
  | ok s =>
    -- A save that fails leaves the archive as it is, in the pass and in the ledger.
    obtain ⟨⟨h, n⟩, receipts⟩ := l
    cases saving : h.save (a.ids n) c.identifier (clock (fetchSnapshot connector limits c).elapsed) s with
    | error => simp [holding, Archive.save, saving, Ledger.receive, Saver.ofHistory, count, End.outcome, Except.bind,
        Except.map]
    | ok => simp [holding, Archive.save, saving, Ledger.receive, Saver.ofHistory, count, End.outcome, Except.bind,
        Except.map]

theorem foldl_keep (order : List Cluster) (report : Report) (l : Ledger (History × Nat)) :
    ∃ ends : List End, (settled connector limits clock a.ids order l).slots.map Prod.snd = ends.map .ended ∧
      (order.map fun c => (c, fetchSnapshot connector limits c)).foldl (keep clock) (report, a.holding l.history) =
        (ends.foldl count report, a.holding (settled connector limits clock a.ids order l).shared.history) := by
  induction order generalizing report l with
  | nil => exact ⟨[], rfl, rfl⟩
  | cons c order ih =>
    obtain ⟨ends, slots, kept⟩ :=
      ih (count report (settle connector limits clock a.ids c l).2) (settle connector limits clock a.ids c l).1
    refine ⟨(settle connector limits clock a.ids c l).2 :: ends, ?_, ?_⟩
    · exact congrArg (List.cons _) slots
    · rw [List.map_cons, List.foldl_cons, keep_eq_settle, kept]
      rfl

theorem exists_map_of_perm {α γ : Type} {f : α → γ} {xs : List α} {ys : List γ} (same : ys.Perm (xs.map f)) :
    ∃ order : List α, ys = order.map f ∧ order.Perm xs :=
  (congrFun (congrFun (List.eq_map_comp_perm f) ys) xs).mpr same

theorem exists_run_of_snapshotPass (clusters : List Cluster) :
    ∃ t : Tasks (Ledger (History × Nat)) Cluster Progress,
      Run (Keeping (.ofHistory a.ids) connector limits) (begin .fetching clusters ⟨(a.history, a.next), []⟩) t ∧
      (∀ slot ∈ t.slots, slot.2.rank = 0) ∧
      (∀ r ∈ t.shared.receipts, IsTimely connector limits clock clusters r) ∧
      ∀ ends : List End, t.slots.map Prod.snd = ends.map .ended →
        snapshotPass connector limits clock clusters a = (ends.foldl count {}, a.holding t.shared.history) := by
  obtain ⟨order, taken, same⟩ := exists_map_of_perm
    (List.mergeSort_perm (clusters.map fun c => (c, fetchSnapshot connector limits c))
      fun a b => a.2.elapsed ≤ b.2.elapsed)
  obtain ⟨inOrder, slots, kept⟩ := foldl_keep connector limits clock a order {} ⟨(a.history, a.next), []⟩
  obtain ⟨t, run, shared, standing⟩ :=
    exists_run_inTurn (settles connector limits clock a.ids) same ⟨(a.history, a.next), []⟩
  have ended : (inOrder.map Progress.ended).Perm (t.slots.map Prod.snd) := by
    rw [← slots]
    exact standing.map Prod.snd
  refine ⟨t, run, fun slot member => ?_, fun r member => ?_, fun ends same => ?_⟩
  · obtain ⟨e, _, here⟩ := List.mem_map.1 (ended.symm.subset (List.mem_map_of_mem (f := Prod.snd) member))
    rw [← here]
    rfl
  · rw [shared] at member
    rcases receipts_settled connector limits clock a.ids order _ r member with old | ⟨c, inside, timely⟩
    · exact absurd old List.not_mem_nil
    · exact ⟨c, same.subset inside, timely⟩
  · rw [same, List.map_perm_map_iff fun _ _ => Progress.ended.inj] at ended
    -- The pass counts as the fetches end, and not in the order of the clusters.
    have report : ends.foldl count {} = inOrder.foldl count {} := by
      rw [foldl_count, foldl_count, ended.countP_eq, ended.countP_eq]
    rw [report, shared, snapshotPass, courses, taken]
    exact kept

end Turns

structure Records (connector : Connector) (limits : Limits) (clock : Duration → Instant) (clusters : List Cluster)
    (a : Archive) (report : Report) (a' : Archive) (l : Ledger (History × Nat)) : Prop where
  balances : ∃ ends, Balances (.ofHistory a.ids) connector limits clusters (a.history, a.next) report l ends
  timely : ∀ r ∈ l.receipts, IsTimely connector limits clock clusters r
  left : a' = { a with history := l.history.1, next := l.history.2 }
  asked : a'.history = a.history.after ((slotsOf a.ids a.next l.receipts).map History.Slot.request)
  takes : a.history.Takes (slotsOf a.ids a.next l.receipts) a'.history

theorem records_of_snapshotPass (connector : Connector) (limits : Limits) (clock : Duration → Instant)
    (clusters : List Cluster) (a : Archive) : ∃ l, Records connector limits clock clusters a
      (snapshotPass connector limits clock clusters a).1 (snapshotPass connector limits clock clusters a).2 l := by
  obtain ⟨t, run, finished, timely, result⟩ := exists_run_of_snapshotPass connector limits clock a clusters
  obtain ⟨ends, ended, balances⟩ := balances_of_run run finished
  have asked := balances.history.history_eq
  rw [result ends ended]
  refine ⟨t.shared, ⟨ends, balances⟩, timely, rfl, asked, ?_⟩
  show a.history.Takes _ t.shared.history.1
  rw [asked]
  exact a.history.takes_after _

/-- Whatever the order in which its tasks end, and whatever the history does, a pass over clusters reports and saves
what their fetches give; without the clusters it does nothing. -/
theorem pass_accounts_for_clusters (saver : Saver β) (connector : Connector) (limits : Limits)
    (told : Except Failure (List Cluster)) (h : β) :
    Passes saver connector limits told h (Accounts saver connector limits told h) ∧
      (∀ clock clusters a, ∃ l, Records connector limits clock clusters a
        (snapshotPass connector limits clock clusters a).1 (snapshotPass connector limits clock clusters a).2 l) ∧
      ∀ (s : Service) (web : Net.Web) (clock : Duration → Instant),
        (s.snapshotPass web clock).2 = (s.roster web).clusters.result.map fun clusters =>
          let (report, archive) := snapshotPass (Kube.Client.connector web) s.limits clock clusters s.archive
          (report, { s with archive }) := by
  refine ⟨passes_account told, fun clock clusters a => records_of_snapshotPass connector limits clock clusters a, ?_⟩
  intro s web clock
  cases told : (s.roster web).clusters.result <;> simp only [Service.snapshotPass, told, Except.map]

end ClusterWatch.Archive
