import ClusterWatch.Proofs.History.Payloads
import ClusterWatch.Proofs.History.Ring
import ClusterWatch.Proofs.History.Rows
import Mathlib.Data.List.Forall2

namespace ClusterWatch.History

/-- A fetch names an answer that came before it and a place among the ids that this answer has told. -/
inductive Call where
  | save (fresh : Uuid) (cluster : String) (time : Instant) (snapshot : Snapshot)
  | list (cluster : String) (since till : Instant)
  | fetch (answer place : Nat)
  deriving Repr

inductive Reply where
  | saved (outcome : Except Failure Unit)
  | listed (entries : List (String × Instant))
  | fetched (outcome : Except Failure Snapshot)
  | untold

def Reply.IsSuccess : Reply → Prop
  | .saved (.error _) | .fetched (.error _) => False
  | _ => True

structure Client where
  history : History
  told : List (List Uuid) := []

namespace Client

def idAt? (c : Client) (answer place : Nat) : Option Uuid :=
  c.told[answer]?.bind fun ids => ids[place]?

def ask (c : Client) : Call → Reply × Client
  | .save fresh cluster time snapshot =>
    match c.history.save fresh cluster time snapshot with
    | .ok (id, next) => (.saved (.ok ()), ⟨next, c.told ++ [[id]]⟩)
    | .error f => (.saved (.error f), ⟨c.history, c.told ++ [[]]⟩)
  | .list cluster since till =>
    let entries := c.history.entries cluster since till
    (.listed (entries.map fun e => (e.cluster, e.time)), ⟨c.history, c.told ++ [entries.map Entry.id]⟩)
  | .fetch answer place =>
    match c.idAt? answer place with
    | some id => (.fetched (c.history.fetch id), ⟨c.history, c.told ++ [[]]⟩)
    | none => (.untold, ⟨c.history, c.told ++ [[]]⟩)

def replies (c : Client) : List Call → List Reply
  | [] => []
  | call :: rest => (c.ask call).1 :: (c.ask call).2.replies rest

end Client

def Call.slots : Call → List Slot
  | .save fresh cluster time snapshot => [⟨⟨fresh, cluster, time⟩, snapshot⟩]
  | .list .. | .fetch .. => []

def Call.IsColumnSearch : Call → Prop
  | .list _ since till => since.IsColumnTime ∧ till.IsColumnTime
  | .save .. | .fetch .. => True

instance : DecidablePred Call.IsColumnSearch
  | .list _ since till => inferInstanceAs (Decidable (since.IsColumnTime ∧ till.IsColumnTime))
  | .save .. | .fetch .. => inferInstanceAs (Decidable True)

/-- Saves that a ring has room for and that a table keeps apart. -/
structure Fits (capacity : Nat) (saved : List Slot) : Prop where
  room : saved.length ≤ capacity
  fresh : (saved.map fun s => s.entry.id).Nodup
  named : (saved.map fun s => Entry.idOf s.entry.cluster s.entry.time).Nodup
  column : ∀ s ∈ saved, s.entry.time.IsColumnTime

namespace Fits

variable {capacity : Nat} {saved : List Slot}

theorem append_left {later : List Slot} (fits : Fits capacity (saved ++ later)) : Fits capacity saved := by
  have part : List.Sublist saved (saved ++ later) := List.sublist_append_left saved later
  constructor
  case room => exact Nat.le_trans part.length_le fits.room
  case fresh => exact fits.fresh.sublist (part.map _)
  case named => exact fits.named.sublist (part.map _)
  case column => exact fun s member => fits.column s (part.subset member)

theorem held (fits : Fits capacity saved) : (saved.foldl Ring.save (.empty capacity)).held = saved := by
  have none : saved.length - max capacity 1 = 0 := by
    have := fits.room
    omega
  rw [Ring.held_saves, none, List.drop_zero]

theorem entry_row (fits : Fits capacity saved) {s : Slot} (member : s ∈ saved) :
    s.row.entry = ⟨s.row.id, s.entry.cluster, s.entry.time⟩ :=
  History.entry_row (fits.column s member)

theorem slot_eq (fits : Fits capacity saved) {a b : Slot} (ha : a ∈ saved) (hb : b ∈ saved)
    (cluster : a.entry.cluster = b.entry.cluster) (time : a.entry.time = b.entry.time) : a = b := by
  have ids : Entry.idOf a.entry.cluster a.entry.time = Entry.idOf b.entry.cluster b.entry.time := by
    rw [cluster, time]
  exact List.inj_on_of_nodup_map fits.named ha hb ids

end Fits

section Fetching

variable {capacity : Nat} {saved : List Slot} {s : Slot}

theorem fetch_ring (fits : Fits capacity saved) (member : s ∈ saved) :
    (ring (saved.foldl Ring.save (.empty capacity))).fetch s.entry.id = .ok s.snapshot := by
  have search := (Keyed.find?_eq_some_iff fits.fresh).2 ⟨member, rfl⟩
  simp only [History.fetch, Ring.find?, fits.held, search, Option.map_some]

theorem fetch_documents {t : Table} (rows : t.rows = saved.map Slot.row) (member : s ∈ saved) :
    (documents t).fetch s.row.id = .ok s.snapshot := by
  have search : t.row? s.row.id = some s.row := by
    rw [t.row?_eq_some_iff, rows]
    exact ⟨List.mem_map_of_mem member, rfl⟩
  have payload : s.row.payload = s.snapshot.encode.print := rfl
  simp only [History.fetch, Table.get?, search, Option.map_some, payload, readSnapshot?_print]

end Fetching

section Listing

variable {capacity : Nat} {saved : List Slot} (cluster : String) (since till : Instant)

def chronicle (saved : List Slot) (cluster : String) (since till : Instant) : List Slot :=
  (saved.filter fun s => s.entry.cluster = cluster && since ≤ s.entry.time && s.entry.time ≤ till).mergeSort
    fun a b => a.entry.time ≤ b.entry.time

theorem chronicle_subset : chronicle saved cluster since till ⊆ saved := by
  intro s member
  exact List.mem_of_mem_filter (List.mem_mergeSort.1 member)

theorem entries_ring (fits : Fits capacity saved) :
    (ring (saved.foldl Ring.save (.empty capacity))).entries cluster since till =
      (chronicle saved cluster since till).map Slot.entry := by
  rw [entries, Ring.list, fits.held, List.filter_map, chronicle, List.map_mergeSort (s := fun a b => a.time ≤ b.time)]
  · rfl
  · intro a _ b _
    rfl

theorem allows_row {s : Slot} (column : s.entry.time.IsColumnTime) (low : since.IsColumnTime) (high : till.IsColumnTime) :
    Filter.allows ⟨some cluster, .included since, .included till⟩ s.row =
      (s.entry.cluster = cluster && since ≤ s.entry.time && s.entry.time ≤ till) := by
  have time : Instant.ofNanos s.row.nanos = s.entry.time := time_row column
  have after := Bound.allowsFrom_included since s.row.nanos
  have before := Bound.allowsTo_included till s.row.nanos
  rw [time, Instant.clamped_of_column low] at after
  rw [time, Instant.clamped_of_column high] at before
  rw [Filter.allows, Bool.eq_iff_iff]
  simp only [Option.all_some, Bool.and_eq_true, decide_eq_true_eq, after, before]
  rw [eq_comm]
  rfl

theorem mergeSort_rowBefore (fits : Fits capacity saved) :
    (saved.filter fun s => s.entry.cluster = cluster && since ≤ s.entry.time && s.entry.time ≤ till).mergeSort
      (fun a b => Table.rowBefore a.row b.row) = chronicle saved cluster since till := by
  -- Rows by time and id are in the order of the saves by time, as no two saves of a cluster are of one time.
  rw [chronicle]
  generalize chosen : (saved.filter fun s => s.entry.cluster = cluster && since ≤ s.entry.time && s.entry.time ≤ till) = part
  have inside : ∀ s ∈ part, s ∈ saved ∧ s.entry.cluster = cluster := by
    intro s member
    rw [← chosen, List.mem_filter, Bool.and_eq_true, Bool.and_eq_true, decide_eq_true_eq] at member
    exact ⟨member.1, member.2.1.1⟩
  have byRow : (part.mergeSort fun a b => Table.rowBefore a.row b.row).Pairwise fun a b => a.entry.time ≤ b.entry.time := by
    have trans (a b c : Slot) : Table.rowBefore a.row b.row → Table.rowBefore b.row c.row → Table.rowBefore a.row c.row :=
      Table.rowBefore_trans a.row b.row c.row
    have total (a b : Slot) : Table.rowBefore a.row b.row || Table.rowBefore b.row a.row :=
      Table.rowBefore_total a.row b.row
    have sorted := List.pairwise_mergeSort trans total part
    refine sorted.imp_of_mem fun {a b} ha hb before => ?_
    have timeA := time_row (fits.column a (inside a (List.mem_mergeSort.1 ha)).1)
    have timeB := time_row (fits.column b (inside b (List.mem_mergeSort.1 hb)).1)
    rw [← timeA, ← timeB]
    exact Instant.ofNanos_le_iff.2 (Table.nanos_le_of_rowBefore before)
  have byTime : (part.mergeSort fun a b => a.entry.time ≤ b.entry.time).Pairwise fun a b => a.entry.time ≤ b.entry.time :=
    Sorting.pairwise_mergeSort_by_key Instant.le_trans Instant.le_total part
  refine List.Perm.eq_of_pairwise ?_ byRow byTime ((List.mergeSort_perm _ _).trans (List.mergeSort_perm _ _).symm)
  intro a b ha hb ab ba
  obtain ⟨thereA, clusterA⟩ := inside a (List.mem_mergeSort.1 ha)
  obtain ⟨thereB, clusterB⟩ := inside b (List.mem_mergeSort.1 hb)
  exact fits.slot_eq thereA thereB (clusterA.trans clusterB.symm) (Instant.le_antisymm ab ba)

theorem entries_documents (fits : Fits capacity saved) {t : Table} (rows : t.rows = saved.map Slot.row)
    (low : since.IsColumnTime) (high : till.IsColumnTime) :
    (documents t).entries cluster since till = (chronicle saved cluster since till).map fun s => s.row.entry := by
  have chosen : (saved.filter fun s => Filter.allows ⟨some cluster, .included since, .included till⟩ s.row) =
      saved.filter fun s => s.entry.cluster = cluster && since ≤ s.entry.time && s.entry.time ≤ till :=
    List.filter_congr fun s member => allows_row cluster since till (fits.column s member) low high
  rw [entries, Table.query, rows, List.filter_map, ← mergeSort_rowBefore cluster since till fits, ← chosen,
    ← List.map_mergeSort (r := fun a b : Slot => Table.rowBefore a.row b.row) (f := Slot.row), List.map_map]
  · rfl
  · intro a _ b _
    rfl

end Listing

theorem rel_getElem? {α β : Type} {R : α → β → Prop} {xs : List α} {ys : List β} (same : List.Forall₂ R xs ys) (i : Nat) :
    Option.Rel R xs[i]? ys[i]? := by
  induction same generalizing i with
  | nil => exact .none
  | cons first _ ih =>
    cases i with
    | zero => exact .some first
    | succ i => exact ih i

/-- One history keeps the saves in a ring and the other in a table, and what they have told was told about the same
saves. -/
structure Twins (capacity : Nat) (saved : List Slot) (a b : Client) : Prop where
  ring : a.history = .ring (saved.foldl Ring.save (.empty capacity))
  table : ∃ t : Table, b.history = .documents t ∧ t.rows = saved.map Slot.row
  told : List.Forall₂ (List.Forall₂ fun x y => ∃ s ∈ saved, x = s.entry.id ∧ y = s.row.id) a.told b.told

def Alike (capacity : Nat) (saved : List Slot) (a b : Client) (call : Call) : Prop :=
  (a.ask call).1 = (b.ask call).1 ∧ (a.ask call).1.IsSuccess ∧
    Twins capacity (saved ++ call.slots) (a.ask call).2 (b.ask call).2

namespace Twins

variable {capacity : Nat} {saved : List Slot} {a b : Client}

theorem start : Twins capacity [] ⟨.ring (.empty capacity), []⟩ ⟨.documents ∅, []⟩ where
  ring := rfl
  table := ⟨∅, rfl, rfl⟩
  told := .nil

theorem told_append {new : List Slot} {ids ids' : List Uuid} (here : Twins capacity saved a b)
    (same : List.Forall₂ (fun x y => ∃ s ∈ saved ++ new, x = s.entry.id ∧ y = s.row.id) ids ids') :
    List.Forall₂ (List.Forall₂ fun x y => ∃ s ∈ saved ++ new, x = s.entry.id ∧ y = s.row.id) (a.told ++ [ids])
      (b.told ++ [ids']) := by
  refine List.rel_append (here.told.imp fun _ _ answer => answer.imp ?_) (.cons same .nil)
  rintro x y ⟨s, member, both⟩
  exact ⟨s, List.mem_append_left new member, both⟩

theorem save {fresh : Uuid} {cluster : String} {time : Instant} {snapshot : Snapshot} (here : Twins capacity saved a b)
    (fits : Fits capacity (saved ++ (Call.save fresh cluster time snapshot).slots)) :
    Alike capacity saved a b (.save fresh cluster time snapshot) := by
  obtain ⟨t, history, rows⟩ := here.table
  let slot : Slot := ⟨⟨fresh, cluster, time⟩, snapshot⟩
  have column : slot.entry.time.IsColumnTime := fits.column slot (List.mem_append_right _ (List.mem_singleton_self _))
  have new : slot.row.id ∉ t.rows.map Row.id := by
    have apart := fits.named
    rw [List.map_append, List.nodup_append] at apart
    rw [rows, List.map_map]
    intro member
    exact apart.2.2 _ member _ (List.mem_singleton_self _) rfl
  have put : b.history.save fresh cluster time snapshot = .ok (slot.row.id, .documents (t.insert slot.row)) := by
    have kept := t.put_documentOf (s := slot) column.2
    rw [history, History.save]
    simp only [slot] at kept
    rw [kept]
    rfl
  have ringSave : a.history.save fresh cluster time snapshot =
      .ok (fresh, .ring ((saved ++ [slot]).foldl Ring.save (.empty capacity))) := by
    rw [here.ring, List.foldl_append]
    rfl
  have told := here.told_append
    (.cons ⟨slot, List.mem_append_right saved (List.mem_singleton_self slot), rfl, rfl⟩ .nil)
  refine ⟨?_, ?_, ?_⟩
  · simp only [Client.ask, ringSave, put]
  · simp only [Client.ask, ringSave, Reply.IsSuccess]
  · simp only [Client.ask, ringSave, put]
    refine ⟨rfl, ⟨_, rfl, ?_⟩, told⟩
    rw [t.rows_insert_of_fresh new, rows, List.map_append]
    rfl

theorem list {cluster : String} {since till : Instant} (here : Twins capacity saved a b) (fits : Fits capacity saved)
    (low : since.IsColumnTime) (high : till.IsColumnTime) : Alike capacity saved a b (.list cluster since till) := by
  obtain ⟨t, history, rows⟩ := here.table
  have listed := entries_ring cluster since till fits
  have found := entries_documents cluster since till fits rows low high
  rw [← here.ring] at listed
  rw [← history] at found
  have chosen : chronicle saved cluster since till ⊆ saved := chronicle_subset cluster since till
  generalize chronicle saved cluster since till = chosenSlots at listed found chosen
  have keys : (chosenSlots.map Slot.entry).map (fun e => (e.cluster, e.time)) =
      (chosenSlots.map fun s => s.row.entry).map fun e => (e.cluster, e.time) := by
    rw [List.map_map, List.map_map]
    apply List.map_congr_left
    intro s member
    simp only [Function.comp_apply, fits.entry_row (chosen member)]
  have told : List.Forall₂ (fun x y => ∃ s ∈ saved ++ [], x = s.entry.id ∧ y = s.row.id)
      ((chosenSlots.map Slot.entry).map Entry.id) ((chosenSlots.map fun s => s.row.entry).map Entry.id) := by
    rw [List.map_map, List.map_map, List.forall₂_map_left_iff, List.forall₂_map_right_iff, List.forall₂_same]
    intro s member
    exact ⟨s, List.mem_append_left _ (chosen member), rfl, rfl⟩
  refine ⟨?_, trivial, ?_⟩
  · simp only [Client.ask, listed, found, keys]
  · simp only [Client.ask, listed, found]
    refine ⟨?_, ⟨t, history, ?_⟩, here.told_append told⟩
    · rw [here.ring, Call.slots, List.append_nil]
    · rw [rows, Call.slots, List.append_nil]

theorem rel_idAt? (here : Twins capacity saved a b) (answer place : Nat) :
    Option.Rel (fun x y => ∃ s ∈ saved, x = s.entry.id ∧ y = s.row.id) (a.idAt? answer place) (b.idAt? answer place) := by
  have answers := rel_getElem? here.told answer
  unfold Client.idAt?
  generalize a.told[answer]? = left, b.told[answer]? = right at answers ⊢
  cases answers with
  | none => exact .none
  | some ids => exact rel_getElem? ids place

theorem fetch {answer place : Nat} (here : Twins capacity saved a b) (fits : Fits capacity saved) :
    Alike capacity saved a b (.fetch answer place) := by
  obtain ⟨t, history, rows⟩ := here.table
  have onward : Twins capacity (saved ++ []) ⟨a.history, a.told ++ [[]]⟩ ⟨b.history, b.told ++ [[]]⟩ := by
    refine ⟨?_, ⟨t, history, ?_⟩, here.told_append .nil⟩
    · rw [here.ring, List.append_nil]
    · rw [rows, List.append_nil]
  have same := here.rel_idAt? answer place
  generalize told : a.idAt? answer place = x, told' : b.idAt? answer place = y at same
  cases same with
  | none =>
    simp only [Alike, Client.ask, told, told']
    exact ⟨trivial, trivial, onward⟩
  | some both =>
    obtain ⟨s, member, rfl, rfl⟩ := both
    have left : a.history.fetch s.entry.id = .ok s.snapshot := by
      rw [here.ring]
      exact fetch_ring fits member
    have right : b.history.fetch s.row.id = .ok s.snapshot := by
      rw [history]
      exact fetch_documents rows member
    simp only [Alike, Client.ask, told, told', left, right]
    exact ⟨trivial, trivial, onward⟩

theorem step {call : Call} (here : Twins capacity saved a b) (fits : Fits capacity (saved ++ call.slots))
    (search : call.IsColumnSearch) : Alike capacity saved a b call := by
  cases call with
  | save fresh cluster time snapshot => exact here.save fits
  | list cluster since till => exact here.list fits.append_left search.1 search.2
  | fetch answer place => exact here.fetch fits.append_left

theorem run (calls : List Call) (here : Twins capacity saved a b) (fits : Fits capacity (saved ++ calls.flatMap Call.slots))
    (search : ∀ call ∈ calls, call.IsColumnSearch) :
    a.replies calls = b.replies calls ∧ ∀ reply ∈ a.replies calls, reply.IsSuccess := by
  -- The saves of the calls that are done move over to what both have kept.
  induction calls generalizing saved a b with
  | nil => exact ⟨rfl, fun _ member => absurd member List.not_mem_nil⟩
  | cons call rest ih =>
    rw [List.flatMap_cons, ← List.append_assoc] at fits
    obtain ⟨same, success, next⟩ := here.step fits.append_left (search call List.mem_cons_self)
    obtain ⟨later, successes⟩ := ih next fits fun c member => search c (List.mem_cons_of_mem _ member)
    rw [Client.replies, Client.replies, same, later]
    rw [later] at successes
    rw [same] at success
    exact ⟨rfl, List.forall_mem_cons.2 ⟨success, successes⟩⟩

end Twins

theorem backends_reply_alike (capacity : Nat) (calls : List Call) (fits : Fits capacity (calls.flatMap Call.slots))
    (search : ∀ call ∈ calls, call.IsColumnSearch) :
    (Client.mk (.ring (.empty capacity)) []).replies calls = (Client.mk (documents ∅) []).replies calls ∧
      ∀ reply ∈ (Client.mk (.ring (.empty capacity)) []).replies calls, reply.IsSuccess :=
  Twins.start.run calls fits search

def twoSaves : List Call :=
  let early : Instant := Instant.ofNanos 1488369600000000000
  let late : Instant := Instant.ofNanos 1488369600000000001
  [.save ⟨1⟩ "prod" late { warnings := ["first"] }, .save ⟨2⟩ "prod" early { warnings := ["second"] },
    .list "prod" early late, .fetch 0 0, .fetch 2 0]

theorem two_saves_reply_alike :
    Fits 2 (twoSaves.flatMap Call.slots) ∧ (∀ call ∈ twoSaves, call.IsColumnSearch) ∧
      (Client.mk (.ring (.empty 2)) []).replies twoSaves = (Client.mk (documents ∅) []).replies twoSaves ∧
        ∀ reply ∈ (Client.mk (.ring (.empty 2)) []).replies twoSaves, reply.IsSuccess :=
  have fits : Fits 2 (twoSaves.flatMap Call.slots) := ⟨by decide, by decide, by decide +kernel, by decide⟩
  have search : ∀ call ∈ twoSaves, call.IsColumnSearch := by decide
  ⟨fits, search, backends_reply_alike 2 twoSaves fits search⟩

end ClusterWatch.History
