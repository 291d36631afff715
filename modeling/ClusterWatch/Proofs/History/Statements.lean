import ClusterWatch.Proofs.History.Columns
import ClusterWatch.Proofs.History.Documents
import ClusterWatch.Proofs.Tasks

namespace ClusterWatch.History

open Tasks

def Row.pair (r : Row) : String × Instant :=
  (r.cluster, r.entry.time)

def Table.lost (t next : Table) : List Row :=
  t.rows.filter fun r => r.id ∉ next.rows.map Row.id

structure Journal where
  table : Table
  saved : List (String × Instant) := []
  deleted : List Row := []

def Journal.turn (j : Journal) (saved : List (String × Instant)) (next : Table) : Journal :=
  ⟨next, j.saved ++ saved, j.deleted ++ j.table.lost next⟩

structure Removal where
  seen : Journal
  left : List (List Uuid)
  count : Nat := 0
  deleted : List Row := []

inductive Stage where
  | waiting
  | removing (p : Removal)
  | answered (a : Answer)

def Stage.answer? : Stage → Option Answer
  | .waiting => none
  | .removing p => if p.left = [] then some (.removed p.count) else none
  | .answered a => some a

def Stage.count : Stage → Nat
  | .removing p => p.count
  | _ => 0

def Stage.deleted : Stage → List Row
  | .removing p => p.deleted
  | _ => []

def Request.IsRemoval : Request → Prop
  | .remove _ => True
  | _ => False

def Removal.begin (j : Journal) (cutoff : Instant) : Removal :=
  let ids := (expired j.table cutoff).map Entry.id
  { seen := j, left := Table.chunks Table.chunkSize ids.length ids }

def Removal.next (p : Removal) (j : Journal) (chunk : List Uuid) (rest : List (List Uuid)) : Removal :=
  { p with
    left := rest
    count := p.count + (j.table.deleteChunk chunk).1
    deleted := p.deleted ++ j.table.lost (j.table.deleteChunk chunk).2 }

inductive Statement : Work Journal Request Stage where
  | whole {request : Request} {j : Journal} (single : ¬ request.IsRemoval) :
      Statement request (j, .waiting)
        (j.turn (savedPairs [request]) (j.table.after request), .answered ((documents j.table).answer request).1)
  | search {cutoff : Instant} {j : Journal} :
      Statement (.remove cutoff) (j, .waiting) (j, .removing (.begin j cutoff))
  | delete {cutoff : Instant} {j : Journal} {p : Removal} {chunk : List Uuid} {rest : List (List Uuid)}
      (next : p.left = chunk :: rest) :
      Statement (.remove cutoff) (j, .removing p)
        (j.turn [] (j.table.deleteChunk chunk).2, .removing (p.next j chunk rest))

namespace Table

variable (t : Table)

theorem lost_eq_nil {next : Table} (kept : ∀ r ∈ t.rows, r.id ∈ next.rows.map Row.id) : t.lost next = [] := by
  apply List.filter_eq_nil_iff.2
  intro r member gone
  exact of_decide_eq_true gone (kept r member)

theorem lost_self : t.lost t = [] :=
  t.lost_eq_nil fun _ member => List.mem_map_of_mem member

theorem lost_after {request : Request} (single : ¬ request.IsRemoval) : t.lost (t.after request) = [] := by
  cases request with
  | save fresh cluster time snapshot =>
    by_cases fits : time.FitsColumn
    · rw [t.after_save fresh cluster snapshot fits]
      apply lost_eq_nil
      intro r member
      rw [List.mem_map]
      by_cases same : r.id = (Slot.row ⟨⟨fresh, cluster, time⟩, snapshot⟩).id
      · exact ⟨_, t.mem_insert_iff.2 (Or.inl rfl), same.symm⟩
      · exact ⟨r, t.mem_insert_iff.2 (Or.inr ⟨member, same⟩), rfl⟩
    · rw [t.after_save_beyond fresh cluster snapshot fits, lost_self]
  | list cluster since till => exact t.lost_self
  | fetch id => exact t.lost_self
  | remove cutoff => exact absurd trivial single

theorem lost_deleteChunk (ids : List Uuid) :
    t.lost (t.deleteChunk ids).2 = t.rows.filter fun r => r.id ∈ ids := by
  apply List.filter_congr
  intro r member
  rw [decide_eq_decide]
  constructor
  · intro gone
    by_contra stays
    have kept : r ∈ (t.deleteChunk ids).2.rows := List.mem_filter.2 ⟨member, decide_eq_true stays⟩
    exact gone (List.mem_map_of_mem kept)
  · intro named kept
    obtain ⟨other, there, same⟩ := List.mem_map.1 kept
    have stays := of_decide_eq_true (List.mem_filter.1 there).2
    exact stays (same ▸ named)

theorem lost_append_deleteChunk (ids : List Uuid) :
    (t.lost (t.deleteChunk ids).2 ++ (t.deleteChunk ids).2.rows).Perm t.rows := by
  have kept : (t.deleteChunk ids).2.rows = t.rows.filter fun r => !decide (r.id ∈ ids) := by
    simp only [deleteChunk, decide_not]
  rw [lost_deleteChunk, kept]
  exact List.filter_append_perm _ _

theorem length_lost_deleteChunk (ids : List Uuid) :
    (t.lost (t.deleteChunk ids).2).length = (t.deleteChunk ids).1 := by
  have all := (t.lost_append_deleteChunk ids).length_eq
  have counted := t.length_deleteChunk ids
  rw [List.length_append] at all
  omega

theorem id_not_mem_deleteChunk {ids : List Uuid} {id : Uuid} (named : id ∈ ids) :
    id ∉ (t.deleteChunk ids).2.rows.map Row.id := by
  intro kept
  obtain ⟨r, there, rfl⟩ := List.mem_map.1 kept
  exact of_decide_eq_true (List.mem_filter.1 there).2 named

end Table

structure Turns (j j' : Journal) (new : List (String × Instant)) : Prop where
  saved : j'.saved = j.saved ++ new
  rows : ∀ r ∈ j'.table.rows, r ∈ j.table.rows ∨ (r.pair ∈ new ∧ r.id = Entry.idOf r.cluster r.entry.time)

def Rooted (pairs : List (String × Instant)) (t : Table) : Prop :=
  ∀ r ∈ t.rows, r.pair ∈ pairs ∧ r.id = Entry.idOf r.cluster r.entry.time

section One

variable {pairs : List (String × Instant)} {request : Request} {j j' : Journal} {a b : Stage}

theorem Rooted.pair_eq {t u : Table} (apart : TellsApart pairs) (ht : Rooted pairs t) (hu : Rooted pairs u) {r x : Row}
    (hr : r ∈ t.rows) (hx : x ∈ u.rows) (same : r.id = x.id) : r.pair = x.pair := by
  obtain ⟨pairR, idR⟩ := ht r hr
  obtain ⟨pairX, idX⟩ := hu x hx
  exact apart _ pairR _ pairX (idR.symm.trans (same.trans idX))

theorem Statement.turns (ordinary : ∀ s ∈ savedBy [request], s.entry.time.isLeap = false)
    (step : Statement request (j, a) (j', b)) : ∃ new ⊆ savedPairs [request], Turns j j' new := by
  cases step with
  | whole single =>
    refine ⟨_, List.Subset.refl _, rfl, fun r member => ?_⟩
    rcases Table.mem_of_mem_after _ member with old | ⟨s, saved, fits, rfl⟩
    · exact Or.inl old
    · have time : s.row.entry.time = s.entry.time := time_row ⟨ordinary s saved, fits⟩
      refine Or.inr ⟨?_, by rw [time]; rfl⟩
      rw [Row.pair, time]
      exact List.mem_map.2 ⟨s, List.mem_filter.2 ⟨saved, decide_eq_true fits⟩, rfl⟩
  | search => exact ⟨[], List.nil_subset _, (List.append_nil _).symm, fun r member => Or.inl member⟩
  | delete next =>
    refine ⟨[], List.nil_subset _, rfl, fun r member => ?_⟩
    exact Or.inl (List.mem_of_mem_filter member)

theorem Turns.rooted {new : List (String × Instant)} (turns : Turns j j' new) (inside : new ⊆ pairs)
    (here : Rooted pairs j.table) : Rooted pairs j'.table := by
  intro r member
  rcases turns.rows r member with old | ⟨saved, id⟩
  · exact here r old
  · exact ⟨inside saved, id⟩

theorem subperm_pairs_insert {t : Table} {row : Row} (same : ∀ r ∈ t.rows, r.id = row.id → r.pair = row.pair) :
    ((t.insert row).rows.map Row.pair).Subperm (t.rows.map Row.pair ++ [row.pair]) := by
  by_cases fresh : row.id ∈ t.rows.map Row.id
  · have kept : (t.insert row).rows.map Row.pair = t.rows.map Row.pair := Table.map_place fresh same
    rw [kept]
    exact (List.sublist_append_left _ _).subperm
  · rw [t.rows_insert_of_fresh fresh, List.map_append]
    exact List.Subperm.refl _

theorem subperm_pairs_after {t : Table} (apart : TellsApart pairs) (here : Rooted pairs t)
    (inside : savedPairs [request] ⊆ pairs) (ordinary : ∀ s ∈ savedBy [request], s.entry.time.isLeap = false)
    (single : ¬ request.IsRemoval) :
    ((t.after request).rows.map Row.pair).Subperm (t.rows.map Row.pair ++ savedPairs [request]) := by
  have unchanged : (t.rows.map Row.pair).Subperm (t.rows.map Row.pair ++ savedPairs [request]) :=
    (List.sublist_append_left _ _).subperm
  cases request with
  | save fresh cluster time snapshot =>
    by_cases fits : time.FitsColumn
    · let slot : Slot := ⟨⟨fresh, cluster, time⟩, snapshot⟩
      have column : slot.entry.time.IsColumnTime := ⟨ordinary slot (List.mem_singleton_self _), fits⟩
      have new : savedPairs [.save fresh cluster time snapshot] = [slot.row.pair] := by
        simp only [savedPairs, savedBy, List.filter_cons, fits, decide_true, if_true, List.filter_nil, List.map_cons,
          List.map_nil, Row.pair, entry_row column]
        rfl
      rw [t.after_save fresh cluster snapshot fits, new]
      refine subperm_pairs_insert fun r member same => ?_
      have pair : slot.row.pair ∈ pairs := inside (by rw [new]; exact List.mem_singleton_self _)
      have id : slot.row.id = Entry.idOf slot.row.cluster slot.row.entry.time := by
        rw [entry_row column]
        rfl
      exact apart _ (here r member).1 _ pair ((here r member).2.symm.trans (same.trans id))
    · rw [t.after_save_beyond fresh cluster snapshot fits]
      exact unchanged
  | list cluster since till => exact unchanged
  | fetch id => exact unchanged
  | remove cutoff => exact absurd trivial single

def Journal.IsBalanced (j : Journal) : Prop :=
  ((j.deleted ++ j.table.rows).map Row.pair).Subperm j.saved

theorem Statement.balanced (step : Statement request (j, a) (j', b)) (apart : TellsApart pairs)
    (here : Rooted pairs j.table) (inside : savedPairs [request] ⊆ pairs)
    (ordinary : ∀ s ∈ savedBy [request], s.entry.time.isLeap = false) (old : j.IsBalanced) : j'.IsBalanced := by
  cases step with
  | whole single =>
    have rows := subperm_pairs_after apart here inside ordinary single
    simp only [Journal.IsBalanced, Journal.turn, j.table.lost_after single, List.append_nil, List.map_append] at old ⊢
    -- The new row stands behind what has been deleted and what was there, as the new save does.
    have first := (List.subperm_append_left (j.deleted.map Row.pair)).2 rows
    rw [← List.append_assoc] at first
    exact first.trans ((List.subperm_append_right _).2 old)
  | search => exact old
  | @delete _ _ p chunk rest next =>
    have parts := j.table.lost_append_deleteChunk chunk
    simp only [Journal.IsBalanced, Journal.turn, List.append_nil, List.append_assoc] at old ⊢
    exact (((parts.append_left j.deleted).map Row.pair).subperm).trans old

theorem Statement.traced (step : Statement request (j, a) (j', b)) :
    ∃ new, j'.deleted = j.deleted ++ new ∧ b.deleted = a.deleted ++ new := by
  cases step with
  | whole single =>
    refine ⟨[], ?_, rfl⟩
    rw [Journal.turn, j.table.lost_after single]
  | search => exact ⟨[], (List.append_nil _).symm, rfl⟩
  | delete next => exact ⟨_, rfl, rfl⟩

end One

/-- What it has found and not yet deleted is still old, and what else it has found is gone or has been saved again. -/
structure Pending (pairs : List (String × Instant)) (cutoff : Instant) (j : Journal) (p : Removal) : Prop where
  rooted : Rooted pairs p.seen.table
  since : p.seen.saved <+: j.saved
  left : ∀ id ∈ p.left.flatten, ∃ r ∈ p.seen.table.rows, r.id = id ∧ r.entry.time < cutoff.clamped
  deleted : ∀ r ∈ p.deleted, r.entry.time < cutoff.clamped
  counted : p.count = p.deleted.length
  found : ∀ r ∈ p.seen.table.rows, r.entry.time < cutoff.clamped → r.id ∈ p.left.flatten ∨
    r.pair ∈ j.saved.drop p.seen.saved.length ∨ r.id ∉ j.table.rows.map Row.id

namespace Pending

variable {pairs : List (String × Instant)} {cutoff : Instant} {j j' : Journal} {p : Removal}

theorem begin (cutoff : Instant) (here : Rooted pairs j.table) : Pending pairs cutoff j (.begin j cutoff) := by
  have left : (Removal.begin j cutoff).left.flatten = (expired j.table cutoff).map Entry.id :=
    Table.flatten_chunks (by decide) _ _ (Nat.le_refl _)
  constructor
  case rooted => exact here
  case since => exact List.prefix_refl _
  case left =>
    intro id member
    rw [left, expired, Table.query_eq_map_found, List.map_map] at member
    obtain ⟨r, found, same⟩ := List.mem_map.1 member
    obtain ⟨there, before⟩ := (j.table.mem_found_expired_iff cutoff).1 found
    exact ⟨r, there, same, before⟩
  case deleted => exact fun r member => absurd member List.not_mem_nil
  case counted => rfl
  case found =>
    intro r member before
    rw [left]
    exact Or.inl ((j.table.id_mem_expired_clamped_iff cutoff member).2 before)

theorem turn {new : List (String × Instant)} (here : Pending pairs cutoff j p) (apart : TellsApart pairs)
    (turns : Turns j j' new) (inside : new ⊆ pairs) : Pending pairs cutoff j' p := by
  have longer : j'.saved.drop p.seen.saved.length = j.saved.drop p.seen.saved.length ++ new := by
    rw [turns.saved, List.drop_append_of_le_length here.since.length_le]
  constructor
  case rooted => exact here.rooted
  case since => exact turns.saved ▸ here.since.trans (List.prefix_append _ _)
  case left => exact here.left
  case deleted => exact here.deleted
  case counted => exact here.counted
  case found =>
    intro r member before
    rw [longer, List.mem_append]
    rcases here.found r member before with left | saved | gone
    · exact Or.inl left
    · exact Or.inr (Or.inl (Or.inl saved))
    · by_cases back : r.id ∈ j'.table.rows.map Row.id
      · obtain ⟨x, there, same⟩ := List.mem_map.1 back
        rcases turns.rows x there with old | ⟨saved, id⟩
        · exact absurd (List.mem_map.2 ⟨x, old, same⟩) gone
        · obtain ⟨pair, idR⟩ := here.rooted r member
          have equal := apart _ (inside saved) _ pair (id.symm.trans (same.trans idR))
          rw [← equal]
          exact Or.inr (Or.inl (Or.inr saved))
      · exact Or.inr (Or.inr back)

theorem next {chunk : List Uuid} {rest : List (List Uuid)} (here : Pending pairs cutoff j p) (apart : TellsApart pairs)
    (table : Rooted pairs j.table) (more : p.left = chunk :: rest) :
    Pending pairs cutoff (j.turn [] (j.table.deleteChunk chunk).2) (p.next j chunk rest) := by
  have turns : Turns j (j.turn [] (j.table.deleteChunk chunk).2) [] :=
    ⟨rfl, fun r member => Or.inl (List.mem_of_mem_filter member)⟩
  have after := here.turn apart turns (List.nil_subset _)
  have whole : p.left.flatten = chunk ++ rest.flatten := by
    rw [more, List.flatten_cons]
  constructor
  case rooted => exact after.rooted
  case since => exact after.since
  case left =>
    intro id member
    exact after.left id (whole ▸ List.mem_append_right _ member)
  case deleted =>
    intro r member
    rcases List.mem_append.1 member with earlier | gone
    · exact after.deleted r earlier
    · rw [Table.lost_deleteChunk, List.mem_filter, decide_eq_true_iff] at gone
      obtain ⟨there, named⟩ := gone
      obtain ⟨x, found, same, before⟩ := after.left r.id (whole ▸ List.mem_append_left _ named)
      have time : r.entry.time = x.entry.time :=
        congrArg Prod.snd (table.pair_eq apart here.rooted there found same.symm)
      rwa [time]
  case counted =>
    have counted := here.counted
    have new := j.table.length_lost_deleteChunk chunk
    simp only [Removal.next, List.length_append]
    omega
  case found =>
    intro r member before
    rcases after.found r member before with left | other
    · rw [whole, List.mem_append] at left
      rcases left with named | later
      · exact Or.inr (Or.inr (j.table.id_not_mem_deleteChunk named))
      · exact Or.inl later
    · exact Or.inr other

end Pending

/-- How a removal stands once it has looked, with what there is now. What is saved after it has looked stands behind what
had been saved before. -/
structure Removal.IsSafe (cutoff : Instant) (j : Journal) (p : Removal) : Prop where
  since : p.seen.saved <+: j.saved
  deletes : ∀ r ∈ p.deleted, r.entry.time < cutoff ∧ ¬ (.columnEnd < cutoff ∧ r.entry.time = .columnEnd)
  counts : p.count = p.deleted.length
  clears : p.left = [] → ∀ r ∈ p.seen.table.rows, r.entry.time < cutoff →
    ¬ (.columnEnd < cutoff ∧ r.entry.time = .columnEnd) →
    r.pair ∉ j.saved.drop p.seen.saved.length → ∀ x ∈ j.table.rows, x.pair ≠ r.pair

structure RemovalsAreSafe (u : Tasks Journal Request Stage) : Prop where
  each : ∀ cutoff p, (Request.remove cutoff, Stage.removing p) ∈ u.slots → p.IsSafe cutoff u.shared
  shared : u.shared.deleted.Perm (u.slots.flatMap fun slot => slot.2.deleted)
  once : u.shared.IsBalanced
  total : (u.slots.map fun slot => slot.2.count).sum = u.shared.deleted.length

def Stage.Sound (pairs : List (String × Instant)) (j : Journal) (request : Request) : Stage → Prop
  | .removing p => ∃ cutoff, request = .remove cutoff ∧ Pending pairs cutoff j p
  | _ => True

section Runs

variable {pairs : List (String × Instant)} {requests : List Request} {request : Request} {j j' : Journal} {a b : Stage}

theorem savedPairs_subset (member : request ∈ requests) : savedPairs [request] ⊆ savedPairs requests := by
  intro pair saved
  obtain ⟨s, kept, rfl⟩ := List.mem_map.1 saved
  obtain ⟨inside, fits⟩ := List.mem_filter.1 kept
  exact List.mem_map.2 ⟨s, List.mem_filter.2 ⟨savedBy_subset member inside, fits⟩, rfl⟩

theorem Statement.keeps (step : Statement request (j, a) (j', b)) (apart : TellsApart pairs) (table : Rooted pairs j.table)
    (sound : a.Sound pairs j request) : b.Sound pairs j' request := by
  cases step with
  | whole => trivial
  | search => exact ⟨_, rfl, .begin _ table⟩
  | delete next =>
    obtain ⟨cutoff, same, pending⟩ := sound
    cases same
    exact ⟨_, rfl, pending.next apart table next⟩

theorem Turns.keeps {new : List (String × Instant)} (turns : Turns j j' new) (inside : new ⊆ pairs)
    (apart : TellsApart pairs) (sound : a.Sound pairs j request) : a.Sound pairs j' request := by
  cases a with
  | removing p =>
    obtain ⟨cutoff, same, pending⟩ := sound
    exact ⟨cutoff, same, pending.turn apart turns inside⟩
  | waiting => trivial
  | answered => trivial

theorem sound_of_run (ordinary : ∀ s ∈ savedBy requests, s.entry.time.isLeap = false)
    (apart : TellsApart (savedPairs requests)) {u : Tasks Journal Request Stage}
    (run : Run Statement (begin .waiting requests ⟨∅, [], []⟩) u) :
    (Rooted (savedPairs requests) u.shared.table ∧ u.shared.IsBalanced) ∧ ∀ slot ∈ u.slots,
      slot.1 ∈ requests ∧ slot.2.Sound (savedPairs requests) u.shared slot.1 := by
  have plain : ∀ {request}, request ∈ requests → ∀ s ∈ savedBy [request], s.entry.time.isLeap = false :=
    fun member s saved => ordinary s (savedBy_subset member saved)
  -- What a removal relies on is that nobody puts in a row under the id of another cluster or time.
  refine run.keeps_stable (fun j => Rooted (savedPairs requests) j.table ∧ j.IsBalanced)
    (fun j request a => request ∈ requests ∧ a.Sound (savedPairs requests) j request) ?_ ?_ ?_ ?_
  · intro request j a j' b step old here
    obtain ⟨new, own, turns⟩ := step.turns (plain here.1)
    have inside := savedPairs_subset here.1
    exact ⟨⟨turns.rooted (List.Subset.trans own inside) old.1, step.balanced apart old.1 inside (plain here.1) old.2⟩, here.1,
      step.keeps apart old.1 here.2⟩
  · intro request j a j' b step old here other c sound
    obtain ⟨new, own, turns⟩ := step.turns (plain here.1)
    exact ⟨sound.1, turns.keeps (List.Subset.trans own (savedPairs_subset here.1)) apart sound.2⟩
  · exact ⟨fun r member => absurd member List.not_mem_nil, List.nil_subperm⟩
  · exact fun request member => ⟨member, trivial⟩

theorem Pending.isSafe {cutoff : Instant} {p : Removal} (here : Pending pairs cutoff j p) (table : Rooted pairs j.table)
    (plain : cutoff.isLeap = false) : p.IsSafe cutoff j := by
  have expires (r : Row) : r.entry.time < cutoff.clamped ↔
      r.entry.time < cutoff ∧ ¬ (.columnEnd < cutoff ∧ r.entry.time = .columnEnd) :=
    Instant.lt_clamped_iff plain (Instant.columnStart_le r.nanos) (Instant.le_columnEnd r.nanos)
  constructor
  case since => exact here.since
  case deletes => exact fun r member => (expires r).1 (here.deleted r member)
  case counts => exact here.counted
  case clears =>
    intro done r member before inside fresh x there same
    rcases here.found r member ((expires r).2 ⟨before, inside⟩) with left | saved | gone
    · rw [done] at left
      exact List.not_mem_nil left
    · exact fresh saved
    · -- A row of the same cluster and time has the same id.
      apply gone
      have cluster : r.cluster = x.cluster := (congrArg Prod.fst same).symm
      have time : r.entry.time = x.entry.time := (congrArg Prod.snd same).symm
      rw [(here.rooted r member).2, cluster, time, ← (table x there).2]
      exact List.mem_map_of_mem there

theorem removalsAreSafe_of_run (ordinary : ∀ s ∈ savedBy requests, s.entry.time.isLeap = false)
    (plain : ∀ cutoff, .remove cutoff ∈ requests → cutoff.isLeap = false) (apart : TellsApart (savedPairs requests))
    {u : Tasks Journal Request Stage} (run : Run Statement (begin .waiting requests ⟨∅, [], []⟩) u) :
    RemovalsAreSafe u := by
  obtain ⟨⟨table, balanced⟩, sound⟩ := sound_of_run ordinary apart run
  have shared := run.traced Journal.deleted (fun _ => Stage.deleted) (fun step => step.traced) rfl fun _ => rfl
  constructor
  case each =>
    intro cutoff p member
    obtain ⟨asked, other, same, pending⟩ := sound _ member
    cases same
    exact pending.isSafe table (plain _ asked)
  case shared => exact shared
  case once => exact balanced
  case total =>
    have counts : (u.slots.map fun slot => slot.2.count) = u.slots.map fun slot => slot.2.deleted.length := by
      apply List.map_congr_left
      rintro ⟨request, a⟩ member
      cases a with
      | removing p =>
        obtain ⟨_, cutoff, same, pending⟩ := sound _ member
        exact pending.counted
      | waiting => rfl
      | answered => rfl
    rw [counts, shared.length_eq, List.length_flatMap]

end Runs

theorem deletes_alone (cutoff : Instant) (left : List (List Uuid)) (j : Journal) (p : Removal) (more : p.left = left) :
    ∃ j' p', Relation.ReflTransGen (Statement (.remove cutoff)) (j, .removing p) (j', .removing p') ∧ p'.left = [] ∧
      (p'.count, j'.table) = left.foldl Table.removeChunk (p.count, j.table) := by
  induction left generalizing j p with
  | nil => exact ⟨j, p, .refl, more, rfl⟩
  | cons chunk rest ih =>
    obtain ⟨j', p', run, done, counted⟩ := ih (j.turn [] (j.table.deleteChunk chunk).2) (p.next j chunk rest) rfl
    exact ⟨j', p', .head (.delete more) run, done, counted⟩

theorem statements_alone (request : Request) (j : Journal) :
    ∃ j' stage, Relation.ReflTransGen (Statement request) (j, .waiting) (j', stage) ∧ j'.table = j.table.after request ∧
      stage.answer? = some ((documents j.table).answer request).1 := by
  by_cases removal : request.IsRemoval
  · cases request with
    | remove cutoff =>
      obtain ⟨j', p', run, done, counted⟩ := deletes_alone cutoff _ j (.begin j cutoff) rfl
      have whole : (p'.count, j'.table) = j.table.delete ((expired j.table cutoff).map Entry.id) := counted
      refine ⟨j', .removing p', .head .search run, congrArg Prod.snd whole, ?_⟩
      have count : p'.count = ((documents j.table).removeBefore cutoff).1 := congrArg Prod.fst whole
      rw [Stage.answer?, if_pos done, count]
      rfl
    | save fresh cluster time snapshot => exact removal.elim
    | list cluster since till => exact removal.elim
    | fetch id => exact removal.elim
  · exact ⟨_, _, .single (.whole removal), rfl, rfl⟩

/-- Whatever the order of statements, a removal deletes nothing that is not older than its cutoff; when it returns, all
that was older when it looked is gone unless it has been saved again, but for what stands at the end of the range of
columns; and the counts of all removals make up what has been deleted. -/
theorem removals_safe_among_statements (requests : List Request)
    (ordinary : ∀ s ∈ savedBy requests, s.entry.time.isLeap = false)
    (plain : ∀ cutoff, .remove cutoff ∈ requests → cutoff.isLeap = false) (apart : TellsApart (savedPairs requests)) :
    (∀ u, Run Statement (begin .waiting requests ⟨∅, [], []⟩) u → RemovalsAreSafe u) ∧
      ∀ request j, ∃ j' stage, Relation.ReflTransGen (Statement request) (j, .waiting) (j', stage) ∧
        j'.table = j.table.after request ∧ stage.answer? = some ((documents j.table).answer request).1 :=
  ⟨fun _ run => removalsAreSafe_of_run ordinary plain apart run, statements_alone⟩

section Single

variable {t : Table} {row : Row} {cutoff : Instant}

theorem expired_of_single (rows : t.rows = [row]) (before : row.entry.time < cutoff.clamped) :
    expired t cutoff = [row.entry] := by
  have allowed : Filter.allows ⟨none, .none, .excluded cutoff⟩ row := by
    have inside : row ∈ t.rows := by
      rw [rows]
      exact List.mem_singleton_self row
    exact (t.mem_found_iff.1 ((t.mem_found_expired_iff cutoff).2 ⟨inside, before⟩)).2
  simp only [expired, Table.query, rows, List.filter_cons, allowed, if_true, List.filter_nil, List.mergeSort_singleton,
    List.map_cons, List.map_nil]

theorem left_of_single {j : Journal} (rows : j.table.rows = [row]) (before : row.entry.time < cutoff.clamped) :
    (Removal.begin j cutoff).left = [[row.id]] := by
  simp only [Removal.begin, expired_of_single rows before]
  rfl

theorem deleteChunk_of_single (rows : t.rows = [row]) :
    (t.deleteChunk [row.id]).1 = 1 ∧ (t.deleteChunk [row.id]).2.rows = [] := by
  simp [Table.deleteChunk, rows]

end Single

def saveAtEpoch : Request :=
  .save default "prod" .epoch {}

def rivals : List Request :=
  [saveAtEpoch, .remove secondAfter, .remove secondAfter, saveAtEpoch]

theorem rival_removals_safe :
    (∀ s ∈ savedBy rivals, s.entry.time.isLeap = false) ∧
      (∀ cutoff, .remove cutoff ∈ rivals → cutoff.isLeap = false) ∧ TellsApart (savedPairs rivals) ∧
      ∃ u, Run Statement (begin .waiting rivals ⟨∅, [], []⟩) u ∧ RemovalsAreSafe u ∧
        ∃ p q, p.left = [] ∧ q.left = [] ∧ p.count = 1 ∧ q.count = 1 ∧
          [(Request.remove secondAfter, Stage.removing p), (.remove secondAfter, .removing q)].Sublist u.slots := by
  have ordinary : ∀ s ∈ savedBy rivals, s.entry.time.isLeap = false := by decide
  have plain : ∀ cutoff, .remove cutoff ∈ rivals → cutoff.isLeap = false := by
    intro cutoff member
    simp only [rivals, saveAtEpoch, List.mem_cons, reduceCtorEq, Request.remove.injEq, List.not_mem_nil, or_false, false_or,
      or_self] at member
    rw [member]
    rfl
  have apart : TellsApart (savedPairs rivals) := by decide +kernel
  refine ⟨ordinary, plain, apart, ?_⟩
  have single : ¬ saveAtEpoch.IsRemoval := id
  let row : Row := Slot.row ⟨⟨default, "prod", .epoch⟩, {}⟩
  have fits : Instant.epoch.FitsColumn := by decide
  have before : row.entry.time < secondAfter.clamped := by decide
  have saves {t : Table} (blank : t.rows = []) : (t.after saveAtEpoch).rows = [row] := by
    rw [saveAtEpoch, t.after_save default "prod" {} fits, Table.rows_insert_of_fresh, blank, List.nil_append]
    rw [blank]
    exact List.not_mem_nil
  -- The journals after the save, the first deletion and the save that comes again.
  let saved : Journal := .turn ⟨∅, [], []⟩ (savedPairs [saveAtEpoch]) (Table.after ∅ saveAtEpoch)
  let emptied : Journal := saved.turn [] (saved.table.deleteChunk [row.id]).2
  let again : Journal := emptied.turn (savedPairs [saveAtEpoch]) (emptied.table.after saveAtEpoch)
  have rows : saved.table.rows = [row] := saves rfl
  have blank : emptied.table.rows = [] := (deleteChunk_of_single rows).2
  have rows' : again.table.rows = [row] := saves blank
  let p : Removal := .begin saved secondAfter
  have left : p.left = [[row.id]] := left_of_single rows before
  have run : Run Statement (begin .waiting rivals ⟨∅, [], []⟩)
      ⟨again.turn [] (again.table.deleteChunk [row.id]).2,
        [(saveAtEpoch, .answered ((documents ∅).answer saveAtEpoch).1),
          (.remove secondAfter, .removing (p.next saved [row.id] [])),
          (.remove secondAfter, .removing (p.next again [row.id] [])),
          (saveAtEpoch, .answered ((documents emptied.table).answer saveAtEpoch).1)]⟩ :=
    .head (.move [] _ (.whole single)) <| .head (.move [_] _ .search) <| .head (.move [_, _] _ .search) <|
      .head (.move [_] _ (.delete left)) <| .head (.move [_, _, _] [] (.whole single)) <|
        .single (.move [_, _] _ (.delete left))
  refine ⟨_, run, (removals_safe_among_statements rivals ordinary plain apart).1 _ run, p.next saved [row.id] [],
    p.next again [row.id] [], rfl, rfl, ?_, ?_, ?_⟩
  · exact (Nat.zero_add _).trans (deleteChunk_of_single rows).1
  · exact (Nat.zero_add _).trans (deleteChunk_of_single rows').1
  · exact .cons _ (.cons_cons _ (.cons_cons _ (List.nil_sublist _)))

/-- An entry at the end of the range of columns is still there when the removal of all that is older than a later time
has returned. -/
theorem entry_at_end_outlives_removal :
    TellsApart (savedPairs [saveAtEnd, .remove beyondColumns]) ∧
      ∃ u p, Run Statement (begin .waiting [saveAtEnd, .remove beyondColumns] ⟨∅, [], []⟩) u ∧
        (.remove beyondColumns, .removing p) ∈ u.slots ∧ p.left = [] ∧
          ∃ r ∈ p.seen.table.rows, r.entry.time < beyondColumns ∧
            r.pair ∉ u.shared.saved.drop p.seen.saved.length ∧ r ∈ u.shared.table.rows := by
  have single : ¬ saveAtEnd.IsRemoval := id
  have atEnd : Instant.columnEnd.IsColumnTime := Instant.isColumnTime_ofNanos _
  obtain ⟨late, clamped⟩ := Instant.columnEnd_lt_of_late (t := beyondColumns) rfl (by decide)
  let slot : Slot := ⟨⟨default, "prod", .columnEnd⟩, { warnings := ["last"] }⟩
  have time : slot.row.entry.time = .columnEnd := time_row (s := slot) atEnd
  let saved : Journal := .turn ⟨∅, [], []⟩ (savedPairs [saveAtEnd]) (Table.after ∅ saveAtEnd)
  have rows : saved.table.rows = [slot.row] := by
    simp only [saved, Journal.turn, saveAtEnd, Table.after_save _ _ _ _ atEnd.2]
    rfl
  have left : (Removal.begin saved beyondColumns).left = [] := by
    have none : expired saved.table beyondColumns = [] := by
      rw [expired, Table.query_eq_map_found, List.map_eq_nil_iff, List.eq_nil_iff_forall_not_mem]
      intro r member
      obtain ⟨there, before⟩ := (saved.table.mem_found_expired_iff beyondColumns).1 member
      rw [rows, List.mem_singleton] at there
      rw [there, time, clamped] at before
      exact Instant.lt_iff_not_le.1 before (Instant.le_refl _)
    simp only [Removal.begin, none]
    rfl
  have run : Run Statement (begin .waiting [saveAtEnd, .remove beyondColumns] ⟨∅, [], []⟩)
      ⟨saved, [(saveAtEnd, .answered ((documents ∅).answer saveAtEnd).1),
        (.remove beyondColumns, .removing (.begin saved beyondColumns))]⟩ :=
    .head (.move [] _ (.whole single)) <| .single (.move [_] [] .search)
  have there : slot.row ∈ saved.table.rows := by
    rw [rows]
    exact List.mem_singleton_self _
  have asked := List.mem_cons_of_mem (saveAtEnd, Stage.answered ((documents ∅).answer saveAtEnd).1)
    (List.mem_singleton_self (Request.remove beyondColumns, Stage.removing (.begin saved beyondColumns)))
  refine ⟨by decide +kernel, _, _, run, asked, left, slot.row, there, ?_, ?_, there⟩
  · rw [time]
    exact late
  · have none : saved.saved.drop saved.saved.length = [] := List.drop_length
    exact none ▸ List.not_mem_nil

end ClusterWatch.History
