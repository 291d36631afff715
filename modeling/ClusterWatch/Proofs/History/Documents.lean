import ClusterWatch.Proofs.History.Payloads
import ClusterWatch.Proofs.History.Requests

namespace ClusterWatch.History

abbrev Kept := String → Instant → Option Snapshot

namespace Kept

def nothing : Kept := fun _ _ => none

def put (m : Kept) (cluster : String) (time : Instant) (snapshot : Snapshot) : Kept := fun c t =>
  if c = cluster ∧ t = time then some snapshot else m c t

def since (m : Kept) (cutoff : Instant) : Kept := fun c t =>
  if t < cutoff then none else m c t

end Kept

/-- A request, its right answer, and what is kept before and after it. -/
inductive Answers : Kept → Request → Answer → Kept → Prop where
  | saved {m : Kept} {fresh : Uuid} {cluster : String} {time : Instant} {snapshot : Snapshot}
      (fits : time.FitsColumn) :
      Answers m (.save fresh cluster time snapshot) (.saved (.ok (Entry.idOf cluster time)))
        (m.put cluster time snapshot)
  | refused {m : Kept} {fresh : Uuid} {cluster : String} {time : Instant} {snapshot : Snapshot}
      (beyond : ¬ time.FitsColumn) :
      Answers m (.save fresh cluster time snapshot)
        (.saved (.error (.store ("entry time " ++ time.display ++ " out of range")))) m
  | listed {m : Kept} {cluster : String} {since till : Instant} {entries : List Entry}
      (same : ∀ e, e ∈ entries ↔ e.cluster = cluster ∧ e.id = Entry.idOf cluster e.time ∧
        (m cluster e.time).isSome ∧ since ≤ e.time ∧ e.time ≤ till)
      (ascending : entries.Pairwise fun a b => a.time < b.time) :
      Answers m (.list cluster since till) (.listed entries) m
  | fetched {m : Kept} {cluster : String} {time : Instant} {snapshot : Snapshot}
      (held : m cluster time = some snapshot) :
      Answers m (.fetch (Entry.idOf cluster time)) (.fetched (.ok snapshot)) m
  | missed {m : Kept} {id : Uuid}
      (absent : ∀ cluster time, Entry.idOf cluster time = id → m cluster time = none) :
      Answers m (.fetch id) (.fetched (.error (missing id))) m
  | removed {m : Kept} {cutoff : Instant} {gone : List (String × Instant)} (once : gone.Nodup)
      (same : ∀ cluster time, (cluster, time) ∈ gone ↔ (m cluster time).isSome ∧ time < cutoff) :
      Answers m (.remove cutoff) (.removed gone.length) (m.since cutoff)

inductive Replies : Kept → List Request → List Answer → Prop where
  | nil {m : Kept} : Replies m [] []
  | cons {m next : Kept} {request : Request} {answer : Answer} {requests : List Request} {answers : List Answer}
      (first : Answers m request answer next) (rest : Replies next requests answers) :
      Replies m (request :: requests) (answer :: answers)

def Request.IsOrdinary : Request → Prop
  | .save _ _ time _ => time.isLeap = false
  | .list _ since till => since.IsColumnTime ∧ till.IsColumnTime
  | .fetch _ => True
  | .remove cutoff => cutoff.IsColumnTime

instance : DecidablePred Request.IsOrdinary
  | .save _ _ time _ => inferInstanceAs (Decidable (time.isLeap = false))
  | .list _ since till => inferInstanceAs (Decidable (since.IsColumnTime ∧ till.IsColumnTime))
  | .fetch _ => inferInstanceAs (Decidable True)
  | .remove cutoff => inferInstanceAs (Decidable cutoff.IsColumnTime)

def savedPairs (requests : List Request) : List (String × Instant) :=
  ((savedBy requests).filter fun s => s.entry.time.FitsColumn).map fun s => (s.entry.cluster, s.entry.time)

theorem savedPairs_cons (request : Request) (rest : List Request) :
    savedPairs (request :: rest) = savedPairs [request] ++ savedPairs rest := by
  rw [savedPairs, savedBy_cons, List.filter_append, List.map_append]
  rfl

def TellsApart (pairs : List (String × Instant)) : Prop :=
  ∀ a ∈ pairs, ∀ b ∈ pairs, Entry.idOf a.1 a.2 = Entry.idOf b.1 b.2 → a = b

instance (pairs : List (String × Instant)) : Decidable (TellsApart pairs) :=
  inferInstanceAs (Decidable (∀ a ∈ pairs, ∀ b ∈ pairs, _ → _))

structure Represents (pairs : List (String × Instant)) (m : Kept) (t : Table) : Prop where
  row : ∀ r ∈ t.rows, ∃ snapshot, m r.cluster r.entry.time = some snapshot ∧
    r.id = Entry.idOf r.cluster r.entry.time ∧ r.payload = snapshot.encode.print
  kept : ∀ cluster time snapshot, m cluster time = some snapshot →
    (cluster, time) ∈ pairs ∧ ∃ r ∈ t.rows, r.cluster = cluster ∧ r.entry.time = time

def Shows (pairs : List (String × Instant)) (m : Kept) : History → Prop
  | .ring _ => False
  | .documents t => Represents pairs m t

def AnswersRight (pairs : List (String × Instant)) (m : Kept) (t : Table) (request : Request) : Prop :=
  ∃ next, Answers m request ((documents t).answer request).1 next ∧
    Shows pairs next ((documents t).answer request).2

namespace Represents

variable {pairs : List (String × Instant)} {m : Kept} {t : Table}

theorem empty : Represents pairs .nothing ∅ where
  row r member := absurd member List.not_mem_nil
  kept cluster time snapshot held := by simp [Kept.nothing] at held

theorem exists_row (here : Represents pairs m t) {cluster : String} {time : Instant} {snapshot : Snapshot}
    (held : m cluster time = some snapshot) :
    ∃ r ∈ t.rows, r.cluster = cluster ∧ r.entry.time = time ∧ r.id = Entry.idOf cluster time ∧
      r.payload = snapshot.encode.print := by
  obtain ⟨r, member, rfl, rfl⟩ := (here.kept cluster time snapshot held).2
  obtain ⟨other, same, id, payload⟩ := here.row r member
  rw [held] at same
  cases same
  exact ⟨r, member, rfl, rfl, id, payload⟩

theorem insert (here : Represents pairs m t) (apart : TellsApart pairs) {cluster : String} {n : Int64}
    (new : (cluster, Instant.ofNanos n) ∈ pairs) (snapshot : Snapshot) :
    Represents pairs (m.put cluster (Instant.ofNanos n) snapshot)
      (t.insert ⟨Entry.idOf cluster (Instant.ofNanos n), cluster, n, snapshot.encode.print⟩) := by
  -- Saving a pair changes its own row only, since no other pair has its id.
  constructor
  · intro r member
    rcases t.mem_insert_iff.1 member with rfl | ⟨old, other⟩
    · exact ⟨snapshot, by simp [Kept.put, Row.entry], rfl, rfl⟩
    · -- The row of another pair has stayed, since only the row of the new id is replaced.
      obtain ⟨before, held, id, payload⟩ := here.row r old
      refine ⟨before, ?_, id, payload⟩
      rw [Kept.put, if_neg, held]
      rintro ⟨cluster, time⟩
      exact other (by rw [id, cluster, time])
  · intro c time s held
    by_cases same : c = cluster ∧ time = Instant.ofNanos n
    · obtain ⟨rfl, rfl⟩ := same
      exact ⟨new, _, t.mem_insert_iff.2 (Or.inl rfl), rfl, rfl⟩
    · rw [Kept.put, if_neg same] at held
      obtain ⟨r, member, sameCluster, sameTime, id, _⟩ := here.exists_row held
      have pair := (here.kept c time s held).1
      refine ⟨pair, r, t.mem_insert_iff.2 (Or.inr ⟨member, ?_⟩), sameCluster, sameTime⟩
      -- Were it replaced, two saved pairs would have one id.
      intro clash
      have equal := apart _ pair _ new (id.symm.trans clash)
      exact same ⟨congrArg Prod.fst equal, congrArg Prod.snd equal⟩

theorem delete (here : Represents pairs m t) {cutoff : Instant} (column : cutoff.IsColumnTime) :
    Represents pairs (m.since cutoff) (t.delete ((expired t cutoff).map Entry.id)).2 := by
  constructor
  · intro r member
    rw [Table.rows_delete, List.mem_filter, decide_eq_true_iff] at member
    obtain ⟨member, stays⟩ := member
    rw [t.id_mem_expired_iff column member] at stays
    rw [Kept.since, if_neg stays]
    exact here.row r member
  · intro cluster time snapshot held
    by_cases old : time < cutoff
    · simp [Kept.since, old] at held
    · rw [Kept.since, if_neg old] at held
      obtain ⟨r, member, sameCluster, rfl, _⟩ := here.exists_row held
      refine ⟨(here.kept cluster _ snapshot held).1, r, ?_, sameCluster, rfl⟩
      rw [Table.rows_delete, List.mem_filter, decide_eq_true_iff, t.id_mem_expired_iff column member]
      exact ⟨member, old⟩

theorem save (here : Represents pairs m t) (apart : TellsApart pairs) (fresh : Uuid) (cluster : String)
    {time : Instant} (snapshot : Snapshot) (plain : time.isLeap = false)
    (new : time.FitsColumn → (cluster, time) ∈ pairs) :
    AnswersRight pairs m t (.save fresh cluster time snapshot) := by
  by_cases fits : time.FitsColumn
  · obtain ⟨n, _, clamped, rfl⟩ := Instant.exists_column ⟨plain, fits⟩
    have put := t.put_of_fits (d := documentOf cluster (Instant.ofNanos n) snapshot) fits
    simp only [documentOf, clamped] at put
    refine ⟨m.put cluster (Instant.ofNanos n) snapshot, ?_⟩
    simp only [answer, History.save, documentOf, put, Except.map]
    exact ⟨.saved fits, here.insert apart (new fits) snapshot⟩
  · have put := t.put_of_not_fits (d := documentOf cluster time snapshot) fits
    simp only [documentOf] at put
    refine ⟨m, ?_⟩
    simp only [answer, History.save, documentOf, put, Except.map]
    exact ⟨.refused fits, here⟩

theorem row_eq (here : Represents pairs m t) {a b : Row} (ha : a ∈ t.rows) (hb : b ∈ t.rows)
    (cluster : a.cluster = b.cluster) (time : a.entry.time = b.entry.time) : a = b := by
  obtain ⟨_, _, idA, _⟩ := here.row a ha
  obtain ⟨_, _, idB, _⟩ := here.row b hb
  have ids : a.id = b.id := by
    rw [idA, idB, cluster, time]
  exact List.inj_on_of_nodup_map t.distinct ha hb ids

theorem mem_entries_iff (here : Represents pairs m t) (cluster : String) {since till : Instant}
    (low : since.IsColumnTime) (high : till.IsColumnTime) (e : Entry) :
    e ∈ (documents t).entries cluster since till ↔ e.cluster = cluster ∧ e.id = Entry.idOf cluster e.time ∧
      (m cluster e.time).isSome ∧ since ≤ e.time ∧ e.time ≤ till := by
  rw [entries, t.query_eq_map_found, List.mem_map]
  constructor
  · rintro ⟨r, member, rfl⟩
    obtain ⟨there, rfl, after, before⟩ := (t.mem_found_span_iff cluster low high).1 member
    obtain ⟨snapshot, held, id, _⟩ := here.row r there
    exact ⟨rfl, id, by rw [held]; rfl, after, before⟩
  · rintro ⟨rfl, id, held, after, before⟩
    obtain ⟨snapshot, held⟩ := Option.isSome_iff_exists.1 held
    obtain ⟨r, there, cluster, time, sameId, _⟩ := here.exists_row held
    rw [← time] at after before
    refine ⟨r, (t.mem_found_span_iff _ low high).2 ⟨there, cluster, after, before⟩, ?_⟩
    have same : r.entry = ⟨e.id, e.cluster, e.time⟩ := by
      rw [id, ← sameId, ← cluster, ← time]
      rfl
    exact same

theorem entries_ascending (here : Represents pairs m t) (cluster : String) {since till : Instant}
    (low : since.IsColumnTime) (high : till.IsColumnTime) :
    ((documents t).entries cluster since till).Pairwise fun a b => a.time < b.time := by
  rw [entries, t.query_eq_map_found, List.pairwise_map]
  have ids := List.pairwise_map.1 (t.found_distinct ⟨some cluster, .included since, .included till⟩)
  apply ((t.found_ascending _).and ids).imp_of_mem
  rintro a b ha hb ⟨ascending, different⟩
  obtain ⟨thereA, clusterA, _⟩ := (t.mem_found_span_iff cluster low high).1 ha
  obtain ⟨thereB, clusterB, _⟩ := (t.mem_found_span_iff cluster low high).1 hb
  apply Instant.ofNanos_lt_iff.2
  apply Int64.lt_of_le_of_ne ascending
  -- Rows of one cluster and one time are one row, but these have different ids.
  intro same
  apply different
  exact congrArg Row.id (here.row_eq thereA thereB (clusterA.trans clusterB.symm) (congrArg Instant.ofNanos same))

theorem list (here : Represents pairs m t) (cluster : String) {since till : Instant} (low : since.IsColumnTime)
    (high : till.IsColumnTime) : AnswersRight pairs m t (.list cluster since till) :=
  ⟨m, .listed (here.mem_entries_iff cluster low high) (here.entries_ascending cluster low high), here⟩

theorem fetch (here : Represents pairs m t) (id : Uuid) : AnswersRight pairs m t (.fetch id) := by
  cases search : t.row? id with
  | none =>
    have missed : (documents t).fetch id = .error (missing id) := by
      simp only [History.fetch, Table.get?, search, Option.map_none]
    refine ⟨m, ?_, here⟩
    simp only [answer, missed]
    apply Answers.missed
    intro cluster time same
    cases held : m cluster time with
    | none => rfl
    | some snapshot =>
      obtain ⟨r, member, _, _, sameId, _⟩ := here.exists_row held
      exact absurd (List.mem_map.2 ⟨r, member, sameId.trans same⟩) (t.row?_eq_none_iff.1 search)
  | some r =>
    obtain ⟨member, rfl⟩ := t.row?_eq_some_iff.1 search
    obtain ⟨snapshot, held, same, payload⟩ := here.row r member
    have fetched : (documents t).fetch r.id = .ok snapshot := by
      simp only [History.fetch, Table.get?, search, Option.map_some, payload, readSnapshot?_print]
    refine ⟨m, ?_, here⟩
    simp only [answer, fetched]
    rw [same]
    exact .fetched held

theorem remove (here : Represents pairs m t) {cutoff : Instant} (column : cutoff.IsColumnTime) :
    AnswersRight pairs m t (.remove cutoff) := by
  have count : ((documents t).removeBefore cutoff).1 =
      (((t.rows.filter fun r => r.entry.time < cutoff).map fun r => (r.cluster, r.entry.time)).length) := by
    rw [List.length_map]
    refine (t.count_delete _).trans (congrArg List.length (List.filter_congr ?_))
    intro r member
    rw [decide_eq_decide]
    exact t.id_mem_expired_iff column member
  refine ⟨m.since cutoff, ?_, here.delete column⟩
  simp only [answer, count]
  apply Answers.removed
  · apply List.Nodup.map_on
    · intro a ha b hb same
      exact here.row_eq (List.mem_of_mem_filter ha) (List.mem_of_mem_filter hb) (congrArg Prod.fst same)
        (congrArg Prod.snd same)
    · exact (List.Nodup.of_map Row.id t.distinct).filter _
  · intro cluster time
    rw [List.mem_map]
    constructor
    · rintro ⟨r, member, same⟩
      cases same
      obtain ⟨there, before⟩ := List.mem_filter.1 member
      obtain ⟨snapshot, held, _⟩ := here.row r there
      exact ⟨by rw [held]; rfl, by simpa using before⟩
    · rintro ⟨held, before⟩
      obtain ⟨snapshot, held⟩ := Option.isSome_iff_exists.1 held
      obtain ⟨r, there, rfl, rfl, _⟩ := here.exists_row held
      exact ⟨r, List.mem_filter.2 ⟨there, by simpa using before⟩, rfl⟩

theorem step (here : Represents pairs m t) (apart : TellsApart pairs) {request : Request}
    (ordinary : request.IsOrdinary) (new : ∀ pair ∈ savedPairs [request], pair ∈ pairs) :
    AnswersRight pairs m t request := by
  cases request with
  | save fresh cluster time snapshot =>
    apply here.save apart fresh cluster snapshot ordinary
    intro fits
    apply new
    simp [savedPairs, savedBy, fits]
  | list cluster since till => exact here.list cluster ordinary.1 ordinary.2
  | fetch id => exact here.fetch id
  | remove cutoff => exact here.remove ordinary

theorem run (apart : TellsApart pairs) (requests : List Request) (ordinary : ∀ r ∈ requests, r.IsOrdinary)
    (new : ∀ pair ∈ savedPairs requests, pair ∈ pairs) {m : Kept} {t : Table} (here : Represents pairs m t) :
    Replies m requests ((documents t).answers requests) := by
  -- What is kept and the table go on together, so the induction is for all of both.
  induction requests generalizing m t with
  | nil => exact .nil
  | cons request rest ih =>
    rw [savedPairs_cons] at new
    obtain ⟨next, first, goesOn⟩ := here.step apart (ordinary request List.mem_cons_self) fun pair member =>
      new pair (List.mem_append_left _ member)
    rw [answers]
    refine .cons first ?_
    cases after : ((documents t).answer request).2 with
    | ring r =>
      rw [after] at goesOn
      exact goesOn.elim
    | documents t' =>
      rw [after] at goesOn
      exact ih (fun r member => ordinary r (List.mem_cons_of_mem _ member))
        (fun pair member => new pair (List.mem_append_right _ member)) goesOn

end Represents

/-- Every run from an empty history of documents. -/
theorem documents_answer_as_map (requests : List Request) (ordinary : ∀ r ∈ requests, r.IsOrdinary)
    (apart : TellsApart (savedPairs requests)) :
    Replies .nothing requests ((documents ∅).answers requests) :=
  Represents.empty.run apart requests ordinary (fun _ member => member)

def smallRun : List Request :=
  let now : Instant := Instant.ofNanos 1488369600000000000
  let later : Instant := Instant.ofNanos 1488369600000000001
  let beyond : Instant := ⟨16725225600, 0, by decide, by decide⟩
  [.save default "prod" now {}, .save default "staging" later {}, .save default "prod" beyond {},
    .save default "prod" now { warnings := ["again"] }, .fetch (Entry.idOf "prod" now), .list "prod" now later,
    .remove later, .fetch (Entry.idOf "prod" now), .list "staging" now later]

theorem documents_answer_as_map_small :
    (∀ r ∈ smallRun, r.IsOrdinary) ∧ TellsApart (savedPairs smallRun) ∧
      Replies .nothing smallRun ((documents ∅).answers smallRun) :=
  have ordinary : ∀ r ∈ smallRun, r.IsOrdinary := by decide
  have apart : TellsApart (savedPairs smallRun) := by decide +kernel
  ⟨ordinary, apart, documents_answer_as_map smallRun ordinary apart⟩

end ClusterWatch.History
