import ClusterWatch.Proofs.Api.Responses
import ClusterWatch.Proofs.History.Held
import ClusterWatch.Proofs.Roster.Lookup

namespace ClusterWatch.Api

open History

def IsWatched (l : Roster.Fixed) (name : String) : Prop := ∃ c ∈ l.clusters, c.identifier = name

def IsOwn (l : Roster.Fixed) (h : History) (cluster text : String) : Prop :=
  IsWatched l cluster ∧ ∃ e ∈ h.heldEntries, e.cluster = cluster ∧ Uuid.ofText? text = some e.id

def IsForeign (l : Roster.Fixed) (h : History) (cluster text : String) : Prop :=
  ∃ e ∈ h.heldEntries, Uuid.ofText? text = some e.id ∧ ¬ (IsWatched l cluster ∧ e.cluster = cluster)

structure FindsById (l : Roster.Fixed) (h : History) (saved : List Slot) (cluster text : String) (a : Response) :
    Prop where
  found : ∀ e ∈ h.heldEntries, Uuid.ofText? text = some e.id →
    ∃ s, h.IsLeftBy saved e s ∧ a = Response.sent (.ofJson s.snapshot.encode)
  missing : ∀ id, Uuid.ofText? text = some id → id ∉ h.heldEntries.map Entry.id →
    a = Response.sent (.ofFailure (History.missing id))
  malformed : Uuid.ofText? text = none →
    a = Response.sent (.ofFailure (.invalidInput (Text.quoted text ++ " is not a history entry id")))
  separates : (a.status = 200 ↔ IsOwn l h cluster text) ↔ ¬ IsForeign l h cluster text

structure ListsAll (l : Roster.Fixed) (h : History) (cluster : String) (a : Response) : Prop where
  watched : IsWatched l cluster → ∃ entries, a = Response.sent (.ofJson (Json.ofList Entry.encode entries)) ∧
    ∀ e, e ∈ entries ↔ e ∈ h.heldEntries ∧ e.cluster = cluster
  unknown : ¬ IsWatched l cluster → a = Response.sent (.ofFailure (Roster.unknown cluster))

section Lookup

variable {l : Roster.Fixed} {name : String}

theorem pick_of_watched (watched : IsWatched l name) : ∃ c ∈ l.clusters, c.identifier = name ∧
    Roster.pick l.clusters name = .ok c := by
  obtain ⟨c, member, rfl⟩ := watched
  exact ⟨c, member, rfl, Roster.pick_of_mem l.distinct member⟩

theorem pick_of_unknown (unknown : ¬ IsWatched l name) : Roster.pick l.clusters name = .error (Roster.unknown name) := by
  apply Roster.pick_of_not_mem
  intro listed
  exact unknown (List.mem_map.1 listed)

end Lookup

section Entries

variable {requests : List History.Request} {h : History} {l : Roster.Fixed} {api : Api} {text : String}

theorem isForeign_iff (distinct : (h.heldEntries.map Entry.id).Nodup) {e : Entry} (held : e ∈ h.heldEntries)
    (known : Uuid.ofText? text = some e.id) (cluster : String) :
    IsForeign l h cluster text ↔ ¬ IsOwn l h cluster text := by
  have only {d : Entry} (there : d ∈ h.heldEntries) (same : Uuid.ofText? text = some d.id) : d = e := by
    rw [known] at same
    exact List.inj_on_of_nodup_map distinct there held (Option.some.inj same).symm
  constructor
  · rintro ⟨d, there, same, stranger⟩ ⟨watched, d', there', own, same'⟩
    obtain rfl := only there same
    obtain rfl := only there' same'
    exact stranger ⟨watched, own⟩
  · intro stranger
    refine ⟨e, held, known, ?_⟩
    rintro ⟨watched, own⟩
    exact stranger ⟨watched, e, held, own, known⟩

theorem separates_of_gone {cluster : String} (gone : ∀ e ∈ h.heldEntries, Uuid.ofText? text ≠ some e.id) (f : Failure) :
    ((Response.sent (.ofFailure f)).status = 200 ↔ IsOwn l h cluster text) ↔ ¬ IsForeign l h cluster text := by
  have failed : (Response.sent (.ofFailure f)).status ≠ 200 := by
    have range : 400 ≤ (Response.sent (.ofFailure f)).status := (Response.range_of_statusOf f).1
    omega
  have notOwn : ¬ IsOwn l h cluster text := by
    rintro ⟨_, e, held, _, same⟩
    exact gone e held same
  have notForeign : ¬ IsForeign l h cluster text := by
    rintro ⟨e, held, same, _⟩
    exact gone e held same
  simp only [failed, notOwn, notForeign, not_false_eq_true]

theorem entry_finds_by_id (reached : Reached requests h) (keeps : api.history = h.shelf) (l : Roster.Fixed)
    (cluster text : String) : ∃ a, (api.entry text).response = some a ∧
      FindsById l h (savedBy requests) cluster text a.sent := by
  -- The three cases of an id: it is none, it is held, or it is not.
  cases known : Uuid.ofText? text with
  | none =>
    have gone : ∀ e ∈ h.heldEntries, Uuid.ofText? text ≠ some e.id := by
      intro e _ same
      rw [known] at same
      cases same
    refine ⟨_, entry_of_malformed known, fun e held same => absurd same (gone e held), ?_, fun _ => rfl, ?_⟩
    · intro id same
      rw [known] at same
      cases same
    · exact separates_of_gone gone _
  | some id =>
    have named {id' : Uuid} (same : Uuid.ofText? text = some id') : id' = id := by
      rw [known] at same
      exact (Option.some.inj same).symm
    have fetch : api.history.fetch id = h.fetch id := by
      rw [keeps]
      rfl
    by_cases inside : id ∈ h.heldEntries.map Entry.id
    · obtain ⟨e, held, rfl⟩ := List.mem_map.1 inside
      obtain ⟨s, left, fetched⟩ := reached.fetch_of_held held
      refine ⟨_, entry_of_fetched known (fetch.trans fetched), ?_, ?_, ?_, ?_⟩
      · intro d there same
        obtain rfl := List.inj_on_of_nodup_map reached.distinct there held (named same)
        exact ⟨s, left, rfl⟩
      · intro id' same gone
        rw [named same] at gone
        exact absurd inside gone
      · intro malformed
        rw [known] at malformed
        cases malformed
      · have status : (Response.sent (.ofJson s.snapshot.encode)).status = 200 := rfl
        rw [isForeign_iff reached.distinct held known cluster, not_not]
        simp only [status, true_iff]
    · have gone : ∀ e ∈ h.heldEntries, Uuid.ofText? text ≠ some e.id := by
        intro e held same
        exact inside (List.mem_map.2 ⟨e, held, named same⟩)
      have failed := reached.fetch_of_missing inside
      refine ⟨_, entry_of_failed known (fetch.trans failed), fun e held same => absurd same (gone e held), ?_, ?_, ?_⟩
      · intro id' same _
        rw [named same]
      · intro malformed
        rw [known] at malformed
        cases malformed
      · exact separates_of_gone gone _

theorem entries_list_all (reached : Reached requests h) (watches : api.roster = .ofFixed l)
    (keeps : api.history = h.shelf) {now since till : Instant} {w : Window} (resolved : w.resolve? now = some (since, till))
    (low : since.isLeap = false) (high : till.isLeap = false)
    (covers : ∀ e ∈ h.heldEntries, since ≤ e.time ∧ e.time ≤ till) (cluster : String) :
    ∃ a, (api.entries now cluster w).response = some a ∧ ListsAll l h cluster a.sent := by
  have lookup : api.roster.lookup cluster = .ofExcept (Roster.pick l.clusters cluster) := by
    rw [watches]
    rfl
  unfold entries
  rw [lookup]
  by_cases watched : IsWatched l cluster
  · obtain ⟨c, _, name, picked⟩ := pick_of_watched watched
    have listed : api.history.entries c.identifier since till = .ok (h.entries cluster since till) := by
      rw [keeps, name]
      rfl
    refine ⟨.ofJson (Json.ofList Entry.encode (h.entries cluster since till)), ?_, fun _ => ⟨_, rfl, ?_⟩, absurd watched⟩
    · rw [Work.response_of_ok picked]
      simp only [resolved, listed, Work.ofExcept, Work.done]
    · exact reached.mem_entries_iff low high covers cluster
  · have picked := pick_of_unknown watched
    exact ⟨_, Work.response_of_error picked, fun there => absurd there watched, fun _ => rfl⟩

end Entries

/-- Every entry is found by its id in every state of both kinds of histories, whichever cluster the path names, while a
listing names the entries of the cluster alone. An answer agrees with the listing but for the ids that are foreign to the
cluster. -/
theorem entries_are_found_by_id {requests : List History.Request} {h : History} (reached : Reached requests h)
    {l : Roster.Fixed} {api : Api} (watches : api.roster = .ofFixed l) (keeps : api.history = h.shelf)
    {cs : List Char} {cluster : String} (decoded : Net.Percent.decodeText? cs = some cluster) :
    (∀ now r id text, Asks r (.entry cs id) → Net.Percent.decodeText? id = some text →
      ∃ a, (api.handle now r).response = some a ∧ FindsById l h (savedBy requests) cluster text a) ∧
    (∀ now r w since till, Asks r (.history cs) → windowOf (r.query.getD "") = .ok w →
      w.resolve? now = some (since, till) → since.isLeap = false → till.isLeap = false →
      (∀ e ∈ h.heldEntries, since ≤ e.time ∧ e.time ≤ till) →
      ∃ a, (api.handle now r).response = some a ∧ ListsAll l h cluster a) := by
  constructor
  · intro now r id text asks decoded'
    obtain ⟨a, answered, finds⟩ := entry_finds_by_id reached keeps l cluster text
    refine ⟨a.sent, ?_, finds⟩
    rw [response_of_asks asks, document_entry _ _ _ decoded decoded', answered]
    rfl
  · intro now r w since till asks window resolved low high covers
    obtain ⟨a, answered, lists⟩ := entries_list_all reached watches keeps resolved low high covers cluster
    refine ⟨a.sent, ?_, lists⟩
    rw [response_of_asks asks, document_history _ _ _ decoded window, answered]
    rfl

def twoSaves : List History.Request :=
  [.save ⟨1⟩ "prod" .epoch { warnings := ["own"] }, .save ⟨2⟩ "retired" .epoch { warnings := ["foreign"] }]

def overTwoSaves : Api where
  roster := .ofFixed onlyProduction
  connector := fun _ => ⟨0, .fault (.timeout 0)⟩
  limits := ⟨.ofSeconds 15, .ofSeconds 60⟩
  history := (History.ring (.empty 4)).after twoSaves

def foreignId : String := "00000000-0000-0000-0000-000000000002"

def foreignEntry : Request where
  path := "/clusters/retired/history/00000000-0000-0000-0000-000000000002"

theorem foreignEntry_asks : Asks foreignEntry (.entry "retired".toList foreignId.toList) := ⟨by decide +kernel, rfl⟩

theorem decodeText?_retired : Net.Percent.decodeText? "retired".toList = some "retired" := by decide +kernel

theorem decodeText?_foreignId : Net.Percent.decodeText? foreignId.toList = some foreignId := by decide +kernel

theorem twoSaves_are_found_by_id :
    Reached twoSaves ((History.ring (.empty 4)).after twoSaves) ∧
      ∃ a, (overTwoSaves.handle .epoch foreignEntry).response = some a ∧
        FindsById onlyProduction ((History.ring (.empty 4)).after twoSaves) (savedBy twoSaves) "retired" foreignId a := by
  have reached : Reached twoSaves ((History.ring (.empty 4)).after twoSaves) := .ring 4 (by decide)
  have found := @entries_are_found_by_id _ _ reached onlyProduction overTwoSaves rfl rfl _ _ decodeText?_retired
  exact ⟨reached, found.1 .epoch foreignEntry _ _ foreignEntry_asks decodeText?_foreignId⟩

/-- The cluster is not watched, but the entry is got in its name. -/
theorem foreign_entry_is_found : ¬ IsWatched onlyProduction "retired" ∧
    (overTwoSaves.handle .epoch foreignEntry).response.map Response.status = some 200 := by
  have known : Uuid.ofText? foreignId = some ⟨2⟩ := by decide +kernel
  have fetched : overTwoSaves.history.fetch ⟨2⟩ = .ok { warnings := ["foreign"] } := by rfl
  constructor
  · rintro ⟨c, member, name⟩
    rw [List.mem_singleton.1 member] at name
    exact absurd name (by decide)
  · rw [response_of_asks foreignEntry_asks, document_entry _ _ _ decodeText?_retired decodeText?_foreignId,
      entry_of_fetched known fetched]
    rfl

end ClusterWatch.Api
