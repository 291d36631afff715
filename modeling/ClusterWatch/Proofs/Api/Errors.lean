import ClusterWatch.Proofs.Api.Responses
import ClusterWatch.Proofs.Json.RoundTrip

namespace ClusterWatch.Api

open Json

def Route.IsData : Route → Prop
  | .health | .file => False
  | _ => True

def Route.names : Route → List (List Char)
  | .status cluster | .history cluster => [cluster]
  | .entry cluster id => [cluster, id]
  | _ => []

def Route.IsReadable (route : Route) : Prop := ∀ cs ∈ route.names, ∃ name, Net.Percent.decodeText? cs = some name

def IsDocument : Route → Json → Prop
  | .clusters, j => ∃ cs : List Cluster, j = ofList Cluster.encode cs
  | .history _, j => ∃ es : List History.Entry, j = ofList History.Entry.encode es
  | .status _, j | .entry _ _, j | .fullStatus, j => ∃ s : Snapshot, j = s.encode
  | .health, _ | .file, _ => False

structure IsTold (route : Route) (a : Response) : Prop where
  status : a.status = 200
  kind : ("content-type", "application/json") ∈ a.headers
  body : ∃ j, IsDocument route j ∧ a.body = j.print

structure IsError (a : Response) : Prop where
  status : 400 ≤ a.status ∧ a.status < 600
  kind : ("content-type", "application/json") ∈ a.headers
  body : ∃ message, Json.read? a.body = some (.object [("error", .string message)])

def RepeatsBound (query : String) : Prop :=
  ∃ name ∈ ["from", "to"], 1 < ((Net.Form.decode query).filter (·.1 = name)).length

structure Describes (r : Request) : Prop where
  kind : (r.header? "content-type").any Net.MediaType.isJson = true
  size : r.body.utf8ByteSize ≤ bodyLimit
  body : ∃ d, Details.read r.body = .ok d ∧ d.address.toList.all Text.isBlank = false

def IsRefused (r : Request) : Route → Prop
  | .history _ => RepeatsBound (r.query.getD "")
  | _ => False

def IsFaulty (r : Request) : Route → Prop
  | .history _ => RepeatsBound (r.query.getD "")
  | .entry _ id => ∃ text, Net.Percent.decodeText? id = some text ∧ Uuid.ofText? text = none
  | .fullStatus => ¬ Describes r
  | _ => False

section Outcomes

variable (api : Api) (now : Instant) (r : Request)

def Fetches (c : Cluster) : Prop := (fetchSnapshot api.connector api.limits c).result ≠ .error .crash

def Knows (cluster : List Char) (P : Cluster → Prop) : Prop :=
  ∃ name c, Net.Percent.decodeText? cluster = some name ∧ (api.roster.lookup name).result = .ok c ∧ P c

/-- The work does not end: a snapshot that is wanted crashes, or there is no day before now, as at the very beginning of
time. -/
def Crashes : Route → Prop
  | .status cluster => api.Knows cluster fun c => ¬ api.Fetches c
  | .history cluster => api.Knows cluster fun _ => ¬ RepeatsBound (r.query.getD "") ∧
      now.minusSeconds? History.Window.usualSpan = none
  | .fullStatus => ∃ c, described r = .ok c ∧ ¬ api.Fetches c
  | _ => False

inductive Reports : Failure → Prop where
  | clusters {f : Failure} (told : api.roster.clusters.result = .error f) : Reports f
  | lookup {f : Failure} (name : String) (told : (api.roster.lookup name).result = .error f) : Reports f
  | entries {f : Failure} (name : String) (since till : Instant) (told : api.history.entries name since till = .error f) :
      Reports f
  | fetch {f : Failure} (id : Uuid) (told : api.history.fetch id = .error f) : Reports f

inductive Outcome (route : Route) : Option Response → Prop where
  | crash (crashes : api.Crashes now r route) : Outcome route none
  | told (j : Json) (document : IsDocument route j) (ends : ¬ api.Crashes now r route) (sound : ¬ IsFaulty r route) :
      Outcome route (some (.ofJson j))
  | failed (f : Failure) (ends : ¬ api.Crashes now r route) (taken : ¬ IsRefused r route)
      (faulty : IsFaulty r route → Response.statusOf f = 400)
      (blamed : Response.statusOf f = 400 → IsFaulty r route ∨ api.Reports f) : Outcome route (some (.ofFailure f))
  | refused (reason : String) (ends : ¬ api.Crashes now r route) (repeats : IsRefused r route) :
      Outcome route (some (.ofText reason 400))

end Outcomes

theorem isFaulty_of_isRefused {r : Request} {route : Route} (refused : IsRefused r route) : IsFaulty r route := by
  cases route with
  | history cluster => exact refused
  | _ => exact refused.elim

theorem windowOf_cases (query : String) :
    (RepeatsBound query ∧ ∃ reason, windowOf query = .error reason) ∨
      (¬ RepeatsBound query ∧ ∃ w, windowOf query = .ok w) := by
  unfold windowOf RepeatsBound
  simp only [List.mem_cons, List.not_mem_nil, or_false, exists_eq_or_imp, exists_eq_left]
  rw [← List.length_map (f := Prod.snd), ← List.length_map (f := Prod.snd)]
  generalize ((Net.Form.decode query).filter fun x => decide (x.1 = "from")).map Prod.snd = first
  generalize ((Net.Form.decode query).filter fun x => decide (x.1 = "to")).map Prod.snd = second
  rcases first with _ | ⟨a, _ | ⟨b, rest⟩⟩
  · rcases second with _ | ⟨c, _ | ⟨d, rest⟩⟩
    · exact Or.inr ⟨by simp, _, rfl⟩
    · exact Or.inr ⟨by simp, _, rfl⟩
    · exact Or.inl ⟨by simp, _, rfl⟩
  · rcases second with _ | ⟨c, _ | ⟨d, rest⟩⟩
    · exact Or.inr ⟨by simp, _, rfl⟩
    · exact Or.inr ⟨by simp, _, rfl⟩
    · exact Or.inl ⟨by simp, _, rfl⟩
  · exact Or.inl ⟨by simp, _, rfl⟩

theorem described_cases (r : Request) :
    (Describes r ∧ ∃ c, described r = .ok c) ∨ (¬ Describes r ∧ ∃ reason, described r = .error (.invalidInput reason)) := by
  -- The body is looked at in three steps, each of which may be the last.
  unfold described
  by_cases kind : (r.header? "content-type").any Net.MediaType.isJson = true
  · by_cases size : bodyLimit < r.body.utf8ByteSize
    · refine Or.inr ⟨fun describes => absurd describes.size (Nat.not_le.2 size),
        "Failed to buffer the request body: length limit exceeded", ?_⟩
      simp only [kind, size, Bool.not_true, Bool.false_eq_true, if_false, if_true]
      rfl
    · cases read : Details.read r.body with
      | error fault =>
        refine Or.inr ⟨?_, fault.message, ?_⟩
        · rintro ⟨_, _, d, same, _⟩
          rw [read] at same
          cases same
        · simp only [kind, size, Bool.not_true, Bool.false_eq_true, if_false]
          rfl
      | ok d =>
        by_cases blank : d.address.toList.all Text.isBlank = true
        · refine Or.inr ⟨?_, "address is required", ?_⟩
          · rintro ⟨_, _, d', same, named⟩
            rw [read] at same
            rw [← Except.ok.inj same, blank] at named
            cases named
          · simp only [kind, size, blank, Bool.not_true, Bool.false_eq_true, if_false, if_true]
            rfl
        · refine Or.inl ⟨⟨kind, Nat.not_lt.1 size, d, read, Bool.eq_false_iff.2 blank⟩, ?_⟩
          simp only [kind, size, blank, Bool.not_true, Bool.false_eq_true, if_false]
          exact ⟨_, rfl⟩
  · refine Or.inr ⟨fun describes => kind describes.kind, "Expected request with `Content-Type: application/json`", ?_⟩
    simp only [Bool.not_eq_true] at kind
    simp only [kind, Bool.not_false, if_true]
    rfl

theorem statusOf_fetch {connector : Connector} {limits : Limits} {c : Cluster} {f : Failure}
    (failed : (fetchSnapshot connector limits c).result = .error (.failure f)) : Response.statusOf f ≠ 400 := by
  unfold fetchSnapshot Fetch.Course.bounded at failed
  split at failed
  · unfold Fetch.course at failed
    dsimp only at failed
    cases first : ((connector c).bounded limits.call).ending with
    | crash message =>
      rw [first] at failed
      cases failed
    | fault reason =>
      rw [first] at failed
      cases failed
      exact Nat.ne_of_gt (by decide : 400 < 500)
    | answer plane =>
      rw [first] at failed
      dsimp only at failed
      cases second : (plane.nodes.bounded limits.call).ending with
      | crash message =>
        rw [second] at failed
        cases failed
      | fault reason =>
        rw [second] at failed
        cases failed
        exact Nat.ne_of_gt (by decide : 400 < 500)
      | answer list =>
        rw [second] at failed
        cases failed
  · cases failed
    exact Nat.ne_of_gt (by decide : 400 < 504)

section Outcomes

variable {api : Api} {now : Instant} {r : Request}

theorem outcome_of_status {route : Route} {c : Cluster} (document : ∀ s : Snapshot, IsDocument route s.encode)
    (crash : api.Crashes now r route ↔ ¬ api.Fetches c) (sound : ¬ IsFaulty r route) :
    api.Outcome now r route (api.status c).response := by
  have taken : ¬ IsRefused r route := fun refused => sound (isFaulty_of_isRefused refused)
  cases fetched : (fetchSnapshot api.connector api.limits c).result with
  | ok s =>
    have ends : ¬ api.Crashes now r route := by
      rw [crash, not_not, Fetches, fetched]
      intro same
      cases same
    rw [response_of_fetched fetched]
    exact .told _ (document s) ends sound
  | error mishap =>
    cases mishap with
    | crash =>
      rw [response_of_crashed fetched]
      exact .crash (crash.2 (not_not.2 fetched))
    | failure f =>
      have ends : ¬ api.Crashes now r route := by
        rw [crash, not_not, Fetches, fetched]
        intro same
        cases same
      rw [response_of_failed fetched]
      exact .failed f ends taken (fun faulty => absurd faulty sound) fun status => absurd status (statusOf_fetch fetched)

theorem outcome_of_failure {route : Route} {f : Failure} (ends : ¬ api.Crashes now r route) (sound : ¬ IsFaulty r route)
    (reports : api.Reports f) : api.Outcome now r route (some (.ofFailure f)) :=
  .failed f ends (fun refused => sound (isFaulty_of_isRefused refused)) (fun faulty => absurd faulty sound)
    fun _ => Or.inr reports

theorem outcome_clusters : api.Outcome now r .clusters (api.document now r .clusters).response := by
  cases told : api.roster.clusters.result with
  | error f =>
    simp only [document]
    rw [Work.response_of_error told]
    exact outcome_of_failure id id (.clusters told)
  | ok cs =>
    simp only [document]
    rw [Work.response_of_ok told]
    exact .told _ ⟨cs.map Cluster.obfuscated, rfl⟩ id id

section Lookup

variable {cluster : List Char} {name : String}

theorem knows_iff {c : Cluster} {P : Cluster → Prop} (decoded : Net.Percent.decodeText? cluster = some name)
    (told : (api.roster.lookup name).result = .ok c) : api.Knows cluster P ↔ P c := by
  constructor
  · rintro ⟨name', c', decoded', told', there⟩
    obtain rfl := Option.some.inj (decoded.symm.trans decoded')
    obtain rfl := Except.ok.inj (told.symm.trans told')
    exact there
  · exact fun there => ⟨name, c, decoded, told, there⟩

theorem not_knows {f : Failure} {P : Cluster → Prop} (decoded : Net.Percent.decodeText? cluster = some name)
    (failed : (api.roster.lookup name).result = .error f) : ¬ api.Knows cluster P := by
  rintro ⟨name', c, decoded', told, _⟩
  obtain rfl := Option.some.inj (decoded.symm.trans decoded')
  rw [failed] at told
  cases told

theorem outcome_status (decoded : Net.Percent.decodeText? cluster = some name) :
    api.Outcome now r (.status cluster) (api.document now r (.status cluster)).response := by
  rw [document_status _ _ _ decoded]
  cases told : (api.roster.lookup name).result with
  | error f =>
    rw [Work.response_of_error told]
    exact outcome_of_failure (not_knows decoded told) id (.lookup name told)
  | ok c =>
    rw [Work.response_of_ok told]
    exact outcome_of_status (fun s => ⟨s, rfl⟩) (knows_iff decoded told) id

theorem outcome_history (decoded : Net.Percent.decodeText? cluster = some name) :
    api.Outcome now r (.history cluster) (api.document now r (.history cluster)).response := by
  obtain ⟨repeats, reason, window⟩ | ⟨once, w, window⟩ := windowOf_cases (r.query.getD "")
  · rw [document_history_of_fault _ _ _ decoded window]
    refine .refused reason ?_ repeats
    rintro ⟨_, _, _, _, once, _⟩
    exact once repeats
  · rw [document_history _ _ _ decoded window]
    unfold entries
    cases told : (api.roster.lookup name).result with
    | error f =>
      rw [Work.response_of_error told]
      exact outcome_of_failure (not_knows decoded told) once (.lookup name told)
    | ok c =>
      rw [Work.response_of_ok told]
      have crash : api.Crashes now r (.history cluster) ↔ now.minusSeconds? History.Window.usualSpan = none := by
        have known := @knows_iff api cluster name c
          (fun _ => ¬ RepeatsBound (r.query.getD "") ∧ now.minusSeconds? History.Window.usualSpan = none) decoded told
        exact known.trans (and_iff_right once)
      -- The span of time is made whatever the bounds are, so that the day before now has to exist in any case.
      cases day : now.minusSeconds? History.Window.usualSpan with
      | none =>
        simp only [History.Window.resolve?, day, Option.map_none]
        exact .crash (crash.2 day)
      | some dayBefore =>
        have ends : ¬ api.Crashes now r (.history cluster) := by
          rw [crash, day]
          intro same
          cases same
        simp only [History.Window.resolve?, day, Option.map_some]
        generalize (w.since.bind Instant.ofText?).getD dayBefore = since, (w.till.bind Instant.ofText?).getD now = till
        cases listed : api.history.entries c.identifier since till with
        | error f => exact outcome_of_failure ends once (.entries _ _ _ listed)
        | ok es => exact .told _ ⟨es, rfl⟩ ends once

end Lookup

theorem outcome_entry {cluster es : List Char} {name text : String}
    (decoded : Net.Percent.decodeText? cluster = some name) (decoded' : Net.Percent.decodeText? es = some text) :
    api.Outcome now r (.entry cluster es) (api.document now r (.entry cluster es)).response := by
  rw [document_entry _ _ _ decoded decoded']
  cases known : Uuid.ofText? text with
  | none =>
    rw [entry_of_malformed known]
    exact .failed _ id id (fun _ => rfl) fun _ => Or.inl ⟨text, decoded', known⟩
  | some known' =>
    have sound : ¬ IsFaulty r (.entry cluster es) := by
      rintro ⟨text', decoded'', malformed⟩
      obtain rfl := Option.some.inj (decoded'.symm.trans decoded'')
      rw [known] at malformed
      cases malformed
    cases fetched : api.history.fetch known' with
    | error f =>
      rw [entry_of_failed known fetched]
      exact outcome_of_failure id sound (.fetch known' fetched)
    | ok s =>
      rw [entry_of_fetched known fetched]
      exact .told _ ⟨s, rfl⟩ id sound

theorem outcome_fullStatus : api.Outcome now r .fullStatus (api.document now r .fullStatus).response := by
  simp only [document]
  obtain ⟨describes, c, read⟩ | ⟨faulty, reason, read⟩ := described_cases r
  · rw [read]
    refine outcome_of_status (fun s => ⟨s, rfl⟩) ⟨?_, fun crash => ⟨c, read, crash⟩⟩ (not_not.2 describes)
    rintro ⟨c', read', crash⟩
    rw [Except.ok.inj (read.symm.trans read')]
    exact crash
  · rw [read]
    refine .failed _ ?_ id (fun _ => rfl) fun _ => Or.inl faulty
    rintro ⟨c, read', _⟩
    rw [read] at read'
    cases read'

theorem outcome_of_data (api : Api) (now : Instant) (r : Request) {route : Route} (data : route.IsData)
    (readable : route.IsReadable) : api.Outcome now r route (api.document now r route).response := by
  cases route with
  | clusters => exact outcome_clusters
  | status cluster =>
    obtain ⟨name, decoded⟩ := readable cluster List.mem_cons_self
    exact outcome_status decoded
  | history cluster =>
    obtain ⟨name, decoded⟩ := readable cluster List.mem_cons_self
    exact outcome_history decoded
  | entry cluster id =>
    obtain ⟨name, decoded⟩ := readable cluster List.mem_cons_self
    obtain ⟨text, decoded'⟩ := readable id (List.mem_cons_of_mem _ List.mem_cons_self)
    exact outcome_entry decoded decoded'
  | fullStatus => exact outcome_fullStatus
  | health => exact data.elim
  | file => exact data.elim

end Outcomes

theorem isTold_sent {route : Route} {j : Json} (document : IsDocument route j) :
    IsTold route (Response.sent (.ofJson j)) where
  status := rfl
  kind := List.mem_append_right _ (List.mem_singleton_self _)
  body := ⟨j, document, rfl⟩

theorem isError_sent (f : Failure) : IsError (Response.sent (.ofFailure f)) where
  status := Response.range_of_statusOf f
  kind := List.mem_append_right _ (List.mem_singleton_self _)
  body := ⟨f.message, read?_print rfl⟩

theorem kind_of_text (s : String) (status : Nat) :
    ("content-type", "application/json") ∉ (Response.sent (.ofText s status)).headers := by
  show _ ∉ anyOrigin ++ [("content-type", "text/plain; charset=utf-8")]
  decide

structure IsAnswered (api : Api) (r : Request) (route : Route) (a : Response) : Prop where
  structured : IsTold route a ∨ IsError a ↔ ¬ IsRefused r route
  refused : IsRefused r route → a.status = 400 ∧ ("content-type", "text/plain; charset=utf-8") ∈ a.headers
  faulty : IsFaulty r route → a.status = 400
  blamed : a.status = 400 → IsFaulty r route ∨ ∃ f, api.Reports f ∧ Response.statusOf f = 400

/-- Whatever is asked for and whatever the roster, the control planes and the history do, a response is the document or
an error with a message, but for the refusal of a query that repeats a bound. What is faulty in a request is told as
such, and there is no response only where the work does not end. -/
theorem failures_are_told (api : Api) (now : Instant) {r : Request} {route : Route} (asks : Asks r route)
    (data : route.IsData) (readable : route.IsReadable) :
    ((api.handle now r).response = none ↔ api.Crashes now r route) ∧
      ∀ a, (api.handle now r).response = some a → IsAnswered api r route a := by
  rw [response_of_asks asks]
  have outcome := outcome_of_data api now r data readable
  generalize (api.document now r route).response = response at outcome
  cases outcome with
  | crash crashes =>
    refine ⟨by simp [crashes], fun a sent => ?_⟩
    cases sent
  | told j document ends sound =>
    refine ⟨by simp [ends], fun a sent => ?_⟩
    cases sent
    have taken : ¬ IsRefused r route := fun refused => sound (isFaulty_of_isRefused refused)
    exact {
      structured := iff_of_true (Or.inl (isTold_sent document)) taken
      refused := fun refused => absurd refused taken
      faulty := fun faulty => absurd faulty sound
      blamed := fun status => absurd status (show ¬ 200 = 400 by decide) }
  | failed f ends taken faulty blamed =>
    refine ⟨by simp [ends], fun a sent => ?_⟩
    cases sent
    exact {
      structured := iff_of_true (Or.inr (isError_sent f)) taken
      refused := fun refused => absurd refused taken
      faulty := faulty
      blamed := fun status => (blamed status).imp_right fun reports => ⟨f, reports, status⟩ }
  | refused reason ends repeats =>
    refine ⟨by simp [ends], fun a sent => ?_⟩
    cases sent
    have plain := kind_of_text reason 400
    exact {
      structured := iff_of_false (fun either => either.elim (plain ·.kind) (plain ·.kind)) (not_not.2 repeats)
      refused := fun _ => ⟨rfl, List.mem_append_right _ (List.mem_singleton_self _)⟩
      faulty := fun _ => rfl
      blamed := fun _ => Or.inl (isFaulty_of_isRefused repeats) }

def downProd : Api where
  roster := .ofFixed onlyProduction
  connector := fun _ => ⟨0, .fault (.build "down")⟩
  limits := ⟨.ofSeconds 15, .ofSeconds 60⟩
  history := History.documents ∅

def twoBeginnings : Request where
  path := "/clusters/prod/history"
  query := some "from=a&from=b"

theorem twoBeginnings_asks : Asks twoBeginnings (.history "prod".toList) := ⟨by decide +kernel, rfl⟩

theorem failures_of_downProd_are_told : Asks twoBeginnings (.history "prod".toList) ∧
    ∀ a, (downProd.handle .epoch twoBeginnings).response = some a →
      IsAnswered downProd twoBeginnings (.history "prod".toList) a := by
  have readable : (Route.history "prod".toList).IsReadable := by
    intro cs member
    rw [List.mem_singleton.1 member]
    exact ⟨"prod", by decide +kernel⟩
  exact ⟨twoBeginnings_asks, (failures_are_told downProd .epoch twoBeginnings_asks trivial readable).2⟩

/-- The refusal is neither the listing nor an error with a message. -/
theorem repeated_bound_is_refused_in_text : ∃ a, (downProd.handle .epoch twoBeginnings).response = some a ∧
    a.status = 400 ∧ ¬ IsTold (.history "prod".toList) a ∧ ¬ IsError a := by
  have decoded : Net.Percent.decodeText? "prod".toList = some "prod" := by decide +kernel
  have repeats : RepeatsBound (twoBeginnings.query.getD "") :=
    ⟨"from", List.mem_cons_self, by decide +kernel⟩
  obtain ⟨_, reason, window⟩ | ⟨once, _⟩ := windowOf_cases (twoBeginnings.query.getD "")
  · have plain := kind_of_text reason 400
    refine ⟨Response.sent (.ofText reason 400), ?_, rfl, (plain ·.kind), (plain ·.kind)⟩
    rw [response_of_asks twoBeginnings_asks, document_history_of_fault _ _ _ decoded window]
    rfl
  · exact absurd repeats once

end ClusterWatch.Api
