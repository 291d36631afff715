import ClusterWatch.Proofs.Api.Descriptions
import ClusterWatch.Proofs.Api.Secrets
import ClusterWatch.Proofs.Fetch.Names
import ClusterWatch.Proofs.Json.RoundTrip
import ClusterWatch.Proofs.Roster.Lookup

namespace ClusterWatch

/-- A cluster that a service is there for: one of a list, the one around it, or one that a directory tells. -/
inductive Roster.Watches : Roster → Cluster → Prop where
  | fixed (l : Fixed) {c : Cluster} (listed : c ∈ l.clusters) : Watches (ofFixed l) c
  | own (c : Cluster) : Watches (ofOwn c) c
  | directory (web : Net.Web) (d : Directory) {c : Cluster} (told : (d.lookup web c.identifier).result = .ok c) :
      Watches (ofDirectory web d) c

theorem Roster.Watches.lookup {r : Roster} {c : Cluster} (watches : r.Watches c) :
    (r.lookup c.identifier).result = .ok c := by
  cases watches with
  | fixed l listed => exact pick_of_mem l.distinct listed
  | own => exact pick_of_mem (List.nodup_singleton _) (List.mem_singleton_self c)
  | directory _ _ told => exact told

namespace Api

def AsksByName (r : Request) (c : Cluster) : Prop :=
  ∃ cs, Asks r (.status cs) ∧ Net.Percent.decodeText? cs = some c.identifier

structure AsksByDescription (r : Request) (c : Cluster) : Prop where
  asks : Asks r .fullStatus
  body : ∃ members, Json.read? r.body = some (.object members) ∧ (Details.ofCluster c).IsDescription members

def IsDeclared (r : Request) : Prop := (r.header? "content-type").any Net.MediaType.isJson = true

instance (r : Request) : Decidable (IsDeclared r) := inferInstanceAs (Decidable (_ = true))

structure IsTaken (r : Request) : Prop where
  declared : IsDeclared r
  fits : r.body.utf8ByteSize ≤ bodyLimit

def refusal (r : Request) : Failure :=
  if IsDeclared r then .invalidInput "Failed to buffer the request body: length limit exceeded"
  else .invalidInput "Expected request with `Content-Type: application/json`"

/-- The answers to a request by the name of a cluster and to one by its description. -/
structure AnswersAlike (c : Cluster) (byName byDescription : Option Response) : Prop where
  status : byDescription.map Response.status = byName.map Response.status
  told : ∀ a, byName = some a → a.status = 200 → byDescription = some a
  failed : ∀ a, byName = some a → a.status ≠ 200 → ∃ cause : Fetch.Cause,
    a = Response.sent (.ofFailure (cause.failure c.identifier)) ∧
      byDescription = some (Response.sent (.ofFailure (cause.failure c.address)))

theorem statusOf_failure (cause : Fetch.Cause) (name name' : String) :
    Response.statusOf (cause.failure name) = Response.statusOf (cause.failure name') := by
  cases cause <;> rfl

def answerOf (name : String) : Fetch.Outcome → Option Response
  | .ok s => some (.ofJson s.encode)
  | .error (some cause) => some (.ofFailure (cause.failure name))
  | .error none => none

theorem answersAlike_of_outcome (c : Cluster) (outcome : Fetch.Outcome) :
    AnswersAlike c ((answerOf c.identifier outcome).map Response.sent)
      ((answerOf c.address outcome).map Response.sent) := by
  match outcome with
  | .ok s =>
    refine ⟨rfl, fun a same _ => same, fun a same failed => ?_⟩
    cases same
    exact absurd rfl failed
  | .error (some cause) =>
    refine ⟨congrArg some (statusOf_failure cause _ _), fun a same told => ?_, fun a same _ => ?_⟩
    · cases same
      have range := Response.range_of_statusOf (cause.failure c.identifier)
      have status : Response.statusOf (cause.failure c.identifier) = 200 := told
      omega
    · cases same
      exact ⟨cause, rfl, rfl⟩
  | .error none =>
    refine ⟨rfl, fun a same _ => ?_, fun a same _ => ?_⟩ <;> cases same

section Requests

variable {api : Api} {c : Cluster} {r : Request}

theorem exists_status (ignores : api.connector.IgnoresNames) (c : Cluster) : ∃ outcome : Fetch.Outcome, ∀ name,
    (api.status { c with identifier := name }).response = answerOf name outcome := by
  obtain ⟨elapsed, asked, outcome, fetched⟩ := Fetch.exists_outcome ignores api.limits c
  refine ⟨outcome, fun name => ?_⟩
  unfold status
  rw [fetched name]
  match outcome with
  | .ok s => rfl
  | .error (some cause) => rfl
  | .error none => rfl

theorem response_of_asksByName (asks : AsksByName r c) (watches : api.roster.Watches c) (now : Instant) :
    (api.handle now r).response = (api.status c).response.map Response.sent := by
  obtain ⟨cs, asks, decoded⟩ := asks
  rw [response_of_asks asks, document_status _ _ _ decoded, Work.response_of_ok watches.lookup]

theorem described_of_taken (asks : AsksByDescription r c) (taken : IsTaken r)
    (addressed : c.address.toList.all Text.isBlank = false) : described r = .ok { c with identifier := c.address } := by
  obtain ⟨members, told, describes⟩ := asks.body
  have declared : (r.header? "content-type").any Net.MediaType.isJson = true := taken.declared
  have blank : (Details.ofCluster c).address.toList.all Text.isBlank = false := addressed
  unfold described
  simp only [declared, Nat.not_lt.2 taken.fits, Details.read_of_description told describes, blank, Bool.not_true,
    Bool.false_eq_true, if_false]
  rfl

theorem described_of_refused (refused : ¬ IsTaken r) : described r = .error (refusal r) := by
  unfold described refusal
  by_cases declared : IsDeclared r
  · have long : bodyLimit < r.body.utf8ByteSize := Nat.not_le.1 fun fits => refused ⟨declared, fits⟩
    have kind : (r.header? "content-type").any Net.MediaType.isJson = true := declared
    simp only [declared, kind, long, Bool.not_true, Bool.false_eq_true, if_false, if_true]
    rfl
  · have kind : (r.header? "content-type").any Net.MediaType.isJson = false := Bool.eq_false_iff.2 declared
    simp only [declared, kind, Bool.not_false, if_false, if_true]
    rfl

theorem response_of_taken (asks : AsksByDescription r c) (taken : IsTaken r)
    (addressed : c.address.toList.all Text.isBlank = false) (now : Instant) : (api.handle now r).response =
      (api.status { c with identifier := c.address }).response.map Response.sent := by
  rw [response_of_asks asks.asks]
  simp only [document, described_of_taken asks taken addressed]

theorem response_of_refused (asks : Asks r .fullStatus) (refused : ¬ IsTaken r) (now : Instant) :
    (api.handle now r).response = some (Response.sent (.ofFailure (refusal r))) := by
  rw [response_of_asks asks]
  simp only [document, described_of_refused refused]
  rfl

theorem not_isTaken_of_token (asks : AsksByDescription r c) {token : String} (has : c.token = some token)
    (long : bodyLimit ≤ token.length) : ¬ IsTaken r := by
  intro taken
  obtain ⟨members, told, describes⟩ := asks.body
  have own : (Details.ofCluster c).IsMember "token" (Json.ofOption .string c.token) := .token
  rw [has] at own
  obtain ⟨⟨name, j⟩, there, same⟩ := List.mem_map.1 (describes.complete _ _ own nofun)
  obtain rfl : j = .string token := (describes.own _ there).eq own same
  have longer := Details.length_lt_of_description told describes there
  have fits := taken.fits
  omega

end Requests

/-- What answers for a cluster over the web goes by where the cluster is and by its secrets. Where that is so, whatever a
control plane does comes to the same answers to a request by name and to one by description, but for the name of the
cluster in a failure; and a description that is not declared as JSON, or too long, is refused. -/
theorem described_clusters_answer_alike :
    (∀ web, Connector.IgnoresNames (Kube.Client.connector web)) ∧
    ∀ (api : Api) (c : Cluster), api.connector.IgnoresNames → api.roster.Watches c →
      c.address.toList.all Text.isBlank = false →
      ∀ now now' byName byDescription, AsksByName byName c → AsksByDescription byDescription c →
        (IsTaken byDescription →
          AnswersAlike c (api.handle now byName).response (api.handle now' byDescription).response) ∧
        (¬ IsTaken byDescription →
          (api.handle now' byDescription).response = some (Response.sent (.ofFailure (refusal byDescription)))) := by
  refine ⟨Kube.Client.connector_ignoresNames, ?_⟩
  intro api c ignores watches addressed now now' byName byDescription asks asks'
  refine ⟨fun taken => ?_, fun refused => response_of_refused asks'.asks refused now'⟩
  obtain ⟨outcome, answered⟩ := exists_status ignores c
  have named : (api.status c).response = answerOf c.identifier outcome := answered c.identifier
  rw [response_of_asksByName asks watches now, response_of_taken asks' taken addressed now', named, answered c.address]
  exact answersAlike_of_outcome c outcome

def describing (token : String) (headers : List (String × String)) : Request where
  method := "POST"
  path := "/cluster/full-status"
  headers := headers
  body := (Json.object [("address", .string "http://a"), ("token", .string token)]).print

def asJson : List (String × String) := [("content-type", "application/json")]

theorem fullStatus_path : Route.ofPath "/cluster/full-status" = .fullStatus := by decide +kernel

theorem describing_asks (token : String) (headers : List (String × String)) :
    AsksByDescription (describing token headers) (prodWith token) where
  asks := ⟨fullStatus_path, rfl⟩
  body := by
    refine ⟨_, Json.read?_print rfl, ?_, ?_, ?_⟩
    · intro m member
      obtain rfl | rfl := List.mem_pair.1 member
      · exact .address
      · exact .token
    · show ["address", "token"].Nodup
      decide
    · intro name j own told
      cases own with
      | address => exact List.mem_cons_self
      | username => exact absurd rfl told
      | password => exact absurd rfl told
      | token => exact List.mem_cons_of_mem _ List.mem_cons_self

theorem prodStatus_asks (token : String) : AsksByName prodStatus (prodWith token) :=
  ⟨"prod".toList, ⟨by decide +kernel, rfl⟩, by cbv⟩

theorem prodWith_watched (token : String) : (Roster.ofFixed (onlyProd token)).Watches (prodWith token) :=
  .fixed (onlyProd token) (List.mem_singleton_self _)

def overNothing : Api where
  roster := .ofFixed (onlyProd "s3cret")
  connector := Kube.Client.connector fun _ => none
  limits := ⟨.ofSeconds 15, .ofSeconds 60⟩
  history := History.documents ∅

theorem unreachable_prod_answers_alike : IsTaken (describing "s3cret" asJson) ∧
    AnswersAlike (prodWith "s3cret") (overNothing.handle .epoch prodStatus).response
      (overNothing.handle .epoch (describing "s3cret" asJson)).response := by
  have taken : IsTaken (describing "s3cret" asJson) := ⟨by unfold IsDeclared; cbv, by cbv⟩
  obtain ⟨ignores, alike⟩ := described_clusters_answer_alike
  have both := alike overNothing (prodWith "s3cret") (ignores _) (prodWith_watched "s3cret") (by decide) .epoch .epoch
    prodStatus (describing "s3cret" asJson) (prodStatus_asks "s3cret") (describing_asks "s3cret" asJson)
  exact ⟨taken, both.1 taken⟩

def emptyPlane : ControlPlane where
  nodes := ⟨0, .answer {}⟩
  pods _ := ⟨0, .answer {}⟩
  events _ := ⟨0, .answer {}⟩

def overEmptyPlane (token : String) : Api where
  roster := .ofFixed (onlyProd token)
  connector := fun _ => ⟨0, .answer emptyPlane⟩
  limits := ⟨.ofSeconds 15, .ofSeconds 60⟩
  history := History.documents ∅

structure Disagrees (api : Api) (c : Cluster) (byName byDescription : Request) : Prop where
  ignores : api.connector.IgnoresNames
  watches : api.roster.Watches c
  addressed : c.address.toList.all Text.isBlank = false
  asks : AsksByName byName c
  describes : AsksByDescription byDescription c
  told : (api.handle .epoch byName).response.map Response.status = some 200
  refused : (api.handle .epoch byDescription).response.map Response.status = some 400

theorem disagrees_of_refused {token : String} {headers : List (String × String)}
    (refused : ¬ IsTaken (describing token headers)) :
    Disagrees (overEmptyPlane token) (prodWith token) prodStatus (describing token headers) where
  ignores := fun _ _ => rfl
  watches := prodWith_watched token
  addressed := by
    show "http://a".toList.all Text.isBlank = false
    decide
  asks := prodStatus_asks token
  describes := describing_asks token headers
  told := by
    have watches : (overEmptyPlane token).roster.Watches (prodWith token) := prodWith_watched token
    have answered : ∃ s, (fetchSnapshot (overEmptyPlane token).connector (overEmptyPlane token).limits
        (prodWith token)).result = .ok s := fetch_of_no_nodes rfl rfl rfl
    obtain ⟨s, fetched⟩ := answered
    rw [response_of_asksByName (prodStatus_asks token) watches, response_of_fetched fetched]
    rfl
  refused := by
    have status : Response.statusOf (refusal (describing token headers)) = 400 := by
      unfold refusal
      split <;> rfl
    rw [response_of_refused (describing_asks token headers).asks refused]
    exact congrArg some status

def longToken : String := String.ofList (List.replicate bodyLimit 'x')

theorem undeclared_and_long_descriptions_are_refused :
    Disagrees (overEmptyPlane "s3cret") (prodWith "s3cret") prodStatus (describing "s3cret" []) ∧
      Disagrees (overEmptyPlane longToken) (prodWith longToken) prodStatus (describing longToken asJson) := by
  refine ⟨disagrees_of_refused fun taken => ?_, disagrees_of_refused ?_⟩
  · cases taken.declared
  · have long : bodyLimit ≤ longToken.length := by
      rw [longToken, String.length_ofList, List.length_replicate]
    exact not_isTaken_of_token (describing_asks longToken asJson) rfl long

end Api

end ClusterWatch
