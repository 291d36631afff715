import ClusterWatch.Proofs.Api.Responses
import ClusterWatch.Kube.Client
import Mathlib

namespace ClusterWatch

namespace Cluster

/-- The same but for the values of the secrets that are set. -/
structure SameShown (c d : Cluster) : Prop where
  identifier : c.identifier = d.identifier
  address : c.address = d.address
  username : c.username.isSome = d.username.isSome
  password : c.password.isSome = d.password.isSome
  token : c.token.isSome = d.token.isSome

variable {c d : Cluster}

theorem map_placeholder {s t : Option String} (same : s.isSome = t.isSome) :
    (s.map fun _ => placeholder) = t.map fun _ => placeholder := by
  cases s <;> cases t
  · rfl
  · cases same
  · cases same
  · rfl

theorem SameShown.obfuscated (same : c.SameShown d) : c.obfuscated = d.obfuscated := by
  unfold Cluster.obfuscated
  rw [same.identifier, same.address, map_placeholder same.username, map_placeholder same.password,
    map_placeholder same.token]

theorem SameShown.summary (same : c.SameShown d) : c.summary = d.summary := by
  unfold Cluster.summary
  rw [same.obfuscated]

def hasSendableToken (c : Cluster) : Bool := c.token.all Net.isHeaderValue

end Cluster

open Cluster

section Lists

variable {cs ds : List Cluster} {R : Cluster → Cluster → Prop}

theorem map_obfuscated (same : List.Forall₂ SameShown cs ds) : cs.map obfuscated = ds.map obfuscated := by
  rw [← List.forall₂_eq_eq_eq, List.forall₂_map_left_iff, List.forall₂_map_right_iff]
  exact same.imp fun _ _ alike => alike.obfuscated

theorem forall₂_of_mem {S : Cluster → Cluster → Prop} (all : List.Forall₂ R cs ds)
    (each : ∀ c ∈ cs, ∀ d ∈ ds, R c d → S c d) : List.Forall₂ S cs ds := by
  induction all with
  | nil => exact .nil
  | cons first rest ih =>
    refine .cons (each _ List.mem_cons_self _ List.mem_cons_self first) (ih ?_)
    intro c left d right
    exact each c (List.mem_cons_of_mem _ left) d (List.mem_cons_of_mem _ right)

theorem forall₂_and {S : Cluster → Cluster → Prop} (all : List.Forall₂ R cs ds) (also : List.Forall₂ S cs ds) :
    List.Forall₂ (fun c d => R c d ∧ S c d) cs ds := by
  induction all with
  | nil => exact .nil
  | cons first rest ih =>
    cases also with
    | cons first' rest' => exact .cons ⟨first, first'⟩ (ih rest')

theorem Roster.pick_cons (c : Cluster) (cs : List Cluster) (identifier : String) :
    pick (c :: cs) identifier = if c.identifier = identifier then .ok c else pick cs identifier := by
  unfold pick
  by_cases here : c.identifier = identifier
  · rw [List.find?_cons_of_pos (by simpa using here), if_pos here]
  · rw [List.find?_cons_of_neg (by simpa using here), if_neg here]

theorem Roster.pick_alike (identified : ∀ c d, R c d → c.identifier = d.identifier) (all : List.Forall₂ R cs ds)
    (identifier : String) :
    (∃ c d, R c d ∧ pick cs identifier = .ok c ∧ pick ds identifier = .ok d) ∨
      pick cs identifier = .error (unknown identifier) ∧ pick ds identifier = .error (unknown identifier) := by
  induction all with
  | nil => exact .inr ⟨rfl, rfl⟩
  | @cons c d cs ds first rest ih =>
    have same := identified c d first
    rw [pick_cons, pick_cons, ← same]
    by_cases here : c.identifier = identifier
    · rw [if_pos here, if_pos here]
      exact .inl ⟨c, d, first, rfl, rfl⟩
    · rw [if_neg here, if_neg here]
      exact ih

end Lists

theorem fetchSnapshot_congr {connector : Connector} {limits : Limits} {c d : Cluster}
    (identifier : c.identifier = d.identifier) (reached : connector c = connector d) :
    fetchSnapshot connector limits c = fetchSnapshot connector limits d := by
  unfold fetchSnapshot Fetch.course
  rw [identifier, reached]

namespace Api

variable {l l' : Roster.Fixed}

def watching (api : Api) (l : Roster.Fixed) : Api := { api with roster := .ofFixed l }

def SameAnswered (connector : Connector) (c d : Cluster) : Prop :=
  c.SameShown d ∧ connector c = connector d

theorem status_congr {api : Api} {c d : Cluster} (same : SameAnswered api.connector c d) :
    (api.status c).response = (api.status d).response := by
  have fetched : fetchSnapshot api.connector api.limits c = fetchSnapshot api.connector api.limits d :=
    fetchSnapshot_congr same.1.identifier same.2
  unfold status
  rw [fetched]

theorem response_congr {a b : Api} {now : Instant} {r : Request}
    (alike : ∀ route, (a.document now r route).response = (b.document now r route).response) :
    (a.handle now r).response = (b.handle now r).response := by
  unfold handle
  by_cases options : r.method = "OPTIONS"
  · simp only [options, if_true]
  · simp only [options, if_false]
    by_cases refused : (decide (Route.ofPath r.path ≠ .file) && !(Route.ofPath r.path).methods.contains r.method) = true
    · simp only [refused, if_true]
    · simp only [refused, Bool.false_eq_true, if_false, alike]

theorem document_congr {api : Api} (same : List.Forall₂ (SameAnswered api.connector) l.clusters l'.clusters)
    (now : Instant) (r : Request) (route : Route) :
    ((api.watching l).document now r route).response = ((api.watching l').document now r route).response := by
  have picked := Roster.pick_alike (fun _ _ alike => alike.1.identifier) same
  cases route with
  | clusters =>
    have shown := map_obfuscated (same.imp fun _ _ alike => alike.1)
    exact congrArg (fun cs : List Cluster => some (Response.ofJson (Json.ofList encode cs))) shown
  | status cluster =>
    refine response_named_congr fun names => ?_
    obtain ⟨c, d, alike, left, right⟩ | ⟨left, right⟩ := picked (names.headD "")
    · rw [Work.response_of_ok left, Work.response_of_ok right]
      exact status_congr alike
    · rw [Work.response_of_error left, Work.response_of_error right]
  | history cluster =>
    refine response_named_congr fun names => ?_
    cases windowOf (r.query.getD "") with
    | error reason => rfl
    | ok w =>
      unfold entries
      obtain ⟨c, d, alike, left, right⟩ | ⟨left, right⟩ := picked (names.headD "")
      · rw [Work.response_of_ok left, Work.response_of_ok right, alike.1.identifier]
        rfl
      · rw [Work.response_of_error left, Work.response_of_error right]
  | entry => rfl
  | fullStatus => rfl
  | health => rfl
  | file => rfl

end Api

namespace Net

variable {address : String} {hs hs' query : List (String × String)} {web : Web}

def Web.AnswersByUrl (web : Web) : Prop := ∀ r r' : Request, r.url = r'.url → web r = web r'

/-- The address is looked at before the headers and after them, but whether they can be sent is all that counts. -/
theorem url_ofText_congr (sendable : (hs.all fun h => isHeaderValue h.2) = hs'.all fun h => isHeaderValue h.2) :
    (Request.ofText address hs query).map Request.url = (Request.ofText address hs' query).map Request.url := by
  unfold Request.ofText
  rw [sendable]
  cases Url.ofText? address with
  | none => rfl
  | some url =>
    dsimp only
    generalize (decide ((url.addQuery query).scheme ≠ "http") && decide ((url.addQuery query).scheme ≠ "https")) =
      foreign
    cases url.hasHost
    · rfl
    · cases hs'.all fun h => isHeaderValue h.2
      · rfl
      · cases foreign <;> rfl

theorem answer_congr (byUrl : web.AnswersByUrl) {asked asked' : Except SendFault Request}
    (same : asked.map Request.url = asked'.map Request.url) : asked.bind web.answer = asked'.bind web.answer := by
  cases asked with
  | error fault =>
    cases asked' with
    | error fault' =>
      cases same
      rfl
    | ok r => cases same
  | ok r =>
    cases asked' with
    | error fault => cases same
    | ok r' =>
      have url : r.url = r'.url := Except.ok.inj same
      show web.answer r = web.answer r'
      unfold Web.answer
      rw [byUrl r r' url, url]

theorem isHeaderValue_append (s t : String) : isHeaderValue (s ++ t) = (isHeaderValue s && isHeaderValue t) := by
  unfold isHeaderValue
  rw [String.toList_append, List.all_append]

theorem Base64.digit_mem_alphabet (n : Nat) : digit n ∈ alphabet := by
  have inside : n % 64 < alphabet.length := Nat.mod_lt n (by decide)
  unfold digit
  rw [List.getD_eq_getElem?_getD, List.getElem?_eq_getElem inside]
  exact List.getElem_mem inside

theorem Base64.encode_subset : ∀ bs : List UInt8, encode bs ⊆ '=' :: alphabet
  | [] => List.nil_subset _
  | [_] => by simp [encode, digit_mem_alphabet]
  | [_, _] => by simp [encode, digit_mem_alphabet]
  | a :: b :: c :: rest => by simp [encode, digit_mem_alphabet, encode_subset rest]

theorem isHeaderValue_basic (user : String) (password : Option String) :
    isHeaderValue (basicAuthorization user password).2 = true := by
  have plain : ('=' :: Base64.alphabet).all (fun c => c = '\t' || (0x20 ≤ c.toNat && c.toNat ≠ 0x7F)) = true := by
    decide
  have scheme : isHeaderValue "Basic " = true := by decide
  have encoded : isHeaderValue (Base64.encodeText (user ++ ":" ++ password.getD "")) = true := by
    unfold isHeaderValue Base64.encodeText
    rw [String.toList_ofList]
    exact List.all_eq_true.2 fun c member => List.all_eq_true.1 plain c (Base64.encode_subset _ member)
  unfold basicAuthorization
  rw [isHeaderValue_append, scheme, encoded, Bool.and_true]

end Net

namespace Kube.Client

variable {c d : Cluster}

theorem sendable_headers (c : Cluster) :
    ((ofCluster c).headers.all fun h => Net.isHeaderValue h.2) = c.hasSendableToken := by
  have scheme : Net.isHeaderValue "Bearer " = true := by decide
  have untold (h : c.token.filter (!·.isEmpty) = none) :
      ((ofCluster c).headers.all fun h => Net.isHeaderValue h.2) = true := by
    unfold ofCluster headers Cluster.credentials
    rw [h]
    cases c.username.filter (!·.isEmpty) with
    | none => rfl
    | some user => simp only [List.all_cons, List.all_nil, Net.isHeaderValue_basic, Bool.and_true]
  unfold hasSendableToken
  cases told : c.token with
  | none =>
    rw [untold (by rw [told]; rfl)]
    rfl
  | some token =>
    by_cases empty : token = ""
    · rw [untold (by rw [told, empty]; rfl), empty]
      rfl
    · have kept : (some token).filter (!·.isEmpty) = some token := by simp [empty]
      unfold ofCluster headers Cluster.credentials
      simp only [told, kept, List.all_cons, List.all_nil, Net.isHeaderValue_append, scheme, Bool.true_and,
        Bool.and_true, Option.all_some]

theorem ask_congr {α : Type} {web : Net.Web} (byUrl : web.AnswersByUrl) (address : c.address = d.address)
    (sendable : c.hasSendableToken = d.hasSendableToken) (q : Question) (read : Json.Decoder α) :
    (ofCluster c).ask web q read = (ofCluster d).ask web q read := by
  have url : (ofCluster c).urlOf q = (ofCluster d).urlOf q := by
    unfold urlOf ofCluster
    rw [address]
  have headers : ((ofCluster c).headers.all fun h => Net.isHeaderValue h.2) =
      (ofCluster d).headers.all fun h => Net.isHeaderValue h.2 := by
    rw [sendable_headers, sendable_headers, sendable]
  have answered : ((ofCluster c).request q).bind web.answer = ((ofCluster d).request q).bind web.answer := by
    unfold request
    rw [url]
    exact Net.answer_congr byUrl (Net.url_ofText_congr headers)
  unfold ask
  rw [url, answered]

theorem connector_congr {web : Net.Web} (byUrl : web.AnswersByUrl) (address : c.address = d.address)
    (sendable : c.hasSendableToken = d.hasSendableToken) : connector web c = connector web d := by
  have asked {α : Type} := @ask_congr c d α web byUrl address sendable
  have version : (ofCluster c).version web = (ofCluster d).version web := asked _ _
  have plane : (ofCluster c).controlPlane web = (ofCluster d).controlPlane web := by
    unfold controlPlane nodes pods events
    simp only [asked]
  unfold connector
  simp only [version, plane]

end Kube.Client

namespace Api

variable {l l' : Roster.Fixed}

/-- Two lists of clusters that differ in secrets alone get the same responses where what is learnt of a control plane
depends on its address alone, and also from a client over the web if the same clusters have tokens that can be sent;
what is shown of a cluster itself is the same in any case. -/
theorem secrets_do_not_show (same : List.Forall₂ SameShown l.clusters l'.clusters) :
    (∀ api : Api,
      (∀ c ∈ l.clusters, ∀ d ∈ l'.clusters, c.address = d.address → api.connector c = api.connector d) →
        ∀ now r, ((api.watching l).handle now r).response = ((api.watching l').handle now r).response) ∧
    (∀ (api : Api) (web : Net.Web), api.connector = Kube.Client.connector web → web.AnswersByUrl →
      List.Forall₂ (fun c d => c.hasSendableToken = d.hasSendableToken) l.clusters l'.clusters →
        ∀ now r, ((api.watching l).handle now r).response = ((api.watching l').handle now r).response) ∧
    List.Forall₂ (fun c d => c.obfuscated = d.obfuscated ∧ c.summary = d.summary) l.clusters l'.clusters := by
  -- What a cluster's control plane answers is all that is left to compare.
  refine ⟨?_, ?_, same.imp fun c d alike => ⟨alike.obfuscated, alike.summary⟩⟩
  · intro api byAddress now r
    have answered : List.Forall₂ (SameAnswered api.connector) l.clusters l'.clusters :=
      forall₂_of_mem same fun c left d right alike => ⟨alike, byAddress c left d right alike.address⟩
    exact response_congr (document_congr answered now r)
  · intro api web client byUrl sendable now r
    have answered : List.Forall₂ (SameAnswered api.connector) l.clusters l'.clusters := by
      refine (forall₂_and same sendable).imp fun c d alike => ⟨alike.1, ?_⟩
      rw [client]
      exact Kube.Client.connector_congr byUrl alike.1.address alike.2
    exact response_congr (document_congr answered now r)

def prodWith (token : String) : Cluster where
  identifier := "prod"
  address := "http://a"
  token := some token

def onlyProd (token : String) : Roster.Fixed :=
  .single (prodWith token) prod_ne_empty

def bareBody : Net.Response := ⟨200, "\x7b\"gitVersion\": \"v1\", \"items\": []\x7d"⟩

def barePlane : Net.Web := fun _ => some bareBody

def overBarePlane : Api where
  roster := .ofFixed (onlyProd "")
  connector := Kube.Client.connector barePlane
  limits := ⟨.ofSeconds 15, .ofSeconds 60⟩
  history := History.documents ∅

def prodStatus : Request where
  path := "/clusters/prod/status"

def answerWith (token : String) : Option Response :=
  ((overBarePlane.watching (onlyProd token)).handle (.ofNanos 0) prodStatus).response

theorem onlyProd_alike (s t : String) : List.Forall₂ SameShown (onlyProd s).clusters (onlyProd t).clusters :=
  .cons ⟨rfl, rfl, rfl, rfl, rfl⟩ .nil

theorem barePlane_byUrl : barePlane.AnswersByUrl := fun _ _ _ => rfl

theorem other_token_does_not_show : answerWith "s3cret" = answerWith "another" := by
  have same := (secrets_do_not_show (onlyProd_alike "s3cret" "another")).2.1
  exact same overBarePlane barePlane rfl barePlane_byUrl (.cons (by decide) .nil) (.ofNanos 0) prodStatus

theorem ask_barePlane {token : String} {α : Type} {read : Json.Decoder α} {a : α} (q : Question)
    (sent : ∃ r, (Kube.Client.ofCluster (prodWith token)).request q = .ok r) (told : bareBody.read? read = some a) :
    (Kube.Client.ofCluster (prodWith token)).ask barePlane q read = .ok a := by
  obtain ⟨r, sent⟩ := sent
  unfold Kube.Client.ask
  rw [sent]
  show Kube.Client.answerOf _ read bareBody = .ok a
  unfold Kube.Client.answerOf
  rw [told]
  rfl

theorem exists_request {c : Cluster} {q : Question} {url : Net.Url} (sendable : c.hasSendableToken = true)
    (read : Net.Url.ofText? ((Kube.Client.ofCluster c).urlOf q) = some url) (hosted : url.hasHost = true)
    (scheme : url.scheme = "http") : ∃ r, (Kube.Client.ofCluster c).request q = .ok r := by
  have kept : (url.addQuery (Kube.Client.queryOf q)).scheme = "http" := scheme
  unfold Kube.Client.request Net.Request.ofText
  rw [read, Kube.Client.sendable_headers c, sendable]
  dsimp only
  rw [hosted, kept]
  exact ⟨_, rfl⟩

theorem fetch_of_no_nodes {connector : Connector} {limits : Limits} {c : Cluster} {plane : ControlPlane}
    {list : Kube.Listing Kube.Node} (connected : connector c = ⟨0, .answer plane⟩)
    (told : plane.nodes = ⟨0, .answer list⟩) (none : list.items = []) :
    ∃ s, (fetchSnapshot connector limits c).result = .ok s := by
  have atOnce {α : Type} (ending : Ending α) (limit : Duration) : (Call.mk 0 ending).bounded limit = ⟨0, ending⟩ :=
    Call.bounded_of_le (Nat.zero_le _)
  unfold fetchSnapshot Fetch.course
  simp only [connected, told, none, atOnce, Fetch.askAll]
  exact ⟨_, rfl⟩

theorem fetch_of_fault {connector : Connector} {limits : Limits} {c : Cluster} {f : ClientFault}
    (failed : connector c = ⟨0, .fault f⟩) :
    (fetchSnapshot connector limits c).result = .error (.failure (.connection c.identifier f.message)) := by
  unfold fetchSnapshot Fetch.course
  rw [failed, Call.bounded_of_le (Nat.zero_le _)]
  rfl

theorem response_prodStatus (api : Api) (token : String) :
    ((api.watching (onlyProd token)).handle (.ofNanos 0) prodStatus).response =
      (api.status (prodWith token)).response.map Response.sent := by
  have path : Route.ofPath prodStatus.path = .status "prod".toList := by decide +kernel
  have decoded : Net.Percent.decodeText? "prod".toList = some "prod" := by cbv
  rw [response_of_asks ⟨path, rfl⟩, document_status _ _ _ decoded]
  rfl

theorem answerWith_eq (token : String) :
    answerWith token = (overBarePlane.status (prodWith token)).response.map Response.sent :=
  response_prodStatus overBarePlane token

/-- No header holds the end of a line, so that a token with one is not sent at all. -/
theorem broken_token_shows :
    List.Forall₂ SameShown (onlyProd "s3cret").clusters (onlyProd "s3cret\n").clusters ∧ barePlane.AnswersByUrl ∧
      (answerWith "s3cret").map Response.status = some 200 ∧ (answerWith "s3cret\n").map Response.status = some 500 := by
  refine ⟨onlyProd_alike _ _, barePlane_byUrl, ?_, ?_⟩
  -- The control plane is asked for its version, and then for its nodes, of which there are none.
  · have sendable : (prodWith "s3cret").hasSendableToken = true := by decide
    have version : (Kube.Client.ofCluster (prodWith "s3cret")).version barePlane = .ok "v1" :=
      ask_barePlane .version (exists_request sendable (by cbv) (by cbv) (by cbv)) (by cbv)
    have counted : (bareBody.read? (Kube.Listing.decode Kube.Node.decode)).map (·.items.length) = some 0 := by cbv
    obtain ⟨list, read, none⟩ := Option.map_eq_some_iff.1 counted
    have nodes : (Kube.Client.ofCluster (prodWith "s3cret")).nodes barePlane = .ok list :=
      ask_barePlane .nodes (exists_request sendable (by cbv) (by cbv) (by cbv)) read
    have connected : Kube.Client.connector barePlane (prodWith "s3cret") =
        ⟨0, .answer ((Kube.Client.ofCluster (prodWith "s3cret")).controlPlane barePlane)⟩ := by
      unfold Kube.Client.connector
      simp only [version]
      rfl
    have told : ((Kube.Client.ofCluster (prodWith "s3cret")).controlPlane barePlane).nodes = ⟨0, .answer list⟩ := by
      unfold Kube.Client.controlPlane
      rw [nodes]
      rfl
    obtain ⟨s, fetched⟩ :
        ∃ s, (fetchSnapshot overBarePlane.connector overBarePlane.limits (prodWith "s3cret")).result = .ok s :=
      fetch_of_no_nodes connected told (List.length_eq_zero_iff.1 none)
    rw [answerWith_eq, response_of_fetched fetched]
    rfl
  -- The first request is not even sent.
  · have refused : (Kube.Client.ofCluster (prodWith "s3cret\n")).request .version = .error .malformed := by cbv
    have version : (Kube.Client.ofCluster (prodWith "s3cret\n")).version barePlane =
        .error (.transport ((Kube.Client.ofCluster (prodWith "s3cret\n")).urlOf .version) "builder error") := by
      unfold Kube.Client.version Kube.Client.ask
      rw [refused]
      rfl
    have failed : Kube.Client.connector barePlane (prodWith "s3cret\n") =
        ⟨0, .fault (.transport ((Kube.Client.ofCluster (prodWith "s3cret\n")).urlOf .version) "builder error")⟩ := by
      unfold Kube.Client.connector
      simp only [version]
      rfl
    have fetched : (fetchSnapshot overBarePlane.connector overBarePlane.limits (prodWith "s3cret\n")).result = _ :=
      fetch_of_fault failed
    rw [answerWith_eq, response_of_failed fetched]
    rfl

end Api

end ClusterWatch
