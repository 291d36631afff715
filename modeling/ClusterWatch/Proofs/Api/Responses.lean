import ClusterWatch.Api

namespace ClusterWatch

def Roster.Fixed.single (c : Cluster) (named : c.identifier ≠ "") : Roster.Fixed where
  clusters := [c]
  named := by
    intro d member
    rwa [List.mem_singleton.1 member]
  distinct := by simp

theorem prod_ne_empty : "prod" ≠ "" := by decide

def onlyProduction : Roster.Fixed :=
  .single { identifier := "prod", address := "https://prod.example" } prod_ne_empty

namespace Api

namespace Work

variable {α : Type} {d : Net.Dialogue α} {next : α → Work}

theorem response_of_error {f : Failure} (failed : d.result = .error f) :
    (ofDialogue d next).response = some (.ofFailure f) := by
  unfold ofDialogue
  rw [failed]

theorem response_of_ok {a : α} (told : d.result = .ok a) : (ofDialogue d next).response = (next a).response := by
  unfold ofDialogue
  rw [told]

end Work

def Route.method : Route → String
  | .fullStatus => "POST"
  | _ => "GET"

structure Asks (r : Request) (route : Route) : Prop where
  path : Route.ofPath r.path = route
  method : r.method = route.method

def Response.sent (a : Response) : Response := { a with headers := anyOrigin ++ a.headers }

theorem Response.range_of_statusOf (f : Failure) : 400 ≤ statusOf f ∧ statusOf f < 600 := by
  unfold statusOf
  split <;> decide

theorem Route.method_mem (route : Route) : route.method ∈ route.methods := by
  cases route <;> simp only [method, methods, List.mem_cons, true_or]

theorem Route.method_ne (route : Route) : route.method ≠ "OPTIONS" ∧ route.method ≠ "HEAD" := by
  unfold method
  split <;> decide

theorem response_of_asks {route : Route} {r : Request} (asks : Asks r route) (api : Api) (now : Instant) :
    (api.handle now r).response = (api.document now r route).response.map Response.sent := by
  obtain ⟨notOptions, notHead⟩ := route.method_ne
  have known : route.methods.contains route.method = true := List.contains_iff_mem.2 route.method_mem
  unfold handle
  simp only [asks.path, asks.method, notOptions, notHead, known, if_false, Bool.not_true, Bool.and_false,
    Bool.false_eq_true]
  rfl

section Names

variable {first second : String} {cs es : List Char} {next : List String → Work}

theorem nameOf_of_decoded {name : String} (decoded : Net.Percent.decodeText? cs = some name) :
    nameOf first cs = .ok name := by
  unfold nameOf
  rw [decoded]

theorem named_of_decoded {name : String} (decoded : Net.Percent.decodeText? cs = some name) :
    named [(first, cs)] next = next [name] := by
  simp only [named, List.mapM_cons, List.mapM_nil, nameOf_of_decoded decoded, pure_bind]
  rfl

theorem named_of_both {name text : String} (decoded : Net.Percent.decodeText? cs = some name)
    (decoded' : Net.Percent.decodeText? es = some text) :
    named [(first, cs), (second, es)] next = next [name, text] := by
  simp only [named, List.mapM_cons, List.mapM_nil, nameOf_of_decoded decoded, nameOf_of_decoded decoded', pure_bind]
  rfl

theorem response_named_congr {pairs : List (String × List Char)} {next next' : List String → Work}
    (alike : ∀ names, (next names).response = (next' names).response) :
    (named pairs next).response = (named pairs next').response := by
  unfold named
  split
  · rfl
  · exact alike _

end Names

section Fetches

variable {api : Api} {c : Cluster}

theorem response_of_fetched {s : Snapshot} (fetched : (fetchSnapshot api.connector api.limits c).result = .ok s) :
    (api.status c).response = some (.ofJson s.encode) := by
  simp only [status, fetched]

theorem response_of_failed {f : Failure}
    (failed : (fetchSnapshot api.connector api.limits c).result = .error (.failure f)) :
    (api.status c).response = some (.ofFailure f) := by
  simp only [status, failed]

theorem response_of_crashed (crashed : (fetchSnapshot api.connector api.limits c).result = .error .crash) :
    (api.status c).response = none := by
  simp only [status, crashed]

end Fetches

section Ids

variable {api : Api} {text : String}

theorem entry_of_malformed (malformed : Uuid.ofText? text = none) : (api.entry text).response =
    some (.ofFailure (.invalidInput (Text.quoted text ++ " is not a history entry id"))) := by
  simp only [entry, malformed, Work.done]

theorem entry_of_fetched {id : Uuid} {s : Snapshot} (known : Uuid.ofText? text = some id)
    (fetched : api.history.fetch id = .ok s) : (api.entry text).response = some (.ofJson s.encode) := by
  simp only [entry, known, Work.ofExcept, fetched, Work.done]

theorem entry_of_failed {id : Uuid} {f : Failure} (known : Uuid.ofText? text = some id)
    (failed : api.history.fetch id = .error f) : (api.entry text).response = some (.ofFailure f) := by
  simp only [entry, known, Work.ofExcept, failed, Work.done]

end Ids

section Documents

variable {cluster : List Char} {name : String} (api : Api) (now : Instant) (r : Request)

theorem document_status (decoded : Net.Percent.decodeText? cluster = some name) :
    api.document now r (.status cluster) = .ofDialogue (api.roster.lookup name) api.status := by
  simp only [document, named_of_decoded decoded]
  rfl

theorem document_history_of_fault {reason : String} (decoded : Net.Percent.decodeText? cluster = some name)
    (faulty : windowOf (r.query.getD "") = .error reason) :
    api.document now r (.history cluster) = .done (.ofText reason 400) := by
  simp only [document, named_of_decoded decoded, faulty]

theorem document_history {w : History.Window} (decoded : Net.Percent.decodeText? cluster = some name)
    (asked : windowOf (r.query.getD "") = .ok w) : api.document now r (.history cluster) = api.entries now name w := by
  simp only [document, named_of_decoded decoded, asked]
  rfl

theorem document_entry {id : List Char} {text : String} (decoded : Net.Percent.decodeText? cluster = some name)
    (decoded' : Net.Percent.decodeText? id = some text) : api.document now r (.entry cluster id) = api.entry text := by
  simp only [document, named_of_both decoded decoded']
  rfl

end Documents

end Api

end ClusterWatch
