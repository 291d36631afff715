import ClusterWatch.Api
import ClusterWatch.Archive
import ClusterWatch.History.Database
import ClusterWatch.Kube.Client
import ClusterWatch.Roster.Directory
import ClusterWatch.Roster.Texts
import ClusterWatch.Settings.CommandLine

namespace ClusterWatch

structure Surroundings where
  environment : Settings.Environment := []
  disk : Disk := {}
  here : Place := []

def Surroundings.told (around : Surroundings) (name : String) : Except Failure String :=
  match (around.environment.lookup name).filter (!·.isEmpty) with
  | some value => .ok value
  | none => .error (.configuration (name ++ " is not set, not running in a cluster?"))

namespace Roster

def tokenPath : String := "/var/run/secrets/kubernetes.io/serviceaccount/token"

def surrounding (around : Surroundings) : Except Failure Cluster := do
  let host ← around.told "KUBERNETES_SERVICE_HOST"
  let port ← around.told "KUBERNETES_SERVICE_PORT"
  match around.disk.read around.here tokenPath with
  | .ok token => return own host port token
  | .error fault =>
    throw (.configuration ("reading service account token: " ++ fault.message))

/-- The list in a file goes before a list in the settings. -/
def fixedOf (around : Surroundings) (s : Settings) : Except Failure Fixed :=
  match s.clustersFile, s.clusterList with
  | some path, _ =>
    match around.disk.read around.here path with
    | .ok text => Fixed.ofYaml text
    | .error fault =>
      .error (.configuration ("reading clusters file " ++ path ++ ": " ++ fault.message))
  | none, some text => Fixed.ofJson text
  | none, none => .error Settings.noClusters

def ofSettings (around : Surroundings) (s : Settings) : Except Failure (Net.Web → Roster) :=
  match s.roster with
  | .fixed => (fixedOf around s).map fun l _ => ofFixed l
  | .own => (surrounding around).map fun c _ => ofOwn c
  | .directory =>
    (Directory.ofKey s.directoryUrl (s.directoryKey.getD "")).map fun d web => ofDirectory web d

end Roster

namespace History

def ofSettings (around : Surroundings) (s : Settings) :
    Disk × Except Failure (History × Option Place) :=
  match s.history with
  | .ring => (around.disk, .ok (.ring (.empty s.ringCapacity.toNat), none))
  | .documents =>
    let (disk, database) := Database.connect around.disk around.here s.databaseUrl
    (disk, database.map fun d => (.documents d.table, d.place))

end History

structure Service where
  settings : Settings
  command : Settings.Command
  around : Surroundings
  roster : Net.Web → Roster
  archive : Archive
  place : Option Place

namespace Service

def start (around : Surroundings) (ids : Nat → Uuid) (i : Settings.Invocation) :
    Disk × Except Failure Service :=
  match i.settings.validate.bind fun _ => Roster.ofSettings around i.settings with
  | .error f => (around.disk, .error f)
  | .ok roster =>
    let (disk, history) := History.ofSettings around i.settings
    (disk, history.map fun (history, place) => {
      settings := i.settings
      command := i.command.getD .run
      around := { around with disk }
      roster
      archive := { history, ids }
      place })

def limits (s : Service) : Limits := ⟨s.settings.callLimit, s.settings.fetchLimit⟩

def requests (c : Cluster) (course : Fetch.Course) : List Net.Request :=
  course.asked.filterMap fun q => ((Kube.Client.ofCluster c).request q.2).toOption

def disk (s : Service) : Disk :=
  match s.archive.history, s.place with
  | .documents table, some place => History.Database.save s.around.disk ⟨table, some place⟩
  | _, _ => s.around.disk

def snapshotPass (s : Service) (web : Net.Web) (clock : Duration → Instant) :
    List Net.Request × Except Failure (Archive.Report × Service) :=
  let told := (s.roster web).clusters
  match told.result with
  | .error f => (told.sent, .error f)
  | .ok clusters =>
    let connector := Kube.Client.connector web
    let (report, archive) := s.archive.snapshotPass connector s.limits clock clusters
    let sent := clusters.flatMap fun c => requests c (fetchSnapshot connector s.limits c)
    (told.sent ++ sent, .ok (report, { s with archive }))

/-- One removal pass. Without a span to keep snapshots for there is none, nor where the history bounds itself; a pass
that fails changes nothing. -/
def removalPass (s : Service) (now : Instant) (retention : Option Int) : Service :=
  let history := s.archive.history
  match retention with
  | none => s
  | some span =>
    if history.evictsByAge then
      match history.collectAt? now span with
      | some (_, history) => { s with archive := { s.archive with history } }
      | none => s
    else s

def api (s : Service) (web : Net.Web) : Api where
  roster := s.roster web
  connector := Kube.Client.connector web
  limits := s.limits
  history := s.archive.history
  disk := s.around.disk
  folder := .ofPath s.around.here s.settings.staticDir

def handle (s : Service) (web : Net.Web) (now : Instant) (r : Api.Request) :
    List Net.Request × Option Api.Response :=
  let work := (s.api web).handle now r
  (work.sent ++ work.fetched.toList.flatMap fun (c, course) => requests c course, work.response)

def greatestPort : Nat := 65535

def listenAddress (s : Service) : Except Failure String := do
  let address ← s.settings.listenAddress
  let port := ((Text.splitLast? ':' address.toList).map Prod.snd).getD []
  if (Text.natural? port).all (· ≤ greatestPort) then return address
  else throw (.configuration ("failed to bind " ++ address ++ ": invalid port value"))

def firstPasses (s : Service) (web : Net.Web) (clock : Duration → Instant)
    (retention : Option Int) : List Net.Request × Service :=
  match s.snapshotPass web clock with
  | (sent, .ok (_, s)) => (sent, s.removalPass (clock 0) retention)
  | (sent, .error _) => (sent, s.removalPass (clock 0) retention)

/-- What the service does as it begins: a single pass if it is told to make one, and otherwise the first passes if it
records history and listening if it has web pages. -/
def enter (s : Service) (web : Net.Web) (clock : Duration → Instant) :
    List Net.Request × Except Mishap Service :=
  if s.command = .snapshot then
    let (sent, done) := s.snapshotPass web clock
    (sent, (done.map Prod.snd).mapError .failure)
  else
    let ready : Except Mishap (Option Int) := do
      let retention ← if s.command.recordsHistory then s.settings.retention else pure none
      if s.command.servesApi then
        let _ ← s.listenAddress.mapError Mishap.failure
      return retention
    match ready with
    | .error mishap => ([], .error mishap)
    | .ok retention =>
      if s.command.recordsHistory then
        let (sent, s) := s.firstPasses web clock retention
        (sent, .ok s)
      else ([], .ok s)

end Service

structure Launch where
  sent : List Net.Request
  disk : Disk
  result : Except Mishap Service

def launch (around : Surroundings) (web : Net.Web) (ids : Nat → Uuid) (clock : Duration → Instant)
    (i : Settings.Invocation) : Launch :=
  match Service.start around ids i with
  | (disk, .error f) => ⟨[], disk, .error f⟩
  | (disk, .ok s) =>
    match s.enter web clock with
    | (sent, .error mishap) => ⟨sent, disk, .error mishap⟩
    | (sent, .ok s) => ⟨sent, s.disk, .ok s⟩

end ClusterWatch
