import ClusterWatch.Settings
import ClusterWatch.Text.Digit

namespace ClusterWatch.Settings

inductive Usage where
  | unknownArgument
  | invalidValue
  | valueValidation
  | argumentConflict
  | invalidSubcommand
  | tooManyValues
  | help
  | version
  deriving Repr, DecidableEq

inductive Key where
  | roster
  | history
  | listen
  | snapshotMinutes
  | keepHours
  | removalMinutes
  | ringCapacity
  | databaseUrl
  | fetchSeconds
  | callSeconds
  | verifyTls
  | staticDir
  | clusterList
  | clustersFile
  | directoryUrl
  | directoryKey
  | logFormat
  deriving Repr, DecidableEq

namespace Key

def all : List Key :=
  [.roster, .history, .listen, .snapshotMinutes, .keepHours, .removalMinutes, .ringCapacity,
    .databaseUrl, .fetchSeconds, .callSeconds, .verifyTls, .staticDir, .clusterList, .clustersFile,
    .directoryUrl, .directoryKey, .logFormat]

def name : Key → String
  | .roster => "cluster-provider"
  | .history => "history-storage-backend"
  | .listen => "listen-address"
  | .snapshotMinutes => "snapshot-interval"
  | .keepHours => "keep-hours"
  | .removalMinutes => "gc-interval"
  | .ringCapacity => "history-capacity"
  | .databaseUrl => "database-url"
  | .fetchSeconds => "fetch-timeout"
  | .callSeconds => "call-timeout"
  | .verifyTls => "verify-tls"
  | .staticDir => "static-dir"
  | .clusterList => "cluster-list"
  | .clustersFile => "clusters-file"
  | .directoryUrl => "continuous-pipe-url"
  | .directoryKey => "continuous-pipe-api-key"
  | .logFormat => "log-format"

def variableName : Key → String
  | .roster => "CLUSTER_PROVIDER"
  | .history => "HISTORY_STORAGE_BACKEND"
  | .listen => "KUBE_STATUS_LISTEN_ADDRESS"
  | .snapshotMinutes => "SNAPSHOT_INTERVAL"
  | .keepHours => "ONLY_KEEP_HOURS_OF_HISTORY"
  | .removalMinutes => "GC_INTERVAL"
  | .ringCapacity => "HISTORY_CAPACITY"
  | .databaseUrl => "HISTORY_DATABASE_URL"
  | .fetchSeconds => "FETCH_TIMEOUT"
  | .callSeconds => "CALL_TIMEOUT"
  | .verifyTls => "VERIFY_TLS"
  | .staticDir => "STATIC_DIR"
  | .clusterList => "CLUSTER_LIST"
  | .clustersFile => "CLUSTERS_FILE"
  | .directoryUrl => "CONTINUOUS_PIPE_URL"
  | .directoryKey => "CONTINUOUS_PIPE_API_KEY"
  | .logFormat => "LOG_FORMAT"

def ofName? (name : String) : Option Key :=
  all.find? fun k => k.name = name

/-- A switch is on when it is named, and takes no value on a command line. -/
def isSwitch (k : Key) : Bool :=
  k = .verifyTls

def choice {α : Type} (choices : List (String × α)) (value : String) : Except Usage α :=
  match choices.lookup value with
  | some a => .ok a
  | none => .error .invalidValue

def word (value : String) : Except Usage UInt64 :=
  let digits := match value.toList with
    | '+' :: ds => ds
    | ds => ds
  match Text.natural? digits with
  | some n => if n < UInt64.size then .ok (UInt64.ofNat n) else .error .valueValidation
  | none => .error .valueValidation

def path (value : String) : Except Usage String :=
  if value.isEmpty then .error .invalidValue else .ok value

def assign (k : Key) (value : String) (s : Settings) : Except Usage Settings :=
  match k with
  | .roster => (choice [("in-memory", RosterKind.fixed), ("within-k8s", .own),
      ("continuous-pipe", .directory)] value).map fun v => { s with roster := v }
  | .history => (choice [("in-memory", HistoryKind.ring), ("sqlite", .documents)] value).map
      fun v => { s with history := v }
  | .listen => .ok { s with listen := value }
  | .snapshotMinutes => (word value).map fun v => { s with snapshotMinutes := v }
  | .keepHours => (word value).map fun v => { s with keepHours := some v }
  | .removalMinutes => (word value).map fun v => { s with removalMinutes := v }
  | .ringCapacity => (word value).map fun v => { s with ringCapacity := v }
  | .databaseUrl => .ok { s with databaseUrl := value }
  | .fetchSeconds => (word value).map fun v => { s with fetchSeconds := v }
  | .callSeconds => (word value).map fun v => { s with callSeconds := v }
  | .verifyTls => (choice [("true", true), ("false", false)] value).map
      fun v => { s with verifyTls := v }
  | .staticDir => (path value).map fun v => { s with staticDir := v }
  | .clusterList => .ok { s with clusterList := some value }
  | .clustersFile => (path value).map fun v => { s with clustersFile := some v }
  | .directoryUrl => .ok { s with directoryUrl := value }
  | .directoryKey => .ok { s with directoryKey := some value }
  | .logFormat => (choice [("text", LogFormat.text), ("json", .json)] value).map
      fun v => { s with logFormat := v }

def check (k : Key) (value : String) : Except Usage Unit :=
  (k.assign value {}).map fun _ => ()

end Key

end ClusterWatch.Settings
