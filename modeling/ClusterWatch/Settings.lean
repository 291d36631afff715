import ClusterWatch.Failure
import ClusterWatch.Text.Blank
import ClusterWatch.Text.Quoted
import ClusterWatch.Text.Split

namespace ClusterWatch

inductive RosterKind where
  | fixed
  | own
  | directory
  deriving Repr, DecidableEq

inductive HistoryKind where
  | ring
  | documents
  deriving Repr, DecidableEq

inductive LogFormat where
  | text
  | json
  deriving Repr, DecidableEq

structure Settings where
  roster : RosterKind := .fixed
  history : HistoryKind := .ring
  listen : String := "0.0.0.0:8080"
  snapshotMinutes : UInt64 := 5
  /-- Hours after which snapshots are too old; they never are without. -/
  keepHours : Option UInt64 := none
  removalMinutes : UInt64 := 5
  ringCapacity : UInt64 := 720
  databaseUrl : String := "sqlite://var/history.db"
  fetchSeconds : UInt64 := 60
  callSeconds : UInt64 := 15
  verifyTls : Bool := false
  staticDir : String := "./var/static"
  clusterList : Option String := none
  clustersFile : Option String := none
  directoryUrl : String := "https://authenticator.continuouspipe.io"
  directoryKey : Option String := none
  logFormat : LogFormat := .text
  deriving Repr, DecidableEq

namespace Settings

inductive Command where
  | run
  | api
  | history
  | snapshot
  deriving Repr, DecidableEq

def Command.servesApi : Command → Bool
  | .run | .api => true
  | .history | .snapshot => false

def Command.recordsHistory : Command → Bool
  | .run | .history => true
  | .api | .snapshot => false

def usualPort (scheme : List Char) : String :=
  if scheme = "https".toList then "443" else "80"

/-- Whether a host with a port is written: digits behind the last colon, and no colon before that. -/
def hasPort (authority : List Char) : Bool :=
  match Text.splitLast? ':' authority with
  | some (host, port) => !port.isEmpty && port.all Char.isDigit && host.getLast? ≠ some ':'
  | none => false

def listenAddress (s : Settings) : Except Failure String :=
  let raw := Text.trim s.listen.toList
  let (scheme, rest) := match Text.splitFirst? [':', '/', '/'] raw with
    | some (scheme, rest) => (some scheme, rest)
    | none => (none, raw)
  let authority := rest.takeWhile (· ≠ '/')
  if authority.isEmpty then
    .error (.configuration ("invalid listen address " ++ Text.quoted (String.ofList raw)))
  else if hasPort authority then .ok (String.ofList authority)
  else match scheme with
    | some scheme => .ok (String.ofList authority ++ ":" ++ usualPort scheme)
    | none =>
      .error (.configuration ("listen address " ++ Text.quoted (String.ofList raw) ++ " has no port"))

def noClusters : Failure :=
  .configuration "the in-memory provider needs CLUSTER_LIST or --clusters-file"

def validate (s : Settings) : Except Failure Unit := do
  for (name, value) in [("snapshot interval", s.snapshotMinutes), ("gc interval", s.removalMinutes),
      ("fetch timeout", s.fetchSeconds), ("call timeout", s.callSeconds),
      ("history capacity", s.ringCapacity)] do
    if value = 0 then throw (.configuration (name ++ " must be positive"))
  if s.keepHours = some 0 then
    throw (.configuration "hours of history to keep must be positive")
  if s.roster = .fixed && s.clusterList.isNone && s.clustersFile.isNone then throw noClusters
  let _ ← s.listenAddress

def snapshotInterval (s : Settings) : Duration := .ofSeconds (s.snapshotMinutes.toNat * 60)
def removalInterval (s : Settings) : Duration := .ofSeconds (s.removalMinutes.toNat * 60)
def callLimit (s : Settings) : Duration := .ofSeconds s.callSeconds.toNat
def fetchLimit (s : Settings) : Duration := .ofSeconds s.fetchSeconds.toNat

def greatestSpan : Int := Int64.maxValue.toInt / 1000

/-- For how many seconds snapshots are kept. Hours that do not fit 63 bits are kept without end; fewer hours that are no span
of time are an accident. -/
def retention (s : Settings) : Except Mishap (Option Int) :=
  match s.keepHours with
  | none => .ok none
  | some hours =>
    if Int64.maxValue.toInt < hours.toNat then .ok none
    else if greatestSpan < hours.toNat * 3600 then .error .crash
    else .ok (some (hours.toNat * 3600))

end Settings

end ClusterWatch
