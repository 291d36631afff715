import ClusterWatch.Settings.Key

namespace ClusterWatch.Settings

abbrev Environment := List (String × String)

structure Pending where
  key : Key
  value : Option String := none

structure Level where
  given : List (Key × String) := []
  pending : Option Pending := none

namespace Level

def take (l : Level) (k : Key) (value : String) : Except Usage Level := do
  if l.given.any (·.1 = k) then throw .argumentConflict
  k.check value
  return { l with given := l.given ++ [(k, value)] }

def settle (l : Level) : Except Usage Level :=
  match l.pending with
  | none => .ok l
  | some ⟨_, none⟩ => .error .invalidValue
  | some ⟨k, some value⟩ => { l with pending := none }.take k value

def long (l : Level) (top : Bool) (arg : List Char) : Except Usage Level := do
  let name := String.ofList (arg.takeWhile (· ≠ '='))
  let value := (arg.dropWhile (· ≠ '=')).tail?.map String.ofList
  if name = "help" || (top && name = "version") then
    if value.isSome then throw .tooManyValues
    let _ ← l.settle
    throw (if name = "help" then .help else .version)
  match Key.ofName? name, value with
  | none, _ => throw .unknownArgument
  | some k, value =>
    if k.isSwitch then
      if value.isSome then throw .tooManyValues
      (← l.settle).take k "true"
    else
      let l ← l.settle
      match value with
      | some value => l.take k value
      | none => return { l with pending := some ⟨k, none⟩ }

def short (l : Level) (top : Bool) (letter : Char) : Except Usage Level := do
  if letter = 'h' || (top && letter = 'V') then
    let _ ← l.settle
    throw (if letter = 'h' then .help else .version)
  throw .unknownArgument

def waits (l : Level) : Bool :=
  match l.pending with
  | some ⟨_, none⟩ => true
  | _ => false

def answerPending (l : Level) (value : String) : Level :=
  { l with pending := l.pending.map fun p => ⟨p.key, some value⟩ }

def fromEnvironment (l : Level) (env : Environment) : Except Usage (List (Key × String)) :=
  (Key.all.filter fun k => !l.given.any (·.1 = k)).foldlM (fun told k =>
    match env.lookup k.variableName with
    | none => .ok told
    | some value => (k.check value).map fun _ => told ++ [(k, value)]) []

end Level

def Command.ofName? : String → Option Command
  | "run" => some .run
  | "api" => some .api
  | "history" => some .history
  | "snapshot" => some .snapshot
  | _ => none

structure Told where
  given : List (Key × String)
  environment : List (Key × String)

def Level.told (l : Level) (env : Environment) : Except Usage Told := do
  let l ← l.settle
  return ⟨l.given, ← l.fromEnvironment env⟩

def readInner (env : Environment) : Level → List String → Except Usage Told
  | l, [] => l.told env
  | l, arg :: rest =>
    match arg.toList with
    | ['-', '-'] => if rest.isEmpty then l.told env else .error .unknownArgument
    | '-' :: '-' :: name => do readInner env (← l.long false name) rest
    | '-' :: letter :: _ => do readInner env (← l.short false letter) rest
    | _ => if l.waits then readInner env (l.answerPending arg) rest else .error .unknownArgument

def readHelp : List String → Usage
  | [] => .help
  | [topic] => if topic = "help" || (Command.ofName? topic).isSome then .help else .invalidSubcommand
  | _ => .invalidSubcommand

/-- Reads all arguments. The settings in front of a command are taken in when those behind it have been. -/
def readOuter (env : Environment) :
    Level → List String → Except Usage (Option Command × Told × Option Told)
  | l, [] => do return (none, ← l.told env, none)
  | l, arg :: rest =>
    match arg.toList with
    | ['-', '-'] =>
      match rest with
      | [] => do return (none, ← l.told env, none)
      | word :: _ =>
        .error (if word = "help" || (Command.ofName? word).isSome then .unknownArgument
          else .invalidSubcommand)
    | '-' :: '-' :: name => do readOuter env (← l.long true name) rest
    | '-' :: letter :: _ => do readOuter env (← l.short true letter) rest
    | _ =>
      if l.waits then readOuter env (l.answerPending arg) rest
      else if arg = "help" then .error (readHelp rest)
      else match Command.ofName? arg with
        | none => .error .invalidSubcommand
        | some command => do
          let inner ← readInner env {} rest
          return (some command, ← l.told env, some inner)

structure Invocation where
  command : Option Command
  settings : Settings
  deriving Repr, DecidableEq

/-- Values from the command line go before those from the environment, and behind that, those behind the command before
those in front of it. -/
def decide (outer : Told) (inner : Option Told) : List (Key × String) :=
  let inner := inner.getD ⟨[], []⟩
  inner.given ++ outer.given ++ inner.environment ++ outer.environment

def Invocation.ofArgs (args : List String) (env : Environment) : Except Usage Invocation := do
  let (command, outer, inner) ← readOuter env {} args
  let values := decide outer inner
  let settings ← Key.all.foldlM (fun s k =>
    match values.lookup k with
    | some value => k.assign value s
    | none => .ok s) {}
  return ⟨command, settings⟩

end ClusterWatch.Settings
