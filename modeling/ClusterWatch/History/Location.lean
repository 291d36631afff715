import ClusterWatch.Net.Form

namespace ClusterWatch.History

structure Location where
  path : String
  inMemory : Bool := false
  readOnly : Bool := false
  fixed : Bool := false
  means : Option String := none
  deriving Repr, DecidableEq

namespace Location

def dropMarks (mark : List Char) : Nat → List Char → List Char
  | 0, cs => cs
  | fuel + 1, cs =>
    if mark.isPrefixOf cs then dropMarks mark fuel (cs.drop mark.length) else cs

def withoutScheme (cs : List Char) : List Char :=
  let cs := dropMarks "sqlite://".toList cs.length cs
  dropMarks "sqlite:".toList cs.length cs

def set (l : Location) (parameter : String × String) : Except String Location :=
  match parameter with
  | ("mode", "ro") => .ok { l with readOnly := true }
  | ("mode", "rw") | ("mode", "rwc") => .ok l
  | ("mode", "memory") => .ok { l with inMemory := true }
  | ("cache", "private") | ("cache", "shared") => .ok l
  | ("immutable", "true") | ("immutable", "1") => .ok { l with fixed := true }
  | ("immutable", "false") | ("immutable", "0") => .ok { l with fixed := false }
  | ("vfs", means) => .ok { l with means := some means }
  | (name, value) => .error ("unknown parameter " ++ name ++ "=" ++ value)

/-- Reads an address. Percent signs encode only in the path of a file. -/
def ofText (address : String) : Except String Location := do
  let cs := withoutScheme address.toList
  let (path, query) := (Text.splitFirst? ['?'] cs).getD (cs, [])
  let start ← if path = ":memory:".toList then pure { path := "", inMemory := true }
    else match Net.Percent.decodeText? path with
      | some path => pure { path }
      | none => throw "the path is no text"
  (Net.Form.decode (String.ofList query)).foldlM set start

def knownMeans : List String := ["unix", "unix-dotfile", "unix-excl", "unix-none", "memdb"]

def isReachable (l : Location) : Bool :=
  l.means.all knownMeans.contains

def isWritable (l : Location) : Bool :=
  !l.readOnly && !l.fixed

end Location

end ClusterWatch.History
