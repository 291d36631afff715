import ClusterWatch.Text.Split

namespace ClusterWatch

abbrev Place := List String

namespace Place

def step (p : Place) (name : List Char) : Place :=
  if name = [] || name = ['.'] then p
  else if name = ['.', '.'] then p.dropLast
  else p ++ [String.ofList name]

def ofPath (here : Place) (path : String) : Place :=
  let cs := path.toList
  (Text.splitAll '/' cs).foldl step (if cs.head? = some '/' then [] else here)

def trimIdle : List Char → List Char
  | '/' :: rest => trimIdle rest
  | '.' :: '/' :: rest => trimIdle rest
  | rest => rest

def text (p : Place) : String := "/" ++ "/".intercalate p

def parentPath? (path : String) : Option String :=
  match trimIdle path.toList.reverse with
  | [] => none
  | steps =>
    let parent := (trimIdle (steps.dropWhile (· ≠ '/'))).reverse
    if parent.isEmpty && path.startsWith "/" then some "/" else some (String.ofList parent)

end Place

structure Disk where
  files : List (Place × String) := []
  folders : List Place := []
  deriving Repr

namespace Disk

inductive Found where
  | file (content : String)
  | folder
  | nothing
  | blocked
  deriving Repr, DecidableEq

def look (d : Disk) (p : Place) : Found :=
  match d.files.lookup p with
  | some content => .file content
  | none =>
    if d.files.any fun f => f.1.isPrefixOf p then .blocked
    else if p.isEmpty || (d.files.map Prod.fst ++ d.folders).any p.isPrefixOf then .folder
    else .nothing

inductive Fault where
  | missing
  | present
  | noFolder
  | folder
  deriving Repr, DecidableEq

def Fault.message : Fault → String
  | .missing => "No such file or directory (os error 2)"
  | .present => "File exists (os error 17)"
  | .noFolder => "Not a directory (os error 20)"
  | .folder => "Is a directory (os error 21)"

def read (d : Disk) (here : Place) (path : String) : Except Fault String :=
  match d.look (.ofPath here path) with
  | .file content => if path.endsWith "/" then .error .noFolder else .ok content
  | .folder => .error .folder
  | .nothing => .error .missing
  | .blocked => .error .noFolder

def write (d : Disk) (p : Place) (content : String) : Disk :=
  { d with files := (p, content) :: d.files.filter fun f => f.1 ≠ p }

def makeFolder (d : Disk) (p : Place) : Except Fault Disk :=
  match d.look p with
  | .folder => .ok d
  | .nothing => .ok { d with folders := p :: d.folders }
  | .file _ => .error .present
  | .blocked => .error .noFolder

example : Place.parentPath? "a//b/./c/" = some "a//b" := by cbv
example : Place.parentPath? "/c" = some "/" := by cbv
example : Place.parentPath? "c" = some "" := by cbv

theorem look_write (d : Disk) (p : Place) (content : String) :
    (d.write p content).look p = .file content := by
  simp [write, look]

end Disk

end ClusterWatch
