import ClusterWatch.Disk
import ClusterWatch.History.Location
import ClusterWatch.History.Table.Text

namespace ClusterWatch.History

structure Database where
  table : Table
  place : Option Place

namespace Database

def broken (reason : String) : Failure :=
  .store ("error returned from database: " ++ reason)

def makeFolder (disk : Disk) (here : Place) (path : String) : Except Failure Disk :=
  match Place.parentPath? path with
  | none => .ok disk
  | some parent =>
    if parent.isEmpty then .ok disk
    else (disk.makeFolder (.ofPath here parent)).mapError fun fault =>
      .configuration ("creating " ++ parent ++ ": " ++ fault.message)

def create (l : Location) (place : Option Place) : Except Failure Database :=
  if l.isWritable then .ok ⟨∅, place⟩ else .error (broken "the database cannot be written")

def ofFile (disk : Disk) (l : Location) (place : Place) : Disk × Except Failure Database :=
  match disk.look place with
  | .file text =>
    if text.isEmpty then (disk, create l (some place))
    else match Table.ofText? text with
      | some table => (disk, .ok ⟨table, if l.isWritable then some place else none⟩)
      | none => (disk, .error (broken "file is not a database"))
  | .nothing =>
    if l.readOnly then (disk, .error (broken "unable to open database file"))
    else (disk.write place "", create l (some place))
  | .folder | .blocked => (disk, .error (broken "unable to open database file"))

/-- The database at an address. What has been made on the way to a failure stays. -/
def connect (disk : Disk) (here : Place) (address : String) : Disk × Except Failure Database :=
  match Location.ofText address with
  | .error reason =>
    (disk, .error (.configuration ("invalid database url " ++ address ++ ": " ++ reason)))
  | .ok l =>
    match makeFolder disk here l.path with
    | .error f => (disk, .error f)
    | .ok disk =>
      if !l.isReachable then (disk, .error (broken "there is no such way of reaching files"))
      else if l.inMemory || l.path.isEmpty then (disk, create l none)
      else ofFile disk l (.ofPath here l.path)

def save (disk : Disk) (d : Database) : Disk :=
  match d.place with
  | some place => disk.write place d.table.text
  | none => disk

end Database

end ClusterWatch.History
