import ClusterWatch.Api.Message
import ClusterWatch.Disk
import ClusterWatch.Net.MediaType

namespace ClusterWatch.Api.Files

/-- The place of a file under the folder. A path that leads back, or once more to the root, has none. -/
def place? (path : String) : Option Place := do
  let name ← Net.Percent.decodeText? (path.toList.dropWhile (· = '/'))
  let steps := Text.splitAll '/' name.toList
  if name.startsWith "/" || steps.contains ['.', '.'] then none
  else some ((steps.filter fun s => s ≠ [] && s ≠ ['.']).map String.ofList)

def content (name content : String) : Response :=
  ⟨200, [("content-type", Net.MediaType.ofFileName name)], content⟩

def redirect (r : Request) : Response :=
  let query := match r.query with
    | some query => "?" ++ query
    | none => ""
  ⟨307, [("location", r.path ++ "/" ++ query)], ""⟩

def index : String := "index.html"

def get (disk : Disk) (folder : Place) (r : Request) : Response :=
  match place? r.path with
  | none => .notFound
  | some steps =>
    let place := folder ++ steps
    match disk.look place with
    | .file text => content (place.getLastD "") text
    | .folder =>
      if r.path.endsWith "/" then
        match disk.look (place ++ [index]) with
        | .file text => content index text
        | _ => .notFound
      else redirect r
    | _ => .notFound

def answer (disk : Disk) (folder : Place) (r : Request) : Response :=
  if r.method = "GET" then get disk folder r
  else if r.method = "HEAD" then (get disk folder r).head
  else .notAllowed ["GET", "HEAD"]

end ClusterWatch.Api.Files
