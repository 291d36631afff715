import ClusterWatch.Text.Split

namespace ClusterWatch.Net.MediaType

def byExtension : List (String × String) :=
  [("html", "text/html"), ("htm", "text/html"), ("xhtml", "application/xhtml+xml"),
    ("css", "text/css"), ("js", "text/javascript"), ("mjs", "text/javascript"),
    ("json", "application/json"), ("map", "application/json"), ("xml", "text/xml"),
    ("txt", "text/plain"), ("text", "text/plain"), ("log", "text/plain"), ("ini", "text/plain"),
    ("conf", "text/plain"), ("csv", "text/csv"), ("tsv", "text/tab-separated-values"),
    ("md", "text/markdown"), ("markdown", "text/markdown"), ("yaml", "text/x-yaml"),
    ("yml", "text/x-yaml"), ("toml", "text/x-toml"), ("svg", "image/svg+xml"),
    ("png", "image/png"), ("jpg", "image/jpeg"), ("jpeg", "image/jpeg"), ("gif", "image/gif"),
    ("webp", "image/webp"), ("avif", "image/avif"), ("bmp", "image/bmp"), ("ico", "image/x-icon"),
    ("tif", "image/tiff"), ("tiff", "image/tiff"), ("woff", "font/woff"), ("woff2", "font/woff2"),
    ("ttf", "font/ttf"), ("otf", "font/otf"), ("eot", "application/vnd.ms-fontobject"),
    ("pdf", "application/pdf"), ("zip", "application/zip"), ("gz", "application/gzip"),
    ("tar", "application/x-tar"), ("wasm", "application/wasm"), ("mp3", "audio/mpeg"),
    ("wav", "audio/wav"), ("ogg", "audio/ogg"), ("mp4", "video/mp4"), ("webm", "video/webm"),
    ("webmanifest", "application/manifest+json"), ("jsonld", "application/ld+json"),
    ("rtf", "application/rtf"), ("atom", "application/atom+xml"), ("rss", "application/rss+xml")]

def ofFileName (name : String) : String :=
  let known := match Text.splitLast? '.' name.toList with
    | some (_ :: _, extension) => byExtension.lookup (String.ofList (extension.map Char.toLower))
    | _ => none
  known.getD "application/octet-stream"

def isTokenChar (c : Char) : Bool :=
  c.isAlphanum || "!#$%&'*+-.^_`|~".contains c

def quotedValue? (cs : List Char) : Option (List Char) :=
  match Text.splitFirst? ['"'] cs with
  | some (value, rest) =>
    if !value.isEmpty && value.all fun c => 0x20 ≤ c.toNat && c.toNat < 0x7F then
      match rest.dropWhile (· = ' ') with
      | [] => some []
      | ';' :: rest => some rest
      | _ => none
    else none
  | none => none

def parameter? (cs : List Char) : Option (List Char) :=
  let name := cs.takeWhile isTokenChar
  match name, cs.dropWhile isTokenChar with
  | _ :: _, '=' :: '"' :: rest => quotedValue? rest
  | _ :: _, '=' :: rest =>
    let value := rest.takeWhile isTokenChar
    match value, rest.dropWhile isTokenChar with
    | _, [] => some []
    | _ :: _, ';' :: rest => some rest
    | _, _ => none
  | _, _ => none

def areParameters : Nat → List Char → Bool
  | 0, cs => cs.isEmpty
  | fuel + 1, cs =>
    match cs.dropWhile (· = ' ') with
    | [] => true
    | cs => match parameter? cs with
      | some rest => areParameters fuel rest
      | none => false

def parts? (s : String) : Option (String × String) := do
  let cs := s.toList.map Char.toLower
  let (kind, rest) := cs.span isTokenChar
  let (subkind, rest) ← match kind, rest with
    | _ :: _, '/' :: rest => some (rest.span isTokenChar)
    | _, _ => none
  let sound := match subkind, rest with
    | _, [] => true
    | _ :: _, c :: parameters => (c = ';' || c = ' ') && areParameters cs.length parameters
    | _, _ => false
  if sound then some (String.ofList kind, String.ofList subkind) else none

/-- Whether a header tells a JSON document: by its kind, or by the kind that another one is built on. -/
def isJson (s : String) : Bool :=
  match parts? s with
  | some ("application", subkind) =>
    match Text.splitLast? '+' subkind.toList with
    | some (base@(_ :: _), suffix) => base = "json".toList || suffix = "json".toList
    | _ => subkind = "json"
  | _ => false

example : isJson "Application/JSON; charset=utf-8" = true := by cbv
example : isJson "application/problem+json" = true := by cbv
example : isJson "text/json" = false := by cbv
example : ofFileName "a.b.JS" = "text/javascript" := by cbv
example : ofFileName ".css" = "application/octet-stream" := by cbv

end ClusterWatch.Net.MediaType
