import ClusterWatch.Net.Percent
import ClusterWatch.Text.Split

namespace ClusterWatch.Net.Form

def isPlain (c : Char) : Bool :=
  c.isAlphanum || c = '*' || c = '-' || c = '.' || c = '_'

def encodeText (cs : List Char) : List Char :=
  cs.flatMap fun c => if c = ' ' then ['+'] else Percent.encode (fun c => !isPlain c) [c]

def encodePair (p : String × String) : List Char :=
  encodeText p.1.toList ++ '=' :: encodeText p.2.toList

def encode (pairs : List (String × String)) : List Char :=
  ['&'].intercalate (pairs.map encodePair)

def decodeText (cs : List Char) : String :=
  String.ofList (Text.Utf8.decodeLossy (Percent.decode (cs.map fun c => if c = '+' then ' ' else c)))

/-- A name without a value has the empty one. -/
def decodePair (cs : List Char) : String × String :=
  match Text.splitFirst? ['='] cs with
  | some (name, value) => (decodeText name, decodeText value)
  | none => (decodeText cs, "")

def decode (query : String) : List (String × String) :=
  ((Text.splitAll '&' query.toList).filter (!·.isEmpty)).map decodePair

end ClusterWatch.Net.Form
