import ClusterWatch.Json.Reader
import ClusterWatch.Sha1

namespace ClusterWatch

structure Uuid where
  bits : BitVec 128
  deriving Repr, DecidableEq, Inhabited

namespace Uuid

/-- Ids are ordered as their texts are. -/
instance : LE Uuid := ⟨fun a b => a.bits.toNat ≤ b.bits.toNat⟩
instance : LT Uuid := ⟨fun a b => a.bits.toNat < b.bits.toNat⟩
instance (a b : Uuid) : Decidable (a ≤ b) := inferInstanceAs (Decidable (a.bits.toNat ≤ b.bits.toNat))
instance (a b : Uuid) : Decidable (a < b) := inferInstanceAs (Decidable (a.bits.toNat < b.bits.toNat))

def ofBytes (bytes : List UInt8) : Uuid :=
  ⟨BitVec.ofNat 128 (bytes.foldl (fun n b => n * 256 + b.toNat) 0)⟩

def hexDigits (u : Uuid) : List Char :=
  let digits := Nat.toDigits 16 u.bits.toNat
  List.replicate (32 - digits.length) '0' ++ digits

def text (u : Uuid) : String :=
  let ds := u.hexDigits
  let group (start size : Nat) := (ds.drop start).take size
  String.ofList (group 0 8 ++ '-' :: (group 8 4 ++ '-' :: (group 12 4 ++ '-' :: (group 16 4 ++ '-' ::
    group 20 12))))

def ofHexDigits? (cs : List Char) : Option Uuid :=
  if cs.length = 32 then
    (cs.mapM Text.hexValue?).map fun ds => ⟨BitVec.ofNat 128 (ds.foldl (fun n d => n * 16 + d) 0)⟩
  else none

def ofHyphenated? (cs : List Char) : Option Uuid :=
  if cs.length = 36 && [8, 13, 18, 23].all (fun i => cs[i]? = some '-') then
    ofHexDigits? ((cs.take 8) ++ ((cs.drop 9).take 4) ++ ((cs.drop 14).take 4) ++
      ((cs.drop 19).take 4) ++ (cs.drop 24))
  else none

def urn : List Char := "urn:uuid:".toList

/-- Reads an id with or without hyphens; with them also in braces or as a name of the web. -/
def ofText? (s : String) : Option Uuid :=
  let cs := s.toList
  if cs.length = 32 then ofHexDigits? cs
  else if cs.length = 36 then ofHyphenated? cs
  else if cs.length = 38 && cs.head? = some '\x7b' && cs.getLast? = some '\x7d' then
    ofHyphenated? ((cs.drop 1).take 36)
  else if cs.length = 45 && (cs.take 9).map Char.toLower = urn then ofHyphenated? (cs.drop 9)
  else none

def ofName (space : Uuid) (name : String) : Uuid :=
  let spaceBytes := (List.range 16).map fun i => UInt8.ofNat (space.bits.toNat >>> (8 * (15 - i)))
  let digest := (Sha1.digest (spaceBytes ++ name.toUTF8.toList)).take 16
  let marked := digest.zipIdx.map fun (b, i) =>
    if i = 6 then (b &&& 0x0F) ||| 0x50 else if i = 8 then (b &&& 0x3F) ||| 0x80 else b
  ofBytes marked

end Uuid

end ClusterWatch
