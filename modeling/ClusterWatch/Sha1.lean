namespace ClusterWatch.Sha1

structure State where
  a : UInt32
  b : UInt32
  c : UInt32
  d : UInt32
  e : UInt32
  deriving Repr, DecidableEq

def start : State := ⟨0x67452301, 0xEFCDAB89, 0x98BADCFE, 0x10325476, 0xC3D2E1F0⟩

def rotate (n : UInt32) (x : UInt32) : UInt32 :=
  (x <<< n) ||| (x >>> (32 - n))

def wordBytes (x : UInt32) : List UInt8 :=
  [(x >>> 24).toUInt8, (x >>> 16).toUInt8, (x >>> 8).toUInt8, x.toUInt8]

def lengthBytes (bytes : Nat) : List UInt8 :=
  let n := UInt64.ofNat (bytes * 8)
  wordBytes (n >>> 32).toUInt32 ++ wordBytes n.toUInt32

def pad (message : List UInt8) : List UInt8 :=
  let zeros := (119 - message.length % 64) % 64
  message ++ 0x80 :: (List.replicate zeros 0 ++ lengthBytes message.length)

def words : List UInt8 → List UInt32
  | a :: b :: c :: d :: rest =>
    ((a.toUInt32 <<< 24) ||| (b.toUInt32 <<< 16) ||| (c.toUInt32 <<< 8) ||| d.toUInt32) :: words rest
  | _ => []

/-- Further words of a block, each made of four before it; the latest word stands first. -/
def extend : Nat → List UInt32 → List UInt32
  | 0, ws => ws
  | n + 1, ws =>
    let word (i : Nat) := ws.getD i 0
    extend n (rotate 1 (word 2 ^^^ word 7 ^^^ word 13 ^^^ word 15) :: ws)

def schedule (block : List UInt32) : List UInt32 :=
  (extend 64 block.reverse).reverse

def round (s : State) (i : Nat) (w : UInt32) : State :=
  let f :=
    if i < 20 then ((s.b &&& s.c) ||| (~~~s.b &&& s.d)) + 0x5A827999
    else if i < 40 then (s.b ^^^ s.c ^^^ s.d) + 0x6ED9EBA1
    else if i < 60 then ((s.b &&& s.c) ||| (s.b &&& s.d) ||| (s.c &&& s.d)) + 0x8F1BBCDC
    else (s.b ^^^ s.c ^^^ s.d) + 0xCA62C1D6
  ⟨rotate 5 s.a + f + s.e + w, s.a, rotate 30 s.b, s.c, s.d⟩

def compress (s : State) (block : List UInt32) : State :=
  let t := (schedule block).zipIdx.foldl (fun t (w, i) => round t i w) s
  ⟨s.a + t.a, s.b + t.b, s.c + t.c, s.d + t.d, s.e + t.e⟩

def blocks (s : State) : Nat → List UInt32 → State
  | 0, _ => s
  | n + 1, ws => blocks (compress s (ws.take 16)) n (ws.drop 16)

def digest (message : List UInt8) : List UInt8 :=
  let ws := words (pad message)
  let s := blocks start (ws.length / 16) ws
  wordBytes s.a ++ wordBytes s.b ++ wordBytes s.c ++ wordBytes s.d ++ wordBytes s.e

end ClusterWatch.Sha1
