import ClusterWatch.Text.Digit
import ClusterWatch.Text.Utf8

namespace ClusterWatch.Net.Percent

def upperDigit (n : Nat) : Char :=
  Char.ofNat (if n < 10 then 0x30 + n else 0x37 + n)

def encodeByte (b : UInt8) : List Char :=
  ['%', upperDigit (b.toNat / 16), upperDigit (b.toNat % 16)]

def isControl (c : Char) : Bool :=
  c.toNat < 0x20 || 0x7E < c.toNat

def encode (special : Char → Bool) (cs : List Char) : List Char :=
  cs.flatMap fun c => if special c then (Text.Utf8.encode [c]).flatMap encodeByte else [c]

/-- The bytes that a text stands for. A percent sign without two digits behind it stands for itself. -/
def decode : List Char → List UInt8
  | [] => []
  | '%' :: a :: b :: rest =>
    match Text.hexValue? a, Text.hexValue? b with
    | some high, some low => UInt8.ofNat (high * 16 + low) :: decode rest
    | _, _ => 0x25 :: decode (a :: b :: rest)
  | c :: rest => Text.Utf8.encode [c] ++ decode rest

def decodeText? (cs : List Char) : Option String :=
  (Text.Utf8.decode? (decode cs)).map String.ofList

end ClusterWatch.Net.Percent
