import ClusterWatch.Json

namespace ClusterWatch.Json

def hexDigit (n : Nat) : Char :=
  (Nat.toDigits 16 n).headD '0'

/-- Controls have no character of their own in a string; those without a short escape get four
hexadecimal digits. -/
def escape (c : Char) : List Char :=
  if c = '"' then ['\\', '"']
  else if c = '\\' then ['\\', '\\']
  else if c = '\n' then ['\\', 'n']
  else if c = '\r' then ['\\', 'r']
  else if c = '\t' then ['\\', 't']
  else if c.toNat = 0x8 then ['\\', 'b']
  else if c.toNat = 0xC then ['\\', 'f']
  else if c.toNat < 0x20 then ['\\', 'u', '0', '0', hexDigit (c.toNat / 16), hexDigit (c.toNat % 16)]
  else [c]

def stringChars (s : String) : List Char :=
  '"' :: s.toList.flatMap escape ++ ['"']

def integerChars : Int → List Char
  | .ofNat n => Nat.toDigits 10 n
  | .negSucc n => '-' :: Nat.toDigits 10 (n + 1)

mutual

def chars : Json → List Char
  | .null | .broken => "null".toList
  | .bool true => "true".toList
  | .bool false => "false".toList
  | .integer n => integerChars n
  | .decimal literal => literal.toList
  | .string s => stringChars s
  | .array [] => ['[', ']']
  | .array (j :: rest) => '[' :: (j.chars ++ charsOfItems rest)
  | .object [] => ['\x7b', '\x7d']
  | .object ((name, j) :: rest) =>
    '\x7b' :: (stringChars name ++ ':' :: (j.chars ++ charsOfMembers rest))
termination_by structural j => j

def charsOfItems : List Json → List Char
  | [] => [']']
  | j :: rest => ',' :: (j.chars ++ charsOfItems rest)
termination_by structural js => js

def charsOfMembers : List (String × Json) → List Char
  | [] => ['\x7d']
  | (name, j) :: rest => ',' :: (stringChars name ++ ':' :: (j.chars ++ charsOfMembers rest))
termination_by structural ms => ms

end

def print (j : Json) : String :=
  String.ofList j.chars

end ClusterWatch.Json
