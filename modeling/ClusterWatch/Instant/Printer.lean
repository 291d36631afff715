import ClusterWatch.Instant
import ClusterWatch.Instant.Calendar

namespace ClusterWatch

def padded (places n : Nat) : List Char :=
  let digits := Nat.toDigits 10 n
  List.replicate (places - digits.length) '0' ++ digits

namespace Instant

def secondsPerDay : Int := 86400

def yearChars (year : Int) : List Char :=
  if 0 ≤ year ∧ year ≤ 9999 then padded 4 year.toNat
  else (if year < 0 then '-' else '+') :: padded 4 year.natAbs

def dateChars (d : Date) : List Char :=
  yearChars d.year ++ '-' :: (padded 2 d.month ++ '-' :: padded 2 d.day)

def fractionChars (nanos : Nat) : List Char :=
  if nanos = 0 then []
  else if nanos % 1000000 = 0 then '.' :: padded 3 (nanos / 1000000)
  else if nanos % 1000 = 0 then '.' :: padded 6 (nanos / 1000)
  else '.' :: padded 9 nanos

/-- A leap second is the sixtieth of its minute. -/
def timeChars (secondOfDay nanos : Nat) : List Char :=
  let second := secondOfDay % 60 + nanos / 1000000000
  padded 2 (secondOfDay / 3600) ++ ':' :: (padded 2 (secondOfDay / 60 % 60) ++ ':' ::
    (padded 2 second ++ fractionChars (nanos % 1000000000)))

def chars (between : Char) (t : Instant) : List Char :=
  dateChars (Date.ofDays (t.seconds / secondsPerDay)) ++
    between :: timeChars (t.seconds % secondsPerDay).toNat t.nanos

def text (t : Instant) : String :=
  String.ofList (t.chars 'T' ++ ['Z'])

def display (t : Instant) : String :=
  String.ofList (t.chars ' ') ++ " UTC"

end Instant

end ClusterWatch
