namespace ClusterWatch

namespace Instant

def firstSecond : Int := -8334601228800
def lastSecond : Int := 8210266876799

end Instant

structure Instant where
  seconds : Int
  nanos : Nat
  inRange : Instant.firstSecond ≤ seconds ∧ seconds ≤ Instant.lastSecond
  fits : nanos < 1000000000 ∨ (nanos < 2000000000 ∧ seconds % 60 = 59)
  deriving Repr, DecidableEq

namespace Instant

def ofParts? (seconds : Int) (nanos : Nat) : Option Instant :=
  if h : (firstSecond ≤ seconds ∧ seconds ≤ lastSecond) ∧
      (nanos < 1000000000 ∨ (nanos < 2000000000 ∧ seconds % 60 = 59)) then
    some ⟨seconds, nanos, h.1, h.2⟩
  else none

theorem ofParts?_parts (t : Instant) : ofParts? t.seconds t.nanos = some t := by
  simp [ofParts?, t.inRange, t.fits]

def epoch : Instant := ⟨0, 0, by decide, by decide⟩

instance : Inhabited Instant := ⟨epoch⟩

/-- A leap second comes after the second it is written in. -/
def isLeap (t : Instant) : Bool :=
  1000000000 ≤ t.nanos

def le (a b : Instant) : Prop :=
  a.seconds < b.seconds ∨ (a.seconds = b.seconds ∧ a.nanos ≤ b.nanos)

def lt (a b : Instant) : Prop :=
  a.seconds < b.seconds ∨ (a.seconds = b.seconds ∧ a.nanos < b.nanos)

instance : LE Instant := ⟨le⟩
instance : LT Instant := ⟨lt⟩
instance (a b : Instant) : Decidable (a ≤ b) := by
  change Decidable (_ ∨ _); infer_instance
instance (a b : Instant) : Decidable (a < b) := by
  change Decidable (_ ∨ _); infer_instance

theorem ext_parts {a b : Instant} (seconds : a.seconds = b.seconds) (nanos : a.nanos = b.nanos) :
    a = b := by
  cases a; cases b; simp_all

theorem le_refl (a : Instant) : a ≤ a :=
  Or.inr ⟨rfl, Nat.le_refl _⟩

theorem le_trans {a b c : Instant} (ab : a ≤ b) (bc : b ≤ c) : a ≤ c := by
  change _ ∨ _ at ab bc ⊢
  omega

theorem le_total (a b : Instant) : a ≤ b ∨ b ≤ a := by
  change (_ ∨ _) ∨ (_ ∨ _)
  omega

theorem le_antisymm {a b : Instant} (ab : a ≤ b) (ba : b ≤ a) : a = b := by
  change _ ∨ _ at ab ba
  exact ext_parts (by omega) (by omega)

theorem lt_iff_not_le {a b : Instant} : a < b ↔ ¬ b ≤ a := by
  change (_ ∨ _) ↔ ¬ (_ ∨ _)
  omega

def nanosSinceEpoch (t : Instant) : Int :=
  t.seconds * 1000000000 + t.nanos

def ofTotal? (total : Int) : Option Instant :=
  ofParts? (total / 1000000000) (total % 1000000000).toNat

/-- The instant a span of nanoseconds before another; `none` if it is out of range. A leap second counts as the second
after it when a second or more is taken away, and as the second it is written in when it is left forwards. -/
def minus? (t : Instant) (span : Int) : Option Instant :=
  let seconds := (-span).tdiv 1000000000
  let nanos := (-span).tmod 1000000000
  if !t.isLeap || seconds < 0 then ofTotal? (t.nanosSinceEpoch - span)
  else if 0 < seconds || 2000000000 ≤ t.nanos + nanos then ofTotal? (t.nanosSinceEpoch - 1000000000 - span)
  else ofParts? t.seconds (t.nanos + nanos).toNat

def minusSeconds? (t : Instant) (span : Int) : Option Instant :=
  t.minus? (span * 1000000000)

def toNanos? (t : Instant) : Option Int64 :=
  if Int64.minValue.toInt ≤ t.nanosSinceEpoch ∧ t.nanosSinceEpoch ≤ Int64.maxValue.toInt then
    some (Int64.ofInt t.nanosSinceEpoch)
  else none

/-- Instants that do not fit become the ends of the range. -/
def clampedNanos (t : Instant) : Int64 :=
  t.toNanos?.getD (if t.seconds < 0 then Int64.minValue else Int64.maxValue)

def ofNanos (n : Int64) : Instant where
  seconds := n.toInt / 1000000000
  nanos := (n.toInt % 1000000000).toNat
  inRange := by
    have := n.le_toInt
    have := n.toInt_lt
    unfold firstSecond lastSecond
    omega
  fits := by omega

end Instant

end ClusterWatch
