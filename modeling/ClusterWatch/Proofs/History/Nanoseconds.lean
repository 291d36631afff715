import ClusterWatch.Instant
import Mathlib.Algebra.Group.Int.Defs

namespace ClusterWatch

namespace Instant

def FitsColumn (t : Instant) : Prop :=
  -2 ^ 63 ≤ t.nanosSinceEpoch ∧ t.nanosSinceEpoch < 2 ^ 63

instance (t : Instant) : Decidable t.FitsColumn :=
  inferInstanceAs (Decidable (_ ∧ _))

/-- A time that a column can keep, and that is not lost in it. -/
def IsColumnTime (t : Instant) : Prop :=
  t.isLeap = false ∧ t.FitsColumn

instance (t : Instant) : Decidable t.IsColumnTime :=
  inferInstanceAs (Decidable (_ ∧ _))

theorem nanosSinceEpoch_ofNanos (n : Int64) : (ofNanos n).nanosSinceEpoch = n.toInt := by
  simp only [nanosSinceEpoch, ofNanos]
  omega

theorem isColumnTime_ofNanos (n : Int64) : (ofNanos n).IsColumnTime := by
  constructor
  · have small : (n.toInt % 1000000000).toNat < 1000000000 := by omega
    exact decide_eq_false (Nat.not_le.2 small)
  · rw [FitsColumn, nanosSinceEpoch_ofNanos]
    exact ⟨n.le_toInt, n.toInt_lt⟩

theorem nanos_lt_of_isLeap {t : Instant} (plain : t.isLeap = false) : t.nanos < 1000000000 := by
  simpa [isLeap] using plain

theorem le_of_lt {a b : Instant} (less : a < b) : a ≤ b := by
  change _ ∨ _ at less
  change _ ∨ _
  omega

theorem eq_of_nanosSinceEpoch {a b : Instant} (ha : a.isLeap = false) (hb : b.isLeap = false)
    (same : a.nanosSinceEpoch = b.nanosSinceEpoch) : a = b := by
  have := nanos_lt_of_isLeap ha
  have := nanos_lt_of_isLeap hb
  simp only [nanosSinceEpoch] at same
  exact ext_parts (by omega) (by omega)

theorem le_iff_nanosSinceEpoch {a b : Instant} (ha : a.isLeap = false) (hb : b.isLeap = false) :
    a ≤ b ↔ a.nanosSinceEpoch ≤ b.nanosSinceEpoch := by
  have := nanos_lt_of_isLeap ha
  have := nanos_lt_of_isLeap hb
  show (_ ∨ _) ↔ _
  simp only [nanosSinceEpoch]
  omega

theorem toNanos?_of_fits {t : Instant} (fits : t.FitsColumn) :
    t.toNanos? = some (Int64.ofInt t.nanosSinceEpoch) := by
  obtain ⟨low, high⟩ := fits
  rw [toNanos?, if_pos]
  rw [Int64.toInt_minValue, Int64.toInt_maxValue]
  exact ⟨low, by omega⟩

theorem toNanos?_of_not_fits {t : Instant} (beyond : ¬ t.FitsColumn) : t.toNanos? = none := by
  rw [toNanos?, if_neg]
  rw [Int64.toInt_minValue, Int64.toInt_maxValue]
  intro within
  exact beyond ⟨within.1, by omega⟩

theorem toInt_ofInt_nanosSinceEpoch {t : Instant} (fits : t.FitsColumn) :
    (Int64.ofInt t.nanosSinceEpoch).toInt = t.nanosSinceEpoch :=
  Int64.toInt_ofInt_of_le fits.1 fits.2

theorem exists_column {t : Instant} (kept : t.IsColumnTime) :
    ∃ n, t.toNanos? = some n ∧ t.clampedNanos = n ∧ ofNanos n = t := by
  have column := toNanos?_of_fits kept.2
  refine ⟨_, column, ?_, ?_⟩
  · rw [clampedNanos, column, Option.getD_some]
  · apply eq_of_nanosSinceEpoch (isColumnTime_ofNanos _).1 kept.1
    rw [nanosSinceEpoch_ofNanos, toInt_ofInt_nanosSinceEpoch kept.2]

theorem ofNanos_le_iff {a b : Int64} : ofNanos a ≤ ofNanos b ↔ a ≤ b := by
  rw [le_iff_nanosSinceEpoch (isColumnTime_ofNanos a).1 (isColumnTime_ofNanos b).1, nanosSinceEpoch_ofNanos,
    nanosSinceEpoch_ofNanos, Int64.le_iff_toInt_le]

theorem ofNanos_lt_iff {a b : Int64} : ofNanos a < ofNanos b ↔ a < b := by
  rw [lt_iff_not_le, ofNanos_le_iff, Int64.not_le]

theorem ofNanos_clampedNanos (t : Instant) (fits : t.FitsColumn) :
    (ofNanos t.clampedNanos).nanosSinceEpoch = t.nanosSinceEpoch := by
  rw [nanosSinceEpoch_ofNanos, clampedNanos, toNanos?_of_fits fits, Option.getD_some,
    toInt_ofInt_nanosSinceEpoch fits]

def columnStart : Instant := ofNanos Int64.minValue

def columnEnd : Instant := ofNanos Int64.maxValue

def clamped (t : Instant) : Instant := ofNanos t.clampedNanos

theorem columnStart_le (n : Int64) : columnStart ≤ ofNanos n :=
  ofNanos_le_iff.2 n.minValue_le

theorem le_columnEnd (n : Int64) : ofNanos n ≤ columnEnd :=
  ofNanos_le_iff.2 n.le_maxValue

theorem clamped_of_column {t : Instant} (kept : t.IsColumnTime) : t.clamped = t := by
  obtain ⟨n, _, column, same⟩ := exists_column kept
  rw [clamped, column, same]

theorem lt_columnStart_of_early {t : Instant} (plain : t.isLeap = false) (early : t.nanosSinceEpoch < -2 ^ 63) :
    t < columnStart ∧ t.clamped = columnStart := by
  have beyond : ¬ t.FitsColumn := fun fits => by
    have := fits.1
    omega
  have negative : t.seconds < 0 := by
    simp only [nanosSinceEpoch] at early
    omega
  constructor
  · rw [lt_iff_not_le, columnStart, le_iff_nanosSinceEpoch (isColumnTime_ofNanos _).1 plain,
      nanosSinceEpoch_ofNanos, Int64.toInt_minValue]
    omega
  · rw [clamped, clampedNanos, toNanos?_of_not_fits beyond, Option.getD_none, if_pos negative, columnStart]

theorem columnEnd_lt_of_late {t : Instant} (plain : t.isLeap = false) (late : 2 ^ 63 ≤ t.nanosSinceEpoch) :
    columnEnd < t ∧ t.clamped = columnEnd := by
  have beyond : ¬ t.FitsColumn := fun fits => by
    have := fits.2
    omega
  have positive : ¬ t.seconds < 0 := by
    have := nanos_lt_of_isLeap plain
    simp only [nanosSinceEpoch] at late
    omega
  constructor
  · rw [lt_iff_not_le, columnEnd, le_iff_nanosSinceEpoch plain (isColumnTime_ofNanos _).1,
      nanosSinceEpoch_ofNanos, Int64.toInt_maxValue]
    omega
  · rw [clamped, clampedNanos, toNanos?_of_not_fits beyond, Option.getD_none, if_neg positive, columnEnd]

theorem clamped_cases {t : Instant} (plain : t.isLeap = false) :
    t.clamped = t ∨ (t < columnStart ∧ t.clamped = columnStart) ∨ (columnEnd < t ∧ t.clamped = columnEnd) := by
  by_cases early : t.nanosSinceEpoch < -2 ^ 63
  · exact Or.inr (Or.inl (lt_columnStart_of_early plain early))
  · by_cases late : 2 ^ 63 ≤ t.nanosSinceEpoch
    · exact Or.inr (Or.inr (columnEnd_lt_of_late plain late))
    · exact Or.inl (clamped_of_column ⟨plain, by omega, by omega⟩)

variable {t u : Instant}

/-- A bound that is too late for a column lets through what stands at the end of the range, and nothing else is amiss. -/
theorem clamped_le_iff (plain : t.isLeap = false) (low : columnStart ≤ u) (high : u ≤ columnEnd) :
    t.clamped ≤ u ↔ t ≤ u ∨ (columnEnd < t ∧ u = columnEnd) := by
  rcases clamped_cases plain with same | ⟨early, same⟩ | ⟨late, same⟩
  · have inside : t ≤ columnEnd := same ▸ le_columnEnd t.clampedNanos
    rw [same]
    constructor
    · exact Or.inl
    · rintro (before | ⟨late, -⟩)
      · exact before
      · exact absurd inside (lt_iff_not_le.1 late)
  · have before : t ≤ u := le_trans (le_of_lt early) low
    rw [same]
    exact ⟨fun _ => Or.inl before, fun _ => low⟩
  · rw [same]
    constructor
    · intro there
      exact Or.inr ⟨late, le_antisymm high there⟩
    · rintro (before | ⟨-, rfl⟩)
      · exact absurd (le_trans before high) (lt_iff_not_le.1 late)
      · exact le_refl _

theorem le_clamped_iff (plain : t.isLeap = false) (low : columnStart ≤ u) (high : u ≤ columnEnd) :
    u ≤ t.clamped ↔ u ≤ t ∨ (t < columnStart ∧ u = columnStart) := by
  rcases clamped_cases plain with same | ⟨early, same⟩ | ⟨late, same⟩
  · have inside : columnStart ≤ t := same ▸ columnStart_le t.clampedNanos
    rw [same]
    constructor
    · exact Or.inl
    · rintro (after | ⟨early, -⟩)
      · exact after
      · exact absurd inside (lt_iff_not_le.1 early)
  · rw [same]
    constructor
    · intro there
      exact Or.inr ⟨early, le_antisymm there low⟩
    · rintro (after | ⟨-, rfl⟩)
      · exact absurd (le_trans low after) (lt_iff_not_le.1 early)
      · exact le_refl _
  · have after : u ≤ t := le_trans high (le_of_lt late)
    rw [same]
    exact ⟨fun _ => Or.inl after, fun _ => high⟩

theorem lt_clamped_iff (plain : t.isLeap = false) (low : columnStart ≤ u) (high : u ≤ columnEnd) :
    u < t.clamped ↔ u < t ∧ ¬ (columnEnd < t ∧ u = columnEnd) := by
  rw [lt_iff_not_le, clamped_le_iff plain low high, not_or, ← lt_iff_not_le]

end Instant

end ClusterWatch
