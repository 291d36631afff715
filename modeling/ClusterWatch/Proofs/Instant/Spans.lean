import ClusterWatch.Proofs.History.Nanoseconds

namespace ClusterWatch.Instant

instance : Max Instant := maxOfLe

theorem max_cases (c d : Instant) : (c ≤ d ∧ max c d = d) ∨ (d ≤ c ∧ max c d = c) := by
  by_cases le : c ≤ d
  · exact Or.inl ⟨le, if_pos le⟩
  · exact Or.inr ⟨(le_total c d).resolve_left le, if_neg le⟩

variable {c d t : Instant}

theorem ofTotal?_eq_some_iff {total : Int} : ofTotal? total = some t ↔ t.isLeap = false ∧ t.nanosSinceEpoch = total := by
  rw [ofTotal?, ofParts?, isLeap, decide_eq_false_iff_not, nanosSinceEpoch]
  constructor
  · intro given
    split at given
    · cases given
      dsimp only
      omega
    · cases given
  · rintro ⟨plain, rfl⟩
    have seconds : (t.seconds * 1000000000 + t.nanos) / 1000000000 = t.seconds := by omega
    have nanos : ((t.seconds * 1000000000 + t.nanos) % 1000000000).toNat = t.nanos := by omega
    rw [seconds, nanos]
    exact ofParts?_parts t

theorem minus?_of_plain (plain : t.isLeap = false) (span : Int) :
    t.minus? span = ofTotal? (t.nanosSinceEpoch - span) := by
  simp only [minus?, plain, Bool.not_false, Bool.true_or, if_true]

theorem ofTotal?_eq_none_iff {total : Int} :
    ofTotal? total = none ↔ total < firstSecond * 1000000000 ∨ (lastSecond + 1) * 1000000000 ≤ total := by
  rw [ofTotal?, ofParts?]
  split <;> simp only [reduceCtorEq, false_iff, true_iff] <;> omega

theorem nanosSinceEpoch_nonneg (since : epoch ≤ t) : 0 ≤ t.nanosSinceEpoch := by
  change _ ∨ _ at since
  simp only [epoch] at since
  rw [nanosSinceEpoch]
  omega

section Far

variable {span : Int} (far : 1000000000 ≤ span)
include far

theorem minus?_of_far : t.minus? span = ofTotal? (t.nanosSinceEpoch - span) := by
  have back : (-span).tdiv 1000000000 < 0 := by
    have least : 1 ≤ span.tdiv 1000000000 := Int.le_tdiv_of_mul_le (by decide) (by omega)
    rw [Int.neg_tdiv]
    omega
  simp only [minus?, back, decide_true, Bool.or_true, if_true]

theorem minus?_eq_none_iff_of_far :
    t.minus? span = none ↔ t.nanosSinceEpoch < firstSecond * 1000000000 + span := by
  rw [minus?_of_far far, ofTotal?_eq_none_iff]
  have high := t.inRange.2
  have fits := t.fits
  simp only [nanosSinceEpoch]
  omega

theorem minus?_eq_some_iff_of_far :
    t.minus? span = some c ↔ c.isLeap = false ∧ c.nanosSinceEpoch = t.nanosSinceEpoch - span := by
  rw [minus?_of_far far, ofTotal?_eq_some_iff]

theorem lt_of_minus?_of_far (before : t.minus? span = some c) : c < t := by
  obtain ⟨plain, total⟩ := (minus?_eq_some_iff_of_far far).1 before
  have small := nanos_lt_of_isLeap plain
  have fits := t.fits
  simp only [nanosSinceEpoch] at total
  show _ ∨ _
  omega

end Far

theorem minus?_max {now later : Instant} {span : Int} (plain : now.isLeap = false) (plain' : later.isLeap = false)
    (before : now.minus? span = some c) (before' : later.minus? span = some d) :
    c.isLeap = false ∧ d.isLeap = false ∧ (max now later).minus? span = some (max c d) := by
  have first := before
  have second := before'
  rw [minus?_of_plain plain, ofTotal?_eq_some_iff] at first
  rw [minus?_of_plain plain', ofTotal?_eq_some_iff] at second
  refine ⟨first.1, second.1, ?_⟩
  have same : c ≤ d ↔ now ≤ later := by
    rw [le_iff_nanosSinceEpoch first.1 second.1, le_iff_nanosSinceEpoch plain plain']
    omega
  by_cases le : now ≤ later
  · have latest : max now later = later := if_pos le
    have least : max c d = d := if_pos (same.2 le)
    rw [latest, least, before']
  · have latest : max now later = now := if_neg le
    have least : max c d = c := if_neg fun back => le (same.1 back)
    rw [latest, least, before]

end ClusterWatch.Instant
