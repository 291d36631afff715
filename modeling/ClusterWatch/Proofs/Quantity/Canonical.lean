import ClusterWatch.Proofs.Quantity.RoundTrip

namespace ClusterWatch.Quantity

open Text

def canonical (m : Measure) (t : String) : Except Refusal String :=
  (read m t).map (print m)

/-- The exact value of a text, in the unit of a measure. Zero has its value whatever the suffix. -/
inductive Denotes (m : Measure) (t : String) : ℚ → Prop where
  | nothing {s : Spelling} (spells : s.Spells (trim t.toList)) (zero : s.number = 0) : Denotes m t 0
  | scaled {s : Spelling} {scale : Scale} (spells : s.Spells (trim t.toList)) (means : Means s.suffix scale) :
      Denotes m t (exactAmount m s scale)

def IsReduced (text : String) (bytes : Nat) : Prop :=
  ∃ (numeral k : Nat) (unit : String), text = toString numeral ++ unit ∧ ("" :: binaryUnits)[k]? = some unit ∧
    numeral * 1024 ^ k = bytes ∧ ¬ 1024 ∣ numeral ∧ ∀ j, 1024 ^ j ∣ bytes ↔ j ≤ k

theorem pow_dvd_iff_of_reduced {numeral k n : Nat} (whole : numeral * 1024 ^ k = n) (reduced : ¬ 1024 ∣ numeral)
    (j : Nat) : 1024 ^ j ∣ n ↔ j ≤ k := by
  have positive : 0 < 1024 ^ k := Nat.pow_pos (by decide)
  constructor
  · intro divides
    by_contra above
    have next : 1024 ^ (k + 1) ∣ n := Nat.dvd_trans (Nat.pow_dvd_pow 1024 (by omega)) divides
    rw [← whole, Nat.pow_succ'] at next
    exact reduced (Nat.dvd_of_mul_dvd_mul_right positive next)
  · intro below
    rw [← whole]
    exact Nat.dvd_mul_left_of_dvd (Nat.pow_dvd_pow 1024 below) numeral

theorem isReduced_printMemory {n : Nat} (some : 0 < n) (fits : n ≤ Amount.ceiling) : IsReduced (printMemory n) n := by
  obtain ⟨k, found, whole, stops⟩ := exists_unit_of_reduce n binaryUnits ""
  have numeral : 0 < (reduce n binaryUnits "").1 := by
    apply Nat.pos_of_ne_zero
    intro zero
    rw [zero, Nat.zero_mul] at whole
    omega
  have reduced : ¬ 1024 ∣ (reduce n binaryUnits "").1 := by
    intro divides
    have least : 1024 ≤ (reduce n binaryUnits "").1 := Nat.le_of_dvd numeral divides
    have last : k = 6 := stops divides
    have beyond : Amount.ceiling < 1024 * 1024 ^ 6 := by decide
    rw [last] at whole
    omega
  refine ⟨_, k, _, ?_, found, whole, reduced, pow_dvd_iff_of_reduced whole reduced⟩
  rw [printMemory, if_neg (Nat.ne_of_gt some)]

section Texts

variable {m : Measure} {s t u v : String} {p q : ℚ} {n : Nat}

theorem ceil_of_read (given : read m t = .ok n) (denotes : Denotes m t q) : n = ⌈q⌉₊ := by
  cases denotes with
  | nothing spells zero =>
    rw [read_of_zero spells zero] at given
    cases given
    exact Nat.ceil_zero.symm
  | scaled spells means => exact ((read_eq_ok_iff spells means).1 given).2.1

theorem exists_denotes_of_read (given : read m t = .ok n) : ∃ q, Denotes m t q := by
  obtain ⟨s, spells, ⟨zero, -⟩ | ⟨scale, means⟩⟩ := exists_spelling_of_read given
  · exact ⟨0, .nothing spells zero⟩
  · exact ⟨_, .scaled spells means⟩

theorem canonical_eq_ok_iff : canonical m t = .ok u ↔ ∃ n, read m t = .ok n ∧ print m n = u := by
  rw [canonical]
  cases read m t <;> simp [Except.map]

theorem canonical_of_canonical (given : canonical m t = .ok u) : canonical m u = .ok u := by
  obtain ⟨n, amount, rfl⟩ := canonical_eq_ok_iff.1 given
  exact canonical_eq_ok_iff.2 ⟨n, read_print m (le_ceiling_of_read amount), rfl⟩

theorem print_inj {k : Nat} (first : n ≤ Amount.ceiling) (second : k ≤ Amount.ceiling) :
    print m n = print m k ↔ n = k := by
  constructor
  · intro same
    have back := read_print m first
    rw [same, read_print m second] at back
    exact (Except.ok.inj back).symm
  · exact congrArg (print m)

theorem canonical_eq_iff (first : canonical m s = .ok u) (second : canonical m t = .ok v) (ofFirst : Denotes m s p)
    (ofSecond : Denotes m t q) : u = v ↔ ⌈p⌉₊ = ⌈q⌉₊ := by
  obtain ⟨n, amount, rfl⟩ := canonical_eq_ok_iff.1 first
  obtain ⟨k, other, rfl⟩ := canonical_eq_ok_iff.1 second
  rw [print_inj (le_ceiling_of_read amount) (le_ceiling_of_read other), ceil_of_read amount ofFirst,
    ceil_of_read other ofSecond]

end Texts

/-- Each amount of 64 bits has one canonical text, and what is read of any text is brought to it. -/
theorem printed_amounts_are_canonical :
    (∀ (m : Measure) (n : UInt64), read m (print m n.toNat) = .ok n.toNat) ∧
    (∀ n : UInt64, n ≠ 0 → IsReduced (print .memory n.toNat) n.toNat) ∧
    (∀ (m : Measure) (t u : String), canonical m t = .ok u →
      (∃ q, Denotes m t q) ∧ canonical m u = .ok u ∧
      ∀ (s v : String) (p q : ℚ), canonical m s = .ok v → Denotes m s p → Denotes m t q → (v = u ↔ ⌈p⌉₊ = ⌈q⌉₊)) := by
  have fits : ∀ n : UInt64, n.toNat ≤ Amount.ceiling := fun n => Nat.le_sub_one_of_lt n.toNat_lt
  refine ⟨?_, ?_, ?_⟩
  · exact fun m n => read_print m (fits n)
  · intro n some
    have positive : 0 < n.toNat := Nat.pos_of_ne_zero fun zero => some (UInt64.toNat_inj.1 zero)
    exact isReduced_printMemory positive (fits n)
  · intro m t u given
    obtain ⟨n, amount, -⟩ := canonical_eq_ok_iff.1 given
    refine ⟨exists_denotes_of_read amount, canonical_of_canonical given, ?_⟩
    exact fun s v p q first ofFirst ofSecond => canonical_eq_iff first given ofFirst ofSecond

example : canonical .memory " 1.5Gi" = .ok "1536Mi" ∧ canonical .memory "1610612736e0" = .ok "1536Mi" := by decide

end ClusterWatch.Quantity
