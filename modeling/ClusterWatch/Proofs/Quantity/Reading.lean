import ClusterWatch.Proofs.Quantity.Grammar
import Mathlib.Algebra.Order.Floor.Div
import Mathlib.Data.Rat.Floor
import Mathlib.Tactic.Positivity

namespace ClusterWatch

namespace Text

theorem ofDigitChars_lt {cs : List Char} (ascii : ∀ c ∈ cs, c.isDigit) (init : Nat) :
    Nat.ofDigitChars 10 cs init < (init + 1) * 10 ^ cs.length := by
  induction cs generalizing init with
  | nil => simp
  | cons c cs ih =>
    have digit := ascii c List.mem_cons_self
    simp only [Char.isDigit, Bool.and_eq_true, decide_eq_true_eq, UInt32.le_iff_toNat_le] at digit
    have high : c.toNat ≤ 57 := digit.2
    have zero : '0'.toNat = 48 := rfl
    have rest := ih (fun d member => ascii d (List.mem_cons_of_mem _ member)) (10 * init + (c.toNat - '0'.toNat))
    have carried : 10 * init + (c.toNat - '0'.toNat) + 1 ≤ (init + 1) * 10 := by omega
    calc Nat.ofDigitChars 10 (c :: cs) init
        < (10 * init + (c.toNat - '0'.toNat) + 1) * 10 ^ cs.length := rest
      _ ≤ (init + 1) * 10 * 10 ^ cs.length := Nat.mul_le_mul_right _ carried
      _ = (init + 1) * 10 ^ (c :: cs).length := by rw [List.length_cons, Nat.pow_succ', Nat.mul_assoc]

theorem digitsValue_lt {cs : List Char} (ascii : ∀ c ∈ cs, c.isDigit) : digitsValue cs < 10 ^ cs.length := by
  have bound := ofDigitChars_lt ascii 0
  rwa [Nat.zero_add, Nat.one_mul] at bound

end Text

namespace Quantity

open Text

def exactAmount (m : Measure) (s : Spelling) (scale : Scale) : ℚ :=
  s.number * 1024 ^ scale.binary * 10 ^ (scale.decimal + m.fineness - s.fraction.length)

theorem ceil_mul_zpow_neg (n power : Nat) :
    ⌈(n : ℚ) * 10 ^ (-(power : Int))⌉₊ = (n + 10 ^ power - 1) / 10 ^ power := by
  have positive : (0 : ℚ) < 10 ^ power := by positivity
  have divisor : 0 < 10 ^ power := Nat.pow_pos (by decide)
  apply eq_of_forall_ge_iff
  intro c
  rw [Nat.ceil_le, zpow_neg, zpow_natCast, ← div_eq_mul_inv, div_le_iff₀ positive, ← Nat.ceilDiv_eq_add_pred_div,
    ceilDiv_le_iff_le_mul divisor, mul_comm (c : ℚ)]
  norm_cast

theorem ceil_mul_zpow (n power : Nat) : ⌈(n : ℚ) * 10 ^ (power : Int)⌉₊ = n * 10 ^ power := by
  have whole : (n : ℚ) * 10 ^ (power : Int) = ((n * 10 ^ power : Nat) : ℚ) := by
    rw [zpow_natCast]
    push_cast
    rfl
  rw [whole, Nat.ceil_natCast]

theorem within128_eq_some_iff {n k : Nat} : within128 n = some k ↔ n < 2 ^ 128 ∧ n = k := by
  have wide : 1 <<< 128 = 2 ^ 128 := by decide
  rw [within128, wide, Option.ite_none_right_eq_some, Option.some.injEq]

theorem kept_eq_some_iff {a v : Nat} :
    (if a ≤ Amount.ceiling then some a else none) = some v ↔ v = a ∧ v ≤ Amount.ceiling := by
  rw [Option.ite_none_right_eq_some, Option.some.injEq]
  constructor
  · rintro ⟨fits, rfl⟩
    exact ⟨rfl, fits⟩
  · rintro ⟨rfl, fits⟩
    exact ⟨fits, rfl⟩

theorem scaled?_up {digits binary power v : Nat} (some : 0 < digits) :
    scaled? digits binary power = .some v ↔ digits * 1024 ^ binary < 2 ^ 128 ∧
      v = digits * 1024 ^ binary * 10 ^ power ∧ v ≤ Amount.ceiling := by
  have whole : 0 < digits * 1024 ^ binary := Nat.mul_pos some (Nat.pow_pos (by decide))
  have wide : Amount.ceiling < 2 ^ 128 := by decide
  simp only [scaled?, Nat.shiftLeft_eq, Nat.pow_mul, Int.natCast_nonneg, if_true, Int.toNat_natCast,
    Option.bind_eq_bind, Option.bind_eq_some_iff, within128_eq_some_iff, Nat.pow_eq]
  generalize digits * 1024 ^ binary = n at whole ⊢
  constructor
  · rintro ⟨_, ⟨narrow, rfl⟩, _, ⟨-, rfl⟩, _, ⟨-, rfl⟩, kept⟩
    exact ⟨narrow, kept_eq_some_iff.1 kept⟩
  · rintro ⟨narrow, rfl, fits⟩
    have factor : 10 ^ power ≤ n * 10 ^ power := Nat.le_mul_of_pos_left _ whole
    exact ⟨n, ⟨narrow, rfl⟩, _, ⟨by omega, rfl⟩, _, ⟨by omega, rfl⟩, kept_eq_some_iff.2 ⟨rfl, fits⟩⟩

theorem div_eq_one_of_narrow {n power : Nat} (some : 0 < n) (narrow : n < 2 ^ 128) (far : 38 < power) :
    (n + 10 ^ power - 1) / 10 ^ power = 1 := by
  have least : 10 ^ 39 ≤ 10 ^ power := Nat.pow_le_pow_right (by decide) far
  have wide : 2 ^ 128 < 10 ^ 39 := by decide
  apply Nat.div_eq_of_lt_le <;> omega

theorem scaled?_down {digits binary power v : Nat} (some : 0 < digits) (below : 0 < power) :
    scaled? digits binary (-(power : Int)) = .some v ↔ digits * 1024 ^ binary < 2 ^ 128 ∧
      v = (digits * 1024 ^ binary + 10 ^ power - 1) / 10 ^ power ∧ v ≤ Amount.ceiling := by
  have whole : 0 < digits * 1024 ^ binary := Nat.mul_pos some (Nat.pow_pos (by decide))
  have negative : ¬ 0 ≤ -(power : Int) := by omega
  simp only [scaled?, Nat.shiftLeft_eq, Nat.pow_mul, negative, if_false, Int.natAbs_neg, Int.natAbs_natCast,
    Option.bind_eq_bind, Option.bind_eq_some_iff, within128_eq_some_iff, Nat.pow_eq]
  generalize digits * 1024 ^ binary = n at whole ⊢
  constructor
  · rintro ⟨_, ⟨narrow, rfl⟩, kept⟩
    split at kept
    case isTrue far =>
      rw [div_eq_one_of_narrow whole narrow far]
      exact ⟨narrow, kept_eq_some_iff.1 kept⟩
    case isFalse => exact ⟨narrow, kept_eq_some_iff.1 kept⟩
  · rintro ⟨narrow, rfl, fits⟩
    refine ⟨n, ⟨narrow, rfl⟩, ?_⟩
    split
    case isTrue far =>
      rw [div_eq_one_of_narrow whole narrow far] at fits ⊢
      exact kept_eq_some_iff.2 ⟨rfl, fits⟩
    case isFalse => exact kept_eq_some_iff.2 ⟨rfl, fits⟩

/-- Scaling is exact but for the numbers that leave the 128 bits before they are divided. -/
theorem scaled?_eq_some_iff {digits binary v : Nat} {decimal : Int} (some : 0 < digits) :
    scaled? digits binary decimal = .some v ↔ digits * 1024 ^ binary < 2 ^ 128 ∧
      v = ⌈(digits * 1024 ^ binary : ℚ) * 10 ^ decimal⌉₊ ∧ v ≤ Amount.ceiling := by
  have cast : (digits * 1024 ^ binary : ℚ) = ((digits * 1024 ^ binary : Nat) : ℚ) := by
    push_cast
    rfl
  rw [cast]
  rcases Int.le_total 0 decimal with up | down
  · obtain ⟨power, rfl⟩ := Int.eq_ofNat_of_zero_le up
    rw [ceil_mul_zpow]
    exact scaled?_up some
  · obtain ⟨power, opposite⟩ := Int.eq_ofNat_of_zero_le (Int.neg_nonneg_of_nonpos down)
    have negated : decimal = -(power : Int) := by omega
    rw [negated]
    rcases Nat.eq_zero_or_pos power with rfl | below
    · rw [Int.natCast_zero, neg_zero, ← Int.natCast_zero, ceil_mul_zpow]
      exact scaled?_up some
    · rw [ceil_mul_zpow_neg]
      exact scaled?_down some below

theorem scaled?_eq_none_iff {digits binary : Nat} {decimal : Int} (some : 0 < digits) :
    scaled? digits binary decimal = none ↔ 2 ^ 128 ≤ digits * 1024 ^ binary ∨
      Amount.ceiling < ⌈(digits * 1024 ^ binary : ℚ) * 10 ^ decimal⌉₊ := by
  constructor
  · intro refused
    rcases Nat.lt_or_ge (digits * 1024 ^ binary) (2 ^ 128) with narrow | wide
    · right
      by_contra fits
      have read := (scaled?_eq_some_iff some).2 ⟨narrow, rfl, Nat.not_lt.1 fits⟩
      rw [refused] at read
      cases read
    · exact .inl wide
  · intro beyond
    cases read : scaled? digits binary decimal with
    | none => rfl
    | some v =>
      obtain ⟨narrow, rfl, fits⟩ := (scaled?_eq_some_iff some).1 read
      rcases beyond with wide | large <;> omega

theorem width_of_ascii {s : Spelling} (ascii : ∀ c ∈ s.digits, c.isDigit) : s.width = s.digits.length :=
  utf8ByteSize_digits ascii

theorem natural?_of_isNumeral {s : Spelling} (numeral : s.IsNumeral) :
    natural? (s.whole ++ s.fraction) = some s.number :=
  natural?_eq_some_iff.2 ⟨numeral.nonempty, numeral.ascii, rfl⟩

theorem isEmpty_digits {s : Spelling} : (s.whole.isEmpty && s.fraction.isEmpty) = s.digits.isEmpty := by
  cases whole : s.whole <;> simp [Spelling.digits, whole]

theorem amount_of_isNumeral (m : Measure) {s : Spelling} (numeral : s.IsNumeral) :
    s.amount m =
      if s.number = 0 then .ok 0
      else match Scale.ofSuffix? s.suffix with
        | none => .error .unknownSuffix
        | some scale =>
          match scaled? s.number scale.binary (scale.decimal + m.fineness - s.fraction.length) with
          | none => .error .outOfRange
          | some amount => .ok amount := by
  have nonempty : s.digits.isEmpty = false := List.isEmpty_eq_false_iff.2 numeral.nonempty
  have narrow : ¬ widthLimit < s.width := by
    rw [width_of_ascii numeral.ascii]
    exact Nat.not_lt.2 numeral.few
  unfold Spelling.amount
  simp only [isEmpty_digits, nonempty, Bool.false_eq_true, narrow, if_false, natural?_of_isNumeral numeral]
  split
  · rfl
  · cases Scale.ofSuffix? s.suffix with
    | none => rfl
    | some scale =>
      dsimp only
      cases scaled? s.number scale.binary (scale.decimal + m.fineness - s.fraction.length) <;> rfl

theorem amount_of_not_isNumeral (m : Measure) {s : Spelling} (other : ¬ s.IsNumeral) :
    ∃ fault, s.amount m = .error fault ∧ fault ≠ .outOfRange := by
  unfold Spelling.amount
  dsimp only
  rw [isEmpty_digits]
  split
  · exact ⟨_, rfl, by decide⟩
  · rename_i nonempty
    split
    · exact ⟨_, rfl, by decide⟩
    · rename_i narrow
      cases natural : natural? (s.whole ++ s.fraction) with
      | none => exact ⟨_, rfl, by decide⟩
      | some n =>
        obtain ⟨inside, ascii, -⟩ := natural?_eq_some_iff.1 natural
        rw [width_of_ascii ascii] at narrow
        exact absurd ⟨ascii, inside, Nat.not_lt.1 narrow⟩ other

section Read

variable {m : Measure} {t : String} {s : Spelling} {scale : Scale} {v : Nat}

theorem read_of_ofChars? (spelt : Spelling.ofChars? (trim t.toList) = some s) :
    read m t = (s.amount m).mapError fun fault => ⟨t, fault⟩ := by
  rw [read, readChars, spelt]

theorem read_of_zero (spells : s.Spells (trim t.toList)) (zero : s.number = 0) : read m t = .ok 0 := by
  rw [read_of_ofChars? spells.ofChars?, amount_of_isNumeral m spells.numeral, if_pos zero]
  rfl

theorem read_of_means (spells : s.Spells (trim t.toList)) (means : Means s.suffix scale) (some : s.number ≠ 0) :
    read m t = match scaled? s.number scale.binary (scale.decimal + m.fineness - s.fraction.length) with
      | none => .error ⟨t, .outOfRange⟩
      | .some amount => .ok amount := by
  rw [read_of_ofChars? spells.ofChars?, amount_of_isNumeral m spells.numeral, if_neg some,
    ofSuffix?_eq_some_iff.2 means]
  dsimp only
  cases scaled? s.number scale.binary (scale.decimal + m.fineness - s.fraction.length) <;> rfl

theorem read_cases (m : Measure) (t : String) :
    (∃ fault, read m t = .error ⟨t, fault⟩ ∧ fault ≠ .outOfRange) ∨
      ∃ s : Spelling, s.Spells (trim t.toList) ∧ (s.number = 0 ∨ ∃ scale, Means s.suffix scale) := by
  cases spelt : Spelling.ofChars? (trim t.toList) with
  | none =>
    left
    exact ⟨.notAQuantity, by rw [read, readChars, spelt]; rfl, by decide⟩
  | some s =>
    by_cases numeral : s.IsNumeral
    · obtain ⟨composed, -, suffix⟩ := ofChars?_eq_some_iff.1 spelt
      by_cases zero : s.number = 0
      · exact .inr ⟨s, ⟨composed, numeral, suffix⟩, .inl zero⟩
      · cases known : Scale.ofSuffix? s.suffix with
        | none =>
          left
          refine ⟨.unknownSuffix, ?_, by decide⟩
          rw [read_of_ofChars? spelt, amount_of_isNumeral m numeral, if_neg zero, known]
          rfl
        | some scale => exact .inr ⟨s, ⟨composed, numeral, suffix⟩, .inr ⟨scale, ofSuffix?_eq_some_iff.1 known⟩⟩
    · obtain ⟨fault, refused, other⟩ := amount_of_not_isNumeral m numeral
      left
      exact ⟨fault, by rw [read_of_ofChars? spelt, refused]; rfl, other⟩

theorem exactAmount_of_zero (m : Measure) (scale : Scale) (zero : s.number = 0) : exactAmount m s scale = 0 := by
  rw [exactAmount, zero, Nat.cast_zero, zero_mul, zero_mul]

theorem read_eq_ok_iff (spells : s.Spells (trim t.toList)) (means : Means s.suffix scale) :
    read m t = .ok v ↔
      s.number * 1024 ^ scale.binary < 2 ^ 128 ∧ v = ⌈exactAmount m s scale⌉₊ ∧ v ≤ Amount.ceiling := by
  rcases Nat.eq_zero_or_pos s.number with zero | some
  · rw [read_of_zero spells zero, exactAmount_of_zero m scale zero, Nat.ceil_zero, zero, Nat.zero_mul, Except.ok.injEq]
    constructor
    · rintro rfl
      exact ⟨by decide, rfl, Nat.zero_le _⟩
    · exact fun given => given.2.1.symm
  · rw [exactAmount, ← scaled?_eq_some_iff some, read_of_means spells means (Nat.ne_of_gt some)]
    cases scaled? s.number scale.binary (scale.decimal + m.fineness - s.fraction.length) <;> simp

theorem read_eq_outOfRange_iff (spells : s.Spells (trim t.toList)) (means : Means s.suffix scale) :
    read m t = .error ⟨t, .outOfRange⟩ ↔
      2 ^ 128 ≤ s.number * 1024 ^ scale.binary ∨ Amount.ceiling < ⌈exactAmount m s scale⌉₊ := by
  rcases Nat.eq_zero_or_pos s.number with zero | some
  · rw [read_of_zero spells zero, exactAmount_of_zero m scale zero, Nat.ceil_zero, zero, Nat.zero_mul]
    simp
  · rw [exactAmount, ← scaled?_eq_none_iff some, read_of_means spells means (Nat.ne_of_gt some)]
    cases scaled? s.number scale.binary (scale.decimal + m.fineness - s.fraction.length) <;> simp

theorem exists_spelling_of_read (given : read m t = .ok v) :
    ∃ s : Spelling, s.Spells (trim t.toList) ∧ (s.number = 0 ∧ v = 0 ∨ ∃ scale, Means s.suffix scale) := by
  rcases read_cases m t with ⟨fault, refused, -⟩ | ⟨s, spells, zero | means⟩
  · rw [given] at refused
    cases refused
  · rw [read_of_zero spells zero] at given
    cases given
    exact ⟨s, spells, .inl ⟨zero, rfl⟩⟩
  · exact ⟨s, spells, .inr means⟩

/-- What is read is the exact value of the text, rounded up. -/
theorem read_is_exact (given : read m t = .ok v) :
    (∃ s : Spelling, s.Spells (trim t.toList)) ∧ ∀ s : Spelling, s.Spells (trim t.toList) →
      (s.number = 0 → v = 0) ∧ (s.number ≠ 0 → ∃ scale, Means s.suffix scale) ∧
      ∀ scale, Means s.suffix scale → v = ⌈exactAmount m s scale⌉₊ := by
  obtain ⟨s, spells, known⟩ := exists_spelling_of_read given
  refine ⟨⟨s, spells⟩, ?_⟩
  intro other same
  obtain rfl := spells.unique same
  refine ⟨?_, ?_, fun scale means => ((read_eq_ok_iff spells means).1 given).2.1⟩
  · intro zero
    rw [read_of_zero spells zero] at given
    cases given
    rfl
  · exact fun some => known.resolve_left fun none => some none.1

theorem tenth_is_exact : read .cpu " 1.0005e-1" = .ok 101 ∧
    (∃ s : Spelling, s.Spells (trim " 1.0005e-1".toList)) ∧ ∀ s : Spelling, s.Spells (trim " 1.0005e-1".toList) →
      (s.number = 0 → 101 = 0) ∧ (s.number ≠ 0 → ∃ scale, Means s.suffix scale) ∧
      ∀ scale, Means s.suffix scale → 101 = ⌈exactAmount .cpu s scale⌉₊ := by
  have given : read .cpu " 1.0005e-1" = .ok 101 := by decide
  exact ⟨given, read_is_exact given⟩

/-- A text beside the grammar is read only as zero, and exactly where its digits are zeros and what follows them has the
form of a suffix. -/
theorem zeros_alone_leave_grammar (m : Measure) (t : String) :
    (∀ v, read m t = .ok v → v ≠ 0 → IsQuantity (trim t.toList)) ∧
      (read m t = .ok 0 ∧ ¬ IsQuantity (trim t.toList) ↔
        ∃ s : Spelling, s.Spells (trim t.toList) ∧ s.number = 0 ∧ ∀ scale, ¬ Means s.suffix scale) := by
  refine ⟨?_, ?_, ?_⟩
  · intro v given some
    obtain ⟨s, spells, ⟨-, zero⟩ | ⟨scale, means⟩⟩ := exists_spelling_of_read given
    · exact absurd zero some
    · exact ⟨s, scale, spells.composed, spells.numeral, means⟩
  · rintro ⟨given, outside⟩
    have none : ∀ (s : Spelling) (scale : Scale), s.Spells (trim t.toList) → ¬ Means s.suffix scale :=
      fun s scale spells means => outside ⟨s, scale, spells.composed, spells.numeral, means⟩
    obtain ⟨s, spells, ⟨zero, -⟩ | ⟨scale, means⟩⟩ := exists_spelling_of_read given
    · exact ⟨s, spells, zero, fun scale => none s scale spells⟩
    · exact absurd means (none s scale spells)
  · rintro ⟨s, spells, zero, none⟩
    refine ⟨read_of_zero spells zero, ?_⟩
    rintro ⟨other, scale, composed, numeral, means⟩
    obtain rfl := spells.unique ⟨composed, numeral, means.isSuffix⟩
    exact none scale means

theorem zero_of_unknown_unit_is_read :
    read .memory "0Zi" = .ok 0 ∧ ¬ IsQuantity (trim "0Zi".toList) := by
  refine ⟨by decide, ?_⟩
  rintro ⟨s, scale, composed, numeral, means⟩
  have spelt := Spelling.Spells.ofChars? ⟨composed, numeral, means.isSuffix⟩
  have taken : Spelling.ofChars? (trim "0Zi".toList) = some ⟨['0'], [], ['Z', 'i']⟩ := by decide
  rw [taken] at spelt
  cases spelt
  have known := ofSuffix?_eq_some_iff.2 means
  cases known

theorem number_lt_of_isNumeral (numeral : s.IsNumeral) : s.number < 10 ^ 30 :=
  Nat.lt_of_lt_of_le (digitsValue_lt numeral.ascii) (Nat.pow_le_pow_right (by decide) numeral.few)

theorem binary_of_wide (numeral : s.IsNumeral) (wide : 2 ^ 128 ≤ s.number * 1024 ^ scale.binary) : 3 ≤ scale.binary := by
  by_contra low
  have factor : 1024 ^ scale.binary ≤ 1024 ^ 2 := Nat.pow_le_pow_right (by decide) (by omega)
  have number := number_lt_of_isNumeral numeral
  have product : s.number * 1024 ^ scale.binary ≤ s.number * 1024 ^ 2 := Nat.mul_le_mul_left _ factor
  omega

theorem decimal_of_binary {cs : List Char} (means : Means cs scale) (some : 0 < scale.binary) : scale.decimal = 0 := by
  cases means with
  | binary known => rfl
  | one | decimal known | exponent marked signed nonempty ascii small => exact absurd some (Nat.lt_irrefl 0)

theorem fraction_of_wide (means : Means s.suffix scale) (numeral : s.IsNumeral)
    (wide : 2 ^ 128 ≤ s.number * 1024 ^ scale.binary) (fits : ⌈exactAmount m s scale⌉₊ ≤ Amount.ceiling) :
    20 ≤ s.fraction.length := by
  by_contra short
  have binary := binary_of_wide numeral wide
  have decimal := decimal_of_binary means (by omega)
  have least : (10 : ℚ) ^ (-19 : Int) ≤ 10 ^ (scale.decimal + m.fineness - s.fraction.length) :=
    zpow_le_zpow_right₀ (by norm_num) (by omega)
  have large : (2 : ℚ) ^ 128 ≤ s.number * 1024 ^ scale.binary := by exact_mod_cast wide
  have bound : exactAmount m s scale ≤ (Amount.ceiling : ℚ) := (Nat.le_ceil _).trans (by exact_mod_cast fits)
  have ceiling : (Amount.ceiling : ℚ) < 2 ^ 64 := by exact_mod_cast (by decide : Amount.ceiling < 2 ^ 64)
  have product : (2 : ℚ) ^ 128 * 10 ^ (-19 : Int) ≤ exactAmount m s scale :=
    mul_le_mul large least (by positivity) (by positivity)
  have apart : (2 : ℚ) ^ 64 < 2 ^ 128 * 10 ^ (-19 : Int) := by norm_num
  linarith

/-- A quantity that fits is read unless its digits in the binary unit leave the 128 bits, and it is called out of range
only then or where it does not fit. -/
theorem fitting_quantities_are_read (m : Measure) (t : String) :
    (∀ (s : Spelling) (scale : Scale), s.Composes (trim t.toList) → s.IsNumeral → Means s.suffix scale →
      ⌈exactAmount m s scale⌉₊ ≤ Amount.ceiling →
        (read m t = .ok ⌈exactAmount m s scale⌉₊ ↔ s.number * 1024 ^ scale.binary < 2 ^ 128) ∧
        (2 ^ 128 ≤ s.number * 1024 ^ scale.binary → 3 ≤ scale.binary ∧ 20 ≤ s.fraction.length)) ∧
    (read m t = .error ⟨t, .outOfRange⟩ → ∃ (s : Spelling) (scale : Scale), s.Composes (trim t.toList) ∧ s.IsNumeral ∧
      Means s.suffix scale ∧
      (Amount.ceiling < ⌈exactAmount m s scale⌉₊ ∨ 2 ^ 128 ≤ s.number * 1024 ^ scale.binary)) := by
  constructor
  · intro s scale composed numeral means fits
    constructor
    · rw [read_eq_ok_iff ⟨composed, numeral, means.isSuffix⟩ means]
      exact ⟨fun given => given.1, fun narrow => ⟨narrow, rfl, fits⟩⟩
    · exact fun wide => ⟨binary_of_wide numeral wide, fraction_of_wide means numeral wide fits⟩
  · intro refused
    rcases read_cases m t with ⟨fault, other, apart⟩ | ⟨s, spells, zero | ⟨scale, means⟩⟩
    · rw [refused] at other
      cases other
      exact absurd rfl apart
    · rw [read_of_zero spells zero] at refused
      cases refused
    · have beyond := (read_eq_outOfRange_iff spells means).1 refused
      exact ⟨s, scale, spells.composed, spells.numeral, means, beyond.symm⟩

def longExbibyte : Spelling :=
  ⟨['1'], List.replicate 21 '0', ['E', 'i']⟩

theorem long_exbibyte_is_refused :
    read .memory "1.000000000000000000000Ei" = .error ⟨"1.000000000000000000000Ei", .outOfRange⟩ ∧
      longExbibyte.Composes (trim "1.000000000000000000000Ei".toList) ∧ longExbibyte.IsNumeral ∧
      Means longExbibyte.suffix ⟨6, 0⟩ ∧ ⌈exactAmount .memory longExbibyte ⟨6, 0⟩⌉₊ = 2 ^ 60 ∧
      2 ^ 60 ≤ Amount.ceiling := by
  have number : longExbibyte.number = 10 ^ 21 := by decide
  have value : exactAmount .memory longExbibyte ⟨6, 0⟩ = ((2 ^ 60 : Nat) : ℚ) := by
    rw [exactAmount, number]
    norm_num [longExbibyte, Measure.fineness]
  have ascii : longExbibyte.digits.all Char.isDigit := by decide
  refine ⟨by decide, .inr (by decide), ⟨List.all_eq_true.1 ascii, by decide, by decide⟩, .binary (by decide), ?_,
    by decide⟩
  rw [value, Nat.ceil_natCast]

end Read

end Quantity

end ClusterWatch
