import ClusterWatch.Proofs.Quantity.Reading
import ClusterWatch.Proofs.Text.Blank

namespace ClusterWatch.Quantity

open Text

theorem isDigit_of_mem_numeral {n : Nat} {c : Char} (member : c ∈ Nat.toDigits 10 n) : c.isDigit :=
  Nat.isDigit_of_mem_toDigits (by decide) (by decide) member

def isUnit (cs : List Char) : Bool :=
  cs.all fun c => c.isAlpha && !isDecimal c && !isBlank c

theorem trim_numeral (n : Nat) {unit : List Char} (known : isUnit unit) :
    trim (Nat.toDigits 10 n ++ unit) = Nat.toDigits 10 n ++ unit := by
  have solid : ∀ c ∈ Nat.toDigits 10 n ++ unit, isBlank c = false := by
    intro c member
    rcases List.mem_append.1 member with digit | letter
    · exact isBlank_of_isDigit (isDigit_of_mem_numeral digit)
    · simp only [isUnit, List.all_eq_true, Bool.and_eq_true, Bool.not_eq_true'] at known
      exact (known c letter).2
  apply trim_eq_self
  · exact fun c first => solid c (List.mem_of_mem_head? first)
  · exact fun c last => solid c (List.mem_of_getLast? last)

theorem isNumeral_numeral {n : Nat} (fits : n ≤ Amount.ceiling) (unit : List Char) :
    Spelling.IsNumeral ⟨Nat.toDigits 10 n, [], unit⟩ := by
  -- No amount has more than twenty digits, and thirty are allowed.
  have short : (Nat.toDigits 10 n).length ≤ 20 := by
    rw [Nat.length_toDigits_le_iff (by decide) (by decide)]
    exact Nat.lt_of_le_of_lt fits (by decide)
  have digits : Spelling.digits ⟨Nat.toDigits 10 n, [], unit⟩ = Nat.toDigits 10 n := List.append_nil _
  constructor
  · rw [digits]
    exact fun c member => isDigit_of_mem_numeral member
  · rw [digits]
    exact Nat.toDigits_ne_nil
  · rw [digits]
    omega

theorem number_numeral (n : Nat) (unit : List Char) : Spelling.number ⟨Nat.toDigits 10 n, [], unit⟩ = n := by
  rw [Spelling.number, Spelling.digits, List.append_nil, digitsValue, Nat.ofDigitChars_ten_toDigits]

theorem read_numeral {m : Measure} {t : String} (n power : Nat) {unit : List Char} {scale : Scale}
    (text : t.toList = Nat.toDigits 10 n ++ unit) (known : isUnit unit) (means : Means unit scale)
    (exponent : scale.decimal + m.fineness = power)
    (fits : n * 1024 ^ scale.binary * 10 ^ power ≤ Amount.ceiling) :
    read m t = .ok (n * 1024 ^ scale.binary * 10 ^ power) := by
  have whole : n * 1024 ^ scale.binary ≤ Amount.ceiling :=
    Nat.le_trans (Nat.le_mul_of_pos_right _ (Nat.pow_pos (by decide))) fits
  have small : n ≤ Amount.ceiling := Nat.le_trans (Nat.le_mul_of_pos_right _ (Nat.pow_pos (by decide))) whole
  have spells : Spelling.Spells ⟨Nat.toDigits 10 n, [], unit⟩ (trim t.toList) := by
    rw [text, trim_numeral n known]
    exact ⟨.inl ⟨rfl, rfl⟩, isNumeral_numeral small unit, means.isSuffix⟩
  have value : ⌈exactAmount m ⟨Nat.toDigits 10 n, [], unit⟩ scale⌉₊ = n * 1024 ^ scale.binary * 10 ^ power := by
    have exact_ : exactAmount m ⟨Nat.toDigits 10 n, [], unit⟩ scale =
        ((n * 1024 ^ scale.binary : Nat) : ℚ) * 10 ^ (power : Int) := by
      rw [exactAmount, number_numeral, List.length_nil, exponent]
      push_cast
      rw [sub_zero]
    rw [exact_, ceil_mul_zpow]
  have wide : Amount.ceiling < 2 ^ 128 := by decide
  rw [read_eq_ok_iff spells means, number_numeral]
  exact ⟨Nat.lt_of_le_of_lt whole wide, value.symm, fits⟩

theorem toList_toString (n : Nat) : (toString n).toList = Nat.toDigits 10 n :=
  String.toList_ofList

theorem exists_unit_of_reduce (n : Nat) (units : List String) (unit : String) :
    ∃ k, (unit :: units)[k]? = some (reduce n units unit).2 ∧ (reduce n units unit).1 * 1024 ^ k = n ∧
      (1024 ∣ (reduce n units unit).1 → k = units.length) := by
  -- Dividing by 1024 goes up the units, step by step, as long as it is exact and there is a unit left.
  induction units generalizing n unit with
  | nil => exact ⟨0, rfl, Nat.mul_one n, fun _ => rfl⟩
  | cons next units ih =>
    rw [reduce]
    split
    · rename_i exact
      obtain ⟨k, found, whole, stops⟩ := ih (n / 1024) next
      refine ⟨k + 1, found, ?_, fun divides => congrArg (· + 1) (stops divides)⟩
      rw [Nat.pow_succ, ← Nat.mul_assoc, whole, Nat.div_mul_cancel (Nat.dvd_of_mod_eq_zero exact)]
    · rename_i inexact
      exact ⟨0, rfl, Nat.mul_one n, fun divides => absurd (Nat.mod_eq_zero_of_dvd divides) inexact⟩

theorem binaryUnits_known : ∀ k : Fin 7, ∀ unit ∈ ("" :: binaryUnits)[k.val]?,
    isUnit unit.toList ∧ Scale.ofSuffix? unit.toList = some ⟨k.val, 0⟩ := by
  decide

theorem read_printMemory {n : Nat} (fits : n ≤ Amount.ceiling) : read .memory (printMemory n) = .ok n := by
  rw [printMemory]
  split
  · rename_i none
    rw [none]
    decide
  · obtain ⟨k, found, whole, -⟩ := exists_unit_of_reduce n binaryUnits ""
    have bound : k < 7 := (List.getElem?_eq_some_iff.1 found).1
    obtain ⟨known, suffix⟩ := binaryUnits_known ⟨k, bound⟩ _ found
    have text : (toString (reduce n binaryUnits "").1 ++ (reduce n binaryUnits "").2).toList =
        Nat.toDigits 10 (reduce n binaryUnits "").1 ++ (reduce n binaryUnits "").2.toList := by
      rw [String.toList_append, toList_toString]
    have read := read_numeral (m := .memory) _ 0 text known (ofSuffix?_eq_some_iff.1 suffix) rfl
      (by rw [whole, Nat.pow_zero, Nat.mul_one]; exact fits)
    rwa [whole, Nat.pow_zero, Nat.mul_one] at read

theorem read_printCpu {n : Nat} (fits : n ≤ Amount.ceiling) : read .cpu (printCpu n) = .ok n := by
  rw [printCpu]
  split
  · rename_i exact
    have whole : n / 1000 * 1024 ^ 0 * 10 ^ 3 = n := by omega
    have text : (toString (n / 1000)).toList = Nat.toDigits 10 (n / 1000) ++ [] := by
      rw [toList_toString, List.append_nil]
    have read := read_numeral (m := .cpu) (n / 1000) 3 text rfl .one rfl (by rw [whole]; exact fits)
    rwa [whole] at read
  · have whole : n * 1024 ^ 0 * 10 ^ 0 = n := by omega
    have text : (toString n ++ "m").toList = Nat.toDigits 10 n ++ ['m'] := by
      rw [String.toList_append, toList_toString]
      rfl
    have milli : Means ['m'] ⟨0, -3⟩ := .decimal (by decide)
    have read := read_numeral (m := .cpu) n 0 text (by decide) milli rfl (by rw [whole]; exact fits)
    rwa [whole] at read

theorem read_print (m : Measure) {n : Nat} (fits : n ≤ Amount.ceiling) : read m (print m n) = .ok n := by
  cases m with
  | cpu => exact read_printCpu fits
  | memory => exact read_printMemory fits

theorem le_ceiling_of_read {m : Measure} {s : String} {n : Nat} (given : read m s = .ok n) : n ≤ Amount.ceiling := by
  obtain ⟨spelling, spells, ⟨-, rfl⟩ | ⟨scale, means⟩⟩ := exists_spelling_of_read given
  · exact Nat.zero_le _
  · exact ((read_eq_ok_iff spells means).1 given).2.2

end ClusterWatch.Quantity
