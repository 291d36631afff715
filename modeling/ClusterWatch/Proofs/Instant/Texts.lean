import ClusterWatch.Instant.Reader
import ClusterWatch.Proofs.Instant.Calendar
import Mathlib.Data.Nat.Digits.Defs

namespace ClusterWatch

section Padded

variable {places n : Nat}

theorem length_padded (wide : 0 < places) (fits : n < 10 ^ places) : (padded places n).length = places := by
  have few := (Nat.length_toDigits_le_iff (b := 10) (by decide) wide).2 fits
  rw [padded, List.length_append, List.length_replicate]
  omega

theorem isDigit_of_mem_padded {c : Char} (member : c ∈ padded places n) : c.isDigit := by
  rcases List.mem_append.1 member with zero | digit
  · rw [List.eq_of_mem_replicate zero]
    rfl
  · exact Nat.isDigit_of_mem_toDigits (by decide) (by decide) digit

theorem digitsValue_padded (places n : Nat) : Text.digitsValue (padded places n) = n := by
  rw [Text.digitsValue, padded, Nat.ofDigitChars_append, Nat.ofDigitChars_replicate_zero, Nat.mul_zero,
    Nat.ofDigitChars_ten_toDigits]

end Padded

namespace Instant

theorem digits?_padded {low high places n : Nat} {rest : List Char} (wide : 0 < places) (enough : low ≤ places)
    (few : places ≤ high) (fits : n < 10 ^ places) (stops : (rest.take (high - places)).takeWhile Char.isDigit = []) :
    digits? low high (padded places n ++ rest) = some (n, rest) := by
  have length := length_padded wide fits
  have ds : ((padded places n ++ rest).take high).takeWhile Char.isDigit = padded places n := by
    rw [List.take_append, List.take_of_length_le (by omega), length,
      List.takeWhile_append_of_pos fun _ => isDigit_of_mem_padded, stops, List.append_nil]
  simp only [digits?, ds, if_neg (Nat.not_lt.2 (length.symm ▸ enough)), digitsValue_padded, List.drop_left]

theorem digits?_field {places n : Nat} {rest : List Char} (wide : 0 < places) (fits : n < 10 ^ places) :
    digits? places places (padded places n ++ rest) = some (n, rest) := by
  apply digits?_padded wide (Nat.le_refl _) (Nat.le_refl _) fits
  rw [Nat.sub_self, List.take_zero, List.takeWhile_nil]

theorem char?_cons (c : Char) (rest : List Char) : char? c (c :: rest) = some rest :=
  if_pos rfl

theorem separator?_letter (rest : List Char) : separator? ('T' :: rest) = some rest :=
  rfl

/-- The fraction is that of some digits, three, six or nine of them, which leave out zeros at the end only. -/
theorem fractionChars_cases {nanos : Nat} (fits : nanos < 1000000000) :
    (nanos = 0 ∧ fractionChars nanos = []) ∨
      ∃ places n, (places = 3 ∨ places = 6 ∨ places = 9) ∧ n < 10 ^ places ∧ n * 10 ^ (9 - places) = nanos ∧
        fractionChars nanos = '.' :: padded places n := by
  rw [fractionChars]
  by_cases none : nanos = 0
  · exact Or.inl ⟨none, if_pos none⟩
  · rw [if_neg none]
    by_cases three : nanos % 1000000 = 0
    · rw [if_pos three]
      exact Or.inr ⟨3, nanos / 1000000, by omega, by omega, by omega, rfl⟩
    · rw [if_neg three]
      by_cases six : nanos % 1000 = 0
      · rw [if_pos six]
        exact Or.inr ⟨6, nanos / 1000, by omega, by omega, by omega, rfl⟩
      · rw [if_neg six]
        exact Or.inr ⟨9, nanos, by omega, by omega, by omega, rfl⟩

theorem fraction?_fractionChars {nanos : Nat} (fits : nanos < 1000000000) {c : Char} (stop : c.isDigit = false)
    (point : c ≠ '.') (rest : List Char) :
    fraction? (fractionChars nanos ++ c :: rest) = some (nanos, c :: rest) := by
  rcases fractionChars_cases fits with ⟨rfl, same⟩ | ⟨places, n, widths, small, value, same⟩
  · rw [same, List.nil_append, fraction?]
    intro after begins
    exact point (List.cons.inj begins).1
  · have wide : 0 < places ∧ places ≤ 9 := by omega
    have length := length_padded wide.1 small
    have read : digits? 1 9 (padded places n ++ c :: rest) = some (n, c :: rest) := by
      apply digits?_padded wide.1 wide.1 wide.2 small
      cases 9 - places <;> simp [stop]
    have ended : (c :: rest).dropWhile Char.isDigit = c :: rest := List.dropWhile_cons_of_neg (by simp [stop])
    have used : (padded places n ++ c :: rest).length - (c :: rest).length = places := by
      rw [List.length_append, length, Nat.add_sub_cancel]
    rw [same, List.cons_append, fraction?, read, Option.map_some]
    simp only [used, ended]
    rw [← value]
    rfl

def fields (t : Instant) : Fields :=
  let secondOfDay := (t.seconds % secondsPerDay).toNat
  ⟨Date.ofDays (t.seconds / secondsPerDay), secondOfDay / 3600, secondOfDay / 60 % 60,
    secondOfDay % 60 + t.nanos / 1000000000, t.nanos % 1000000000, 0⟩

def HasPlainYear (t : Instant) : Prop :=
  0 ≤ (Date.ofDays (t.seconds / secondsPerDay)).year ∧ (Date.ofDays (t.seconds / secondsPerDay)).year ≤ 9999

theorem Fields.instant?_of_parts {f : Fields} {t : Instant} (valid : f.date.isValid) (hour : f.hour ≤ 23)
    (minute : f.minute ≤ 59) (second : f.second ≤ 60) (common : f.offset = 0)
    (seconds : f.date.toDays * secondsPerDay + (f.hour * 3600 + f.minute * 60 + min f.second 59 : Nat) = t.seconds)
    (nanos : f.nanos + (if f.second = 60 then 1000000000 else 0) = t.nanos) : f.instant? = some t := by
  simp only [instant?, valid, hour, minute, second, common, seconds, nanos, ofParts?_parts, Option.bind_some,
    Int.sub_zero]
  rfl

theorem instant?_fields (t : Instant) : t.fields.instant? = some t := by
  have fits := t.fits
  have valid : t.fields.date.isValid := Date.isValid_ofDays (t.seconds / secondsPerDay)
  refine Fields.instant?_of_parts valid ?hour ?minute ?second rfl ?seconds ?nanos
  case hour | minute | second | seconds =>
    simp only [fields, secondsPerDay, Date.toDays_ofDays]
    omega
  case nanos =>
    by_cases leap : t.fields.second = 60
    · rw [if_pos leap]
      simp only [fields, secondsPerDay] at leap ⊢
      omega
    · rw [if_neg leap]
      simp only [fields, secondsPerDay] at leap ⊢
      omega

structure Fields.FitWidths (f : Fields) : Prop where
  year : (f.date.year.toNat : Int) = f.date.year ∧ f.date.year.toNat < 10 ^ 4
  month : f.date.month < 10 ^ 2
  day : f.date.day < 10 ^ 2
  hour : f.hour < 10 ^ 2
  minute : f.minute < 10 ^ 2
  second : f.second < 10 ^ 2
  nanos : f.nanos < 1000000000

theorem fields_lt (t : Instant) : t.fields.date.month < 10 ^ 2 ∧ t.fields.date.day < 10 ^ 2 ∧ t.fields.hour < 10 ^ 2 ∧
    t.fields.minute < 10 ^ 2 ∧ t.fields.second < 10 ^ 2 ∧ t.fields.nanos < 1000000000 := by
  have valid := Date.le_of_isValid (Date.isValid_ofDays (t.seconds / secondsPerDay))
  have fits := t.fits
  simp only [fields, secondsPerDay] at *
  omega

theorem fitWidths_fields {t : Instant} (plain : t.HasPlainYear) : t.fields.FitWidths := by
  obtain ⟨first, last⟩ := plain
  obtain ⟨month, day, hour, minute, second, nanos⟩ := fields_lt t
  have year : (t.fields.date.year.toNat : Int) = t.fields.date.year ∧ t.fields.date.year.toNat < 10 ^ 4 := by
    simp only [fields]
    omega
  exact ⟨year, month, day, hour, minute, second, nanos⟩

def Fields.minuteChars (f : Fields) : List Char :=
  padded 4 f.date.year.toNat ++ '-' :: (padded 2 f.date.month ++ '-' :: (padded 2 f.date.day ++
    'T' :: (padded 2 f.hour ++ ':' :: padded 2 f.minute)))

theorem Fields.FitWidths.length_minuteChars {f : Fields} (fit : f.FitWidths) : f.minuteChars.length = 16 := by
  have two : 0 < 2 := by decide
  simp only [minuteChars, List.length_append, List.length_cons, length_padded (by decide : 0 < 4) fit.year.2,
    length_padded two fit.month, length_padded two fit.day, length_padded two fit.hour, length_padded two fit.minute]

theorem toList_text {t : Instant} (plain : t.HasPlainYear) : t.text.toList =
    t.fields.minuteChars ++ ':' :: (padded 2 t.fields.second ++ (fractionChars t.fields.nanos ++ ['Z'])) := by
  rw [HasPlainYear] at plain
  simp only [text, String.toList_ofList, chars, dateChars, timeChars, yearChars, if_pos plain, Fields.minuteChars,
    List.append_assoc, List.cons_append, fields]

theorem exactFields?_text {t : Instant} (plain : t.HasPlainYear) :
    exactFields? t.text.toList = some (t.fields, []) := by
  have fit := fitWidths_fields plain
  have two : 0 < 2 := by decide
  rw [toList_text plain, Fields.minuteChars]
  simp only [List.append_assoc, List.cons_append]
  unfold exactFields?
  -- Field by field, as the reader goes.
  rw [digits?_field (by decide : 0 < 4) fit.year.2, Option.bind_eq_bind, Option.bind_some]
  dsimp only
  rw [char?_cons, Option.bind_eq_bind, Option.bind_some, digits?_field two fit.month, Option.bind_some]
  dsimp only
  rw [char?_cons, Option.bind_some, digits?_field two fit.day, Option.bind_some]
  dsimp only
  rw [separator?_letter, Option.bind_some, digits?_field two fit.hour, Option.bind_some]
  dsimp only
  rw [char?_cons, Option.bind_some, digits?_field two fit.minute, Option.bind_some]
  dsimp only
  rw [char?_cons, Option.bind_some, digits?_field two fit.second, Option.bind_some]
  dsimp only
  rw [fraction?_fractionChars fit.nanos (c := 'Z') rfl (by decide), Option.bind_some, fit.year.1]
  rfl

theorem ofText?_text {t : Instant} (plain : t.HasPlainYear) : ofText? t.text = some t := by
  rw [ofText?, exactFields?_text plain]
  exact instant?_fields t

def lengthByDigits (digits : Nat) : Nat :=
  if digits = 2 then 20 else 21 + digits

theorem exists_digits_of_text {t : Instant} (plain : t.HasPlainYear) : ∃ front c digits,
    t.text.toList = front ++ c :: (digits ++ ['Z']) ∧ c.isDigit = false ∧ (∀ d ∈ digits, d.isDigit) ∧
      t.text.toList.length = lengthByDigits digits.length := by
  have fit := fitWidths_fields plain
  have seconds := length_padded (by decide) fit.second
  rw [toList_text plain]
  rcases fractionChars_cases fit.nanos with ⟨-, none⟩ | ⟨places, n, widths, small, -, same⟩
  · refine ⟨t.fields.minuteChars, ':', padded 2 t.fields.second, ?_, rfl, fun _ => isDigit_of_mem_padded, ?_⟩
    · rw [none, List.nil_append]
    · rw [none, List.length_append, fit.length_minuteChars, List.length_cons, List.length_append, seconds]
      rfl
  · have length := length_padded (by omega) small
    refine ⟨t.fields.minuteChars ++ ':' :: padded 2 t.fields.second, '.', padded places n, ?_, rfl,
      fun _ => isDigit_of_mem_padded, ?_⟩
    · rw [same, List.append_assoc, List.cons_append, List.cons_append]
    · rw [same, List.length_append, fit.length_minuteChars, List.length_cons, List.length_append, seconds,
        List.length_append, List.length_cons, length, List.length_singleton, lengthByDigits, if_neg (by omega)]
      omega

end Instant

end ClusterWatch
