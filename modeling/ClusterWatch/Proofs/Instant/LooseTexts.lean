import ClusterWatch.Proofs.Instant.Texts
import ClusterWatch.Proofs.Text.Blank

namespace ClusterWatch.Instant

section Fields

variable {c : Char} {ds rest : List Char}

theorem skipBlanks_cons (solid : Text.isBlank c = false) (rest : List Char) : skipBlanks (c :: rest) = c :: rest :=
  List.dropWhile_cons_of_neg (by simp [solid])

theorem skipBlanks_of_digits (digits : ∀ c ∈ ds, c.isDigit) (some : ds ≠ []) (rest : List Char) :
    skipBlanks (ds ++ rest) = ds ++ rest := by
  obtain ⟨c, others, rfl⟩ := List.exists_cons_of_ne_nil some
  exact skipBlanks_cons (Text.isBlank_of_isDigit (digits c List.mem_cons_self)) _

theorem padded_ne_nil {places n : Nat} : padded places n ≠ [] :=
  List.append_ne_nil_of_right_ne_nil _ Nat.toDigits_ne_nil

theorem mark?_cons (solid : Text.isBlank c = false) (rest : List Char) : mark? c (c :: rest) = some rest := by
  rw [mark?, skipBlanks_cons solid, char?_cons]

theorem field?_padded {n : Nat} (fits : n < 10 ^ 2) (rest : List Char) : field? (padded 2 n ++ rest) = some (n, rest) := by
  rw [field?, skipBlanks_of_digits (fun _ => isDigit_of_mem_padded) padded_ne_nil]
  apply digits?_padded (by decide) (by decide) (Nat.le_refl _) fits
  rw [Nat.sub_self, List.take_zero, List.takeWhile_nil]

theorem allDigits?_padded (places n : Nat) (stop : c.isDigit = false) (rest : List Char) :
    allDigits? (padded places n ++ c :: rest) = some (n, c :: rest) := by
  have ds : ((padded places n ++ c :: rest).take (padded places n ++ c :: rest).length).takeWhile Char.isDigit =
      padded places n := by
    rw [List.take_length, List.takeWhile_append_of_pos fun _ => isDigit_of_mem_padded,
      List.takeWhile_cons_of_neg (by simp [stop]), List.append_nil]
  have some : ¬ (padded places n).length < 1 := by
    rw [Nat.lt_one_iff, List.length_eq_zero_iff]
    exact padded_ne_nil
  simp only [allDigits?, digits?, ds, if_neg some, digitsValue_padded, List.drop_left]

theorem year?_of_digits (digits : ∀ c ∈ ds, c.isDigit) (some : ds ≠ []) (rest : List Char) :
    year? (ds ++ rest) = (digits? 1 4 (ds ++ rest)).map fun (n, rest) => ((n : Int), rest) := by
  rw [year?, skipBlanks_of_digits digits some]
  obtain ⟨c, others, rfl⟩ := List.exists_cons_of_ne_nil some
  have digit := digits c List.mem_cons_self
  split
  · rename_i after sign
    cases sign
    cases digit
  · rename_i after sign
    cases sign
    cases digit
  · rfl

theorem year?_yearChars (year : Int) (rest : List Char) :
    year? (yearChars year ++ '-' :: rest) = some (year, '-' :: rest) := by
  rw [yearChars]
  split
  · have few : year.toNat < 10 ^ 4 := by omega
    have same : (year.toNat : Int) = year := by omega
    have read : digits? 1 4 (padded 4 year.toNat ++ '-' :: rest) = some (year.toNat, '-' :: rest) := by
      apply digits?_padded (by decide) (by decide) (Nat.le_refl _) few
      rw [Nat.sub_self, List.take_zero, List.takeWhile_nil]
    rw [year?_of_digits (fun _ => isDigit_of_mem_padded) padded_ne_nil, read]
    simp only [Option.map_some, same]
  · have read := allDigits?_padded 4 year.natAbs (c := '-') rfl rest
    by_cases negative : year < 0
    · have same : -(year.natAbs : Int) = year := by omega
      rw [if_pos negative, List.cons_append, year?, skipBlanks_cons (by decide)]
      simp only [read, Option.map_some, same]
    · have same : (year.natAbs : Int) = year := by omega
      rw [if_neg negative, List.cons_append, year?, skipBlanks_cons (by decide)]
      simp only [read, Option.map_some, same]

theorem looseOffset?_letter : looseOffset? ['Z'] = some (0, []) := by
  decide

end Fields

theorem toList_text_of_year (t : Instant) : t.text.toList =
    yearChars t.fields.date.year ++ '-' :: (padded 2 t.fields.date.month ++ '-' :: (padded 2 t.fields.date.day ++
      'T' :: (padded 2 t.fields.hour ++ ':' :: (padded 2 t.fields.minute ++ ':' :: (padded 2 t.fields.second ++
        (fractionChars t.fields.nanos ++ ['Z'])))))) := by
  simp only [text, String.toList_ofList, chars, dateChars, timeChars, List.append_assoc, List.cons_append, fields]

theorem looseFields?_text (t : Instant) : looseFields? t.text.toList = some (t.fields, []) := by
  obtain ⟨month, day, hour, minute, second, nanos⟩ := fields_lt t
  rw [toList_text_of_year]
  unfold looseFields?
  -- Field by field, as the reader goes.
  rw [year?_yearChars, Option.bind_eq_bind, Option.bind_some]
  dsimp only
  rw [mark?_cons (by decide), Option.bind_eq_bind, Option.bind_some, field?_padded month, Option.bind_eq_bind,
    Option.bind_some]
  dsimp only
  rw [mark?_cons (by decide), Option.bind_some, field?_padded day, Option.bind_some]
  dsimp only
  rw [separator?_letter, Option.bind_some, field?_padded hour, Option.bind_some]
  dsimp only
  rw [mark?_cons (by decide), Option.bind_some, field?_padded minute, Option.bind_some]
  dsimp only
  rw [mark?_cons (by decide), Option.bind_some, field?_padded second, Option.bind_some]
  dsimp only
  rw [fraction?_fractionChars nanos (c := 'Z') rfl (by decide), Option.bind_some]
  dsimp only
  rw [skipBlanks_cons (by decide), looseOffset?_letter, Option.bind_some]
  rfl

theorem ofLooseText?_text (t : Instant) : ofLooseText? t.text = some t := by
  rw [ofLooseText?, looseFields?_text]
  exact instant?_fields t

end ClusterWatch.Instant
