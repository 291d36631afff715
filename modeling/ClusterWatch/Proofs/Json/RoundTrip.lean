import ClusterWatch.Json.Printer
import ClusterWatch.Json.Reader
import Mathlib.Data.List.TakeDrop

namespace ClusterWatch.Json

theorem hexValue?_hexDigit : ∀ n : Fin 16, Text.hexValue? (hexDigit n) = some n.val := by
  decide

theorem hexUnit?_of_control {n : Nat} (bound : n < 0x20) :
    hexUnit? '0' '0' (hexDigit (n / 16)) (hexDigit (n % 16)) = some n := by
  have high := hexValue?_hexDigit ⟨n / 16, by omega⟩
  have low := hexValue?_hexDigit ⟨n % 16, by omega⟩
  have zero : Text.hexValue? '0' = some 0 := by decide
  simp only at high low
  simp only [hexUnit?, high, low, zero, Option.bind_eq_bind, Option.bind_some, Option.pure_def,
    Option.some.injEq]
  omega

theorem stringRest_escape (c : Char) (before rest : List Char) :
    stringRest none (some before) (escape c ++ rest) = stringRest none (some (c :: before)) rest := by
  unfold escape
  split
  · subst c; rfl
  split
  · subst c; rfl
  split
  · subst c; rfl
  split
  · subst c; rfl
  split
  · subst c; rfl
  split
  · rename_i code
    have same : c = '\x08' := Char.toNat_inj.1 code
    subst c; rfl
  split
  · rename_i code
    have same : c = '\x0c' := Char.toNat_inj.1 code
    subst c; rfl
  split
  · rename_i control
    have unit := hexUnit?_of_control control
    have notHigh : isHighHalf c.toNat = false := by
      simp [isHighHalf]
      omega
    have notLow : isLowHalf c.toNat = false := by
      simp [isLowHalf]
      omega
    simp only [List.cons_append, List.nil_append]
    rw [stringRest.eq_def]
    simp [unit, notHigh, notLow]
  · rename_i quote slash _ _ _ _ _ control
    simp only [List.cons_append, List.nil_append]
    rw [stringRest.eq_def]
    split <;> simp_all [Nat.not_lt_of_le]

theorem stringRest_escapes (cs before rest : List Char) :
    stringRest none (some before) (cs.flatMap escape ++ '"' :: rest) =
      some (some (String.ofList (before.reverse ++ cs)), rest) := by
  induction cs generalizing before with
  | nil => simp [stringRest]
  | cons c cs ih =>
    rw [List.flatMap_cons, List.append_assoc, stringRest_escape, ih]
    simp

theorem stringValue_escapes (s : String) (rest : List Char) :
    stringValue (s.toList.flatMap escape ++ '"' :: rest) = some (some s, rest) := by
  rw [stringValue, stringRest_escapes]
  simp

def endsNumber : List Char → Bool
  | [] => true
  | c :: _ => !c.isDigit && c != '.' && c != 'e' && c != 'E'

theorem digits?_append {ds rest : List Char} (digits : ∀ c ∈ ds, c.isDigit) (nonempty : ds ≠ [])
    (stop : endsNumber rest) : digits? (ds ++ rest) = some (ds, rest) := by
  have span : (ds ++ rest).span Char.isDigit = (ds, rest) := by
    rw [List.span_eq_takeWhile_dropWhile]
    have after : rest.takeWhile Char.isDigit = [] ∧ rest.dropWhile Char.isDigit = rest := by
      cases rest with
      | nil => exact ⟨rfl, rfl⟩
      | cons c rest =>
        simp only [endsNumber, Bool.and_eq_true, Bool.not_eq_true'] at stop
        simp [stop.1.1.1]
    rw [List.takeWhile_append_of_pos digits, List.dropWhile_append_of_pos digits, after.1, after.2,
      List.append_nil]
  simp only [digits?, span]
  simp [nonempty]

theorem fractionPart?_stop {rest : List Char} (stop : endsNumber rest) :
    fractionPart? rest = some ([], rest) := by
  cases rest with
  | nil => rfl
  | cons c rest =>
    rw [fractionPart?.eq_def]
    split <;> simp_all [endsNumber]

theorem exponentPart?_stop {rest : List Char} (stop : endsNumber rest) :
    exponentPart? rest = some ([], rest) := by
  cases rest with
  | nil => rfl
  | cons c rest =>
    simp only [endsNumber, Bool.and_eq_true, bne_iff_ne] at stop
    simp [exponentPart?, stop.1.2, stop.2]

theorem head_toDigits {n : Nat} (positive : 0 < n) : (Nat.toDigits 10 n).head? ≠ some '0' := by
  induction n using Nat.strongRecOn with
  | ind n ih =>
    by_cases small : n < 10
    · rw [Nat.toDigits_of_lt_base small]
      have all : ∀ k : Fin 10, 0 < k.val → ([k.val.digitChar].head? ≠ some '0') := by decide
      exact all ⟨n, small⟩ positive
    · have shorter := ih (n / 10) (by omega) (by omega)
      rw [Nat.toDigits_of_base_le (by decide) (by omega), List.head?_append]
      cases start : (Nat.toDigits 10 (n / 10)).head? with
      | none => exact absurd (List.head?_eq_none_iff.1 start) Nat.toDigits_ne_nil
      | some c => simpa [start] using shorter

theorem wholePart?_toDigits (n : Nat) {rest : List Char} (stop : endsNumber rest) :
    wholePart? (Nat.toDigits 10 n ++ rest) = some (Nat.toDigits 10 n, rest) := by
  have digits : ∀ c ∈ Nat.toDigits 10 n, c.isDigit :=
    fun c member => Nat.isDigit_of_mem_toDigits (by decide) (by decide) member
  rcases Nat.eq_zero_or_pos n with rfl | positive
  · rw [Nat.toDigits_zero]
    cases rest with
    | nil => rfl
    | cons c rest =>
      simp only [endsNumber, Bool.and_eq_true, Bool.not_eq_true'] at stop
      simp [wholePart?, stop.1.1.1]
  · have read := digits?_append digits Nat.toDigits_ne_nil stop
    have start := head_toDigits positive
    cases shape : Nat.toDigits 10 n with
    | nil => exact absurd shape Nat.toDigits_ne_nil
    | cons c cs =>
      rw [shape] at read start
      rw [← read, List.cons_append, wholePart?.eq_def]
      split <;> simp_all

theorem number_toDigits (n : Nat) {rest : List Char} (stop : endsNumber rest) :
    number false (Nat.toDigits 10 n ++ rest) = some (.integer n, rest) := by
  simp [number, wholePart?_toDigits n stop, fractionPart?_stop stop, exponentPart?_stop stop,
    Text.digitsValue, Nat.ofDigitChars_toDigits]

theorem number_toDigits_negative (n : Nat) {rest : List Char} (stop : endsNumber rest) :
    number true (Nat.toDigits 10 (n + 1) ++ rest) = some (.integer (.negSucc n), rest) := by
  simp [number, wholePart?_toDigits (n + 1) stop, fractionPart?_stop stop, exponentPart?_stop stop,
    Text.digitsValue, Nat.ofDigitChars_toDigits]
  omega

mutual

/-- Values that are printed as themselves: there is no spelling of a number to keep, and nothing without a value. -/
def isPlain : Json → Bool
  | .decimal _ | .broken => false
  | .array items => arePlain items
  | .object members => arePlainMembers members
  | _ => true
termination_by structural j => j

def arePlain : List Json → Bool
  | [] => true
  | j :: rest => j.isPlain && arePlain rest
termination_by structural js => js

def arePlainMembers : List (String × Json) → Bool
  | [] => true
  | (_, j) :: rest => j.isPlain && arePlainMembers rest
termination_by structural ms => ms

end

theorem all_iff_forall_mem {α : Type} {check : α → Bool} {all : List α → Bool} (nil : all [])
    (cons : ∀ a rest, all (a :: rest) = (check a && all rest)) {items : List α} : all items ↔ ∀ a ∈ items, check a := by
  induction items with
  | nil => exact iff_of_true nil (List.forall_mem_nil _)
  | cons a rest ih => rw [cons, Bool.and_eq_true, ih, List.forall_mem_cons]

theorem isPlain_array_iff {items : List Json} : (Json.array items).isPlain ↔ ∀ j ∈ items, j.isPlain := by
  rw [isPlain]
  exact all_iff_forall_mem rfl fun _ _ => rfl

theorem isPlain_object_iff {members : List (String × Json)} :
    (Json.object members).isPlain ↔ ∀ m ∈ members, m.2.isPlain := by
  rw [isPlain]
  exact all_iff_forall_mem rfl fun _ _ => rfl

theorem skipSpace_cons {c : Char} (solid : isSpace c = false) (rest : List Char) :
    skipSpace (c :: rest) = c :: rest := by
  simp [skipSpace, solid]

def startsValue (c : Char) : Bool :=
  ['n', 't', 'f', '"', '-', '[', '\x7b'].contains c || c.isDigit

theorem startsValue_solid {c : Char} (start : startsValue c) : isSpace c = false ∧ c ≠ ']' := by
  rcases Bool.or_eq_true_iff.1 start with known | digit
  · simp only [List.contains_eq_mem, List.mem_cons, List.not_mem_nil, or_false, decide_eq_true_eq] at known
    rcases known with rfl | rfl | rfl | rfl | rfl | rfl | rfl <;> decide
  · simp only [isSpace, Bool.or_eq_false_iff, decide_eq_false_iff_not]
    refine ⟨⟨⟨⟨?_, ?_⟩, ?_⟩, ?_⟩, ?_⟩ <;> (rintro rfl; revert digit; decide)

theorem exists_toDigits (n : Nat) : ∃ c cs, Nat.toDigits 10 n = c :: cs ∧ c.isDigit := by
  cases shape : Nat.toDigits 10 n with
  | nil => exact absurd shape Nat.toDigits_ne_nil
  | cons c cs =>
    refine ⟨c, cs, rfl, ?_⟩
    apply Nat.isDigit_of_mem_toDigits (b := 10) (n := n) (by decide) (by decide)
    rw [shape]
    exact List.mem_cons_self

theorem integerChars_start (n : Int) : ∃ c cs, integerChars n = c :: cs ∧ startsValue c := by
  cases n with
  | ofNat n =>
    obtain ⟨c, cs, shape, digit⟩ := exists_toDigits n
    exact ⟨c, cs, shape, by simp [startsValue, digit]⟩
  | negSucc n => exact ⟨'-', _, rfl, by decide⟩

theorem chars_start {j : Json} (plain : j.isPlain) : ∃ c cs, j.chars = c :: cs ∧ startsValue c := by
  cases j with
  | null => exact ⟨'n', _, rfl, by decide⟩
  | bool b =>
    cases b
    · exact ⟨'f', _, rfl, by decide⟩
    · exact ⟨'t', _, rfl, by decide⟩
  | integer n => exact integerChars_start n
  | decimal literal => simp [isPlain] at plain
  | string s => exact ⟨'"', _, rfl, by decide⟩
  | array items => cases items <;> exact ⟨'[', _, rfl, by decide⟩
  | object members => cases members <;> exact ⟨'\x7b', _, rfl, by decide⟩
  | broken => simp [isPlain] at plain

theorem charsOfItems_stop (items : List Json) (rest : List Char) :
    endsNumber (charsOfItems items ++ rest) ∧ 0 < (charsOfItems items).length := by
  cases items <;> simp [charsOfItems, endsNumber]

theorem charsOfMembers_stop (members : List (String × Json)) (rest : List Char) :
    endsNumber (charsOfMembers members ++ rest) ∧ 0 < (charsOfMembers members).length := by
  cases members <;> simp [charsOfMembers, endsNumber]

theorem value_digits {c : Char} (digit : c.isDigit) (fuel : Nat) (cs : List Char) :
    value (fuel + 1) (c :: cs) = number false (c :: cs) := by
  have solid := (startsValue_solid (c := c) (by simp [startsValue, digit])).1
  rw [value.eq_def]
  simp only [skipSpace_cons solid]
  split <;> simp_all

theorem value_integer (n : Int) (fuel : Nat) {rest : List Char} (stop : endsNumber rest) :
    value (fuel + 1) (integerChars n ++ rest) = some (.integer n, rest) := by
  cases n with
  | ofNat n =>
    obtain ⟨c, cs, shape, digit⟩ := exists_toDigits n
    have read := number_toDigits n stop
    rw [shape] at read
    rw [integerChars, shape, List.cons_append, value_digits digit]
    exact read
  | negSucc n => exact number_toDigits_negative n stop

theorem value_quote (s : String) (fuel : Nat) (rest : List Char) :
    value (fuel + 1) (stringChars s ++ rest) = some (.string s, rest) := by
  have quote : skipSpace ('"' :: (s.toList.flatMap escape ++ '"' :: rest)) =
      '"' :: (s.toList.flatMap escape ++ '"' :: rest) := skipSpace_cons (by decide) _
  simp only [stringChars, List.cons_append, List.append_assoc, List.nil_append]
  rw [value.eq_def]
  simp only [quote, stringValue_escapes, Option.map_some]
  rfl

structure ReadsBack (fuel : Nat) : Prop where
  value : ∀ (j : Json) (rest : List Char), j.isPlain → j.chars.length ≤ fuel → endsNumber rest →
    value fuel (j.chars ++ rest) = some (j, rest)
  items : ∀ (before : List Json) (j : Json) (items : List Json) (rest : List Char),
    j.isPlain → arePlain items → j.chars.length + (charsOfItems items).length ≤ fuel →
    itemsRest fuel before (j.chars ++ (charsOfItems items ++ rest)) =
      some (.array (before.reverse ++ j :: items), rest)
  members : ∀ (before : List (String × Json)) (name : String) (j : Json) (members : List (String × Json))
    (rest : List Char), j.isPlain → arePlainMembers members →
    (stringChars name).length + j.chars.length + (charsOfMembers members).length ≤ fuel →
    membersRest fuel (some before)
      (stringChars name ++ ':' :: (j.chars ++ (charsOfMembers members ++ rest))) =
      some (.object (before.reverse ++ (name, j) :: members), rest)

theorem length_chars_pos {j : Json} (plain : j.isPlain) : 0 < j.chars.length := by
  obtain ⟨c, cs, shape, -⟩ := chars_start plain
  rw [shape]
  exact Nat.zero_lt_succ _

theorem readsBack_zero : ReadsBack 0 := by
  constructor
  · intro j rest plain enough
    have := length_chars_pos plain
    omega
  · intro before j items rest plain _ enough
    have := length_chars_pos plain
    omega
  · intro before name j members rest plain _ enough
    have := length_chars_pos plain
    omega

theorem ReadsBack.array {fuel : Nat} (h : ReadsBack fuel) {j : Json} {items : List Json} (rest : List Char)
    (plain : j.isPlain) (others : arePlain items)
    (enough : j.chars.length + (charsOfItems items).length ≤ fuel) :
    Json.value (fuel + 1) ('[' :: (j.chars ++ (charsOfItems items ++ rest))) =
      some (.array (j :: items), rest) := by
  obtain ⟨c, cs, shape, start⟩ := chars_start plain
  have solid := startsValue_solid start
  have read := h.items [] j items rest plain others enough
  rw [shape, List.cons_append] at read ⊢
  rw [value.eq_def]
  simp only [skipSpace_cons (show isSpace '[' = false by decide), skipSpace_cons solid.1]
  split
  · simp_all
  · exact read

theorem ReadsBack.object {fuel : Nat} (h : ReadsBack fuel) {name : String} {j : Json}
    {members : List (String × Json)} (rest : List Char) (plain : j.isPlain)
    (others : arePlainMembers members)
    (enough : (stringChars name).length + j.chars.length + (charsOfMembers members).length ≤ fuel) :
    Json.value (fuel + 1)
      ('\x7b' :: (stringChars name ++ ':' :: (j.chars ++ (charsOfMembers members ++ rest)))) =
      some (.object ((name, j) :: members), rest) := by
  have read := h.members [] name j members rest plain others enough
  rw [value.eq_def]
  simp only [skipSpace_cons (show isSpace '\x7b' = false by decide)]
  simp only [stringChars, List.cons_append] at read ⊢
  simp only [skipSpace_cons (show isSpace '"' = false by decide)]
  exact read

theorem ReadsBack.value_succ {fuel : Nat} (h : ReadsBack fuel) (j : Json) (rest : List Char)
    (plain : j.isPlain) (enough : j.chars.length ≤ fuel + 1) (stop : endsNumber rest) :
    Json.value (fuel + 1) (j.chars ++ rest) = some (j, rest) := by
  cases j with
  | null => rfl
  | bool b => cases b <;> rfl
  | integer n => exact value_integer n fuel stop
  | decimal literal => simp [isPlain] at plain
  | string s => exact value_quote s fuel rest
  | array items =>
    cases items with
    | nil => rfl
    | cons j items =>
      simp only [isPlain, arePlain, Bool.and_eq_true] at plain
      simp only [chars, List.length_cons, List.length_append] at enough
      simp only [chars, List.cons_append, List.append_assoc]
      exact h.array rest plain.1 plain.2 (by omega)
  | object members =>
    cases members with
    | nil => rfl
    | cons m members =>
      simp only [isPlain, arePlainMembers, Bool.and_eq_true] at plain
      simp only [chars, List.length_cons, List.length_append] at enough
      simp only [chars, List.cons_append, List.append_assoc]
      exact h.object rest plain.1 plain.2 (by omega)
  | broken => simp [isPlain] at plain

theorem ReadsBack.items_succ {fuel : Nat} (h : ReadsBack fuel) (before : List Json) (j : Json)
    (items : List Json) (rest : List Char) (plain : j.isPlain) (others : arePlain items)
    (enough : j.chars.length + (charsOfItems items).length ≤ fuel + 1) :
    itemsRest (fuel + 1) before (j.chars ++ (charsOfItems items ++ rest)) =
      some (.array (before.reverse ++ j :: items), rest) := by
  have stop := charsOfItems_stop items rest
  have first := h.value j (charsOfItems items ++ rest) plain (by omega) stop.1
  rw [itemsRest.eq_def]
  simp only [first]
  cases items with
  | nil => simp [charsOfItems, skipSpace_cons (show isSpace ']' = false by decide)]
  | cons k items =>
    simp only [arePlain, Bool.and_eq_true] at others
    simp only [charsOfItems, List.length_cons, List.length_append] at enough
    have more := h.items (j :: before) k items rest others.1 others.2 (by
      have := length_chars_pos plain
      omega)
    simp only [charsOfItems, List.cons_append, List.append_assoc,
      skipSpace_cons (show isSpace ',' = false by decide), more]
    simp

theorem ReadsBack.members_succ {fuel : Nat} (h : ReadsBack fuel) (before : List (String × Json))
    (name : String) (j : Json) (members : List (String × Json)) (rest : List Char) (plain : j.isPlain)
    (others : arePlainMembers members)
    (enough : (stringChars name).length + j.chars.length + (charsOfMembers members).length ≤ fuel + 1) :
    membersRest (fuel + 1) (some before)
      (stringChars name ++ ':' :: (j.chars ++ (charsOfMembers members ++ rest))) =
      some (.object (before.reverse ++ (name, j) :: members), rest) := by
  have stop := charsOfMembers_stop members rest
  have first := h.value j (charsOfMembers members ++ rest) plain (by omega) stop.1
  simp only [stringChars, List.cons_append, List.append_assoc, List.nil_append]
  rw [membersRest.eq_def]
  simp only [skipSpace_cons (show isSpace '"' = false by decide), stringValue_escapes,
    skipSpace_cons (show isSpace ':' = false by decide), first]
  cases members with
  | nil => simp [charsOfMembers, skipSpace_cons (show isSpace '\x7d' = false by decide)]
  | cons m members =>
    simp only [arePlainMembers, Bool.and_eq_true] at others
    simp only [charsOfMembers, List.length_cons, List.length_append] at enough
    have more := h.members ((name, j) :: before) m.1 m.2 members rest others.1 others.2 (by
      have := length_chars_pos plain
      omega)
    simp only [charsOfMembers, List.cons_append, List.append_assoc,
      skipSpace_cons (show isSpace ',' = false by decide)]
    simp [more]

theorem readsBack (fuel : Nat) : ReadsBack fuel := by
  -- By induction on the fuel, as the reader spends it.
  induction fuel with
  | zero => exact readsBack_zero
  | succ fuel ih => exact ⟨ih.value_succ, ih.items_succ, ih.members_succ⟩

theorem read?_print {j : Json} (plain : j.isPlain) : read? j.print = some j := by
  have read := (readsBack (j.chars.length + 1)).value j [] plain (Nat.le_succ _) rfl
  rw [List.append_nil] at read
  have size : j.print.length = j.chars.length := by
    rw [print, String.length_ofList]
  rw [read?, size, print, String.toList_ofList, read]
  rfl

end ClusterWatch.Json
