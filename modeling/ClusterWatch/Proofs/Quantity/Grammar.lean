import ClusterWatch.Quantity.Reader
import Mathlib.Data.List.TakeDrop
import Mathlib.Data.String.Basic

namespace ClusterWatch

namespace Quantity

open Text

def decimalUnits : List (Char × Int) :=
  [('n', -9), ('u', -6), ('m', -3), ('k', 3), ('M', 6), ('G', 9), ('T', 12), ('P', 15), ('E', 18)]

def binaryLetters : List (Char × Nat) :=
  [('K', 1), ('M', 2), ('G', 3), ('T', 4), ('P', 5), ('E', 6)]

def signs : List (List Char × Int) :=
  [([], 1), (['+'], 1), (['-'], -1)]

inductive Means : List Char → Scale → Prop where
  | one : Means [] ⟨0, 0⟩
  | decimal {letter : Char} {power : Int} (known : (letter, power) ∈ decimalUnits) : Means [letter] ⟨0, power⟩
  | binary {letter : Char} {power : Nat} (known : (letter, power) ∈ binaryLetters) : Means [letter, 'i'] ⟨power, 0⟩
  | exponent {letter : Char} {sign digits : List Char} {factor : Int} (marked : letter = 'e' ∨ letter = 'E')
      (signed : (sign, factor) ∈ signs) (some : digits ≠ []) (ascii : ∀ c ∈ digits, c.isDigit)
      (small : digitsValue digits ≤ 64) : Means (letter :: (sign ++ digits)) ⟨0, factor * digitsValue digits⟩

def Spelling.digits (s : Spelling) : List Char :=
  s.whole ++ s.fraction

def Spelling.number (s : Spelling) : Nat :=
  digitsValue s.digits

def Spelling.Composes (s : Spelling) (cs : List Char) : Prop :=
  cs = s.whole ++ s.suffix ∧ s.fraction = [] ∨ cs = s.whole ++ '.' :: (s.fraction ++ s.suffix)

structure Spelling.IsNumeral (s : Spelling) : Prop where
  ascii : ∀ c ∈ s.digits, c.isDigit
  nonempty : s.digits ≠ []
  few : s.digits.length ≤ 30

/-- The text has the form that is taken apart, whether its suffix has a meaning or not. -/
structure Spelling.Spells (s : Spelling) (cs : List Char) : Prop where
  composed : s.Composes cs
  numeral : s.IsNumeral
  suffix : isSuffix s.suffix

def IsQuantity (cs : List Char) : Prop :=
  ∃ (s : Spelling) (scale : Scale), s.Composes cs ∧ s.IsNumeral ∧ Means s.suffix scale

theorem mem_signs {sign : List Char} {factor : Int} : (sign, factor) ∈ signs ↔
    sign = [] ∧ factor = 1 ∨ sign = ['+'] ∧ factor = 1 ∨ sign = ['-'] ∧ factor = -1 := by
  simp [signs]

theorem integer?_minus (cs : List Char) : integer? ('-' :: cs) = (natural? cs).map fun n : Nat => -(n : Int) := by
  cases read : natural? cs <;> simp [integer?, read]

theorem integer?_plus (cs : List Char) : integer? ('+' :: cs) = (natural? cs).map fun n : Nat => (n : Int) := by
  cases read : natural? cs <;> simp [integer?, read]

theorem integer?_unsigned {cs : List Char} (plain : ∀ c ∈ cs.head?, c ≠ '-' ∧ c ≠ '+') :
    integer? cs = (natural? cs).map fun n : Nat => (n : Int) := by
  unfold integer?
  split
  · exact absurd rfl (plain '-' rfl).1
  · exact absurd rfl (plain '+' rfl).2
  · cases read : natural? cs <;> simp

theorem integer?_eq_some_iff {cs : List Char} {e : Int} :
    integer? cs = some e ↔ ∃ sign factor digits, (sign, factor) ∈ signs ∧ cs = sign ++ digits ∧ digits ≠ [] ∧
      (∀ c ∈ digits, c.isDigit) ∧ e = factor * digitsValue digits := by
  constructor
  · intro read
    have parts : ∃ sign factor digits, (sign, factor) ∈ signs ∧ cs = sign ++ digits ∧
        (natural? digits).map (fun n : Nat => factor * (n : Int)) = .some e := by
      by_cases minus : cs.head? = .some '-'
      · obtain ⟨rest, rfl⟩ := List.head?_eq_some_iff.1 minus
        rw [integer?_minus] at read
        exact ⟨['-'], -1, rest, by decide, rfl, by simpa using read⟩
      · by_cases plus : cs.head? = .some '+'
        · obtain ⟨rest, rfl⟩ := List.head?_eq_some_iff.1 plus
          rw [integer?_plus] at read
          exact ⟨['+'], 1, rest, by decide, rfl, by simpa using read⟩
        · rw [integer?_unsigned] at read
          · exact ⟨[], 1, cs, by decide, rfl, by simpa using read⟩
          · intro c first
            rw [Option.mem_def] at first
            rw [first] at minus plus
            exact ⟨fun eq => minus (congrArg _ eq), fun eq => plus (congrArg _ eq)⟩
    obtain ⟨sign, factor, digits, signed, rfl, value⟩ := parts
    obtain ⟨n, natural, rfl⟩ := Option.map_eq_some_iff.1 value
    obtain ⟨some, ascii, rfl⟩ := natural?_eq_some_iff.1 natural
    exact ⟨sign, factor, digits, signed, rfl, some, ascii, rfl⟩
  · rintro ⟨sign, factor, digits, signed, rfl, some, ascii, rfl⟩
    have natural := natural?_eq_some_iff.2 ⟨some, ascii, rfl⟩
    rcases mem_signs.1 signed with ⟨rfl, rfl⟩ | ⟨rfl, rfl⟩ | ⟨rfl, rfl⟩
    · have plain : ∀ c ∈ digits.head?, c ≠ '-' ∧ c ≠ '+' := by
        intro c first
        have digit := ascii c (List.mem_of_mem_head? first)
        constructor <;> rintro rfl <;> exact absurd digit (by decide)
      rw [List.nil_append, integer?_unsigned plain, natural]
      simp
    · rw [List.singleton_append, integer?_plus, natural]
      simp
    · rw [List.singleton_append, integer?_minus, natural]
      simp

theorem ofSuffix?_marked {letter : Char} {cs : List Char} (marked : letter = 'e' ∨ letter = 'E') (some : cs ≠ [])
    (other : cs ≠ ['i']) : Scale.ofSuffix? (letter :: cs) =
      (integer? cs).bind fun e => if e.natAbs ≤ exponentLimit then .some ⟨0, e⟩ else none := by
  unfold Scale.ofSuffix?
  split
  case h_17 c rest _ _ _ _ _ _ _ _ _ _ _ _ _ _ _ eq =>
    cases eq
    exact if_pos marked
  all_goals
    rename_i eq
    cases eq <;> first
      | exact absurd rfl some
      | exact absurd rfl other

theorem natAbs_signed {sign digits : List Char} {factor : Int} (signed : (sign, factor) ∈ signs) :
    (factor * digitsValue digits).natAbs = digitsValue digits := by
  rcases mem_signs.1 signed with ⟨-, rfl⟩ | ⟨-, rfl⟩ | ⟨-, rfl⟩ <;> omega

theorem ofSuffix?_eq_some_iff {cs : List Char} {scale : Scale} : Scale.ofSuffix? cs = some scale ↔ Means cs scale := by
  constructor
  · intro known
    unfold Scale.ofSuffix? at known
    split at known
    case h_17 letter rest _ _ _ _ _ _ _ _ _ _ _ _ _ _ _ =>
      split at known
      case isTrue marked =>
        obtain ⟨e, read, bounded⟩ := Option.bind_eq_some_iff.1 known
        obtain ⟨sign, factor, digits, signed, rfl, some, ascii, rfl⟩ := integer?_eq_some_iff.1 read
        rw [natAbs_signed signed] at bounded
        split at bounded
        case isTrue small =>
          cases bounded
          exact .exponent marked signed some ascii small
        case isFalse => cases bounded
      case isFalse => cases known
    all_goals
      cases known
      first
        | exact .one
        | exact .decimal (by decide)
        | exact .binary (by decide)
  · intro means
    cases means with
    | one => rfl
    | @decimal letter power known =>
      have all : ∀ unit ∈ decimalUnits, Scale.ofSuffix? [unit.1] = some ⟨0, unit.2⟩ := by decide
      exact all _ known
    | @binary letter power known =>
      have all : ∀ unit ∈ binaryLetters, Scale.ofSuffix? [unit.1, 'i'] = some ⟨unit.2, 0⟩ := by decide
      exact all _ known
    | @exponent letter sign digits factor marked signed some ascii small =>
      have read := integer?_eq_some_iff.2 ⟨sign, factor, digits, signed, rfl, some, ascii, rfl⟩
      have inside : sign ++ digits ≠ [] := List.append_ne_nil_of_right_ne_nil _ some
      have other : sign ++ digits ≠ ['i'] := by
        intro eq
        rw [eq] at read
        cases read
      rw [ofSuffix?_marked marked inside other, read, Option.bind_some, natAbs_signed signed]
      exact if_pos small

theorem isExponent_signed {letter : Char} {sign digits : List Char} {factor : Int} (marked : letter = 'e' ∨ letter = 'E')
    (signed : (sign, factor) ∈ signs) (some : digits ≠ []) (ascii : ∀ c ∈ digits, c.isDigit) :
    isExponent (letter :: (sign ++ digits)) := by
  have decimals : digits.all isDecimal := List.all_eq_true.2 fun c member => isDecimal_of_isDigit (ascii c member)
  have inside : digits.isEmpty = false := List.isEmpty_eq_false_iff.2 some
  have letters : (letter = 'e' || letter = 'E') = true := by simpa using marked
  rcases mem_signs.1 signed with ⟨rfl, -⟩ | ⟨rfl, -⟩ | ⟨rfl, -⟩
  · unfold isExponent
    split <;> simp_all
  · simp [isExponent, letters, inside, decimals]
  · simp [isExponent, letters, inside, decimals]

theorem Means.isSuffix {cs : List Char} {scale : Scale} (means : Means cs scale) : isSuffix cs := by
  cases means with
  | one => rfl
  | @decimal letter power known =>
    have all : ∀ unit ∈ decimalUnits, Quantity.isSuffix [unit.1] := by decide
    exact all _ known
  | @binary letter power known =>
    have all : ∀ unit ∈ binaryLetters, Quantity.isSuffix [unit.1, 'i'] := by decide
    exact all _ known
  | exponent marked signed some ascii small =>
    rw [Quantity.isSuffix, isExponent_signed marked signed some ascii, Bool.or_true]

theorem utf8Size_of_isDigit {c : Char} (digit : c.isDigit) : c.utf8Size = 1 := by
  simp only [Char.isDigit, Bool.and_eq_true, decide_eq_true_eq] at digit
  rw [Char.utf8Size_eq_one_iff]
  exact UInt32.le_trans digit.2 (by decide)

theorem utf8ByteSize_digits {cs : List Char} (digits : ∀ c ∈ cs, c.isDigit) :
    (String.ofList cs).utf8ByteSize = cs.length := by
  rw [String.utf8ByteSize_ofList]
  induction cs with
  | nil => rfl
  | cons c cs ih =>
    have first := utf8Size_of_isDigit (digits c List.mem_cons_self)
    have rest := ih fun c member => digits c (List.mem_cons_of_mem _ member)
    rw [String.utf8Len_cons, rest, first, List.length_cons]

theorem span_append {p : Char → Bool} {cs rest : List Char} (all : ∀ c ∈ cs, p c)
    (stop : ∀ c ∈ rest.head?, p c = false) : (cs ++ rest).span p = (cs, rest) := by
  have ends : rest.takeWhile p = [] ∧ rest.dropWhile p = rest := by
    cases rest with
    | nil => exact ⟨rfl, rfl⟩
    | cons c rest => simp [stop c rfl]
  rw [List.span_eq_takeWhile_dropWhile, List.takeWhile_append_of_pos all, List.dropWhile_append_of_pos all, ends.1,
    ends.2, List.append_nil]

theorem append_span {p : Char → Bool} {cs front back : List Char} (apart : cs.span p = (front, back)) :
    cs = front ++ back ∧ ∀ c ∈ front, p c := by
  rw [List.span_eq_takeWhile_dropWhile, Prod.mk.injEq] at apart
  obtain ⟨rfl, rfl⟩ := apart
  exact ⟨List.takeWhile_append_dropWhile.symm, List.all_eq_true.1 List.all_takeWhile⟩

theorem isAlpha_of_isSuffix {cs : List Char} (suffix : isSuffix cs) : ∀ c ∈ cs.head?, c.isAlpha := by
  intro c first
  obtain ⟨rest, rfl⟩ := List.head?_eq_some_iff.1 first
  rw [isSuffix, Bool.or_eq_true] at suffix
  rcases suffix with letters | exponent
  · exact List.all_eq_true.1 letters c List.mem_cons_self
  · have marked : c = 'e' ∨ c = 'E' := by
      unfold isExponent at exponent
      split at exponent <;> simp_all
    rcases marked with rfl | rfl <;> decide

theorem stop_of_isSuffix {cs : List Char} (suffix : isSuffix cs) : ∀ c ∈ cs.head?, isDecimal c = false ∧ c ≠ '.' := by
  intro c first
  have letter := isAlpha_of_isSuffix suffix c first
  refine ⟨isDecimal_of_isAlpha letter, ?_⟩
  rintro rfl
  exact absurd letter (by decide)

theorem ofChars?_eq_some_iff {cs : List Char} {s : Spelling} :
    Spelling.ofChars? cs = some s ↔ s.Composes cs ∧ (∀ c ∈ s.digits, isDecimal c) ∧ isSuffix s.suffix := by
  constructor
  · intro read
    unfold Spelling.ofChars? at read
    cases front : cs.span isDecimal with
    | mk whole rest =>
      obtain ⟨rfl, wholeDecimal⟩ := append_span front
      rw [front] at read
      dsimp only at read
      split at read
      case h_1 behind =>
        cases back : behind.span isDecimal with
        | mk fraction suffix =>
          obtain ⟨rfl, fractionDecimal⟩ := append_span back
          rw [back] at read
          obtain ⟨known, spelt⟩ := Option.ite_none_right_eq_some.1 read
          cases spelt
          refine ⟨.inr rfl, ?_, known⟩
          exact fun c member => (List.mem_append.1 member).elim (wholeDecimal c) (fractionDecimal c)
      case h_2 =>
        obtain ⟨known, spelt⟩ := Option.ite_none_right_eq_some.1 read
        cases spelt
        refine ⟨.inl ⟨rfl, rfl⟩, ?_, known⟩
        intro c member
        rw [Spelling.digits, List.append_nil] at member
        exact wholeDecimal c member
  · rintro ⟨composed, decimals, suffix⟩
    obtain ⟨whole, fraction, rest⟩ := s
    have stop := stop_of_isSuffix suffix
    have ends : ∀ c ∈ rest.head?, isDecimal c = false := fun c first => (stop c first).1
    have wholeDecimal : ∀ c ∈ whole, isDecimal c := fun c member => decimals c (List.mem_append_left _ member)
    have fractionDecimal : ∀ c ∈ fraction, isDecimal c := fun c member => decimals c (List.mem_append_right _ member)
    rcases composed with ⟨rfl, pure⟩ | rfl
    · subst pure
      rw [Spelling.ofChars?, span_append wholeDecimal ends]
      dsimp only
      split
      · exact absurd rfl (stop '.' rfl).2
      · rw [if_pos suffix]
    · have point : ∀ c ∈ ('.' :: (fraction ++ rest)).head?, isDecimal c = false := by
        intro c first
        cases first
        decide
      have front := span_append wholeDecimal point
      have back := span_append fractionDecimal ends
      simp only [Spelling.ofChars?, front, back]
      rw [if_pos suffix]

theorem Spelling.Spells.ofChars? {s : Spelling} {cs : List Char} (spells : s.Spells cs) : Spelling.ofChars? cs = some s :=
  ofChars?_eq_some_iff.2
    ⟨spells.composed, fun c member => isDecimal_of_isDigit (spells.numeral.ascii c member), spells.suffix⟩

theorem Spelling.Spells.unique {s other : Spelling} {cs : List Char} (spells : s.Spells cs) (same : other.Spells cs) :
    other = s :=
  Option.some.inj (same.ofChars?.symm.trans spells.ofChars?)

end Quantity

end ClusterWatch
