import ClusterWatch.Duration

namespace ClusterWatch.Duration

variable {a b c : Duration}

theorem le_iff_nanos : a ≤ b ↔ a.nanos ≤ b.nanos := Iff.rfl

theorem lt_iff_nanos : a < b ↔ a.nanos < b.nanos := Iff.rfl

theorem eq_iff_nanos : a = b ↔ a.nanos = b.nanos := by
  cases a
  cases b
  exact Duration.mk.injEq .. ▸ Iff.rfl

theorem nanos_add (a b : Duration) : (a + b).nanos = a.nanos + b.nanos := rfl

theorem nanos_max (a b : Duration) : (max a b).nanos = Max.max a.nanos b.nanos := rfl

theorem not_lt_iff : ¬ a < b ↔ b ≤ a := Nat.not_lt

theorem not_le_iff : ¬ a ≤ b ↔ b < a := Nat.not_le

theorem le_trans (first : a ≤ b) (second : b ≤ c) : a ≤ c := Nat.le_trans first second

theorem le_add_right (a b : Duration) : a ≤ a + b := Nat.le_add_right _ _

theorem zero_add (a : Duration) : 0 + a = a :=
  congrArg Duration.mk (Nat.zero_add _)

theorem add_zero (a : Duration) : a + 0 = a := rfl

theorem max_eq_right (less : a ≤ b) : max a b = b :=
  congrArg Duration.mk (Nat.max_eq_right less)

theorem max_eq_left (less : b ≤ a) : max a b = a :=
  congrArg Duration.mk (Nat.max_eq_left less)

theorem le_max_right (a b : Duration) : b ≤ max a b := Nat.le_max_right _ _

theorem le_max_iff : a ≤ max b c ↔ a ≤ b ∨ a ≤ c := by
  rw [le_iff_nanos, le_iff_nanos, le_iff_nanos, nanos_max]
  omega

theorem foldl_max_le_iff {ds : List Duration} : ds.foldl max a ≤ b ↔ a ≤ b ∧ ∀ d ∈ ds, d ≤ b := by
  induction ds generalizing a with
  | nil => exact ⟨fun less => ⟨less, nofun⟩, And.left⟩
  | cons d ds ih =>
    rw [List.foldl_cons, ih, List.forall_mem_cons, ← and_assoc]
    exact and_congr_left fun _ => Nat.max_le

theorem foldl_max_mem (ds : List Duration) : ds.foldl max a = a ∨ ds.foldl max a ∈ ds := by
  induction ds generalizing a with
  | nil => exact Or.inl rfl
  | cons d ds ih =>
    rw [List.foldl_cons]
    rcases ih (a := max a d) with start | later
    · rw [start]
      by_cases less : a ≤ d
      · rw [max_eq_right less]
        exact Or.inr List.mem_cons_self
      · exact Or.inl (max_eq_left (Nat.le_of_lt (not_le_iff.1 less)))
    · exact Or.inr (List.mem_cons_of_mem _ later)

theorem longest_le_iff {ds : List Duration} : longest ds ≤ b ↔ ∀ d ∈ ds, d ≤ b :=
  foldl_max_le_iff.trans (and_iff_right (Nat.zero_le _))

theorem longest_mem (ds : List Duration) : longest ds = 0 ∨ longest ds ∈ ds :=
  foldl_max_mem ds

end ClusterWatch.Duration
