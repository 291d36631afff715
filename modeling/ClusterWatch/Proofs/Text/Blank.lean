import ClusterWatch.Text.Blank

namespace ClusterWatch.Text

theorem isBlank_of_isDigit {c : Char} (digit : c.isDigit) : isBlank c = false := by
  simp only [Char.isDigit, Bool.and_eq_true, decide_eq_true_eq, UInt32.le_iff_toNat_le] at digit
  obtain ⟨above, below⟩ := digit
  have low : 48 ≤ c.toNat := above
  have high : c.toNat ≤ 57 := below
  simp only [isBlank, List.contains_eq_mem, List.mem_cons, List.not_mem_nil, or_false, Bool.or_eq_false_iff,
    Bool.and_eq_false_iff, decide_eq_false_iff_not]
  omega

theorem trim_front (cs : List Char) : trim cs <+: cs.dropWhile isBlank := by
  have front := List.reverse_prefix.2 (List.dropWhile_suffix isBlank (l := (cs.dropWhile isBlank).reverse))
  rwa [List.reverse_reverse] at front

theorem trim_subset (cs : List Char) : trim cs ⊆ cs :=
  ((trim_front cs).sublist.trans (List.dropWhile_sublist isBlank)).subset

theorem head_trim {cs : List Char} {c : Char} (first : (trim cs).head? = some c) : isBlank c = false := by
  obtain ⟨behind, whole⟩ := trim_front cs
  have solid := List.head?_dropWhile_not isBlank cs
  rw [← whole, List.head?_append, first] at solid
  simpa using solid

theorem trim_eq_self_iff {cs : List Char} (last : ∀ c ∈ cs.getLast?, isBlank c = false) :
    trim cs = cs ↔ ∀ c ∈ cs.head?, isBlank c = false := by
  constructor
  · intro same c first
    cases cs with
    | nil => cases first
    | cons d rest =>
      obtain rfl : d = c := Option.some.inj first
      cases blank : isBlank d with
      | false => rfl
      | true =>
        have shorter := (trim_front (d :: rest)).length_le
        have fewer := (List.dropWhile_sublist isBlank (l := rest)).length_le
        rw [same, List.dropWhile_cons_of_pos blank, List.length_cons] at shorter
        omega
  · intro head
    exact trim_eq_self head last

end ClusterWatch.Text
