import ClusterWatch.Proofs.History.Columns
import ClusterWatch.Proofs.Instant.Spans

namespace ClusterWatch

namespace Instant

variable {c d t : Instant}

theorem toInt_clampedNanos (plain : t.isLeap = false) :
    t.clampedNanos.toInt = max (-2 ^ 63) (min t.nanosSinceEpoch (2 ^ 63 - 1)) := by
  by_cases fits : t.FitsColumn
  · rw [clampedNanos, toNanos?_of_fits fits, Option.getD_some, toInt_ofInt_nanosSinceEpoch fits]
    obtain ⟨low, high⟩ := fits
    omega
  · have small := nanos_lt_of_isLeap plain
    rw [clampedNanos, toNanos?_of_not_fits fits, Option.getD_none]
    rw [FitsColumn] at fits
    simp only [nanosSinceEpoch] at fits ⊢
    split
    · rw [Int64.toInt_minValue]
      omega
    · rw [Int64.toInt_maxValue]
      omega

theorem clamped_le_clamped (plain : c.isLeap = false) (plain' : d.isLeap = false) (le : c ≤ d) :
    c.clamped ≤ d.clamped := by
  rw [le_iff_nanosSinceEpoch plain plain'] at le
  rw [clamped, clamped, ofNanos_le_iff, Int64.le_iff_toInt_le, toInt_clampedNanos plain, toInt_clampedNanos plain']
  omega

theorem lt_clamped_max_iff (plain : c.isLeap = false) (plain' : d.isLeap = false) :
    t < (max c d).clamped ↔ t < c.clamped ∨ t < d.clamped := by
  have widen : ∀ {x y : Instant}, x ≤ y → t < x → t < y := by
    intro x y le less
    rw [lt_iff_not_le] at less ⊢
    exact fun back => less (le_trans le back)
  rcases max_cases c d with ⟨le, same⟩ | ⟨le, same⟩
  · rw [same]
    exact ⟨Or.inr, fun either => either.elim (widen (clamped_le_clamped plain plain' le)) id⟩
  · rw [same]
    exact ⟨Or.inl, fun either => either.elim id (widen (clamped_le_clamped plain' plain le))⟩

end Instant

namespace History

structure Compose (h : History) (first second whole : History → Nat × History) : Prop where
  left : (second (first h).2).2 = (whole h).2
  count : (first h).1 + (second (first h).2).1 = (whole h).1
  again : second (second (first h).2).2 = (0, (second (first h).2).2)

theorem Table.ext_rows {t u : Table} (same : t.rows = u.rows) : t = u := by
  cases t
  cases u
  cases same
  rfl

theorem removeBefore_documents (t : Table) (cutoff : Instant) : (documents t).removeBefore cutoff =
    ((t.rows.filter fun r => r.entry.time < cutoff.clamped).length, documents (t.after (.remove cutoff))) := by
  have count : (t.delete ((expired t cutoff).map Entry.id)).1 =
      (t.rows.filter fun r => r.entry.time < cutoff.clamped).length := by
    rw [t.count_delete]
    congr 1
    apply List.filter_congr
    intro r member
    rw [decide_eq_decide, t.id_mem_expired_clamped_iff cutoff member]
  rw [← count]
  rfl

theorem length_filter_or {α : Type} (p q : α → Bool) (items : List α) :
    (items.filter p).length + ((items.filter fun a => !p a).filter q).length =
      (items.filter fun a => p a || q a).length := by
  induction items with
  | nil => rfl
  | cons a rest ih =>
    cases first : p a <;> cases second : q a <;> simp [first, second] at ih ⊢ <;> omega

theorem compose_removeBefore (t : Table) {c d : Instant} (plain : c.isLeap = false) (plain' : d.isLeap = false) :
    Compose (documents t) (·.removeBefore c) (·.removeBefore d) (·.removeBefore (max c d)) := by
  have either : ∀ r : Row, decide (r.entry.time < (max c d).clamped) =
      (decide (r.entry.time < c.clamped) || decide (r.entry.time < d.clamped)) := by
    intro r
    rw [← Bool.decide_or, decide_eq_decide]
    exact Instant.lt_clamped_max_iff plain plain'
  have rows : ((t.after (.remove c)).after (.remove d)).rows = (t.after (.remove (max c d))).rows := by
    rw [Table.rows_after_remove, Table.rows_after_remove, Table.rows_after_remove, List.filter_filter]
    apply List.filter_congr
    intro r _
    rw [decide_not, decide_not, decide_not, either, Bool.not_or, Bool.and_comm]
  constructor
  case left =>
    simp only [removeBefore_documents]
    rw [Table.ext_rows rows]
  case count =>
    simp only [removeBefore_documents, Table.rows_after_remove, either, decide_not]
    exact length_filter_or _ _ t.rows
  case again =>
    have stays : ∀ r ∈ ((t.after (.remove c)).after (.remove d)).rows, ¬ r.entry.time < d.clamped := by
      intro r member
      rw [Table.rows_after_remove] at member
      simpa using (List.mem_filter.1 member).2
    have none : (((t.after (.remove c)).after (.remove d)).rows.filter fun r => r.entry.time < d.clamped) = [] :=
      List.filter_eq_nil_iff.2 fun r member => by simpa using stays r member
    have rest : ((t.after (.remove c)).after (.remove d)).after (.remove d) = (t.after (.remove c)).after (.remove d) := by
      apply Table.ext_rows
      rw [Table.rows_after_remove]
      exact List.filter_eq_self.2 fun r member => by simpa using stays r member
    simp only [removeBefore_documents, none, rest, List.length_nil]

/-- In every state and for all ordinary times, and likewise for all ordinary readings of a clock with one span. -/
theorem removals_compose (t : Table) :
    (∀ c d : Instant, c.isLeap = false → d.isLeap = false →
      Compose (documents t) (·.removeBefore c) (·.removeBefore d) (·.removeBefore (max c d))) ∧
    ∀ (now later c d : Instant) (span : Int), now.isLeap = false → later.isLeap = false →
      now.minus? span = some c → later.minus? span = some d →
      ∃ first second whole : History → Nat × History, (∀ h, h.collect? now span = some (first h)) ∧
        (∀ h, h.collect? later span = some (second h)) ∧ (∀ h, h.collect? (max now later) span = some (whole h)) ∧
        Compose (documents t) first second whole := by
  refine ⟨fun c d plain plain' => compose_removeBefore t plain plain', ?_⟩
  intro now later c d span plain plain' before before'
  obtain ⟨left, right, both⟩ := Instant.minus?_max plain plain' before before'
  refine ⟨(·.removeBefore c), (·.removeBefore d), (·.removeBefore (max c d)), ?_, ?_, ?_, ?_⟩
  · intro h
    rw [collect?, before, Option.map_some]
  · intro h
    rw [collect?, before', Option.map_some]
  · intro h
    rw [collect?, both, Option.map_some]
  · exact compose_removeBefore t left right

def agedRows : Table :=
  ⟨[⟨⟨1⟩, "prod", 10000000000, "old"⟩, ⟨⟨2⟩, "prod", 20000000000, "new"⟩], by decide⟩

theorem removals_of_two_rows_compose :
    ∃ c now, c.isLeap = false ∧ now.isLeap = false ∧ beyondColumns.isLeap = false ∧
      Compose (documents agedRows) (·.removeBefore beyondColumns) (·.removeBefore c) (·.removeBefore (max beyondColumns c)) ∧
      ∃ d, now.minus? 100500000000 = some c ∧ beyondColumns.minus? 100500000000 = some d ∧
        ∃ first second whole : History → Nat × History, (∀ h, h.collect? now 100500000000 = some (first h)) ∧
          (∀ h, h.collect? beyondColumns 100500000000 = some (second h)) ∧
          (∀ h, h.collect? (max now beyondColumns) 100500000000 = some (whole h)) ∧
          Compose (documents agedRows) first second whole := by
  have both := removals_compose agedRows
  have back : (Instant.ofNanos 115750000000).minus? 100500000000 = some (.ofNanos 15250000000) := by decide +kernel
  have back' : beyondColumns.minus? 100500000000 = some ⟨13569465499, 500000000, by decide, by decide⟩ := by
    decide +kernel
  refine ⟨.ofNanos 15250000000, .ofNanos 115750000000, rfl, rfl, rfl, both.1 _ _ rfl rfl, _, back, back', ?_⟩
  exact both.2 _ _ _ _ _ rfl rfl back back'

end History

end ClusterWatch
