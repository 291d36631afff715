import ClusterWatch.Proofs.Cadence
import ClusterWatch.Settings

namespace ClusterWatch

namespace Cadence

variable {σ : Type} {c : Cadence} {stop : Duration} {pass : Pass σ}

abbrev prompt (c : Cadence) (stop : Duration) (pass : Pass σ) (state : σ) : Course σ :=
  c.run stop [] pass state

/-- The starts of a loop that always finds a pass to take. -/
def NeverReturns (c : Cadence) (stop : Duration) (pass : Pass σ) (state : σ) (starts : Nat → Duration) : Prop :=
  ∀ k, starts k = Duration.max (c.due k) (made pass 0 ((List.range k).map starts) (0, state)).1 ∧
    starts k ≤ Duration.max stop (made pass 0 ((List.range k).map starts) (0, state)).1

structure Outlasts (c : Cadence) (stop : Duration) (pass : Pass σ) (state : σ) (course : Course σ) : Prop where
  later : ∃ late, course.starts = (c.prompt stop pass state).starts ++ late ∧ ∀ start ∈ late, stop ≤ start
  overdue : ∀ (i : Nat) (inside : i + 1 < course.starts.length), stop < course.starts[i + 1] →
    course.starts[i + 1] = course.endOf pass state i ∧ c.due (i + 1) ≤ course.endOf pass state i
  finish : course.finish = Duration.max stop (made pass 0 course.starts (0, state)).1
  left : course.state = (made pass 0 course.starts (0, state)).2

section Prompt

variable {k fuel : Nat} {free : Duration} {state : σ} {course : Course σ}

theorem loop_prompt (c : Cadence) (stop : Duration) (pass : Pass σ) (fuel k : Nat) (free : Duration) (state : σ) :
    loop c stop pass (fuel + 1) [] k free state =
      if Duration.max (c.due k) free < stop then
        let start := Duration.max (c.due k) free
        let rest := loop c stop pass fuel [] (k + 1) (start + (pass k start state).1) (pass k start state).2
        { rest with starts := start :: rest.starts }
      else ⟨[], Duration.max stop free, state⟩ := by
  conv => lhs; unfold loop
  by_cases before : free < stop
  · have waits : Duration.max stop free = stop := Duration.max_eq_left (Nat.le_of_lt before)
    rw [if_pos before, waits]
  · have past : Duration.max stop free = free := Duration.max_eq_right (Duration.not_lt_iff.1 before)
    have late : ¬ Duration.max (c.due k) free < stop := by
      rw [Duration.lt_iff_nanos] at before ⊢
      rw [Duration.nanos_max]
      omega
    rw [if_neg before, if_neg late, past]
    exact ite_self _

theorem lt_stop_of_mem_loop (fuel k : Nat) (free : Duration) (state : σ) :
    ∀ start ∈ (loop c stop pass fuel [] k free state).starts, start < stop := by
  induction fuel generalizing k free state with
  | zero => exact fun start member => absurd member List.not_mem_nil
  | succ fuel ih =>
    intro start member
    rw [loop_prompt] at member
    split at member
    case isTrue inTime =>
      rcases List.mem_cons.1 member with rfl | later
      · exact inTime
      · exact ih _ _ _ start later
    case isFalse => exact absurd member List.not_mem_nil

theorem Goes.begun (goes : Goes c stop pass k free state course) :
    ∀ (i : Nat) (inside : i < course.starts.length),
      course.starts[i] ≤ Duration.max stop (made pass k (course.starts.take i) (free, state)).1 := by
  induction goes with
  | quit => exact fun i inside => absurd inside (Nat.not_lt_zero i)
  | @go k free start state rest when first goesOn ih =>
    intro i inside
    cases i with
    | zero => exact first
    | succ i => exact ih i (Nat.lt_of_succ_lt_succ inside)

theorem Goes.free_le (goes : Goes c stop pass k free state course) : ∀ start ∈ course.starts, free ≤ start := by
  induction goes with
  | quit => exact fun start member => absurd member List.not_mem_nil
  | @go k free first state rest when _ _ ih =>
    have later : free ≤ first := when ▸ Duration.le_max_right _ _
    intro start member
    rcases List.mem_cons.1 member with rfl | member
    · exact later
    · exact Duration.le_trans (Duration.le_trans later (Duration.le_add_right _ _)) (ih start member)

theorem Goes.extends_prompt (goes : Goes c stop pass k free state course)
    (enough : stop.nanos / c.interval.nanos + 2 ≤ fuel + k) (some : 0 < fuel) :
    course = loop c stop pass fuel [] k free state ∨
      (∃ late, course.starts = (loop c stop pass fuel [] k free state).starts ++ late ∧ ∀ start ∈ late, stop ≤ start) ∧
      c.due (k + (loop c stop pass fuel [] k free state).starts.length) ≤
        (loop c stop pass fuel [] k free state).finish := by
  -- By induction on the course: as long as a pass begins before the stop, the prompt loop begins it too.
  induction goes generalizing fuel with
  | @quit k free state first =>
    obtain ⟨fuel, rfl⟩ := Nat.exists_eq_add_one_of_ne_zero (Nat.ne_of_gt some)
    have late : ¬ Duration.max (c.due k) free < stop := by
      rw [Duration.le_iff_nanos, Duration.nanos_max, Duration.nanos_max] at first
      rw [Duration.lt_iff_nanos, Duration.nanos_max]
      omega
    left
    rw [loop_prompt, if_neg late]
  | @go k free start state rest when first goesOn ih =>
    obtain ⟨fuel, rfl⟩ := Nat.exists_eq_add_one_of_ne_zero (Nat.ne_of_gt some)
    rw [loop_prompt]
    by_cases inTime : Duration.max (c.due k) free < stop
    · have early : k ≤ stop.nanos / c.interval.nanos :=
        le_of_due_lt (Nat.lt_of_le_of_lt (Nat.le_max_left _ _) inTime)
      have fuelled : stop.nanos / c.interval.nanos + 2 ≤ fuel + (k + 1) := by omega
      rw [if_pos inTime]
      subst when
      rcases ih fuelled (by omega) with same | ⟨⟨late, starts, after⟩, due⟩
      · left
        rw [same]
      · right
        refine ⟨⟨late, ?_, after⟩, ?_⟩
        · exact congrArg (_ :: ·) starts
        · rw [Nat.add_right_comm, Nat.add_assoc] at due
          exact due
    · rw [if_neg inTime]
      right
      refine ⟨⟨start :: rest.starts, rfl, ?_⟩, ?_⟩
      · have after : stop ≤ start := when ▸ Duration.not_lt_iff.1 inTime
        intro later member
        rcases List.mem_cons.1 member with rfl | member
        · exact after
        · have free := goesOn.free_le later member
          exact Duration.le_trans (Duration.le_trans after (Duration.le_add_right _ _)) free
      · rw [when] at first
        exact Duration.le_trans (Nat.le_max_left _ _) first

theorem exists_late (fuel k : Nat) (free : Duration) (state : σ)
    (enough : stop.nanos / c.interval.nanos + 2 ≤ fuel + k) (some : 0 < fuel)
    (due : c.due (k + (loop c stop pass fuel [] k free state).starts.length) ≤
      (loop c stop pass fuel [] k free state).finish) :
    ∃ course, Goes c stop pass k free state course ∧ ∃ start ∈ course.starts, stop ≤ start := by
  -- By induction on the prompt loop: it takes the same passes, and then one that is due when the stop is taken.
  induction fuel generalizing k free state with
  | zero => exact absurd some (Nat.lt_irrefl 0)
  | succ fuel ih =>
    rw [loop_prompt] at due
    by_cases inTime : Duration.max (c.due k) free < stop
    · have early : k ≤ stop.nanos / c.interval.nanos :=
        le_of_due_lt (Nat.lt_of_le_of_lt (Nat.le_max_left _ _) inTime)
      rw [if_pos inTime, List.length_cons, Nat.add_comm _ 1, ← Nat.add_assoc] at due
      obtain ⟨course, goes, start, member, after⟩ := ih _ _ _ (by omega) (by omega) due
      refine ⟨_, .go rfl ?_ goes, start, List.mem_cons_of_mem _ member, after⟩
      exact Duration.le_trans (Nat.le_of_lt inTime) (Nat.le_max_left _ _)
    · rw [if_neg inTime] at due
      have goesOn := goes_loop c stop pass [] (k + 1)
        (Duration.max (c.due k) free + (pass k (Duration.max (c.due k) free) state).1)
        (pass k (Duration.max (c.due k) free) state).2 (Nat.succ_pos (fuel + 1)) (by rw [List.length_nil]; omega)
      refine ⟨_, .go rfl ?_ goesOn, _, List.mem_cons_self, Duration.not_lt_iff.1 inTime⟩
      exact Nat.max_le.2 ⟨due, Nat.le_max_right _ _⟩

end Prompt

section Outlasting

variable {state : σ} {course : Course σ}

theorem Goes.prompt_or_late (goes : Goes c stop pass 0 0 state course) :
    course = c.prompt stop pass state ∨
      (∃ late, course.starts = (c.prompt stop pass state).starts ++ late ∧ ∀ start ∈ late, stop ≤ start) ∧
      c.due (c.prompt stop pass state).starts.length ≤ (c.prompt stop pass state).finish := by
  have fuelled : stop.nanos / c.interval.nanos + 2 ≤ stop.nanos / c.interval.nanos + 2 + 0 := Nat.le_refl _
  have courses := goes.extends_prompt fuelled (Nat.succ_pos _)
  rwa [Nat.zero_add] at courses

theorem Goes.outlasts (goes : Goes c stop pass 0 0 state course) : Outlasts c stop pass state course := by
  have begins := goes.begins
  have begun := goes.begun
  simp only [Nat.zero_add] at begins
  constructor
  case later =>
    rcases goes.prompt_or_late with same | ⟨later, -⟩
    · exact ⟨[], by rw [same, List.append_nil], fun start member => absurd member List.not_mem_nil⟩
    · exact later
  case overdue =>
    intro i inside after
    have at_ := begins (i + 1) inside
    have notEarly := begun (i + 1) inside
    have ended : course.endOf pass state i = (made pass 0 (course.starts.take (i + 1)) (0, state)).1 := rfl
    rw [← ended] at at_ notEarly
    rcases Duration.le_max_iff.1 notEarly with inTime | late
    · exact absurd inTime (Nat.not_le.2 after)
    · have due : c.due (i + 1) ≤ course.starts[i + 1] := at_ ▸ Nat.le_max_left _ _
      have overdue := Duration.le_trans due late
      exact ⟨at_.trans (Duration.max_eq_right overdue), overdue⟩
  case finish => exact goes.finish.1
  case left => exact goes.finish.2

theorem all_before_stop_iff :
    (∀ course, Goes c stop pass 0 0 state course → ∀ start ∈ course.starts, start < stop) ↔
      (c.prompt stop pass state).finish < c.due (c.prompt stop pass state).starts.length := by
  constructor
  · intro before
    rcases Nat.lt_or_ge (c.prompt stop pass state).finish.nanos
      (c.due (c.prompt stop pass state).starts.length).nanos with early | due
    · exact early
    · rw [← Nat.zero_add (List.length _)] at due
      obtain ⟨course, goes, start, member, after⟩ := exists_late _ 0 0 state (Nat.le_refl _) (Nat.succ_pos _) due
      exact absurd (before course goes start member) (Duration.not_lt_iff.2 after)
  · intro early course goes start member
    rcases goes.prompt_or_late with same | ⟨-, due⟩
    · rw [same] at member
      exact lt_stop_of_mem_loop _ _ _ _ start member
    · exact absurd early (Duration.not_lt_iff.2 due)

end Outlasting

section Short

variable {state : σ} {course : Course σ} {starts : Nat → Duration}

theorem due_succ (c : Cadence) (k : Nat) : c.due (k + 1) = c.due k + c.interval :=
  congrArg Duration.mk (Nat.succ_mul k _)

theorem made_lt_due (short : ∀ k start state, (pass k start state).1 < c.interval) {starts : List Duration}
    (begins : ∀ (i : Nat) (inside : i < starts.length),
      starts[i] = Duration.max (c.due i) (made pass 0 (starts.take i) (0, state)).1) (i : Nat)
    (inside : i < starts.length) : (made pass 0 (starts.take (i + 1)) (0, state)).1 < c.due (i + 1) := by
  -- By induction on the number of the pass: it begins when it is due, and has ended when the next one is.
  induction i with
  | zero =>
    have start : starts[0] = c.due 0 := (begins 0 inside).trans (Duration.max_eq_left (Nat.zero_le _))
    rw [made_take_succ pass 0 (0, state) inside, due_succ, start]
    exact Nat.add_lt_add_left (short _ _ _) _
  | succ i ih =>
    have inTime := ih (Nat.lt_of_succ_lt inside)
    have start : starts[i + 1] = c.due (i + 1) :=
      (begins (i + 1) inside).trans (Duration.max_eq_left (Nat.le_of_lt inTime))
    rw [made_take_succ pass 0 (0, state) inside, due_succ c (i + 1), start]
    exact Nat.add_lt_add_left (short _ _ _) _

theorem Goes.starts_le_stop (short : ∀ k start state, (pass k start state).1 < c.interval)
    (goes : Goes c stop pass 0 0 state course) : ∀ start ∈ course.starts, start ≤ stop := by
  have begins := goes.begins
  simp only [Nat.zero_add] at begins
  intro start member
  obtain ⟨i, inside, rfl⟩ := List.getElem_of_mem member
  have begun := goes.begun i inside
  cases i with
  | zero =>
    rw [List.take_zero] at begun
    exact Duration.le_trans begun (Nat.max_le.2 ⟨Nat.le_refl _, Nat.zero_le _⟩)
  | succ i =>
    have ended := made_lt_due short begins i (Nat.lt_of_succ_lt inside)
    have due : c.due (i + 1) ≤ course.starts[i + 1] := begins (i + 1) inside ▸ Nat.le_max_left _ _
    rcases Duration.le_max_iff.1 begun with inTime | late
    · exact inTime
    · exact absurd (Duration.le_trans due late) (Nat.not_le.2 ended)

theorem NeverReturns.overdue (never : NeverReturns c stop pass state starts) (k : Nat) (after : stop < c.due k) :
    c.due k ≤ (made pass 0 ((List.range k).map starts) (0, state)).1 := by
  obtain ⟨start, begun⟩ := never k
  have due : c.due k ≤ starts k := start ▸ Nat.le_max_left _ _
  rcases Duration.le_max_iff.1 begun with inTime | late
  · exact absurd (Duration.le_trans due inTime) (Nat.not_le.2 after)
  · exact Duration.le_trans due late

theorem exists_due_after (c : Cadence) (stop : Duration) : ∃ k, stop < c.due (k + 1) := by
  refine ⟨stop.nanos / c.interval.nanos, ?_⟩
  rw [due_succ]
  exact Nat.lt_div_mul_add c.positive

theorem returns_of_short (short : ∀ k start state, (pass k start state).1 < c.interval) :
    ¬ NeverReturns c stop pass state starts := by
  intro never
  obtain ⟨k, after⟩ := exists_due_after c stop
  have begins : ∀ (i : Nat) (inside : i < ((List.range (k + 1)).map starts).length),
      ((List.range (k + 1)).map starts)[i] = Duration.max (c.due i)
        (made pass 0 (((List.range (k + 1)).map starts).take i) (0, state)).1 := by
    intro i inside
    rw [List.length_map, List.length_range] at inside
    rw [List.getElem_map, List.getElem_range, ← List.map_take, List.take_range, Nat.min_eq_left (Nat.le_of_lt inside)]
    exact (never i).1
  have ended := made_lt_due short begins k (by simp)
  rw [List.take_of_length_le (by simp)] at ended
  exact absurd (never.overdue (k + 1) after) (Nat.not_le.2 ended)

end Short

end Cadence

theorem Settings.snapshotInterval_pos (s : Settings) (valid : s.validate = .ok ()) :
    0 < s.snapshotInterval.nanos := by
  have some : s.snapshotMinutes ≠ 0 := by
    intro zero
    rw [validate, zero] at valid
    cases valid
  have positive : 0 < s.snapshotMinutes.toNat := Nat.pos_of_ne_zero fun zero => some (UInt64.toNat_inj.1 zero)
  simp only [snapshotInterval, Duration.ofSeconds]
  omega

namespace Archive

open Cadence

theorem elapsed_le (connector : Connector) (limits : Limits) (cluster : Cluster) :
    (fetchSnapshot connector limits cluster).elapsed ≤ limits.fetch := by
  rw [fetchSnapshot, Fetch.Course.bounded]
  split
  case isTrue inTime => exact inTime
  case isFalse => exact Nat.le_refl _

theorem passTime_le (connector : Connector) (limits : Limits) (clusters : List Cluster) :
    passTime connector limits clusters ≤ limits.fetch := by
  apply Duration.longest_le_iff.2
  intro d member
  obtain ⟨cluster, -, rfl⟩ := List.mem_map.1 member
  exact elapsed_le connector limits cluster

theorem recording_le (limits : Limits) (clock : Duration → Instant) (meets : Nat → Meeting) (k : Nat)
    (start : Duration) (a : Archive) :
    (recording limits clock meets k start a).1 ≤ (meets k).asking + limits.fetch := by
  rw [recording]
  cases told : (meets k).told with
  | error f => exact Duration.le_add_right _ _
  | ok clusters => exact Nat.add_le_add_left (passTime_le _ _ _) _

theorem recordEvery_interval (c : Cadence) (stop : Duration) (ties : List Bool) (connector : Connector)
    (limits : Limits) (clock : Duration → Instant) (told : Nat → Except Failure (List Cluster)) (a : Archive) :
    recordEvery c.interval stop ties connector limits clock told a =
      some (record c stop ties connector limits clock told a) := by
  rw [recordEvery, ofInterval?, dif_pos c.positive]
  rfl

theorem recordEvery_eq_none_iff {interval stop : Duration} {ties : List Bool} {connector : Connector}
    {limits : Limits} {clock : Duration → Instant} {told : Nat → Except Failure (List Cluster)} {a : Archive} :
    recordEvery interval stop ties connector limits clock told a = none ↔ interval = 0 := by
  rw [recordEvery, Option.map_eq_none_iff, ofInterval?, Duration.eq_iff_nanos]
  constructor
  · intro none
    rcases Nat.eq_zero_or_pos interval.nanos with zero | some
    · exact zero
    · rw [dif_pos some] at none
      cases none
  · intro zero
    exact dif_neg (Nat.not_lt.2 (Nat.le_of_eq zero))

def slowPlane : Connector := fun _ =>
  ⟨.ofSeconds 9, .answer ⟨⟨0, .answer {}⟩, fun _ => ⟨0, .answer {}⟩, fun _ => ⟨0, .answer {}⟩⟩⟩

def recordSlowPlane (interval : Duration) (ties : List Bool) : Option (Course Archive) :=
  recordEvery interval (.ofMillis 2500) ties slowPlane ⟨.ofSeconds 15, .ofSeconds 60⟩ (fun _ => .epoch)
    (fun _ => .ok [{ identifier := "prod", address := "https://prod.example" }])
    ⟨.ring (.empty 2), fun n => ⟨.ofNat 128 n⟩, 0⟩

end Archive

end ClusterWatch
