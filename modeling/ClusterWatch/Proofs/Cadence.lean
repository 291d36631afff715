import ClusterWatch.Archive
import ClusterWatch.Proofs.Durations

namespace ClusterWatch

namespace Cadence

variable {σ : Type} {c : Cadence} {stop : Duration} {pass : Pass σ}

/-- The courses of a loop that waits for its pass of number `k` since `free`. -/
inductive Goes (c : Cadence) (stop : Duration) (pass : Pass σ) : Nat → Duration → σ → Course σ → Prop where
  | quit {k : Nat} {free : Duration} (state : σ)
      (first : Duration.max stop free ≤ Duration.max (c.due k) free) :
      Goes c stop pass k free state ⟨[], Duration.max stop free, state⟩
  | go {k : Nat} {free start : Duration} {state : σ} {rest : Course σ} (when : start = Duration.max (c.due k) free)
      (first : start ≤ Duration.max stop free)
      (goesOn : Goes c stop pass (k + 1) (start + (pass k start state).1) (pass k start state).2 rest) :
      Goes c stop pass k free state { rest with starts := start :: rest.starts }

def made (pass : Pass σ) : Nat → List Duration → Duration × σ → Duration × σ
  | _, [], sofar => sofar
  | k, start :: later, (_, state) =>
    made pass (k + 1) later (start + (pass k start state).1, (pass k start state).2)

def Course.endOf (course : Course σ) (pass : Pass σ) (state : σ) (i : Nat) : Duration :=
  (made pass 0 (course.starts.take (i + 1)) (0, state)).1

structure Keeps (c : Cadence) (stop : Duration) (pass : Pass σ) (state : σ) (course : Course σ) : Prop where
  begun : 0 < stop → 0 < course.starts.length
  first : ∀ inside : 0 < course.starts.length, course.starts[0] = 0
  next : ∀ (i : Nat) (inside : i + 1 < course.starts.length),
    course.starts[i + 1] = Duration.max (c.due (i + 1)) (course.endOf pass state i)
  goesOn : ∀ i, i < course.starts.length → Duration.max (c.due (i + 1)) (course.endOf pass state i) < stop →
    i + 1 < course.starts.length
  apart : ∀ (i j : Nat) (inside : j < course.starts.length), i < j → course.endOf pass state i ≤ course.starts[j]
  completed : ∀ i, i < course.starts.length → course.endOf pass state i ≤ course.finish
  finish : course.finish = Duration.max stop (made pass 0 course.starts (0, state)).1
  left : course.state = (made pass 0 course.starts (0, state)).2

section Courses

variable {k : Nat} {free : Duration} {state : σ} {course : Course σ}

theorem due_zero (c : Cadence) : c.due 0 = 0 :=
  congrArg Duration.mk (Nat.zero_mul _)

theorem made_take_succ (pass : Pass σ) (k : Nat) (sofar : Duration × σ) {starts : List Duration} {i : Nat}
    (inside : i < starts.length) :
    made pass k (starts.take (i + 1)) sofar =
      (starts[i] + (pass (k + i) starts[i] (made pass k (starts.take i) sofar).2).1,
        (pass (k + i) starts[i] (made pass k (starts.take i) sofar).2).2) := by
  induction starts generalizing k sofar i with
  | nil => exact absurd inside (Nat.not_lt_zero i)
  | cons start later ih =>
    obtain ⟨free, state⟩ := sofar
    cases i with
    | zero => rfl
    | succ i =>
      simp only [List.take_succ_cons, made, List.getElem_cons_succ]
      rw [ih (k + 1) _ (Nat.lt_of_succ_lt_succ inside), Nat.add_right_comm k 1 i, Nat.add_assoc]

theorem Goes.begins (goes : Goes c stop pass k free state course) :
    ∀ (i : Nat) (inside : i < course.starts.length), course.starts[i] =
      Duration.max (c.due (k + i)) (made pass k (course.starts.take i) (free, state)).1 := by
  -- By induction on the course: a pass that begins is due and nothing goes on, and none is left that could begin
  -- before the stop.
  induction goes with
  | quit => exact fun i inside => absurd inside (Nat.not_lt_zero i)
  | @go k free start state rest when first goesOn ih =>
    intro i inside
    cases i with
    | zero => exact when
    | succ i =>
      have later := ih i (Nat.lt_of_succ_lt_succ inside)
      rw [Nat.add_right_comm, Nat.add_assoc] at later
      exact later

theorem Goes.stops (goes : Goes c stop pass k free state course) :
    stop ≤ Duration.max (c.due (k + course.starts.length)) (made pass k course.starts (free, state)).1 := by
  induction goes with
  | quit state first => exact Nat.le_trans (Nat.le_max_left _ _) first
  | @go k free start state rest when first goesOn ih =>
    rw [Nat.add_right_comm, Nat.add_assoc] at ih
    exact ih

theorem Goes.finish (goes : Goes c stop pass k free state course) :
    course.finish = Duration.max stop (made pass k course.starts (free, state)).1 ∧
      course.state = (made pass k course.starts (free, state)).2 := by
  induction goes with
  | quit => exact ⟨rfl, rfl⟩
  | go when first goesOn ih => exact ih

theorem start_le_endOf (pass : Pass σ) (state : σ) {j : Nat} (inside : j < course.starts.length) :
    course.starts[j] ≤ course.endOf pass state j := by
  rw [Course.endOf, made_take_succ pass 0 (0, state) inside]
  exact Duration.le_add_right _ _

theorem Goes.endOf_le_start (goes : Goes c stop pass 0 0 state course) {i j : Nat}
    (inside : j < course.starts.length) (earlier : i < j) : course.endOf pass state i ≤ course.starts[j] := by
  induction j with
  | zero => exact absurd earlier (Nat.not_lt_zero i)
  | succ j ih =>
    have before : course.endOf pass state j ≤ course.starts[j + 1] := by
      rw [goes.begins (j + 1) inside]
      exact Duration.le_max_right _ _
    rcases Nat.lt_succ_iff_lt_or_eq.1 earlier with less | rfl
    · have lasts := start_le_endOf pass state (Nat.lt_of_succ_lt inside)
      exact Duration.le_trans (Duration.le_trans (ih (Nat.lt_of_succ_lt inside) less) lasts) before
    · exact before

theorem Goes.endOf_le_endOf (goes : Goes c stop pass 0 0 state course) {i j : Nat}
    (inside : j < course.starts.length) (earlier : i ≤ j) :
    course.endOf pass state i ≤ course.endOf pass state j := by
  rcases Nat.lt_or_eq_of_le earlier with less | rfl
  · exact Duration.le_trans (goes.endOf_le_start inside less) (start_le_endOf pass state inside)
  · exact Nat.le_refl _

end Courses

section Keeping

variable {state : σ} {course : Course σ}

theorem Goes.keeps (goes : Goes c stop pass 0 0 state course) : Keeps c stop pass state course := by
  have begins := goes.begins
  have stops := goes.stops
  have finish := goes.finish.1
  simp only [Nat.zero_add] at begins stops
  have lastEnd : ∀ i, i + 1 = course.starts.length →
      course.endOf pass state i = (made pass 0 course.starts (0, state)).1 := by
    intro i last
    rw [Course.endOf, last, List.take_length]
  constructor
  case begun =>
    intro later
    rcases Nat.eq_zero_or_pos course.starts.length with none | some
    · rw [List.eq_nil_of_length_eq_zero none, List.length_nil, due_zero] at stops
      exact absurd later (Duration.not_lt_iff.2 stops)
    · exact some
  case first =>
    intro inside
    rw [begins 0 inside, due_zero]
    rfl
  case next => exact fun i inside => begins (i + 1) inside
  case goesOn =>
    intro i inside before
    rcases Nat.lt_or_eq_of_le (Nat.succ_le_of_lt inside) with more | last
    · exact more
    · rw [← last, ← lastEnd i last] at stops
      exact absurd before (Duration.not_lt_iff.2 stops)
  case apart => exact fun i j inside earlier => goes.endOf_le_start inside earlier
  case completed =>
    intro i inside
    obtain ⟨n, count⟩ := Nat.exists_eq_add_one_of_ne_zero (Nat.ne_zero_of_lt inside)
    have last : course.endOf pass state n ≤ course.finish := by
      rw [finish, lastEnd n count.symm]
      exact Duration.le_max_right _ _
    exact Duration.le_trans (goes.endOf_le_endOf (by omega) (by omega)) last
  case finish => exact finish
  case left => exact goes.finish.2

end Keeping

section Running

variable {fuel k : Nat} {ties : List Bool} {free : Duration} {state : σ}

theorem le_of_due_lt {c : Cadence} (before : c.due k < stop) : k ≤ stop.nanos / c.interval.nanos :=
  (Nat.le_div_iff_mul_le c.positive).2 (Nat.le_of_lt before)

theorem goes_loop (c : Cadence) (stop : Duration) (pass : Pass σ) (ties : List Bool) (k : Nat) (free : Duration)
    (state : σ) (enough : ties.length < fuel)
    (bound : stop.nanos / c.interval.nanos + 2 + ties.length ≤ fuel + k) :
    Goes c stop pass k free state (loop c stop pass fuel ties k free state) := by
  -- The fuel is enough: a pass before the stop begins no earlier than it is due, and one after it takes a tie.
  induction fuel generalizing ties k free state with
  | zero => exact absurd enough (Nat.not_lt_zero _)
  | succ fuel ih =>
    unfold loop
    have quits (first : Duration.max stop free ≤ Duration.max (c.due k) free) :
        Goes c stop pass k free state ⟨[], Duration.max stop free, state⟩ := .quit state first
    by_cases before : free < stop
    · have waits : Duration.max stop free = stop := Duration.max_eq_left (Nat.le_of_lt before)
      rw [if_pos before]
      by_cases inTime : Duration.max (c.due k) free < stop
      · rw [if_pos inTime]
        have early : k ≤ stop.nanos / c.interval.nanos :=
          le_of_due_lt (Nat.lt_of_le_of_lt (Nat.le_max_left _ _) inTime)
        refine .go rfl ?_ (ih _ _ _ _ (by omega) (by omega))
        rw [waits]
        exact Nat.le_of_lt inTime
      · rw [if_neg inTime]
        rw [waits] at quits
        exact quits (Duration.not_lt_iff.1 inTime)
    · have past : Duration.max stop free = free := Duration.max_eq_right (Duration.not_lt_iff.1 before)
      rw [past] at quits
      rw [if_neg before]
      by_cases late : c.due k ≤ free
      · rw [if_pos late]
        -- The stop has come and the pass is due, so that either may be taken.
        cases ties with
        | nil => exact quits (Duration.le_max_right _ _)
        | cons tie ties =>
          cases tie with
          | false => exact quits (Duration.le_max_right _ _)
          | true =>
            rw [List.length_cons] at enough bound
            refine .go (Duration.max_eq_right late).symm ?_ (ih _ _ _ _ (by omega) (by omega))
            exact Duration.le_max_right _ _
      · rw [if_neg late]
        exact quits (Duration.le_max_right _ _)

theorem goes_run (c : Cadence) (stop : Duration) (ties : List Bool) (pass : Pass σ) (state : σ) :
    Goes c stop pass 0 0 state (c.run stop ties pass state) :=
  goes_loop c stop pass ties 0 0 state (Nat.lt_add_of_pos_left (Nat.succ_pos _)) (Nat.le_refl _)

end Running

end Cadence

namespace Archive

open Cadence

structure Meeting where
  asking : Duration
  told : Except Failure (List Cluster)
  connector : Connector

def recording (limits : Limits) (clock : Duration → Instant) (meets : Nat → Meeting) : Pass Archive := fun k start a =>
  let m := meets k
  match m.told with
  | .error _ => (m.asking, a)
  | .ok clusters =>
    (m.asking + passTime m.connector limits clusters,
      (snapshotPass m.connector limits (fun t => clock (start + m.asking + t)) clusters a).2)

theorem record_eq_run (c : Cadence) (stop : Duration) (ties : List Bool) (connector : Connector) (limits : Limits)
    (clock : Duration → Instant) (told : Nat → Except Failure (List Cluster)) (a : Archive) :
    record c stop ties connector limits clock told a =
      c.run stop ties (recording limits clock fun k => ⟨0, told k, connector⟩) a := by
  unfold record
  congr 1
  funext k start a
  cases clusters : told k with
  | error f => simp only [recording, clusters]
  | ok clusters => simp only [recording, clusters, Duration.add_zero, Duration.zero_add]

/-- Snapshot passes, whatever each of them meets, and removal passes begin one after the other when they are due, are
completed, and are stopped by nothing but the stop; a history that bounds itself has no removal passes. -/
theorem passes_keep_cadence (c : Cadence) (stop : Duration) :
    (∀ (σ : Type) (pass : Pass σ) (state : σ),
      (∀ course, Goes c stop pass 0 0 state course → Keeps c stop pass state course) ∧
        ∀ ties, Goes c stop pass 0 0 state (c.run stop ties pass state)) ∧
    (∀ ties limits clock (meets : Nat → Meeting) (a : Archive),
      Keeps c stop (recording limits clock meets) a (c.run stop ties (recording limits clock meets) a)) ∧
    (∀ ties connector limits clock told (a : Archive),
      Keeps c stop (recording limits clock fun k => ⟨0, told k, connector⟩) a
        (record c stop ties connector limits clock told a)) ∧
    (∀ ties t (σ : Type) (pass : Pass σ) (state : σ),
      Keeps c stop pass state (evict c stop ties (History.documents t).evictsByAge pass state)) ∧
    ∀ ties r (σ : Type) (pass : Pass σ) (state : σ),
      evict c stop ties (History.ring r).evictsByAge pass state = ⟨[], 0, state⟩ := by
  refine ⟨fun σ pass state => ⟨fun course goes => goes.keeps, fun ties => goes_run c stop ties pass state⟩, ?_, ?_, ?_, ?_⟩
  · intro ties limits clock meets a
    exact (goes_run c stop ties _ a).keeps
  · intro ties connector limits clock told a
    rw [record_eq_run]
    exact (goes_run c stop ties _ a).keeps
  · intro ties t σ pass state
    exact (goes_run c stop ties pass state).keeps
  · intro ties r σ pass state
    rfl

-- One pass outlasts two intervals, and the stop comes in another one.
example :
    Cadence.run ⟨.ofSeconds 60, by decide⟩ (.ofSeconds 242) []
        (fun k _ n => (if k = 1 then .ofSeconds 130 else .ofSeconds 5, n + 1)) 0 =
      ⟨[.ofSeconds 0, .ofSeconds 60, .ofSeconds 190, .ofSeconds 195, .ofSeconds 240], .ofSeconds 245, 5⟩ := by
  rfl

end Archive

end ClusterWatch
