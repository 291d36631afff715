import ClusterWatch.Proofs.Computations
import ClusterWatch.Proofs.Instant.Spans
import ClusterWatch.Service
import Mathlib.Algebra.Group.Nat.Defs

namespace ClusterWatch

namespace History

def CollectsSince1970 (seconds : Int) : Prop :=
  ∀ now : Instant, .epoch ≤ now → ∀ h : History, ∃ cutoff < now, cutoff.isLeap = false ∧
    cutoff.nanosSinceEpoch = now.nanosSinceEpoch - seconds * 1000000000 ∧
    h.collectAt? now seconds = some (h.removeBefore cutoff)

variable {now : Instant} {seconds : Int}

theorem collectAt?_eq_none_iff (h : History) (far : 1 ≤ seconds) : h.collectAt? now seconds = none ↔
    now.nanosSinceEpoch < (Instant.firstSecond + seconds) * 1000000000 := by
  rw [collectAt?, collect?, Option.map_eq_none_iff, Instant.minus?_eq_none_iff_of_far (by omega), Int.add_mul]

theorem exists_cutoff (far : 1 ≤ seconds)
    (reached : (Instant.firstSecond + seconds) * 1000000000 ≤ now.nanosSinceEpoch) (h : History) :
    ∃ cutoff < now, cutoff.isLeap = false ∧
      cutoff.nanosSinceEpoch = now.nanosSinceEpoch - seconds * 1000000000 ∧
      h.collectAt? now seconds = some (h.removeBefore cutoff) := by
  have span : 1000000000 ≤ seconds * 1000000000 := by omega
  cases before : now.minus? (seconds * 1000000000) with
  | none =>
    rw [Instant.minus?_eq_none_iff_of_far span] at before
    omega
  | some cutoff =>
    obtain ⟨plain, total⟩ := (Instant.minus?_eq_some_iff_of_far span).1 before
    refine ⟨cutoff, Instant.lt_of_minus?_of_far span before, plain, total, ?_⟩
    rw [collectAt?, collect?, before, Option.map_some]

/-- The hours from the first instant that there is to the beginning of 1970. -/
def hoursBefore1970 : Nat := 2315167008

theorem firstSecond_add_hours (hours : Nat) :
    Instant.firstSecond + hours * 3600 = (hours - hoursBefore1970) * 3600 := by
  rw [Instant.firstSecond, hoursBefore1970]
  omega

theorem collectsSince1970_iff {hours : Nat} (positive : 0 < hours) :
    CollectsSince1970 (hours * 3600) ↔ hours ≤ hoursBefore1970 := by
  have start : Instant.epoch.nanosSinceEpoch = 0 := rfl
  constructor
  · intro collects
    obtain ⟨cutoff, -, -, -, done⟩ := collects .epoch (Instant.le_refl _) (documents ∅)
    by_contra beyond
    have crash : (documents ∅).collectAt? .epoch (hours * 3600) = none := by
      rw [collectAt?_eq_none_iff _ (by omega), start, firstSecond_add_hours]
      omega
    rw [crash] at done
    cases done
  · intro within now since h
    apply exists_cutoff (by omega)
    have since : 0 ≤ now.nanosSinceEpoch := Instant.nanosSinceEpoch_nonneg since
    rw [firstSecond_add_hours]
    omega

end History

namespace Settings

variable {s : Settings} {hours : UInt64}

theorem hours_pos (valid : s.validate = .ok ()) (kept : s.keepHours = some hours) : 0 < hours.toNat := by
  by_contra none
  obtain rfl : hours = 0 := UInt64.toNat_inj.1 (Nat.eq_zero_of_not_pos none)
  rw [validate, kept, if_pos rfl] at valid
  obtain ⟨_, -, rest⟩ := exists_of_bind_ok valid
  obtain ⟨_, refused, -⟩ := exists_of_bind_ok rest
  cases refused

def longestHours : Nat := 2562047788015

theorem retention_iff (kept : s.keepHours = some hours) :
    (s.retention = .ok (some (hours.toNat * 3600)) ↔ hours.toNat ≤ longestHours) ∧
      (s.retention = .error .crash ↔ longestHours < hours.toNat ∧ hours.toNat < 2 ^ 63) ∧
      (s.retention = .ok none ↔ 2 ^ 63 ≤ hours.toNat) := by
  have greatest : greatestSpan = 9223372036854775 := by decide
  have bound : Int64.maxValue.toInt = 2 ^ 63 - 1 := by decide
  simp only [retention, kept, greatest, bound, longestHours]
  rcases Nat.lt_or_ge hours.toNat (2 ^ 63) with fits | beyond
  · rw [if_neg (by omega)]
    by_cases short : hours.toNat ≤ 2562047788015
    · rw [if_neg (by omega)]
      simp only [short, reduceCtorEq, Except.ok.injEq, true_and, false_iff]
      omega
    · rw [if_pos (by omega)]
      simp only [short, reduceCtorEq, true_and, true_iff, false_iff]
      omega
  · rw [if_pos (by omega)]
    simp only [reduceCtorEq, Except.ok.injEq, true_iff, false_iff]
    omega

end Settings

namespace Service

section Enter

variable (s : Service) (web : Net.Web) (clock : Duration → Instant)

theorem enter_snapshot (command : s.command = .snapshot) :
    (s.enter web clock).2 = ((s.snapshotPass web clock).2.map Prod.snd).mapError .failure := by
  rw [enter, if_pos command]

theorem enter_api (command : s.command = .api) :
    (s.enter web clock).2 = s.listenAddress.mapError Mishap.failure >>= fun _ => .ok s := by
  simp only [enter, command]
  cases s.listenAddress <;> rfl

theorem enter_history (command : s.command = .history) :
    (s.enter web clock).2 = s.settings.retention >>= fun span => .ok (s.firstPasses web clock span).2 := by
  simp only [enter, command]
  cases s.settings.retention <;> rfl

theorem enter_run (command : s.command = .run) :
    (s.enter web clock).2 = s.settings.retention >>= fun span =>
      s.listenAddress.mapError Mishap.failure >>= fun _ => .ok (s.firstPasses web clock span).2 := by
  simp only [enter, command]
  cases s.settings.retention <;> cases s.listenAddress <;> rfl

theorem enter_eq_crash_iff : (s.enter web clock).2 = .error .crash ↔
    s.command.recordsHistory = true ∧ s.settings.retention = .error .crash := by
  cases command : s.command with
  | snapshot =>
    rw [enter_snapshot s web clock command]
    cases (s.snapshotPass web clock).2 <;> simp [Except.map, Except.mapError, Settings.Command.recordsHistory]
  | api =>
    rw [enter_api s web clock command]
    cases s.listenAddress <;> simp [Except.mapError, bind, Except.bind, Settings.Command.recordsHistory]
  | history =>
    rw [enter_history s web clock command]
    cases s.settings.retention <;> simp [bind, Except.bind, Settings.Command.recordsHistory]
  | run =>
    rw [enter_run s web clock command]
    cases s.settings.retention <;> cases s.listenAddress <;>
      simp [Except.mapError, bind, Except.bind, Settings.Command.recordsHistory]

end Enter

end Service

/-- What becomes of the hours to keep: those for which all passes go through, those that are no span of time, those that
are kept without end, and the times at which a pass does not go through. -/
structure HoursKept (s : Settings) (hours : UInt64) : Prop where
  collects : s.retention = .ok (some (hours.toNat * 3600)) ∧ History.CollectsSince1970 (hours.toNat * 3600) ↔
    hours.toNat ≤ History.hoursBefore1970
  crashes : s.retention = .error .crash ↔ Settings.longestHours < hours.toNat ∧ hours.toNat < 2 ^ 63
  endless : s.retention = .ok none ↔ 2 ^ 63 ≤ hours.toNat
  fails : ∀ (now : Instant) (h : History), h.collectAt? now (hours.toNat * 3600) = none ↔
    now.nanosSinceEpoch < (Instant.firstSecond + hours.toNat * 3600) * 1000000000
  begins : ∀ (service : Service) (web : Net.Web) (clock : Duration → Instant), service.settings = s →
    ((service.enter web clock).2 = .error .crash ↔ service.command.recordsHistory = true ∧
      Settings.longestHours < hours.toNat ∧ hours.toNat < 2 ^ 63)

theorem valid_hours_are_kept {s : Settings} {hours : UInt64} (valid : s.validate = .ok ())
    (kept : s.keepHours = some hours) : HoursKept s hours := by
  have positive := Settings.hours_pos valid kept
  obtain ⟨span, crash, endless⟩ := Settings.retention_iff kept
  constructor
  case collects =>
    have shorter : History.hoursBefore1970 ≤ Settings.longestHours := by decide
    rw [span, History.collectsSince1970_iff positive]
    omega
  case crashes => exact crash
  case endless => exact endless
  case fails => exact fun now h => History.collectAt?_eq_none_iff h (by omega)
  case begins =>
    rintro service web clock rfl
    rw [service.enter_eq_crash_iff, crash]

def keeping (hours : UInt64) : Settings := { clusterList := some "[]", keepHours := some hours }

theorem two_days_are_kept : (keeping 48).validate = .ok () ∧ (keeping 48).keepHours = some 48 ∧
    (keeping 48).retention = .ok (some (48 * 3600)) ∧ History.CollectsSince1970 (48 * 3600) :=
  ⟨rfl, rfl, (valid_hours_are_kept (s := keeping 48) rfl rfl).collects.2 (by decide)⟩

/-- One hour more than the longest span of time has; with that span itself no pass goes through. -/
theorem longest_hours_crash :
    (keeping 2562047788016).validate = .ok () ∧ (keeping 2562047788016).retention = .error .crash ∧
      (keeping 2562047788015).validate = .ok () ∧
      (keeping 2562047788015).retention = .ok (some 9223372036854000) ∧
      ∀ h : History, h.collectAt? (.ofNanos 1488369600000000000) 9223372036854000 = none := by
  refine ⟨rfl, rfl, rfl, rfl, fun h => ?_⟩
  rw [History.collectAt?_eq_none_iff h (by decide)]
  decide

end ClusterWatch
