import Mathlib.Data.List.Basic
import Mathlib.Data.Nat.PSub
import ShellDocs.Watch.Throttle

/-! # The answers of a throttle

Of all its calls a throttle keeps the time that was recorded last, and neither the times before it
nor the questions. The time that it tells to wait is exact: the throttle holds back until it has
passed, and no longer. The times of the calls need not ascend.
-/

namespace ShellDocs.Watch

section Remaining

/-- The time from a run to a moment, which is zero for a moment before the run. -/
def elapsed (last now : Nat) : Int := if now < last then 0 else now - last

variable {t : Throttle} {last now later d e : Nat}

theorem elapsed_of_le (h : last ≤ now) : elapsed last now = now - last :=
  if_neg (Nat.not_lt.mpr h)

theorem coe_sub_eq_elapsed (last now : Nat) : ((now - last : Nat) : Int) = elapsed last now := by
  unfold elapsed
  split <;> omega

theorem elapsed_le_elapsed (last : Nat) (h : now ≤ later) :
    elapsed last now ≤ elapsed last later := by
  rw [← coe_sub_eq_elapsed, ← coe_sub_eq_elapsed]
  exact Int.ofNat_le.mpr (Nat.sub_le_sub_right h last)

namespace Throttle

theorem remaining_of_lastRun_eq_none (hl : t.lastRun = none) (now : Nat) :
    t.remaining now = none := by
  rw [remaining, hl, Option.bind_none]

theorem remaining_eq_none_iff (hl : t.lastRun = some last) :
    t.remaining now = none ↔ t.minInterval ≤ elapsed last now := by
  rw [remaining, hl, Option.bind_some, ← coe_sub_eq_elapsed, Int.ofNat_le]
  simp

theorem remaining_eq_some_iff (hl : t.lastRun = some last) :
    t.remaining now = some d ↔ 0 < d ∧ (d : Int) = t.minInterval - elapsed last now := by
  rw [remaining, hl, Option.bind_some, ← coe_sub_eq_elapsed, Option.ite_none_right_eq_some,
    Option.some.injEq]
  omega

theorem exists_lastRun_of_remaining (h : t.remaining now = some d) :
    ∃ last, t.lastRun = some last := by
  cases hl : t.lastRun with
  | none =>
    rw [remaining_of_lastRun_eq_none hl] at h
    cases h
  | some last => exact ⟨last, rfl⟩

/-- The answer by subtractions that have no value below zero. Without a value the time since the run
is zero. There is nothing to wait for if the rest of the interval has no value, and neither if it is
zero. -/
theorem remaining_eq_psub (t : Throttle) (now : Nat) : t.remaining now =
    t.lastRun.bind fun last =>
      (t.minInterval.psub ((now.psub last).getD 0)).filter (0 < ·) := by
  unfold remaining
  refine congrArg t.lastRun.bind (funext fun last => ?_)
  rw [← Nat.sub_eq_psub]
  split
  case isTrue h =>
    rw [Nat.psub_eq_sub (Nat.le_of_lt h), Option.filter_some, if_pos]
    exact decide_eq_true (Nat.sub_pos_of_lt h)
  case isFalse h =>
    rcases Nat.eq_or_lt_of_not_lt h with heq | hlt
    · rw [← heq, Nat.psub_eq_sub (Nat.le_refl _), Nat.sub_self]
      rfl
    · rw [Nat.psub_eq_none.mpr hlt, Option.filter_none]

theorem remaining_le (h : t.remaining now = some d) : d ≤ t.minInterval := by
  obtain ⟨last, hl⟩ := exists_lastRun_of_remaining h
  obtain ⟨-, hd⟩ := (remaining_eq_some_iff hl).mp h
  rw [← coe_sub_eq_elapsed] at hd
  omega

theorem remaining_add_of_lt (hl : t.lastRun = some last) (hle : last ≤ now)
    (h : t.remaining now = some d) (he : e < d) : t.remaining (now + e) = some (d - e) := by
  obtain ⟨-, hd⟩ := (remaining_eq_some_iff hl).mp h
  rw [elapsed_of_le hle] at hd
  rw [remaining_eq_some_iff hl, elapsed_of_le (Nat.le_add_right_of_le hle)]
  omega

theorem remaining_add_of_le (hl : t.lastRun = some last) (hle : last ≤ now)
    (h : t.remaining now = some d) (he : d ≤ e) : t.remaining (now + e) = none := by
  obtain ⟨-, hd⟩ := (remaining_eq_some_iff hl).mp h
  rw [elapsed_of_le hle] at hd
  rw [remaining_eq_none_iff hl, elapsed_of_le (Nat.le_add_right_of_le hle)]
  omega

theorem exists_le_remaining (hle : now ≤ later) (h : t.remaining later = some d) :
    ∃ d', t.remaining now = some d' ∧ d ≤ d' := by
  obtain ⟨last, hl⟩ := exists_lastRun_of_remaining h
  obtain ⟨hpos, hd⟩ := (remaining_eq_some_iff hl).mp h
  have he := elapsed_le_elapsed last hle
  refine ⟨(t.minInterval - elapsed last now).toNat, ?_, by omega⟩
  rw [remaining_eq_some_iff hl]
  omega

end Throttle

end Remaining

section Calls

/-- A throttle is told of a run, or asked for the time that is left. -/
inductive Call where
  | record (time : Nat)
  | ask (time : Nat)
deriving DecidableEq

namespace Call

def recorded? : Call → Option Nat
  | record time => some time
  | ask _ => none

def asked? : Call → Option Nat
  | record _ => none
  | ask time => some time

end Call

/-- The time that was recorded last, which need not be the latest. -/
def lastRecorded (calls : List Call) : Option Nat := (calls.filterMap Call.recorded?).getLast?

theorem lastRecorded_cons (c : Call) (rest : List Call) :
    lastRecorded (c :: rest) = (lastRecorded rest).or c.recorded? := by
  unfold lastRecorded
  cases c with
  | record time =>
    have hrec : (Call.record time).recorded? = some time := rfl
    rw [List.filterMap_cons_some hrec, List.getLast?_cons, hrec]
    cases (rest.filterMap Call.recorded?).getLast? <;> rfl
  | ask time => rw [List.filterMap_cons_none rfl, Call.recorded?, Option.or_none]

namespace Throttle

def call (t : Throttle) : Call → Throttle
  | .record time => t.record time
  | .ask _ => t

/-- The answers to one call after the other. A call that asks for nothing has none. -/
def answers (t : Throttle) : List Call → List (Option (Option Nat))
  | [] => []
  | c :: rest => c.asked?.map t.remaining :: (t.call c).answers rest

variable (t : Throttle)

theorem call_eq (c : Call) : t.call c = { t with lastRun := c.recorded?.or t.lastRun } := by
  cases c <;> rfl

theorem foldl_call (calls : List Call) :
    calls.foldl call t = { t with lastRun := (lastRecorded calls).or t.lastRun } := by
  induction calls generalizing t with
  | nil => rfl
  | cons c rest ih =>
    rw [List.foldl_cons, ih, call_eq, lastRecorded_cons, Option.or_assoc]

theorem getElem?_answers (calls : List Call) (i : Nat) :
    (t.answers calls)[i]? = calls[i]?.map fun c =>
      c.asked?.map ((calls.take i).foldl call t).remaining := by
  induction calls generalizing t i with
  | nil => rfl
  | cons c rest ih =>
    cases i with
    | zero => rfl
    | succ i => exact ih (t.call c) i

end Throttle

end Calls

/-- What a throttle answers, whenever it is asked. -/
structure Throttle.Paces (t : Throttle) : Prop where
  eq_none_iff (now : Nat) : t.remaining now = none ↔
    t.lastRun = none ∨ ∃ last, t.lastRun = some last ∧ t.minInterval ≤ elapsed last now
  bounds (now d : Nat) : t.remaining now = some d → 0 < d ∧ d ≤ t.minInterval
  /-- Nothing is cut off at zero: the time to wait is the same in the integers. -/
  eq_sub_elapsed (last now d : Nat) : t.lastRun = some last → t.remaining now = some d →
    (d : Int) = t.minInterval - elapsed last now
  /-- Subtractions that fail below zero lead to the same answer. -/
  eq_psub (now : Nat) : t.remaining now = t.lastRun.bind fun last =>
    (t.minInterval.psub ((now.psub last).getD 0)).filter (0 < ·)
  /-- Asked again, the throttle holds back until the time that it told has passed, and no
  longer. -/
  waits (last now d e : Nat) : t.lastRun = some last → last ≤ now → t.remaining now = some d →
    t.remaining (now + e) = if e < d then some (d - e) else none
  shortens (now later d : Nat) : now ≤ later → t.remaining later = some d →
    ∃ d', t.remaining now = some d' ∧ d ≤ d'

/-- An answer comes from the interval and the time that was recorded last before the question, and
from nothing else. -/
theorem Throttle.paces (minInterval : Nat) (calls : List Call) :
    (∀ i : Nat, (answers { minInterval } calls)[i]? = calls[i]?.map fun c =>
        c.asked?.map (Throttle.mk minInterval (lastRecorded (calls.take i))).remaining) ∧
      (Throttle.mk minInterval (lastRecorded calls)).Paces := by
  constructor
  case left =>
    intro i
    rw [getElem?_answers, foldl_call, Option.or_none]
  case right =>
    constructor
    case eq_none_iff =>
      intro now
      cases hl : lastRecorded calls with
      | none => simp [remaining_of_lastRun_eq_none]
      | some last => simp [remaining_eq_none_iff]
    case bounds =>
      intro now d h
      obtain ⟨last, hl⟩ := exists_lastRun_of_remaining h
      exact ⟨((remaining_eq_some_iff hl).mp h).1, remaining_le h⟩
    case eq_sub_elapsed =>
      intro last now d hl h
      exact ((remaining_eq_some_iff hl).mp h).2
    case eq_psub => exact remaining_eq_psub _
    case waits =>
      intro last now d e hl hle h
      split
      case isTrue he => exact remaining_add_of_lt hl hle h he
      case isFalse he => exact remaining_add_of_le hl hle h (Nat.le_of_not_lt he)
    case shortens =>
      intro now later d
      exact exists_le_remaining

/-- A time before the run that was recorded counts as the time of that run. -/
example : Throttle.answers { minInterval := 2000 }
    [.ask 0, .record 100, .ask 40, .ask 600, .ask 2099, .ask 2100, .record 50, .ask 100] =
      [some none, none, some (some 2000), some (some 1500), some (some 1), some none, none,
        some (some 1950)] := by decide

end ShellDocs.Watch
