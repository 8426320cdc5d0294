import Mathlib.Data.Nat.Basic
import Mathlib.Tactic.Common

/-!
# The calendar of MySQL

A point in time is a number of seconds since day 0, and day numbers are those of
`to_days`.  A date is in one of the years 1 to 9999; the zero date
`0000-00-00 00:00:00` is the number 0.
-/

namespace ParDiff.Lib

/-- `t` and `d` days, in any calendar. -/
def addDays (t : Nat) (d : Int) : Nat := (t + 86400 * d).toNat

/-- `date_add(t, interval d day)`.  There is no date to add to on day 0; a day beyond the
year 9999 is `NULL`, and the days before the year 1 are all written as day 0. -/
def dateAdd (t : Nat) (d : Int) : Option Nat :=
  let day := (t / 86400 : Nat) + d
  if t / 86400 = 0 ∨ day < 0 ∨ 3652424 < day then none
  else if day ≤ 365 then some (t % 86400)
  else some (addDays t d)

/-- 1970-01-01 00:00:00, where Unix counts from. -/
def unixEpoch : Nat := 719528 * 86400

/-! ## Days -/

/-- The day number of MySQL. -/
def dayOf (t : Nat) : Int := (t / 86400 : Nat)

/-- The days of the years 1 to 9999. -/
def InCalendar (day : Int) : Prop := 365 < day ∧ day ≤ 3652424

/-- A day that `date_add` writes as day 0. -/
def BeforeCalendar (day : Int) : Prop := 0 ≤ day ∧ day ≤ 365

/-- A day for which `date_add` has no value. -/
def NoDay (day : Int) : Prop := day < 0 ∨ 3652424 < day

instance (day : Int) : Decidable (InCalendar day) := inferInstanceAs (Decidable (_ ∧ _))

instance (day : Int) : Decidable (BeforeCalendar day) := inferInstanceAs (Decidable (_ ∧ _))

instance (day : Int) : Decidable (NoDay day) := inferInstanceAs (Decidable (_ ∨ _))

theorem day_cases (day : Int) : InCalendar day ∨ BeforeCalendar day ∨ NoDay day := by
  unfold InCalendar BeforeCalendar NoDay
  omega

section DateAdd

variable {t : Nat} {d : Int}

theorem dateAdd_inCalendar (ht : dayOf t ≠ 0) (h : InCalendar (dayOf t + d)) :
    dateAdd t d = some (addDays t d) := by
  unfold InCalendar at h
  unfold dayOf at ht h
  rw [dateAdd, if_neg (by omega), if_neg (by omega)]

theorem dateAdd_beforeCalendar (ht : dayOf t ≠ 0) (h : BeforeCalendar (dayOf t + d)) :
    dateAdd t d = some (t % 86400) := by
  unfold BeforeCalendar at h
  unfold dayOf at ht h
  rw [dateAdd, if_neg (by omega), if_pos h.2]

theorem dateAdd_noDay (h : NoDay (dayOf t + d)) : dateAdd t d = none := by
  rw [dateAdd, if_pos (.inr h)]

theorem dateAdd_day_zero (ht : dayOf t = 0) : dateAdd t d = none := by
  unfold dayOf at ht
  rw [dateAdd, if_pos (.inl (by omega))]

theorem dateAdd_eq_none_iff (ht : dayOf t ≠ 0) : dateAdd t d = none ↔ NoDay (dayOf t + d) := by
  refine ⟨fun h => ?_, dateAdd_noDay⟩
  rcases day_cases (dayOf t + d) with hin | hbefore | hno
  · simp [dateAdd_inCalendar ht hin] at h
  · simp [dateAdd_beforeCalendar ht hbefore] at h
  · exact hno

theorem dayOf_addDays (h : InCalendar (dayOf t + d)) : dayOf (addDays t d) = dayOf t + d := by
  unfold InCalendar dayOf at *
  unfold addDays
  omega

theorem addDays_addDays (h : InCalendar (dayOf t + d)) (n : Int) :
    addDays (addDays t d) n = addDays t (d + n) := by
  have hcast : ((addDays t d : Nat) : Int) = t + 86400 * d := by
    unfold InCalendar dayOf at h
    unfold addDays
    omega
  unfold addDays at hcast ⊢
  rw [hcast]
  congr 1
  omega

theorem dayOf_mod (t : Nat) : dayOf (t % 86400) = 0 := by
  unfold dayOf
  omega

/-- Within the calendar the days of two steps add up. -/
theorem dateAdd_addDays (ht : dayOf t ≠ 0) (h : InCalendar (dayOf t + d)) (n : Int) :
    dateAdd (addDays t d) n = dateAdd t (d + n) := by
  have hday := dayOf_addDays h
  have hne : dayOf (addDays t d) ≠ 0 := by
    rw [hday]
    unfold InCalendar at h
    omega
  have hassoc : dayOf (addDays t d) + n = dayOf t + (d + n) := by omega
  rcases day_cases (dayOf t + (d + n)) with hin | hbefore | hno
  · rw [dateAdd_inCalendar ht hin, dateAdd_inCalendar hne (hassoc ▸ hin), addDays_addDays h]
  · rw [dateAdd_beforeCalendar ht hbefore, dateAdd_beforeCalendar hne (hassoc ▸ hbefore)]
    unfold InCalendar dayOf at *
    unfold addDays at *
    congr 1
    omega
  · rw [dateAdd_noDay hno, dateAdd_noDay (hassoc ▸ hno)]

/-- `date_add` never leads to a later date than the days say. -/
theorem le_of_dateAdd {t' : Nat} (h : dateAdd t d = some t') :
    (t' : Int) ≤ t + 86400 * d := by
  revert h
  simp only [dateAdd, addDays]
  split_ifs <;> simp <;> omega

/-- Only a date of the calendar is left alone by an interval of 0 days. -/
theorem dateAdd_zero_iff : dateAdd t 0 = some t ↔ InCalendar (dayOf t) := by
  by_cases ht : dayOf t = 0
  · rw [dateAdd_day_zero ht]
    unfold InCalendar
    simp [ht]
  · rcases day_cases (dayOf t + 0) with hin | hbefore | hno
    · rw [dateAdd_inCalendar ht hin]
      simpa [addDays] using hin
    · rw [dateAdd_beforeCalendar ht hbefore]
      unfold InCalendar BeforeCalendar dayOf at *
      simp only [Option.some.injEq]
      omega
    · rw [dateAdd_noDay hno]
      unfold InCalendar NoDay at *
      simp only [reduceCtorEq, false_iff]
      omega

end DateAdd

end ParDiff.Lib
