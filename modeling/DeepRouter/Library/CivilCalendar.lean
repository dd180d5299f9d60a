import Mathlib.Data.Int.ConditionallyCompleteOrder
import Mathlib.Order.ConditionallyCompleteLattice.Basic

/-! # The civil calendar in a time zone

Days are numbered from 1970-01-01 and months from January of the year 0, so that month `12 * y + m`
is the month `m` of the year `y`. An instant is found for a reading of the local clock by the two
lookups of Go's `time.Date`. -/

namespace DeepRouter.CivilCalendar

def monthStart (month : Int) : Int :=
  let year := (month - 2) / 12
  365 * year + year / 4 - year / 100 + year / 400 + (153 * ((month - 2) % 12) + 2) / 5 - 719468

theorem monthStart_lt_succ (month : Int) : monthStart month < monthStart (month + 1) := by
  have hc : ((month + 1 - 2) / 12 = (month - 2) / 12 ∧
        (month + 1 - 2) % 12 = (month - 2) % 12 + 1) ∨
      ((month + 1 - 2) / 12 = (month - 2) / 12 + 1 ∧
        (month + 1 - 2) % 12 = 0 ∧ (month - 2) % 12 = 11) := by omega
  unfold monthStart
  dsimp only
  rcases hc with ⟨hy, hm⟩ | ⟨hy, hm, hl⟩
  · rw [hy, hm]
    omega
  · rw [hy, hm, hl]
    generalize (month - 2) / 12 = year
    omega

theorem monthStart_strictMono : StrictMono monthStart :=
  strictMono_int_of_lt_succ monthStart_lt_succ

def lastUpTo (f : Int → Int) (d : Int) : Nat → Int → Int
  | 0, k => k
  | n + 1, k => if f (k + 1) ≤ d then lastUpTo f d n (k + 1) else k

theorem lastUpTo_spec {f : Int → Int} {d : Int} {n : Nat} {k : Int} (hf : f k ≤ d)
    (ht : d < f (k + n)) : f (lastUpTo f d n k) ≤ d ∧ d < f (lastUpTo f d n k + 1) := by
  induction n generalizing k with
  | zero =>
    rw [Int.natCast_zero, Int.add_zero] at ht
    omega
  | succ n ih =>
    rw [lastUpTo]
    split
    · rename_i hn
      apply ih hn
      rwa [show k + 1 + (n : Int) = k + ((n + 1 : Nat) : Int) by omega]
    · rename_i hn
      exact ⟨hf, by omega⟩

def monthOf (day : Int) : Int :=
  lastUpTo monthStart day 36 (12 * (400 * (day + 719468) / 146097 - 1) + 2)

theorem monthOf_spec (day : Int) :
    monthStart (monthOf day) ≤ day ∧ day < monthStart (monthOf day + 1) := by
  apply lastUpTo_spec
  · unfold monthStart
    dsimp only
    omega
  · unfold monthStart
    dsimp only
    omega

theorem monthOf_monthStart (month : Int) : monthOf (monthStart month) = month := by
  obtain ⟨hf, ht⟩ := monthOf_spec (monthStart month)
  have hl := monthStart_strictMono.le_iff_le.mp hf
  have hLt := monthStart_strictMono.lt_iff_lt.mp ht
  omega

example : monthStart (12 * 2024 + 2) = 19783 ∧ monthOf 19782 = 12 * 2024 + 1 := by decide

structure ZonePeriod where
  offset : Int
  (start stop : Option Int)

def ZonePeriod.Covers (period : ZonePeriod) (t : Int) : Prop :=
  (∀ start ∈ period.start, start ≤ t) ∧ ∀ stop ∈ period.stop, t < stop
deriving Decidable

structure Zone where
  lookup : Int → ZonePeriod

namespace Zone

variable (zone : Zone)

def clock (t : Int) : Int := t + (zone.lookup t).offset

def date (reading : Int) : Int :=
  let period := zone.lookup reading
  if period.offset = 0 then reading
  else if period.Covers (reading - period.offset) then reading - period.offset
  else reading - (zone.lookup (reading - period.offset)).offset

def day (t : Int) : Int := zone.clock t / 86400

def midnight (day : Int) : Int := zone.date (86400 * day)

def startOfDay (t : Int) : Int := zone.midnight (zone.day t)

def startOfMonth (t : Int) : Int := zone.midnight (monthStart (monthOf (zone.day t)))

def weekday (t : Int) : Int := (zone.day t + 4) % 7

def addDate (t years months days : Int) : Int :=
  let month := monthOf (zone.day t)
  zone.date (86400 * (monthStart (month + 12 * years + months) + (zone.day t - monthStart month) +
    days) + zone.clock t % 86400)

structure SteadyAt (t : Int) : Prop where
  startOfDay : zone.clock (zone.startOfDay t) = 86400 * zone.day t
  startOfMonth : zone.clock (zone.startOfMonth t) = 86400 * monthStart (monthOf (zone.day t))
  before : ∀ day, zone.day t < day → t < zone.midnight day

variable {zone}

theorem day_of_clock {t day : Int} (h : zone.clock t = 86400 * day) : zone.day t = day := by
  unfold Zone.day
  rw [h]
  omega

theorem addDate_days {t day : Int} (h : zone.clock t = 86400 * day) (days : Int) :
    zone.addDate t 0 0 days = zone.midnight (day + days) := by
  unfold addDate midnight
  dsimp only
  rw [day_of_clock h, h]
  congr 1
  rw [Int.mul_zero, Int.add_zero, Int.add_zero]
  omega

theorem addDate_month {t month : Int} (h : zone.clock t = 86400 * monthStart month) :
    zone.addDate t 0 1 0 = zone.midnight (monthStart (month + 1)) := by
  unfold addDate midnight
  dsimp only
  rw [day_of_clock h, h, monthOf_monthStart]
  congr 1
  rw [Int.mul_zero, Int.add_zero, Int.add_zero]
  omega

theorem SteadyAt.lt_addDate_days {t : Int} (h : zone.SteadyAt t) {days : Int} (hd : 0 < days) :
    t < zone.addDate (zone.startOfDay t) 0 0 days := by
  rw [addDate_days h.startOfDay]
  exact h.before _ (by omega)

theorem SteadyAt.lt_addDate_month {t : Int} (h : zone.SteadyAt t) :
    t < zone.addDate (zone.startOfMonth t) 0 1 0 := by
  rw [addDate_month h.startOfMonth]
  exact h.before _ (monthOf_spec _).2

theorem weekday_bounds (t : Int) : 0 ≤ zone.weekday t ∧ zone.weekday t < 7 := by
  unfold weekday
  omega

def fixed (offset : Int) : Zone where
  lookup _ := ⟨offset, none, none⟩

theorem fixed_midnight (offset day : Int) : (fixed offset).midnight day = 86400 * day - offset := by
  unfold midnight date
  dsimp only [fixed]
  split
  · rename_i ho
    omega
  · split <;> rfl

theorem fixed_clock (offset t : Int) : (fixed offset).clock t = t + offset := rfl

theorem steadyAt_fixed (offset t : Int) : (fixed offset).SteadyAt t where
  startOfDay := by
    rw [startOfDay, fixed_midnight, fixed_clock]
    omega
  startOfMonth := by
    rw [startOfMonth, fixed_midnight, fixed_clock]
    omega
  before day hd := by
    rw [fixed_midnight]
    unfold Zone.day at hd
    rw [fixed_clock] at hd
    omega

end Zone

end DeepRouter.CivilCalendar
