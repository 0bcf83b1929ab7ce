import DocStore.Time.Calendar
import Mathlib.Algebra.Group.Nat.Defs
import Mathlib.Order.Monotone.Basic
/-!
The days of the calendar. A day is told by its date: counting the days up to the date of a day gives the
day again, so that no two days have one date.
-/
namespace DocStore.CalendarDate

variable {n y : ℕ}

/-- The year of an era of 400 years that a day of the era falls in, counted from March. -/
def yearOfEra (n : ℕ) : ℕ := (n - n / 1460 + n / 36524 - n / 146096) / 365

/-- The days of an era before one of its years. -/
def daysBefore (y : ℕ) : ℕ := 365 * y + y / 4 - y / 100 + y / 400

def daysOfEra : ℕ := 146097

theorem monotone_yearOfEra : Monotone yearOfEra :=
  monotone_nat_of_le_succ fun n => Nat.div_le_div_right (by omega)

/-- Every year of an era ends on the day before the next one begins. -/
theorem yearOfEra_ends : ∀ y < 400,
    yearOfEra (daysBefore y) = y ∧ yearOfEra (daysBefore (y + 1) - 1) = y := by
  decide +kernel

theorem daysBefore_succ (y : ℕ) :
    daysBefore y < daysBefore (y + 1) ∧ daysBefore (y + 1) ≤ daysBefore y + 366 := by
  unfold daysBefore
  omega

theorem exists_between {k : ℕ} (h : n < daysBefore k) :
    ∃ y < k, daysBefore y ≤ n ∧ n < daysBefore (y + 1) := by
  induction k with
  | zero => exact absurd h (Nat.not_lt_zero n)
  | succ k ih =>
    by_cases hbefore : n < daysBefore k
    · obtain ⟨y, hy, hday⟩ := ih hbefore
      exact ⟨y, Nat.lt_succ_of_lt hy, hday⟩
    · exact ⟨k, Nat.lt_succ_self k, Nat.le_of_not_lt hbefore, h⟩

/-- A day falls in a year, and a year has 366 days at most. -/
theorem exists_year (h : n < daysOfEra) :
    yearOfEra n < 400 ∧ daysBefore (yearOfEra n) ≤ n ∧ n < daysBefore (yearOfEra n) + 366 := by
  have hall : daysBefore 400 = daysOfEra := rfl
  obtain ⟨y, hy, hbegin, hend⟩ := exists_between (hall ▸ h)
  obtain ⟨hfront, hback⟩ := yearOfEra_ends y hy
  have hyear : yearOfEra n = y := by
    refine Nat.le_antisymm ?_ ?_
    · exact hback ▸ monotone_yearOfEra (show n ≤ daysBefore (y + 1) - 1 by omega)
    · exact hfront ▸ monotone_yearOfEra hbegin
  have hlength := (daysBefore_succ y).2
  rw [hyear]
  omega

/-- The days up to the date of a day are as many as there were. -/
theorem toDays_ofDays (days : ℤ) : toDays (ofDays days) = days := by
  obtain ⟨era, hera⟩ : ∃ era, era = (days + 719468).fdiv 146097 := ⟨_, rfl⟩
  obtain ⟨n, hn⟩ : ∃ n, n = (days + 719468 - era * 146097).toNat := ⟨_, rfl⟩
  have hfdiv : (days + 719468).fdiv 146097 = (days + 719468) / 146097 :=
    Int.fdiv_eq_ediv_of_nonneg _ (by decide)
  have hday : n < daysOfEra ∧ days + 719468 = era * 146097 + n := by
    unfold daysOfEra
    omega
  obtain ⟨hyear, hbegin, hend⟩ := exists_year hday.1
  obtain ⟨y, hy⟩ : ∃ y, y = yearOfEra n := ⟨_, rfl⟩
  obtain ⟨dayOfYear, hdayOfYear⟩ : ∃ d, d = n - (365 * y + y / 4 - y / 100) := ⟨_, rfl⟩
  obtain ⟨month, hmonth⟩ : ∃ m, m = (5 * dayOfYear + 2) / 153 := ⟨_, rfl⟩
  have hdate : ofDays days = ⟨if (if month < 10 then month + 3 else month - 9) ≤ 2 then
      (y : ℤ) + era * 400 + 1 else (y : ℤ) + era * 400,
      if month < 10 then month + 3 else month - 9, dayOfYear - (153 * month + 2) / 5 + 1⟩ := by
    rw [hmonth, hdayOfYear, hy, hn, hera]
    rfl
  rw [← hy] at hyear hbegin hend
  unfold daysBefore at hbegin hend
  have hyears : y / 400 = 0 := by omega
  have hcount : n = 365 * y + y / 4 - y / 100 + dayOfYear := by omega
  rw [hdate, toDays]
  dsimp only
  have hshift : ∀ k : ℤ, k.fdiv 4 = k / 4 ∧ k.fdiv 100 = k / 100 ∧ k.fdiv 400 = k / 400 := fun k =>
    ⟨Int.fdiv_eq_ediv_of_nonneg _ (by decide), Int.fdiv_eq_ediv_of_nonneg _ (by decide),
      Int.fdiv_eq_ediv_of_nonneg _ (by decide)⟩
  have hwhole : ((y : ℤ) + era * 400) / 400 = era := by omega
  have hinside : (y : ℤ) + era * 400 - era * 400 = y := Int.add_sub_cancel _ _
  have hfound : dayOfYear = (153 * month + 2) / 5 + (dayOfYear - (153 * month + 2) / 5) := by omega
  by_cases hlate : month < 10
  · have hback : ¬ month + 3 ≤ 2 := by omega
    simp only [if_pos hlate, if_neg hback, hshift, hwhole, hinside, Nat.add_sub_cancel]
    omega
  · have hback : month - 9 ≤ 2 := by omega
    have hmonths : month - 9 + 9 = month := by omega
    simp only [if_neg hlate, if_pos hback, hshift, Int.add_sub_cancel, hwhole, hinside, hmonths]
    omega

theorem ofDays_injective : Function.Injective ofDays := Function.LeftInverse.injective toDays_ofDays

end DocStore.CalendarDate
