import DocStore.Numeric.Reading
import DocStore.Proofs.Numeric.Rounding
import Mathlib.Data.List.DropRight
/-!
The shortest digits of a finite number lie in its interval. The search looks at coarser and finer grids
in turn, and what it finds is a point of the interval; on the last grid a point below the number is as
near to it as the interval asks for.
-/
namespace DocStore

namespace DecimalDigits

/-- The number that the digits stand for. -/
def value (d : DecimalDigits) : ℚ :=
  Reading.natOfDigits d.digits * 10 ^ (d.point - d.digits.length)

end DecimalDigits

namespace Reading

theorem natOfDigits_append (cs ds : List Char) :
    natOfDigits (cs ++ ds) = ds.foldl (fun n c => 10 * n + digitValue c) (natOfDigits cs) :=
  List.foldl_append

theorem natOfDigits_toDigits (n : ℕ) : natOfDigits (Nat.toDigits 10 n) = n :=
  Nat.ofDigitChars_ten_toDigits

/-- Zeros at the end are a power of ten. -/
theorem natOfDigits_zeros (cs : List Char) (n : ℕ) :
    natOfDigits (cs ++ List.replicate n '0') = natOfDigits cs * 10 ^ n := by
  rw [natOfDigits_append, Nat.mul_comm]
  exact Nat.ofDigitChars_replicate_zero

/-- Zeros in front stand for nothing. -/
theorem natOfDigits_zeros_append (n : ℕ) (cs : List Char) :
    natOfDigits (List.replicate n '0' ++ cs) = natOfDigits cs := by
  have hzero : natOfDigits (List.replicate n '0') = 0 := by
    have h := natOfDigits_zeros [] n
    rwa [List.nil_append, show natOfDigits [] = 0 from rfl, Nat.zero_mul] at h
  rw [natOfDigits_append, hzero]
  rfl

end Reading

namespace Binary64

open searchDigits (gridNum gridDen normalise searchGrid)

variable {x : Binary64} {i : Interval} {tie : Tie} {top : ℤ} {num den c : ℕ}

theorem exists_zeros (cs : List Char) :
    ∃ n, cs = (cs.reverse.dropWhile (· == '0')).reverse ++ List.replicate n '0' := by
  refine ⟨(cs.reverse.takeWhile (· == '0')).length, ?_⟩
  have hzeros : cs.reverse.takeWhile (· == '0') =
      List.replicate (cs.reverse.takeWhile (· == '0')).length '0' :=
    List.eq_replicate_iff.2 ⟨rfl, fun c hc => by simpa using List.mem_takeWhile_imp hc⟩
  rw [← List.reverse_inj, List.reverse_append, List.reverse_replicate, List.reverse_reverse, ← hzeros,
    List.takeWhile_append_dropWhile]

/-- Zeros at the end are left out without a change of the number. -/
theorem value_normalise (top : ℤ) (c precision : ℕ) :
    (normalise top c precision).value = c * 10 ^ (top - precision) := by
  obtain ⟨zeros, hzeros⟩ := exists_zeros (Nat.toDigits 10 c)
  obtain ⟨digits, hdigits⟩ : ∃ digits,
      ((Nat.toDigits 10 c).reverse.dropWhile (· == '0')).reverse = digits := ⟨_, rfl⟩
  rw [hdigits] at hzeros
  have hlength := congrArg List.length hzeros
  rw [List.length_append, List.length_replicate] at hlength
  have hc : c = Reading.natOfDigits digits * 10 ^ zeros := by
    rw [← Reading.natOfDigits_zeros, ← hzeros, Reading.natOfDigits_toDigits]
  rw [DecimalDigits.value, normalise, hdigits, hlength, hc]
  push_cast
  rw [mul_assoc, ← zpow_natCast, ← zpow_add₀ (by norm_num)]
  congr 2
  ring

/-- The grid of a precision, in the units of the interval. -/
theorem grid_eq (top : ℤ) (c precision : ℕ) :
    4 * unit * (c * 10 ^ (top - precision)) =
      ((c * gridNum top precision : ℕ) / (gridDen top precision : ℕ) : ℚ) := by
  rw [gridNum, gridDen, Nat.pow_eq, Nat.pow_eq]
  rcases Int.le_total precision top with hle | hle
  · obtain ⟨n, hn⟩ := Int.eq_ofNat_of_zero_le (show 0 ≤ top - precision by omega)
    rw [show ((precision : ℤ) - top).toNat = 0 by omega, hn, Int.toNat_natCast, zpow_natCast]
    push_cast
    ring
  · obtain ⟨n, hn⟩ := Int.eq_ofNat_of_zero_le (show 0 ≤ (precision : ℤ) - top by omega)
    rw [show (top - (precision : ℤ)).toNat = 0 by omega, hn, Int.toNat_natCast,
      show top - (precision : ℤ) = -(n : ℤ) by omega, zpow_neg, zpow_natCast]
    push_cast
    ring

theorem gridNum_pos (top : ℤ) (precision : ℕ) : 0 < gridNum top precision :=
  Nat.mul_pos (Nat.mul_pos (by decide) unit_pos) (Nat.pow_pos (by decide))

theorem gridDen_pos (top : ℤ) (precision : ℕ) : 0 < gridDen top precision := Nat.pow_pos (by decide)

/-- Coordinates may be scaled to whole numbers. -/
theorem contains_scaled (i : Interval) (value point : ℕ) (hden : 0 < den) :
    ({ i with low := i.low * den, value, high := i.high * den } : Interval).contains point = true ↔
      i.Admits ((point : ℕ) / (den : ℕ)) := by
  have hden' : (0 : ℚ) < (den : ℕ) := by exact_mod_cast hden
  unfold Interval.contains Interval.Admits
  dsimp only
  cases i.closed with
  | true =>
    rw [if_pos rfl, if_pos rfl, decide_eq_true_eq, le_div_iff₀ hden', div_le_iff₀ hden']
    exact_mod_cast Iff.rfl
  | false =>
    rw [if_neg (by decide), if_neg (by decide), decide_eq_true_eq, lt_div_iff₀ hden', div_lt_iff₀ hden']
    exact_mod_cast Iff.rfl

/-- A point of the grid that is chosen lies in the interval. -/
theorem admits_of_choose (hden : 0 < den) (h : i.choose tie num den = some c) :
    i.Admits ((c * num : ℕ) / (den : ℕ)) := by
  rw [← contains_scaled i (i.value * den) _ hden]
  obtain ⟨floor, hfloor⟩ : ∃ floor, floor = i.value * den / num := ⟨_, rfl⟩
  unfold Interval.choose at h
  dsimp only at h
  rw [← hfloor, ← Nat.succ_mul] at h
  split at h
  · rename_i hdown hup
    have hdown := (Bool.and_eq_true_iff.1 hdown).1
    split at h
    · exact Option.some.inj h ▸ hdown
    · split at h
      · exact Option.some.inj h ▸ hup
      · split at h
        · exact Option.some.inj h ▸ hdown
        · exact Option.some.inj h ▸ hup
  · rename_i hdown hup
    exact Option.some.inj h ▸ (Bool.and_eq_true_iff.1 hdown).1
  · rename_i hdown hup
    exact Option.some.inj h ▸ hup
  · cases h

/-- The digits that are found stand for a point of the interval, if the point of the last grid that is
taken without a test is one. -/
theorem admits_searchDigits {fuel precision : ℕ}
    (hlast : i.Admits (4 * unit * (searchGrid i top (precision + fuel)).value)) :
    i.Admits (4 * unit * (searchDigits i tie top fuel precision).value) := by
  induction fuel generalizing precision with
  | zero => exact hlast
  | succ fuel ih =>
    unfold searchDigits
    split
    · rename_i c hchoose
      rw [value_normalise, grid_eq]
      exact admits_of_choose (gridDen_pos top precision) hchoose
    · exact ih (by rwa [Nat.add_right_comm, Nat.add_assoc])

theorem lt_pow_length (n : ℕ) : n < 10 ^ (Nat.toDigits 10 n).length :=
  (Nat.length_toDigits_le_iff (by decide) Nat.length_toDigits_pos).1 (Nat.le_refl _)

theorem pow_length_le {n : ℕ} (h : n ≠ 0) : 10 ^ ((Nat.toDigits 10 n).length - 1) ≤ n := by
  obtain ⟨length, hlength⟩ : ∃ length, length = (Nat.toDigits 10 n).length := ⟨_, rfl⟩
  rw [← hlength]
  by_cases hone : length - 1 = 0
  · rw [hone, Nat.pow_zero]
    exact Nat.one_le_iff_ne_zero.2 h
  · by_contra hlt
    have hshort := (Nat.length_toDigits_le_iff (by decide) (Nat.pos_of_ne_zero hone)).2
      (Nat.lt_of_not_le hlt)
    omega

theorem units_pos (hzero : x.isZero = false) : 0 < x.units := by
  rw [units_eq]
  exact Nat.mul_pos (significand_pos hzero) (Nat.two_pow_pos _)

/-- No power of ten below the leading place is greater than the number. -/
theorem topPlace_le (hzero : x.isZero = false) : (unit : ℚ) * 10 ^ (x.topPlace - 1) ≤ x.units := by
  have hpos := units_pos hzero
  have hunit := unit_pos
  unfold topPlace
  dsimp only
  split
  · rename_i hlarge
    have hquotient : x.units / unit ≠ 0 := Nat.ne_of_gt (Nat.div_pos hlarge hunit)
    obtain ⟨n, hn⟩ := Nat.exists_eq_add_one.2 (Nat.length_toDigits_pos (b := 10) (n := x.units / unit))
    have hpower := pow_length_le hquotient
    rw [hn, Nat.add_sub_cancel] at hpower
    have hle : unit * 10 ^ n ≤ x.units :=
      Nat.le_trans (Nat.mul_le_mul_left _ hpower) (Nat.mul_div_le _ _)
    rw [hn, Nat.cast_succ, add_sub_cancel_right, zpow_natCast]
    exact_mod_cast hle
  · obtain ⟨n, hn⟩ := Nat.exists_eq_add_one.2 (Nat.length_toDigits_pos (b := 10) (n := unit / x.units))
    have hpower := lt_pow_length (unit / x.units)
    rw [hn] at hpower ⊢
    rw [Nat.add_sub_cancel, Nat.pow_eq]
    split
    · rename_i hexact
      rw [show -((n + 1 : ℕ) : ℤ) + 2 - 1 = -(n : ℤ) by push_cast; ring, zpow_neg, zpow_natCast,
        ← div_eq_mul_inv, div_le_iff₀ (by positivity), mul_comm]
      exact_mod_cast hexact.le
    · rw [Nat.div_lt_iff_lt_mul hpos] at hpower
      rw [show -((n + 1 : ℕ) : ℤ) + 1 - 1 = -((n + 1 : ℕ) : ℤ) by ring, zpow_neg, zpow_natCast,
        ← div_eq_mul_inv, div_le_iff₀ (by positivity), mul_comm]
      exact_mod_cast hpower.le

/-- What is less than a quarter of a unit of the last place below the number is in the interval. -/
theorem admits_of_near {q : ℚ} (hzero : x.isZero = false) (hle : q ≤ x.interval.value)
    (hnear : x.interval.value < q + 2 ^ x.scale) : x.interval.Admits q := by
  have hvalue : x.interval.value = 4 * x.significand * 2 ^ x.scale := by
    rw [interval, units_eq, Nat.mul_assoc]
  have hscale : (0 : ℚ) < 2 ^ x.scale := by positivity
  have hlow : (x.interval.low : ℚ) + 2 ^ x.scale ≤ x.interval.value := by
    have hbelow := interval_low hzero
    rw [← hvalue] at hbelow
    have hstep : x.interval.low + 2 ^ x.scale ≤ x.interval.value := by
      split at hbelow <;> omega
    exact_mod_cast hstep
  have hhigh : (x.interval.value : ℚ) + 2 ^ x.scale ≤ x.interval.high := by
    have hstep : x.interval.value + 2 ^ x.scale ≤ x.interval.high := by
      rw [hvalue, interval_high, Nat.add_mul]
      omega
    exact_mod_cast hstep
  unfold Interval.Admits
  split
  · constructor <;> linarith
  · constructor <;> linarith

/-- The points of the grid of 21 digits lie nearer together than a quarter of the last place. -/
theorem admits_searchGrid (hzero : x.isZero = false) :
    x.interval.Admits (4 * unit * (searchGrid x.interval x.topPlace 21).value) := by
  have hnum : (0 : ℚ) < gridNum x.topPlace 21 := by exact_mod_cast gridNum_pos _ _
  have hden : (0 : ℚ) < gridDen x.topPlace 21 := by exact_mod_cast gridDen_pos _ _
  obtain ⟨c, hc⟩ : ∃ c, c = x.interval.value * gridDen x.topPlace 21 / gridNum x.topPlace 21 := ⟨_, rfl⟩
  have hstep : ((gridNum x.topPlace 21 : ℕ) / (gridDen x.topPlace 21 : ℕ) : ℚ) < 2 ^ x.scale := by
    have hgrid := grid_eq x.topPlace 1 21
    have hplace := topPlace_le hzero
    have hdigits : (x.units : ℚ) ≤ 2 ^ 53 * 2 ^ x.scale := by
      rw [units_eq]
      have := Nat.mul_le_mul_right (2 ^ x.scale) x.significand_lt.le
      exact_mod_cast this
    rw [Nat.one_mul, Nat.cast_one, one_mul] at hgrid
    have hscale : (0 : ℚ) < 2 ^ x.scale := by positivity
    calc ((gridNum x.topPlace 21 : ℕ) / (gridDen x.topPlace 21 : ℕ) : ℚ)
        = 4 * (unit * 10 ^ (x.topPlace - 1)) / 10 ^ 20 := by
          rw [← hgrid, show x.topPlace - ((21 : ℕ) : ℤ) = x.topPlace - 1 - (20 : ℕ) by push_cast; ring,
            zpow_sub₀ (by norm_num), zpow_natCast]
          ring
      _ ≤ 4 * (2 ^ 53 * 2 ^ x.scale) / 10 ^ 20 :=
          div_le_div_of_nonneg_right (mul_le_mul_of_nonneg_left (hplace.trans hdigits) (by norm_num))
            (by norm_num)
      _ < 2 ^ x.scale := by linarith
  rw [searchGrid, value_normalise, grid_eq, ← hc]
  refine admits_of_near hzero ?_ ?_
  · rw [div_le_iff₀ hden]
    have hle := Nat.div_mul_le_self (x.interval.value * gridDen x.topPlace 21) (gridNum x.topPlace 21)
    rw [← hc] at hle
    exact_mod_cast hle
  · have hlt := Nat.lt_div_mul_add (a := x.interval.value * gridDen x.topPlace 21) (gridNum_pos x.topPlace 21)
    rw [← hc] at hlt
    have hlt' : (x.interval.value : ℚ) < ((c * gridNum x.topPlace 21 : ℕ) / (gridDen x.topPlace 21 : ℕ) : ℚ) +
        (gridNum x.topPlace 21 : ℕ) / (gridDen x.topPlace 21 : ℕ) := by
      rw [← add_div, lt_div_iff₀ hden]
      exact_mod_cast hlt
    linarith

/-- The shortest digits stand for a number that is rounded to the one they are of. -/
theorem admits_shortest (tie : Tie) (hzero : x.isZero = false) :
    x.interval.Admits (4 * unit * (x.shortest tie).value) := by
  rw [shortest, if_neg (by rw [hzero]; decide)]
  exact admits_searchDigits (admits_searchGrid hzero)

end Binary64

end DocStore
