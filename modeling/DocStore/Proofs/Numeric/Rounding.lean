import DocStore.Numeric.Shortest
import DocStore.Proofs.Value.WholeNumbers
import Mathlib.Algebra.Order.Field.Power
import Mathlib.Data.Rat.Cast.Order
import Mathlib.Tactic.FieldSimp
import Mathlib.Tactic.Linarith
import Mathlib.Tactic.Positivity
import Mathlib.Tactic.Ring
/-!
Rounding to the nearest binary number. Every ratio in the interval around a finite number is rounded
to this number, and so is every decimal number in it, whatever its digits and its exponent are.
-/
namespace DocStore.Binary64

variable {x : Binary64} {num den m : ℕ}

/-- A quotient is rounded to a whole number that it is not further away from than a half, and nearer
than a half if the whole number is odd. -/
theorem roundHalfEven_eq (hden : 0 < den) (hlow : 2 * (m * den) ≤ 2 * num + den)
    (hhigh : 2 * num ≤ 2 * (m * den) + den)
    (hodd : m % 2 = 1 → 2 * (m * den) < 2 * num + den ∧ 2 * num < 2 * (m * den) + den) :
    roundHalfEven num den = m := by
  have hsplit := Nat.div_add_mod num den
  have hrest := Nat.mod_lt num hden
  rw [Nat.mul_comm] at hsplit
  -- the quotient is the whole number or the one before it
  have hle : num / den ≤ m := by
    by_contra hlt
    have := Nat.mul_le_mul_right den (Nat.lt_of_not_le hlt)
    rw [Nat.succ_mul] at this
    omega
  have hge : m ≤ num / den + 1 := by
    by_contra hlt
    have := Nat.mul_le_mul_right den (Nat.lt_of_not_le hlt)
    rw [Nat.succ_mul, Nat.succ_mul] at this
    omega
  unfold roundHalfEven
  rcases Nat.lt_or_eq_of_le hle with hlt | heq
  · have hm : m = num / den + 1 := by omega
    have hproduct : m * den = num / den * den + den := by rw [hm, Nat.succ_mul]
    dsimp only
    split <;> omega
  · rw [heq] at hsplit
    dsimp only
    rw [heq]
    split <;> omega

theorem magnitude_eq (x : Binary64) : x.magnitude = x.scale * fullSignificand + x.significand := by
  unfold scale significand scale fullSignificand
  omega

theorem significand_lt (x : Binary64) : x.significand < 2 * fullSignificand := by
  unfold significand scale fullSignificand
  omega

/-- Only the smallest numbers have a significand that is not of full width. -/
theorem le_significand (h : 0 < x.scale) : fullSignificand ≤ x.significand := by
  unfold significand scale fullSignificand at *
  omega

theorem scale_lt (h : x.isFinite = true) : x.scale < 2046 := by
  have hmagnitude : x.magnitude < infinityMagnitude := of_decide_eq_true h
  unfold infinityMagnitude scale fullSignificand at *
  omega

theorem significand_pos (h : x.isZero = false) : 0 < x.significand := by
  have hmagnitude : x.magnitude ≠ 0 := of_decide_eq_false h
  unfold significand scale fullSignificand at *
  omega

theorem units_eq (x : Binary64) : x.units = x.significand * 2 ^ x.scale := by
  rw [units, Nat.shiftLeft_eq]

theorem ofMagnitude_magnitude (x : Binary64) : ofMagnitude x.negative x.magnitude = x := by
  have hword := x.bits.toNat_lt
  have hbits : x.magnitude + (if x.negative then signBit else 0) = x.bits.toNat := by
    unfold negative magnitude word signBit
    simp only [decide_eq_true_eq]
    split <;> omega
  rw [ofMagnitude, hbits, UInt64.ofNat_toNat]

/-- Whether a ratio, four times as large, lies in an interval. -/
def Interval.Admits (i : Interval) (q : ℚ) : Prop :=
  if i.closed then i.low ≤ q ∧ q ≤ i.high else i.low < q ∧ q < i.high

theorem Interval.Admits.le {i : Interval} {q : ℚ} (h : i.Admits q) : i.low ≤ q ∧ q ≤ i.high := by
  unfold Admits at h
  split at h
  · exact h
  · exact ⟨h.1.le, h.2.le⟩

theorem Interval.Admits.lt {i : Interval} {q : ℚ} (h : i.Admits q) (hopen : i.closed = false) :
    i.low < q ∧ q < i.high := by
  rwa [Admits, if_neg (by rw [hopen]; decide)] at h

/-- The bounds of the interval as whole numbers. -/
theorem Interval.Admits.bounds {i : Interval} (hden : 0 < den) (h : i.Admits ((4 * num : ℕ) / (den : ℕ))) :
    i.low * den ≤ 4 * num ∧ 4 * num ≤ i.high * den ∧
      (i.closed = false → i.low * den < 4 * num ∧ 4 * num < i.high * den) := by
  have hden' : (0 : ℚ) < (den : ℕ) := by exact_mod_cast hden
  have hle := h.le
  rw [le_div_iff₀ hden', div_le_iff₀ hden'] at hle
  refine ⟨by exact_mod_cast hle.1, by exact_mod_cast hle.2, fun hopen => ?_⟩
  have hlt := h.lt hopen
  rw [lt_div_iff₀ hden', div_lt_iff₀ hden'] at hlt
  exact ⟨by exact_mod_cast hlt.1, by exact_mod_cast hlt.2⟩

/-- The scale of a ratio that lies between two powers of two. -/
theorem log2_of_binade {t step : ℕ} (hden : 0 < den) (hstep : step = den * 2 ^ t)
    (hlow : fullSignificand * step ≤ num) (hhigh : num < 2 * (fullSignificand * step)) :
    (num / den).log2 = 52 + t := by
  have hle : 2 ^ (52 + t) ≤ num / den := by
    rwa [Nat.le_div_iff_mul_le hden, Nat.pow_add, Nat.mul_assoc, Nat.mul_comm (2 ^ t), ← hstep]
  have hlt : num / den < 2 ^ (52 + t + 1) := by
    rwa [Nat.div_lt_iff_lt_mul hden, Nat.pow_succ', Nat.pow_add, Nat.mul_assoc, Nat.mul_assoc,
      Nat.mul_comm (2 ^ t), ← hstep]
  have hne : num / den ≠ 0 := Nat.ne_of_gt (Nat.lt_of_lt_of_le (Nat.two_pow_pos _) hle)
  exact (Nat.log2_eq_iff hne).2 ⟨hle, hlt⟩

/-- The scale of all ratios below is that of the smallest numbers, which lie one unit apart. -/
theorem scale_of_smallest (hden : 0 < den) (h : num < 2 ^ 53 * den) : (num / den).log2 - 52 = 0 := by
  have hlog : (num / den).log2 < 53 := by
    rcases Nat.eq_zero_or_pos (num / den) with hnone | hsome
    · rw [hnone]
      decide
    · exact (Nat.log2_lt (Nat.ne_of_gt hsome)).2 ((Nat.div_lt_iff_lt_mul hden).2 h)
  omega

/-- A ratio that has the scale of a number and is nearest to its significand is rounded to it. -/
theorem roundUnits_of_scale (hfinite : x.isFinite = true) (hscale : (num / den).log2 - 52 = x.scale)
    (hround : roundHalfEven num (den * 2 ^ x.scale) = x.significand) :
    roundUnits num den = x.magnitude := by
  have hmagnitude : x.magnitude < infinityMagnitude := of_decide_eq_true hfinite
  rw [roundUnits, hscale, Nat.shiftLeft_eq, hround, ← magnitude_eq, Nat.min_eq_right hmagnitude.le]

theorem interval_high (x : Binary64) :
    x.interval.high = (4 * x.significand + 2) * 2 ^ x.scale := by
  rw [interval, units_eq, Nat.one_shiftLeft]
  ring

theorem interval_closed (x : Binary64) : x.interval.closed = (x.significand % 2 == 0) := rfl

/-- The interval ends half a unit of the last place below the number, but a quarter below a power of
two, where the numbers become denser. -/
theorem interval_low (hzero : x.isZero = false) : x.interval.low + (if x.significand = fullSignificand ∧
    0 < x.scale then 1 else 2) * 2 ^ x.scale = 4 * x.significand * 2 ^ x.scale := by
  have hpos := significand_pos hzero
  have hscale := Nat.two_pow_pos x.scale
  have hle : 1 * 2 ^ x.scale ≤ x.significand * 2 ^ x.scale := Nat.mul_le_mul_right _ hpos
  rw [interval, units_eq, Nat.one_shiftLeft, Nat.mul_assoc 4]
  dsimp only
  split <;> omega

/-- The interval in parts of the denominator: its ends, as far from the number as they can be, and the
lower one at a power of two. -/
theorem bounds_of_admits {step : ℕ} (hstep : step = den * 2 ^ x.scale) (hzero : x.isZero = false)
    (hden : 0 < den) (h : x.interval.Admits ((4 * num : ℕ) / (den : ℕ))) :
    2 * (x.significand * step) ≤ 2 * num + step ∧ 2 * num ≤ 2 * (x.significand * step) + step ∧
      (x.significand % 2 = 1 → 2 * (x.significand * step) < 2 * num + step ∧
        2 * num < 2 * (x.significand * step) + step) ∧
      (x.significand = fullSignificand → 0 < x.scale →
        4 * (x.significand * step) ≤ 4 * num + step) := by
  obtain ⟨hlow, hhigh, hopen⟩ := h.bounds hden
  have hbelow := congrArg (· * den) (interval_low hzero)
  have hproduct : 4 * x.significand * 2 ^ x.scale * den = 4 * (x.significand * step) := by
    rw [hstep]
    ring
  have hhighEnd : x.interval.high * den = 4 * (x.significand * step) + 2 * step := by
    rw [interval_high, hstep]
    ring
  have hlowEnd (parts : ℕ) : (x.interval.low + parts * 2 ^ x.scale) * den =
      x.interval.low * den + parts * step := by
    rw [hstep]
    ring
  rw [hproduct, hlowEnd] at hbelow
  rw [hhighEnd] at hhigh hopen
  rw [interval_closed, beq_eq_false_iff_ne] at hopen
  refine ⟨?_, by omega, fun hodd => ?_, fun hfull hscale => ?_⟩
  · split at hbelow <;> omega
  · have hlt := hopen (by omega)
    rw [if_neg fun hfull => absurd hodd (by rw [hfull.1]; decide)] at hbelow
    omega
  · rw [if_pos ⟨hfull, hscale⟩] at hbelow
    omega

/-- Below a power of two the numbers are twice as dense, and a ratio that is near to the power is rounded
up to it. -/
theorem roundUnits_below_power {t half : ℕ} (hden : 0 < den) (hhalf : half = den * 2 ^ t)
    (hclose : 8 * (fullSignificand * half) ≤ 4 * num + 2 * half)
    (hbelow : num < 2 * (fullSignificand * half)) :
    roundUnits num den = min infinityMagnitude (t * fullSignificand + 2 * fullSignificand) := by
  have hpos : 0 < half := hhalf ▸ Nat.mul_pos hden (Nat.two_pow_pos _)
  have hlog : (num / den).log2 = 52 + t := by
    refine log2_of_binade hden hhalf ?_ hbelow
    unfold fullSignificand at *
    omega
  have hround : roundHalfEven num half = 2 * fullSignificand := by
    unfold fullSignificand at *
    refine roundHalfEven_eq hpos (by omega) (by omega) fun hodd => ?_
    exact absurd hodd (by decide)
  rw [roundUnits, hlog, Nat.add_sub_cancel_left, Nat.shiftLeft_eq, ← hhalf, hround]

/-- All that lies in the interval around a number is rounded to it. -/
theorem roundUnits_of_admits (hfinite : x.isFinite = true) (hzero : x.isZero = false) (hden : 0 < den)
    (h : x.interval.Admits ((4 * num : ℕ) / (den : ℕ))) : roundUnits num den = x.magnitude := by
  obtain ⟨step, hstep⟩ : ∃ step, step = den * 2 ^ x.scale := ⟨_, rfl⟩
  obtain ⟨hlow, hhigh, hodd, hpower⟩ := bounds_of_admits hstep hzero hden h
  have hpos : 0 < step := hstep ▸ Nat.mul_pos hden (Nat.two_pow_pos _)
  have hdigits : x.significand * step + step ≤ 2 ^ 53 * step := by
    rw [← Nat.succ_mul]
    exact Nat.mul_le_mul_right _ x.significand_lt
  have hround : roundHalfEven num (den * 2 ^ x.scale) = x.significand := by
    rw [← hstep]
    exact roundHalfEven_eq hpos hlow hhigh hodd
  by_cases hscale : x.scale = 0
  · have hfew : num < 2 ^ 53 * den := by
      rw [hscale, Nat.pow_zero, Nat.mul_one] at hstep
      rw [← hstep]
      omega
    exact roundUnits_of_scale hfinite ((scale_of_smallest hden hfew).trans hscale.symm) hround
  have hwide := le_significand (Nat.pos_of_ne_zero hscale)
  by_cases hbinade : fullSignificand * step ≤ num
  · have hbelow : num < 2 * (fullSignificand * step) := by
      unfold fullSignificand
      omega
    refine roundUnits_of_scale hfinite ?_ hround
    rw [log2_of_binade hden hstep hbinade hbelow, Nat.add_sub_cancel_left]
  · -- below its power of two the number has neighbours of the next smaller scale
    have hm : x.significand = fullSignificand := by
      by_contra hne
      have hmore := Nat.mul_le_mul_right step (show fullSignificand + 1 ≤ x.significand by omega)
      rw [Nat.succ_mul] at hmore
      omega
    obtain ⟨t, ht⟩ := Nat.exists_eq_add_one_of_ne_zero hscale
    have hdouble : step = 2 * (den * 2 ^ t) := by
      rw [hstep, ht, Nat.pow_succ]
      ring
    have hclose := hpower hm (Nat.pos_of_ne_zero hscale)
    have hmagnitude : x.magnitude < infinityMagnitude := of_decide_eq_true hfinite
    have hsame : t * fullSignificand + 2 * fullSignificand = x.magnitude := by
      rw [magnitude_eq, hm, ht]
      ring
    rw [hm, hdouble] at hclose
    rw [hdouble] at hbinade
    unfold fullSignificand at hclose hbinade
    rw [roundUnits_below_power (t := t) hden rfl, hsame, Nat.min_eq_right hmagnitude.le]
    · unfold fullSignificand
      omega
    · unfold fullSignificand
      omega

section Decimals

variable {k : ℕ} {e : ℤ}

/-- The interval around a number is away from zero and no wider than its scale lets it be. -/
theorem Interval.Admits.range {q : ℚ} (hzero : x.isZero = false) (h : x.interval.Admits q) :
    2 ≤ q ∧ q ≤ 2 ^ (55 + x.scale) := by
  obtain ⟨hlow, hhigh⟩ := h.le
  have hpos := significand_pos hzero
  have hlowEnd : 2 ≤ x.interval.low := by
    have hbelow := interval_low hzero
    have hpow : 1 ≤ 2 ^ x.scale := Nat.one_le_two_pow
    have hscaled : 2 ^ x.scale ≤ x.significand * 2 ^ x.scale := Nat.le_mul_of_pos_left _ hpos
    rw [Nat.mul_assoc] at hbelow
    split at hbelow <;> omega
  have hhighEnd : x.interval.high ≤ 2 ^ (55 + x.scale) := by
    have hdigits : 4 * x.significand + 2 ≤ 2 ^ 55 := by
      have := x.significand_lt
      unfold fullSignificand at this
      omega
    rw [interval_high, Nat.pow_add]
    exact Nat.mul_le_mul_right _ hdigits
  constructor
  · exact le_trans (by exact_mod_cast hlowEnd) hlow
  · exact le_trans hhigh (by exact_mod_cast hhighEnd)

-- The number of units in one is not to be computed, so its exponent is a variable here.
theorem exists_unit_eq : ∃ t : ℤ, t = 1074 ∧ (unit : ℚ) = 2 ^ t := by
  have hunit {exponent : ℕ} (h : exponent = 1074) : (unit : ℚ) = 2 ^ (exponent : ℤ) := by
    rw [unit, ← h, Nat.one_shiftLeft, zpow_natCast]
    push_cast
    rfl
  exact ⟨(1074 : ℕ), rfl, hunit rfl⟩

theorem unit_pos : 0 < unit := by
  have hpos {exponent : ℕ} : 0 < 1 <<< exponent := by
    rw [Nat.one_shiftLeft]
    exact Nat.two_pow_pos _
  exact hpos

theorem le_zpow_ten (n : ℕ) : (2 : ℚ) ^ (3 * n : ℤ) ≤ 10 ^ (n : ℤ) := by
  rw [zpow_mul, zpow_natCast, zpow_natCast]
  exact pow_le_pow_left₀ (by positivity) (by norm_num) n

theorem exponents_le {q : ℚ} {t : ℤ} {n top : ℕ} (hq : 1 ≤ q)
    (h : 4 * 2 ^ t * (q * 10 ^ (n : ℤ)) ≤ 2 ^ top) : 2 + t + 3 * n ≤ top := by
  have hle : (2 : ℚ) ^ (2 + t + 3 * n) ≤ 2 ^ (top : ℤ) := by
    calc (2 : ℚ) ^ (2 + t + 3 * n) = 4 * 2 ^ t * 2 ^ (3 * n : ℤ) := by
          rw [zpow_add₀ (by norm_num), zpow_add₀ (by norm_num)]
          norm_num
      _ ≤ 4 * 2 ^ t * (q * 10 ^ (n : ℤ)) := by
          have hpower := le_zpow_ten n
          have hmore := le_mul_of_one_le_left (by positivity : (0 : ℚ) ≤ 10 ^ (n : ℤ)) hq
          exact mul_le_mul_of_nonneg_left (hpower.trans hmore) (by positivity)
      _ ≤ 2 ^ top := h
      _ = 2 ^ (top : ℤ) := (zpow_natCast _ _).symm
  exact (zpow_le_zpow_iff_right₀ (by norm_num : (1 : ℚ) < 2)).1 hle

theorem lt_exponents {q : ℚ} {t : ℤ} {n top : ℕ} (hq : q < 2 ^ top)
    (h : 2 ≤ 4 * 2 ^ t * (q / 10 ^ (n : ℤ))) (hpos : 0 ≤ q) : 1 < 2 + t + top - 3 * n := by
  have hpower := le_zpow_ten n
  have hlt : (2 : ℚ) ^ (1 : ℤ) < 2 ^ (2 + t + top - 3 * n : ℤ) := by
    calc (2 : ℚ) ^ (1 : ℤ) ≤ 4 * 2 ^ t * (q / 10 ^ (n : ℤ)) := by simpa using h
      _ ≤ 4 * 2 ^ t * (q / 2 ^ (3 * n : ℤ)) := by gcongr
      _ < 4 * 2 ^ t * (2 ^ top / 2 ^ (3 * n : ℤ)) := by gcongr
      _ = 2 ^ (2 + t + top - 3 * n : ℤ) := by
          rw [zpow_sub₀ (by norm_num), zpow_add₀ (by norm_num), zpow_add₀ (by norm_num), zpow_natCast]
          norm_num
          ring
  exact (zpow_lt_zpow_iff_right₀ (by norm_num : (1 : ℚ) < 2)).1 hlt

/-- A decimal number in the interval around a number is not too large for a finite number, -/
theorem exponent_le (hfinite : x.isFinite = true) (hzero : x.isZero = false) (hk : k ≠ 0)
    (h : x.interval.Admits (4 * unit * (k * 10 ^ e))) : e ≤ 400 := by
  by_contra hlarge
  obtain ⟨n, rfl⟩ := Int.eq_ofNat_of_zero_le (show 0 ≤ e by omega)
  obtain ⟨t, ht, hunit⟩ := exists_unit_eq
  have hscale := scale_lt hfinite
  have hrange := (h.range hzero).2
  rw [hunit] at hrange
  have hexponents := exponents_le (by exact_mod_cast Nat.one_le_iff_ne_zero.2 hk) hrange
  omega

/-- nor too small for one that is not zero. -/
theorem le_places (hzero : x.isZero = false)
    (h : x.interval.Admits (4 * unit * (k * 10 ^ e))) : -400 ≤ (Nat.log2 k / 3 : ℤ) + 1 + e := by
  by_contra hsmall
  obtain ⟨n, hn⟩ := Int.eq_ofNat_of_zero_le (show 0 ≤ -e by omega)
  obtain ⟨t, ht, hunit⟩ := exists_unit_eq
  have hk : k < 2 ^ (k.log2 + 1) := Nat.lt_log2_self
  have hrange := (h.range hzero).1
  rw [hunit, show e = -(n : ℤ) by omega, zpow_neg, ← div_eq_mul_inv] at hrange
  have hexponents := lt_exponents (by exact_mod_cast hk) hrange k.cast_nonneg
  omega

/-- A decimal number is rounded to the number in whose interval it lies. -/
theorem ofDecimal_of_admits (hfinite : x.isFinite = true) (hzero : x.isZero = false)
    (h : x.interval.Admits (4 * unit * (k * 10 ^ e))) : ofDecimal x.negative k e = x := by
  have hk : k ≠ 0 := by
    rintro rfl
    have := (h.range hzero).1
    norm_num at this
  have hlarge := exponent_le hfinite hzero hk h
  have hsmall := le_places hzero h
  unfold ofDecimal
  dsimp only
  rw [if_neg hk, if_neg (by omega), if_neg (by omega)]
  split
  · rename_i hsign
    obtain ⟨n, rfl⟩ := Int.eq_ofNat_of_zero_le hsign
    rw [Int.toNat_natCast, ofRatio, roundUnits_of_admits hfinite hzero Nat.one_pos, ofMagnitude_magnitude]
    convert h using 1
    push_cast
    rw [zpow_natCast, Nat.pow_eq]
    push_cast
    ring
  · rename_i hsign
    obtain ⟨n, hn⟩ := Int.eq_ofNat_of_zero_le (show 0 ≤ -e by omega)
    have hpos : 0 < Nat.pow 10 n := Nat.pow_pos (by decide)
    rw [hn, Int.toNat_natCast, ofRatio, roundUnits_of_admits hfinite hzero hpos, ofMagnitude_magnitude]
    convert h using 1
    rw [show e = -(n : ℤ) by omega, zpow_neg, zpow_natCast, Nat.pow_eq]
    push_cast
    ring

end Decimals

end DocStore.Binary64
