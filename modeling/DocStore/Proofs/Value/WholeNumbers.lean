import DocStore.Value.Order
import Mathlib.Algebra.Group.Nat.Defs
/-!
Whole numbers as binary numbers. Rounding keeps the order of whole numbers: it can make two of them
equal, but never turns them around. A whole number below 2^53 in absolute value is equal to no other.
-/
namespace DocStore

namespace Binary64

variable {k l : Nat} {m n : Int}

theorem roundHalfEven_mono {num num' : Nat} (den : Nat) (h : num ≤ num') :
    roundHalfEven num den ≤ roundHalfEven num' den := by
  have hquotient : num / den ≤ num' / den := Nat.div_le_div_right h
  have hnum := Nat.div_add_mod num den
  have hnum' := Nat.div_add_mod num' den
  unfold roundHalfEven
  dsimp only
  by_cases heq : num / den = num' / den
  · rw [heq] at hnum ⊢
    split <;> split <;> omega
  · split <;> split <;> omega

theorem roundHalfEven_mul (q : Nat) {den : Nat} (h : 0 < den) : roundHalfEven (q * den) den = q := by
  unfold roundHalfEven
  simp only [Nat.mul_div_cancel q h, Nat.mul_mod_left]
  split <;> omega

theorem roundHalfEven_mul_mul (num den : Nat) {c : Nat} (h : 0 < c) :
    roundHalfEven (num * c) (den * c) = roundHalfEven num den := by
  unfold roundHalfEven
  simp only [Nat.mul_div_mul_right num den h, Nat.mul_mod_mul_right, ← Nat.mul_assoc,
    Nat.mul_lt_mul_right h, Nat.mul_right_cancel_iff h]

/-- The digits that are left of a whole number when it is rounded, of full width or one more. -/
def leadingDigits (k : Nat) : Nat := roundHalfEven (k * fullSignificand) (2 ^ k.log2)

theorem le_leadingDigits (h : k ≠ 0) : fullSignificand ≤ leadingDigits k := by
  have hle := Nat.mul_le_mul_right fullSignificand (Nat.log2_self_le h)
  rw [Nat.mul_comm] at hle
  have := roundHalfEven_mono (2 ^ k.log2) hle
  rwa [roundHalfEven_mul _ (Nat.two_pow_pos _)] at this

theorem leadingDigits_le (k : Nat) : leadingDigits k ≤ 2 * fullSignificand := by
  have hlt : k ≤ 2 * 2 ^ k.log2 := by
    have := Nat.lt_log2_self (n := k)
    rw [Nat.pow_succ] at this
    omega
  have hle := Nat.mul_le_mul_right fullSignificand hlt
  rw [Nat.mul_right_comm] at hle
  have := roundHalfEven_mono (2 ^ k.log2) hle
  rwa [roundHalfEven_mul _ (Nat.two_pow_pos _)] at this

/-- All digits are left of a number with no more than 53 of them. -/
theorem leadingDigits_eq (h : k.log2 ≤ 52) : leadingDigits k = k * 2 ^ (52 - k.log2) := by
  have hfull : fullSignificand = 2 ^ (52 - k.log2) * 2 ^ k.log2 := by
    rw [← Nat.pow_add, Nat.sub_add_cancel h]
    rfl
  rw [leadingDigits, hfull, ← Nat.mul_assoc, roundHalfEven_mul _ (Nat.two_pow_pos _)]

theorem log2_mul_two_pow (h : k ≠ 0) (n : Nat) : (k * 2 ^ n).log2 = k.log2 + n := by
  have hpos := Nat.two_pow_pos n
  obtain ⟨hle, hlt⟩ := (Nat.log2_eq_iff h).1 rfl
  refine (Nat.log2_eq_iff (Nat.mul_ne_zero h (Nat.ne_of_gt hpos))).2 ⟨?_, ?_⟩
  · rw [Nat.pow_add]
    exact Nat.mul_le_mul_right _ hle
  · rw [Nat.add_right_comm, Nat.pow_add]
    exact Nat.mul_lt_mul_of_pos_right hlt hpos

/-- A number is rounded to its leading digits. -/
theorem roundUnits_mul_two_pow (h : k ≠ 0) (n : Nat) : roundUnits (k * 2 ^ (n + 52)) 1 =
    min infinityMagnitude ((k.log2 + n) * fullSignificand + leadingDigits k) := by
  have hscale : (k * 2 ^ (n + 52) / 1).log2 - 52 = k.log2 + n := by
    rw [Nat.div_one, log2_mul_two_pow h]
    omega
  have hnum : k * 2 ^ (n + 52) = k * fullSignificand * 2 ^ n := by
    have hfull : fullSignificand = 2 ^ 52 := rfl
    rw [hfull, Nat.mul_assoc, ← Nat.pow_add, Nat.add_comm]
  rw [roundUnits, hscale, Nat.one_shiftLeft, hnum, Nat.pow_add,
    roundHalfEven_mul_mul _ _ (Nat.two_pow_pos n), leadingDigits]

theorem roundUnits_whole (h : k ≠ 0) : roundUnits (k * unit) 1 =
    min infinityMagnitude ((k.log2 + 1022) * fullSignificand + leadingDigits k) := by
  have hunit {exponent : Nat} (hexponent : exponent = 1074) : unit = 2 ^ exponent := by
    rw [unit, ← hexponent, Nat.one_shiftLeft]
  rw [@hunit (1022 + 52) rfl]
  exact roundUnits_mul_two_pow h 1022

theorem roundUnits_pos (h : k ≠ 0) : 0 < roundUnits (k * unit) 1 := by
  have hdigits := le_leadingDigits h
  rw [roundUnits_whole h]
  unfold infinityMagnitude fullSignificand at *
  omega

theorem roundUnits_le (num den : Nat) : roundUnits num den ≤ infinityMagnitude :=
  Nat.min_le_left _ _

theorem roundUnits_zero : roundUnits (0 * unit) 1 = 0 := by
  rw [Nat.zero_mul]
  rfl

/-- A number with more digits has the greater magnitude, whatever its digits are. -/
theorem roundUnits_mono (h : k ≤ l) : roundUnits (k * unit) 1 ≤ roundUnits (l * unit) 1 := by
  by_cases hk : k = 0
  · rw [hk, roundUnits_zero]
    exact Nat.zero_le _
  have hl : l ≠ 0 := by omega
  have hlog : k.log2 ≤ l.log2 := (Nat.le_log2 hl).2 (Nat.le_trans (Nat.log2_self_le hk) h)
  have hupper := leadingDigits_le k
  have hlower := le_leadingDigits hl
  have hsame : k.log2 = l.log2 → leadingDigits k ≤ leadingDigits l := by
    intro heq
    rw [leadingDigits, leadingDigits, heq]
    exact roundHalfEven_mono _ (Nat.mul_le_mul_right _ h)
  rw [roundUnits_whole hk, roundUnits_whole hl]
  unfold fullSignificand at *
  omega

/-- A number with no more than 53 digits has a smaller magnitude than all greater numbers. -/
theorem roundUnits_lt (h : k < l) (hk : k < 2 ^ 53) :
    roundUnits (k * unit) 1 < roundUnits (l * unit) 1 := by
  have hl : l ≠ 0 := by omega
  by_cases hzero : k = 0
  · rw [hzero, roundUnits_zero]
    exact roundUnits_pos hl
  have hlog : k.log2 ≤ l.log2 := (Nat.le_log2 hl).2 (Nat.le_trans (Nat.log2_self_le hzero) (by omega))
  have hdigits : k.log2 ≤ 52 := Nat.lt_succ_iff.1 ((Nat.log2_lt hzero).2 hk)
  have hexact := leadingDigits_eq hdigits
  have hpos := Nat.two_pow_pos (52 - k.log2)
  have hfewer : leadingDigits k < 2 * fullSignificand := by
    have hlt := Nat.mul_lt_mul_of_pos_right (Nat.lt_log2_self (n := k)) hpos
    rwa [← hexact, ← Nat.pow_add, show k.log2 + 1 + (52 - k.log2) = 53 by omega] at hlt
  have hlower := le_leadingDigits hl
  have hsame : k.log2 = l.log2 → leadingDigits k < leadingDigits l := by
    intro heq
    rw [hexact, leadingDigits_eq (heq ▸ hdigits), ← heq]
    exact Nat.mul_lt_mul_of_pos_right h hpos
  rw [roundUnits_whole hzero, roundUnits_whole hl]
  unfold infinityMagnitude fullSignificand at *
  omega

theorem orderKey_ofMagnitude {magnitude : Nat} (h : magnitude ≤ infinityMagnitude) (negative : Bool) :
    (ofMagnitude negative magnitude).orderKey =
      if negative then -(magnitude : Int) - 1 else magnitude := by
  have hword : (ofMagnitude negative magnitude).word =
      magnitude + if negative then signBit else 0 := by
    rw [word, ofMagnitude, UInt64.toNat_ofNat']
    apply Nat.mod_eq_of_lt
    unfold infinityMagnitude fullSignificand signBit at *
    split <;> omega
  rw [orderKey, Binary64.negative, Binary64.magnitude, hword]
  unfold infinityMagnitude fullSignificand signBit at *
  cases negative <;> simp <;> omega

theorem orderKey_ofInt (n : Int) : (ofInt n).orderKey =
    if n < 0 then -(roundUnits (n.natAbs * unit) 1 : Int) - 1
    else (roundUnits (n.natAbs * unit) 1 : Int) := by
  rw [ofInt, ofRatio, orderKey_ofMagnitude (roundUnits_le _ _)]
  simp only [decide_eq_true_eq]

theorem orderKey_ofInt_mono (h : m ≤ n) : (ofInt m).orderKey ≤ (ofInt n).orderKey := by
  rw [orderKey_ofInt, orderKey_ofInt]
  by_cases hn : n < 0
  · have := roundUnits_mono (k := n.natAbs) (l := m.natAbs) (by omega)
    rw [if_pos hn, if_pos (by omega)]
    omega
  · rw [if_neg hn]
    split
    · omega
    · have := roundUnits_mono (k := m.natAbs) (l := n.natAbs) (by omega)
      omega

theorem orderKey_ofInt_lt (h : m < n) (hexact : m.natAbs < 2 ^ 53 ∨ n.natAbs < 2 ^ 53) :
    (ofInt m).orderKey < (ofInt n).orderKey := by
  rw [orderKey_ofInt, orderKey_ofInt]
  by_cases hn : n < 0
  · have := roundUnits_lt (k := n.natAbs) (l := m.natAbs) (by omega) (by omega)
    rw [if_pos hn, if_pos (by omega)]
    omega
  · rw [if_neg hn]
    split
    · omega
    · have := roundUnits_lt (k := m.natAbs) (l := n.natAbs) (by omega) (by omega)
      omega

/-- A whole number of no more than 53 digits shares its binary number with no other. -/
theorem ofInt_inj (hn : n.natAbs < 2 ^ 53) : ofInt m = ofInt n ↔ m = n := by
  refine ⟨fun heq => Decidable.byContradiction fun hne => ?_, congrArg ofInt⟩
  have hkeys : (ofInt m).orderKey = (ofInt n).orderKey := congrArg orderKey heq
  rcases Int.lt_or_gt_of_ne hne with hlt | hgt
  · have := orderKey_ofInt_lt hlt (.inr hn)
    omega
  · have := orderKey_ofInt_lt hgt (.inl hn)
    omega

end Binary64

namespace Value

theorem compareNumbers_eq_iff (a b : Value) :
    compareNumbers a b = .eq ↔ a.toBinary64 = b.toBinary64 := by
  rw [compareNumbers, Std.compare_eq_iff_eq]
  exact ⟨Binary64.orderKey_injective, fun h => h ▸ rfl⟩

/-- Whole numbers are compared as they are, but for those that are rounded to the same number. -/
theorem compareNumbers_int64 (m n : Int64) : compareNumbers (.int64 m) (.int64 n) =
    if Binary64.ofInt m.toInt = Binary64.ofInt n.toInt then .eq
    else Ord.compare m.toInt n.toInt := by
  by_cases h : Binary64.ofInt m.toInt = Binary64.ofInt n.toInt
  · rw [if_pos h, compareNumbers_eq_iff]
    exact h
  rw [if_neg h]
  have hkeys : (Binary64.ofInt m.toInt).orderKey ≠ (Binary64.ofInt n.toInt).orderKey :=
    fun heq => h (Binary64.orderKey_injective heq)
  have hcompare : compareNumbers (.int64 m) (.int64 n) =
    Ord.compare (Binary64.ofInt m.toInt).orderKey (Binary64.ofInt n.toInt).orderKey := rfl
  rw [hcompare]
  rcases Int.lt_trichotomy m.toInt n.toInt with hlt | heq | hgt
  · have hle := Binary64.orderKey_ofInt_mono (Int.le_of_lt hlt)
    rw [Std.compare_eq_lt.2 hlt, Std.compare_eq_lt]
    omega
  · exact absurd (heq ▸ rfl) h
  · have hle := Binary64.orderKey_ofInt_mono (Int.le_of_lt hgt)
    rw [Std.compare_eq_gt.2 hgt, Std.compare_eq_gt]
    omega

end Value

end DocStore
