import DocStore.Text.Base64
import Mathlib.Logic.Function.Basic
/-!
Bytes in base64 are read back from their text: each group of characters holds the bytes that it was made
from, and only the last group is filled up.
-/
namespace DocStore.Base64

theorem value?_digit {n : Nat} (h : n < 64) : value? (digit n) = some n := by
  have hdigits : ∀ k : Fin 64, value? (digit k) = some k.val := by decide
  exact hdigits ⟨n, h⟩

/-- What has no value is no digit. -/
theorem digit_ne {c : Char} (h : value? c = none) (n : Nat) : digit n ≠ c := by
  rintro rfl
  by_cases hn : n < 64
  · rw [value?_digit hn] at h
    contradiction
  · have hlast : digit n = digit 63 := by
      rw [digit, if_neg (by omega), if_neg (by omega), if_neg (by omega), if_neg (by omega)]
      rfl
    rw [hlast, value?_digit (by decide)] at h
    contradiction

section Groups

variable {a b c d : Nat} (ha : a < 64) (hb : b < 64)
include ha hb

/-- A group without a filling holds three bytes. -/
theorem decodeChars?_three (hc : c < 64) (hd : d < 64) (rest : List Char) :
    decodeChars? (digit a :: digit b :: digit c :: digit d :: rest) =
      (decodeChars? rest).map fun bytes =>
        UInt8.ofNat ((64 * (64 * (64 * a + b) + c) + d) / 65536) ::
          UInt8.ofNat ((64 * (64 * (64 * a + b) + c) + d) / 256 % 256) ::
          UInt8.ofNat ((64 * (64 * (64 * a + b) + c) + d) % 256) :: bytes := by
  rw [decodeChars?.eq_def]
  split
  · contradiction
  · rename_i heq
    simp only [List.cons.injEq] at heq
    exact absurd heq.2.2.2.1 (digit_ne rfl d)
  · rename_i heq
    simp only [List.cons.injEq] at heq
    exact absurd heq.2.2.2.1 (digit_ne rfl d)
  · rename_i heq
    simp only [List.cons.injEq] at heq
    obtain ⟨rfl, rfl, rfl, rfl, rfl⟩ := heq
    rw [value?_digit ha, value?_digit hb, value?_digit hc, value?_digit hd]
    cases decodeChars? rest <;> rfl
  · rename_i hno
    exact absurd rfl (hno _ _ _ _ _)

/-- A group with one filling holds two bytes. -/
theorem decodeChars?_two (hc : c < 64) (hfits : (64 * (64 * a + b) + c) % 4 = 0) :
    decodeChars? [digit a, digit b, digit c, '='] =
      some [UInt8.ofNat ((64 * (64 * a + b) + c) / 1024),
        UInt8.ofNat ((64 * (64 * a + b) + c) / 4 % 256)] := by
  rw [decodeChars?.eq_def]
  split
  · contradiction
  · rename_i heq
    simp only [List.cons.injEq] at heq
    exact absurd heq.2.2.1 (digit_ne rfl c)
  · rename_i heq
    simp only [List.cons.injEq] at heq
    obtain ⟨rfl, rfl, rfl, -⟩ := heq
    rw [value?_digit ha, value?_digit hb, value?_digit hc]
    exact if_pos hfits
  · rename_i hfilled heq
    simp only [List.cons.injEq] at heq
    obtain ⟨rfl, rfl, rfl, rfl, rfl⟩ := heq
    exact (hfilled rfl rfl).elim
  · rename_i hno
    exact absurd rfl (hno _ _ _ _ _)

/-- A group with two fillings holds one byte. -/
theorem decodeChars?_one (hfits : (64 * a + b) % 16 = 0) :
    decodeChars? [digit a, digit b, '=', '='] = some [UInt8.ofNat ((64 * a + b) / 16)] := by
  rw [decodeChars?.eq_2, value?_digit ha, value?_digit hb]
  exact if_pos hfits

end Groups

theorem decodeChars?_encodeChars (bytes : List UInt8) : decodeChars? (encodeChars bytes) = some bytes := by
  have hbyte {n : Nat} {a : UInt8} (h : n = a.toNat) : UInt8.ofNat n = a := by
    rw [h, UInt8.ofNat_toNat]
  induction bytes using encodeChars.induct with
  | case1 => rfl
  | case2 a =>
    have ha := a.toNat_lt
    rw [encodeChars, decodeChars?_one (by omega) (by omega) (by omega), hbyte (a := a) (by omega)]
  | case3 a b =>
    have ha := a.toNat_lt
    have hb := b.toNat_lt
    rw [encodeChars, decodeChars?_two (by omega) (by omega) (by omega) (by omega),
      hbyte (a := a) (by omega), hbyte (a := b) (by omega)]
  | case4 a b c rest ih =>
    have ha := a.toNat_lt
    have hb := b.toNat_lt
    have hc := c.toNat_lt
    rw [encodeChars, decodeChars?_three (by omega) (by omega) (by omega) (by omega), ih, Option.map_some,
      hbyte (a := a) (by omega), hbyte (a := b) (by omega), hbyte (a := c) (by omega)]

theorem encodeChars_injective : Function.Injective encodeChars := by
  intro bytes bytes' heq
  have hread := decodeChars?_encodeChars bytes
  rw [heq, decodeChars?_encodeChars] at hread
  exact (Option.some.inj hread).symm

theorem notMem_encodeChars {c : Char} (h : value? c = none) (hfilling : c ≠ '=') (bytes : List UInt8) :
    c ∉ encodeChars bytes := by
  induction bytes using encodeChars.induct with
  | case1 => exact List.not_mem_nil
  | case2 a => simp [encodeChars, (digit_ne h _).symm, hfilling]
  | case3 a b => simp [encodeChars, (digit_ne h _).symm, hfilling]
  | case4 a b d rest ih => simp [encodeChars, (digit_ne h _).symm, ih]

end DocStore.Base64
