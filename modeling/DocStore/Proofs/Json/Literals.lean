import DocStore.Json.Reader
import DocStore.Json.Writer
import DocStore.Proofs.Text.Hex
import Mathlib.Data.List.TakeDrop
/-!
Strings and whole numbers in JSON text. Each character of a string is written in one of three ways,
as it is, by a letter or by its code, and the reader takes the same step for all of them. A whole
number is read up to the first character that cannot belong to it.
-/
namespace DocStore.Json

section Strings

variable {fuel : Nat} {done : List Char} {c : Char}

theorem codeUnit?_fixed (h : c.toNat < 32) (rest : List Char) :
    codeUnit? (Hex.fixed 4 c.toNat ++ rest) = some (c.toNat, rest) := by
  have hnumber : Hex.number? (Hex.fixed 4 c.toNat) = some c.toNat := by
    rw [Hex.number?_fixed, Nat.mod_eq_of_lt (Nat.lt_trans h (by decide))]
  change (Hex.number? (Hex.fixed 4 c.toNat)).map (·, rest) = _
  rw [hnumber]
  rfl

/-- A control character that has no letter of its own is read from its code. -/
theorem stringFrom_code (h : c.toNat < 32) (rest : List Char) :
    stringFrom (fuel + 1) (some done) ('\\' :: 'u' :: Hex.fixed 4 c.toNat ++ rest) =
      stringFrom fuel (some (c :: done)) rest := by
  have hhigh : isHighHalf c.toNat = false := decide_eq_false (by omega)
  have hlow : isLowHalf c.toNat = false := decide_eq_false (by omega)
  rw [List.cons_append, List.cons_append, stringFrom, codeUnit?_fixed h]
  simp only [Option.bind_eq_bind, Option.bind_some, hhigh, hlow, Char.ofNat_toNat]
  rfl

theorem stringFrom_plain (hquote : c ≠ '"') (hslash : c ≠ '\\') (hcode : ¬c.toNat < 32)
    (rest : List Char) :
    stringFrom (fuel + 1) (some done) (c :: rest) = stringFrom fuel (some (c :: done)) rest := by
  rw [stringFrom, if_neg hquote, if_neg (by simp [hslash, hcode])]
  · rfl
  · intro rest' hc
    exact absurd hc hslash
  · intro c' rest' hc
    exact absurd hc hslash

/-- However a character is written, reading it takes one step. -/
theorem stringFrom_escapeChar (c : Char) (rest : List Char) :
    stringFrom (fuel + 1) (some done) (escapeChar c ++ rest) =
      stringFrom fuel (some (c :: done)) rest := by
  unfold escapeChar
  split
  · rfl
  · rfl
  · rfl
  · rfl
  · rfl
  · rfl
  · rfl
  · rename_i hquote hslash _ _ _ _ _
    split
    · rename_i hcode
      exact stringFrom_code hcode rest
    · rename_i hcode
      exact stringFrom_plain hquote hslash hcode rest

theorem stringFrom_escaped (cs rest : List Char) (h : cs.length < fuel) :
    stringFrom fuel (some done) (cs.flatMap escapeChar ++ '"' :: rest) =
      some (some (String.ofList (done.reverse ++ cs)), rest) := by
  induction cs generalizing fuel done with
  | nil =>
    obtain ⟨fuel, rfl⟩ := Nat.exists_eq_add_one_of_ne_zero (Nat.ne_of_gt h)
    rw [List.append_nil]
    rfl
  | cons c cs ih =>
    obtain ⟨fuel, rfl⟩ := Nat.exists_eq_add_one_of_ne_zero (Nat.ne_of_gt (Nat.zero_lt_of_lt h))
    rw [List.flatMap_cons, List.append_assoc, stringFrom_escapeChar,
      ih (Nat.lt_of_succ_lt_succ h), List.reverse_cons, List.append_assoc]
    rfl

end Strings

/-- The characters of a string between its quotes. -/
def escaped (s : String) : List Char := s.toList.flatMap escapeChar

theorem toList_quote (s : String) : (quote s).toList = '"' :: (escaped s ++ ['"']) := by
  simp [quote, escaped]

theorem length_le_escaped (cs : List Char) : cs.length ≤ (cs.flatMap escapeChar).length := by
  induction cs with
  | nil => exact Nat.le_refl _
  | cons c cs ih =>
    have hone : 1 ≤ (escapeChar c).length := by
      unfold escapeChar
      split
      all_goals first | decide | skip
      split
      · exact Nat.succ_pos _
      · exact Nat.le_refl _
    rw [List.flatMap_cons, List.length_append, List.length_cons]
    omega

theorem string_escaped (s : String) (rest : List Char) :
    string (escaped s ++ '"' :: rest) = some (some s, rest) := by
  have hlength := length_le_escaped s.toList
  rw [string, escaped, stringFrom_escaped, List.reverse_nil, List.nil_append, String.ofList_toList]
  rw [List.length_append]
  omega

/-- What may come after a value: nothing, or the mark that the next one or the end of its container
is made known by. -/
def Closes : List Char → Prop
  | [] => True
  | c :: _ => c = ',' ∨ c = ']' ∨ c = '\x7d'

section Numbers

variable {cs rest : List Char}

theorem digits_append (hdigits : ∀ c ∈ cs, c.isDigit = true) (hrest : Closes rest) :
    digits (cs ++ rest) = (cs, rest) := by
  have hstop : rest.takeWhile Char.isDigit = [] ∧ rest.dropWhile Char.isDigit = rest := by
    cases rest with
    | nil => exact ⟨rfl, rfl⟩
    | cons c rest =>
      rcases hrest with rfl | rfl | rfl <;> exact ⟨rfl, rfl⟩
  rw [digits, List.span_eq_takeWhile_dropWhile, List.takeWhile_append_of_pos hdigits,
    List.dropWhile_append_of_pos hdigits, hstop.1, hstop.2, List.append_nil]

theorem fraction_of_closes (h : Closes rest) : fraction rest = some (none, rest) := by
  cases rest with
  | nil => rfl
  | cons c rest => rcases h with rfl | rfl | rfl <;> rfl

theorem exponent_of_closes (h : Closes rest) : exponent rest = some (none, rest) := by
  cases rest with
  | nil => rfl
  | cons c rest => rcases h with rfl | rfl | rfl <;> rfl

theorem le_ofDigitChars (cs : List Char) (n : Nat) : n ≤ Nat.ofDigitChars 10 cs n := by
  rw [Nat.ofDigitChars_eq_ofDigitChars_zero]
  exact Nat.le_add_right_of_le (Nat.le_mul_of_pos_left n (Nat.pow_pos (by decide)))

/-- Digits of a number that fits are all taken in. -/
theorem gather_eq (n : Nat) (cs : List Char)
    (h : Nat.ofDigitChars 10 cs n ≤ NumberText.maxSignificand) :
    NumberText.gather n cs = (Nat.ofDigitChars 10 cs n, []) := by
  induction cs generalizing n with
  | nil => rfl
  | cons c cs ih =>
    rw [Nat.ofDigitChars_cons] at h ⊢
    have hnext : 10 * n + Reading.digitValue c ≤ NumberText.maxSignificand :=
      Nat.le_trans (le_ofDigitChars cs _) h
    rw [NumberText.gather, if_pos hnext]
    exact ih _ h

/-- Only zero is written with a zero in front. -/
theorem toDigits_head (n : Nat) (tail : List Char) (h : Nat.toDigits 10 n = '0' :: tail) :
    tail = [] := by
  induction n using Nat.strongRecOn generalizing tail with
  | _ n ih =>
    rw [Nat.toDigits_eq_if (by decide)] at h
    split at h
    · exact (List.cons.inj h).2.symm
    · rename_i hlarge
      cases hfront : Nat.toDigits 10 (n / 10) with
      | nil => exact absurd hfront Nat.toDigits_ne_nil
      | cons c front =>
        rw [hfront, List.cons_append] at h
        obtain ⟨rfl, -⟩ := List.cons.inj h
        have hzero := ih (n / 10) (by omega) front hfront
        subst hzero
        have hback := Nat.ofDigitChars_ten_toDigits (n := n / 10)
        rw [hfront] at hback
        change 0 = n / 10 at hback
        omega

/-- The rest of a number after its sign. -/
def numberAfterSign (minus : Bool) (cs : List Char) : Option (Json × List Char) := do
  let (whole, rest) := digits cs
  match whole with
  | [] => none
  | '0' :: _ :: _ => none
  | whole =>
    let (fraction, rest) ← fraction rest
    let (exponent, rest) ← exponent rest
    return (NumberText.value ⟨minus, whole, fraction, exponent⟩, rest)

theorem number_minus (cs : List Char) : number ('-' :: cs) = numberAfterSign true cs := rfl

theorem number_of_ne_minus {c : Char} (h : c ≠ '-') (cs : List Char) :
    number (c :: cs) = numberAfterSign false (c :: cs) := by
  unfold number numberAfterSign
  split
  rename_i hsign
  split at hsign
  · rename_i hcs
    exact absurd (List.cons.inj hcs).1 h
  · obtain ⟨rfl, rfl⟩ := hsign
    rfl

/-- The digits of a whole number are read to the last. -/
theorem numberAfterSign_toDigits (minus : Bool) (n : Nat) (hrest : Closes rest) :
    numberAfterSign minus (Nat.toDigits 10 n ++ rest) =
      some (NumberText.value ⟨minus, Nat.toDigits 10 n, none, none⟩, rest) := by
  have hdigits : ∀ c ∈ Nat.toDigits 10 n, c.isDigit = true :=
    fun c hc => Nat.isDigit_of_mem_toDigits (by decide) (by decide) hc
  unfold numberAfterSign
  rw [digits_append hdigits hrest]
  dsimp only
  split
  · rename_i hnil
    exact absurd hnil Nat.toDigits_ne_nil
  · rename_i c tail hzero
    exact absurd (toDigits_head n _ hzero) (List.cons_ne_nil _ _)
  · rw [fraction_of_closes hrest, Option.bind_eq_bind, Option.bind_some, exponent_of_closes hrest]
    rfl

theorem value_toDigits (minus : Bool) (n : Nat) (h : n ≤ NumberText.maxSignificand) :
    NumberText.value ⟨minus, Nat.toDigits 10 n, none, none⟩ =
      NumberText.integer ⟨minus, Nat.toDigits 10 n, none, none⟩ n := by
  have hgather := gather_eq 0 (Nat.toDigits 10 n) (by rwa [Nat.ofDigitChars_ten_toDigits])
  rw [Nat.ofDigitChars_ten_toDigits] at hgather
  rw [NumberText.value, hgather]
  simp only [List.isEmpty_nil, Option.isNone_none, Bool.and_self, if_true]

theorem number_natural (n : UInt64) (hrest : Closes rest) :
    number ((toString n.toNat).toList ++ rest) = some (.natural n, rest) := by
  have hfits : n.toNat ≤ NumberText.maxSignificand := Nat.le_of_lt_succ n.toNat_lt
  have hread := numberAfterSign_toDigits false n.toNat hrest
  rw [value_toDigits false _ hfits, NumberText.integer, if_pos (by rfl), Json.ofNat,
    UInt64.ofNat_toNat] at hread
  rw [Nat.toString_eq_ofList_toDigits, String.toList_ofList]
  cases hdigits : Nat.toDigits 10 n.toNat with
  | nil => exact absurd hdigits Nat.toDigits_ne_nil
  | cons c tail =>
    have hminus : c ≠ '-' := by
      rintro rfl
      have hdigit : ('-').isDigit = true :=
        Nat.isDigit_of_mem_toDigits (by decide) (by decide) (hdigits ▸ List.mem_cons_self)
      exact absurd hdigit (by decide)
    rw [hdigits] at hread
    exact (number_of_ne_minus hminus _).trans hread

theorem toString_negative {n : Int} (h : n < 0) :
    (toString n).toList = '-' :: Nat.toDigits 10 n.natAbs := by
  have habs : (-n).toNat = n.natAbs := by omega
  rw [Int.toString_eq_repr, Int.repr_eq_if, if_neg (by omega), String.toList_append,
    Nat.toList_repr, habs]
  rfl

theorem number_negative (n : Int64) (h : n.toInt < 0) (hrest : Closes rest) :
    number ((toString n.toInt).toList ++ rest) = some (.negative n, rest) := by
  have hrange := Int64.le_toInt n
  have hsmall : n.toInt.natAbs ≤ 0x8000000000000000 := by omega
  have hback : -(n.toInt.natAbs : Int) = n.toInt := by omega
  rw [toString_negative h, List.cons_append, number_minus,
    numberAfterSign_toDigits true _ hrest,
    value_toDigits true _ (Nat.le_trans hsmall (by decide)), NumberText.integer, if_neg (by simp),
    if_pos ⟨by omega, hsmall⟩, hback, Int64.ofInt_toInt]

end Numbers

end DocStore.Json
