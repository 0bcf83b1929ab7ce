import DocStore.Time.Instant
import DocStore.Proofs.Text.Cuts
import DocStore.Proofs.Time.Calendar
/-!
The text of a point in time is that of no other. Its numbers are padded or cut off at zeros, but each of
them ends at a mark and keeps its value.
-/
namespace DocStore.Instant

open Reading

variable {width n m : ℕ} {rest rest' : List Char} {millis : ℤ}

theorem toList_padded (width n : ℕ) : (padded width n).toList =
    List.replicate (width - (Nat.toDigits 10 n).length) '0' ++ Nat.toDigits 10 n :=
  String.toList_ofList

theorem isDigit_padded (width n : ℕ) : ∀ c ∈ (padded width n).toList, c.isDigit = true := by
  intro c hc
  rw [toList_padded] at hc
  rcases List.mem_append.1 hc with hzero | hdigit
  · rw [List.eq_of_mem_replicate hzero]
    decide
  · exact isDigit_toDigits n c hdigit

theorem natOfDigits_padded (width n : ℕ) : natOfDigits (padded width n).toList = n := by
  rw [toList_padded, natOfDigits_zeros_append, natOfDigits_toDigits]

theorem padded_ne_nil (width n : ℕ) : (padded width n).toList ≠ [] := by
  rw [toList_padded]
  exact List.append_ne_nil_of_right_ne_nil _ Nat.toDigits_ne_nil

theorem toList_yearText (year : ℤ) :
    (yearText year).toList = signed (decide (year < 0)) (padded 4 year.natAbs).toList := by
  unfold yearText signed
  by_cases hsign : year < 0
  · rw [if_pos hsign, String.toList_append, if_pos (decide_eq_true hsign)]
    rfl
  · rw [if_neg hsign, String.toList_append, if_neg (by simpa using hsign)]
    rfl

/-- Thousandths are digits that, with zeros behind them up to the third place, are their number. -/
theorem fractionText_spec (h : n < 1000) :
    (∀ c ∈ (fractionText n).toList, c.isDigit = true) ∧
      natOfDigits ((fractionText n).toList ++ List.replicate (3 - (fractionText n).toList.length) '0') = n := by
  obtain ⟨zeros, hzeros⟩ := Binary64.exists_zeros (padded 3 n).toList
  obtain ⟨kept, hkept⟩ : ∃ kept, ((padded 3 n).toList.reverse.dropWhile (· == '0')).reverse = kept := ⟨_, rfl⟩
  rw [hkept] at hzeros
  have hvalue := natOfDigits_padded 3 n
  have hlength : (padded 3 n).toList.length = 3 := by
    have hfits : (Nat.toDigits 10 n).length ≤ 3 := (Nat.length_toDigits_le_iff (by decide) (by decide)).2 h
    rw [toList_padded, List.length_append, List.length_replicate]
    omega
  rw [hzeros, List.length_append, List.length_replicate] at hlength
  rw [hzeros] at hvalue
  unfold fractionText
  dsimp only
  rw [hkept]
  cases kept with
  | nil =>
    rw [List.nil_append] at hvalue
    refine ⟨isDigit_zeros 1, ?_⟩
    rw [← hvalue, show zeros = 3 by simpa using hlength]
    rfl
  | cons c kept =>
    dsimp only
    rw [String.toList_ofList, show 3 - (c :: kept).length = zeros by omega]
    refine ⟨fun d hd => isDigit_padded 3 n d ?_, hvalue⟩
    rw [hzeros]
    exact List.mem_append_left _ hd

/-- The hours, the minutes, the seconds and the thousandths of a time of day in milliseconds. -/
def clockText (time : ℕ) : String :=
  toString (time / 1000 / 3600) ++ ":" ++ padded 2 (time / 1000 / 60 % 60) ++ ":" ++
    padded 2 (time / 1000 % 60) ++ "." ++ fractionText (time % 1000) ++ " +00:00:00"

/-- The day of a point in time. -/
def date (millis : ℤ) : CalendarDate := CalendarDate.ofDays (millis.fdiv millisPerDay)

/-- The time of day of a point in time. -/
def time (millis : ℤ) : ℕ := (millis.fmod millisPerDay).toNat

/-- Whether the year of a date is out of the range of the years that are written. -/
def OutOfRange (date : CalendarDate) : Prop := date.year < -9999 ∨ 9999 < date.year

theorem text_of_outOfRange (h : OutOfRange (date millis)) : text millis = toString millis :=
  if_pos h

theorem toList_text (h : ¬OutOfRange (date millis)) : (text millis).toList =
    (yearText (date millis).year).toList ++ '-' :: ((padded 2 (date millis).month).toList ++ '-' ::
      ((padded 2 (date millis).day).toList ++ ' ' :: (clockText (time millis)).toList)) := by
  have htext : text millis = yearText (date millis).year ++ "-" ++ padded 2 (date millis).month ++ "-" ++
      padded 2 (date millis).day ++ " " ++ toString (time millis / 1000 / 3600) ++ ":" ++
      padded 2 (time millis / 1000 / 60 % 60) ++ ":" ++ padded 2 (time millis / 1000 % 60) ++ "." ++
      fractionText (time millis % 1000) ++ " +00:00:00" := if_neg h
  rw [htext, clockText]
  simp [Nat.toList_repr]

/-- A point in time has its day and its time of day to itself. -/
theorem eq_of_date_time {millis' : ℤ} (hdate : date millis = date millis')
    (htime : time millis = time millis') : millis = millis' := by
  have hday := CalendarDate.ofDays_injective hdate
  have hnonneg (k : ℤ) : 0 ≤ k.fmod millisPerDay := Int.fmod_nonneg_of_pos k (by decide)
  have hrest : millis.fmod millisPerDay = millis'.fmod millisPerDay := by
    have := hnonneg millis
    have := hnonneg millis'
    unfold time at htime
    omega
  rw [← Int.mul_fdiv_add_fmod millis millisPerDay, hday, hrest, Int.mul_fdiv_add_fmod]

theorem toList_clockText (n : ℕ) : (clockText n).toList =
    Nat.toDigits 10 (n / 1000 / 3600) ++ ':' :: ((padded 2 (n / 1000 / 60 % 60)).toList ++ ':' ::
      ((padded 2 (n / 1000 % 60)).toList ++ '.' :: ((fractionText (n % 1000)).toList ++
        ' ' :: "+00:00:00".toList))) := by
  simp [clockText, Nat.toList_repr]

section Unique

variable (hrest : Text.EndsDigits rest) (hrest' : Text.EndsDigits rest')
include hrest hrest'

theorem unique_padded (heq : (padded width n).toList ++ rest = (padded width m).toList ++ rest') :
    n = m ∧ rest = rest' := by
  obtain ⟨hdigits, hrest⟩ :=
    Text.unique_digits hrest hrest' (isDigit_padded width n) (isDigit_padded width m) heq
  refine ⟨?_, hrest⟩
  rw [← natOfDigits_padded width n, hdigits, natOfDigits_padded]

theorem unique_yearText {year year' : ℤ}
    (heq : (yearText year).toList ++ rest = (yearText year').toList ++ rest') :
    year = year' ∧ rest = rest' := by
  rw [toList_yearText, toList_yearText] at heq
  obtain ⟨hsign, hdigits, hrest⟩ := Text.unique_signed hrest hrest' (isDigit_padded _ _) (padded_ne_nil _ _)
    (isDigit_padded _ _) (padded_ne_nil _ _) heq
  have habs : year.natAbs = year'.natAbs := by
    rw [← natOfDigits_padded 4 year.natAbs, hdigits, natOfDigits_padded]
  rw [decide_eq_decide] at hsign
  exact ⟨by omega, hrest⟩

theorem unique_fractionText (hn : n < 1000) (hm : m < 1000)
    (heq : (fractionText n).toList ++ rest = (fractionText m).toList ++ rest') : n = m ∧ rest = rest' := by
  obtain ⟨hdigits, hvalue⟩ := fractionText_spec hn
  obtain ⟨hdigits', hvalue'⟩ := fractionText_spec hm
  obtain ⟨hdigits, hrest⟩ := Text.unique_digits hrest hrest' hdigits hdigits' heq
  exact ⟨by rw [← hvalue, hdigits, hvalue'], hrest⟩

end Unique

/-- Each number of a time of day ends at its mark. -/
theorem unique_clockText (heq : (clockText n).toList ++ rest = (clockText m).toList ++ rest') :
    n = m ∧ rest = rest' := by
  have hmark {c : Char} {cs : List Char} (h : c.isDigit = false) : Text.EndsDigits (c :: cs) :=
    Text.endsDigits_cons h
  simp only [toList_clockText, List.append_assoc, List.cons_append] at heq
  obtain ⟨hhours, heq⟩ := Text.unique_toDigits (hmark (by decide)) (hmark (by decide)) heq
  obtain ⟨hminutes, heq⟩ :=
    unique_padded (hmark (by decide)) (hmark (by decide)) (List.tail_eq_of_cons_eq heq)
  obtain ⟨hseconds, heq⟩ :=
    unique_padded (hmark (by decide)) (hmark (by decide)) (List.tail_eq_of_cons_eq heq)
  obtain ⟨hthousandths, heq⟩ := unique_fractionText (hmark (by decide)) (hmark (by decide))
    (Nat.mod_lt _ (by decide)) (Nat.mod_lt _ (by decide)) (List.tail_eq_of_cons_eq heq)
  exact ⟨by omega, List.append_cancel_left (List.tail_eq_of_cons_eq heq)⟩

/-- A text that is closed by a quote is that of one point in time. A plain number ends at the quote, where a
date goes on with a hyphen. -/
theorem unique_text {millis' : ℤ}
    (heq : (text millis).toList ++ '"' :: rest = (text millis').toList ++ '"' :: rest') :
    millis = millis' ∧ rest = rest' := by
  have hmark {c : Char} {cs : List Char} (h : c.isDigit = false) : Text.EndsDigits (c :: cs) :=
    Text.endsDigits_cons h
  have hmixed {millis millis' : ℤ} {rest rest' : List Char} (hplain : OutOfRange (date millis))
      (hdate : ¬OutOfRange (date millis')) :
      (text millis).toList ++ '"' :: rest ≠ (text millis').toList ++ '"' :: rest' := by
    rw [text_of_outOfRange hplain, toList_text hdate, toList_toString, toList_yearText, List.append_assoc]
    intro heq
    obtain ⟨-, -, hrest⟩ := Text.unique_signed (hmark (by decide)) (hmark (by decide)) (isDigit_toDigits _)
      Nat.toDigits_ne_nil (isDigit_padded _ _) (padded_ne_nil _ _) heq
    exact absurd (List.cons.inj hrest).1 (by decide)
  by_cases hrange : OutOfRange (date millis) <;> by_cases hrange' : OutOfRange (date millis')
  · rw [text_of_outOfRange hrange, text_of_outOfRange hrange'] at heq
    obtain ⟨hmillis, heq⟩ := Text.unique_toString (hmark (by decide)) (hmark (by decide)) heq
    exact ⟨hmillis, List.tail_eq_of_cons_eq heq⟩
  · exact absurd heq (hmixed hrange hrange')
  · exact absurd heq.symm (hmixed hrange' hrange)
  · rw [toList_text hrange, toList_text hrange'] at heq
    simp only [List.append_assoc, List.cons_append] at heq
    obtain ⟨hyear, heq⟩ := unique_yearText (hmark (by decide)) (hmark (by decide)) heq
    obtain ⟨hmonth, heq⟩ :=
      unique_padded (hmark (by decide)) (hmark (by decide)) (List.tail_eq_of_cons_eq heq)
    obtain ⟨hday, heq⟩ :=
      unique_padded (hmark (by decide)) (hmark (by decide)) (List.tail_eq_of_cons_eq heq)
    obtain ⟨htime, heq⟩ := unique_clockText (List.tail_eq_of_cons_eq heq)
    have hdate : date millis = date millis' := by
      rw [CalendarDate.mk.injEq]
      exact ⟨hyear, hmonth, hday⟩
    exact ⟨eq_of_date_time hdate htime, List.tail_eq_of_cons_eq heq⟩

end DocStore.Instant
