import DocStore.Decimal128
import DocStore.Proofs.Numeric.Shortest
/-!
Numerals: whole numbers, decimal numbers and binary numbers as they are written. The reader of numbers
takes every numeral apart into the digits and the exponent that it was written from, so that a binary
number is read back from its shortest text and all others are rounded as they would have been.
-/
namespace DocStore

namespace Reading

variable {cs whole fraction rest : List Char} {c : Char} {digits : ℕ} {exponent : ℤ}

/-- What cannot go on with the digits of a number. -/
def Stops (rest : List Char) : Prop := ∀ c ∈ rest.head?, c.isDigit = false ∧ c ≠ '.'

theorem stops_nil : Stops [] := fun _ hc => nomatch hc

theorem takeWhile_digits (hdigits : ∀ c ∈ whole, c.isDigit = true)
    (hrest : ∀ c ∈ rest.head?, c.isDigit = false) :
    (whole ++ rest).takeWhile Char.isDigit = whole ∧ (whole ++ rest).dropWhile Char.isDigit = rest := by
  have hstop : rest.takeWhile Char.isDigit = [] ∧ rest.dropWhile Char.isDigit = rest := by
    cases rest with
    | nil => exact ⟨rfl, rfl⟩
    | cons c rest =>
      have hc : c.isDigit = false := hrest c rfl
      exact ⟨List.takeWhile_cons_of_neg (by rw [hc]; decide),
        List.dropWhile_cons_of_neg (by rw [hc]; decide)⟩
  rw [List.takeWhile_append_of_pos hdigits, List.dropWhile_append_of_pos hdigits, hstop.1, hstop.2,
    List.append_nil]
  exact ⟨rfl, rfl⟩

theorem mantissa?_whole (hdigits : ∀ c ∈ whole, c.isDigit = true) (hne : whole ≠ []) (hrest : Stops rest) :
    mantissa? (whole ++ rest) = some (natOfDigits whole, 0, rest) := by
  obtain ⟨htake, hdrop⟩ := takeWhile_digits hdigits fun c hc => (hrest c hc).1
  have hempty : whole.isEmpty = false := List.isEmpty_eq_false_iff.2 hne
  unfold mantissa?
  rw [htake, hdrop]
  dsimp only
  split
  · exact absurd rfl (hrest '.' rfl).2
  · rw [hempty, List.append_nil]
    rfl

theorem mantissa?_point (hdigits : ∀ c ∈ whole, c.isDigit = true) (hne : whole ≠ [])
    (hfraction : ∀ c ∈ fraction, c.isDigit = true) (hrest : Stops rest) :
    mantissa? (whole ++ '.' :: (fraction ++ rest)) =
      some (natOfDigits (whole ++ fraction), fraction.length, rest) := by
  have hpoint : ∀ c ∈ ('.' :: (fraction ++ rest)).head?, c.isDigit = false := fun c hc => by
    obtain rfl := Option.some.inj hc
    decide
  obtain ⟨htake, hdrop⟩ := takeWhile_digits hdigits hpoint
  obtain ⟨htail, hleft⟩ := takeWhile_digits hfraction fun c hc => (hrest c hc).1
  have hempty : whole.isEmpty = false := List.isEmpty_eq_false_iff.2 hne
  unfold mantissa?
  rw [htake, hdrop]
  dsimp only
  rw [hempty]
  change some (natOfDigits (whole ++ (fraction ++ rest).takeWhile Char.isDigit),
    ((fraction ++ rest).takeWhile Char.isDigit).length, (fraction ++ rest).dropWhile Char.isDigit) = _
  rw [htail, hleft]

/-- The characters are a numeral of these digits and this exponent. -/
def Denotes (cs : List Char) (digits : ℕ) (exponent : ℤ) : Prop :=
  (∃ c ∈ cs.head?, c.isDigit = true) ∧ ∃ places rest power, mantissa? cs = some (digits, places, rest) ∧
    exponent? rest = some power ∧ power - (places : ℕ) = exponent

theorem Denotes.unique {digits' : ℕ} {exponent' : ℤ} (h : Denotes cs digits exponent)
    (h' : Denotes cs digits' exponent') : digits = digits' ∧ exponent = exponent' := by
  obtain ⟨-, places, rest, power, hmantissa, hpower, rfl⟩ := h
  obtain ⟨-, places', rest', power', hmantissa', hpower', rfl⟩ := h'
  rw [hmantissa] at hmantissa'
  obtain ⟨rfl, rfl, rfl⟩ := hmantissa'
  rw [hpower] at hpower'
  obtain rfl := Option.some.inj hpower'
  exact ⟨rfl, rfl⟩

theorem Denotes.ne_minus (h : Denotes cs digits exponent) : cs.head? ≠ some '-' := by
  obtain ⟨⟨c, hc, hdigit⟩, -⟩ := h
  rintro hminus
  obtain rfl := Option.some.inj (hc.symm.trans hminus)
  exact absurd hdigit (by decide)

/-- No numeral is taken for one of the names of numbers. -/
theorem Denotes.unsigned? (h : Denotes cs digits exponent) (negative : Bool) :
    Reading.unsigned? negative cs = some (.ofDecimal negative digits exponent) := by
  obtain ⟨⟨c, hc, hdigit⟩, places, rest, power, hmantissa, hpower, rfl⟩ := h
  have hname {d : Char} (name : String) (hd : name.toList.head? = some d) (hletter : d.isDigit = false) :
      String.ofList (cs.map Char.toLower) ≠ name := by
    rintro rfl
    have hlower : c.toLower = c := by
      unfold Char.toLower
      unfold Char.isDigit at hdigit
      simp only [Bool.and_eq_true, decide_eq_true_eq] at hdigit
      rw [dif_neg]
      rintro ⟨hge, -⟩
      exact absurd (UInt32.le_trans hge hdigit.2) (by decide)
    rw [String.toList_ofList, List.head?_map, hc, Option.map_some, hlower] at hd
    obtain rfl := Option.some.inj hd
    exact absurd (hdigit.symm.trans hletter) (by decide)
  unfold Reading.unsigned?
  dsimp only
  rw [if_neg (hname "nan" rfl (by decide)), if_neg, hmantissa]
  · change (exponent? rest).bind _ = _
    rw [hpower]
    rfl
  · rintro (hinf | hinfinity)
    · exact hname "inf" rfl (by decide) hinf
    · exact hname "infinity" rfl (by decide) hinfinity

theorem binary64?_minus {s : String} (hs : s.toList = '-' :: cs) :
    binary64? s = Reading.unsigned? true cs := by
  rw [binary64?, hs]
  rfl

theorem binary64?_unsigned {s : String} (hs : s.toList = cs) (h : Denotes cs digits exponent) :
    binary64? s = Reading.unsigned? false cs := by
  obtain ⟨⟨c, hc, hdigit⟩, -⟩ := h
  rw [binary64?, hs]
  split
  · obtain rfl := Option.some.inj hc
    exact absurd hdigit (by decide)
  · obtain rfl := Option.some.inj hc
    exact absurd hdigit (by decide)
  · rfl

/-- A numeral behind its sign. -/
def signed (negative : Bool) (cs : List Char) : List Char := if negative then '-' :: cs else cs

/-- The number that a numeral with a sign is read as. -/
theorem binary64?_signed {s : String} {negative : Bool} (hs : s.toList = signed negative cs)
    (h : Denotes cs digits exponent) : binary64? s = some (.ofDecimal negative digits exponent) := by
  cases negative with
  | true => rw [binary64?_minus hs, h.unsigned?]
  | false => exact (binary64?_unsigned hs h).trans (h.unsigned? false)

theorem signed_inj {negative negative' : Bool} {cs' : List Char} (h : cs.head? ≠ some '-')
    (h' : cs'.head? ≠ some '-') (heq : signed negative cs = signed negative' cs') :
    negative = negative' ∧ cs = cs' := by
  cases negative <;> cases negative'
  · exact ⟨rfl, heq⟩
  · exact absurd (congrArg List.head? heq) h
  · exact absurd (congrArg List.head? heq).symm h'
  · exact ⟨rfl, (List.cons.inj heq).2⟩

/-- The characters of numerals: digits, a point, and an exponent with its sign. -/
def IsNumeralChar (c : Char) : Prop := c.isDigit = true ∨ c ∈ ['.', 'E', '-', '+']

theorem isDigit_zeros (n : ℕ) : ∀ c ∈ List.replicate n '0', c.isDigit = true := by
  intro c hc
  rw [List.eq_of_mem_replicate hc]
  decide

theorem isNumeralChar_zeros (n : ℕ) : ∀ c ∈ List.replicate n '0', IsNumeralChar c :=
  fun c hc => .inl (isDigit_zeros n c hc)

theorem isNumeralChar_signed {negative : Bool} (h : ∀ c ∈ cs, IsNumeralChar c) :
    ∀ c ∈ signed negative cs, IsNumeralChar c := by
  cases negative with
  | true => exact List.forall_mem_cons.2 ⟨.inr (by decide), h⟩
  | false => exact h

theorem isDigit_toDigits (n : ℕ) : ∀ c ∈ Nat.toDigits 10 n, c.isDigit = true :=
  fun _ hc => Nat.isDigit_of_mem_toDigits (by decide) (by decide) hc

theorem denotes_of_whole (hdigits : ∀ c ∈ whole, c.isDigit = true) (hne : whole ≠ []) :
    Denotes whole (natOfDigits whole) 0 := by
  obtain ⟨c, rest, rfl⟩ := List.exists_cons_of_ne_nil hne
  refine ⟨⟨c, rfl, hdigits c List.mem_cons_self⟩, 0, [], 0, ?_, rfl, rfl⟩
  have hread := mantissa?_whole hdigits hne stops_nil
  rwa [List.append_nil] at hread

theorem denotes_of_point (hdigits : ∀ c ∈ whole, c.isDigit = true) (hne : whole ≠ [])
    (hfraction : ∀ c ∈ fraction, c.isDigit = true) :
    Denotes (whole ++ '.' :: fraction) (natOfDigits (whole ++ fraction)) (-fraction.length) := by
  obtain ⟨c, tail, rfl⟩ := List.exists_cons_of_ne_nil hne
  refine ⟨⟨c, rfl, hdigits c List.mem_cons_self⟩, fraction.length, [], 0, ?_, rfl, Int.zero_sub _⟩
  have hread := mantissa?_point hdigits hne hfraction stops_nil
  rwa [List.append_nil] at hread

/-- Digits with a point and zeros before them. -/
theorem denotes_behind_zeros (hdigits : ∀ c ∈ cs, c.isDigit = true) (n : ℕ) :
    Denotes (['0', '.'] ++ List.replicate n '0' ++ cs) (natOfDigits cs) (-(n + cs.length : ℕ)) := by
  have hzero : ∀ c ∈ ['0'], c.isDigit = true := isDigit_zeros 1
  have hfraction : ∀ c ∈ List.replicate n '0' ++ cs, c.isDigit = true :=
    List.forall_mem_append.2 ⟨isDigit_zeros n, hdigits⟩
  have hvalue : natOfDigits (['0'] ++ (List.replicate n '0' ++ cs)) = natOfDigits cs :=
    natOfDigits_zeros_append (n + 1) cs
  have hdenotes := denotes_of_point hzero (List.cons_ne_nil _ _) hfraction
  rwa [hvalue, List.length_append, List.length_replicate] at hdenotes

/-- Digits with a point between them. -/
theorem denotes_around_point (hdigits : ∀ c ∈ cs, c.isDigit = true) {n : ℕ} (hpos : 0 < n)
    (hle : n ≤ cs.length) :
    Denotes (cs.take n ++ '.' :: cs.drop n) (natOfDigits cs) (n - cs.length) := by
  have hne : cs.take n ≠ [] := by
    rw [← List.length_pos_iff, List.length_take]
    omega
  have hdenotes := denotes_of_point (fun c hc => hdigits c (List.mem_of_mem_take hc)) hne
    (fun c hc => hdigits c (List.mem_of_mem_drop (i := n) hc))
  rwa [List.take_append_drop, List.length_drop, Nat.cast_sub hle, neg_sub] at hdenotes

theorem isNumeralChar_of_digits (hdigits : ∀ c ∈ cs, c.isDigit = true) : ∀ c ∈ cs, IsNumeralChar c :=
  fun c hc => .inl (hdigits c hc)

theorem isNumeralChar_behind_zeros (hdigits : ∀ c ∈ cs, c.isDigit = true) (n : ℕ) :
    ∀ c ∈ ['0', '.'] ++ List.replicate n '0' ++ cs, IsNumeralChar c := by
  simp only [List.forall_mem_append, List.forall_mem_cons]
  exact ⟨⟨⟨.inl (by decide), .inr (by decide), List.forall_mem_nil _⟩, isNumeralChar_zeros n⟩,
    isNumeralChar_of_digits hdigits⟩

theorem isNumeralChar_around_point (hdigits : ∀ c ∈ cs, c.isDigit = true) (n : ℕ) :
    ∀ c ∈ cs.take n ++ '.' :: cs.drop n, IsNumeralChar c := by
  simp only [List.forall_mem_append, List.forall_mem_cons]
  exact ⟨fun c hc => .inl (hdigits c (List.mem_of_mem_take hc)), .inr (by decide),
    fun c hc => .inl (hdigits c (List.mem_of_mem_drop hc))⟩

theorem denotes_toDigits (n : ℕ) : Denotes (Nat.toDigits 10 n) n 0 := by
  have h := denotes_of_whole (isDigit_toDigits n) Nat.toDigits_ne_nil
  rwa [natOfDigits_toDigits] at h

theorem toList_toString (n : ℤ) :
    (toString n).toList = signed (decide (n < 0)) (Nat.toDigits 10 n.natAbs) := by
  rw [Int.toString_eq_repr, Int.repr_eq_if, signed]
  by_cases hsign : n < 0
  · rw [if_neg (by omega), if_pos (decide_eq_true hsign), String.toList_append, Nat.toList_repr,
      show (-n).toNat = n.natAbs by omega]
    rfl
  · rw [if_pos (by omega), if_neg (by simpa using hsign), Nat.toList_repr,
      show n.toNat = n.natAbs by omega]

end Reading

namespace Binary64

theorem ofDecimal_zero (n : ℤ) : ofDecimal (decide (n < 0)) n.natAbs 0 = ofInt n := by
  unfold ofDecimal ofInt
  dsimp only
  split
  · rename_i hzero
    rw [ofRatio, hzero, roundUnits_zero]
  · rw [if_neg (by decide), if_neg (by omega), if_pos (Int.le_refl 0), Int.toNat_zero, Nat.pow_eq,
      Nat.pow_zero, Nat.mul_one]

theorem exists_searchDigits (i : Interval) (tie : Tie) (top : ℤ) (fuel precision : ℕ) :
    ∃ c precision', searchDigits i tie top fuel precision = searchDigits.normalise top c precision' := by
  induction fuel generalizing precision with
  | zero => exact ⟨_, _, rfl⟩
  | succ fuel ih =>
    unfold searchDigits
    split
    · exact ⟨_, _, rfl⟩
    · exact ih _

theorem isDigit_shortest (tie : Tie) (x : Binary64) :
    ∀ c ∈ (x.shortest tie).digits, c.isDigit = true := by
  unfold shortest
  split
  · intro c hc
    obtain rfl := List.mem_singleton.1 hc
    decide
  · intro c hc
    obtain ⟨n, precision, hsearch⟩ := exists_searchDigits x.interval tie x.topPlace 20 1
    rw [hsearch, searchDigits.normalise, List.mem_reverse] at hc
    exact Reading.isDigit_toDigits n c (List.mem_reverse.1 ((List.dropWhile_sublist _).mem hc))

end Binary64

namespace DecimalLayout

open Reading

/-- Digits are laid out with a point as a numeral of the number that they stand for. -/
theorem denotes_positionalText {d : DecimalDigits} (hdigits : ∀ c ∈ d.digits, c.isDigit = true) :
    ∃ n e, Denotes (plain.positionalText d) n e ∧ (n * 10 ^ e : ℚ) = d.value := by
  unfold positionalText
  dsimp only
  split
  · rename_i hpoint
    have hdenotes := denotes_behind_zeros hdigits (-d.point).toNat
    have hplaces : -(((-d.point).toNat + d.digits.length : ℕ) : ℤ) = d.point - d.digits.length := by omega
    rw [hplaces] at hdenotes
    exact ⟨_, _, hdenotes, rfl⟩
  · rename_i hpoint
    split
    · rename_i hlength
      obtain ⟨n, hn⟩ := Int.eq_ofNat_of_zero_le (show 0 ≤ d.point - d.digits.length by omega)
      have hne : d.digits ++ List.replicate n '0' ≠ [] := by
        rw [← List.length_pos_iff, List.length_append, List.length_replicate]
        omega
      have hdenotes := denotes_of_whole
        (fun c hc => (List.mem_append.1 hc).elim (hdigits c) (isDigit_zeros n c)) hne
      rw [natOfDigits_zeros] at hdenotes
      rw [hn, Int.toNat_natCast]
      refine ⟨_, _, by simpa [plain] using hdenotes, ?_⟩
      rw [DecimalDigits.value, hn, zpow_natCast, zpow_zero]
      push_cast
      ring
    · rename_i hlength
      have hdenotes := denotes_around_point hdigits (show 0 < d.point.toNat by omega) (by omega)
      rw [Int.toNat_of_nonneg (by omega)] at hdenotes
      exact ⟨_, _, hdenotes, rfl⟩

theorem isNumeralChar_positionalText {d : DecimalDigits} (hdigits : ∀ c ∈ d.digits, c.isDigit = true) :
    ∀ c ∈ plain.positionalText d, IsNumeralChar c := by
  unfold positionalText
  dsimp only
  split
  · exact isNumeralChar_behind_zeros hdigits _
  · split
    · simp only [List.forall_mem_append]
      exact ⟨⟨isNumeralChar_of_digits hdigits, isNumeralChar_zeros _⟩, List.forall_mem_nil _⟩
    · exact isNumeralChar_around_point hdigits _

theorem toList_render (x : Binary64) : (plain.render x).toList =
    signed x.negative (plain.positionalText (x.shortest .up)) := by
  rw [render, String.toList_append, String.toList_ofList, signed]
  cases x.negative <;> rfl

/-- The text of a finite number is a numeral behind its sign, and is read as the number. -/
theorem exists_denotes_render {x : Binary64} (hfinite : x.isFinite = true) :
    ∃ digits exponent, Denotes (plain.positionalText (x.shortest .up)) digits exponent ∧
      Binary64.ofDecimal x.negative digits exponent = x := by
  obtain ⟨digits, exponent, hdenotes, hvalue⟩ :=
    denotes_positionalText (Binary64.isDigit_shortest .up x)
  refine ⟨digits, exponent, hdenotes, ?_⟩
  cases hzero : x.isZero with
  | true =>
    rw [Binary64.shortest, if_pos hzero] at hdenotes
    obtain ⟨rfl, rfl⟩ := hdenotes.unique (denotes_toDigits 0)
    have hmagnitude : x.magnitude = 0 := of_decide_eq_true hzero
    have hself := Binary64.ofMagnitude_magnitude x
    rwa [hmagnitude] at hself
  | false =>
    refine Binary64.ofDecimal_of_admits hfinite hzero ?_
    rw [hvalue]
    exact Binary64.admits_shortest .up hzero

end DecimalLayout

namespace Decimal128

open Reading

theorem stops_exponent (cs : List Char) : Stops ('E' :: cs) := by
  intro c hc
  obtain rfl := Option.some.inj hc
  decide

theorem digits?_toDigits (n : ℕ) : digits? (Nat.toDigits 10 n) = some n := by
  have hempty : (Nat.toDigits 10 n).isEmpty = false := List.isEmpty_eq_false_iff.2 Nat.toDigits_ne_nil
  have hall : (Nat.toDigits 10 n).all Char.isDigit = true := List.all_eq_true.2 (isDigit_toDigits n)
  rw [digits?, hempty, hall, natOfDigits_toDigits]
  rfl

/-- An exponent is read with its sign. -/
theorem exponent?_written (e : ℤ) :
    exponent? ('E' :: (if e < 0 then '-' else '+') :: Nat.toDigits 10 e.natAbs) = some e := by
  split
  · change ((digits? (Nat.toDigits 10 e.natAbs)).bind fun n => some (n : ℤ)).map (fun n => -n) = _
    rw [digits?_toDigits, Option.bind_some, Option.map_some, show -(e.natAbs : ℤ) = e by omega]
  · change (digits? (Nat.toDigits 10 e.natAbs)).map Int.ofNat = _
    rw [digits?_toDigits, Option.map_some, show Int.ofNat e.natAbs = e from Int.natAbs_of_nonneg (by omega)]

theorem isNumeralChar_finiteText (coefficient : ℕ) (exponent : ℤ) :
    ∀ c ∈ (finiteText coefficient exponent).toList, IsNumeralChar c := by
  obtain ⟨digits, hdigits⟩ : ∃ digits, digits = Nat.toDigits 10 coefficient := ⟨_, rfl⟩
  have hisDigit : ∀ c ∈ digits, c.isDigit = true := hdigits ▸ isDigit_toDigits coefficient
  have hmark {c : Char} (hc : c ∈ ['.', 'E', '-', '+']) : IsNumeralChar c := .inr hc
  unfold finiteText
  rw [← hdigits]
  dsimp only
  split
  · split
    · rw [String.toList_ofList]
      exact isNumeralChar_of_digits hisDigit
    · split
      · rw [String.toList_ofList]
        exact isNumeralChar_behind_zeros hisDigit _
      · rw [String.toList_ofList]
        exact isNumeralChar_around_point hisDigit _
  · simp only [String.toList_ofList, List.forall_mem_append, List.forall_mem_cons]
    refine ⟨⟨fun c hc => .inl (hisDigit c (List.mem_of_mem_take hc)), ?_⟩, hmark (by decide), ?_,
      isNumeralChar_of_digits (isDigit_toDigits _)⟩
    · split
      · exact List.forall_mem_nil _
      · exact List.forall_mem_cons.2
          ⟨hmark (by decide), fun c hc => .inl (hisDigit c (List.mem_of_mem_drop hc))⟩
    · split
      · exact hmark (by decide)
      · exact hmark (by decide)

/-- Digits behind a point, if there are any. -/
def pointed : List Char → List Char
  | [] => []
  | fraction => '.' :: fraction

/-- A digit, a fraction and an exponent are a numeral. -/
theorem denotes_of_exponent {c : Char} {tail rest : List Char} {power : ℤ}
    (hdigits : ∀ d ∈ c :: tail, d.isDigit = true) (hpower : exponent? ('E' :: rest) = some power) :
    Denotes ([c] ++ pointed tail ++ 'E' :: rest) (natOfDigits (c :: tail)) (power - tail.length) := by
  have hfirst : ∀ d ∈ [c], d.isDigit = true :=
    fun d hd => List.mem_singleton.1 hd ▸ hdigits c List.mem_cons_self
  refine ⟨⟨c, by cases tail <;> rfl, hdigits c List.mem_cons_self⟩, tail.length, 'E' :: rest, power, ?_,
    hpower, rfl⟩
  cases tail with
  | nil => exact mantissa?_whole hfirst (List.cons_ne_nil c []) (stops_exponent rest)
  | cons d tail =>
    exact mantissa?_point hfirst (List.cons_ne_nil c [])
      (fun e he => hdigits e (List.mem_cons_of_mem _ he)) (stops_exponent rest)

/-- The canonical text of a finite decimal number is a numeral of its coefficient and its exponent. -/
theorem denotes_finiteText (coefficient : ℕ) (exponent : ℤ) :
    Denotes (finiteText coefficient exponent).toList coefficient exponent := by
  obtain ⟨digits, hdigits⟩ : ∃ digits, digits = Nat.toDigits 10 coefficient := ⟨_, rfl⟩
  have hisDigit : ∀ c ∈ digits, c.isDigit = true := hdigits ▸ isDigit_toDigits coefficient
  have hne : digits ≠ [] := hdigits ▸ Nat.toDigits_ne_nil
  have hvalue : natOfDigits digits = coefficient := hdigits ▸ natOfDigits_toDigits coefficient
  unfold finiteText
  rw [← hdigits]
  dsimp only
  split
  · rename_i hplain
    split
    · rename_i hwhole
      obtain rfl := Int.natAbs_eq_zero.1 hwhole
      have hdenotes := denotes_of_whole hisDigit hne
      rwa [hvalue, ← String.toList_ofList (l := digits)] at hdenotes
    · split
      · rename_i hlength
        have hdenotes := denotes_behind_zeros hisDigit (exponent.natAbs - digits.length)
        have hplaces : -((exponent.natAbs - digits.length + digits.length : ℕ) : ℤ) = exponent := by omega
        rw [hvalue, hplaces] at hdenotes
        rwa [String.toList_ofList]
      · rename_i hlength
        have hdenotes := denotes_around_point hisDigit (show 0 < digits.length - exponent.natAbs by omega)
          (Nat.sub_le _ _)
        have hplaces : ((digits.length - exponent.natAbs : ℕ) : ℤ) - digits.length = exponent := by omega
        rw [hvalue, hplaces] at hdenotes
        rwa [String.toList_ofList]
  · obtain ⟨c, tail, rfl⟩ := List.exists_cons_of_ne_nil hne
    have hdenotes := denotes_of_exponent hisDigit
      (exponent?_written (exponent + (c :: tail).length - 1))
    have hplaces : exponent + ((c :: tail).length : ℤ) - 1 - tail.length = exponent := by
      rw [List.length_cons]
      omega
    rw [hvalue, hplaces] at hdenotes
    rwa [String.toList_ofList]

end Decimal128

end DocStore
