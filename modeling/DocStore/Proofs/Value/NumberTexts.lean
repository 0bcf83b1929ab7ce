import DocStore.Value.Order
import DocStore.Value.Text
import DocStore.Proofs.Text.Cuts
/-!
The texts of numbers. A number is read back from its text as a binary number, whatever type it has, so that
two numbers with one text are equal in a filter; two numbers of one type with one text are the same.
-/
namespace DocStore

namespace Binary64

theorem eq_infinity {x : Binary64} (h : x.isInfinite = true) : x = infinity x.negative := by
  have hself := ofMagnitude_magnitude x
  rw [of_decide_eq_true h] at hself
  exact hself.symm

theorem isFinite_of_not {x : Binary64} (hnan : x.isNaN = false) (hinfinite : x.isInfinite = false) :
    x.isFinite = true := by
  have hle := of_decide_eq_false hnan
  have hne := of_decide_eq_false hinfinite
  exact decide_eq_true (by omega)

theorem text_of_isFinite {x : Binary64} (hnan : x.isNaN = false) (hinfinite : x.isInfinite = false) :
    x.text = DecimalLayout.plain.render x := by
  rw [text, hnan, hinfinite]
  rfl

end Binary64

namespace Value

/-- The types of numbers. -/
inductive NumberType where
  | int32
  | int64
  | double
  | decimal
deriving DecidableEq, Repr

def numberType? : Value → Option NumberType
  | .int32 _ => some .int32
  | .int64 _ => some .int64
  | .double _ => some .double
  | .decimal _ => some .decimal
  | _ => none

/-- A number that is told by a numeral or a name. All NaNs have one name, which is for the one without a
sign and a payload. -/
def IsNumeral : Value → Prop
  | .int32 _ | .int64 _ => True
  | .double x => x.isNaN = true → x = .nan false
  | .decimal x => ∀ signalling, x.magnitude = .nan signalling → x = ⟨false, .nan false⟩
  | _ => False

instance : DecidablePred IsNumeral
  | .int32 _ | .int64 _ => .isTrue trivial
  | .double x => inferInstanceAs (Decidable (x.isNaN = true → x = .nan false))
  | .decimal x =>
    inferInstanceAs (Decidable (∀ signalling, x.magnitude = .nan signalling → x = ⟨false, .nan false⟩))
  | .null | .undefined | .minKey | .maxKey | .bool _ | .string _ | .symbol _ | .objectId _ | .dateTime _
  | .timestamp _ _ | .binary _ _ | .regex _ _ | .code _ | .codeWithScope _ _ | .dbPointer _ _ | .array _
  | .document _ => .isFalse id

theorem IsNumeral.isNumber {v : Value} (h : v.IsNumeral) : v.isNumber = true := by
  cases v <;> first | rfl | exact h.elim

open Reading Text

section Texts

theorem binary64?_toString (n : ℤ) : binary64? (toString n) = some (.ofInt n) := by
  rw [binary64?_signed (toList_toString n) (denotes_toDigits _), Binary64.ofDecimal_zero]

theorem binary64?_text_double {x : Binary64} (h : IsNumeral (.double x)) : binary64? x.text = some x := by
  cases hnan : x.isNaN with
  | true =>
    rw [h hnan]
    rfl
  | false =>
    cases hinfinite : x.isInfinite with
    | true =>
      rw [Binary64.text, hnan, hinfinite]
      rw [Binary64.eq_infinity hinfinite]
      cases x.negative <;> rfl
    | false =>
      obtain ⟨digits, exponent, hdenotes, hvalue⟩ :=
        DecimalLayout.exists_denotes_render (Binary64.isFinite_of_not hnan hinfinite)
      rw [Binary64.text_of_isFinite hnan hinfinite,
        binary64?_signed (DecimalLayout.toList_render x) hdenotes, hvalue]

theorem toList_decimal (negative : Bool) (s : String) :
    (Decimal128.signed negative s).toList = signed negative s.toList := by
  cases negative with
  | true => rw [Decimal128.signed, if_pos rfl, String.toList_append]; rfl
  | false => rfl

theorem binary64?_text_decimal {x : Decimal128} (h : IsNumeral (.decimal x)) :
    binary64? x.text = some x.toBinary64 := by
  obtain ⟨negative, magnitude⟩ := x
  cases magnitude with
  | nan signalling =>
    rw [h signalling rfl]
    rfl
  | infinity => cases negative <;> rfl
  | finite coefficient exponent =>
    exact binary64?_signed (toList_decimal _ _) (Decimal128.denotes_finiteText _ _)

/-- A number of any type is read from its text as the binary number that filters compare it by. -/
theorem binary64?_text {v : Value} (h : v.IsNumeral) : binary64? v.text = some v.toBinary64 := by
  cases v with
  | int32 n => rw [text]; exact binary64?_toString _
  | int64 n => rw [text]; exact binary64?_toString _
  | double x => rw [text]; exact binary64?_text_double h
  | decimal x => rw [text]; exact binary64?_text_decimal h
  | _ => exact h.elim

theorem toBinary64_eq_of_text {v w : Value} (hv : v.IsNumeral) (hw : w.IsNumeral) (heq : v.text = w.text) :
    v.toBinary64 = w.toBinary64 := by
  have hread := binary64?_text hv
  rw [heq, binary64?_text hw] at hread
  exact (Option.some.inj hread).symm

/-- What is written of a decimal number that is not NaN behind its sign. -/
def unsignedText : DecimalMagnitude → String
  | .nan _ => "NaN"
  | .infinity => "Infinity"
  | .finite coefficient exponent => Decimal128.finiteText coefficient exponent

theorem toList_text_decimal {x : Decimal128} (h : IsNumeral (.decimal x)) :
    x.text.toList = signed x.negative (unsignedText x.magnitude).toList := by
  obtain ⟨negative, magnitude⟩ := x
  cases magnitude with
  | nan signalling =>
    obtain ⟨rfl, -⟩ := Decimal128.mk.inj (h signalling rfl)
    rfl
  | infinity | finite => exact toList_decimal _ _

theorem head?_unsignedText (magnitude : DecimalMagnitude) :
    (unsignedText magnitude).toList.head? ≠ some '-' := by
  cases magnitude with
  | nan => exact (show "NaN".toList.head? ≠ some '-' by decide)
  | infinity => decide
  | finite coefficient exponent => exact (Decimal128.denotes_finiteText coefficient exponent).ne_minus

/-- Up to the NaNs, which have one name, magnitudes are told by what is written of them. -/
theorem eq_of_unsignedText {magnitude magnitude' : DecimalMagnitude}
    (heq : unsignedText magnitude = unsignedText magnitude') :
    magnitude = magnitude' ∨ (∃ s, magnitude = .nan s) ∧ ∃ s, magnitude' = .nan s := by
  have hname {c : Char} (name : String) (hc : c ∈ name.toList.head?) (hletter : c.isDigit = false)
      (coefficient : ℕ) (exponent : ℤ) : name ≠ unsignedText (.finite coefficient exponent) := by
    rintro rfl
    obtain ⟨⟨d, hd, hdigit⟩, -⟩ := Decimal128.denotes_finiteText coefficient exponent
    obtain rfl := Option.some.inj (hd.symm.trans hc)
    exact absurd hdigit (by rw [hletter]; decide)
  have hnan := hname "NaN" rfl (by decide)
  have hinfinity := hname "Infinity" rfl (by decide)
  cases magnitude <;> cases magnitude'
  case nan.nan => exact .inr ⟨⟨_, rfl⟩, _, rfl⟩
  case infinity.infinity => exact .inl rfl
  case finite.finite c e c' e' =>
    have hdenotes := Decimal128.denotes_finiteText c e
    rw [show Decimal128.finiteText c e = Decimal128.finiteText c' e' from heq] at hdenotes
    obtain ⟨rfl, rfl⟩ := hdenotes.unique (Decimal128.denotes_finiteText c' e')
    exact .inl rfl
  case nan.finite => exact absurd heq (hnan _ _)
  case finite.nan => exact absurd heq.symm (hnan _ _)
  case infinity.finite => exact absurd heq (hinfinity _ _)
  case finite.infinity => exact absurd heq.symm (hinfinity _ _)
  case nan.infinity => exact absurd heq (show "NaN" ≠ "Infinity" by decide)
  case infinity.nan => exact absurd heq (show "Infinity" ≠ "NaN" by decide)

theorem eq_of_text_decimal {x y : Decimal128} (hx : IsNumeral (.decimal x)) (hy : IsNumeral (.decimal y))
    (heq : x.text = y.text) : x = y := by
  have htexts := congrArg String.toList heq
  rw [toList_text_decimal hx, toList_text_decimal hy] at htexts
  obtain ⟨hsign, hunsigned⟩ := signed_inj (head?_unsignedText _) (head?_unsignedText _) htexts
  rcases eq_of_unsignedText (String.toList_inj.1 hunsigned) with
    hmagnitude | ⟨⟨_, hnan⟩, _, hnan'⟩
  · cases x; cases y
    exact congrArg₂ _ hsign hmagnitude
  · rw [hx _ hnan, hy _ hnan']

theorem toString_injective {n m : ℤ} (heq : toString n = toString m) : n = m := by
  have hcomma : Text.EndsDigits [','] := Text.endsDigits_cons (by decide)
  exact (Text.unique_toString hcomma hcomma (congrArg (fun s => s.toList ++ [',']) heq)).1

/-- Numbers of one type are told by their texts. -/
theorem eq_of_text {v w : Value} (hv : v.IsNumeral) (hw : w.IsNumeral) (htype : v.numberType? = w.numberType?)
    (heq : v.text = w.text) : v = w := by
  cases v with
  | int32 n =>
    cases w with
    | int32 m =>
      rw [text, text] at heq
      rw [Int32.toInt_inj.1 (toString_injective heq)]
    | _ => exact nomatch htype
  | int64 n =>
    cases w with
    | int64 m =>
      rw [text, text] at heq
      rw [Int64.toInt_inj.1 (toString_injective heq)]
    | _ => exact nomatch htype
  | double x =>
    cases w with
    | double y => exact congrArg _ (toBinary64_eq_of_text hv hw heq)
    | _ => exact nomatch htype
  | decimal x =>
    cases w with
    | decimal y =>
      rw [text, text] at heq
      rw [eq_of_text_decimal hv hw heq]
    | _ => exact nomatch htype
  | _ => exact hv.elim

/-- The names of the numbers that are not written in digits. -/
def numberNames : List String := ["NaN", "inf", "-inf", "Infinity", "-Infinity"]

/-- A number is written as one of the names, or as a numeral behind its sign. -/
theorem text_shape {v : Value} (h : v.IsNumeral) : v.text ∈ numberNames ∨
    ∃ negative cs, v.text.toList = signed negative cs ∧ StartsWith (·.isDigit = true) cs ∧
      ∀ c ∈ cs, IsNumeralChar c := by
  have hint (n : ℤ) : ∃ negative cs, (toString n).toList = signed negative cs ∧
      StartsWith (·.isDigit = true) cs ∧ ∀ c ∈ cs, IsNumeralChar c :=
    ⟨_, _, toList_toString n, (denotes_toDigits _).1, fun c hc => .inl (isDigit_toDigits _ c hc)⟩
  cases v with
  | int32 n => rw [text]; exact .inr (hint n.toInt)
  | int64 n => rw [text]; exact .inr (hint n.toInt)
  | double x =>
    rw [text]
    cases hnan : x.isNaN with
    | true =>
      rw [h hnan]
      exact .inl (by decide)
    | false =>
      cases hinfinite : x.isInfinite with
      | true =>
        rw [Binary64.eq_infinity hinfinite]
        cases x.negative <;> exact .inl (by decide)
      | false =>
        rw [Binary64.text_of_isFinite hnan hinfinite]
        obtain ⟨_, _, hdenotes, -⟩ :=
          DecimalLayout.exists_denotes_render (Binary64.isFinite_of_not hnan hinfinite)
        exact .inr ⟨_, _, DecimalLayout.toList_render x, hdenotes.1,
          DecimalLayout.isNumeralChar_positionalText (Binary64.isDigit_shortest .up x)⟩
  | decimal x =>
    rw [text]
    obtain ⟨negative, magnitude⟩ := x
    cases magnitude with
    | nan => exact .inl List.mem_cons_self
    | infinity => cases negative <;> exact .inl (by decide)
    | finite coefficient exponent =>
      exact .inr ⟨_, _, toList_decimal _ _, (Decimal128.denotes_finiteText _ _).1,
        Decimal128.isNumeralChar_finiteText _ _⟩
  | _ => exact h.elim

/-- What stands in a text of values after a number is no part of it. -/
theorem notMem_text {v : Value} {c : Char} (h : v.IsNumeral) (hnumeral : ¬IsNumeralChar c)
    (hname : ∀ name ∈ numberNames, c ∉ name.toList) : c ∉ v.text.toList := by
  rcases text_shape h with hmem | ⟨negative, cs, htext, -, hchars⟩
  · exact hname _ hmem
  · rw [htext]
    exact fun hc => hnumeral (isNumeralChar_signed hchars c hc)

/-- What a number starts with. -/
def StartsNumber (c : Char) : Prop := c.isDigit = true ∨ c ∈ ['-', 'N', 'i', 'I']

theorem startsNumber_text {v : Value} (h : v.IsNumeral) : StartsWith StartsNumber v.text.toList := by
  have hnames : ∀ name ∈ numberNames, name.toList.head?.any (· ∈ ['-', 'N', 'i', 'I']) = true := by decide
  rcases text_shape h with hmem | ⟨negative, cs, htext, ⟨c, hc, hdigit⟩, -⟩
  · obtain ⟨c, hc, hletter⟩ := Option.any_eq_true _ _ |>.1 (hnames _ hmem)
    exact ⟨c, hc, .inr (of_decide_eq_true hletter)⟩
  · rw [htext]
    cases negative with
    | true => exact ⟨'-', rfl, .inr (by decide)⟩
    | false => exact ⟨c, hc, .inl hdigit⟩

end Texts

end Value

end DocStore
