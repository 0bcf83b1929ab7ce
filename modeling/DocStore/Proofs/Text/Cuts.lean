import DocStore.Proofs.Numeric.Numerals
/-!
Where a part of a text ends. Two texts that are the same have the same first part, when nothing inside
either part could be taken for its end.
-/
namespace DocStore.Text

variable {Ends : List Char → Prop} {part part' rest rest' : List Char} {c : Char}

/-- The text goes on with an end behind the part, and with none from inside it. -/
def EndsAt (Ends : List Char → Prop) (part rest : List Char) : Prop :=
  Ends rest ∧ ∀ front back, part = front ++ back → back ≠ [] → ¬Ends (back ++ rest)

theorem EndsAt.unique (h : EndsAt Ends part rest) (h' : EndsAt Ends part' rest')
    (heq : part ++ rest = part' ++ rest') : part = part' ∧ rest = rest' := by
  rcases List.append_eq_append_iff.1 heq with ⟨back, hpart, hrest⟩ | ⟨back, hpart, hrest⟩
  · cases back with
    | nil => exact ⟨by rw [hpart, List.append_nil], by rw [hrest, List.nil_append]⟩
    | cons c back => exact absurd (hrest ▸ h.1) (h'.2 part _ hpart (List.cons_ne_nil c back))
  · cases back with
    | nil => exact ⟨by rw [hpart, List.append_nil], by rw [hrest, List.nil_append]⟩
    | cons c back => exact absurd (hrest ▸ h'.1) (h.2 part' _ hpart (List.cons_ne_nil c back))

/-- A text that goes on with one of these characters. -/
def StartsWith (p : Char → Prop) (cs : List Char) : Prop := ∃ c ∈ cs.head?, p c

theorem startsWith_cons {p : Char → Prop} (h : p c) : StartsWith p (c :: rest) := ⟨c, rfl, h⟩

/-- A part ends at the first character of a kind that it has none of. -/
theorem endsAt_of_forall {p : Char → Prop} (hpart : ∀ c ∈ part, ¬p c) (hrest : StartsWith p rest) :
    EndsAt (StartsWith p) part rest := by
  refine ⟨hrest, fun front back hsplit hne => ?_⟩
  rintro ⟨c, hc, hp⟩
  obtain ⟨d, back, rfl⟩ := List.exists_cons_of_ne_nil hne
  obtain rfl := Option.some.inj hc
  exact hpart d (hsplit ▸ List.mem_append_right front List.mem_cons_self) hp

/-- A part ends at the first place where a character stands. -/
theorem unique_of_notMem (h : c ∉ part) (h' : c ∉ part') (heq : part ++ c :: rest = part' ++ c :: rest') :
    part = part' ∧ rest = rest' := by
  have hends {part rest : List Char} (h : c ∉ part) : EndsAt (StartsWith (· = c)) part (c :: rest) :=
    endsAt_of_forall (fun d hd hdc => h (hdc ▸ hd)) (startsWith_cons rfl)
  obtain ⟨hpart, hrest⟩ := (hends h).unique (hends h') heq
  exact ⟨hpart, (List.cons.inj hrest).2⟩

/-- A part that goes on with a mark and one of some texts ends there, when it holds no such text behind a
mark. None of them is to hold the mark itself, so that an end cannot begin inside the part. -/
theorem endsAt_of_no_occurrence {ends : List (List Char)} (hends : ∀ e ∈ ends, c ∉ e)
    (hpart : ∀ e ∈ ends, ¬(c :: e) <:+: part) (hrest : ∃ e ∈ ends, e <+: rest) :
    EndsAt (fun cs => ∃ e ∈ ends, (c :: e) <+: cs) part (c :: rest) := by
  obtain ⟨e, he, hprefix⟩ := hrest
  refine ⟨⟨e, he, List.prefix_cons_inj c |>.2 hprefix⟩, fun front back hsplit hne => ?_⟩
  rintro ⟨e, he, hprefix⟩
  have hback : back ++ [c] <+: back ++ c :: rest :=
    List.prefix_append_right_inj back |>.2 ⟨rest, rfl⟩
  rcases Nat.lt_or_ge back.length (c :: e).length with hlong | hshort
  · have hinside : back ++ [c] <+: c :: e :=
      List.prefix_of_prefix_length_le hback hprefix (by rw [List.length_append]; exact hlong)
    obtain ⟨d, back, rfl⟩ := List.exists_cons_of_ne_nil hne
    rw [List.cons_append, List.cons_prefix_cons] at hinside
    exact hends e he (hinside.2.subset (List.mem_append_right back List.mem_cons_self))
  · have hinside : c :: e <+: back :=
      List.prefix_of_prefix_length_le hprefix (List.prefix_append back _) hshort
    exact hpart e he (hsplit ▸ hinside.isInfix.trans (List.suffix_append front back).isInfix)

/-- What cannot go on with the digits of a number. -/
def EndsDigits : List Char → Prop := StartsWith fun c => c.isDigit = false

theorem endsDigits_cons (h : c.isDigit = false) : EndsDigits (c :: rest) := startsWith_cons h

variable (hrest : EndsDigits rest) (hrest' : EndsDigits rest')
include hrest hrest'

theorem unique_digits (hdigits : ∀ d ∈ part, d.isDigit = true) (hdigits' : ∀ d ∈ part', d.isDigit = true)
    (heq : part ++ rest = part' ++ rest') : part = part' ∧ rest = rest' := by
  have hends {part rest : List Char} (hdigits : ∀ d ∈ part, d.isDigit = true) (hrest : EndsDigits rest) :
      EndsAt EndsDigits part rest :=
    endsAt_of_forall (fun d hd hnot => absurd (hdigits d hd) (by rw [hnot]; decide)) hrest
  exact (hends hdigits hrest).unique (hends hdigits' hrest') heq

theorem unique_toDigits {n m : ℕ} (heq : Nat.toDigits 10 n ++ rest = Nat.toDigits 10 m ++ rest') :
    n = m ∧ rest = rest' := by
  obtain ⟨hdigits, hrest⟩ :=
    unique_digits hrest hrest' (Reading.isDigit_toDigits n) (Reading.isDigit_toDigits m) heq
  refine ⟨?_, hrest⟩
  rw [← Reading.natOfDigits_toDigits n, hdigits, Reading.natOfDigits_toDigits]

/-- No digits start with a sign. -/
theorem unique_signed {negative negative' : Bool} (hdigits : ∀ d ∈ part, d.isDigit = true) (hne : part ≠ [])
    (hdigits' : ∀ d ∈ part', d.isDigit = true) (hne' : part' ≠ [])
    (heq : Reading.signed negative part ++ rest = Reading.signed negative' part' ++ rest') :
    negative = negative' ∧ part = part' ∧ rest = rest' := by
  have hhead {part : List Char} (hdigits : ∀ d ∈ part, d.isDigit = true) (hne : part ≠ []) (rest : List Char) :
      (part ++ rest).head? ≠ some '-' := by
    rw [List.head?_append_of_ne_nil _ hne]
    exact (Reading.denotes_of_whole hdigits hne).ne_minus
  cases negative <;> cases negative'
  · exact ⟨rfl, unique_digits hrest hrest' hdigits hdigits' heq⟩
  · exact absurd (congrArg List.head? heq) (hhead hdigits hne rest)
  · exact absurd (congrArg List.head? heq).symm (hhead hdigits' hne' rest')
  · exact ⟨rfl, unique_digits hrest hrest' hdigits hdigits' (List.tail_eq_of_cons_eq heq)⟩

theorem unique_toString {n m : ℤ} (heq : (toString n).toList ++ rest = (toString m).toList ++ rest') :
    n = m ∧ rest = rest' := by
  rw [Reading.toList_toString, Reading.toList_toString] at heq
  obtain ⟨hsign, hdigits, hrest⟩ := unique_signed hrest hrest' (Reading.isDigit_toDigits _)
    Nat.toDigits_ne_nil (Reading.isDigit_toDigits _) Nat.toDigits_ne_nil heq
  have habs : n.natAbs = m.natAbs := by
    rw [← Reading.natOfDigits_toDigits n.natAbs, hdigits, Reading.natOfDigits_toDigits]
  rw [decide_eq_decide] at hsign
  exact ⟨by omega, hrest⟩

end DocStore.Text
