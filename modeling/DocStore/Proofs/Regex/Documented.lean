import DocStore.Regex.Engine
import Mathlib.Data.List.Infix
/-!
What is relied on of a library of regular expressions. It is said of plain patterns alone: of letters, of
signs with a backslash before them and of the anchors `^` and `$`, and within ASCII. A text that is written
as such a pattern is found at the front of a string, anywhere in it or at its back.
-/
namespace DocStore

namespace Text

def IsAscii (s : String) : Prop := ∀ c ∈ s.toList, c.toNat < 128

instance (s : String) : Decidable (IsAscii s) :=
  List.decidableBAll (fun c : Char => c.toNat < 128) s.toList

/-- The text without regard to the case of its letters. -/
def lowered (s : String) : List Char := s.toList.map Char.toLower

end Text

namespace Regex

/-- Signs that have a meaning outside of brackets. -/
def isSpecial (c : Char) : Bool :=
  ['\\', '.', '+', '*', '?', '(', ')', '|', '[', '\x7b', '^', '$'].contains c

/-- What a backslash turns into itself: ASCII outside letters, digits and angle brackets. -/
def isSign (c : Char) : Bool :=
  decide (c.toNat < 128) && !c.isAlphanum && c != '<' && c != '>'

/-- What a plain pattern asks for at a place. -/
inductive Item where
  | letter (c : Char)
  | front
  | back

/-- A plain pattern and what it asks for, one after the other. -/
inductive Plain : List Char → List Item → Prop where
  | nil : Plain [] []
  | letter {c : Char} {pattern : List Char} {items : List Item} (hc : isSpecial c = false)
    (h : Plain pattern items) : Plain (c :: pattern) (.letter c :: items)
  | escaped {c : Char} {pattern : List Char} {items : List Item} (hc : isSign c = true)
    (h : Plain pattern items) : Plain ('\\' :: c :: pattern) (.letter c :: items)
  | front {pattern : List Char} {items : List Item} (h : Plain pattern items) :
    Plain ('^' :: pattern) (.front :: items)
  | back {pattern : List Char} {items : List Item} (h : Plain pattern items) :
    Plain ('$' :: pattern) (.back :: items)

/-- Whether a letter of a pattern stands for a character. -/
def Flags.Same (flags : Flags) (c x : Char) : Prop :=
  if flags.caseless then c.toLower = x.toLower else c = x

/-- A match can begin between what stands before a place of a string and what stands behind it. -/
inductive Begins (flags : Flags) : List Item → List Char → List Char → Prop where
  | nil {before rest : List Char} : Begins flags [] before rest
  | letter {c x : Char} {items : List Item} {before rest : List Char} (hsame : flags.Same c x)
    (h : Begins flags items (before ++ [x]) rest) : Begins flags (.letter c :: items) before (x :: rest)
  | front {items : List Item} {rest : List Char} (h : Begins flags items [] rest) :
    Begins flags (.front :: items) [] rest
  | back {items : List Item} {before : List Char} (h : Begins flags items before []) :
    Begins flags (.back :: items) before []

def Found (flags : Flags) (items : List Item) (string : List Char) : Prop :=
  ∃ before rest, string = before ++ rest ∧ Begins flags items before rest

/-- A plain pattern can be read, and is refused only if it is too large, which one of up to `room` characters
is not. It is found where a match begins, as long as the anchors do not stand for the ends of lines. -/
structure Engine.Documented [Engine] (room : ℕ) : Prop where
  refused {flags : Flags} {pattern : String} {items : List Item} {refusal : Refusal}
    (hplain : Plain pattern.toList items) (hpattern : Text.IsAscii pattern)
    (hread : Engine.read flags pattern = .error refusal) :
    room < pattern.length ∧ ∃ limit, refusal = .tooLarge limit
  found_iff {flags : Flags} {pattern : String} {items : List Item} {isMatch : String → Bool} {s : String}
    (hplain : Plain pattern.toList items) (hpattern : Text.IsAscii pattern) (hs : Text.IsAscii s)
    (hflags : flags.multiline = false) (hread : Engine.read flags pattern = .ok isMatch) :
    isMatch s = true ↔ Found flags items s.toList

/-- The pattern asks for the letters of the text. -/
def Spells (pattern text : List Char) : Prop := Plain pattern (text.map .letter)

variable {flags : Flags} {pattern rest text string before : List Char} {items items' : List Item}

theorem Plain.append (h : Plain pattern items) (h' : Plain rest items') :
    Plain (pattern ++ rest) (items ++ items') := by
  induction h with
  | nil => exact h'
  | letter hc _ ih => exact .letter hc ih
  | escaped hc _ ih => exact .escaped hc ih
  | front _ ih => exact .front ih
  | back _ ih => exact .back ih

/-- A text without special signs spells itself. -/
theorem spells_self (h : ∀ c ∈ text, isSpecial c = false) : Spells text text := by
  induction text with
  | nil => exact .nil
  | cons c rest ih =>
    obtain ⟨hc, hrest⟩ := List.forall_mem_cons.1 h
    exact .letter hc (ih hrest)

theorem begins_letter_iff {c : Char} :
    Begins flags (.letter c :: items) before rest ↔
      ∃ x more, rest = x :: more ∧ flags.Same c x ∧ Begins flags items (before ++ [x]) more := by
  constructor
  · intro h
    cases h with
    | letter hsame h => exact ⟨_, _, rfl, hsame, h⟩
  · rintro ⟨x, more, rfl, hsame, h⟩
    exact .letter hsame h

theorem begins_front_iff :
    Begins flags (.front :: items) before rest ↔ before = [] ∧ Begins flags items before rest := by
  constructor
  · intro h
    cases h with
    | front h => exact ⟨rfl, h⟩
  · rintro ⟨rfl, h⟩
    exact .front h

theorem begins_back_iff :
    Begins flags (.back :: items) before rest ↔ rest = [] ∧ Begins flags items before rest := by
  constructor
  · intro h
    cases h with
    | back h => exact ⟨rfl, h⟩
  · rintro ⟨rfl, h⟩
    exact .back h

section Caseless

variable (hcaseless : flags.caseless = true)
include hcaseless

/-- A match of letters takes up a stretch that shows the same letters in lower case. -/
theorem begins_letters_iff :
    Begins flags (text.map .letter ++ items) before rest ↔
      ∃ stretch after, rest = stretch ++ after ∧ text.map Char.toLower = stretch.map Char.toLower ∧
        Begins flags items (before ++ stretch) after := by
  induction text generalizing before rest with
  | nil =>
    constructor
    · intro h
      exact ⟨[], rest, rfl, rfl, by rwa [List.append_nil]⟩
    · rintro ⟨stretch, after, rfl, hstretch, h⟩
      cases List.map_eq_nil_iff.1 hstretch.symm
      rwa [List.append_nil] at h
  | cons c text ih =>
    have hsame (x : Char) : flags.Same c x ↔ c.toLower = x.toLower := by
      rw [Flags.Same, if_pos hcaseless]
    simp only [List.map_cons, List.cons_append, begins_letter_iff, ih, hsame]
    constructor
    · rintro ⟨x, _, rfl, hx, stretch, after, rfl, hstretch, h⟩
      rw [List.append_assoc] at h
      exact ⟨x :: stretch, after, rfl, by rw [List.map_cons, hx, hstretch], h⟩
    · rintro ⟨stretch, after, rfl, hstretch, h⟩
      obtain ⟨x, stretch, rfl, hx, hmore⟩ := List.map_eq_cons_iff.1 hstretch.symm
      exact ⟨x, stretch ++ after, rfl, hx.symm, stretch, after, rfl, hmore.symm,
        by rwa [List.append_assoc]⟩

theorem found_front_iff :
    Found flags (.front :: text.map .letter) string ↔
      text.map Char.toLower <+: string.map Char.toLower := by
  have hbegins (rest : List Char) : Begins flags (text.map .letter) [] rest ↔
      text.map Char.toLower <+: rest.map Char.toLower := by
    rw [← List.append_nil (text.map Item.letter), begins_letters_iff hcaseless]
    constructor
    · rintro ⟨stretch, after, rfl, hstretch, -⟩
      rw [hstretch, List.map_append]
      exact List.prefix_append _ _
    · rintro ⟨after, hafter⟩
      obtain ⟨stretch, after, rfl, hstretch, -⟩ := List.map_eq_append_iff.1 hafter.symm
      exact ⟨stretch, after, rfl, hstretch.symm, .nil⟩
  simp only [Found, begins_front_iff]
  constructor
  · rintro ⟨_, rest, rfl, rfl, h⟩
    exact (hbegins rest).1 h
  · intro h
    exact ⟨[], string, rfl, rfl, (hbegins string).2 h⟩

theorem found_anywhere_iff :
    Found flags (text.map .letter) string ↔ text.map Char.toLower <:+: string.map Char.toLower := by
  rw [← List.append_nil (text.map Item.letter)]
  simp only [Found, begins_letters_iff hcaseless]
  constructor
  · rintro ⟨before, _, rfl, stretch, after, rfl, hstretch, -⟩
    exact ⟨before.map Char.toLower, after.map Char.toLower, by simp [hstretch]⟩
  · rintro ⟨before, after, hafter⟩
    obtain ⟨front, after, rfl, hfront, -⟩ := List.map_eq_append_iff.1 hafter.symm
    obtain ⟨before, stretch, rfl, -, hstretch⟩ := List.map_eq_append_iff.1 hfront
    exact ⟨before, stretch ++ after, List.append_assoc _ _ _, stretch, after, rfl, hstretch.symm, .nil⟩

theorem found_back_iff :
    Found flags (text.map .letter ++ [.back]) string ↔
      text.map Char.toLower <:+ string.map Char.toLower := by
  simp only [Found, begins_letters_iff hcaseless, begins_back_iff]
  constructor
  · rintro ⟨before, _, rfl, stretch, _, rfl, hstretch, rfl, -⟩
    exact ⟨before.map Char.toLower, by simp [hstretch]⟩
  · rintro ⟨before, hbefore⟩
    obtain ⟨before, stretch, rfl, -, hstretch⟩ := List.map_eq_append_iff.1 hbefore.symm
    exact ⟨before, stretch, rfl, stretch, [], (List.append_nil _).symm, hstretch.symm, rfl, .nil⟩

end Caseless

end Regex

end DocStore
