import DocStore.Value.Order
/-!
Comparing values. Each value has a place, which is the rank of its type and then its content, and
places are in a total order. Values compare as their places do but for one thing: a symbol ranks with
the strings and has no content that is compared, so that it comes out equal to every string.
-/
namespace DocStore

/-- The place of a value among all values. Types that are compared by their rank alone have all
their values at one place. -/
structure Place where
  rank : Nat
  measure : Int
  text : String

instance : Ord Place :=
  ⟨compareLex (compareOn Place.rank) (compareLex (compareOn Place.measure) (compareOn Place.text))⟩

instance : Std.TransOrd Place :=
  inferInstanceAs (Std.TransCmp (compareLex (compareOn Place.rank)
    (compareLex (compareOn Place.measure) (compareOn Place.text))))

namespace Value

def measure : Value → Int
  | .bool b => b.toNat
  | .dateTime millis => millis.toInt
  | .objectId id => id.number.toNat
  | v => if v.isNumber then v.toBinary64.orderKey else 0

/-- The text that is compared, where a symbol passes for `shown`. -/
def shownText (rule : CaseRule) (shown : String) : Value → String
  | .string s => rule.key s
  | .symbol _ => shown
  | _ => ""

def place (rule : CaseRule) (shown : String) (v : Value) : Place :=
  ⟨v.typeRank, v.measure, v.shownText rule shown⟩

variable {rule : CaseRule} {a b : Value}

theorem compare_place (p q : Place) :
    Ord.compare p q = (Ord.compare p.rank q.rank).then
      ((Ord.compare p.measure q.measure).then (Ord.compare p.text q.text)) := rfl

theorem compare_natCast (m n : Nat) : Ord.compare (m : Int) (n : Int) = Ord.compare m n := by
  simp only [Ord.compare, compareOfLessAndEq, Int.ofNat_lt, Int.natCast_inj]

theorem compare_of_typeRank_ne (h : a.typeRank ≠ b.typeRank) :
    a.compare rule b = Ord.compare a.typeRank b.typeRank := by
  unfold compare
  split
  · cases a <;> cases b <;> simp_all [isNumber, typeRank]
  · split <;> simp_all [typeRank]

/-- Within a rank it is the content that is compared, if a symbol shows the text of the string that
it is compared with. -/
theorem compare_of_typeRank_eq {shown : String} (h : a.typeRank = b.typeRank)
    (ha : ∀ s x, a = .symbol s → b = .string x → rule.key x = shown)
    (hb : ∀ s x, b = .symbol s → a = .string x → rule.key x = shown) :
    a.compare rule b = (Ord.compare a.measure b.measure).then
      (Ord.compare (a.shownText rule shown) (b.shownText rule shown)) := by
  cases a <;> cases b <;> first
    | (cases h; done)
    | rfl
    | simp_all [compare, compareNumbers, compare_natCast, measure, isNumber, shownText]

/-- Two strings that do not count as the same text, and a symbol beside them. -/
def Mixes (rule : CaseRule) (vs : List Value) : Prop :=
  ∃ s x y, .symbol s ∈ vs ∧ .string x ∈ vs ∧ .string y ∈ vs ∧ rule.key x ≠ rule.key y

theorem compare_eq_places {shown : String}
    (ha : ∀ s x, a = .symbol s → b = .string x → rule.key x = shown)
    (hb : ∀ s x, b = .symbol s → a = .string x → rule.key x = shown) :
    a.compare rule b = Ord.compare (a.place rule shown) (b.place rule shown) := by
  rw [compare_place, place, place]
  by_cases h : a.typeRank = b.typeRank
  · rw [compare_of_typeRank_eq h ha hb, h, Nat.compare_eq_eq.2 rfl, Ordering.eq_then]
  · rw [compare_of_typeRank_ne h]
    cases hrank : Ord.compare a.typeRank b.typeRank with
    | eq => exact absurd (Nat.compare_eq_eq.1 hrank) h
    | lt => rfl
    | gt => rfl

/-- Values compare by their places if there is one text that the symbols among them can pass for. -/
theorem exists_places {vs : List Value} (h : ¬Mixes rule vs) :
    ∃ shown, ∀ a ∈ vs, ∀ b ∈ vs,
      a.compare rule b = Ord.compare (a.place rule shown) (b.place rule shown) := by
  by_cases hstring : ∃ x, .string x ∈ vs
  · obtain ⟨x, hx⟩ := hstring
    have hshown : ∀ s y, .symbol s ∈ vs → .string y ∈ vs → rule.key y = rule.key x :=
      fun s y hs hy => Classical.not_not.1 fun hne => h ⟨s, y, x, hs, hy, hx, hne⟩
    refine ⟨rule.key x, fun a ha b hb => compare_eq_places ?_ ?_⟩
    · rintro s y rfl rfl
      exact hshown s y ha hb
    · rintro s y rfl rfl
      exact hshown s y hb ha
  · refine ⟨"", fun a ha b hb => compare_eq_places ?_ ?_⟩
    · rintro s y rfl rfl
      exact absurd ⟨y, hb⟩ hstring
    · rintro s y rfl rfl
      exact absurd ⟨y, ha⟩ hstring

theorem not_mixes_pair (rule : CaseRule) (a b : Value) : ¬Mixes rule [a, b] := by
  rintro ⟨s, x, y, hs, hx, hy, hne⟩
  simp only [List.mem_cons, List.not_mem_nil, or_false] at hs hx hy
  rcases hs with rfl | rfl
  · cases hx.resolve_left nofun
    cases hy.resolve_left nofun
    exact hne rfl
  · cases hx.resolve_right nofun
    cases hy.resolve_right nofun
    exact hne rfl

theorem compare_swap (rule : CaseRule) (a b : Value) :
    a.compare rule b = (b.compare rule a).swap := by
  obtain ⟨shown, hplaces⟩ := exists_places (not_mixes_pair rule a b)
  rw [hplaces a List.mem_cons_self b (by simp), hplaces b (by simp) a List.mem_cons_self]
  exact Std.OrientedOrd.eq_swap

end Value

end DocStore
