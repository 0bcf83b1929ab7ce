import DocStore.Proofs.Expression.Compilation
import DocStore.Proofs.Regex.Search
/-!
Predicates that look for a text in a string. What they are given is a pattern, and so a sign that has
a meaning in patterns has it there too. A text without such signs, or with all of them escaped, is
found at the front, anywhere or at the back of the strings at the field, in any letter case.
-/
namespace DocStore

namespace Filter

open DocStore.Regex

variable {rule : CaseRule} {d : Document} {field : String} {v : Value} {verdict : Verdict}
  {room : ℕ} {pattern : String} {items : List Item}

/-- The verdict of a search for a plain pattern: whether something holds, or that the pattern is too
large, which it is not if there is room for its characters. -/
def Settles (room : ℕ) (verdict : Verdict) (pattern : String) (p : Prop) : Prop :=
  Decides verdict p ∨ room < pattern.length ∧ ∃ limit,
    verdict = .error (.badValue ("invalid regular expression: " ++ (Refusal.tooLarge limit).message))

theorem Settles.decides {p : Prop} (h : Settles room verdict pattern p) (hroom : pattern.length ≤ room) :
    Decides verdict p :=
  h.resolve_right fun ⟨hlong, _⟩ => Nat.not_lt.2 hroom hlong

variable [Engine]

/-- The verdict of a search for a pattern: whether it is found in one of the strings of the value, or
why it was refused. -/
def Searches (verdict : Verdict) (pattern : String) (v : Value) : Prop :=
  match Engine.read caselessFlags pattern with
  | .ok isMatch => Decides verdict (∃ s, .string s ∈ v.parts ∧ isMatch s = true)
  | .error e => verdict = .error (.badValue ("invalid regular expression: " ++ e.message))

theorem searches_pattern (hfield : startsWithDollar field = false) (hv : d.at? field = some v)
    (rule : CaseRule) (pattern : String) :
    Searches (d.matchesFilter rule
      [(field, .document [("$regex", .string pattern), ("$options", .string "i")])]) pattern v := by
  rw [matchesFilter_field rule d hfield, fieldHolds_pattern, hv, Searches]
  cases hread : Engine.read caselessFlags pattern with
  | ok isMatch =>
    obtain ⟨b, hb, hfits⟩ : ∃ b, matchesPattern (some v) (.string pattern) caselessFlags = .ok b ∧
        (b = true ↔ Fits pattern (some v)) := matchesPattern_of_read hread
    refine ⟨b, hb, hfits.trans ?_⟩
    constructor
    · rintro ⟨_, v', s, hread', hv', hs⟩
      cases hread.symm.trans hread'
      cases hv'
      exact ⟨s, hs⟩
    · rintro ⟨s, hs⟩
      exact ⟨isMatch, v, s, hread, rfl, hs⟩
  | error e =>
    rw [matchesPattern, hread]

/-- With an engine that does what is documented, a search for a plain pattern comes to a verdict. -/
theorem Searches.settles (h : Searches verdict pattern v) (hengine : Engine.Documented room)
    (hplain : Plain pattern.toList items) (hpattern : Text.IsAscii pattern)
    (hstrings : ∀ s, .string s ∈ v.parts → Text.IsAscii s) {p : String → Prop}
    (hp : ∀ s, Found caselessFlags items s.toList ↔ p s) :
    Settles room verdict pattern (∃ s, .string s ∈ v.parts ∧ p s) := by
  unfold Searches at h
  split at h
  next isMatch hread =>
    refine .inl (h.congr (exists_congr fun s => and_congr_right fun hs => ?_))
    exact (hengine.found_iff hplain hpattern (hstrings s hs) rfl hread).trans (hp s)
  next refusal hread =>
    obtain ⟨hroom, limit, rfl⟩ := hengine.refused hplain hpattern hread
    exact .inr ⟨hroom, limit, h⟩

end Filter

namespace Expression

open DocStore.Filter DocStore.Regex DocStore.Text

variable [Engine] {field : String} {d : Document} {v : Value}

theorem searches_predicate (hfield : startsWithDollar field = false) (hv : d.at? field = some v)
    (rule : CaseRule) {operator : Operator} {operand : Value} {pattern : String}
    (h : operator.condition operand = [("$regex", .string pattern), ("$options", .string "i")]) :
    Searches (d.matchesFilter rule (toFilter (.predicate field operator operand))) pattern v := by
  have hne : field ≠ fullTextField := ne_of_startsWithDollar hfield (by decide)
  have hfilter : toFilter (.predicate field operator operand) =
    [(field, .document (operator.condition operand))] := if_neg hne
  rw [hfilter, h]
  exact searches_pattern hfield hv rule pattern

/-- Predicates on text look for the text that their pattern spells. Up to the room that the engine has for a
pattern they come to a verdict, which is whether one of the strings at the field begins with the text,
contains it or ends with it, apart from the case of letters. -/
theorem matchesFilter_searches {room : ℕ} (hengine : Engine.Documented room) {field : String}
    {d : Document} {v : Value} (hfield : startsWithDollar field = false) (hv : d.at? field = some v)
    (rule : CaseRule) {pattern text : String} (hspells : Spells pattern.toList text.toList)
    (hpattern : IsAscii pattern) (hstrings : ∀ s, .string s ∈ v.parts → IsAscii s) :
    let verdict := fun e : Expression => d.matchesFilter rule e.toFilter
    Settles room (verdict (.beginsWith field pattern)) ("^" ++ pattern)
        (∃ s, .string s ∈ v.parts ∧ lowered text <+: lowered s) ∧
      Settles room (verdict (.contains field pattern)) pattern
        (∃ s, .string s ∈ v.parts ∧ lowered text <:+: lowered s) ∧
      Settles room (verdict (.endsWith field pattern)) (pattern ++ "$")
        (∃ s, .string s ∈ v.parts ∧ lowered text <:+ lowered s) := by
  intro verdict
  have hbegins : Searches (verdict (.beginsWith field pattern)) ("^" ++ pattern) v :=
    searches_predicate hfield hv rule rfl
  have hcontains : Searches (verdict (.contains field pattern)) pattern v :=
    searches_predicate hfield hv rule rfl
  have hends : Searches (verdict (.endsWith field pattern)) (pattern ++ "$") v :=
    searches_predicate hfield hv rule rfl
  have hfront : Plain ("^" ++ pattern).toList (.front :: text.toList.map .letter) := by
    rw [String.toList_append]
    exact .front hspells
  have hback : Plain (pattern ++ "$").toList (text.toList.map .letter ++ [.back]) := by
    rw [String.toList_append]
    exact hspells.append (.back .nil)
  refine ⟨hbegins.settles hengine hfront ?_ hstrings fun s => found_front_iff rfl,
    hcontains.settles hengine hspells hpattern hstrings fun s => found_anywhere_iff rfl,
    hends.settles hengine hback ?_ hstrings fun s => found_back_iff rfl⟩
  · simpa [IsAscii] using hpattern
  · simpa [IsAscii, or_imp, forall_and] using hpattern

end Expression

open scoped Regex

namespace Expression

open DocStore.Filter DocStore.Regex DocStore.Text

/-- A stop with a backslash before it is a stop, and letters go with those of the other case. -/
theorem matchesFilter_searches_escaped :
    let v : Value := .array [.string "xA.b", .int32 1, .string "a-B"]
    let d : Document := [("k", v)]
    let verdict := fun e : Expression => d.matchesFilter .exact e.toFilter
    Engine.Documented 1000 ∧ d.at? "k" = some v ∧ Spells "a\\.B".toList "a.B".toList ∧
      verdict (.beginsWith "k" "a\\.B") = .ok false ∧ verdict (.endsWith "k" "a\\.B") = .ok true := by
  intro v d verdict
  have hengine : Engine.Documented 1000 := standard_documented (by decide)
  have hv : d.at? "k" = some v := rfl
  have hspells : Spells "a\\.B".toList "a.B".toList :=
    .letter (by decide) (.escaped (by decide) (.letter (by decide) .nil))
  have hparts (s : String) (hs : .string s ∈ v.parts) : s = "xA.b" ∨ s = "a-B" := by
    simpa [v, Value.parts] using hs
  have hstrings (s : String) (hs : .string s ∈ v.parts) : IsAscii s := by
    rcases hparts s hs with rfl | rfl <;> decide
  obtain ⟨hbegins, -, hends⟩ :=
    matchesFilter_searches hengine (by decide) hv .exact hspells (by decide) hstrings
  obtain ⟨b, hb, hfront⟩ := hbegins.decides (by decide)
  obtain ⟨c, hc, hback⟩ := hends.decides (by decide)
  have hnot : b = false := by
    rw [← Bool.not_eq_true, hfront]
    rintro ⟨s, hs, hprefix⟩
    rcases hparts s hs with rfl | rfl <;> exact absurd hprefix (by decide)
  have hyes : c = true := hback.2 ⟨"xA.b", by simp [v, Value.parts], by decide⟩
  rw [hnot] at hb
  rw [hyes] at hc
  exact ⟨hengine, hv, hspells, hb, hc⟩

/-- A stop is found at the front of every text that is not empty, and a parenthesis cannot be read at
all. A field that begins with a dollar sign is refused or means a search for words, and a text can be
too long for a pattern. -/
theorem signs_not_searched :
    let verdict := fun (d : Document) (e : Expression) => d.matchesFilter .exact e.toFilter
    let d : Document := [("k", .string "x")]
    (verdict d (.beginsWith "k" ".") = .ok true ∧ ¬lowered "." <+: lowered "x") ∧
      (∃ fault, verdict d (.contains "k" "(") = .error fault) ∧
      (∃ fault, verdict [("$k", .string "x")] (.endsWith "$k" "x") = .error fault) ∧
      (verdict [("$fullText", .string "ax")] (.beginsWith "$fullText" "x") = .ok true ∧
        ¬lowered "x" <+: lowered "ax") ∧
      ∃ fault, verdict d (.contains "k" (String.ofList (List.replicate 400000 'a'))) =
        .error fault := by
  intro verdict d
  have hlong (n : ℕ) (hn : sizeLimit < 32 * n) :
      ∃ fault, verdict d (.contains "k" (String.ofList (List.replicate n 'a'))) = .error fault := by
    have hspells : Spells (String.ofList (List.replicate n 'a')).toList (List.replicate n 'a') := by
      rw [String.toList_ofList]
      refine spells_self fun c hc => ?_
      rw [List.eq_of_mem_replicate hc]
      rfl
    have hsearches : Searches (verdict d (.contains "k" (String.ofList (List.replicate n 'a'))))
        (String.ofList (List.replicate n 'a')) (.string "x") :=
      searches_predicate (by decide) rfl .exact rfl
    have hread := hspells.read_of_tooLong caselessFlags (by simpa using hn)
    rw [Searches, hread] at hsearches
    exact ⟨_, hsearches⟩
  exact ⟨⟨rfl, by decide⟩, ⟨_, rfl⟩, ⟨_, rfl⟩, ⟨rfl, by decide⟩, hlong 400000 (by decide)⟩

end Expression

end DocStore
