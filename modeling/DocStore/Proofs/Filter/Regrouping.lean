import DocStore.Proofs.Filter.Conditions
import DocStore.Regex.Default
/-!
Filters that say the same in other groups. The entries of a filter may be taken apart into clauses of a
conjunction, a filter may be put under a connective of its own, and a conjunction may take in the clauses
of one that stands among its own. Neither the verdict nor the first fault that is met depends on it.
-/
namespace DocStore

namespace Filter

variable {rule : CaseRule} {d : Document} {key : String} {f g : List (String × Value)}
  {clauses others : List Value}

/-- Each entry of a filter as a clause of its own. -/
def parts (f : List (String × Value)) : List Value := f.map fun entry => .document [entry]

variable [Regex.Engine]

theorem matchAll_parts (rule : CaseRule) (d : Document) (f : List (String × Value)) :
    matchAll rule d (parts f) = matchEntries rule d f := by
  induction f with
  | nil => rfl
  | cons entry rest ih =>
    obtain ⟨key, value⟩ := entry
    change matchAll rule d (.document [(key, value)] :: parts rest) = _
    rw [matchAll, ih, matchEntries_singleton, matchEntries]

omit [Regex.Engine] in
theorem clauseFault?_eq_none :
    clauseFault? key (.array clauses) = none ↔ clauses ≠ [] ∧ clauses.all isDocument = true := by
  cases clauses with
  | nil => simp [clauseFault?]
  | cons clause rest => simp [clauseFault?]

omit [Regex.Engine] in
/-- What is wrong with clauses, apart from there being none, is wrong with one of them. -/
theorem clauseFault?_congr (hclauses : clauses ≠ []) (hothers : others ≠ [])
    (hall : clauses.all isDocument = others.all isDocument) :
    clauseFault? key (.array clauses) = clauseFault? key (.array others) := by
  obtain ⟨clause, rest, rfl⟩ := List.exists_cons_of_ne_nil hclauses
  obtain ⟨other, more, rfl⟩ := List.exists_cons_of_ne_nil hothers
  rw [clauseFault?, clauseFault?, hall]
  · exact List.cons_ne_nil _ _
  · exact List.cons_ne_nil _ _

/-- Filters that differ in how they are grouped, in any place and to any depth. -/
inductive Regroups : List (String × Value) → List (String × Value) → Prop
  | refl (f : List (String × Value)) : Regroups f f
  | symm {f g : List (String × Value)} (h : Regroups f g) : Regroups g f
  | trans {f g k : List (String × Value)} (h : Regroups f g) (h' : Regroups g k) : Regroups f k
  | split {f : List (String × Value)} (h : f ≠ []) : Regroups f [("$and", .array (parts f))]
  | underAnd (f : List (String × Value)) : Regroups f [("$and", .array [.document f])]
  | underOr (f : List (String × Value)) : Regroups f [("$or", .array [.document f])]
  | flatten (before after : List Value) {inner : List Value}
    (h : clauseFault? "$and" (.array inner) = none) :
    Regroups [("$and", .array (before ++ .document [("$and", .array inner)] :: after))]
      [("$and", .array (before ++ inner ++ after))]
  | append {f f' g g' : List (String × Value)} (h : Regroups f f') (h' : Regroups g g') :
    Regroups (f ++ g) (f' ++ g')
  | clause {key : String} (hkey : isConnective key = true) (before after : List Value)
    {f g : List (String × Value)} (h : Regroups f g) :
    Regroups [(key, .array (before ++ .document f :: after))]
      [(key, .array (before ++ .document g :: after))]

theorem matchEntries_split (rule : CaseRule) (d : Document) (h : f ≠ []) :
    matchEntries rule d [("$and", .array (parts f))] = matchEntries rule d f := by
  have hfault : clauseFault? "$and" (.array (parts f)) = none := by
    refine clauseFault?_eq_none.2 ⟨mt List.map_eq_nil_iff.1 h, ?_⟩
    rw [parts, List.all_map, List.all_eq_true]
    exact fun _ _ => rfl
  rw [matchEntries_singleton, matchEntry_and_of_clauses hfault, matchAll_parts]

theorem matchEntries_underAnd (rule : CaseRule) (d : Document) (f : List (String × Value)) :
    matchEntries rule d [("$and", .array [.document f])] = matchEntries rule d f := by
  rw [matchEntries_singleton, matchEntry_and_of_clauses rfl, matchAll, matchAll, andThen_true]

theorem matchEntries_underOr (rule : CaseRule) (d : Document) (f : List (String × Value)) :
    matchEntries rule d [("$or", .array [.document f])] = matchEntries rule d f := by
  rw [matchEntries_singleton, matchEntry_or_of_clauses rfl, matchAny, matchAny, orElse_false]

/-- A conjunction among the clauses of another one may be replaced by its own clauses. Other clauses may
be at fault, and are so in both cases. -/
theorem matchEntries_flatten (rule : CaseRule) (d : Document) (before after : List Value)
    {inner : List Value} (h : clauseFault? "$and" (.array inner) = none) :
    matchEntries rule d
        [("$and", .array (before ++ .document [("$and", .array inner)] :: after))] =
      matchEntries rule d [("$and", .array (before ++ inner ++ after))] := by
  obtain ⟨hne, hall⟩ := clauseFault?_eq_none.1 h
  have hfault : clauseFault? "$and"
        (.array (before ++ .document [("$and", .array inner)] :: after)) =
      clauseFault? "$and" (.array (before ++ inner ++ after)) := by
    refine clauseFault?_congr (by simp) (by simp [hne]) ?_
    simp only [List.all_append, List.all_cons, hall, isDocument, Bool.true_and, Bool.and_true]
  rw [matchEntries_singleton, matchEntries_singleton, matchEntry_and, matchEntry_and, hfault,
    List.append_assoc, matchAll_append, matchAll_append, matchAll_append, matchAll,
    matchEntries_singleton, matchEntry_and_of_clauses h]

theorem matchEntries_clause (hkey : isConnective key = true) (before after : List Value)
    (h : matchEntries rule d f = matchEntries rule d g) :
    matchEntries rule d [(key, .array (before ++ .document f :: after))] =
      matchEntries rule d [(key, .array (before ++ .document g :: after))] := by
  have hfault : clauseFault? key (.array (before ++ .document f :: after)) =
      clauseFault? key (.array (before ++ .document g :: after)) :=
    clauseFault?_congr (by simp) (by simp) (by simp [isDocument])
  rw [matchEntries_singleton, matchEntries_singleton]
  rcases isConnective_iff.1 hkey with rfl | rfl
  · rw [matchEntry_and, matchEntry_and, hfault, matchAll_append, matchAll_append, matchAll,
      matchAll, h]
  · rw [matchEntry_or, matchEntry_or, hfault, matchAny_append, matchAny_append, matchAny,
      matchAny, h]

theorem Regroups.matchEntries_eq (rule : CaseRule) (d : Document) (h : Regroups f g) :
    matchEntries rule d f = matchEntries rule d g := by
  induction h with
  | refl f => rfl
  | symm _ ih => exact ih.symm
  | trans _ _ ih ih' => exact ih.trans ih'
  | split h => exact (matchEntries_split rule d h).symm
  | underAnd f => exact (matchEntries_underAnd rule d f).symm
  | underOr f => exact (matchEntries_underOr rule d f).symm
  | flatten before after h => exact matchEntries_flatten rule d before after h
  | append _ _ ih ih' => rw [matchEntries_append, matchEntries_append, ih, ih']
  | clause hkey before after _ ih => exact matchEntries_clause hkey before after ih

/-- A filter is the conjunction of its entries, down to the fault that is met. It may be put under a
connective of its own, and conjunctions in it may be taken apart or put together. -/
theorem matchesFilter_regrouped (rule : CaseRule) (d f : Document) :
    (f ≠ [] → d.matchesFilter rule [("$and", .array (parts f))] = d.matchesFilter rule f) ∧
    d.matchesFilter rule [("$and", .array [.document f])] = d.matchesFilter rule f ∧
    d.matchesFilter rule [("$or", .array [.document f])] = d.matchesFilter rule f ∧
    ∀ g, Regroups f g → d.matchesFilter rule g = d.matchesFilter rule f :=
  ⟨matchEntries_split rule d, matchEntries_underAnd rule d f, matchEntries_underOr rule d f,
    fun _ h => (h.matchEntries_eq rule d).symm⟩

end Filter

open scoped Regex

namespace Filter

/-- A field, and next to it a conjunction inside of another one, where one clause is at fault. -/
theorem matchesFilter_regrouped_nested :
    let d : Document := [("a", .int32 1)]
    let f : Document := [("a", .int32 1), ("$and", .array [.document [("$and", .array
      [.document [("b", .null)], .document [("$near", .null)]])]])]
    let g : Document := [("a", .int32 1), ("$and", .array
      [.document [("b", .null)], .document [("$near", .null)]])]
    (f ≠ [] ∧ Regroups f g) ∧
      d.matchesFilter .exact [("$and", .array (parts f))] = d.matchesFilter .exact f ∧
      d.matchesFilter .exact g = d.matchesFilter .exact f := by
  intro d f g
  have hne : f ≠ [] := List.cons_ne_nil _ _
  have hregroups : Regroups f g := .append (.refl [("a", .int32 1)]) (.flatten [] [] rfl)
  obtain ⟨hsplit, -, -, hall⟩ := matchesFilter_regrouped .exact d f
  exact ⟨⟨hne, hregroups⟩, hsplit hne, hall g hregroups⟩

end Filter

end DocStore
