import DocStore.Proofs.Document.Sorting
import DocStore.Proofs.Value.Comparison
/-!
Which documents can be put in order. The comparison by a sort specification turns around with its two
sides, whatever the documents hold. It is transitive as long as no field has a symbol beside strings
of different texts: a symbol comes out equal to both strings, which are not equal to each other.
-/
namespace DocStore

/-- What sorting asks of a comparison, for the things that are to be sorted. -/
structure Consistent (compare : α → α → Ordering) (xs : List α) : Prop where
  swap : ∀ a ∈ xs, ∀ b ∈ xs, compare a b = (compare b a).swap
  trans : ∀ a ∈ xs, ∀ b ∈ xs, ∀ c ∈ xs,
    compare a b ≠ .gt → compare b c ≠ .gt → compare a c ≠ .gt
  trans_eq : ∀ a ∈ xs, ∀ b ∈ xs, ∀ c ∈ xs,
    compare a b = .eq → compare b c = .eq → compare a c = .eq

theorem consistent_of_transCmp {compare : α → α → Ordering} {xs : List α}
    (h : Std.TransCmp fun a b : { x // x ∈ xs } => compare a b) : Consistent compare xs where
  swap a ha b hb := h.eq_swap (a := ⟨a, ha⟩) (b := ⟨b, hb⟩)
  trans a ha b hb c hc hab hbc := by
    rw [ne_eq, ← Ordering.isLE_iff_ne_gt] at hab hbc ⊢
    exact h.isLE_trans (a := ⟨a, ha⟩) (b := ⟨b, hb⟩) (c := ⟨c, hc⟩) hab hbc
  trans_eq a ha b hb c hc hab hbc :=
    @Std.TransCmp.eq_trans _ _ h ⟨a, ha⟩ ⟨b, hb⟩ ⟨c, hc⟩ hab hbc

namespace Document

variable {rule : CaseRule} {a b : Document} {ds : List Document}

theorem compareOptional_swap (rule : CaseRule) (x y : Option Value) :
    compareOptional rule x y = (compareOptional rule y x).swap := by
  cases x with
  | none => cases y <;> rfl
  | some v =>
    cases y with
    | none => rfl
    | some w => exact v.compare_swap rule w

/-- The outcome for one field, turned around where the field descends. -/
def directed (direction : Value) (order : Ordering) : Ordering :=
  if isDescending direction then order.swap else order

theorem compareFields_cons (rule : CaseRule) (a b : Document) (path : String) (direction : Value)
    (rest : List (String × Value)) :
    compareFields rule a b ((path, direction) :: rest) =
      (directed direction (compareOptional rule (a.at? path) (b.at? path))).then
        (compareFields rule a b rest) := by
  rw [compareFields, directed]
  cases isDescending direction <;> cases compareOptional rule (a.at? path) (b.at? path) <;> rfl

theorem compareFields_swap (rule : CaseRule) (a b : Document) (fields : List (String × Value)) :
    compareFields rule a b fields = (compareFields rule b a fields).swap := by
  induction fields with
  | nil => rfl
  | cons field rest ih =>
    rw [compareFields_cons, compareFields_cons, Ordering.swap_then, ← ih, compareOptional_swap,
      directed, directed]
    split <;> rfl

/-- Values at a path that cannot be put in order among the documents. -/
def MixesAt (rule : CaseRule) (ds : List Document) (path : String) : Prop :=
  Value.Mixes rule (ds.filterMap (·.at? path))

/-- At a path without a mixture documents compare as the places of their values do, with a missing
value before all others. -/
theorem exists_places_at {path : String} (h : ¬MixesAt rule ds path) :
    ∃ shown, ∀ a ∈ ds, ∀ b ∈ ds,
      compareOptional rule (a.at? path) (b.at? path) =
        Ord.compare ((a.at? path).map (Value.place rule shown))
          ((b.at? path).map (Value.place rule shown)) := by
  obtain ⟨shown, hplaces⟩ := Value.exists_places h
  refine ⟨shown, fun a ha b hb => ?_⟩
  cases hv : a.at? path with
  | none => cases b.at? path <;> rfl
  | some v =>
    cases hw : b.at? path with
    | none => rfl
    | some w =>
      exact hplaces v (List.mem_filterMap.2 ⟨a, ha, hv⟩) w (List.mem_filterMap.2 ⟨b, hb, hw⟩)

theorem transCmp_directed {path : String} (h : ¬MixesAt rule ds path) (direction : Value) :
    Std.TransCmp fun a b : { d // d ∈ ds } =>
      directed direction (compareOptional rule (a.1.at? path) (b.1.at? path)) := by
  obtain ⟨shown, hplaces⟩ := exists_places_at h
  let key (d : { d // d ∈ ds }) := (d.1.at? path).map (Value.place rule shown)
  have hkey (a b : { d // d ∈ ds }) :
      compareOptional rule (a.1.at? path) (b.1.at? path) = compareOn key a b :=
    hplaces a.1 a.2 b.1 b.2
  simp only [hkey, directed]
  cases isDescending direction with
  | false => exact inferInstanceAs (Std.TransCmp (compareOn key))
  | true =>
    have hswap (a b : { d // d ∈ ds }) : (compareOn key a b).swap = compareOn key b a :=
      Std.OrientedCmp.eq_swap.symm
    simp only [if_true, hswap]
    exact Std.TransCmp.opposite

theorem transCmp_compareFields {fields : List (String × Value)}
    (h : ∀ field ∈ fields, ¬MixesAt rule ds field.1) :
    Std.TransCmp fun a b : { d // d ∈ ds } => compareFields rule a b fields := by
  induction fields with
  | nil => exact { eq_swap := rfl, isLE_trans := fun _ _ => rfl }
  | cons field rest ih =>
    obtain ⟨path, direction⟩ := field
    obtain ⟨hfield, hrest⟩ := List.forall_mem_cons.1 h
    have hfirst := transCmp_directed hfield direction
    have hlater := ih hrest
    simp only [compareFields_cons]
    exact inferInstanceAs (Std.TransCmp (compareLex _ _))

/-- A comparison by one field on which the documents mix is no order. -/
theorem not_consistent_of_mixesAt {path : String} (h : MixesAt rule ds path) :
    ¬Consistent (compareBy rule [(path, .int32 1)]) ds := by
  obtain ⟨s, x, y, hs, hx, hy, hne⟩ := h
  obtain ⟨d, hd, hs⟩ := List.mem_filterMap.1 hs
  obtain ⟨e, he, hx⟩ := List.mem_filterMap.1 hx
  obtain ⟨f, hf, hy⟩ := List.mem_filterMap.1 hy
  have hcompare (a b : Document) {v w : Value} (hv : a.at? path = some v) (hw : b.at? path = some w) :
      compareBy rule [(path, .int32 1)] a b = v.compare rule w := by
    have hfields : compareBy rule [(path, .int32 1)] a b =
      compareFields rule a b [(path, .int32 1)] := rfl
    rw [hfields, compareFields_cons, hv, hw]
    exact Ordering.then_eq
  intro hconsistent
  have heq := hconsistent.trans_eq e he d hd f hf (hcompare e d hx hs) (hcompare d f hs hy)
  rw [hcompare e f hx hy] at heq
  exact hne (Std.LawfulEqOrd.eq_of_compare heq)

end Document

/-- The comparison by a specification is always the reverse of the comparison with the sides
exchanged. The documents can be sorted by every specification of the given paths if and only if no
path among them has a symbol beside two strings that do not count as the same text. -/
theorem compareBy_consistent_iff (rule : CaseRule) :
    (∀ specification a b : Document,
      Document.compareBy rule specification a b =
        (Document.compareBy rule specification b a).swap) ∧
    ∀ (ds : List Document) (paths : List String),
      (∀ specification : Document,
        (∀ path ∈ Document.keys (specification.take Document.maxSortFields), path ∈ paths) →
          Consistent (Document.compareBy rule specification) ds) ↔
        ∀ path ∈ paths, ¬Document.MixesAt rule ds path := by
  refine ⟨fun specification a b => Document.compareFields_swap rule a b _, fun ds paths => ?_⟩
  constructor
  · intro hconsistent path hpath hmixes
    refine Document.not_consistent_of_mixesAt hmixes (hconsistent [(path, .int32 1)] ?_)
    intro other hother
    rwa [List.mem_singleton.1 hother]
  · intro hunmixed specification hpaths
    refine consistent_of_transCmp (Document.transCmp_compareFields fun field hfield => ?_)
    exact hunmixed field.1 (hpaths field.1 (List.mem_map_of_mem hfield))

/-- Without regard to case the two strings are one text, for which the symbol passes. -/
theorem compareBy_consistent_iff_oneText :
    let ds : List Document := [[("k", .string "A")], [], [("k", .symbol "b")], [("k", .string "a")],
      [("k", .bool true)]]
    ¬Document.MixesAt .folded ds "k" ∧
      Consistent (Document.compareBy .folded [("k", .int64 (-1))]) ds := by
  intro ds
  have hunmixed : ¬Document.MixesAt .folded ds "k" := by
    have hvalues : ds.filterMap (·.at? "k") =
      [.string "A", .symbol "b", .string "a", .bool true] := rfl
    rintro ⟨s, x, y, -, hx, hy, hne⟩
    rw [hvalues] at hx hy
    have hkey (z : String) (hz : z = "A" ∨ z = "a") : CaseRule.key .folded z = "a" := by
      rcases hz with rfl | rfl <;> rfl
    exact hne ((hkey x (by simpa using hx)).trans (hkey y (by simpa using hy)).symm)
  obtain ⟨-, hiff⟩ := compareBy_consistent_iff .folded
  refine ⟨hunmixed, (hiff ds ["k"]).2 ?_ [("k", .int64 (-1))] ?_⟩
  · simpa using hunmixed
  · simp [Document.keys, Document.maxSortFields]

/-- A symbol is equal to the string before it and to the one after it, which are in order, and so it
keeps them in the wrong places. -/
theorem compareBy_symbol_between :
    let a : Document := [("_id", .int32 1), ("s", .string "a")]
    let b : Document := [("_id", .int32 2), ("s", .symbol "b")]
    let c : Document := [("_id", .int32 3), ("s", .string "c")]
    let order := Document.compareBy .exact [("s", .int32 1)]
    order a b = .eq ∧ order b c = .eq ∧ order a c = .lt ∧ sortStably order [c, b, a] = [c, b, a] :=
  ⟨rfl, rfl, rfl, rfl⟩

end DocStore
