import DocStore.Proofs.Expression.Memberships
import DocStore.Proofs.Filter.Folding
import DocStore.Proofs.Store.TopRows
import DocStore.Regex.Default
/-!
Searches that are blind to letter case. On strings as operands such a search gives the verdicts that an
exact one gives once all strings are in lower case, and so it does in sorting. What differs in case alone
is therefore found, or not found, at the same places and in the same order.
-/
namespace DocStore

section

theorem Collation.caseRule_of_level {collation : Collation} (h : collation.strength.level ≤ 2) :
    caseRule (some collation) = .folded := by
  obtain ⟨locale, strength⟩ := collation
  cases strength with
  | primary | secondary => rfl
  | tertiary => cases Nat.not_succ_le_self 2 h

variable [Regex.Engine]

namespace Expression

open DocStore.Filter

mutual

/-- An expression with all strings in its operands in lower case. -/
def folded : Expression → Expression
  | .predicate field operator operand => .predicate field operator operand.folded
  | .all children => .all (foldedChildren children)
  | .any children => .any (foldedChildren children)

def foldedChildren : List Expression → List Expression
  | [] => []
  | c :: rest => folded c :: foldedChildren rest

end

/-- Operators whose operand is one value to be compared with. -/
def comparisons : List Operator :=
  [.equal, .notEqual, .lessThan, .lessOrEqual, .greaterThan, .greaterOrEqual]

def listOperators : List Operator := [.isIn, .notIn, .inAll]

/-- Expressions that compare fields with strings, and put such comparisons together. -/
inductive Textual : Expression → Prop where
  | compares {field : String} {operator : Operator} (hfield : startsWithDollar field = false)
    (hoperator : operator ∈ comparisons) (s : String) :
    Textual (.predicate field operator (.string s))
  | lists {field : String} {operator : Operator} (hfield : startsWithDollar field = false)
    (hoperator : operator ∈ listOperators) (strings : List String) :
    Textual (.predicate field operator (.array (texts strings)))
  | all {children : List Expression} (h : ∀ c ∈ children, Textual c) : Textual (.all children)
  | any {children : List Expression} (h : ∀ c ∈ children, Textual c) : Textual (.any children)

/-- The expression gives a verdict on a document if case is not looked at, and it gives the same one
exactly if all strings are in lower case. -/
def Folds (e : Expression) (d : Document) : Prop :=
  ∃ verdict, d.matchesFilter .folded e.toFilter = .ok verdict ∧
    d.folded.matchesFilter .exact e.folded.toFilter = .ok verdict

variable {rule : CaseRule} {d : Document} {field key : String} {operator : Operator} {operand : Value}
  {children : List Expression} {p : Expression → Bool}

theorem Folds.matchesFilter_eq {e : Expression} (h : e.Folds d) :
    d.matchesFilter .folded e.toFilter = .ok (d.folded.meets e.folded.toFilter) ∧
      d.folded.matchesFilter .exact e.folded.toFilter = .ok (d.folded.meets e.folded.toFilter) := by
  obtain ⟨verdict, hfolded, hexact⟩ := h
  rw [Document.meets_of_ok hexact]
  exact ⟨hfolded, hexact⟩

theorem folds_predicate (hfield : startsWithDollar field = false)
    (hcondition : ∀ operand, operator.condition operand = [(key, operand)])
    (hkey : startsWithDollar key = true)
    (h : ∀ value, ∃ verdict, operatorHolds .folded value [(key, operand)] key operand = .ok verdict ∧
      operatorHolds .exact (value.map Value.folded) [(key, operand.folded)] key operand.folded =
        .ok verdict) (d : Document) :
    Folds (.predicate field operator operand) d := by
  obtain ⟨verdict, hfolded, hexact⟩ := h (d.at? field)
  refine ⟨verdict, ?_, ?_⟩
  · rw [matchesFilter_predicate hfield .folded d operator operand (hcondition operand) hkey, hfolded]
  · rw [folded, matchesFilter_predicate hfield .exact d.folded operator operand.folded
      (hcondition operand.folded) hkey, Document.at?_folded, hexact]

theorem folds_compares (hfield : startsWithDollar field = false) (hoperator : operator ∈ comparisons)
    (s : String) (d : Document) : Folds (.predicate field operator (.string s)) d := by
  simp only [comparisons, List.mem_cons, List.not_mem_nil, or_false] at hoperator
  rcases hoperator with rfl | rfl | rfl | rfl | rfl | rfl
  all_goals refine folds_predicate hfield (fun _ => rfl) (by decide) (fun value => ⟨_, rfl, ?_⟩) d
  · exact congrArg Except.ok (equals_folded value s)
  · exact congrArg (fun b => Except.ok !b) (equals_folded value s)
  · exact congrArg Except.ok (ordered_folded (· == .lt) value (.string s))
  · exact congrArg Except.ok (ordered_folded (· != .gt) value (.string s))
  · exact congrArg Except.ok (ordered_folded (· == .gt) value (.string s))
  · exact congrArg Except.ok (ordered_folded (· != .lt) value (.string s))

omit [Regex.Engine] in
theorem folded_texts (strings : List String) :
    (Value.array (texts strings)).folded = .array (texts (strings.map lowercase)) := by
  rw [Value.folded, Value.foldedItems_eq, texts, texts, List.map_map, List.map_map]
  rfl

theorem folds_lists (hfield : startsWithDollar field = false) (hoperator : operator ∈ listOperators)
    (strings : List String) (d : Document) :
    Folds (.predicate field operator (.array (texts strings))) d := by
  simp only [listOperators, List.mem_cons, List.not_mem_nil, or_false] at hoperator
  rcases hoperator with rfl | rfl | rfl
  all_goals
    refine folds_predicate hfield (fun _ => rfl) (by decide) (fun value => ⟨_, rfl, ?_⟩) d
    rw [folded_texts]
  · exact congrArg Except.ok (memberOf_folded value strings)
  · exact congrArg (fun b => Except.ok !b) (memberOf_folded value strings)
  · exact congrArg Except.ok (containsAll_folded value strings)

/-- A conjunction holds if all of its children do, where each of them gives a verdict. -/
theorem matchAll_of_verdicts (h : ∀ c ∈ children, d.matchesFilter rule c.toFilter = .ok (p c)) :
    matchAll rule d (compileChildren children) = .ok (children.all p) := by
  induction children with
  | nil => rfl
  | cons c rest ih =>
    obtain ⟨hc, hrest⟩ := List.forall_mem_cons.1 h
    rw [compileChildren, matchAll, ih hrest]
    exact (congrArg (andThen · _) hc).trans (andThen_ok _ _)

theorem matchAny_of_verdicts (h : ∀ c ∈ children, d.matchesFilter rule c.toFilter = .ok (p c)) :
    matchAny rule d (compileChildren children) = .ok (children.any p) := by
  induction children with
  | nil => rfl
  | cons c rest ih =>
    obtain ⟨hc, hrest⟩ := List.forall_mem_cons.1 h
    rw [compileChildren, matchAny, ih hrest]
    exact (congrArg (orElse · _) hc).trans (orElse_ok _ _)

omit [Regex.Engine] in
theorem foldedChildren_eq (children : List Expression) :
    foldedChildren children = children.map folded := by
  induction children with
  | nil => rfl
  | cons c rest ih => rw [foldedChildren, ih, List.map_cons]

/-- The children of a connective in lower case give the verdicts that they give in any case. -/
theorem verdicts_folded (h : ∀ c ∈ children, Folds c d) :
    ∀ c ∈ children.map folded, d.folded.matchesFilter .exact c.toFilter =
      .ok (d.folded.meets c.toFilter) := by
  intro c hc
  obtain ⟨child, hchild, rfl⟩ := List.mem_map.1 hc
  exact (h child hchild).matchesFilter_eq.2

theorem folds_all (h : ∀ c ∈ children, Folds c d) : Folds (.all children) d := by
  rw [Folds, folded, matchesFilter_all, matchesFilter_all, foldedChildren_eq]
  refine ⟨_, matchAll_of_verdicts fun c hc => (h c hc).matchesFilter_eq.1, ?_⟩
  rw [matchAll_of_verdicts (verdicts_folded h), List.all_map]
  rfl

theorem folds_any (h : ∀ c ∈ children, Folds c d) : Folds (.any children) d := by
  by_cases hnil : children = []
  · rw [hnil]
    exact ⟨true, rfl, rfl⟩
  · rw [Folds, folded, foldedChildren_eq, matchesFilter_any _ _ hnil,
      matchesFilter_any _ _ (List.map_eq_nil_iff.not.2 hnil)]
    refine ⟨_, matchAny_of_verdicts fun c hc => (h c hc).matchesFilter_eq.1, ?_⟩
    rw [matchAny_of_verdicts (verdicts_folded h), List.any_map]
    rfl

/-- Whether a textual expression holds in any letter case is whether it holds once all strings are in
lower case. -/
theorem Textual.folds {e : Expression} (h : e.Textual) (d : Document) : e.Folds d := by
  induction h with
  | compares hfield hoperator s => exact folds_compares hfield hoperator s d
  | lists hfield hoperator strings => exact folds_lists hfield hoperator strings d
  | all _ ih => exact folds_all ih
  | any _ ih => exact folds_any ih

end Expression

namespace Table

open Document (compareBy)

variable {ι : Type} {items : List ι} {view : ι → Document} {meets : ι → Bool} {rule : CaseRule}
  {filter : Document} {order : ι → ι → Ordering}

theorem select_map (h : ∀ i ∈ items, (view i).matchesFilter rule filter = .ok (meets i)) :
    select rule filter (items.map view) = .ok ((items.filter meets).map view) := by
  induction items with
  | nil => rfl
  | cons i rest ih =>
    obtain ⟨hi, hrest⟩ := List.forall_mem_cons.1 h
    rw [List.map_cons, select_cons, hi, ih hrest, List.filter_cons]
    cases meets i <;> rfl

/-- The items that are selected, in order: the first of those that meet a condition. -/
def selected (limit : Option Int64) (meets : ι → Bool) (order : ι → ι → Ordering) (items : List ι) :
    List ι :=
  (sortStably order (items.filter meets)).take (rowCount limit (items.countP meets))

omit [Regex.Engine] in
theorem nodup_selected (limit : Option Int64) (h : items.Nodup) :
    (selected limit meets order items).Nodup :=
  ((sortStably_perm _).nodup_iff.2 (h.filter meets)).sublist (List.take_sublist _ _)

/-- A search on documents that are views of some items selects some of these items. -/
theorem find_map (options : FindOptions)
    (hmeets : ∀ i ∈ items,
      (view i).matchesFilter (Collation.caseRule options.collation) filter = .ok (meets i))
    (horder : ∀ i j, compareBy (Collation.caseRule options.collation) (options.sort.getD [])
      (view i) (view j) = order i j) :
    find filter options (items.map view) =
      .ok ((selected options.limit meets order items).map fun i =>
        shape options.projection (view i)) := by
  rw [find_eq_arrange, select_map hmeets, Except.map, arrange_eq, List.length_map,
    ← List.countP_eq_length_filter, sortStably_map fun i _ j _ => horder i j, ← List.map_take,
    List.map_map]
  rfl

/-- A search that is blind to case selects items by their documents in lower case. -/
theorem find_folded {e : Expression} (he : e.Textual) {options : FindOptions}
    (hrule : Collation.caseRule options.collation = .folded) {lowered : ι → Document}
    (hview : ∀ i, (view i).folded = lowered i) (items : List ι) :
    find e.toFilter options (items.map view) =
      .ok ((selected options.limit (fun i => (lowered i).meets e.folded.toFilter)
        (fun i j => compareBy .exact (options.sort.getD []) (lowered i) (lowered j)) items).map fun i =>
          shape options.projection (view i)) := by
  refine find_map options (fun i _ => ?_) fun i j => ?_
  · rw [hrule, (he.folds (view i)).matchesFilter_eq.1, hview]
  · rw [hrule, ← Document.compareBy_folded, hview, hview]

end Table

/-- Documents that differ in the case of their strings alone, place by place, are searched for alike by
textual expressions that differ in the case of their operands alone: at one of the two coarser strengths
the documents at the same places are selected in the same order, by any sort and any limit. -/
theorem find_caseBlind {docs docs' : List Document} {e e' : Expression} {options : FindOptions}
    {collation : Collation} (he : e.Textual) (he' : e'.Textual) (hoperands : e'.folded = e.folded)
    (hlength : docs.length = docs'.length)
    (hdocs : ∀ p : Fin docs.length, (docs'.get (p.cast hlength)).folded = (docs.get p).folded)
    (hcollation : options.collation = some collation) (hstrength : collation.strength.level ≤ 2) :
    ∃ places : List (Fin docs.length), places.Nodup ∧ ∀ name fresh,
      Command.run name fresh (.find e.toFilter options) docs =
        .ok (.rows (places.map fun p => Table.shape options.projection (docs.get p)), docs) ∧
      Command.run name fresh (.find e'.toFilter options) docs' =
        .ok (.rows (places.map fun p =>
          Table.shape options.projection (docs'.get (p.cast hlength))), docs') := by
  have hrule : Collation.caseRule options.collation = .folded := by
    rw [hcollation, Collation.caseRule_of_level hstrength]
  have hview : (List.finRange docs.length).map docs.get = docs := List.map_get_finRange docs
  have hview' : (List.finRange docs.length).map (fun p => docs'.get (p.cast hlength)) = docs' :=
    List.ext_getElem (by simp [hlength]) (by simp)
  have hself : ∀ p, (docs.get p).folded = (docs.get p).folded := fun _ => rfl
  have hfind := Table.find_folded he hrule hself (List.finRange docs.length)
  have hfind' := Table.find_folded he' hrule hdocs (List.finRange docs.length)
  rw [hview] at hfind
  rw [hview', hoperands] at hfind'
  -- both runs select by the same documents in lower case
  let places := Table.selected options.limit (fun p => (docs.get p).folded.meets e.folded.toFilter)
    (fun p q => Document.compareBy .exact (options.sort.getD []) (docs.get p).folded
      (docs.get q).folded) (List.finRange docs.length)
  refine ⟨places, Table.nodup_selected _ (List.nodup_finRange _), fun name fresh => ?_⟩
  rw [Command.run_find, Command.run_find, hfind, hfind']
  exact ⟨rfl, rfl⟩

end

open scoped Regex

/-- The two runs give the same identities, where the names are written in different case: both begin with
the name that is less in lower case and leave out the row that the limit has no place for. -/
theorem find_caseBlind_identities :
    let row (id : Int32) (name : String) : Document := [("_id", .int32 id), ("name", .string name)]
    let docs := [row 1 "beta", row 2 "Delta", row 3 "Epsilon", row 4 "ALPHA"]
    let docs' := [row 1 "BETA", row 2 "delta", row 3 "EPSILON", row 4 "alpha"]
    let wanted (bound name : String) : Expression :=
      .any [.all [.lessThan "name" (.string bound)], .isIn "name" [.string name, .string "new"]]
    let options : FindOptions := ⟨some 2, some [("name", .int32 0)], some [("name", .int32 1)],
      some ⟨"en", .primary⟩⟩
    let rows : List Document := [[("_id", .int32 4)], [("_id", .int32 1)]]
    Command.run "" default (.find (wanted "C" "delta").toFilter options) docs = .ok (.rows rows, docs) ∧
      Command.run "" default (.find (wanted "c" "DELTA").toFilter options) docs' =
        .ok (.rows rows, docs') := by
  intro row docs docs' wanted options rows
  have htextual : ∀ bound name, (wanted bound name).Textual := by
    intro bound name
    refine .any (List.forall_mem_cons.2 ⟨.all (List.forall_mem_singleton.2 ?_),
      List.forall_mem_singleton.2 ?_⟩)
    · exact .compares (by decide) (by decide) bound
    · exact .lists (by decide) (by decide) [name, "new"]
  have hoperands : (wanted "c" "DELTA").folded = (wanted "C" "delta").folded := by
    have hbound : lowercase "c" = lowercase "C" := by decide
    have hname : lowercase "DELTA" = lowercase "delta" := by decide
    exact congrArg₂ (fun a b => Expression.any [.all [.lessThan "name" (.string a)],
      .isIn "name" [.string b, .string (lowercase "new")]]) hbound hname
  have hrow : ∀ id {s t}, lowercase s = lowercase t → (row id s).folded = (row id t).folded := by
    intro id s t h
    exact congrArg (row id) h
  have hlength : docs.length = docs'.length := rfl
  have hlower : ∀ p : Fin docs.length, (docs'.get (p.cast hlength)).folded = (docs.get p).folded
    | ⟨0, _⟩ => hrow 1 (by decide)
    | ⟨1, _⟩ => hrow 2 (by decide)
    | ⟨2, _⟩ => hrow 3 (by decide)
    | ⟨3, _⟩ => hrow 4 (by decide)
  have hidentities : ∀ p : Fin docs.length, Table.shape options.projection
      (docs'.get (p.cast hlength)) = Table.shape options.projection (docs.get p)
    | ⟨0, _⟩ | ⟨1, _⟩ | ⟨2, _⟩ | ⟨3, _⟩ => rfl
  have hcollation : options.collation = some ⟨"en", .primary⟩ := rfl
  obtain ⟨places, -, hruns⟩ := find_caseBlind (htextual "C" "delta") (htextual "c" "DELTA") hoperands
    hlength hlower hcollation (by decide)
  obtain ⟨hrun, hrun'⟩ := hruns "" default
  have hselect : Table.select (Collation.caseRule options.collation) (wanted "C" "delta").toFilter
      docs = .ok [row 1 "beta", row 2 "Delta", row 4 "ALPHA"] := by
    dsimp only [options, wanted, docs, row]
    rfl
  have hrows : Command.run "" default (.find (wanted "C" "delta").toFilter options) docs =
      .ok (.rows rows, docs) := by
    rw [Command.run_find, Table.find_eq_arrange, hselect]
    dsimp only [options, row]
    rfl
  have hanswer := Reply.rows.inj (Prod.mk.inj (Except.ok.inj (hrun.symm.trans hrows))).1
  simp only [hidentities, hanswer] at hrun'
  exact ⟨hrows, hrun'⟩

end DocStore
