import DocStore.Proofs.Document.Projection
import DocStore.Proofs.Filter.Trichotomy
import DocStore.Proofs.Store.Selection
import DocStore.Proofs.Value.WholeNumbers
import DocStore.Regex.Default
/-!
Documents whose identities are whole numbers. An insertion tells the identities apart as they are, a
filter by the binary numbers that they are rounded to. So a filter on the identity takes an identity
that is rounded to its operand for the operand, and its commands work on too many documents or on too
few. This cannot happen for operands of no more than 53 digits.
-/
namespace DocStore

section

variable [Regex.Engine]

namespace Table

variable {filter : Document} {docs : List Document} {p q : Document → Bool}

/-- All commands with a filter work on the documents of a kind, or on the first one of them. -/
structure Reaches (filter : Document) (docs : List Document) (p : Document → Bool) : Prop where
  found : ∀ name fresh projection collation,
    Command.run name fresh (.find filter { projection, collation }) docs =
      .ok (.rows ((docs.filter p).map (shape projection)), docs)
  counted : ∀ name fresh,
    Command.run name fresh (.count filter) docs = .ok (.number (docs.countP p), docs)
  passed : (∀ d ∈ docs, p d = false) → ∀ name fresh replacement,
    Command.run name fresh (.replace filter replacement) docs = .ok (.updated {}, docs)
  replaced : ∀ before d after, docs = before ++ d :: after → (∀ x ∈ before, p x = false) →
    p d = true → ∀ name fresh replacement,
    Command.run name fresh (.replace filter replacement) docs =
      if altersIdentity d replacement then .error alteredIdentity
      else .ok (.updated ⟨1, if d.equal (successor d replacement) then 0 else 1⟩,
        before ++ successor d replacement :: after)
  deleted : ∀ name fresh, Command.run name fresh (.delete filter) docs =
    .ok (.number (docs.countP p), docs.filter fun d => !p d)

theorem reaches_of_verdicts (h : ∀ rule, ∀ d ∈ docs, d.matchesFilter rule filter = .ok (p d)) :
    Reaches filter docs p where
  found name fresh projection collation := by
    rw [Command.run_find, find_eq, select_of_verdicts (h _)]
    rfl
  counted name fresh := by
    rw [Command.run_count, select_of_verdicts (h .exact), List.countP_eq_length_filter]
    rfl
  passed hnone name fresh replacement := by
    have hselect := select_of_verdicts (h .exact)
    rw [List.filter_eq_nil_iff.2 (by simpa using hnone)] at hselect
    rw [Command.run_replace, replace, splitFirst_of_select_nil hselect]
    rfl
  replaced before d after hdocs hbefore hd name fresh replacement := by
    have hfirst := firstMatch_of_verdicts (h .exact) hdocs hbefore hd
    rw [Command.run_replace, hfirst.replace_eq_ite]
    split <;> rfl
  deleted name fresh := by
    have hmeets : ∀ d ∈ docs, d.meets filter = p d := fun d hd =>
      Document.meets_of_ok (h .exact d hd)
    have hleft : (docs.filter fun d => !d.meets filter) = docs.filter fun d => !p d :=
      List.filter_congr fun d hd => by rw [hmeets d hd]
    rw [Command.run_delete, select_of_verdicts (h .exact), List.countP_eq_length_filter, hleft]
    rfl

/-- The commands tell which documents they work on. -/
theorem Reaches.unique (hp : Reaches filter docs p) (hq : Reaches filter docs q) :
    ∀ d ∈ docs, p d = q d := by
  have hfound := (hp.found "" default none none).symm.trans (hq.found "" default none none)
  have hrows : docs.filter p = docs.filter q := by
    have hshape : (docs.filter p).map (shape none) = (docs.filter q).map (shape none) :=
      Reply.rows.inj (congrArg Prod.fst (Except.ok.inj hfound))
    rwa [show shape none = id from rfl, List.map_id, List.map_id] at hshape
  intro d hd
  apply Bool.eq_iff_iff.2
  have hmem : d ∈ docs.filter p ↔ d ∈ docs.filter q := by rw [hrows]
  simpa [hd] using hmem

end Table

namespace Filter

/-- What stands for a relation to a whole number in a filter, and the relation. -/
def integerConditions (n : Int64) : List (Value × (Int64 → Bool)) :=
  [(.int64 n, fun m => m.toInt == n.toInt),
    (.document [("$lt", .int64 n)], fun m => decide (m.toInt < n.toInt)),
    (.document [("$lte", .int64 n)], fun m => decide (m.toInt ≤ n.toInt)),
    (.document [("$gt", .int64 n)], fun m => decide (m.toInt > n.toInt)),
    (.document [("$gte", .int64 n)], fun m => decide (m.toInt ≥ n.toInt))]

/-- The number that a filter with the operand `n` takes another one for. -/
def takenFor (n m : Int64) : Int64 :=
  if Binary64.ofInt m.toInt = Binary64.ofInt n.toInt then n else m

omit [Regex.Engine] in
theorem compare_takenFor (rule : CaseRule) (m n : Int64) :
    (Value.int64 m).compare rule (.int64 n) = Ord.compare (takenFor n m).toInt n.toInt := by
  rw [Value.compare_of_isNumber rfl rfl, Value.compareNumbers_int64, takenFor]
  split
  · exact (Std.compare_self (α := Int)).symm
  · rfl

omit [Regex.Engine] in
theorem equals_takenFor (rule : CaseRule) (m n : Int64) :
    equals rule (some (.int64 m)) (.int64 n) = ((takenFor n m).toInt == n.toInt) := by
  rw [equals_of_not_isArray rfl, Value.matchesEqual_of_isNumber rfl rfl,
    ← Value.compare_of_isNumber rfl rfl rule, compare_takenFor]
  apply Bool.eq_iff_iff.2
  simp

omit [Regex.Engine] in
theorem ordered_takenFor (rule : CaseRule) (accept : Ordering → Bool) (m n : Int64) :
    ordered rule accept (some (.int64 m)) (.int64 n) =
      accept (Ord.compare (takenFor n m).toInt n.toInt) := by
  rw [ordered_of_not_isArray rfl, relates, compare_takenFor]
  rfl

/-- A filter relates the number that it takes another one for. -/
theorem fieldHolds_integer (rule : CaseRule) {m n : Int64} {condition : Value}
    {relation : Int64 → Bool} (h : (condition, relation) ∈ integerConditions n) :
    fieldHolds rule (some (.int64 m)) condition = .ok (relation (takenFor n m)) := by
  simp only [integerConditions, List.mem_cons, Prod.mk.injEq, List.not_mem_nil, or_false] at h
  rcases h with ⟨rfl, rfl⟩ | ⟨rfl, rfl⟩ | ⟨rfl, rfl⟩ | ⟨rfl, rfl⟩ | ⟨rfl, rfl⟩
  · exact congrArg Except.ok (equals_takenFor rule m n)
  all_goals
    rw [fieldHolds_operator rule _ (by decide)]
    refine congrArg Except.ok ((ordered_takenFor rule _ m n).trans ?_)
    apply Bool.eq_iff_iff.2
    simp [Std.compare_eq_lt, Std.compare_eq_gt]

end Filter

namespace Table

open DocStore.Filter (integerConditions takenFor)

/-- A filter on the identity works with the numbers that it takes the identities for. -/
theorem reaches_of_taken {docs : List Document} {id seen : Document → Int64} {n : Int64}
    {condition : Value} {relation : Int64 → Bool}
    (hids : ∀ d ∈ docs, d.get? "_id" = some (.int64 (id d)))
    (hseen : ∀ d ∈ docs, takenFor n (id d) = seen d)
    (h : (condition, relation) ∈ integerConditions n) :
    Reaches [("_id", condition)] docs fun d => relation (seen d) := by
  apply reaches_of_verdicts
  intro rule d hd
  rw [Filter.matchesFilter_field rule d (by decide), Document.at?_id, hids d hd,
    Filter.fieldHolds_integer rule h, hseen d hd]

end Table

/-- Where all identities are whole numbers, a filter that relates them to a number takes every identity
that is rounded to the same binary number for that number. All commands are exact, for equality and for
the four orders, if and only if no such identity is another number. A number of no more than 53 digits
has no such others. -/
theorem integerIdentities_exact_iff {docs : List Document} {id : Document → Int64}
    (hids : ∀ d ∈ docs, d.get? "_id" = some (.int64 (id d))) (n : Int64) :
    let Exact := ∀ condition relation, (condition, relation) ∈ Filter.integerConditions n →
      Table.Reaches [("_id", condition)] docs fun d => relation (id d)
    (∀ condition relation, (condition, relation) ∈ Filter.integerConditions n →
      Table.Reaches [("_id", condition)] docs fun d => relation (Filter.takenFor n (id d))) ∧
    (Exact ↔ ∀ d ∈ docs, Binary64.ofInt (id d).toInt = Binary64.ofInt n.toInt → id d = n) ∧
    (n.toInt.natAbs < 2 ^ 53 → Exact) := by
  intro Exact
  have hexact (halone : ∀ d ∈ docs,
      Binary64.ofInt (id d).toInt = Binary64.ofInt n.toInt → id d = n) : Exact := by
    intro condition relation h
    refine Table.reaches_of_taken hids (fun d hd => ?_) h
    unfold Filter.takenFor
    split
    · rename_i hrounded
      exact (halone d hd hrounded).symm
    · rfl
  have htaken {condition : Value} {relation : Int64 → Bool}
      (h : (condition, relation) ∈ Filter.integerConditions n) :
      Table.Reaches [("_id", condition)] docs fun d => relation (Filter.takenFor n (id d)) :=
    Table.reaches_of_taken hids (fun _ _ => rfl) h
  refine ⟨fun condition relation => htaken, ⟨?_, hexact⟩, fun hn => ?_⟩
  · intro h d hd hrounded
    have hequal : ((.int64 n : Value), fun m : Int64 => m.toInt == n.toInt) ∈
      Filter.integerConditions n := List.mem_cons_self
    have hsame := (h _ _ hequal).unique (htaken hequal) d hd
    rw [Filter.takenFor, if_pos hrounded, beq_self_eq_true, beq_iff_eq] at hsame
    exact Int64.toInt_inj.1 hsame
  · exact hexact fun d _ hrounded => Int64.toInt_inj.1 ((Binary64.ofInt_inj hn).1 hrounded)

/-- The identity of a document, if it is a whole number. -/
def Document.integerId (d : Document) : Int64 :=
  match d.get? "_id" with
  | some (.int64 n) => n
  | _ => 0

end

open scoped Regex

/-- The operand has 54 digits, and yet no identity but itself is rounded to it. -/
theorem integerIdentities_exact_iff_even :
    let docs : List Document := [[("_id", .int64 9007199254740992)], [("_id", .int64 (-7))],
      [("_id", .int64 9007199254740994)]]
    let filter : Document := [("_id", .document [("$gte", .int64 9007199254740994)])]
    Command.run "" default (.delete filter) docs = .ok (.number 1, docs.take 2) := by
  intro docs filter
  have hids : ∀ d ∈ docs, d.get? "_id" = some (.int64 d.integerId) := by
    simp only [docs, List.forall_mem_cons]
    exact ⟨rfl, rfl, rfl, nofun⟩
  have hrounded : ∀ m ∈ [(9007199254740992 : Int64), -7, 9007199254740994],
      Binary64.ofInt m.toInt = Binary64.ofInt (9007199254740994 : Int64).toInt →
        m = 9007199254740994 := by
    simp only [List.forall_mem_cons]
    exact ⟨by decide +kernel, by decide +kernel, fun _ => trivial, nofun⟩
  obtain ⟨-, hexact, -⟩ := integerIdentities_exact_iff hids 9007199254740994
  have halone := hexact.2 fun d hd =>
    hrounded _ (List.mem_map_of_mem (f := Document.integerId) hd)
  have hatLeast : ((.document [("$gte", .int64 9007199254740994)] : Value),
      fun m : Int64 => decide (m.toInt ≥ (9007199254740994 : Int64).toInt)) ∈
    Filter.integerConditions 9007199254740994 := List.mem_of_getElem? (i := 4) rfl
  exact (halone _ _ hatLeast).deleted "" default

/-- The two identities are told apart when they are inserted, and not by a filter. -/
theorem integerIdentities_confused :
    let first : Document := [("_id", .int64 9007199254740992), ("v", .string "a")]
    let second : Document := [("_id", .int64 9007199254740993), ("v", .string "b")]
    let filter : Document := [("_id", .int64 9007199254740993)]
    let docs := [first, second]
    let run := Command.run "" default
    run (.insert second) [first] = .ok (.identity (.int64 9007199254740993), docs) ∧
      run (.count filter) docs = .ok (.number 2, docs) ∧
      run (.find filter {}) docs = .ok (.rows docs, docs) ∧
      run (.replace filter [("v", .string "c")]) docs = .ok (.updated ⟨1, 1⟩,
        [[("_id", .int64 9007199254740992), ("v", .string "c")], second]) ∧
      run (.delete filter) docs = .ok (.number 2, []) ∧
      run (.count [("_id", .document [("$lt", .int64 9007199254740993)])]) docs =
        .ok (.number 0, docs) := by
  intro first second filter docs run
  have hids : ∀ d ∈ docs, d.get? "_id" = some (.int64 d.integerId) := by
    simp only [docs, List.forall_mem_cons]
    exact ⟨rfl, rfl, nofun⟩
  have htaken : ∀ d ∈ docs, Filter.takenFor 9007199254740993 d.integerId = 9007199254740993 := by
    have hrounded : ∀ m ∈ [(9007199254740992 : Int64), 9007199254740993],
        Filter.takenFor 9007199254740993 m = 9007199254740993 := by
      simp only [List.forall_mem_cons]
      exact ⟨by decide +kernel, by decide +kernel, nofun⟩
    exact fun d hd => hrounded _ (List.mem_map_of_mem (f := Document.integerId) hd)
  have hequal := Table.reaches_of_taken hids htaken (List.mem_of_getElem? (i := 0) rfl)
  have hless := Table.reaches_of_taken hids htaken (List.mem_of_getElem? (i := 1) rfl)
  exact ⟨rfl, hequal.counted "" default, hequal.found "" default none none,
    hequal.replaced [] first [second] rfl nofun rfl "" default _, hequal.deleted "" default,
    hless.counted "" default⟩

end DocStore
