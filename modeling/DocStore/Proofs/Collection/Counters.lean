import DocStore.Proofs.Collection.Storing
import DocStore.Proofs.Document.Lens
import DocStore.Proofs.Store.Selection
import DocStore.Regex.Default
import Mathlib.Algebra.Ring.Int.Defs
/-!
Counters. An increment reads the integer at a path, adds to it and puts the sum in its place. Writing
goes as deep as a path does, and reading does not: below the depth that documents are read to, each
increment starts from zero again, and of all that was counted the last amount is left.
-/
namespace DocStore

section

/-- The integers of 64 bits. -/
def FitsInt64 (n : Int) : Prop := -0x8000000000000000 ≤ n ∧ n ≤ 0x7fffffffffffffff

namespace Value

variable {v w : Value} {m n : Int}

/-- The number that an integer of either width stands for. -/
def integer? : Value → Option Int
  | .int32 n => some n.toInt
  | .int64 n => some n.toInt
  | _ => none

theorem integer?_cases (h : v.integer? = some n) :
    (∃ x : Int32, v = .int32 x ∧ x.toInt = n) ∨ ∃ x : Int64, v = .int64 x ∧ x.toInt = n := by
  cases v with
  | int32 x => exact .inl ⟨x, rfl, Option.some.inj h⟩
  | int64 x => exact .inr ⟨x, rfl, Option.some.inj h⟩
  | _ => cases h

theorem fitsInt64_of_integer? (h : v.integer? = some n) : FitsInt64 n := by
  unfold FitsInt64
  obtain ⟨x, rfl, rfl⟩ | ⟨x, rfl, rfl⟩ := integer?_cases h
  · have hlow := x.le_toInt
    have hhigh := x.toInt_lt
    omega
  · have hlow := x.le_toInt
    have hhigh := x.toInt_lt
    omega

theorem toInt_ofInt64 (h : FitsInt64 n) : (Int64.ofInt n).toInt = n :=
  Int64.toInt_ofInt_of_le h.1 (Int.lt_of_le_sub_one h.2)

/-- The sum of two integers is exact wherever 64 bits hold it. -/
theorem exists_add? (hv : v.integer? = some m) (hw : w.integer? = some n)
    (hfits : FitsInt64 (m + n)) : ∃ sum, v.add? w = some sum ∧ sum.integer? = some (m + n) := by
  have hwide := congrArg some (toInt_ofInt64 hfits)
  obtain ⟨x, rfl, rfl⟩ | ⟨x, rfl, rfl⟩ := integer?_cases hv <;>
    obtain ⟨y, rfl, rfl⟩ | ⟨y, rfl, rfl⟩ := integer?_cases hw
  · by_cases hnarrow : -0x80000000 ≤ x.toInt + y.toInt ∧ x.toInt + y.toInt ≤ 0x7fffffff
    · exact ⟨_, if_pos hnarrow, congrArg some
        (Int32.toInt_ofInt_of_le hnarrow.1 (Int.lt_of_le_sub_one hnarrow.2))⟩
    · exact ⟨_, if_neg hnarrow, hwide⟩
  · exact ⟨_, rfl, hwide⟩
  · exact ⟨_, rfl, hwide⟩
  · exact ⟨_, rfl, hwide⟩

end Value

/-- A call that adds an integer to a counter of the first document that it finds. -/
structure Increment where
  filter : Document
  amount : Value
  isInteger : amount.integer?.isSome = true

namespace Increment

def number (i : Increment) : Int := i.amount.integer?.get i.isInteger

def changes (i : Increment) (path : String) : Document :=
  [("$inc", .document [(path, i.amount)])]

theorem integer?_amount (i : Increment) : i.amount.integer? = some i.number :=
  (Option.some_get i.isInteger).symm

end Increment

namespace Document

variable {d e : Document} {path : String} {v sum : Value} {n : Int}

/-- The integer that is stored at a path, however deep. What is missing counts as zero. -/
def counter? (d : Document) (path : String) : Option Int :=
  ((d.follow? (pathSegments path)).getD (.int32 0)).integer?

theorem counter?_setAt (d : Document) (path : String) (v : Value) :
    (d.setAt path v).1.counter? path = v.integer? := by
  rw [counter?, setAt, follow?_set (pathSegments_ne_nil path)]
  rfl

/-- What an increment finds of a stored integer. -/
def recalled (path : String) (n : Int) : Int :=
  if (pathSegments path).length ≤ maxPathDepth then n else 0

theorem integer?_at? (hpath : path ≠ "") (h : d.counter? path = some n) :
    ((d.at? path).getD (.int32 0)).integer? = some (recalled path n) := by
  unfold recalled
  split
  · rename_i hdepth
    rw [at?_eq_follow? hpath hdepth]
    exact h
  · rename_i hdepth
    rw [at?, if_pos (.inr (Nat.lt_of_not_le hdepth))]
    rfl

theorem applyUpdate_inc (hid : path ≠ "_id") {amount : Value}
    (h : ((d.at? path).getD (.int32 0)).add? amount = some sum) :
    d.applyUpdate [("$inc", .document [(path, amount)])] = .ok (d.setAt path sum) := by
  have hmodify : d.modify "$inc" path amount = .ok (d.setAt path sum) := by
    rw [modify, if_neg hid]
    simp only [h]
  rw [applyUpdate, if_neg (by simp), applyModifiers, modifyAll, hmodify]
  rfl

/-- One increment adds to what it finds, and puts the sum at the path. -/
theorem exists_applyUpdate_inc (hpath : path ≠ "") (hid : path ≠ "_id")
    (hcounter : d.counter? path = some n) {i : Increment}
    (hfits : FitsInt64 (recalled path n + i.number)) :
    ∃ sum, d.applyUpdate (i.changes path) = .ok (d.setAt path sum) ∧
      sum.integer? = some (recalled path n + i.number) := by
  obtain ⟨sum, hsum, hnumber⟩ :=
    Value.exists_add? (integer?_at? hpath hcounter) i.integer?_amount hfits
  exact ⟨sum, applyUpdate_inc hid hsum, hnumber⟩

/-- What is stored after some amounts were added to an integer, one after the other. -/
def tally (path : String) : Int → List Int → Int
  | stored, [] => stored
  | stored, amount :: rest => tally path (recalled path stored + amount) rest

theorem tally_of_le (h : (pathSegments path).length ≤ maxPathDepth) (amounts : List Int) :
    tally path n amounts = n + amounts.sum := by
  induction amounts generalizing n with
  | nil => exact (Int.add_zero n).symm
  | cons amount rest ih =>
    rw [tally, ih, recalled, if_pos h, List.sum_cons, Int.add_assoc]

theorem tally_of_lt (h : maxPathDepth < (pathSegments path).length) (amounts : List Int) :
    tally path n amounts = amounts.getLast?.getD n := by
  induction amounts generalizing n with
  | nil => rfl
  | cons amount rest ih =>
    rw [tally, ih, recalled, if_neg (Nat.not_le_of_lt h), Int.zero_add, List.getLast?_cons]
    rfl

/-- Below the depth that is read, the sum is right only where all but the last amount cancel out. -/
theorem tally_eq_iff (path : String) (n : Int) (amounts : List Int) :
    tally path n amounts = n + amounts.sum ↔ (pathSegments path).length ≤ maxPathDepth ∨
      amounts = [] ∨ n + amounts.dropLast.sum = 0 := by
  by_cases hdepth : (pathSegments path).length ≤ maxPathDepth
  · exact ⟨fun _ => .inl hdepth, fun _ => tally_of_le hdepth amounts⟩
  · rw [tally_of_lt (Nat.lt_of_not_le hdepth), or_iff_right hdepth]
    obtain rfl | ⟨rest, last, rfl⟩ := List.eq_nil_or_concat amounts
    · simp
    · rw [List.concat_eq_append, List.getLast?_concat, List.dropLast_concat, List.sum_append,
        or_iff_right (List.concat_ne_nil last rest), Option.getD_some, List.sum_singleton]
      omega

end Document

variable [Regex.Engine]

namespace Filter

/-- Nothing that a filter reads is at a path, above it or below it. -/
def Spares (path : String) (filter : Document) : Prop :=
  ∃ paths, entriesWithin paths filter = true ∧ ∀ other ∈ paths, Apart path other

theorem Spares.matchesFilter_setAt {path : String} {filter : Document} (h : Spares path filter)
    (rule : CaseRule) (d : Document) (v : Value) :
    (d.setAt path v).1.matchesFilter rule filter = d.matchesFilter rule filter := by
  obtain ⟨paths, hwithin, hapart⟩ := h
  exact matchEntries_congr rule (fun other hother =>
    Document.at?_modifyParent_of_apart (Document.local_insertNoting v) (hapart other hother) d)
    filter hwithin

omit [Regex.Engine] in
/-- A filter on the identity spares all paths into other fields. -/
theorem spares_id {path : String} (h : pathHead path ≠ "_id") (condition : Value) :
    Spares path [("_id", condition)] := by
  have hwithin : entryWithin ["_id"] "_id" condition = true := by cases condition <;> rfl
  refine ⟨["_id"], ?_, fun other hother => ?_⟩
  · rw [entriesWithin, hwithin]
    rfl
  · rw [List.mem_singleton.1 hother]
    exact apart_of_pathHead_ne h

end Filter

namespace Table

variable {path : String} {filter : Document} {before after : List Document} {d e : Document}

/-- A filter finds a document among others, and goes on to find it whatever integer is put at a
path. -/
structure Tracks (path : String) (filter : Document) (before : List Document) (d : Document)
    (after : List Document) : Prop where
  first : FirstMatch .exact filter (before ++ d :: after) before d after
  lasting : ∀ v : Value, v.integer?.isSome = true →
    (d.setAt path v).1.matchesFilter .exact filter = .ok true

theorem tracks_of_spares (hfirst : FirstMatch .exact filter (before ++ d :: after) before d after)
    (h : Filter.Spares path filter) : Tracks path filter before d after :=
  ⟨hfirst, fun v _ => (h.matchesFilter_setAt .exact d v).trans hfirst.matched⟩

/-- A document that differs from another one in an integer at a path, if at all. -/
def Recounted (path : String) (d e : Document) : Prop :=
  e = d ∨ ∃ v : Value, v.integer?.isSome = true ∧ e = (d.setAt path v).1

theorem Tracks.firstMatch (h : Tracks path filter before d after) (he : Recounted path d e) :
    FirstMatch .exact filter (before ++ e :: after) before e after := by
  refine ⟨rfl, h.first.passed, ?_⟩
  rcases he with rfl | ⟨v, hv, rfl⟩
  · exact h.first.matched
  · exact h.lasting v hv

omit [Regex.Engine] in
/-- Of several integers put at a path the last one is there. -/
theorem Recounted.setAt_eq (he : Recounted path d e) (v : Value) :
    (e.setAt path v).1 = (d.setAt path v).1 := by
  rcases he with rfl | ⟨w, -, rfl⟩
  · rfl
  · exact Document.set_set _ w v d

end Table

namespace Host

open StoreAction Table Document

variable {context : Context} {session : Option SessionNumber} {collection : String} {s : Host}

/-- Updates made one after the other. -/
def updateAll (context : Context) (session : Option SessionNumber) (collection : String) :
    List (Document × Document) → StoreAction (List UpdateResult)
  | [] => return []
  | (filter, changes) :: rest => do
    let result ← update context session collection filter changes
    let results ← updateAll context session collection rest
    return result :: results

/-- An update that nothing disturbs does what it does to the documents that it sees. -/
theorem Undisturbed.update_on (h : s.Undisturbed context)
    (hsession : s.store.isEnded session = false) {filter changes : Document}
    {result : UpdateResult} {docs : List Document}
    (hupdate : Table.update filter changes (s.store.visibleTables session collection) =
      .ok (result, docs)) :
    ∃ t, (update context session collection filter changes).on s = (.ok result, t) ∧
      t.Undisturbed context ∧ t.store.isEnded session = false ∧
      t.store.visibleTables session collection = docs := by
  obtain ⟨name, fresh, t, hissue, hdocs, hundisturbed, hended⟩ :=
    @Undisturbed.issue_run _ context s session collection h hsession (.update filter changes)
  rw [Store.visibleTables_eq] at hupdate
  rw [Command.run_update, hupdate] at hissue hdocs
  refine ⟨t, ?_, hundisturbed, hended, (congrFun (Store.visibleTables_eq _ _) _).trans hdocs⟩
  rw [update_eq_issue, on_bind_of_ok hissue]
  rfl

section Increments

variable {path : String} {before after : List Document} {d e : Document} {n : Int}

/-- One increment of a counter that its filter tracks. -/
theorem Undisturbed.increment_on (h : s.Undisturbed context)
    (hsession : s.store.isEnded session = false) (hpath : path ≠ "") (hid : path ≠ "_id")
    (hdocs : s.store.visibleTables session collection = before ++ e :: after)
    (he : Recounted path d e) {i : Increment} (htracks : Tracks path i.filter before d after)
    (hcounter : e.counter? path = some n) (hfits : FitsInt64 (recalled path n + i.number)) :
    ∃ result t e', (update context session collection i.filter (i.changes path)).on s =
        (.ok result, t) ∧ result.matched = 1 ∧ t.Undisturbed context ∧
      t.store.isEnded session = false ∧
      t.store.visibleTables session collection = before ++ e' :: after ∧
      (∃ v : Value, v.integer?.isSome = true ∧ e' = (d.setAt path v).1) ∧
      e'.counter? path = some (recalled path n + i.number) := by
  obtain ⟨sum, hupdate, hsum⟩ := exists_applyUpdate_inc hpath hid hcounter hfits
  have htable := (htracks.firstMatch he).update_eq (i.changes path)
  rw [hupdate, ← hdocs] at htable
  obtain ⟨t, hon, hundisturbed, hended, hleft⟩ := h.update_on hsession htable
  refine ⟨_, t, _, hon, rfl, hundisturbed, hended, hleft, ⟨sum, ?_, he.setAt_eq sum⟩, ?_⟩
  · rw [hsum]
    rfl
  · rw [counter?_setAt, hsum]

/-- Increments add up to the tally of their path. -/
theorem Undisturbed.updateAll_on (h : s.Undisturbed context)
    (hsession : s.store.isEnded session = false) (hpath : path ≠ "") (hid : path ≠ "_id")
    (hdocs : s.store.visibleTables session collection = before ++ e :: after)
    (he : Recounted path d e) {increments : List Increment}
    (htracks : ∀ i ∈ increments, Tracks path i.filter before d after)
    (hcounter : e.counter? path = some n)
    (hfits : (pathSegments path).length ≤ maxPathDepth →
      ∀ k, FitsInt64 (n + ((increments.map Increment.number).take k).sum)) :
    ∃ results t e', (updateAll context session collection
        (increments.map fun i => (i.filter, i.changes path))).on s = (.ok results, t) ∧
      results.map UpdateResult.matched = increments.map (fun _ => 1) ∧
      t.store.visibleTables session collection = before ++ e' :: after ∧
      (increments = [] ∧ e' = e ∨
        ∃ v : Value, v.integer?.isSome = true ∧ e' = (d.setAt path v).1) ∧
      e'.counter? path = some (tally path n (increments.map Increment.number)) := by
  induction increments generalizing s e n with
  | nil => exact ⟨[], s, e, rfl, rfl, hdocs, .inl ⟨rfl, rfl⟩, hcounter⟩
  | cons i rest ih =>
    obtain ⟨hi, hrest⟩ := List.forall_mem_cons.1 htracks
    have hfirst : FitsInt64 (recalled path n + i.number) := by
      unfold recalled
      split
      · rename_i hdepth
        simpa using hfits hdepth 1
      · rw [Int.zero_add]
        exact Value.fitsInt64_of_integer? i.integer?_amount
    obtain ⟨result, t, e', hon, hmatched, ht, hended, hleft, hput, hcounter'⟩ :=
      h.increment_on hsession hpath hid hdocs he hi hcounter hfirst
    have hlater (hdepth : (pathSegments path).length ≤ maxPathDepth) (k : Nat) :
        FitsInt64 (recalled path n + i.number + ((rest.map Increment.number).take k).sum) := by
      have hsum := hfits hdepth (k + 1)
      rw [List.map_cons, List.take_succ_cons, List.sum_cons, ← Int.add_assoc] at hsum
      rwa [recalled, if_pos hdepth]
    obtain ⟨results, u, e'', hon', hmatched', hleft', hput', hcounter''⟩ :=
      ih ht hended hleft (.inr hput) hrest hcounter' hlater
    refine ⟨result :: results, u, e'', ?_, ?_, hleft', .inr ?_, hcounter''⟩
    · rw [List.map_cons, updateAll, on_bind_of_ok hon, on_bind_of_ok hon']
      rfl
    · rw [List.map_cons, List.map_cons, hmatched, hmatched']
    · rcases hput' with ⟨-, rfl⟩ | hput'
      · exact hput
      · exact hput'

/-- Increments of a counter, by calls that all find its document, succeed and change nothing else. At
a path that is read as deep as it is written the counter ends at its start and all amounts together;
deeper down it ends at the last amount. So it is right if and only if the path is not too deep, or
nothing has been counted before the last amount. -/
theorem increments_counted_iff (h : s.Undisturbed context)
    (hsession : s.store.isEnded session = false) (hpath : path ≠ "") (hid : path ≠ "_id")
    (hdocs : s.store.visibleTables session collection = before ++ d :: after)
    {increments : List Increment} (htracks : ∀ i ∈ increments, Tracks path i.filter before d after)
    (hstart : d.counter? path = some n)
    (hfits : ∀ k, FitsInt64 (n + ((increments.map Increment.number).take k).sum)) :
    let amounts := increments.map Increment.number
    let reached := (pathSegments path).length ≤ maxPathDepth
    ∃ results t d', (updateAll context session collection
        (increments.map fun i => (i.filter, i.changes path))).on s = (.ok results, t) ∧
      results.map UpdateResult.matched = increments.map (fun _ => 1) ∧
      t.store.visibleTables session collection = before ++ d' :: after ∧
      (increments = [] ∧ d' = d ∨
        ∃ v : Value, d' = (d.setAt path v).1 ∧ v.integer? = d'.counter? path) ∧
      (reached → d'.counter? path = some (n + amounts.sum)) ∧
      (¬reached → d'.counter? path = some (amounts.getLast?.getD n)) ∧
      (d'.counter? path = some (n + amounts.sum) ↔
        reached ∨ increments = [] ∨ n + amounts.dropLast.sum = 0) := by
  intro amounts reached
  obtain ⟨results, t, d', hon, hmatched, hleft, hput, hcounter⟩ :=
    h.updateAll_on hsession hpath hid hdocs (.inl rfl) htracks hstart fun _ => hfits
  refine ⟨results, t, d', hon, hmatched, hleft, ?_, ?_, ?_, ?_⟩
  · refine hput.imp id ?_
    rintro ⟨v, -, rfl⟩
    exact ⟨v, rfl, (counter?_setAt d path v).symm⟩
  · intro hreached
    rw [hcounter, tally_of_le hreached]
  · intro hreached
    rw [hcounter, tally_of_lt (Nat.lt_of_not_le hreached)]
  · rw [hcounter, Option.some_inj, tally_eq_iff, List.map_eq_nil_iff]

end Increments

/-- A host whose only collection has the given documents. -/
def keeping (docs : List Document) : Host where
  store := { database := "main", tables := Tables.empty.set "counts" docs }
  timeline := { now := 0 }

end Host

end

open scoped Regex

namespace Host

open StoreAction Table Document

/-- The second increment leaves the range of 32 bits. -/
theorem increments_counted_iff_wide :
    let d : Document := [("_id", .string "b"), ("seen", .document [("times", .int32 2147483646)])]
    let one : Increment := ⟨[("_id", .string "b")], .int32 1, rfl⟩
    let counted := (updateAll .background none "counts"
      [(one.filter, one.changes "seen.times"), (one.filter, one.changes "seen.times")]).on
        (keeping [[("_id", .string "a")], d])
    counted.1.toOption.map (List.map UpdateResult.matched) = some [1, 1] ∧
      ∃ d' : Document, counted.2.store.visibleTables none "counts" = [[("_id", .string "a")], d'] ∧
        d'.counter? "seen.times" = some 2147483648 := by
  intro d one counted
  have htracks : Tracks "seen.times" one.filter [[("_id", .string "a")]] d [] :=
    tracks_of_spares ⟨rfl, List.forall_mem_singleton.2 rfl, rfl⟩ (Filter.spares_id (by decide) _)
  have hfits (k : Nat) : FitsInt64 (2147483646 + ([1, 1].take k).sum) := by
    match k with
    | 0 | 1 | k + 2 => simp [FitsInt64]
  have hundisturbed : (keeping [[("_id", .string "a")], d]).Undisturbed .background :=
    ⟨rfl, rfl, fun _ _ => rfl⟩
  have hall : ∀ i ∈ [one, one], Tracks "seen.times" i.filter [[("_id", .string "a")]] d [] := by
    simpa using htracks
  have hdocs : (keeping [[("_id", .string "a")], d]).store.visibleTables none "counts" =
    [[("_id", .string "a")]] ++ d :: [] := rfl
  obtain ⟨results, t, d', hon, hmatched, hleft, -, hcounter, -⟩ :=
    increments_counted_iff hundisturbed rfl (by decide) (by decide) hdocs hall
      (n := 2147483646) (by decide) hfits
  have hcounted : counted = (.ok results, t) := hon
  rw [hcounted]
  exact ⟨congrArg some hmatched, d', hleft, hcounter (by decide)⟩

/-- At a path of 33 segments two increments by one both succeed, and the counter goes from nothing to
one. -/
theorem increments_lost :
    let path := "a.a.a.a.a.a.a.a.a.a.a.a.a.a.a.a.a.a.a.a.a.a.a.a.a.a.a.a.a.a.a.a.a"
    let d : Document := [("_id", .string "b")]
    let one : Increment := ⟨[("_id", .string "b")], .int32 1, rfl⟩
    let counted := (updateAll .background none "counts"
      [(one.filter, one.changes path), (one.filter, one.changes path)]).on (keeping [d])
    d.counter? path = some 0 ∧
      counted.1.toOption.map (List.map UpdateResult.matched) = some [1, 1] ∧
      ∃ d' : Document, counted.2.store.visibleTables none "counts" = [d'] ∧
        d'.counter? path = some 1 := by
  intro path d one counted
  have htracks : Tracks path one.filter [] d [] :=
    tracks_of_spares ⟨rfl, nofun, rfl⟩ (Filter.spares_id (by decide) _)
  have hundisturbed : (keeping [d]).Undisturbed .background := ⟨rfl, rfl, fun _ _ => rfl⟩
  have hdepth : maxPathDepth < (pathSegments path).length := by decide
  have hall : ∀ i ∈ [one, one], Tracks path i.filter [] d [] := by simpa using htracks
  have hdocs : (keeping [d]).store.visibleTables none "counts" = [] ++ d :: [] := rfl
  obtain ⟨results, t, d', hon, hmatched, hleft, -, hcounter⟩ :=
    hundisturbed.updateAll_on rfl (by decide) (by decide) hdocs (.inl rfl) hall (n := 0)
      (by decide) fun hreached => absurd hreached (Nat.not_le_of_lt hdepth)
  have hcounted : counted = (.ok results, t) := hon
  rw [hcounted]
  rw [tally_of_lt hdepth] at hcounter
  exact ⟨by decide, congrArg some hmatched, d', hleft, hcounter⟩

end Host

end DocStore
