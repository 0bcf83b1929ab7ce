import DocStore.Proofs.Collection.Stamps
import DocStore.Proofs.Transaction.Phases
import Mathlib.Algebra.Group.Nat.Defs
import Mathlib.Logic.Function.Basic
/-!
Work that saves objects. A save that succeeds leaves its stamps on the object, and one that fails
leaves none; so what has become of an object is told by the saves of it that succeeded.
-/
namespace DocStore

open PersistentObject (journal isNew identity)

/-- Work that saves objects, which are known by their places. In between the host may change in any
way, and the work may go by what it sees. -/
inductive Saving (β : Type) where
  | done (outcome : Outcome β)
  | save (collection : String) (place : Nat) (note : String)
      (next : Except Failure Unit → Saving β)
  | meanwhile (change : Host → Host) (next : Host → Saving β)

structure SaveEntry where
  collection : String
  place : Nat
  note : String
  now : Int64
  succeeded : Bool

/-- The objects of a client, and the saves that were made of them. -/
structure Desk (α : Type) where
  objects : Nat → α
  entries : List SaveEntry := []

/-- The saves of one object that succeeded. -/
def keptSaves (entries : List SaveEntry) (place : Nat) : List SaveEntry :=
  entries.filter fun e => e.place = place && e.succeeded

theorem keptSaves_cons (e : SaveEntry) (entries : List SaveEntry) (i : Nat) :
    keptSaves (e :: entries) i =
      if e.place = i ∧ e.succeeded = true then e :: keptSaves entries i
      else keptSaves entries i := by
  by_cases h : e.place = i ∧ e.succeeded = true
  · simp [keptSaves, h]
  · have hkept : (decide (e.place = i) && e.succeeded) = false := by simpa using h
    simp only [keptSaves, List.filter_cons, hkept, if_neg h]
    rfl

section Objects

variable [PersistentObject α]

/-- An object with the stamps of some saves, the first one first. -/
def stamped (kept : List SaveEntry) (object : α) : α :=
  kept.foldl (fun object e => Collection.stamp e.now e.note object) object

section Stamped

variable [LawfulObject α]

theorem revision_stamped (kept : List SaveEntry) (object : α) :
    (journal (stamped kept object)).revision =
      (journal object).revision + Int64.ofNat kept.length := by
  induction kept generalizing object with
  | nil => exact (Int64.add_zero _).symm
  | cons e rest ih =>
    have hrest := ih (Collection.stamp e.now e.note object)
    rw [Collection.revision_stamp] at hrest
    rw [List.length_cons, Int64.ofNat_add, Int64.add_comm (Int64.ofNat rest.length),
      ← Int64.add_assoc]
    exact hrest

theorem isNew_stamped (kept : List SaveEntry) (object : α) :
    isNew (stamped kept object) = (isNew object && kept.all fun e => e.now == 0) := by
  induction kept generalizing object with
  | nil => exact (Bool.and_true _).symm
  | cons e rest ih =>
    have hrest := ih (Collection.stamp e.now e.note object)
    rw [Collection.isNew_stamp, Bool.and_assoc] at hrest
    exact hrest

theorem identity_stamped (kept : List SaveEntry) (object : α) :
    identity (stamped kept object) = identity object := by
  induction kept generalizing object with
  | nil => rfl
  | cons e rest ih =>
    exact (ih (Collection.stamp e.now e.note object)).trans (Collection.identity_stamp _ _ _)

/-- An object that was saved is another object. -/
theorem stamped_eq_iff {kept : List SaveEntry} (h : kept.length < 2 ^ 64) (object : α) :
    stamped kept object = object ↔ kept = [] := by
  constructor
  · intro heq
    have hrevision := revision_stamped kept object
    rw [heq] at hrevision
    have hzero : Int64.ofNat kept.length = 0 := by grind
    have hbits := congrArg BitVec.toNat (congrArg Int64.toBitVec hzero)
    have hmod : kept.length % 2 ^ 64 = 0 := by simpa using hbits
    rw [Nat.mod_eq_of_lt h] at hmod
    exact List.length_eq_zero_iff.1 hmod
  · rintro rfl
    rfl

end Stamped

variable [Regex.Engine]

/-- Does the work with the objects on a desk. -/
def Saving.run (w : UnitOfWork) : Saving β → StateT Host (StateM (Desk α)) (Outcome β)
  | .done outcome => pure outcome
  | .save name place note next => fun s desk =>
    let r := ((w.collection name).save (desk.objects place) note).run s
    let entry := ⟨name, place, note, Collection.clock s, r.1.1.isOk⟩
    (next r.1.1).run w r.2
      ⟨Function.update desk.objects place r.1.2, desk.entries ++ [entry]⟩
  | .meanwhile change next => fun s desk => (next (change s)).run w (change s) desk

variable [LawfulObject α]

/-- The work makes some saves, and each object has the stamps of those of it that succeeded. -/
theorem Saving.run_objects (a : Saving β) (w : UnitOfWork) (s : Host) (desk : Desk α) :
    ∃ entries, ((a.run w).run s desk).2.entries = desk.entries ++ entries ∧
      ∀ i, ((a.run w).run s desk).2.objects i = stamped (keptSaves entries i) (desk.objects i) := by
  induction a generalizing s desk with
  | done outcome => exact ⟨[], (List.append_nil _).symm, fun i => rfl⟩
  | save name place note next ih =>
    let r := ((w.collection name).save (desk.objects place) note).run s
    let entry : SaveEntry := ⟨name, place, note, Collection.clock s, r.1.1.isOk⟩
    obtain ⟨entries, hentries, hobjects⟩ := ih r.1.1 r.2
      ⟨Function.update desk.objects place r.1.2, desk.entries ++ [entry]⟩
    have hobject : r.1.2 = if entry.succeeded then
        Collection.stamp entry.now entry.note (desk.objects place) else desk.objects place :=
      Collection.save_object (w.collection name) (desk.objects place) note s
    refine ⟨entry :: entries, hentries.trans (List.append_assoc _ _ _), ?_⟩
    intro i
    refine (hobjects i).trans ?_
    dsimp only
    rw [keptSaves_cons]
    by_cases hi : place = i
    · subst hi
      rw [Function.update_self, hobject]
      cases hsucceeded : entry.succeeded with
      | false => simp
      | true =>
        rw [if_pos rfl, if_pos ⟨rfl, rfl⟩]
        rfl
    · have hkept : ¬(entry.place = i ∧ entry.succeeded = true) := fun h => hi h.1
      rw [Function.update_of_ne (Ne.symm hi), if_neg hkept]
  | meanwhile change next ih => exact ih (change s) (change s) desk

end Objects

end DocStore
