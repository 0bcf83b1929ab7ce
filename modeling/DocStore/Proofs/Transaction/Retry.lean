import DocStore.Proofs.Collection.Records
import DocStore.Proofs.Transaction.SaveAll
import DocStore.Regex.Default
/-!
Saving again after a transaction. A transaction that fails takes back what it wrote, but not the
stamps on the objects that were saved in it. Saving the same objects in another transaction comes to
the same end unless one of them was new: it counts as existing now, although no document has its
identity.
-/
namespace DocStore

open PersistentObject (identity isNew encode)

section Objects

variable [PersistentObject α] [LawfulObject α] {objects objects' : Nat → α} {task : Task}

theorem storable_stamped {strategy : SaveStrategy} {id : ObjectId} {object : α}
    (h : Storable strategy id object) (kept : List SaveEntry) :
    Storable strategy id (stamped kept object) := by
  induction kept generalizing object with
  | nil => exact h
  | cons e rest ih => exact ih (Collection.storable_stamp h e.now e.note)

section Stamped

variable {strategy : SaveStrategy} {tables : Tables} {kept : Nat → List SaveEntry}
  (hstamped : ∀ i, objects' i = stamped (kept i) (objects i))
include hstamped

theorem id?_stamped (task : Task) : task.id? objects' = task.id? objects := by
  rw [Task.id?, hstamped, identity_stamped, Task.id?]

/-- Stamps make no difference to a save that takes the same path. -/
theorem Task.Fit.again (h : task.Fit strategy tables objects)
    (hnew : isNew (objects' task.place) = isNew (objects task.place)) :
    task.Fit strategy tables objects' := by
  obtain ⟨id, hstorable, hready⟩ := h
  refine ⟨id, ?_, ?_⟩
  · rw [hstamped]
    exact storable_stamped hstorable _
  · unfold Collection.Ready at hready ⊢
    rw [hnew]
    exact hready

/-- A save that takes another path than before is stuck. -/
theorem Task.Fit.stuck (h : task.Fit strategy tables objects)
    (hnew : isNew (objects' task.place) ≠ isNew (objects task.place)) :
    task.Stuck tables objects' := by
  obtain ⟨id, hstorable, hready⟩ := h
  have hafter : isNew (objects' task.place) =
      (isNew (objects task.place) && (kept task.place).all fun e => e.now == 0) := by
    rw [hstamped, isNew_stamped]
  cases hbefore : isNew (objects task.place) with
  | false =>
    rw [hbefore, Bool.false_and] at hafter
    exact absurd (hafter.trans hbefore.symm) hnew
  | true =>
    rw [hbefore] at hnew
    unfold Collection.Ready at hready
    rw [if_pos hbefore] at hready
    have hid := (id?_stamped hstamped task).trans hstorable.identity
    exact ⟨Bool.eq_false_iff.2 hnew, id, hid, hready⟩

end Stamped

variable [Regex.Engine]

/-- Each object has the stamps of the saves of it that succeeded, whatever becomes of the
transaction. -/
theorem withTransaction_objects (server : Server) (context : Context)
    (work : UnitOfWork → Saving β) (s : Host) (objects : Nat → α) :
    let desk : Desk α :=
      ((server.withTransaction context fun w => (work w).run w).run s ⟨objects, []⟩).2
    ∀ i, desk.objects i = stamped (keptSaves desk.entries i) (objects i) := by
  dsimp only
  rw [Server.withTransaction_run]
  rcases (Host.startSession server.sessionOptions).on s with ⟨e | n, u⟩
  · exact fun i => rfl
  · dsimp only
    rcases (Host.startTransaction n server.transactionOptions).on u with ⟨e | _, v⟩
    · exact fun i => rfl
    · let w : UnitOfWork := ⟨context, some n, server.settings⟩
      obtain ⟨entries, hentries, hobjects⟩ := (work w).run_objects w v (⟨objects, []⟩ : Desk α)
      intro i
      change (((work w).run w).run v ⟨objects, []⟩).2.objects i =
        stamped (keptSaves (((work w).run w).run v ⟨objects, []⟩).2.entries i) (objects i)
      rw [hentries]
      exact hobjects i

/-- Saves of objects with stamps, of which each had been possible without them, are possible if and
only if they take the same paths. -/
theorem withTransaction_stamped_iff {server : Server} {context : Context} {s : Host} {desk : Desk α}
    {tasks : List Task} {kept : Nat → List SaveEntry}
    (hstamped : ∀ i, desk.objects i = stamped (kept i) (objects i))
    (h : s.Undisturbed context) (hdistinct : Distinct objects tasks)
    (hfit : ∀ task ∈ tasks, task.Fit server.settings.strategy s.store.tables objects) :
    let r := (server.withTransaction context fun w => (Saving.saveAll tasks).run w).run s desk
    (r.1.1 = .returned () ↔
      ∀ task ∈ tasks, isNew (desk.objects task.place) = isNew (objects task.place)) ∧
    (r.1.1 = .returned () → ∀ task ∈ tasks, Kept server.settings.strategy
      (r.1.2.store.tables task.collection) (r.2.objects task.place)) := by
  intro r
  have hdistinct' : Distinct desk.objects tasks := by
    refine hdistinct.imp ?_
    intro a b hab
    rw [id?_stamped hstamped, id?_stamped hstamped]
    exact hab
  -- Stamps change nothing but journals, so a save is fit as before or takes the other path.
  by_cases hsame : ∀ task ∈ tasks, isNew (desk.objects task.place) = isNew (objects task.place)
  · obtain ⟨u, desk', hrun, hkept⟩ := withTransaction_of_fit h hdistinct' fun task htask =>
      (hfit task htask).again hstamped (hsame task htask)
    have heq : r = ((.returned (), u), desk') := hrun
    rw [heq]
    exact ⟨⟨fun _ => hsame, fun _ => rfl⟩, fun _ => hkept⟩
  · obtain ⟨task, htask, hnew⟩ : ∃ task ∈ tasks,
        isNew (desk.objects task.place) ≠ isNew (objects task.place) := by
      simpa using hsame
    have hothers : ∀ other ∈ tasks, ¬other.Stuck s.store.tables desk.objects →
        other.Fit server.settings.strategy s.store.tables desk.objects := by
      intro other hother hfree
      refine (hfit other hother).again hstamped (Decidable.byContradiction fun hne => ?_)
      exact hfree ((hfit other hother).stuck hstamped hne)
    obtain ⟨e, hfailed⟩ := withTransaction_of_stuck h hdistinct' hothers
      ⟨task, htask, (hfit task htask).stuck hstamped hnew⟩
    have hreturned : r.1.1 ≠ .returned () := by
      intro heq
      rw [heq] at hfailed
      cases hfailed
    exact ⟨⟨fun heq => absurd heq hreturned, fun hall => absurd hall hsame⟩,
      fun heq => absurd heq hreturned⟩

/-- However a transaction ends, an object is as before only if no save of it succeeded. In another
transaction the same saves, of which each had been possible, are possible if and only if none of
their objects was new and has been saved. -/
theorem withTransaction_retry_iff (server : Server) (context : Context)
    (work : UnitOfWork → Saving β) (s : Host) (objects : Nat → α) :
    let desk : Desk α :=
      ((server.withTransaction context fun w => (work w).run w).run s ⟨objects, []⟩).2
    (∀ i, (keptSaves desk.entries i).length < 2 ^ 64 →
      (desk.objects i = objects i ↔ keptSaves desk.entries i = [])) ∧
    (∀ i, isNew (desk.objects i) = isNew (objects i) ↔
      ¬(isNew (objects i) = true ∧ ∃ e ∈ keptSaves desk.entries i, e.now ≠ 0)) ∧
    ∀ (later : Context) (u : Host) (tasks : List Task), u.Undisturbed later →
      Distinct objects tasks →
      (∀ task ∈ tasks, task.Fit server.settings.strategy u.store.tables objects) →
      let again := (server.withTransaction later fun w => (Saving.saveAll tasks).run w).run u desk
      (again.1.1 = .returned () ↔
        ∀ task ∈ tasks, isNew (desk.objects task.place) = isNew (objects task.place)) ∧
      (again.1.1 = .returned () → ∀ task ∈ tasks,
        Kept server.settings.strategy (again.1.2.store.tables task.collection)
          (again.2.objects task.place)) := by
  intro desk
  have hstamped : ∀ i, desk.objects i = stamped (keptSaves desk.entries i) (objects i) :=
    withTransaction_objects server context work s objects
  refine ⟨?_, ?_, ?_⟩
  · intro i hlength
    rw [hstamped i]
    exact stamped_eq_iff hlength (objects i)
  · intro i
    rw [hstamped i, isNew_stamped]
    cases hnew : isNew (objects i) with
    | false => simp
    | true => simp [List.all_eq_true]
  · intro later u tasks hu hdistinct hfit
    exact withTransaction_stamped_iff hstamped hu hdistinct hfit

end Objects

/-- A host without documents, one second after the clock began. -/
def emptyHost : Host := { store := { database := "main" }, timeline := { now := nanosPerSecond } }

/-- New objects, each with its place for an identity. -/
def unsaved (place : Nat) : Record := ⟨[("_id", .objectId ⟨BitVec.ofNat 96 place⟩)], {}⟩

/-- Work that fails after a save. -/
def saveInVain : Saving Unit :=
  .save "notes" 0 "" fun _ => .done (.failed (.internal "" ""))

open scoped Regex

/-- The object that was saved in vain is another one now and cannot be saved again, but an object
that was not saved can. -/
theorem withTransaction_retry_unsaved :
    let first := (Server.withTransaction {} .background fun w => saveInVain.run w).run emptyHost
      ⟨unsaved, []⟩
    let again (place : Nat) := (Server.withTransaction {} .background fun w =>
      (Saving.saveAll [⟨"notes", place, ""⟩]).run w).run first.1.2 first.2
    (∃ e, first.1.1 = .failed e) ∧ first.2.objects 0 ≠ unsaved 0 ∧ (again 0).1.1 ≠ .returned () ∧
      (again 1).1.1 = .returned () ∧
      Kept .replace ((again 1).1.2.store.tables "notes") ((again 1).2.objects 1) := by
  intro first again
  obtain ⟨hobjects, hpaths, hretry⟩ :=
    withTransaction_retry_iff {} .background (fun _ => saveInVain) emptyHost unsaved
  have hhost : first.1.2.Undisturbed .background := ⟨rfl, rfl, fun _ _ => rfl⟩
  have hdistinct (place : Nat) : Distinct unsaved [⟨"notes", place, ""⟩] :=
    List.pairwise_singleton _ _
  have hencodes (place : Nat) : ∀ j, ∃ d,
      encode (PersistentObject.setJournal j (unsaved place)) = .ok d ∧
        d.get? "_id" = some (.objectId ⟨BitVec.ofNat 96 place⟩) ∧
        (SaveStrategy.replace = .guardedUpdate → d.Plain) := fun _ => ⟨_, rfl, rfl, nofun⟩
  have hfit (place : Nat) (hid : ObjectId.ofHex? (identity (unsaved place)) =
      some ⟨BitVec.ofNat 96 place⟩) : ∀ task ∈ [(⟨"notes", place, ""⟩ : Task)],
      task.Fit .replace first.1.2.store.tables unsaved := by
    intro task htask
    rw [List.mem_singleton.1 htask]
    have hlacks : Table.Lacks (first.1.2.store.tables "notes") ⟨BitVec.ofNat 96 place⟩ := rfl
    exact ⟨_, ⟨hid, hencodes place⟩, hlacks⟩
  have hsaved := hretry .background first.1.2 [⟨"notes", 0, ""⟩] hhost (hdistinct 0) (hfit 0 rfl)
  have hother := hretry .background first.1.2 [⟨"notes", 1, ""⟩] hhost (hdistinct 1) (hfit 1 rfl)
  have hreturned : (again 1).1.1 = .returned () := by
    refine hother.1.2 ?_
    intro task htask
    rw [List.mem_singleton.1 htask]
    rfl
  refine ⟨⟨_, rfl⟩, ?_, ?_, hreturned, ?_⟩
  · intro heq
    have hkept := (hobjects 0 (by decide)).1 heq
    cases hkept
  · intro heq
    have hnew := hsaved.1.1 heq ⟨"notes", 0, ""⟩ (List.mem_singleton_self _)
    cases hnew
  · exact hother.2 hreturned ⟨"notes", 1, ""⟩ (List.mem_singleton_self _)

/-- A new object that was saved in a transaction that failed does not count as new any more,
although there is no document of it. The same save of it fails in a transaction that nothing
disturbs. -/
theorem saved_in_vain_not_again :
    let first := (Server.withTransaction {} .background fun w => saveInVain.run w).run emptyHost
      ⟨unsaved, []⟩
    let again := (Server.withTransaction {} .background fun w =>
      (Saving.saveAll [⟨"notes", 0, ""⟩]).run w).run first.1.2 first.2
    (∃ e, first.1.1 = .failed e) ∧ first.1.2.store.tables "notes" = [] ∧
      isNew (unsaved 0) = true ∧ isNew (first.2.objects 0) = false ∧
      (∃ e, again.1.1 = .failed e) ∧ again.1.2.store.tables "notes" = [] :=
  ⟨⟨_, rfl⟩, rfl, rfl, rfl, ⟨_, rfl⟩, rfl⟩

end DocStore
