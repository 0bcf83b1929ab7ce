import DocStore.Collection.Save
import DocStore.Proofs.Store.Admission
/-!
The stamps of a save. A save chooses its path by the object as it was, writes the object with its
stamps, and keeps the stamps only if the object could be written.
-/
namespace DocStore

open PersistentObject (identity journal setJournal modifyJournal isNew encode)

/-- The journal of an object is a part of its own. -/
class LawfulObject (α : Type) [PersistentObject α] : Prop where
  journal_setJournal (j : Journal) (object : α) : journal (setJournal j object) = j
  identity_setJournal (j : Journal) (object : α) : identity (setJournal j object) = identity object
  setJournal_setJournal (j k : Journal) (object : α) :
    setJournal j (setJournal k object) = setJournal j object

/-- Answer of an action of a client, with the host after it. -/
def Action.on (action : Action α) (s : Host) : Except Failure α × Host := action.run.run s

namespace Action

theorem on_bind (x : Action α) (f : α → Action β) (s : Host) :
    on (x >>= f) s = match on x s with
      | (.ok a, t) => on (f a) t
      | (.error e, t) => (.error e, t) := by
  simp only [on, ExceptT.run_bind, StateT.run_bind]
  rcases StateT.run (ExceptT.run x) s with ⟨e | a, t⟩ <;> rfl

theorem on_bind_of_ok {x : Action α} {s t : Host} {a : α} (h : on x s = (.ok a, t))
    (f : α → Action β) : on (x >>= f) s = on (f a) t := by
  rw [on_bind, h]

theorem run_attempt_bind (action : Action α) (f : Except Failure α → StateM Host β) (s : Host) :
    StateT.run (action.run >>= f) s = (f (action.on s).1).run (action.on s).2 := rfl

theorem exists_of_on_bind_eq_ok {x : Action α} {f : α → Action β} {s u : Host} {b : β}
    (h : on (x >>= f) s = (.ok b, u)) : ∃ a t, on x s = (.ok a, t) ∧ on (f a) t = (.ok b, u) :=
  exists_of_run_bind_eq_ok h

end Action

namespace Collection

variable [PersistentObject α]

/-- An object as it is stamped before it is written. -/
def stamp (now : Int64) (note : String) (object : α) : α :=
  let object := modifyJournal (·.updated now note) object
  if isNew object then modifyJournal (·.created now note) object else object

def clock (s : Host) : Int64 := Int64.ofNat s.timeline.millis

theorem run_now_bind (f : Int64 → StateM Host β) (s : Host) :
    StateT.run (now >>= f) s = (f (clock s)).run s := rfl

section Stamp

variable [LawfulObject α]

theorem isNew_modifyJournal (f : Journal → Journal) (object : α) :
    isNew (modifyJournal f object) = (f (journal object)).isNew := by
  rw [isNew, modifyJournal, LawfulObject.journal_setJournal]

theorem journal_modifyJournal (f : Journal → Journal) (object : α) :
    journal (modifyJournal f object) = f (journal object) :=
  LawfulObject.journal_setJournal _ _

theorem identity_modifyJournal (f : Journal → Journal) (object : α) :
    identity (modifyJournal f object) = identity object :=
  LawfulObject.identity_setJournal _ _

theorem isNew_updated (now : Int64) (note : String) (object : α) :
    isNew (modifyJournal (·.updated now note) object) = isNew object :=
  isNew_modifyJournal _ object

theorem revision_stamp (now : Int64) (note : String) (object : α) :
    (journal (stamp now note object)).revision = (journal object).revision + 1 := by
  unfold stamp
  dsimp only
  split
  · rw [journal_modifyJournal, journal_modifyJournal]
    rfl
  · rw [journal_modifyJournal]
    rfl

/-- An object stays new only if the clock stands at zero, which means never. -/
theorem isNew_stamp (now : Int64) (note : String) (object : α) :
    isNew (stamp now note object) = (isNew object && now == 0) := by
  unfold stamp
  dsimp only
  rw [isNew_updated]
  cases hnew : isNew object with
  | false => rw [if_neg (by nofun), isNew_updated, hnew, Bool.false_and]
  | true =>
    rw [if_pos rfl, isNew_modifyJournal, Bool.true_and]
    rfl

theorem identity_stamp (now : Int64) (note : String) (object : α) :
    identity (stamp now note object) = identity object := by
  unfold stamp
  dsimp only
  split
  · rw [identity_modifyJournal, identity_modifyJournal]
  · rw [identity_modifyJournal]

end Stamp

variable [Regex.Engine]

/-- A deletion is a save of the object with its mark. It keeps the mark only if that succeeds. -/
theorem delete_run_of_save {c : Collection} {object after : α} {answer : Except Failure Unit}
    {s t : Host} {note : String} (hnew : isNew object = false)
    (hsave : (c.save (modifyJournal (·.deleted (clock s) note) object) note).run s =
      ((answer, after), t)) :
    (c.delete object note).run s =
      ((answer.mapError fun e => e.wrap deleteLocation "unable to delete object",
        if answer.isOk then after else object), t) := by
  rw [delete, if_neg (ne_true_of_eq_false hnew), run_now_bind, StateT.run_bind, hsave]
  cases answer <;> rfl

variable [LawfulObject α]

/-- Writes an object that has been stamped, as one that exists. -/
def overwrite (c : Collection) (object : α) : Action Unit := do
  let id ← existingId object
  let d ← encodeObject object
  match c.settings.strategy with
  | .replace => c.replaceObject id d
  | .guardedUpdate => c.updateObject id d

/-- Writes an object that has been stamped, on the path of new ones or of those that exist. -/
def put (c : Collection) (isNew : Bool) (object : α) : Action Unit :=
  if isNew then c.insertObject object else c.overwrite object

theorem write_on_new {object : α} (hnew : isNew object = true) (c : Collection) (note : String)
    (s : Host) :
    (c.write object note).on s =
      Action.on (c.insertObject (stamp (clock s) note object) >>= fun _ =>
        pure (stamp (clock s) note object)) s := by
  have hupdated := (isNew_updated (clock s) note object).trans hnew
  have hstamp : stamp (clock s) note object = modifyJournal (·.created (clock s) note)
      (modifyJournal (·.updated (clock s) note) object) := if_pos hupdated
  change Action.on (if isNew (modifyJournal (·.updated (clock s) note) object) then _ else _) s = _
  rw [if_pos hupdated, hstamp]
  rfl

theorem write_on_existing {object : α} (hnew : isNew object = false) (c : Collection)
    (note : String) (s : Host) :
    (c.write object note).on s =
      Action.on (c.overwrite (stamp (clock s) note object) >>= fun _ =>
        pure (stamp (clock s) note object)) s := by
  have hupdated : ¬isNew (modifyJournal (·.updated (clock s) note) object) = true := by
    rw [isNew_updated, hnew]
    nofun
  have hstamp : stamp (clock s) note object =
      modifyJournal (·.updated (clock s) note) object := if_neg hupdated
  change Action.on (if isNew (modifyJournal (·.updated (clock s) note) object) then _ else _) s = _
  rw [if_neg hupdated, hstamp, overwrite]
  simp only [bind_assoc]
  cases c.settings.strategy with
  | replace => rfl
  | guardedUpdate => rfl

/-- The path that a save takes depends on the object as it was, and what is written is the stamped
object. Only a save that succeeds keeps the stamps. -/
theorem save_run (c : Collection) (object : α) (note : String) (s : Host) :
    (c.save object note).run s =
      match (c.put (isNew object) (stamp (clock s) note object)).on s with
      | (.ok _, t) => ((.ok (), stamp (clock s) note object), t)
      | (.error e, t) => ((.error e, object), t) := by
  have hwrite : (c.write object note).on s =
      Action.on (c.put (isNew object) (stamp (clock s) note object) >>= fun _ =>
        pure (stamp (clock s) note object)) s := by
    cases hnew : isNew object with
    | true => exact write_on_new hnew c note s
    | false => exact write_on_existing hnew c note s
  rw [save, Action.run_attempt_bind, hwrite, Action.on_bind]
  rcases (c.put (isNew object) (stamp (clock s) note object)).on s with ⟨e | u, t⟩
  · rfl
  · rfl

theorem save_object (c : Collection) (object : α) (note : String) (s : Host) :
    ((c.save object note).run s).1.2 =
      if ((c.save object note).run s).1.1.isOk then stamp (clock s) note object
      else object := by
  rw [save_run]
  split
  · rfl
  · rfl

end Collection

end DocStore
