import DocStore.Collection.Query
import DocStore.Collection.Save
import DocStore.Proofs.Collection.Identity
import DocStore.Proofs.Store.Writes
/-!
What the operations of a collection are made up of. All that they do to a host is in timed calls, each
of which issues one command in the session of the collection; the rest only looks at the host. So what
holds of timed commands, and of steps one after the other, holds of every operation.
-/
namespace DocStore

open PersistentObject (identity modifyJournal isNew encode)

/-- How an object that exists is written to the document that the strategy finds. -/
def SaveStrategy.command (id : ObjectId) (d : Document) (strategy : SaveStrategy) : Command :=
  match strategy with
  | .replace => .replace (strategy.filter id) d
  | .guardedUpdate => .update (strategy.filter id) [("$set", .document (d.erase "_id"))]

namespace Collection

open Host StoreAction

variable [Regex.Engine]

/-- Actions that change the host only in timed calls of commands that are allowed. -/
inductive Composed (c : Collection) (allowed : Command → Prop) : {α : Type} → StateM Host α → Prop
  | keeps {α : Type} {action : StateM Host α} (h : ∀ s, ∃ value, action.run s = (value, s)) :
    Composed c allowed action
  | timed {α : Type} (location : String) (filter : Option Document) {command : Command}
    (hallowed : allowed command) {call : StateM Host α}
    (hcall : ∀ s, (call.run s).2 = ((issue c.context c.session c.name command).on s).2) :
    Composed c allowed (c.timed location filter call)
  | bind {α β : Type} {x : StateM Host α} {f : α → StateM Host β} (hx : Composed c allowed x)
    (hf : ∀ value, Composed c allowed (f value)) : Composed c allowed (x >>= f)

variable {c : Collection} {allowed : Command → Prop}

theorem composed_pure (value : α) : c.Composed allowed (pure value) := .keeps fun _ => ⟨value, rfl⟩

/-- An action that may fail goes on only if it has not failed. -/
theorem Composed.bindExcept {x : ExceptT ε (StateM Host) α} {f : α → ExceptT ε (StateM Host) β}
    (hx : c.Composed allowed x.run) (hf : ∀ value, c.Composed allowed (f value).run) :
    c.Composed allowed (x >>= f).run := by
  rw [ExceptT.run_bind]
  refine hx.bind fun answer => ?_
  cases answer with
  | error e => exact composed_pure (Except.error e)
  | ok value => exact hf value

/-- A timed call of a command, whose reply is read. -/
theorem composed_call (location : String) (filter : Option Document) {command : Command}
    (h : allowed command) {read : Reply → StoreAction α}
    (hread : ∀ reply s, ((read reply).on s).2 = s) (failure : StoreError → Failure) :
    c.Composed allowed
      (c.call location filter (issue c.context c.session c.name command >>= read) failure).run :=
  (Composed.timed location filter h fun _ => on_reply_snd hread).bind fun answer =>
    composed_pure (answer.mapError failure)

section Queries

omit [Regex.Engine] in
/-- What only looks at the host leaves it as it was before. -/
theorem run_bind_snd {x : StateM Host α} {f : α → StateM Host β}
    (hf : ∀ value t, ((f value).run t).2 = t) {s : Host} : ((x >>= f).run s).2 = (x.run s).2 :=
  hf (x.run s).1 (x.run s).2

variable {criteria : Expression}

theorem composed_count (h : allowed (.count criteria.toFilter)) :
    c.Composed allowed (c.count criteria).run :=
  composed_call _ _ h (fun reply s => by cases reply <;> rfl) _

theorem composed_query [Decodable α] (h : ∀ options, allowed (.find criteria.toFilter options))
    (options : List QueryOption) :
    c.Composed allowed (c.query criteria options : Action (List α)).run := by
  refine .timed _ _ (h ((QueryOption.toFindOptions options).getD {})) fun s => ?_
  have hsearch : ((Host.find c.context c.session c.name criteria.toFilter
      (QueryOption.toFindOptions options)).on s).2 = ((issue c.context c.session c.name _).on s).2 :=
    on_reply_snd fun reply s => by cases reply <;> rfl
  refine (run_bind_snd fun answer t => ?_).trans hsearch
  cases answer <;> rfl

theorem composed_iterate (h : ∀ options, allowed (.find criteria.toFilter options))
    (options : List QueryOption) : c.Composed allowed (c.iterate criteria options).run :=
  (composed_call _ _ (h _) (fun reply s => by cases reply <;> rfl) _).bindExcept fun _ =>
    composed_pure (Except.ok _)

theorem composed_load [Decodable α] (h : ∀ options, allowed (.findOne criteria.toFilter options))
    (options : List QueryOption) : c.Composed allowed (c.load criteria options : Action α).run := by
  refine (composed_call _ _ (h _) (fun reply s => by cases reply <;> rfl) _).bindExcept fun found =>
    .keeps fun s => ?_
  cases found with
  | none => exact ⟨_, rfl⟩
  | some d =>
    dsimp only
    split
    · exact ⟨_, rfl⟩
    · exact ⟨_, rfl⟩

theorem composed_hardDelete (h : allowed (.delete criteria.toFilter)) :
    c.Composed allowed (c.hardDelete criteria).run :=
  composed_call _ _ h (fun reply s => by cases reply <;> rfl) _

end Queries

section Objects

variable [PersistentObject α]

theorem composed_encodeObject (object : α) : c.Composed allowed (encodeObject object).run :=
  .keeps fun s => by
    unfold encodeObject
    split <;> exact ⟨_, rfl⟩

theorem composed_existingId (object : α) : c.Composed allowed (existingId object).run :=
  .keeps fun s => by
    unfold existingId
    split <;> exact ⟨_, rfl⟩

theorem composed_insertObject (h : ∀ d, allowed (.insert d)) (object : α) :
    c.Composed allowed (c.insertObject object).run := by
  refine (composed_encodeObject object).bindExcept fun d => ?_
  exact (composed_call _ _ (h d) (fun reply s => by cases reply <;> rfl) _).bindExcept fun _ =>
    composed_pure (Except.ok _)

/-- The check that a document was matched. -/
theorem composed_checkMatched (result : UpdateResult) (failure : Failure) :
    c.Composed allowed (if result.matched = 0 then throw failure else pure () : Action Unit).run :=
  .keeps fun s => by split <;> exact ⟨_, rfl⟩

theorem composed_replaceObject {id : ObjectId} {d : Document}
    (h : allowed (SaveStrategy.replace.command id d)) :
    c.Composed allowed (c.replaceObject id d).run :=
  (composed_call _ _ h (fun reply s => by cases reply <;> rfl) _).bindExcept fun result =>
    composed_checkMatched result _

theorem composed_updateObject {id : ObjectId} {d : Document}
    (h : allowed (SaveStrategy.guardedUpdate.command id d)) :
    c.Composed allowed (c.updateObject id d).run :=
  (composed_call _ _ h (fun reply s => by cases reply <;> rfl) _).bindExcept fun result =>
    composed_checkMatched result _

variable (hinsert : ∀ d, allowed (.insert d))
  (hexisting : ∀ id d, allowed (c.settings.strategy.command id d))
include hinsert hexisting

theorem composed_write (object : α) (note : String) :
    c.Composed allowed (c.write object note).run := by
  refine Composed.bindExcept (.keeps fun s => ⟨_, rfl⟩) fun now => ?_
  dsimp only
  split
  · exact (composed_insertObject hinsert _).bindExcept fun _ => composed_pure (Except.ok _)
  · refine (composed_existingId _).bindExcept fun id => ?_
    refine (composed_encodeObject _).bindExcept fun d => ?_
    have hcommand := hexisting id d
    split
    · rename_i hstrategy
      rw [hstrategy] at hcommand
      exact (composed_replaceObject hcommand).bindExcept fun _ => composed_pure (Except.ok _)
    · rename_i hstrategy
      rw [hstrategy] at hcommand
      exact (composed_updateObject hcommand).bindExcept fun _ => composed_pure (Except.ok _)

theorem composed_save (object : α) (note : String) : c.Composed allowed (c.save object note) := by
  refine (composed_write hinsert hexisting object note).bind fun answer => ?_
  cases answer <;> exact composed_pure _

theorem composed_delete (object : α) (note : String) :
    c.Composed allowed (c.delete object note) := by
  unfold delete
  split
  · exact composed_pure _
  · refine Composed.bind (.keeps fun s => ⟨_, rfl⟩) fun now => ?_
    refine (composed_save hinsert hexisting _ note).bind fun saved => ?_
    split <;> exact composed_pure _

end Objects

end Collection

end DocStore
