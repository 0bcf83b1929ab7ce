import DocStore.Proofs.Collection.Records
import DocStore.Proofs.Collection.Storing
import DocStore.Proofs.Store.AllOrNothing
import DocStore.Proofs.Transaction.Phases
import DocStore.Regex.Default
/-!
Attempts to write an object. An attempt sends one command at most, which the object and the strategy
determine. If it fails, no document has changed and the object is as it was; if it succeeds, only the
journal of the object is another one. A client that stamps its object in place and puts the journal
back after a failure has the same: the journal that is kept by a deletion and the one that is kept by
the save within it are put back one after the other.
-/
namespace DocStore

open PersistentObject (identity journal setJournal modifyJournal isNew encode)

namespace Table

variable {filter : Document} {docs docs' : List Document} {result : UpdateResult}
variable [Regex.Engine]

theorem replace_of_unmatched {replacement : Document}
    (h : replace filter replacement docs = .ok (result, docs')) (hresult : result.matched = 0) :
    docs' = docs := by
  obtain ⟨found, -, hend⟩ := exists_of_bind_eq_ok h
  match found with
  | none =>
    cases hend
    rfl
  | some (first, old, rest) =>
    dsimp only at hend
    split at hend
    · split at hend
      · cases hend
      · cases hend
        cases hresult
    · cases hend
      cases hresult

theorem update_of_unmatched {changes : Document}
    (h : update filter changes docs = .ok (result, docs')) (hresult : result.matched = 0) :
    docs' = docs := by
  rcases update_eq_ok h with ⟨-, hdocs⟩ | ⟨old, next, changed, -, -, -, rfl⟩
  · exact hdocs
  · cases hresult

end Table

namespace Host

open StoreAction

theorem SameDocuments.refl (s : Host) : s.SameDocuments s := ⟨rfl, fun _ => rfl⟩

theorem SameDocuments.sameData {s t u : Host} (h : s.SameDocuments t) (hsame : t.SameData u) :
    s.SameDocuments u := by
  have htransactions : ∀ n, u.store.openTransaction? (some n) = t.store.openTransaction? (some n) :=
    fun n => congrFun (congrArg Ledger.transactions hsame.ledger) n
  refine ⟨hsame.tables.trans h.committed, fun n => ?_⟩
  rw [htransactions]
  exact h.transactions n

variable [Regex.Engine]

/-- Whatever comes of a command, it is counted once. -/
theorem issue_counts (context : Context) (session : Option SessionNumber) (collection : String)
    (command : Command) (s : Host) :
    ((issue context session collection command).on s).2.counts =
      (s.store.hooks.counted command.operation).counts :=
  (enters_issue context session collection command).counts s

end Host

/-- An action sends one command of the given kind, or none, and changes no document if it fails. -/
structure Action.Sends (operation? : Option Operation) (action : Action β) : Prop where
  counts : ∀ s o, (action.on s).2.counts o = s.counts o + if operation? = some o then 1 else 0
  documents : ∀ s e t, action.on s = (.error e, t) → s.SameDocuments t

namespace Collection

open Host DocStore.Action

variable {c : Collection} {location : String} {filter : Option Document}
  {failure : StoreError → Failure}

theorem call_counts (c : Collection) (location : String) (filter : Option Document)
    (action : StoreAction β) (failure : StoreError → Failure) (s : Host) :
    ((c.call location filter action failure).on s).2.counts = (action.on s).2.counts := by
  let started := c.settings.monitor.start s.timeline
  let advanced : Host :=
    { (action.on s).2 with timeline := (action.on s).2.timeline.advance 0 }
  obtain ⟨calls, log, hfinish⟩ :=
    c.settings.monitor.finish_host location started c.name filter advanced
  have hcall : ((c.call location filter action failure).on s).2 =
    (c.settings.monitor.finish location started c.name filter advanced).2 := rfl
  rw [hcall, hfinish]
  rfl

/-- Checking an answer. -/
def checked (check : β → Except Failure Unit) (value : β) : Action Unit :=
  ExceptT.mk (pure (check value))

theorem checked_on (check : β → Except Failure Unit) (value : β) (s : Host) :
    (checked check value).on s = (check value, s) := rfl

theorem bind_checked_on_snd (x : Action β) (check : β → Except Failure Unit) (s : Host) :
    ((x >>= checked check).on s).2 = (x.on s).2 := by
  rw [Action.on_bind]
  rcases x.on s with ⟨e | value, t⟩
  · rfl
  · rfl

variable [Regex.Engine]

/-- A timed call of a command, and a check of its answer. An answer that does not pass has to come
from a command that left the documents as they were. -/
theorem sends_call (command : Command) (read : Reply → β) (check : β → Except Failure Unit)
    (hcheck : ∀ name fresh docs reply docs' e, command.run name fresh docs = .ok (reply, docs') →
      check (read reply) = .error e → docs' = docs) :
    Sends (some command.operation) (c.call location filter
      (issue c.context c.session c.name command >>= fun reply => pure (read reply)) failure >>=
        checked check) := by
  let sending := issue c.context c.session c.name command
  let action := sending >>= fun reply => pure (read reply)
  have hhost : ∀ s, (action.on s).2 = (sending.on s).2 :=
    fun s => on_reply_snd fun reply s => rfl
  constructor
  · intro s o
    rw [bind_checked_on_snd, call_counts, hhost, issue_counts, Hooks.counted, counts]
    by_cases ho : o = command.operation
    · simp [ho]
    · simp [ho, Ne.symm ho]
  · intro s e t h
    obtain ⟨u, hcall, hsame, -⟩ := c.call_on location filter action failure s
    have hrefused : ∀ reply, (sending.on s).1 = .ok reply → check (read reply) = .error e := by
      intro reply hreply
      have hanswer : (action.on s).1 = .ok (read reply) := by
        rw [StoreAction.on_bind_of_ok (Prod.ext hreply rfl)]
        rfl
      rw [hanswer] at hcall
      rw [Action.on_bind_of_ok hcall, checked_on] at h
      exact congrArg Prod.fst h
    have hsent : s.SameDocuments (sending.on s).2 := by
      apply issue_sameDocuments
      intro name fresh reply docs hreply hrun
      exact hcheck _ _ _ _ _ e hrun (hrefused reply hreply)
    have ht : t = u := by
      have hsnd := bind_checked_on_snd (c.call location filter action failure) check s
      rw [h, hcall] at hsnd
      exact hsnd
    rw [ht]
    rw [← hhost] at hsent
    exact hsent.sameData hsame

omit [Regex.Engine] in
theorem sends_none {action : Action β} (h : ∀ s, ∃ answer, action.on s = (answer, s)) :
    Sends none action := by
  refine ⟨?_, ?_⟩
  · intro s o
    obtain ⟨answer, hon⟩ := h s
    rw [hon]
    rfl
  · intro s e t herror
    obtain ⟨answer, hon⟩ := h s
    rw [hon] at herror
    cases herror
    exact SameDocuments.refl s

section Objects

variable [PersistentObject α]

/-- The kind of command that an object is written with, if it gets as far as the store: it needs a
document, and an object that exists needs an identifier. -/
def operation? (c : Collection) (isNew : Bool) (object : α) : Option Operation :=
  if (encode object).isOk && (isNew || (ObjectId.ofHex? (identity object)).isSome) then
    if isNew then some .insert
    else
      match c.settings.strategy with
      | .replace => some .replace
      | .guardedUpdate => some .update
  else none

theorem sends_insert (d : Document) :
    Sends (some .insert) (c.call location filter
      (Host.insert c.context c.session c.name d) failure >>= fun _ => pure ()) := by
  rw [insert_eq_issue]
  exact sends_call (.insert d) Reply.inserted (fun _ => .ok ()) nofun

/-- A timed call that has to match a document. -/
theorem sends_matched (command : Command) {action : StoreAction UpdateResult} (refusal : Failure)
    (haction : action =
      issue c.context c.session c.name command >>= fun reply => pure reply.result)
    (hunmatched : ∀ name fresh docs reply docs', command.run name fresh docs = .ok (reply, docs') →
      reply.result.matched = 0 → docs' = docs) :
    Sends (some command.operation) (c.call location filter action failure >>= fun result =>
      if result.matched = 0 then throw refusal else pure ()) := by
  have hcheck : (fun result : UpdateResult =>
      (if result.matched = 0 then throw refusal else pure () : Action Unit)) =
      checked fun result => if result.matched = 0 then .error refusal else .ok () := by
    funext result
    by_cases hresult : result.matched = 0
    · simp only [checked, if_pos hresult]
      rfl
    · simp only [checked, if_neg hresult]
      rfl
  rw [hcheck, haction]
  refine sends_call command Reply.result _ ?_
  intro name fresh docs reply docs' e hrun herror
  split at herror
  · rename_i hresult
    exact hunmatched name fresh docs reply docs' hrun hresult
  · cases herror

theorem sends_replaceObject (id : ObjectId) (d : Document) :
    Sends (some .replace) (c.replaceObject id d) := by
  refine sends_matched (.replace _ d) _ (replace_eq_issue _ _ _ _ _) ?_
  intro name fresh docs reply docs' hrun hresult
  obtain ⟨⟨result, kept⟩, hreplace, hend⟩ := exists_of_bind_eq_ok hrun
  cases hend
  exact Table.replace_of_unmatched hreplace hresult

theorem sends_updateObject (id : ObjectId) (d : Document) :
    Sends (some .update) (c.updateObject id d) := by
  refine sends_matched (.update _ _) _ (update_eq_issue _ _ _ _ _) ?_
  intro name fresh docs reply docs' hrun hresult
  obtain ⟨⟨result, kept⟩, hupdate, hend⟩ := exists_of_bind_eq_ok hrun
  cases hend
  exact Table.update_of_unmatched hupdate hresult

theorem sends_insertObject {object : α} {d : Document} (henc : encode object = .ok d) :
    Sends (some .insert) (c.insertObject object) := by
  rw [insertObject, encodeObject, henc]
  exact sends_insert d

theorem sends_put (c : Collection) (isNew : Bool) (object : α) :
    Sends (c.operation? isNew object) (c.put isNew object) := by
  rw [operation?]
  cases isNew with
  | true =>
    change Sends _ (c.insertObject object)
    cases henc : encode object with
    | error reason =>
      refine sends_none fun s => ?_
      rw [insertObject, encodeObject, henc]
      exact ⟨_, rfl⟩
    | ok d => exact sends_insertObject henc
  | false =>
    change Sends _ (c.overwrite object)
    cases hid : ObjectId.ofHex? (identity object) with
    | none =>
      rw [Option.isSome_none, Bool.or_self, Bool.and_false]
      refine sends_none fun s => ?_
      rw [overwrite, existingId, hid]
      exact ⟨_, rfl⟩
    | some id =>
      cases henc : encode object with
      | error reason =>
        refine sends_none fun s => ?_
        rw [overwrite, existingId, hid, encodeObject, henc]
        exact ⟨_, rfl⟩
      | ok d =>
        have hwrite : c.overwrite object = match c.settings.strategy with
            | .replace => c.replaceObject id d
            | .guardedUpdate => c.updateObject id d := by
          rw [overwrite, existingId, hid, encodeObject, henc]
          rfl
        rw [hwrite]
        cases c.settings.strategy with
        | replace => exact sends_replaceObject id d
        | guardedUpdate => exact sends_updateObject id d

/-- What a client may rely on when it has tried to write an object. -/
structure Attempted (operation? : Option Operation) (object written : α) (s : Host)
    (outcome : (Except Failure Unit × α) × Host) : Prop where
  counts : ∀ o, outcome.2.counts o = s.counts o + if operation? = some o then 1 else 0
  failed : ∀ e, outcome.1.1 = .error e → outcome.1.2 = object ∧ s.SameDocuments outcome.2
  done : outcome.1.1 = .ok () → outcome.1.2 = written

/-- The journal of an object once it has been saved. -/
def savedJournal (now : Int64) (note : String) (object : α) : Journal where
  createDate := if isNew object then now else (journal object).createDate
  updateDate := now
  deleteDate := (journal object).deleteDate
  note := note
  revision := (journal object).revision + 1

variable [LawfulObject α]

omit [Regex.Engine] in
theorem stamp_eq_setJournal (now : Int64) (note : String) (object : α) :
    stamp now note object = setJournal (savedJournal now note object) object := by
  unfold stamp savedJournal
  dsimp only
  rw [isNew_updated]
  cases hnew : isNew object with
  | true =>
    rw [if_pos rfl, if_pos rfl, modifyJournal, journal_modifyJournal, modifyJournal,
      LawfulObject.setJournal_setJournal]
    rfl
  | false =>
    rw [if_neg Bool.false_ne_true, if_neg Bool.false_ne_true, modifyJournal]
    rfl

theorem save_attempted (c : Collection) (object : α) (note : String) (s : Host) :
    Attempted (c.operation? (isNew object) (stamp (clock s) note object)) object
      (setJournal (savedJournal (clock s) note object) object) s ((c.save object note).run s) := by
  obtain ⟨hcounts, hdocuments⟩ := c.sends_put (isNew object) (stamp (clock s) note object)
  have hcounts := hcounts s
  rw [save_run]
  rcases hput : (c.put (isNew object) (stamp (clock s) note object)).on s with ⟨e | u, t⟩
  · rw [hput] at hcounts
    exact ⟨hcounts, fun _ _ => ⟨rfl, hdocuments s e t hput⟩, nofun⟩
  · rw [hput] at hcounts
    exact ⟨hcounts, nofun, fun _ => stamp_eq_setJournal _ _ _⟩

/-- An object that is marked as deleted. -/
def marked (now : Int64) (note : String) (object : α) : α := modifyJournal (·.deleted now note) object

theorem delete_attempted (c : Collection) (object : α) (note : String) (s : Host) :
    let object' := marked (clock s) note object
    Attempted
      (if isNew object then none else c.operation? false (stamp (clock s) note object')) object
      (setJournal { savedJournal (clock s) note object with deleteDate := clock s } object) s
      ((c.delete object note).run s) := by
  intro object'
  cases hnew : isNew object with
  | true =>
    rw [delete, if_pos hnew]
    refine ⟨fun _ => rfl, fun _ _ => ⟨rfl, SameDocuments.refl s⟩, ?_⟩
    intro hdone
    cases hdone
  | false =>
    have hnew' : isNew object' = false := (isNew_modifyJournal _ object).trans hnew
    have hjournal : setJournal (savedJournal (clock s) note object') object' =
        setJournal { savedJournal (clock s) note object with deleteDate := clock s } object := by
      have hmarked : journal object' = (journal object).deleted (clock s) note :=
        journal_modifyJournal _ object
      rw [savedJournal, savedJournal, hnew, hnew', hmarked]
      exact LawfulObject.setJournal_setJournal _ _ object
    obtain ⟨hcounts, hfailed, hdone⟩ := c.save_attempted object' note s
    rw [hnew'] at hcounts
    rcases hsave : (c.save object' note).run s with ⟨⟨answer, after⟩, t⟩
    rw [hsave] at hcounts hfailed hdone
    rw [delete_run_of_save hnew hsave]
    cases answer with
    | error e =>
      refine ⟨hcounts, fun _ _ => ⟨rfl, (hfailed e rfl).2⟩, ?_⟩
      intro hok
      cases hok
    | ok u =>
      refine ⟨hcounts, ?_, fun _ => (hdone rfl).trans hjournal⟩
      intro e herror
      cases herror

end Objects

end Collection

/-- Objects that are what they were once they have their journal back. -/
class RestorableObject (α : Type) [PersistentObject α] : Prop extends LawfulObject α where
  setJournal_journal (object : α) : setJournal (journal object) object = object

instance : RestorableObject Record where
  setJournal_journal _ := rfl

/-- A program on an object in memory and on a host. -/
abbrev Stamping (α : Type) := StateT α (StateM Host)

namespace Stamping

/-- Lets a client act on the host, with the object as it is. -/
def acting (action : Action β) : ExceptT Failure (Stamping α) β :=
  ExceptT.mk (liftM action.run)

theorem run_bind (x : Stamping α β) (f : β → Stamping α γ) (object : α) (s : Host) :
    ((x >>= f).run object).run s =
      let r := (x.run object).run s
      ((f r.1.1).run r.1.2).run r.2 := rfl

end Stamping

namespace Collection

open Stamping

variable [Regex.Engine]

section InPlace

variable [PersistentObject α] (c : Collection)

/-- Stamps the object in memory and writes it. The stamps stay when writing fails. -/
def writeInPlace (note : String) : ExceptT Failure (Stamping α) Unit := do
  let updated ← liftM now
  modify (modifyJournal (·.updated updated note))
  if isNew (← get : α) then
    let created ← liftM now
    modify (modifyJournal (·.created created note))
    acting (c.insertObject (← get : α))
  else
    acting (c.overwrite (← get : α))

/-- Puts a journal back where the answer is a failure, and reports that. -/
def putBack (before : Journal) (report : Failure → Failure) :
    Except Failure Unit → Stamping α (Except Failure Unit)
  | .ok _ => return .ok ()
  | .error e => do
    modify (setJournal before)
    return .error (report e)

def saveInPlace (note : String) : Stamping α (Except Failure Unit) := do
  let before := journal (← get : α)
  putBack before id (← (c.writeInPlace note).run)

/-- Marks the object in memory and saves it. The save puts the marked journal back when it fails, and
then the deletion the one before. -/
def deleteInPlace (note : String) : Stamping α (Except Failure Unit) := do
  let before := journal (← get : α)
  if isNew (← get : α) then
    return .error (.badRequest deleteLocation "object has never been saved")
  let deleted ← liftM now
  modify (modifyJournal (·.deleted deleted note))
  putBack before (·.wrap deleteLocation "unable to delete object") (← c.saveInPlace note)

end InPlace

section Restoring

variable [PersistentObject α] [RestorableObject α] (c : Collection)

/-- Writing in place leaves the object with its stamps, whatever comes of it. -/
theorem writeInPlace_run (object : α) (note : String) (s : Host) :
    ((c.writeInPlace note).run.run object).run s =
      let written := (c.put (isNew object) (stamp (clock s) note object)).on s
      ((written.1, stamp (clock s) note object), written.2) := by
  let updated := modifyJournal (·.updated (clock s) note) object
  have hupdated : isNew updated = isNew object := isNew_updated (clock s) note object
  change StateT.run (StateT.run (ExceptT.run (if isNew updated then _ else _)) updated) s = _
  rw [stamp, put]
  dsimp only
  cases hnew : isNew object with
  | true =>
    rw [if_pos (hupdated.trans hnew), if_pos (hupdated.trans hnew), if_pos rfl]
    rfl
  | false =>
    have hexists : ¬isNew updated = true := by
      rw [hupdated, hnew]
      exact Bool.false_ne_true
    rw [if_neg hexists, if_neg hexists, if_neg Bool.false_ne_true]
    rfl

theorem saveInPlace_run (object : α) (note : String) :
    (c.saveInPlace note).run object = c.save object note := by
  funext s
  change (((c.writeInPlace note).run >>= putBack (journal object) id).run object).run s =
    (c.save object note).run s
  rw [run_bind, writeInPlace_run, save_run]
  rcases (c.put (isNew object) (stamp (clock s) note object)).on s with ⟨e | u, t⟩
  · have hrestored : setJournal (journal object) (stamp (clock s) note object) = object := by
      rw [setJournal_stamp, RestorableObject.setJournal_journal]
    change ((Except.error e, setJournal (journal object) (stamp (clock s) note object)), t) = _
    rw [hrestored]
  · rfl

theorem deleteInPlace_run (object : α) (note : String) :
    (c.deleteInPlace note).run object = c.delete object note := by
  funext s
  let refusal : Failure := .badRequest deleteLocation "object has never been saved"
  let report : Failure → Failure := (·.wrap deleteLocation "unable to delete object")
  let marking : Stamping α (Except Failure Unit) := do
    let deleted ← liftM now
    modify (modifyJournal (·.deleted deleted note))
    putBack (journal object) report (← c.saveInPlace note)
  change ((if isNew object then pure (.error refusal) else marking : Stamping α _).run object).run s =
    (c.delete object note).run s
  cases hnew : isNew object with
  | true =>
    rw [if_pos rfl, delete, if_pos hnew]
    rfl
  | false =>
    let object' := modifyJournal (·.deleted (clock s) note) object
    have hmarking : (marking.run object).run s =
      ((c.saveInPlace note >>= putBack (journal object) report).run object').run s := rfl
    rw [if_neg Bool.false_ne_true, hmarking, run_bind, saveInPlace_run]
    rcases hsave : (c.save object' note).run s with ⟨⟨answer, after⟩, t⟩
    rw [delete_run_of_save hnew hsave]
    cases answer with
    | error e =>
      -- The save has put the journal with the mark back, and the deletion puts back the one before.
      have hafter : after = object' := by
        have hkept := c.save_object object' note s
        rwa [hsave] at hkept
      have hrestored : setJournal (journal object) object' = object := by
        have hjournal := RestorableObject.setJournal_journal object
        exact (LawfulObject.setJournal_setJournal _ _ object).trans hjournal
      change ((Except.error (report e), setJournal (journal object) after), t) = _
      rw [hafter, hrestored]
      rfl
    | ok u => rfl

/-- Saving and deleting in place come to the same as saving and deleting. Each of them sends one
command at most, has changed nothing if it fails, and has changed the journal as it should if it
succeeds. -/
theorem writes_attempted (object : α) (note : String) (s : Host) :
    let now := clock s
    let object' := marked now note object
    ((c.saveInPlace note).run object = c.save object note ∧
      Attempted (c.operation? (isNew object) (stamp now note object)) object
        (setJournal (savedJournal now note object) object) s ((c.save object note).run s)) ∧
    (c.deleteInPlace note).run object = c.delete object note ∧
      Attempted (if isNew object then none else c.operation? false (stamp now note object')) object
        (setJournal { savedJournal now note object with deleteDate := now } object) s
        ((c.delete object note).run s) :=
  ⟨⟨c.saveInPlace_run object note, c.save_attempted object note s⟩,
    c.deleteInPlace_run object note, c.delete_attempted object note s⟩

end Restoring

end Collection

open scoped Regex

namespace Collection

open Stamping

/-- A record that counts as existing cannot be deleted where its document is missing. -/
theorem writes_attempted_missing :
    let r : Record := ⟨[("_id", .objectId ⟨1⟩)], { createDate := 5 }⟩
    let c : Collection := ⟨"c", .background, none, { strategy := .guardedUpdate }⟩
    let s : Host := { store := { database := "d" }, timeline := { now := nanosPerSecond } }
    let outcome := (c.delete r "gone").run s
    RestorableObject Record ∧ outcome.1.1.isOk = false ∧ outcome.2.counts .update = 1 ∧
      outcome.1.2 = r ∧ s.SameDocuments outcome.2 := by
  intro r c s outcome
  have hfails : outcome.1.1.isOk = false := by decide +kernel
  obtain ⟨hcounts, hfailed, -⟩ := (writes_attempted c r "gone" s).2.2
  have hcount : outcome.2.counts .update = 1 := by
    rw [hcounts]
    decide +kernel
  rcases hanswer : outcome.1.1 with e | u
  · obtain ⟨hobject, hdocuments⟩ := hfailed e hanswer
    exact ⟨inferInstance, by rfl, hcount, hobject, hdocuments⟩
  · rw [hanswer] at hfails
    cases hfails

end Collection

end DocStore
