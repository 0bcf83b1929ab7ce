import DocStore.Proofs.Collection.Threads
import DocStore.Proofs.Transaction.Activity
import Mathlib.Tactic.Choose
/-!
Clients as activities. Every operation of a collection amounts to commands in the session of the
collection, with time passing and calls being counted in between. So a program that is made up of such
operations is an activity in the session, and a transaction amounts to the calls for its session, its
beginning and its end, with the calls of its work in between.
-/
namespace DocStore

/-- Commands in one session, amid calls of others. -/
def sessionRule (session : Option SessionNumber) : CallRule where
  Allows c := (∃ context collection command, c = .command context session collection command) ∨
    ∀ n, session = some n → c.session? ≠ some n
  meanwhile _ := .inr nofun

variable {session : Option SessionNumber}

theorem sessionRule_issuing {c : Collection} (h : c.session = session) (command : Command) :
    (sessionRule session).Allows (c.issuing command) := by
  subst h
  exact .inl ⟨c.context, c.name, command, rfl⟩

variable [Regex.Engine]

/-- The activity comes to the same as an action of a client. -/
def Activity.Does (a : Activity session α) (action : StateM Host α) : Prop :=
  ∀ s, action.run s = ((a.run s).1, (a.run s).2.2)

/-- A thread that keeps to a session is an activity in it. -/
theorem exists_activity {a : Thread α} (h : a.Obeys (sessionRule session)) :
    ∃ b : Activity session α, ∀ s, a.run s = ((b.run s).1, (b.run s).2.2) := by
  induction a with
  | done value => exact ⟨.done value, fun s => rfl⟩
  | call c next ih =>
    obtain ⟨hc, hnext⟩ := h
    choose b hb using fun s => ih s (hnext s)
    rcases hc with ⟨context, collection, command, rfl⟩ | hforeign
    · exact ⟨.look fun s => .command context collection command fun _ => b s, fun s => hb s _⟩
    · exact ⟨.look fun s => .meanwhile c hforeign (b s), fun s => hb s _⟩

/-- Programs of clients in one session. They use the collections of the session in any way, and do
anything beside the documents. Other clients make calls in between, in sessions of their own. -/
inductive InSession (session : Option SessionNumber) : {α : Type} → StateM Host α → Prop
  | aside {action : StateM Host α} (h : ∀ s : Host, s.SameData (action.run s).2) :
    InSession session action
  | foreign {action : StateM Host α} {call : Call}
      (hcall : ∀ n, session = some n → call.session? ≠ some n)
      (h : ∀ s, (action.run s).2 = (call.run s).2) : InSession session action
  | bind {x : StateM Host α} {f : α → StateM Host β} (hx : InSession session x)
      (hf : ∀ value, InSession session (f value)) : InSession session (x >>= f)
  | count (c : Collection) (h : c.session = session) (criteria : Expression) :
    InSession session (c.count criteria).run
  | query [Decodable α] (c : Collection) (h : c.session = session) (criteria : Expression)
      (options : List QueryOption) :
    InSession session (c.query criteria options : Action (List α)).run
  | iterate (c : Collection) (h : c.session = session) (criteria : Expression)
      (options : List QueryOption) : InSession session (c.iterate criteria options).run
  | load [Decodable α] (c : Collection) (h : c.session = session) (criteria : Expression)
      (options : List QueryOption) : InSession session (c.load criteria options : Action α).run
  | save [PersistentObject α] (c : Collection) (h : c.session = session) (object : α)
      (note : String) : InSession session (c.save object note)
  | delete [PersistentObject α] (c : Collection) (h : c.session = session) (object : α)
      (note : String) : InSession session (c.delete object note)
  | hardDelete (c : Collection) (h : c.session = session) (criteria : Expression) :
    InSession session (c.hardDelete criteria).run

theorem InSession.follows {action : StateM Host α} (h : InSession session action) :
    Follows (sessionRule session) action := by
  induction h with
  | aside h => exact follows_aside h
  | foreign hcall h => exact follows_of_call (.inr hcall) h
  | bind hx hf ihx ihf => exact ihx.bind ihf
  | count c h criteria => exact (Collection.composed_count (sessionRule_issuing h _)).follows
  | query c h criteria options =>
    exact (Collection.composed_query (fun _ => sessionRule_issuing h _) options).follows
  | iterate c h criteria options =>
    exact (Collection.composed_iterate (fun _ => sessionRule_issuing h _) options).follows
  | load c h criteria options =>
    exact (Collection.composed_load (fun _ => sessionRule_issuing h _) options).follows
  | save c h object note =>
    exact (Collection.composed_save (fun _ => sessionRule_issuing h _)
      (fun _ _ => sessionRule_issuing h _) object note).follows
  | delete c h object note =>
    exact (Collection.composed_delete (fun _ => sessionRule_issuing h _)
      (fun _ _ => sessionRule_issuing h _) object note).follows
  | hardDelete c h criteria =>
    exact (Collection.composed_hardDelete (sessionRule_issuing h _)).follows

/-- A program in a session is an activity. -/
theorem InSession.exists_does {action : StateM Host α} (h : InSession session action) :
    ∃ a : Activity session α, a.Does action := by
  obtain ⟨a, hobeys, hdoes⟩ := h.follows
  obtain ⟨b, hb⟩ := exists_activity hobeys
  exact ⟨b, fun s => (hdoes s).trans (hb s)⟩

/-- Clients may start sessions, and begin and end transactions in them. -/
structure CallRule.Transactional (rule : CallRule) : Prop where
  startSession (options : SessionOptions) : rule.Allows (.startSession options)
  startTransaction (n : SessionNumber) (options : TransactionOptions) :
    rule.Allows (.startTransaction n options)
  commit (n : SessionNumber) : rule.Allows (.commit n)
  abort (n : SessionNumber) : rule.Allows (.abort n)
  endSession (n : SessionNumber) : rule.Allows (.endSession n)

namespace Server

variable {rule : CallRule} (h : rule.Transactional)
include h

theorem follows_startTransaction (n : SessionNumber) (options : TransactionOptions) :
    Follows rule (Host.startTransaction n options).run := by
  refine follows_of_call (h.startTransaction n options) fun s => ?_
  change ((Host.startTransaction n options).on s).2 = _
  rw [Call.run]
  rcases (Host.startTransaction n options).on s with ⟨e | u, t⟩ <;> rfl

theorem follows_abandon (n : SessionNumber) : Follows rule (abandon n) := by
  have habort : Follows rule (Host.abortTransaction n).run := by
    refine follows_of_call (h.abort n) fun s => ?_
    change ((Host.abortTransaction n).on s).2 = _
    rw [Call.run]
    rcases (Host.abortTransaction n).on s with ⟨e | u, t⟩ <;> rfl
  refine habort.bind fun answer => ?_
  cases answer with
  | error e => exact follows_aside fun s => ⟨rfl, rfl, rfl, rfl⟩
  | ok u => exact follows_pure ()

theorem follows_conclude (n : SessionNumber) (value : β) : Follows rule (conclude n value) := by
  have hcommit : Follows rule (Host.commitTransaction n).run := by
    refine follows_of_call (h.commit n) fun s => ?_
    change ((Host.commitTransaction n).on s).2 = _
    rw [Call.run]
    rcases (Host.commitTransaction n).on s with ⟨e | u, t⟩ <;> rfl
  refine hcommit.bind fun answer => ?_
  cases answer with
  | error e => exact (follows_abandon h n).bind fun _ => follows_pure _
  | ok u => exact follows_pure _

theorem follows_endSession (n : SessionNumber) :
    Follows rule (modify (Host.endSession n) : StateM Host PUnit) :=
  follows_of_call (h.endSession n) fun _ => rfl

/-- A transaction calls for its session, its beginning and its end, and in between there are the
calls of its work. -/
theorem follows_withTransaction (server : Server) (context : Context)
    {work : UnitOfWork → StateM Host (Outcome β)}
    (hwork : ∀ n, Follows rule (work ⟨context, some n, server.settings⟩)) :
    Follows rule (server.withTransaction context work) := by
  have hstart : Follows rule (Host.startSession server.sessionOptions).run :=
    follows_of_call (h.startSession _) fun _ => rfl
  refine hstart.bind fun answer => ?_
  cases answer with
  | error e => exact follows_pure _
  | ok n =>
    have hend : ∀ outcome, Follows rule (do
        modify (Host.endSession n)
        return outcome : StateM Host (Outcome β)) :=
      fun outcome => (follows_endSession h n).bind fun _ => follows_pure outcome
    refine Follows.bind (?_ : Follows rule (_ : StateM Host (Outcome β))) hend
    refine (follows_startTransaction h n server.transactionOptions).bind fun answer => ?_
    cases answer with
    | error e => exact follows_pure _
    | ok u =>
      refine (hwork n).bind fun outcome => ?_
      cases outcome with
      | returned value => exact follows_conclude h n value
      | failed f => exact (follows_abandon h n).bind fun _ => follows_pure _
      | unwound => exact (follows_abandon h n).bind fun _ => follows_pure _

end Server

end DocStore
