import DocStore.Proofs.Store.History
import DocStore.Proofs.Store.Snapshot
import DocStore.Server
/-!
Work in one session amid other clients. It issues commands one after the other, each depending on
the answers so far and on anything it sees; meanwhile other clients make calls of any kind, but in
sessions of their own. Work that is observed leaves a record of each of its runs.
-/
namespace DocStore

inductive Activity (session : Option SessionNumber) (α : Type) where
  | done (value : α)
  | command (context : Context) (collection : String) (command : Command)
      (next : Except StoreError Reply → Activity session α)
  | meanwhile (call : Call) (foreign : ∀ n, session = some n → call.session? ≠ some n)
      (next : Activity session α)
  | look (next : Host → Activity session α)

variable [Regex.Engine]

namespace Activity

variable {session : Option SessionNumber}

/-- What the work comes to, the events that take place, and the host in the end. -/
def run : Activity session α → Host → α × List Event × Host
  | .done value, s => (value, [], s)
  | .command context collection x next, s =>
    let answer := ((Host.issue context session collection x).on s).1
    let (e, t) := (Call.command context session collection x).run s
    let (value, events, u) := (next answer).run t
    (value, e :: events, u)
  | .meanwhile call _ next, s =>
    let (e, t) := call.run s
    let (value, events, u) := next.run t
    (value, e :: events, u)
  | .look next, s => (next s).run s

theorem run_evolves (a : Activity session α) (s : Host) :
    s.Evolves (a.run s).2.1 (a.run s).2.2 := by
  induction a generalizing s with
  | done value => exact Host.evolves_nil s
  | command context collection x next ih =>
    exact (Host.run_moves (.command context session collection x) s).evolves
      (ih ((Host.issue context session collection x).on s).1 _)
  | meanwhile call foreign next ih => exact (Host.run_moves call s).evolves (ih _)
  | look next ih => exact ih s s

end Activity

/-- An event belongs to the session of the call that made it, or to none. -/
theorem Call.run_session? {c : Call} {s : Host} {n : SessionNumber}
    (h : (c.run s).1.session? = some n) : c.session? = some n := by
  cases c with
  | command context session collection x => exact h
  | startSession options => cases h
  | startTransaction m options =>
    rcases hstart : (Host.startTransaction m options).on s with ⟨e | u, t⟩
    · simp only [run, hstart] at h
      cases h
    · simp only [run, hstart] at h
      split at h
      · exact h
      · cases h
  | commit m =>
    rcases hcommit : (Host.commitTransaction m).on s with ⟨e | u, t⟩
    · simp only [run, hcommit] at h
      split at h
      · exact h
      · cases h
    · simp only [run, hcommit] at h
      exact h
  | abort m =>
    rcases habort : (Host.abortTransaction m).on s with ⟨e | u, t⟩
    · simp only [run, habort] at h
      cases h
    · simp only [run, habort] at h
      exact h
  | endSession m => exact h
  | meanwhile ambience => cases h

/-- All that the work does in its session is to issue commands. -/
theorem Activity.run_onlyExecutes {n : SessionNumber} (a : Activity (some n) α) (s : Host) :
    OnlyExecutes n (a.run s).2.1 := by
  induction a generalizing s with
  | done value =>
    intro e he
    cases he
  | command context collection x next ih =>
    intro e he hn
    rcases List.mem_cons.1 he with rfl | he
    · exact ⟨_, rfl⟩
    · exact ih _ _ e he hn
  | meanwhile call foreign next ih =>
    intro e he hn
    rcases List.mem_cons.1 he with rfl | he
    · exact absurd (Call.run_session? hn) (foreign n rfl)
    · exact ih _ e he hn
  | look next ih => exact ih s s

/-- One run of the work of a transaction. -/
structure Stay (β : Type) where
  unit : UnitOfWork
  before : Host
  events : List Event
  outcome : Outcome β
  after : Host

/-- Work that keeps a record of its runs. -/
def observed (work : (w : UnitOfWork) → Activity w.session (Outcome β)) (w : UnitOfWork) :
    StateT Host (StateM (List (Stay β))) (Outcome β) := fun s => do
  let (outcome, events, t) := (work w).run s
  modify (· ++ [⟨w, s, events, outcome, t⟩])
  return (outcome, t)

end DocStore
