import DocStore.Proofs.Store.History
/-!
Invariants of tables. What every command keeps holds after any run of the committed tables and of those
of each open transaction, since transactions begin as copies of the committed tables and commits put
their tables in place of them.
-/
namespace DocStore

namespace Ledger

variable {P : Tables → Prop} {l : Ledger} {database : String} {n : SessionNumber}

/-- What holds of the committed tables and of those of every open transaction. -/
structure Everywhere (P : Tables → Prop) (l : Ledger) : Prop where
  committed : P l.tables
  opened : ∀ n t, l.transactions n = some t → P t.tables

theorem Everywhere.tablesFor (h : l.Everywhere P) (session : Option SessionNumber) :
    P (l.tablesFor session) := by
  unfold Ledger.tablesFor
  cases htransaction : l.transaction? session with
  | none => exact h.committed
  | some t =>
    obtain ⟨n, rfl, hn⟩ := Option.bind_eq_some_iff.1 htransaction
    exact h.opened n t hn

theorem Everywhere.setTransaction (h : l.Everywhere P) {t? : Option Transaction}
    (ht : ∀ t, t? = some t → P t.tables) : (l.setTransaction n t?).Everywhere P := by
  refine ⟨h.committed, fun m t hm => ?_⟩
  by_cases hmn : m = n
  · subst hmn
    rw [setTransaction_self] at hm
    exact ht t hm
  · rw [setTransaction_of_ne hmn] at hm
    exact h.opened m t hm

theorem Everywhere.closed (h : l.Everywhere P) : (l.setTransaction n none).Everywhere P :=
  h.setTransaction (by simp)

theorem Everywhere.put (h : l.Everywhere P) (session : Option SessionNumber) {tables : Tables}
    (htables : P tables) : (l.put session tables).Everywhere P := by
  cases hsession : l.transaction? session with
  | none =>
    rw [put_none session _ hsession]
    exact ⟨htables, h.opened⟩
  | some t =>
    obtain ⟨n, rfl, hn⟩ := Option.bind_eq_some_iff.1 hsession
    rw [put_some _ hn]
    exact h.setTransaction fun t' ht' => by cases ht'; exact htables

variable [Regex.Engine]

/-- An event leads to no other tables than those that were there before and those that a write makes of
the tables of its session. -/
theorem Everywhere.after {e : Event} (h : l.Everywhere P)
    (hwrites : ∀ session x, e = .executed session x → x.wrote = true →
      P (x.replay database (l.tablesFor session)).2) : (l.after database e).Everywhere P := by
  cases e with
  | idle => exact h
  | executed session x =>
    simp only [Ledger.after]
    cases hwrote : x.wrote with
    | false => exact h
    | true => exact h.put session (hwrites session x rfl hwrote)
  | began n options => exact h.setTransaction fun t ht => by cases ht; exact h.committed
  | committed n =>
    simp only [Ledger.after]
    cases hn : l.transactions n with
    | none => exact h
    | some t =>
      dsimp only
      cases t.dirty with
      | false => exact h.closed
      | true => exact ⟨h.opened n t hn, h.closed.opened⟩
  | conflicted n | dropped n => exact h.closed

end Ledger

namespace Call

/-- What is said of the command of a call, if it has one. -/
def Issues (allowed : Command → Prop) : Call → Prop
  | .command _ _ _ x => allowed x
  | .startSession _ | .startTransaction _ _ | .commit _ | .abort _ | .endSession _ | .meanwhile _ =>
    True

variable [Regex.Engine]

/-- A command is executed only by the call that issues it. -/
theorem eq_command_of_run {c : Call} {s : Host} {session : Option SessionNumber} {x : Execution}
    (h : (c.run s).1 = .executed session x) :
    ∃ context, c = .command context session x.collection x.command := by
  cases c with
  | command context session' collection command =>
    cases h
    exact ⟨context, rfl⟩
  | startSession options | endSession n | meanwhile ambience => cases h
  | startTransaction n options =>
    simp only [run] at h
    split at h
    · dsimp only at h
      split at h <;> cases h
    · cases h
  | commit n =>
    simp only [run] at h
    split at h
    · cases h
    · dsimp only at h
      split at h <;> cases h
  | abort n =>
    simp only [run] at h
    split at h <;> cases h

variable {P : Tables → Prop} {allowed : Command → Prop}

/-- What the commands of a run keep holds after it wherever it held everywhere before. -/
theorem runAll_everywhere
    (hkeeps : ∀ command, allowed command → ∀ database t collection identity, P t →
      P (t.execute database collection identity command).2)
    {calls : List Call} (hcalls : ∀ c ∈ calls, c.Issues allowed) {s : Host}
    (h : s.store.ledger.Everywhere P) : (runAll s calls).2.store.ledger.Everywhere P := by
  induction calls generalizing s with
  | nil => exact h
  | cons c rest ih =>
    obtain ⟨hc, hrest⟩ := List.forall_mem_cons.1 hcalls
    have hstep : (c.run s).2.store.ledger.Everywhere P := by
      rw [(Host.run_moves c s).ledger]
      refine h.after fun session x hx hwrote => ?_
      obtain ⟨context, rfl⟩ := eq_command_of_run hx
      have hrefusal : x.refusal = none := by
        rw [Execution.wrote, Bool.and_eq_true, Option.isNone_iff_eq_none] at hwrote
        exact hwrote.1
      rw [Execution.replay, hrefusal]
      exact hkeeps x.command hc _ _ _ _ (h.tablesFor session)
    exact ih hrest hstep

end Call

end DocStore
