import DocStore.Proofs.Collection.Identity
import DocStore.Proofs.Collection.Stamps
import DocStore.Proofs.Store.History
/-!
Clients of a host that nothing disturbs: it is connected, no failure is set, and the context goes
on however late it gets. Then every call is let through, and what comes of it depends on the
documents alone.
-/
namespace DocStore

namespace Host

open StoreAction

structure Undisturbed (context : Context) (s : Host) : Prop where
  connected : s.store.connected = true
  failPoints : s.store.hooks.failPoints = []
  alive : ∀ now, s.timeline.now ≤ now → context.check { s.timeline with now } = .ok ()

/-- The same host at a later time. -/
def waited (now : Nat) (s : Host) : Host := { s with timeline := { s.timeline with now } }

variable {context : Context} {s : Host}

theorem Undisturbed.waited (h : s.Undisturbed context) {now : Nat} (hnow : s.timeline.now ≤ now) :
    (s.waited now).Undisturbed context :=
  ⟨h.connected, h.failPoints, fun later hlater => h.alive later (Nat.le_trans hnow hlater)⟩

theorem Undisturbed.attempted (h : s.Undisturbed context) (operation : Operation) :
    (s.attempted operation).Undisturbed context :=
  ⟨h.connected, h.failPoints, h.alive⟩

theorem Undisturbed.checkContext_on (h : s.Undisturbed context) :
    (checkContext context).on s = (.ok (), s) := by
  have halive : context.check s.timeline = .ok () := h.alive s.timeline.now (Nat.le_refl _)
  rw [Host.checkContext_on, halive]

theorem Undisturbed.awaitLatency_on (h : s.Undisturbed context) :
    ∃ now, s.timeline.now ≤ now ∧ (awaitLatency context).on s = (.ok (), s.waited now) := by
  rw [Host.awaitLatency_on]
  cases s.store.hooks.latency with
  | none => exact ⟨s.timeline.now, Nat.le_refl _, rfl⟩
  | some latency =>
    have hnow : s.timeline.now ≤ (s.afterLatency context latency).now := by
      simp only [afterLatency, Timeline.advance]
      omega
    exact ⟨_, hnow, Prod.ext (h.alive _ hnow) rfl⟩

theorem Undisturbed.tripFailPoint_on (h : s.Undisturbed context) (operation : Operation) :
    (tripFailPoint operation).on s = (.ok (), s) :=
  tripFailPoint_on_nil operation h.failPoints

/-- Every call enters. -/
theorem Undisturbed.enter_on (h : s.Undisturbed context) (operation : Operation) :
    ∃ now, s.timeline.now ≤ now ∧ (enter (some context) operation).on s =
      (.ok (), (s.attempted operation).waited now) := by
  have hattempted := h.attempted operation
  obtain ⟨now, hnow, hwait⟩ := hattempted.awaitLatency_on
  refine ⟨now, hnow, (enter_on_of_connected context h.connected).trans ?_⟩
  refine (on_bind_of_ok hattempted.checkContext_on _).trans ?_
  refine (on_bind_of_ok hwait _).trans ?_
  exact (hattempted.waited hnow).tripFailPoint_on operation

theorem Undisturbed.enter_none_on (h : s.Undisturbed context) (operation : Operation) :
    (enter none operation).on s = (.ok (), s.attempted operation) := by
  have hconnected : ¬(decide (operation ≠ .disconnect) && !s.store.connected) = true := by
    simp [h.connected]
  rw [enter, on_modifyStore_bind, on_get_bind]
  change StoreAction.on (if (decide (operation ≠ .disconnect) && !s.store.connected) = true
    then _ else _) (s.attempted operation) = _
  rw [if_neg hconnected]
  exact (h.attempted operation).tripFailPoint_on operation

variable [Regex.Engine]

theorem Undisturbed.carryOut (h : s.Undisturbed context) (session : Option SessionNumber)
    (collection : String) (command : Command) :
    (s.carryOut session collection command).2.Undisturbed context := by
  cases hwrite : command.isWrite with
  | false => simpa [Host.carryOut, hwrite] using h
  | true =>
    simp only [Host.carryOut, hwrite, if_true]
    refine ⟨?_, ?_, h.alive⟩
    · exact (Store.write_connected _ _ _ _).trans h.connected
    · exact (congrArg Hooks.failPoints (Store.write_hooks _ _ _ _)).trans h.failPoints

/-- A command in a session that goes on is carried out. -/
theorem Undisturbed.issue_on (h : s.Undisturbed context) {session : Option SessionNumber}
    (hsession : s.store.isEnded session = false) (collection : String) (command : Command) :
    ∃ t, s.SameData t ∧ t.Undisturbed context ∧
      (issue context session collection command).on s = t.carryOut session collection command := by
  obtain ⟨now, hnow, henter⟩ := h.enter_on command.operation
  refine ⟨(s.attempted command.operation).waited now, ⟨rfl, rfl, rfl, rfl⟩,
    (h.attempted _).waited hnow, ?_⟩
  have hadmission : (admission context session command.operation).on s =
      (.ok (), (s.attempted command.operation).waited now) := by
    refine (on_bind_of_ok henter _).trans ?_
    rw [on_get_bind]
    change StoreAction.on (if s.store.isEnded session = true then _ else _) _ = _
    rw [hsession]
    rfl
  rw [Host.issue_on, hadmission]

end Host

/-- A monitor writes nothing but its counts and the log. -/
theorem SlowCallMonitor.finish_host (m : SlowCallMonitor) (location : String)
    (started : Option Nat) (collection : String) (filter : Option Document) (s : Host) :
    ∃ calls log, (m.finish location started collection filter s).2 = { s with calls, log } := by
  unfold finish
  split
  · dsimp only
    split
    · exact ⟨_, _, rfl⟩
    · exact ⟨_, _, rfl⟩
  · exact ⟨_, _, rfl⟩

namespace Collection

open Host

/-- Being timed changes no document, and disturbs nothing. -/
theorem call_on (c : Collection) (location : String) (filter : Option Document)
    (action : StoreAction β) (failure : StoreError → Failure) (s : Host) :
    ∃ t, (c.call location filter action failure).on s = ((action.on s).1.mapError failure, t) ∧
      (action.on s).2.SameData t ∧
      ∀ context, (action.on s).2.Undisturbed context → t.Undisturbed context := by
  let started := c.settings.monitor.start s.timeline
  let advanced : Host :=
    { (action.on s).2 with timeline := (action.on s).2.timeline.advance 0 }
  obtain ⟨calls, log, hfinish⟩ :=
    c.settings.monitor.finish_host location started c.name filter advanced
  refine ⟨(c.settings.monitor.finish location started c.name filter advanced).2, rfl, ?_, ?_⟩
  · rw [hfinish]
    exact ⟨rfl, rfl, rfl, rfl⟩
  · intro context h
    rw [hfinish]
    refine ⟨h.connected, h.failPoints, fun now hnow => h.alive now ?_⟩
    have hadvanced : advanced.timeline.now = (action.on s).2.timeline.now + 0 + 1 := rfl
    change advanced.timeline.now ≤ now at hnow
    omega

end Collection

end DocStore
