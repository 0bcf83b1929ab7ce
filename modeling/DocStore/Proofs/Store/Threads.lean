import DocStore.Proofs.Store.History
import Mathlib.Logic.Function.Basic
/-!
Clients as threads of calls. What a client calls next depends on all that it has seen. Threads make
their calls in any order, each call at once; whatever the order is, it comes to one run of calls.
-/
namespace DocStore

/-- Calls one after the other. The client sees the host at each of them, and so also the answer. -/
inductive Thread (α : Type) where
  | done (value : α)
  | call (c : Call) (next : Host → Thread α)

/-- Which calls clients may make. What goes on beside the documents is always allowed. -/
structure CallRule where
  Allows : Call → Prop
  meanwhile (ambience : Ambience) : Allows (.meanwhile ambience)

variable [Regex.Engine]

namespace Thread

/-- What a thread comes to when nobody else makes calls. -/
def run : Thread α → Host → α × Host
  | .done value, s => (value, s)
  | .call c next, s => (next s).run (c.run s).2

/-- Makes the next call. -/
def step : Thread α → Host → Thread α × Host
  | .done value, s => (.done value, s)
  | .call c next, s => (next s, (c.run s).2)

/-- Goes on with another thread when the first one is over. -/
def bind : Thread α → (α → Thread β) → Thread β
  | .done value, f => f value
  | .call c next, f => .call c fun s => (next s).bind f

def Obeys (rule : CallRule) : Thread α → Prop
  | .done _ => True
  | .call c next => rule.Allows c ∧ ∀ s, (next s).Obeys rule

/-- Alone, the thread comes to the same as an action of a client. -/
def Does (a : Thread α) (action : StateM Host α) : Prop := ∀ s, action.run s = a.run s

variable {rule : CallRule}

theorem run_bind (a : Thread α) (f : α → Thread β) (s : Host) :
    (a.bind f).run s = (f (a.run s).1).run (a.run s).2 := by
  induction a generalizing s with
  | done value => rfl
  | call c next ih => exact ih s _

omit [Regex.Engine] in
theorem Obeys.bind {a : Thread α} {f : α → Thread β} (h : a.Obeys rule)
    (hf : ∀ value, (f value).Obeys rule) : (a.bind f).Obeys rule := by
  induction a with
  | done value => exact hf value
  | call c next ih => exact ⟨h.1, fun s => ih s (h.2 s)⟩

/-- A step is a call that is allowed, or none. -/
theorem Obeys.step {a : Thread α} (h : a.Obeys rule) (s : Host) :
    (a.step s).1.Obeys rule ∧
      ((a.step s).2 = s ∨ ∃ c, rule.Allows c ∧ (a.step s).2 = (c.run s).2) := by
  cases a with
  | done value => exact ⟨trivial, .inl rfl⟩
  | call c next => exact ⟨h.2 s, .inr ⟨c, h.1, rfl⟩⟩

end Thread

section Interleaving

variable {ι : Type} [DecidableEq ι] {β : ι → Type}

/-- Lets threads make steps in a given order. -/
def interleave (threads : ∀ i, Thread (β i)) (s : Host) : List ι → (∀ i, Thread (β i)) × Host
  | [] => (threads, s)
  | i :: rest =>
    let (next, t) := (threads i).step s
    interleave (Function.update threads i next) t rest

/-- What threads do in any order is a run of calls that are allowed, and so is what is left. -/
theorem exists_calls_of_interleave {rule : CallRule} {threads : ∀ i, Thread (β i)}
    (h : ∀ i, (threads i).Obeys rule) (s : Host) (order : List ι) :
    (∀ i, ((interleave threads s order).1 i).Obeys rule) ∧
      ∃ calls, (∀ c ∈ calls, rule.Allows c) ∧
        (interleave threads s order).2 = (Call.runAll s calls).2 := by
  induction order generalizing threads s with
  | nil => exact ⟨h, [], nofun, rfl⟩
  | cons i rest ih =>
    obtain ⟨hnext, hcall⟩ := (h i).step s
    have hthreads : ∀ j, (Function.update threads i ((threads i).step s).1 j).Obeys rule := by
      intro j
      by_cases hj : j = i
      · subst hj
        rwa [Function.update_self]
      · rw [Function.update_of_ne hj]
        exact h j
    obtain ⟨hleft, calls, hcalls, hrun⟩ := ih hthreads ((threads i).step s).2
    refine ⟨hleft, ?_⟩
    rcases hcall with hsame | ⟨c, hc, hstep⟩
    · refine ⟨calls, hcalls, hrun.trans ?_⟩
      rw [hsame]
    · refine ⟨c :: calls, List.forall_mem_cons.2 ⟨hc, hcalls⟩, hrun.trans ?_⟩
      rw [hstep]
      rfl

end Interleaving

/-- The action is done by calls that are allowed. -/
def Follows (rule : CallRule) (action : StateM Host α) : Prop :=
  ∃ a : Thread α, a.Obeys rule ∧ a.Does action

section Follows

variable {rule : CallRule}

theorem follows_pure (value : α) : Follows rule (pure value) :=
  ⟨.done value, trivial, fun _ => rfl⟩

/-- An action that does what one call does, with an answer of its own. -/
theorem follows_of_call {c : Call} {action : StateM Host α} (hc : rule.Allows c)
    (h : ∀ s, (action.run s).2 = (c.run s).2) : Follows rule action :=
  ⟨.call c fun s => .done (action.run s).1, ⟨hc, fun _ => trivial⟩,
    fun s => Prod.ext rfl (h s)⟩

/-- Anything that goes on beside the documents is allowed. -/
theorem follows_aside {action : StateM Host α} (h : ∀ s : Host, s.SameData (action.run s).2) :
    Follows rule action :=
  follows_of_call (c := .meanwhile ⟨fun s => (action.run s).2, h⟩) (rule.meanwhile _) fun _ => rfl

/-- Looking at the host changes nothing. -/
theorem follows_of_keeps {action : StateM Host α} (h : ∀ s, ∃ value, action.run s = (value, s)) :
    Follows rule action := by
  apply follows_aside
  intro s
  obtain ⟨value, hs⟩ := h s
  rw [hs]
  exact ⟨rfl, rfl, rfl, rfl⟩

theorem Follows.bind {x : StateM Host α} {f : α → StateM Host β} (hx : Follows rule x)
    (hf : ∀ value, Follows rule (f value)) : Follows rule (x >>= f) := by
  obtain ⟨a, hobeys, hdoes⟩ := hx
  refine ⟨a.bind fun value => (hf value).choose,
    hobeys.bind fun value => (hf value).choose_spec.1, ?_⟩
  intro s
  have hrun : (x >>= f).run s = (f (x.run s).1).run (x.run s).2 := rfl
  rw [hrun, hdoes s, (hf _).choose_spec.2, Thread.run_bind]

end Follows

end DocStore
