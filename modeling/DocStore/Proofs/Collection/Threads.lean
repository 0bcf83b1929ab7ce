import DocStore.Proofs.Collection.Composition
import DocStore.Proofs.Collection.Undisturbed
import DocStore.Proofs.Store.Threads
/-!
Operations of a collection as threads. Each of them issues one command at most, in the session of the
collection, with time passing and calls being counted around it.
-/
namespace DocStore.Collection

variable {rule : CallRule} (c : Collection)

/-- A command on the collection. -/
def issuing (command : Command) : Call := .command c.context c.session c.name command

variable [Regex.Engine]

theorem follows_timed (location : String) (filter : Option Document) {call : StateM Host α}
    (h : Follows rule call) : Follows rule (c.timed location filter call) := by
  have hadvance : Follows rule
      (modify fun s => { s with timeline := s.timeline.advance 0 } : StateM Host PUnit) :=
    follows_aside fun s => ⟨rfl, rfl, rfl, rfl⟩
  have hfinish : ∀ started, Follows rule (modify fun s =>
      (c.settings.monitor.finish location started c.name filter s).2 : StateM Host PUnit) := by
    intro started
    apply follows_aside
    intro s
    obtain ⟨calls, log, heq⟩ := c.settings.monitor.finish_host location started c.name filter s
    change s.SameData (c.settings.monitor.finish location started c.name filter s).2
    rw [heq]
    exact ⟨rfl, rfl, rfl, rfl⟩
  refine (follows_of_keeps fun s => ⟨s, rfl⟩ : Follows rule (get : StateM Host Host)).bind
    fun s => h.bind fun answer => ?_
  exact hadvance.bind fun _ => (hfinish _).bind fun _ => follows_pure answer

variable {c}

/-- What is made up of timed calls of commands makes those calls. -/
theorem Composed.follows {action : StateM Host α}
    (h : c.Composed (fun command => rule.Allows (c.issuing command)) action) :
    Follows rule action := by
  induction h with
  | keeps h => exact follows_of_keeps h
  | timed location filter hallowed hcall =>
    exact c.follows_timed location filter (follows_of_call hallowed hcall)
  | bind _ _ hx hf => exact hx.bind hf

end DocStore.Collection
