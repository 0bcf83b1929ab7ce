import DocStore.Proofs.Collection.Attempts
import DocStore.Proofs.Collection.Composition
import DocStore.Proofs.Transaction.Phases
import DocStore.Regex.Default
/-!
Counts of timed calls. Every command that a collection sends is timed exactly once, whatever comes of
it, and nothing else is timed. So wherever work with collections looks at its host, in transactions or
outside of them, as many calls have been timed as commands were sent.
-/
namespace DocStore

section

/-- The kinds of calls that are commands on a collection. -/
def Operation.commands : List Operation :=
  [.count, .find, .findOne, .insert, .replace, .update, .delete]

theorem Command.operation_mem_commands (command : Command) :
    command.operation ∈ Operation.commands := by
  cases command <;> simp [operation, Operation.commands]

namespace Host

open StoreAction

variable {s t u : Host}

/-- How many commands were sent to the store of a host, as it has counted them. -/
def commands (s : Host) : Nat := (Operation.commands.map s.counts).foldr (· + ·) 0

theorem commands_of_counts {o : Operation} (h : t.counts = (s.store.hooks.counted o).counts) :
    t.commands = s.commands + if o ∈ Operation.commands then 1 else 0 := by
  rw [commands, h]
  cases o <;> simp [commands, Hooks.counted, counts, Operation.commands] <;> omega

/-- Neither were commands sent nor calls timed. -/
structure SameTally (s t : Host) : Prop where
  calls : t.calls = s.calls
  commands : t.commands = s.commands

theorem SameTally.refl (s : Host) : s.SameTally s := ⟨rfl, rfl⟩

theorem SameTally.trans (h : s.SameTally t) (h' : t.SameTally u) : s.SameTally u :=
  ⟨h'.calls.trans h.calls, h'.commands.trans h.commands⟩

/-- A call that is no command is counted as none. -/
theorem sameTally_of_counts {o : Operation} (ho : o ∉ Operation.commands)
    (hcalls : t.calls = s.calls) (h : t.counts = (s.store.hooks.counted o).counts) :
    s.SameTally t := by
  refine ⟨hcalls, ?_⟩
  rw [commands_of_counts h, if_neg ho, Nat.add_zero]

theorem startSession_sameTally (options : SessionOptions) (s : Host) :
    s.SameTally ((startSession options).on s).2 := by
  refine sameTally_of_counts (by decide) ?_ (startSession_counts options s)
  obtain ⟨answer, points, timeline, henter⟩ := enter_on none .startSession s
  cases answer with
  | error e =>
    rw [startSession, on_bind_of_error henter]
    rfl
  | ok u =>
    rw [startSession, on_bind_of_ok henter, on_get_bind, on_modifyStore_bind, on_pure]
    rfl

theorem startTransaction_sameTally (n : SessionNumber) (options : TransactionOptions) (s : Host) :
    s.SameTally ((startTransaction n options).on s).2 := by
  refine sameTally_of_counts (by decide) ?_ (startTransaction_counts n options s)
  obtain ⟨answer, points, timeline, henter⟩ := enter_on none .startTransaction s
  cases answer with
  | error e =>
    rw [startTransaction, on_bind_of_error henter]
    rfl
  | ok u =>
    rw [startTransaction, on_bind_of_ok henter, on_get_bind]
    dsimp only
    split
    · rfl
    · rfl

theorem commitTransaction_sameTally (n : SessionNumber) (s : Host) :
    s.SameTally ((commitTransaction n).on s).2 := by
  refine sameTally_of_counts (by decide) ?_ (commitTransaction_counts n s)
  obtain ⟨answer, points, timeline, henter⟩ := enter_on none .commit s
  rw [commitTransaction_on, henter]
  cases answer with
  | error e => rfl
  | ok u =>
    dsimp only
    split
    · unfold settle
      split
      · split
        · rfl
        · rfl
      · rfl
    · rfl

theorem abortTransaction_sameTally (n : SessionNumber) (s : Host) :
    s.SameTally ((abortTransaction n).on s).2 := by
  refine sameTally_of_counts (by decide) ?_ (abortTransaction_counts n s)
  obtain ⟨answer, points, timeline, henter⟩ := enter_on none .abort s
  cases answer with
  | error e =>
    rw [abortTransaction, on_bind_of_error henter]
    rfl
  | ok u =>
    rw [abortTransaction, on_bind_of_ok henter]
    rfl

theorem endSession_sameTally (n : SessionNumber) (s : Host) : s.SameTally (endSession n s) :=
  ⟨rfl, rfl⟩

variable [Regex.Engine]

theorem issue_calls (context : Context) (session : Option SessionNumber) (collection : String)
    (command : Command) (s : Host) :
    ((issue context session collection command).on s).2.calls = s.calls := by
  obtain ⟨answer, points, timeline, hadmission⟩ := admission_on context session command.operation s
  rw [issue_on, hadmission]
  cases answer with
  | error e => rfl
  | ok u =>
    dsimp only [carryOut]
    split
    · rfl
    · rfl

end Host

namespace Server

open Host

theorem abandon_sameTally (n : SessionNumber) (s : Host) : s.SameTally ((abandon n).run s).2 := by
  obtain ⟨log, hlog⟩ := abandon_run n s
  have habort := abortTransaction_sameTally n s
  rw [hlog]
  exact ⟨habort.calls, habort.commands⟩

theorem conclude_sameTally (n : SessionNumber) (value : β) (s : Host) :
    s.SameTally ((conclude n value).run s).2 := by
  have hcommit := commitTransaction_sameTally n s
  rw [conclude_run]
  rcases h : (commitTransaction n).on s with ⟨e | u, t⟩ <;> rw [h] at hcommit
  · exact hcommit.trans (abandon_sameTally n t)
  · exact hcommit

theorem finish_sameTally (n : SessionNumber) (outcome : Outcome β) (s : Host) :
    s.SameTally (finish n outcome s).2 := by
  cases outcome with
  | returned value => exact (conclude_sameTally n value s).trans (endSession_sameTally n _)
  | failed f => exact (abandon_sameTally n s).trans (endSession_sameTally n _)
  | unwound => exact (abandon_sameTally n s).trans (endSession_sameTally n _)

end Server

namespace SlowCallMonitor

open Host

variable {m : SlowCallMonitor} {s t u : Host}

/-- With a threshold as many calls were timed as commands were sent, and without one none. No more
calls than that were slow. -/
structure Keeps (m : SlowCallMonitor) (s t : Host) : Prop where
  enabled : m.isEnabled = true → t.calls.timed + s.commands = s.calls.timed + t.commands
  disabled : m.isEnabled = false → t.calls = s.calls
  slow : t.calls.slow + s.calls.timed ≤ s.calls.slow + t.calls.timed

theorem Keeps.trans (h : m.Keeps s t) (h' : m.Keeps t u) : m.Keeps s u := by
  refine ⟨fun henabled => ?_, fun hdisabled => ?_, ?_⟩
  · have hfirst := h.enabled henabled
    have hsecond := h'.enabled henabled
    omega
  · exact (h'.disabled hdisabled).trans (h.disabled hdisabled)
  · have hfirst := h.slow
    have hsecond := h'.slow
    omega

theorem keeps_of_sameTally (h : s.SameTally t) : m.Keeps s t := by
  refine ⟨fun _ => ?_, fun _ => h.calls, ?_⟩
  · rw [h.calls, h.commands]
  · exact Nat.le_of_eq (by rw [h.calls])

/-- A call that is finished counts for one that was timed if there is a threshold. -/
theorem finish_calls (m : SlowCallMonitor) (location collection : String) (filter : Option Document)
    (timeline : Timeline) (s : Host) :
    let t := (m.finish location (m.start timeline) collection filter s).2
    t.commands = s.commands ∧
      (m.isEnabled = true → t.calls.timed = s.calls.timed + 1 ∧ t.calls.slow ≤ s.calls.slow + 1) ∧
      (m.isEnabled = false → t.calls = s.calls) := by
  intro t
  obtain ⟨none | threshold⟩ := m
  · exact ⟨rfl, nofun, fun _ => rfl⟩
  · dsimp only [t, finish, start, Option.map_some]
    split
    · exact ⟨rfl, fun _ => ⟨rfl, Nat.le_refl _⟩, nofun⟩
    · exact ⟨rfl, fun _ => ⟨rfl, Nat.le_succ _⟩, nofun⟩

end SlowCallMonitor

variable [Regex.Engine]

namespace Collection

open Host SlowCallMonitor

variable {c : Collection} {allowed : Command → Prop}

/-- A timed call of one command counts for one timed call. -/
theorem timed_keeps (c : Collection) (location : String) (filter : Option Document)
    {command : Command} {call : StateM Host α}
    (hcall : ∀ s, (call.run s).2 = ((issue c.context c.session c.name command).on s).2) (s : Host) :
    c.settings.monitor.Keeps s ((c.timed location filter call).run s).2 := by
  let t : Host := { (call.run s).2 with timeline := (call.run s).2.timeline.advance 0 }
  have hcalls : t.calls = s.calls := by
    change (call.run s).2.calls = _
    rw [hcall, issue_calls]
  have hcommands : t.commands = s.commands + 1 := by
    change (call.run s).2.commands = _
    rw [hcall, commands_of_counts (issue_counts _ _ _ _ s), if_pos command.operation_mem_commands]
  obtain ⟨hsame, henabled, hdisabled⟩ :=
    c.settings.monitor.finish_calls location c.name filter s.timeline t
  have hrun : ((c.timed location filter call).run s).2 =
    (c.settings.monitor.finish location (c.settings.monitor.start s.timeline) c.name filter t).2 := rfl
  rw [← hrun] at hsame henabled hdisabled
  rw [hcommands] at hsame
  rw [hcalls] at henabled hdisabled
  refine ⟨fun h => ?_, hdisabled, ?_⟩
  · have htimed := (henabled h).1
    omega
  · cases h : c.settings.monitor.isEnabled with
    | true =>
      obtain ⟨htimed, hslow⟩ := henabled h
      omega
    | false => exact Nat.le_of_eq (by rw [hdisabled h])

/-- Whatever is made up of timed calls of commands has as many calls timed as it sends commands. -/
theorem Composed.keeps_monitor {action : StateM Host α} (h : c.Composed allowed action) (s : Host) :
    c.settings.monitor.Keeps s (action.run s).2 := by
  induction h generalizing s with
  | keeps h =>
    obtain ⟨value, hs⟩ := h s
    rw [hs]
    exact keeps_of_sameTally (SameTally.refl s)
  | timed location filter _ hcall => exact c.timed_keeps location filter hcall s
  | bind _ _ hx hf => exact (hx s).trans (hf _ _)

end Collection

/-- Work that looks at its host from time to time. What it has seen is kept. -/
abbrev Watched := StateT Host (StateM (List Host))

namespace Watched

open Host Server SlowCallMonitor

/-- Looks at the host. -/
def look : Watched Unit := fun s => do
  modify (s :: ·)
  return ((), s)

/-- Work that sends commands only through the collections of servers with one monitor. It looks at the
host whenever it likes, and does anything else that is neither a command nor timed. -/
inductive Uses (m : SlowCallMonitor) : {α : Type} → Watched α → Prop
  | look : Uses m look
  | aside {action : StateM Host α} (h : ∀ s : Host, s.SameTally (action.run s).2) :
    Uses m (onHost action)
  | bind {x : Watched α} {f : α → Watched β} (hx : Uses m x) (hf : ∀ value, Uses m (f value)) :
    Uses m (x >>= f)
  | count (c : Collection) (h : c.settings.monitor = m) (criteria : Expression) :
    Uses m (onHost (c.count criteria).run)
  | query [Decodable α] (c : Collection) (h : c.settings.monitor = m) (criteria : Expression)
      (options : List QueryOption) :
    Uses m (onHost (c.query criteria options : Action (List α)).run)
  | iterate (c : Collection) (h : c.settings.monitor = m) (criteria : Expression)
      (options : List QueryOption) : Uses m (onHost (c.iterate criteria options).run)
  | load [Decodable α] (c : Collection) (h : c.settings.monitor = m) (criteria : Expression)
      (options : List QueryOption) : Uses m (onHost (c.load criteria options : Action α).run)
  | save [PersistentObject α] (c : Collection) (h : c.settings.monitor = m) (object : α)
      (note : String) : Uses m (onHost (c.save object note))
  | delete [PersistentObject α] (c : Collection) (h : c.settings.monitor = m) (object : α)
      (note : String) : Uses m (onHost (c.delete object note))
  | hardDelete (c : Collection) (h : c.settings.monitor = m) (criteria : Expression) :
    Uses m (onHost (c.hardDelete criteria).run)
  | transaction (server : Server) (h : server.settings.monitor = m) (context : Context)
      (work : UnitOfWork → Watched (Outcome α))
      (hwork : ∀ n, Uses m (work ⟨context, some n, server.settings⟩)) :
    Uses m (server.withTransaction context work)

variable {m : SlowCallMonitor} {s : Host}

/-- The monitor has kept count ever since a host, at the end of the work and wherever it looks. -/
def Keeps (m : SlowCallMonitor) (work : Watched α) : Prop :=
  ∀ (start s : Host) (seen : List Host), m.Keeps start s → (∀ t ∈ seen, m.Keeps start t) →
    let after := (work.run s).run seen
    m.Keeps start after.1.2 ∧ ∀ t ∈ after.2, m.Keeps start t

omit [Regex.Engine] in
theorem keeps_onHost {action : StateM Host α} (h : ∀ s, m.Keeps s (action.run s).2) :
    Keeps m (onHost action) := by
  intro start s seen hs hseen
  exact ⟨hs.trans (h s), hseen⟩

theorem keeps_composed {c : Collection} {action : StateM Host α} (h : c.settings.monitor = m)
    (hcomposed : c.Composed (fun _ => True) action) : Keeps m (onHost action) :=
  keeps_onHost fun s => h ▸ hcomposed.keeps_monitor s

omit [Regex.Engine] in
theorem keeps_withTransaction {server : Server} {context : Context}
    {work : UnitOfWork → Watched (Outcome α)}
    (hwork : ∀ n, Keeps m (work ⟨context, some n, server.settings⟩)) :
    Keeps m (server.withTransaction context work) := by
  intro start s seen hs hseen
  have hsession := hs.trans (keeps_of_sameTally (startSession_sameTally server.sessionOptions s))
  rw [withTransaction_run]
  rcases hstart : (startSession server.sessionOptions).on s with ⟨e | n, t⟩ <;>
    rw [hstart] at hsession
  · exact ⟨hsession, hseen⟩
  · have hbegun := hsession.trans
      (keeps_of_sameTally (startTransaction_sameTally n server.transactionOptions t))
    dsimp only
    rcases hbegin : (startTransaction n server.transactionOptions).on t with ⟨e | _, u⟩ <;>
      rw [hbegin] at hbegun
    · exact ⟨hbegun.trans (keeps_of_sameTally (endSession_sameTally n u)), hseen⟩
    · obtain ⟨hworked, hlooked⟩ := hwork n start u seen hbegun hseen
      exact ⟨hworked.trans (keeps_of_sameTally (finish_sameTally n _ _)), hlooked⟩

theorem Uses.keeps {work : Watched α} (h : Uses m work) : Keeps m work := by
  induction h with
  | look =>
    intro start s seen hs hseen
    exact ⟨hs, List.forall_mem_cons.mpr ⟨hs, hseen⟩⟩
  | aside h => exact keeps_onHost fun s => keeps_of_sameTally (h s)
  | bind _ _ hx hf =>
    intro start s seen hs hseen
    obtain ⟨hfirst, hlooked⟩ := hx start s seen hs hseen
    exact hf _ start _ _ hfirst hlooked
  | count c h criteria => exact keeps_composed h (Collection.composed_count trivial)
  | query c h criteria options =>
    exact keeps_composed h (Collection.composed_query (fun _ => trivial) options)
  | iterate c h criteria options =>
    exact keeps_composed h (Collection.composed_iterate (fun _ => trivial) options)
  | load c h criteria options =>
    exact keeps_composed h (Collection.composed_load (fun _ => trivial) options)
  | save c h object note =>
    exact keeps_composed h
      (Collection.composed_save (fun _ => trivial) (fun _ _ => trivial) object note)
  | delete c h object note =>
    exact keeps_composed h
      (Collection.composed_delete (fun _ => trivial) (fun _ _ => trivial) object note)
  | hardDelete c h criteria => exact keeps_composed h (Collection.composed_hardDelete trivial)
  | transaction server h context work _ ih => exact keeps_withTransaction ih

/-- From a host that has seen no command yet, as many calls have been timed as commands were sent
wherever work looks, and no more of them were slow. Without a threshold neither is counted. -/
theorem commands_timed_once {work : Watched α} (h : Uses m work) (hcommands : s.commands = 0)
    (hcalls : s.calls = {}) :
    let after := (work.run s).run []
    ∀ t ∈ after.1.2 :: after.2,
      (m.isEnabled = true → t.calls.timed = t.commands) ∧
        (m.isEnabled = false → t.calls.timed = 0 ∧ t.calls.slow = 0) ∧
        t.calls.slow ≤ t.calls.timed := by
  intro after t ht
  have hstart : m.Keeps s s := keeps_of_sameTally (SameTally.refl s)
  obtain ⟨hend, hseen⟩ := h.keeps s s [] hstart nofun
  have hkeeps : m.Keeps s t := List.forall_mem_cons.mpr ⟨hend, hseen⟩ t ht
  have htimed : s.calls.timed = 0 := congrArg CallCounts.timed hcalls
  have hslow : s.calls.slow = 0 := congrArg CallCounts.slow hcalls
  refine ⟨fun henabled => ?_, fun hdisabled => ?_, ?_⟩
  · have hequal := hkeeps.enabled henabled
    omega
  · rw [hkeeps.disabled hdisabled]
    exact ⟨htimed, hslow⟩
  · have hbound := hkeeps.slow
    omega

/-- Work that is done without the host. -/
theorem uses_pure (value : α) : Uses m (pure value) := by
  have haside : Uses m (onHost (pure value)) := .aside SameTally.refl
  exact haside

end Watched

end

open scoped Regex

namespace Watched

open Host Server SlowCallMonitor

/-- A save, and a transaction with a count and a removal that fails. All three commands are slow. -/
theorem commands_timed_once_slow :
    let m := SlowCallMonitor.ofMillis 5
    let server : Server := { settings := { monitor := m } }
    let record : Record := ⟨[("_id", .objectId ⟨1⟩)], {}⟩
    let work : Watched (Outcome Nat) := do
      let _ ← onHost (((server.newSession .background).collection "records").save record "")
      look
      server.withTransaction .background fun w => do
        let _ ← onHost ((w.collection "records").count (.equal "_id" (.objectId ⟨1⟩))).run
        look
        let _ ← onHost ((w.collection "records").hardDelete (.equal "_id" .null)).run
        return .unwound
    let host : Host := {
      store := { database := "main", hooks := {
        failPoints := [⟨.delete, .disconnected, 1⟩], latency := some (10 * nanosPerMilli) } }
      timeline := { now := nanosPerSecond } }
    let after := (work.run host).run []
    Uses m work ∧ host.commands = 0 ∧ host.calls = {} ∧
      (after.1.2 :: after.2).map (fun t => (t.commands, t.calls.slow)) = [(3, 3), (2, 2), (1, 1)] ∧
      ∀ t ∈ after.1.2 :: after.2, t.calls.timed = t.commands := by
  intro m server record work host after
  have huses : Uses m work := by
    refine .bind (.save _ (by rfl) record "") fun _ => .bind .look fun _ => ?_
    refine .transaction server rfl .background _ fun n => ?_
    refine .bind (.count _ (by rfl) _) fun _ => .bind .look fun _ => ?_
    exact .bind (.hardDelete _ (by rfl) _) fun _ => uses_pure _
  have hlooks : (after.1.2 :: after.2).map (fun t => (t.commands, t.calls.slow)) =
      [(3, 3), (2, 2), (1, 1)] := by
    decide +kernel
  have henabled : m.isEnabled = true := by decide
  have htimed := commands_timed_once (s := host) huses rfl rfl
  refine ⟨huses, rfl, rfl, hlooks, fun t ht => ?_⟩
  dsimp only [after] at ht
  exact (htimed t ht).1 henabled

end Watched

end DocStore
