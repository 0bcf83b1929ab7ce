import DocStore.Proofs.Store.Entrance
/-!
Trees of contexts. Contexts are opened and derived from one another, in any order and to any depth, with
timeouts and without. Any of them is cancelled at any time, commands are issued under them, and time goes
on. A context never goes on for longer than one that it comes from, and one that has ended stays so, with
all that is left of its tree.
-/
namespace DocStore

/-- Time goes on, while contexts are neither opened nor cancelled. -/
structure Timeline.Passes (t u : Timeline) : Prop where
  now : t.now ≤ u.now
  scopes : u.scopes = t.scopes
  cancelled : u.cancelled = t.cancelled

namespace Timeline

theorem Passes.refl (t : Timeline) : t.Passes t := ⟨Nat.le_refl _, rfl, rfl⟩

theorem passes_advance (t : Timeline) (nanos : Nat) : t.Passes (t.advance nanos) :=
  ⟨Nat.le_trans (Nat.le_add_right _ nanos) (Nat.le_succ _), rfl, rfl⟩

end Timeline

namespace Host

open StoreAction

theorem awaited_passes (context : Context) (s : Host) :
    s.timeline.Passes (s.awaited context).2 := by
  rw [awaited]
  split
  · exact .refl _
  · exact .refl _
  · exact s.timeline.passes_advance _

theorem arrival_passes (context : Option Context) (operation : Operation) (s : Host) :
    s.timeline.Passes (s.arrival context operation) := by
  rw [arrival]
  split
  · exact .refl _
  · cases context with
    | none => exact .refl _
    | some context => exact awaited_passes context s

variable [Regex.Engine]

theorem carryOut_timeline (session : Option SessionNumber) (collection : String)
    (command : Command) (s : Host) :
    (s.carryOut session collection command).2.timeline = s.timeline := by
  rw [carryOut]
  split <;> rfl

theorem issue_timeline (context : Context) (session : Option SessionNumber) (collection : String)
    (command : Command) (s : Host) :
    ((issue context session collection command).on s).2.timeline =
      s.arrival (some context) command.operation := by
  rw [issue_on_enter, enter_on_eq]
  cases s.barred? (some context) command.operation with
  | some e => rfl
  | none =>
    cases takeFailure command.operation s.store.hooks.failPoints with
    | some found => rfl
    | none =>
      dsimp only
      split
      · rfl
      · exact carryOut_timeline session collection command _

theorem issue_passes (context : Context) (session : Option SessionNumber) (collection : String)
    (command : Command) (s : Host) :
    s.timeline.Passes ((issue context session collection command).on s).2.timeline := by
  rw [issue_timeline]
  exact arrival_passes _ _ _

end Host

/-- Where a context comes from. The root of a tree has a number. A clone has no limit of its own. -/
inductive Lineage where
  | root (number : Nat) (limit : Option Nat)
  | derived (source : Lineage) (limit : Option Nat)

namespace Lineage

def tree : Lineage → Nat
  | root number _ => number
  | derived source _ => source.tree

/-- The limit of its own and those of all that it comes from. -/
def limits : Lineage → List Nat
  | root _ limit => limit.toList
  | derived source limit => limit.toList ++ source.limits

/-- The whole line up to the root. -/
def line : Lineage → List Lineage
  | root number limit => [root number limit]
  | derived source limit => derived source limit :: source.line

theorem limits_subset {a l : Lineage} (h : a ∈ l.line) : a.limits ⊆ l.limits := by
  induction l with
  | root number limit =>
    cases List.mem_singleton.1 h
    exact List.Subset.refl _
  | derived source limit ih =>
    rcases List.mem_cons.1 h with rfl | h
    · exact List.Subset.refl _
    · exact List.Subset.trans (ih h) (List.subset_append_right _ _)

end Lineage

structure Member where
  lineage : Lineage
  context : Context

/-- Something else that goes on at a host. -/
structure Pastime where
  change : Host → Host
  passes : ∀ s : Host, s.timeline.Passes (change s).timeline

/-- Contexts at a host, in the order in which they came up, and the trees of which one was cancelled. -/
structure Grove where
  host : Host
  members : List Member
  cancelled : List Nat

inductive Change where
  | root (deadline : Option Nat)
  | derive (source : Nat) (timeout : Option Nat)
  | cancel (member : Nat)
  | command (member : Nat) (session : Option SessionNumber) (collection : String)
      (command : Command)
  | meanwhile (pastime : Pastime)

namespace Grove

/-- A host where no context has come up yet. -/
def planted (s : Host) : Grove :=
  { host := { s with timeline := { now := s.timeline.now } }, members := [], cancelled := [] }

def check (g : Grove) (m : Member) : Except StoreError Unit := m.context.check g.host.timeline

/-- What holds of a grove at any time. -/
structure Sound (g : Grove) : Prop where
  deadline : ∀ m ∈ g.members, m.context.deadline = m.lineage.limits.min?
  line : ∀ m ∈ g.members, ∀ l ∈ m.lineage.line, ∃ a ∈ g.members, a.lineage = l
  opened : ∀ m ∈ g.members, m.context.scope < g.host.timeline.scopes
  rooted : ∀ m ∈ g.members, m.lineage.tree < g.members.length
  apart : ∀ m ∈ g.members, ∀ a ∈ g.members,
    m.context.scope = a.context.scope ↔ m.lineage.tree = a.lineage.tree
  scopes : ∀ scope ∈ g.host.timeline.cancelled, scope < g.host.timeline.scopes
  trees : ∀ tree ∈ g.cancelled, tree < g.members.length
  cancelled : ∀ m ∈ g.members,
    m.context.scope ∈ g.host.timeline.cancelled ↔ m.lineage.tree ∈ g.cancelled

/-- Members stay as they are. Trees that have been cancelled stay cancelled, and time goes on. -/
structure Grows (g u : Grove) : Prop where
  members : g.members <+: u.members
  cancelled : g.cancelled ⊆ u.cancelled
  now : g.host.timeline.now ≤ u.host.timeline.now

theorem Grows.refl (g : Grove) : g.Grows g := ⟨List.prefix_rfl, List.Subset.refl _, Nat.le_refl _⟩

theorem Grows.trans {g u v : Grove} (h : g.Grows u) (h' : u.Grows v) : g.Grows v :=
  ⟨h.members.trans h'.members, List.Subset.trans h.cancelled h'.cancelled,
    Nat.le_trans h.now h'.now⟩

section Steps

variable {g : Grove} {m : Member}

theorem planted_sound (s : Host) : (planted s).Sound where
  deadline := nofun
  line := nofun
  opened := nofun
  rooted := nofun
  apart := nofun
  scopes := nofun
  trees := nofun
  cancelled := nofun

theorem Sound.passes (h : g.Sound) {s : Host} (hs : g.host.timeline.Passes s.timeline) :
    Sound { g with host := s } where
  deadline := h.deadline
  line := h.line
  opened m hm := hs.scopes ▸ h.opened m hm
  rooted := h.rooted
  apart := h.apart
  scopes := by
    rw [hs.scopes, hs.cancelled]
    exact h.scopes
  trees := h.trees
  cancelled := by
    rw [hs.cancelled]
    exact h.cancelled

theorem step_cancel_sound (h : g.Sound) (hm : m ∈ g.members) :
    Sound { g with
      host := { g.host with timeline := m.context.cancel g.host.timeline }
      cancelled := m.lineage.tree :: g.cancelled } where
  deadline := h.deadline
  line := h.line
  opened := h.opened
  rooted := h.rooted
  apart := h.apart
  scopes := List.forall_mem_cons.2 ⟨h.opened m hm, h.scopes⟩
  trees := List.forall_mem_cons.2 ⟨h.rooted m hm, h.trees⟩
  cancelled a ha := by
    change a.context.scope ∈ m.context.scope :: _ ↔ _
    rw [List.mem_cons, List.mem_cons, h.apart a ha m hm, h.cancelled a ha]

theorem derive_deadline {context : Context} {limits : List Nat}
    (hlimits : context.deadline = limits.min?) (timeout : Option Nat) (t : Timeline) :
    (Context.derive (some context) timeout t).1.deadline =
      ((timeout.map fun timeout => t.now + timeout).toList ++ limits).min? := by
  cases timeout with
  | none => exact hlimits
  | some timeout =>
    rw [Option.map_some, Option.toList_some, List.singleton_append, List.min?_cons, ← hlimits]
    simp only [Context.derive, Context.childWithTimeout]
    cases context.deadline with
    | none => rfl
    | some d => exact congrArg some (Nat.min_comm _ _)

theorem forall_mem_concat {P : Member → Prop} {members : List Member} (hold : ∀ a ∈ members, P a)
    (hnew : P m) : ∀ a ∈ members ++ [m], P a :=
  List.forall_mem_append.2 ⟨hold, List.forall_mem_singleton.2 hnew⟩

/-- A member that comes up has its place among the others, if its scope is to theirs as its tree is to
their trees. -/
theorem Sound.add (h : g.Sound) {timeline : Timeline}
    (hscopes : g.host.timeline.scopes ≤ timeline.scopes)
    (hcancelled : timeline.cancelled = g.host.timeline.cancelled)
    (hdeadline : m.context.deadline = m.lineage.limits.min?)
    (hline : ∀ l ∈ m.lineage.line, l = m.lineage ∨ ∃ a ∈ g.members, a.lineage = l)
    (hopened : m.context.scope < timeline.scopes) (hrooted : m.lineage.tree ≤ g.members.length)
    (hapart : ∀ a ∈ g.members,
      a.context.scope = m.context.scope ↔ a.lineage.tree = m.lineage.tree)
    (hdead : m.context.scope ∈ g.host.timeline.cancelled ↔ m.lineage.tree ∈ g.cancelled) :
    Sound { g with host := { g.host with timeline }, members := g.members ++ [m] } := by
  have hlength : (g.members ++ [m]).length = g.members.length + 1 := List.length_append
  have hself : m ∈ g.members ++ [m] := List.mem_append_right _ List.mem_cons_self
  have hkept : ∀ l, (∃ a ∈ g.members, a.lineage = l) → ∃ a ∈ g.members ++ [m], a.lineage = l :=
    fun l ⟨a, ha, hlineage⟩ => ⟨a, List.mem_append_left _ ha, hlineage⟩
  constructor
  case deadline => exact forall_mem_concat h.deadline hdeadline
  case line =>
    refine forall_mem_concat (fun a ha l hl => hkept l (h.line a ha l hl)) fun l hl => ?_
    rcases hline l hl with rfl | hold
    · exact ⟨m, hself, rfl⟩
    · exact hkept l hold
  case opened =>
    exact forall_mem_concat (fun a ha => Nat.lt_of_lt_of_le (h.opened a ha) hscopes) hopened
  case rooted =>
    rw [hlength]
    exact forall_mem_concat (fun a ha => Nat.lt_succ_of_lt (h.rooted a ha)) (Nat.lt_succ_of_le hrooted)
  case apart =>
    refine forall_mem_concat (fun a ha => forall_mem_concat (h.apart a ha) (hapart a ha))
      (forall_mem_concat (fun a ha => ?_) (iff_of_true rfl rfl))
    rw [eq_comm, hapart a ha, eq_comm]
  case scopes =>
    rw [hcancelled]
    exact fun scope hscope => Nat.lt_of_lt_of_le (h.scopes scope hscope) hscopes
  case trees =>
    rw [hlength]
    exact fun tree htree => Nat.lt_succ_of_lt (h.trees tree htree)
  case cancelled =>
    rw [hcancelled]
    exact forall_mem_concat h.cancelled hdead

/-- A context that is derived is of the scope and of the tree of its source. -/
theorem add_derived_sound (h : g.Sound) (hm : m ∈ g.members) {context : Context}
    {limit : Option Nat} (hscope : context.scope = m.context.scope)
    (hdeadline : context.deadline = (limit.toList ++ m.lineage.limits).min?) :
    Sound { g with members := g.members ++ [⟨.derived m.lineage limit, context⟩] } := by
  apply h.add
  case hscopes => exact Nat.le_refl _
  case hcancelled => rfl
  case hdeadline => exact hdeadline
  case hline => exact fun l hl => (List.mem_cons.1 hl).imp_right (h.line m hm l)
  case hopened => exact hscope ▸ h.opened m hm
  case hrooted => exact Nat.le_of_lt (h.rooted m hm)
  case hapart => exact fun a ha => hscope ▸ h.apart a ha m hm
  case hdead => exact hscope ▸ h.cancelled m hm

variable [Regex.Engine]

/-- What comes of a change. A number that no member has yet changes nothing. -/
def step (g : Grove) : Change → Grove
  | .root deadline =>
    let (context, timeline) := Context.open_ deadline g.host.timeline
    { g with
      host := { g.host with timeline }
      members := g.members ++ [⟨.root g.members.length deadline, context⟩] }
  | .derive source timeout =>
    match g.members[source]? with
    | none => g
    | some m =>
      let (context, timeline) := Context.derive (some m.context) timeout g.host.timeline
      let limit := timeout.map fun timeout => g.host.timeline.now + timeout
      { g with
        host := { g.host with timeline }
        members := g.members ++ [⟨.derived m.lineage limit, context⟩] }
  | .cancel member =>
    match g.members[member]? with
    | none => g
    | some m => { g with
      host := { g.host with timeline := m.context.cancel g.host.timeline }
      cancelled := m.lineage.tree :: g.cancelled }
  | .command member session collection x =>
    match g.members[member]? with
    | none => g
    | some m => { g with host := ((Host.issue m.context session collection x).on g.host).2 }
  | .meanwhile pastime => { g with host := pastime.change g.host }

def runAll (g : Grove) (changes : List Change) : Grove := changes.foldl step g

/-- A new root has a scope and a number that no member has. -/
theorem step_root_sound (h : g.Sound) (deadline : Option Nat) : (g.step (.root deadline)).Sound := by
  apply h.add
  case hscopes => exact Nat.le_succ _
  case hcancelled => rfl
  case hdeadline => cases deadline <;> rfl
  case hline => exact fun l hl => .inl (List.mem_singleton.1 hl)
  case hopened => exact Nat.lt_succ_self _
  case hrooted => exact Nat.le_refl _
  case hapart =>
    exact fun a ha => iff_of_false (Nat.ne_of_lt (h.opened a ha)) (Nat.ne_of_lt (h.rooted a ha))
  case hdead =>
    exact iff_of_false (fun hscope => Nat.lt_irrefl _ (h.scopes _ hscope))
      fun htree => Nat.lt_irrefl _ (h.trees _ htree)

theorem step_sound (h : g.Sound) (c : Change) : (g.step c).Sound := by
  cases c with
  | root deadline => exact step_root_sound h deadline
  | derive source timeout =>
    rw [step]
    cases hm : g.members[source]? with
    | none => exact h
    | some m =>
      have hmem := List.mem_of_getElem? hm
      have hdeadline := derive_deadline (h.deadline m hmem) timeout g.host.timeline
      cases timeout <;> exact add_derived_sound h hmem rfl hdeadline
  | cancel member =>
    rw [step]
    cases hm : g.members[member]? with
    | none => exact h
    | some m => exact step_cancel_sound h (List.mem_of_getElem? hm)
  | command member session collection x =>
    rw [step]
    cases g.members[member]? with
    | none => exact h
    | some m => exact h.passes (Host.issue_passes m.context session collection x g.host)
  | meanwhile pastime => exact h.passes (pastime.passes g.host)

theorem runAll_sound (h : g.Sound) (changes : List Change) : (g.runAll changes).Sound := by
  induction changes generalizing g with
  | nil => exact h
  | cons c rest ih => exact ih (step_sound h c)

theorem step_grows (g : Grove) (c : Change) : g.Grows (g.step c) := by
  cases c with
  | root deadline => exact ⟨List.prefix_append _ _, List.Subset.refl _, Nat.le_refl _⟩
  | derive source timeout =>
    rw [step]
    cases g.members[source]? with
    | none => exact .refl g
    | some m =>
      cases timeout <;> exact ⟨List.prefix_append _ _, List.Subset.refl _, Nat.le_refl _⟩
  | cancel member =>
    rw [step]
    cases g.members[member]? with
    | none => exact .refl g
    | some m => exact ⟨List.prefix_rfl, List.subset_cons_self _ _, Nat.le_refl _⟩
  | command member session collection x =>
    rw [step]
    cases g.members[member]? with
    | none => exact .refl g
    | some m =>
      have hpasses := Host.issue_passes m.context session collection x g.host
      exact ⟨List.prefix_rfl, List.Subset.refl _, hpasses.now⟩
  | meanwhile pastime =>
    exact ⟨List.prefix_rfl, List.Subset.refl _, (pastime.passes g.host).now⟩

theorem runAll_grows (g : Grove) (changes : List Change) : g.Grows (g.runAll changes) := by
  induction changes generalizing g with
  | nil => exact .refl g
  | cons c rest ih => exact (step_grows g c).trans (ih _)

end Steps

section Verdicts

variable {g : Grove} {m : Member}

theorem any_min?_le {limits : List Nat} {now : Nat} :
    (limits.min?.any fun d => d ≤ now) = true ↔ ∃ d ∈ limits, d ≤ now := by
  rw [Option.any_eq_true]
  constructor
  · rintro ⟨d, hd, hle⟩
    exact ⟨d, (List.min?_eq_some_iff.1 hd).1, of_decide_eq_true hle⟩
  · rintro ⟨d, hd, hle⟩
    obtain ⟨least, hleast⟩ := Option.isSome_iff_exists.1 (List.isSome_min?_of_mem hd)
    exact ⟨least, hleast,
      decide_eq_true (Nat.le_trans ((List.min?_eq_some_iff.1 hleast).2 d hd) hle)⟩

/-- Whether work may go on depends on the tree having been cancelled, and on the limits up to the
root. -/
theorem Sound.check_eq (h : g.Sound) (hm : m ∈ g.members) :
    g.check m =
      if m.lineage.tree ∈ g.cancelled then .error .cancelled
      else if ∃ d ∈ m.lineage.limits, d ≤ g.host.timeline.now then .error .timeout
      else .ok () := by
  have hcancelled : m.context.isCancelled g.host.timeline = true ↔ m.lineage.tree ∈ g.cancelled := by
    rw [Context.isCancelled, List.contains_iff_mem, h.cancelled m hm]
  have hexpired : m.context.isExpired g.host.timeline = true ↔
      ∃ d ∈ m.lineage.limits, d ≤ g.host.timeline.now := by
    rw [Context.isExpired, h.deadline m hm, any_min?_le]
  rw [check, Context.check]
  simp only [hcancelled, hexpired]

theorem Sound.deadline_le (h : g.Sound) (hm : m ∈ g.members) {a : Member} (ha : a ∈ g.members)
    (hline : a.lineage ∈ m.lineage.line) {d : Nat} (hd : a.context.deadline = some d) :
    ∃ d' ≤ d, m.context.deadline = some d' := by
  rw [h.deadline a ha] at hd
  have hmem : d ∈ m.lineage.limits :=
    Lineage.limits_subset hline (List.min?_eq_some_iff.1 hd).1
  obtain ⟨least, hleast⟩ := Option.isSome_iff_exists.1 (List.isSome_min?_of_mem hmem)
  exact ⟨least, (List.min?_eq_some_iff.1 hleast).2 d hmem, (h.deadline m hm).trans hleast⟩

variable [Regex.Engine]

/-- Nothing is done any more under a context that has ended. A command that is issued is counted, and
that is all. One that set out before and has slept changes nothing at all; that a command is made of
these two parts is `Host.issue_on_depart`. -/
structure Closed (g : Grove) (m : Member) (e : StoreError) : Prop where
  check : g.check m = .error e
  issue : ∀ session collection x, (Host.issue m.context session collection x).on g.host =
    (.error (if g.host.store.connected then e else .disconnected), g.host.attempted x.operation)
  resume : ∀ session collection x,
    (Host.resume m.context session collection x true).on g.host = (.error e, g.host)

theorem closed_of_check {e : StoreError} (h : g.check m = .error e) : g.Closed m e where
  check := h
  issue session collection x := by
    have hcheck : m.context.check g.host.timeline = .error e := h
    rw [Host.issue_on_depart, Host.depart_on, hcheck]
    cases g.host.store.connected <;> rfl
  resume session collection x := by
    have hawake : (Host.awake m.context true).on g.host = (.error e, g.host) := by
      rw [Host.awake, if_pos rfl, Host.checkContext_on]
      exact congrArg (·, g.host) h
    rw [Host.resume, StoreAction.on_bind_of_error hawake]

/-- Contexts of one tree are within one another, end together, and never begin again. -/
structure Tight (g : Grove) : Prop where
  earliest : ∀ m ∈ g.members, m.context.deadline = m.lineage.limits.min?
  within : ∀ m ∈ g.members, ∀ l ∈ m.lineage.line, ∃ a ∈ g.members, a.lineage = l ∧
    ∀ d, a.context.deadline = some d → ∃ d' ≤ d, m.context.deadline = some d'
  verdict : ∀ m ∈ g.members, g.check m =
    if m.lineage.tree ∈ g.cancelled then .error .cancelled
    else if ∃ d ∈ m.lineage.limits, d ≤ g.host.timeline.now then .error .timeout
    else .ok ()
  closed : ∀ m ∈ g.members, ∀ e, g.check m = .error e → g.Closed m e
  cancelled : ∀ (i : Nat) (m : Member), g.members[i]? = some m → ∀ later : List Change,
    let u := (g.step (.cancel i)).runAll later
    ∀ a ∈ u.members, a.lineage.tree = m.lineage.tree → u.Closed a .cancelled
  unaffected : ∀ (i : Nat) (m : Member), g.members[i]? = some m → ∀ a ∈ g.members,
    a.lineage.tree ≠ m.lineage.tree → (g.step (.cancel i)).check a = g.check a
  expired : ∀ m ∈ g.members, ∀ d, m.context.deadline = some d → d ≤ g.host.timeline.now →
    ∀ later : List Change, m ∈ (g.runAll later).members ∧
      ∃ e, (e = .cancelled ∨ e = .timeout) ∧ (g.runAll later).Closed m e

theorem Sound.closed_of_cancelled (h : g.Sound) (hm : m ∈ g.members)
    (htree : m.lineage.tree ∈ g.cancelled) : g.Closed m .cancelled :=
  closed_of_check ((h.check_eq hm).trans (if_pos htree))

theorem Sound.closed_of_expired (h : g.Sound) (hm : m ∈ g.members) {d : Nat}
    (hd : d ∈ m.lineage.limits) (hnow : d ≤ g.host.timeline.now) :
    ∃ e, (e = .cancelled ∨ e = .timeout) ∧ g.Closed m e := by
  by_cases htree : m.lineage.tree ∈ g.cancelled
  · exact ⟨.cancelled, .inl rfl, h.closed_of_cancelled hm htree⟩
  · refine ⟨.timeout, .inr rfl, closed_of_check ?_⟩
    rw [h.check_eq hm, if_neg htree, if_pos ⟨d, hd, hnow⟩]

theorem Sound.tight (h : g.Sound) : g.Tight where
  earliest := h.deadline
  within m hm l hl := by
    obtain ⟨a, ha, rfl⟩ := h.line m hm l hl
    exact ⟨a, ha, rfl, fun d hd => h.deadline_le hm ha hl hd⟩
  verdict m hm := h.check_eq hm
  closed m _ e he := closed_of_check he
  cancelled i m hi later := by
    intro u a ha htree
    have hu : u.Sound := runAll_sound (step_sound h (.cancel i)) later
    have hcancelled : m.lineage.tree ∈ (g.step (.cancel i)).cancelled := by
      simp only [step, hi]
      exact List.mem_cons_self
    refine hu.closed_of_cancelled ha ?_
    rw [htree]
    exact (runAll_grows _ later).cancelled hcancelled
  unaffected i m hi a ha htree := by
    have hkept : a ∈ (g.step (.cancel i)).members := (step_grows g (.cancel i)).members.subset ha
    rw [(step_sound h (.cancel i)).check_eq hkept, h.check_eq ha]
    simp only [step, hi, List.mem_cons, htree, false_or, Context.cancel]
  expired m hm d hd hnow later := by
    have hgrows := runAll_grows g later
    have hlater := hgrows.members.subset hm
    have hlimit : d ∈ m.lineage.limits :=
      (List.min?_eq_some_iff.1 ((h.deadline m hm).symm.trans hd)).1
    exact ⟨hlater, (runAll_sound h later).closed_of_expired hlater hlimit
      (Nat.le_trans hnow hgrows.now)⟩

/-- Whatever contexts come up, are cancelled and pass in whatever order. -/
theorem planted_runAll_tight (s : Host) (changes : List Change) : ((planted s).runAll changes).Tight :=
  (runAll_sound (planted_sound s) changes).tight

end Verdicts

end Grove

end DocStore
