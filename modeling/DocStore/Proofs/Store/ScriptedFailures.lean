import DocStore.Proofs.Store.Entrance
import Mathlib.Logic.Function.Basic
/-!
Failures that are set for calls. They stand in one list, but come in one queue for each kind of call: a
call that is let as far as the failures meets the first one that is left for its kind, and goes on if
none is left. Failures may be set at any time, and calls of all kinds be made in any order between.
-/
namespace DocStore

namespace Hooks

theorem total_congr {h h' : Hooks} (hcounts : h.counts = h'.counts) : h.total = h'.total := by
  rw [total, total, hcounts]

theorem total_counted (h : Hooks) (o : Operation) : (h.counted o).total = h.total + 1 := by
  cases o <;> simp [total, counted, Operation.named] <;> omega

end Hooks

/-- How a failure that is set fails calls of one kind. -/
def FailPoint.errors (p : FailPoint) (o : Operation) : List StoreError :=
  if p.operation = o then List.replicate p.times p.error else []

/-- The queue of each kind of call. -/
def pending (points : List FailPoint) (o : Operation) : List StoreError :=
  points.flatMap fun p => p.errors o

section Pending

variable {o : Operation} {p : FailPoint} {points : List FailPoint}

theorem pending_cons (p : FailPoint) (points : List FailPoint) (o : Operation) :
    pending (p :: points) o = p.errors o ++ pending points o := List.flatMap_cons

theorem pending_concat (points : List FailPoint) (p : FailPoint) (o : Operation) :
    pending (points ++ [p]) o = pending points o ++ p.errors o := by
  simp [pending]

theorem errors_of_ne (h : p.operation ≠ o) : p.errors o = [] := if_neg h

/-- A failure that is used up is taken off the list, and so leaves the same errors as with no times. -/
theorem pending_used (n : Nat) (p : FailPoint) (points : List FailPoint) :
    pending (if n + 1 = 1 then points else { p with times := n } :: points) =
      pending ({ p with times := n } :: points) := by
  funext o
  cases n with
  | zero =>
    have herrors : FailPoint.errors { p with times := 0 } o = [] := ite_self _
    rw [if_pos rfl, pending_cons, herrors, List.nil_append]
  | succ n => rw [if_neg (by omega)]

/-- The failure that a call meets is the first one in the queue of its kind. No other queue changes. -/
theorem takeFailure_pending (o : Operation) (points : List FailPoint) :
    match takeFailure o points with
    | none => pending points o = []
    | some (e, rest) => ∃ more, pending points o = e :: more ∧
        pending rest = Function.update (pending points) o more := by
  induction points with
  | nil => rfl
  | cons p points ih =>
    rw [takeFailure]
    by_cases hp : p.operation = o ∧ 0 < p.times
    · obtain ⟨rfl, hpos⟩ := hp
      obtain ⟨n, hn⟩ : ∃ n, p.times = n + 1 := ⟨p.times - 1, by omega⟩
      rw [if_pos ⟨rfl, hpos⟩]
      refine ⟨List.replicate n p.error ++ pending points p.operation, ?_, ?_⟩
      · rw [pending_cons, FailPoint.errors, if_pos rfl, hn, List.replicate_succ, List.cons_append]
      · simp only [hn, Nat.add_sub_cancel, pending_used]
        funext other
        by_cases hother : other = p.operation
        · subst hother
          rw [Function.update_self, pending_cons, FailPoint.errors, if_pos rfl]
        · have hne : p.operation ≠ other := Ne.symm hother
          rw [Function.update_of_ne hother, pending_cons, pending_cons, errors_of_ne hne,
            FailPoint.errors, if_neg hne]
    · have herrors : p.errors o = [] := by
        by_cases ho : p.operation = o
        · have hzero : p.times = 0 := by
            by_contra hne
            exact hp ⟨ho, by omega⟩
          rw [FailPoint.errors, if_pos ho, hzero, List.replicate_zero]
        · exact errors_of_ne ho
      rw [if_neg hp]
      cases htake : takeFailure o points with
      | none =>
        rw [htake] at ih
        dsimp only [Option.map_none] at ih ⊢
        rw [pending_cons, herrors, ih, List.append_nil]
      | some found =>
        obtain ⟨e, rest⟩ := found
        rw [htake] at ih
        obtain ⟨more, hmore, hrest⟩ := ih
        refine ⟨more, ?_, ?_⟩
        · rw [pending_cons, herrors, hmore, List.nil_append]
        · funext other
          by_cases hother : other = o
          · subst hother
            rw [pending_cons, hrest, herrors, Function.update_self, Function.update_self,
              List.nil_append]
          · rw [pending_cons, hrest, Function.update_of_ne hother, Function.update_of_ne hother,
              pending_cons]

end Pending

/-- A call that enters a store. -/
inductive Attempt where
  | command (context : Context) (session : Option SessionNumber) (collection : String)
      (command : Command)
  | startSession (options : SessionOptions)
  | startTransaction (session : SessionNumber) (options : TransactionOptions)
  | commit (session : SessionNumber)
  | abort (session : SessionNumber)
  | disconnect

/-- What becomes of a call on its way in: it is barred, it meets a failure, or it comes in. -/
inductive Fate where
  | barred (e : StoreError)
  | failed (e : StoreError)
  | entered

variable [Regex.Engine]

namespace Attempt

open Host StoreAction

def operation : Attempt → Operation
  | command _ _ _ x => x.operation
  | startSession _ => .startSession
  | startTransaction _ _ => .startTransaction
  | commit _ => .commit
  | abort _ => .abort
  | disconnect => .disconnect

/-- Only commands are made under a context. -/
def context? : Attempt → Option Context
  | command context _ _ _ => some context
  | startSession _ | startTransaction _ _ | commit _ | abort _ | disconnect => none

def act : Attempt → StoreAction Unit
  | command context session collection x => do
    let _ ← issue context session collection x
  | startSession options => do
    let _ ← Host.startSession options
  | startTransaction n options => Host.startTransaction n options
  | commit n => commitTransaction n
  | abort n => abortTransaction n
  | disconnect => Host.disconnect

def fate (a : Attempt) (s : Host) : Fate :=
  match s.barred? a.context? a.operation, ((enter a.context? a.operation).on s).1 with
  | some e, _ => .barred e
  | none, .error e => .failed e
  | none, .ok _ => .entered

theorem enters_act (a : Attempt) : Enters a.context? a.operation a.act := by
  cases a with
  | command context session collection x =>
    exact (enters_issue context session collection x).bind fun _ _ => rfl
  | startSession options => exact (enters_startSession options).bind fun _ _ => rfl
  | startTransaction n options => exact enters_startTransaction n options
  | commit n => exact enters_commitTransaction n
  | abort n => exact enters_abortTransaction n
  | disconnect => exact enters_disconnect

end Attempt

/-- Something that goes on beside calls and failures: time passes, contexts are cancelled, sessions end,
the latency changes. -/
structure Sideshow where
  change : Host → Host
  counts : ∀ s, (change s).store.hooks.counts = s.store.hooks.counts
  failPoints : ∀ s, (change s).store.hooks.failPoints = s.store.hooks.failPoints

/-- What takes place on a store: a failure is set, a call is made, or neither. -/
inductive Turn where
  | set (point : FailPoint)
  | attempt (a : Attempt)
  | aside (x : Sideshow)

/-- What is seen of a turn. -/
inductive Sight where
  | set (point : FailPoint)
  | called (operation : Operation) (fate : Fate) (answer : Except StoreError Unit)

namespace Turn

def run (s : Host) : Turn → List Sight × Host
  | .set point => ([.set point],
      { s with store := { s.store with hooks := s.store.hooks.addFailPoint point } })
  | .attempt a => ([.called a.operation (a.fate s) (a.act.on s).1], (a.act.on s).2)
  | .aside x => ([], x.change s)

def runAll (s : Host) : List Turn → List Sight × Host
  | [] => ([], s)
  | turn :: rest =>
    let (seen, t) := turn.run s
    let (later, u) := runAll t rest
    (seen ++ later, u)

/-- The errors that a turn adds to the queue of a kind of call. -/
def errors (o : Operation) : Turn → List StoreError
  | .set point => point.errors o
  | .attempt _ | .aside _ => []

def isAttempt : Turn → Bool
  | .attempt _ => true
  | .set _ | .aside _ => false

def attempts (o : Operation) : Turn → Bool
  | .attempt a => a.operation = o
  | .set _ | .aside _ => false

end Turn

/-- The errors of one kind that are seen to be set. -/
def Sight.errors (o : Operation) : Sight → List StoreError
  | .set point => point.errors o
  | .called _ _ _ => []

/-- The error that a call of one kind has met among the failures. -/
def Sight.met? (o : Operation) : Sight → Option StoreError
  | .called operation (.failed e) _ => if operation = o then some e else none
  | .called _ (.barred _) _ | .called _ .entered _ | .set _ => none

/-- One queue of errors for each kind of call goes through what is seen. What is set is put at the end
of a queue. Calls that are barred leave the queues alone, those that fail take the first error of their
queue, and those that come in have found it empty. -/
inductive Serves : (Operation → List StoreError) → List Sight → (Operation → List StoreError) → Prop
  | nil (q : Operation → List StoreError) : Serves q [] q
  | set {q r : Operation → List StoreError} {rest : List Sight} (point : FailPoint)
    (h : Serves (fun o => q o ++ point.errors o) rest r) : Serves q (.set point :: rest) r
  | barred {q r : Operation → List StoreError} {rest : List Sight} (o : Operation) (e : StoreError)
    (h : Serves q rest r) : Serves q (.called o (.barred e) (.error e) :: rest) r
  | failed {q r : Operation → List StoreError} {rest : List Sight} {o : Operation} {e : StoreError}
    {more : List StoreError} (hfirst : q o = e :: more)
    (h : Serves (Function.update q o more) rest r) :
    Serves q (.called o (.failed e) (.error e) :: rest) r
  | entered {q r : Operation → List StoreError} {rest : List Sight} {o : Operation}
    (answer : Except StoreError Unit) (hnone : q o = []) (h : Serves q rest r) :
    Serves q (.called o .entered answer :: rest) r

namespace Serves

variable {q r u : Operation → List StoreError} {seen later : List Sight}

omit [Regex.Engine] in
theorem append (h : Serves q seen r) (h' : Serves r later u) : Serves q (seen ++ later) u := by
  induction h with
  | nil q => exact h'
  | set point _ ih => exact .set point (ih h')
  | barred o e _ ih => exact .barred o e (ih h')
  | failed hfirst _ ih => exact .failed hfirst (ih h')
  | entered answer hnone _ ih => exact .entered answer hnone (ih h')

omit [Regex.Engine] in
/-- The errors of one kind that calls have met, and those that are left, are those that there were and
those that were set, in this order. -/
theorem balance (h : Serves q seen r) (o : Operation) :
    seen.filterMap (Sight.met? o) ++ r o = q o ++ seen.flatMap (Sight.errors o) := by
  induction h with
  | nil q => simp
  | set point _ ih =>
    rw [List.filterMap_cons_none rfl, ih, List.flatMap_cons, List.append_assoc]
    rfl
  | barred other e _ ih =>
    rw [List.filterMap_cons_none rfl, ih]
    rfl
  | @failed q r rest other e more hfirst _ ih =>
    by_cases ho : other = o
    · subst ho
      rw [Function.update_self] at ih
      have hmet : Sight.met? other (.called other (.failed e) (.error e)) = some e := if_pos rfl
      rw [List.filterMap_cons_some hmet, List.cons_append, ih, hfirst]
      rfl
    · rw [Function.update_of_ne (Ne.symm ho)] at ih
      have hmet : Sight.met? o (.called other (.failed e) (.error e)) = none := if_neg ho
      rw [List.filterMap_cons_none hmet, ih]
      rfl
  | entered answer hnone _ ih =>
    rw [List.filterMap_cons_none rfl, ih]
    rfl

end Serves

/-- The failures that are set on a host. -/
def Host.failures (s : Host) : Operation → List StoreError := pending s.store.hooks.failPoints

namespace Turn

theorem run_serves (turn : Turn) (s : Host) :
    Serves s.failures (turn.run s).1 (turn.run s).2.failures := by
  cases turn with
  | set point =>
    have hadded : ((Turn.set point).run s).2.failures = fun o => s.failures o ++ point.errors o :=
      funext fun o => pending_concat s.store.hooks.failPoints point o
    rw [hadded]
    exact .set point (.nil _)
  | aside x =>
    have hkept : ((Turn.aside x).run s).2.failures = s.failures :=
      congrArg pending (x.failPoints s)
    rw [hkept]
    exact .nil _
  | attempt a =>
    have hact := a.enters_act s
    have htake := takeFailure_pending a.operation s.store.hooks.failPoints
    rw [Host.enter_on_eq] at hact
    simp only [run, Attempt.fate, Host.enter_on_eq]
    cases hbarred : s.barred? a.context? a.operation with
    | some e =>
      simp only [hbarred] at hact ⊢
      rw [hact]
      exact .barred a.operation e (.nil _)
    | none =>
      simp only [hbarred] at hact ⊢
      cases htaken : takeFailure a.operation s.store.hooks.failPoints with
      | some found =>
        obtain ⟨e, points⟩ := found
        simp only [htaken] at hact htake ⊢
        obtain ⟨more, hfirst, hrest⟩ := htake
        rw [hact]
        refine .failed hfirst ?_
        rw [Host.failures, ← hrest]
        exact .nil _
      | none =>
        simp only [htaken] at hact htake ⊢
        have hkept : (a.act.on s).2.failures = s.failures := by
          rw [Host.failures, hact]
          rfl
        rw [hkept]
        exact .entered _ htake (.nil _)

theorem runAll_serves (turns : List Turn) (s : Host) :
    Serves s.failures (runAll s turns).1 (runAll s turns).2.failures := by
  induction turns generalizing s with
  | nil => exact .nil _
  | cons turn rest ih => exact (turn.run_serves s).append (ih _)

/-- The failures that are seen to be set are those that are set. -/
theorem runAll_errors (o : Operation) (turns : List Turn) (s : Host) :
    (runAll s turns).1.flatMap (Sight.errors o) = turns.flatMap (errors o) := by
  induction turns generalizing s with
  | nil => rfl
  | cons turn rest ih =>
    rw [runAll, List.flatMap_append, ih, List.flatMap_cons]
    cases turn <;> simp [run, errors, Sight.errors]

theorem run_counts (turn : Turn) (s : Host) (o : Operation) :
    (turn.run s).2.store.hooks.counts o =
      s.store.hooks.counts o + if turn.attempts o then 1 else 0 := by
  cases turn with
  | set point => rfl
  | aside x => exact congrFun (x.counts s) o
  | attempt a =>
    refine (congrFun (a.enters_act.counts s) o).trans ?_
    by_cases ho : o = a.operation
    · simp [Hooks.counted, attempts, ho]
    · simp [Hooks.counted, attempts, ho, Ne.symm ho]

theorem runAll_counts (turns : List Turn) (s : Host) (o : Operation) :
    (runAll s turns).2.store.hooks.counts o =
      s.store.hooks.counts o + turns.countP (attempts o) := by
  induction turns generalizing s with
  | nil => rfl
  | cons turn rest ih =>
    rw [runAll, List.countP_cons]
    dsimp only
    rw [ih, run_counts]
    omega

theorem run_total (turn : Turn) (s : Host) :
    (turn.run s).2.store.hooks.total =
      s.store.hooks.total + if turn.isAttempt then 1 else 0 := by
  cases turn with
  | set point => rfl
  | aside x =>
    have htotal : (x.change s).store.hooks.total = s.store.hooks.total :=
      Hooks.total_congr (x.counts s)
    rw [run, htotal]
    rfl
  | attempt a =>
    have htotal : (a.act.on s).2.store.hooks.total = (s.store.hooks.counted a.operation).total :=
      Hooks.total_congr (a.enters_act.counts s)
    rw [run, htotal, Hooks.total_counted, isAttempt, if_pos rfl]

theorem runAll_total (turns : List Turn) (s : Host) :
    (runAll s turns).2.store.hooks.total = s.store.hooks.total + turns.countP isAttempt := by
  induction turns generalizing s with
  | nil => rfl
  | cons turn rest ih =>
    rw [runAll, List.countP_cons]
    dsimp only
    rw [ih, run_total]
    omega

/-- Failures that are set for a kind of call come to the calls of this kind, in the order in which they
were set and each as many times as it was asked for. What is set or called besides, and calls that are
barred, make no difference to them. Every call is counted once, whatever becomes of it. -/
theorem runAll_queued (turns : List Turn) (s : Host) :
    Serves s.failures (runAll s turns).1 (runAll s turns).2.failures ∧
    (∀ o, (runAll s turns).1.filterMap (Sight.met? o) ++ (runAll s turns).2.failures o =
        s.failures o ++ turns.flatMap (errors o) ∧
      (runAll s turns).2.store.hooks.counts o =
        s.store.hooks.counts o + turns.countP (attempts o)) ∧
    (runAll s turns).2.store.hooks.total = s.store.hooks.total + turns.countP isAttempt := by
  have hserves := runAll_serves turns s
  refine ⟨hserves, fun o => ⟨?_, runAll_counts turns s o⟩, runAll_total turns s⟩
  rw [hserves.balance o, runAll_errors]

end Turn

end DocStore
