import DocStore.Collection.Query
import DocStore.Proofs.Collection.Storing
import DocStore.Proofs.Iterator.Batches
import DocStore.Regex.Default
/-!
Streams of the documents that a query finds. Draining the iterator of a query gives what reading all of
its documents at once gives, whatever the size of the batches.
-/
namespace DocStore

section

open DocumentIterator (readFailure)

/-- Decodes documents in order, up to the first one that cannot be decoded. -/
def decodeAll [Decodable α] : List Document → Except Failure (List α)
  | [] => .ok []
  | d :: rest =>
    match Decodable.decode d with
    | .ok v => (decodeAll rest).map (v :: ·)
    | .error reason => .error (readFailure (.decode reason))

theorem length_of_decodeAll [Decodable α] {rows : List Document} {vs : List α}
    (h : decodeAll rows = .ok vs) : vs.length = rows.length := by
  induction rows generalizing vs with
  | nil => cases h; rfl
  | cons d rest ih =>
    rw [decodeAll] at h
    cases hdecode : (Decodable.decode d : Except String α) with
    | error reason => rw [hdecode] at h; cases h
    | ok v =>
      rw [hdecode] at h
      cases hrest : decodeAll (α := α) rest with
      | error e => rw [hrest] at h; cases h
      | ok rest' =>
        rw [hrest] at h
        cases h
        exact congrArg Nat.succ (ih hrest)

namespace DocumentIterator

/-- Reading an iterator to its end, or to the first failure, in a context that goes on. -/
inductive Drains {γ α : Type} [Cursor γ] [Decodable α] :
    DocumentIterator γ → Except Failure (List α) → Prop where
  | done {it it' : DocumentIterator γ} (h : it.tryNext (α := α) (.ok ()) = (.ok none, it')) :
      Drains it (.ok [])
  | failed {it it' : DocumentIterator γ} {e : Failure}
      (h : it.tryNext (α := α) (.ok ()) = (.error e, it')) : Drains it (.error e)
  | more {it it' : DocumentIterator γ} {v : α} {rest : Except Failure (List α)}
      (h : it.tryNext (.ok ()) = (.ok (some v), it')) (hrest : Drains it' rest) :
      Drains it (rest.map (v :: ·))

/-- There is one outcome at most. -/
theorem Drains.unique {γ α : Type} [Cursor γ] [Decodable α] {it : DocumentIterator γ}
    {x y : Except Failure (List α)} (hx : Drains it x) (hy : Drains it y) : x = y := by
  induction hx generalizing y with
  | done h => cases hy <;> simp_all
  | failed h => cases hy <;> simp_all
  | more h hrest ih =>
    cases hy with
    | done h' | failed h' => simp_all
    | more h' hrest' =>
      rw [h] at h'
      cases h'
      rw [ih hrest']

section Rows

variable [Decodable α] {c : RowCursor} (context : Context) {d : Document} {rest : List Document}

theorem tryNext_of_nil (hopen : c.closed = false) (hrows : c.pending = []) :
    ∃ it', (ofCursor c context).tryNext (α := α) (.ok ()) = (.ok none, it') := by
  obtain ⟨c', hadvance⟩ := RowCursor.advance_live_of_nil hopen hrows
  simp only [ofCursor, tryNext, read, Cursor.advance, hadvance]
  exact ⟨_, rfl⟩

theorem tryNext_of_cons (hopen : c.closed = false) (hrows : c.pending = d :: rest) :
    ∃ c' it', c'.closed = false ∧ c'.pending = rest ∧
      (ofCursor c context).tryNext (α := α) (.ok ()) =
        match (Decodable.decode d : Except String α) with
        | .ok v => (.ok (some v), ofCursor c' context)
        | .error reason => (.error (readFailure (.decode reason)), it') := by
  obtain ⟨c', hadvance, hopen', hrows', hcurrent⟩ := RowCursor.advance_live_of_cons hopen hrows
  have hd : Cursor.current c' = some d := hcurrent
  simp only [ofCursor, tryNext, read, Cursor.advance, hadvance, hd]
  cases (Decodable.decode d : Except String α) with
  | ok v => exact ⟨c', inert, hopen', hrows', rfl⟩
  | error reason => exact ⟨c', _, hopen', hrows', rfl⟩

/-- Draining an iterator over rows decodes them. -/
theorem drains_ofCursor (hopen : c.closed = false) :
    Drains (ofCursor c context) (decodeAll (α := α) c.pending) := by
  generalize hrows : c.pending = rows
  induction rows generalizing c with
  | nil =>
    obtain ⟨it', hnext⟩ := tryNext_of_nil (α := α) context hopen hrows
    exact .done hnext
  | cons d rest ih =>
    obtain ⟨c', it', hopen', hrows', hnext⟩ := tryNext_of_cons (α := α) context hopen hrows
    rw [decodeAll]
    cases hdecode : (Decodable.decode d : Except String α) with
    | ok v => exact .more (by rw [hnext, hdecode]) (ih hopen' hrows')
    | error reason => exact .failed (by rw [hnext, hdecode])

theorem drains_iff (hopen : c.closed = false) {result : Except Failure (List α)} :
    Drains (ofCursor c context) result ↔ result = decodeAll c.pending := by
  constructor
  · exact fun h => h.unique (drains_ofCursor context hopen)
  · rintro rfl
    exact drains_ofCursor context hopen

theorem readAll_ofCursor (hopen : c.closed = false) {fuel : Nat} (hfuel : c.pending.length < fuel) :
    (ofCursor c context).readAll (.ok ()) fuel = decodeAll (α := α) c.pending := by
  generalize hrows : c.pending = rows at hfuel
  induction rows generalizing c fuel with
  | nil =>
    obtain ⟨fuel, rfl⟩ := Nat.exists_eq_add_of_lt hfuel
    obtain ⟨it', hnext⟩ := tryNext_of_nil (α := α) context hopen hrows
    rw [DocumentIterator.readAll, hnext]
    rfl
  | cons d rest ih =>
    obtain ⟨fuel, rfl⟩ : ∃ n, fuel = n + 1 := ⟨fuel - 1, by omega⟩
    obtain ⟨c', it', hopen', hrows', hnext⟩ := tryNext_of_cons (α := α) context hopen hrows
    rw [DocumentIterator.readAll, hnext, decodeAll]
    cases (Decodable.decode d : Except String α) with
    | ok v =>
      dsimp only
      rw [ih hopen' hrows' (by simpa using hfuel)]
      cases decodeAll (α := α) rest <;> rfl
    | error reason => rfl

end Rows

end DocumentIterator

namespace Host

open StoreAction

variable {context : Context} {session : Option SessionNumber} {collection : String} {s t : Host}

theorem check_of_checkContext_on (h : (checkContext context).on s = (.ok (), t)) :
    context.check t.timeline = .ok () := by
  rw [checkContext_on] at h
  obtain ⟨hcheck, rfl⟩ := Prod.mk.inj h
  exact hcheck

theorem check_of_awaitLatency_on (hcheck : context.check s.timeline = .ok ())
    (h : (awaitLatency context).on s = (.ok (), t)) : context.check t.timeline = .ok () := by
  rw [awaitLatency_on] at h
  split at h
  · obtain ⟨-, rfl⟩ := Prod.mk.inj h
    exact hcheck
  · obtain ⟨hchecked, rfl⟩ := Prod.mk.inj h
    exact hchecked

theorem timeline_of_tripFailPoint_on {operation : Operation}
    (h : (tripFailPoint operation).on s = (.ok (), t)) : t.timeline = s.timeline := by
  rw [tripFailPoint, on_get_bind] at h
  cases hfailure : takeFailure operation s.store.hooks.failPoints with
  | none => rw [hfailure] at h; cases h; rfl
  | some failure => rw [hfailure] at h; cases h

/-- The context of a call that enters goes on. -/
theorem check_of_enter_on {operation : Operation}
    (h : (enter (some context) operation).on s = (.ok (), t)) :
    context.check t.timeline = .ok () := by
  rw [enter, on_modifyStore_bind, on_get_bind] at h
  dsimp only at h
  split at h
  · cases h
  · obtain ⟨u, s', hchecked, h⟩ := exists_of_on_bind_eq_ok h
    obtain ⟨u', s'', hwaited, htripped⟩ := exists_of_on_bind_eq_ok h
    rw [timeline_of_tripFailPoint_on htripped]
    exact check_of_awaitLatency_on (check_of_checkContext_on hchecked) hwaited

theorem check_of_admission_on {operation : Operation}
    (h : (admission context session operation).on s = (.ok (), t)) :
    context.check t.timeline = .ok () := by
  obtain ⟨u, s', henter, h⟩ := exists_of_on_bind_eq_ok h
  have hcheck := check_of_enter_on henter
  rw [on_get_bind] at h
  split at h
  · cases h
  · cases h
    exact hcheck

variable [Regex.Engine]

/-- A search that succeeds gives its rows while the context goes on. -/
theorem find_on_ok {filter : Document} {options : Option FindOptions} {cursor : RowCursor}
    (h : (Host.find context session collection filter options).on s = (.ok cursor, t)) :
    context.check t.timeline = .ok () ∧
      ∃ rows, cursor = .ofRows s.store.batchSize rows ∧
        Table.find filter (options.getD {}) (s.store.ledger.tablesFor session collection) =
          .ok rows := by
  rw [find_eq_issue] at h
  obtain ⟨reply, u, hissue, hcursor⟩ := exists_of_on_bind_eq_ok h
  cases hcursor
  obtain ⟨name, fresh, docs, hrun⟩ := run_of_issue_on hissue
  obtain ⟨rows, hfind, hreply⟩ := exists_of_bind_eq_ok hrun
  cases hreply
  obtain ⟨answer, points, timeline, hadmission⟩ :=
    admission_on context session (Command.find filter (options.getD {})).operation s
  rw [issue_on, hadmission] at hissue
  cases answer with
  | error e => cases hissue
  | ok v =>
    have hcheck := check_of_admission_on hadmission
    have hleft : (s.attempted (Command.find filter (options.getD {})).operation).later points timeline =
        t := congrArg Prod.snd hissue
    rw [hleft] at hcheck
    refine ⟨hcheck, rows, ?_, hfind⟩
    rw [← hleft]
    rfl

end Host

variable [Regex.Engine]

namespace Collection

variable (α : Type) [Decodable α] (c : Collection) (criteria : Expression)
  (options : List QueryOption) (s : Host)

/-- The documents that the filter and the options select. -/
def found : Except StoreError (List Document) :=
  Table.find criteria.toFilter ((QueryOption.toFindOptions options).getD {}) (c.shown s)

def queryDetails : List String :=
  ["target: " ++ Decodable.target α, filterDetail criteria.toFilter, QueryOption.describe options]

/-- A query that the store fails. -/
def queryFailure (e : StoreError) : Failure :=
  (Failure.ofStore queryLocation "unable to execute query" e).withDetails
    (queryDetails α criteria options)

/-- A query with a result that cannot be read. -/
def readingFailure (inner : Failure) : Failure :=
  (inner.wrap queryLocation "unable to read query results").withDetails
    (queryDetails α criteria options)

def iterateFailure (e : StoreError) : Failure :=
  (Failure.ofStore iterateLocation "unable to start query" e).withDetails
    [filterDetail criteria.toFilter, QueryOption.describe options]

omit [Regex.Engine] in
theorem timed_run_fst (location : String) (filter : Option Document) (call : StateM Host β) :
    ((c.timed location filter call).run s).1 = (call.run s).1 := rfl

theorem query_on_fst :
    ((c.query (α := α) criteria options).on s).1 =
      match (Host.find c.context c.session c.name criteria.toFilter
        (QueryOption.toFindOptions options)).on s with
      | (.ok cursor, t) =>
        ((DocumentIterator.ofCursor cursor c.context).readAll (c.context.check t.timeline)
          (cursor.remaining + 1)).mapError (readingFailure α criteria options)
      | (.error e, _) => .error (queryFailure α criteria options e) := by
  refine (timed_run_fst c s queryLocation (some criteria.toFilter) _).trans ?_
  rcases hfind : (Host.find c.context c.session c.name criteria.toFilter
    (QueryOption.toFindOptions options)).on s with ⟨e | cursor, t⟩
  all_goals
    rw [StateT.run_bind, show StateT.run (Host.find c.context c.session c.name criteria.toFilter
      (QueryOption.toFindOptions options)) s = _ from hfind]
    rfl

theorem iterate_on_fst :
    ((c.iterate criteria options).on s).1 =
      (((Host.find c.context c.session c.name criteria.toFilter
        (QueryOption.toFindOptions options)).on s).1.map fun cursor =>
          DocumentIterator.ofCursor cursor c.context).mapError (iterateFailure criteria options) := by
  obtain ⟨t, hcall, -⟩ := c.call_on iterateLocation (some criteria.toFilter)
    (Host.find c.context c.session c.name criteria.toFilter (QueryOption.toFindOptions options))
    (iterateFailure criteria options) s
  have hiterate : (c.iterate criteria options).on s = _ := Action.on_bind (c.call iterateLocation
    (some criteria.toFilter) (Host.find c.context c.session c.name criteria.toFilter
      (QueryOption.toFindOptions options)) (iterateFailure criteria options)) _ s
  rw [hiterate, hcall]
  rcases ((Host.find c.context c.session c.name criteria.toFilter
    (QueryOption.toFindOptions options)).on s).1 with e | cursor <;> rfl

/-- A query and the iterator of the same search work on the same rows, and fail for the same reason. -/
theorem iterate_query :
    (∃ e, ((c.iterate criteria options).on s).1 = .error (iterateFailure criteria options e) ∧
      ((c.query (α := α) criteria options).on s).1 =
        .error (queryFailure α criteria options e)) ∨
    ∃ rows, c.found criteria options s = .ok rows ∧
      ((c.iterate criteria options).on s).1 =
        .ok (.ofCursor (.ofRows s.store.batchSize rows) c.context) ∧
      ((c.query (α := α) criteria options).on s).1 =
        (decodeAll rows).mapError (readingFailure α criteria options) := by
  rw [query_on_fst, iterate_on_fst]
  rcases hfind : (Host.find c.context c.session c.name criteria.toFilter
    (QueryOption.toFindOptions options)).on s with ⟨e | cursor, t⟩
  · exact .inl ⟨e, rfl, rfl⟩
  · obtain ⟨hcheck, rows, rfl, hrows⟩ := Host.find_on_ok hfind
    have hread : (DocumentIterator.ofCursor (RowCursor.ofRows s.store.batchSize rows)
        c.context).readAll (.ok ()) (rows.length + 1) = decodeAll (α := α) rows :=
      DocumentIterator.readAll_ofCursor c.context rfl (Nat.lt_succ_self _)
    refine .inr ⟨rows, hrows, rfl, ?_⟩
    rw [← hread]
    exact congrArg (fun alive => Except.mapError _ (DocumentIterator.readAll alive _ _)) hcheck

end Collection

open RowCursor (advanced batchEnd)

/-- Batches cannot be seen. In a context that goes on a cursor hands out its rows in order and then none,
with the rest of the present batch in its buffer, and it never takes from an empty batch. So an
iterator gives what a query gives. After a context has ended, the present batch is the last one. -/
theorem batches_hidden (docs : List Document) (b : Nat) (context : Context) (times : Nat → Timeline)
    (α : Type) [Decodable α] (c : Collection) (criteria : Expression) (options : List QueryOption)
    (s : Host) :
    let alive := fun i => context.check (times i)
    let cursor := advanced alive (.ofRows b docs)
    ((∀ i, alive i = .ok ()) → ∀ j,
      ((cursor j).advance (alive j)).1 = .ok (decide (j < docs.length)) ∧
      ((cursor j).advance (alive j)).2.current = docs[j]? ∧
      (j ≤ docs.length → Cursor.buffered (cursor j) = min docs.length (batchEnd b j) - j)) ∧
    (∀ j fetched, (cursor j).fetch (alive j) = .ok fetched → fetched.pending ≠ [] →
      0 < fetched.inBatch) ∧
    (∀ k ≤ docs.length, (∀ i < k, alive i = .ok ()) →
      (∀ i, k ≤ i → context.isCancelled (times i) = true) →
      (∀ j < min docs.length (batchEnd b k),
        ((cursor j).advance (alive j)).1 = .ok true ∧
        ((cursor j).advance (alive j)).2.current = docs[j]?) ∧
      ∀ j, min docs.length (batchEnd b k) ≤ j →
        ((cursor j).advance (alive j)).1 = .error .cancelled) ∧
    ((∃ e, ((c.iterate criteria options).on s).1 =
          .error (Collection.iterateFailure criteria options e) ∧
        ((c.query (α := α) criteria options).on s).1 =
          .error (Collection.queryFailure α criteria options e)) ∨
      ∃ rows it, c.found criteria options s = .ok rows ∧
        ((c.iterate criteria options).on s).1 = .ok it ∧
        (∀ result, it.Drains result ↔ result = decodeAll (α := α) rows) ∧
        ((c.query (α := α) criteria options).on s).1 =
          (decodeAll rows).mapError (Collection.readingFailure α criteria options)) := by
  intro alive cursor
  refine ⟨fun hlive j => ?_, fun j fetched hfetch hrows => ?_, fun k hk hlive hcancelled => ?_, ?_⟩
  · have hadvance := RowCursor.advance_advanced hlive b docs j
    refine ⟨congrArg Prod.fst hadvance, congrArg (·.2.current) hadvance, fun _ => ?_⟩
    exact congrArg RowCursor.inBatch (RowCursor.advanced_ofRows fun i _ => .inl (hlive i))
  · refine RowCursor.inBatch_pos_of_fetch ?_ hfetch hrows
    rw [RowCursor.batchSize_advanced]
    exact Nat.lt_of_lt_of_le Nat.one_pos (Nat.le_max_right b 1)
  · have hended (i : Nat) (hi : k ≤ i) : alive i = .error .cancelled := if_pos (hcancelled i hi)
    refine ⟨fun j hj => ?_, fun j hj => ?_⟩
    · have hadvance := RowCursor.advance_of_ended hlive hj
      exact ⟨congrArg Prod.fst hadvance, congrArg (·.2.current) hadvance⟩
    · exact congrArg Prod.fst (RowCursor.advance_of_stopped hlive hended hk hj)
  · obtain hfailed | ⟨rows, hrows, hiterate, hquery⟩ := c.iterate_query α criteria options s
    · exact .inl hfailed
    · exact .inr ⟨rows, _, hrows, hiterate,
        fun result => DocumentIterator.drains_iff c.context rfl, hquery⟩

end

open scoped Regex
open DocumentIterator (readFailure)
open RowCursor (advanced batchEnd)

/-- A context that is cancelled after the first of three rows still gets the second one, which is in the
same batch. -/
theorem batches_hidden_of_cancelled :
    let alive := fun i => (⟨none, 1⟩ : Context).check { now := 0, cancelled := if i < 1 then [] else [1] }
    let cursor := advanced alive (.ofRows 2 [[], [], []])
    ((cursor 1).advance (alive 1)).1 = .ok true ∧
      ((cursor 2).advance (alive 2)).1 = .error .cancelled := by
  have hbatch : min 3 (batchEnd 2 1) = 2 := by decide
  obtain ⟨-, -, hcancelled, -⟩ := batches_hidden [[], [], []] 2 ⟨none, 1⟩
    (fun i => { now := 0, cancelled := if i < 1 then [] else [1] }) Document
    ⟨"c", .background, none, {}⟩ .everything [] { store := { database := "d" }, timeline := { now := 0 } }
  have hlive (i : Nat) (hi : i < 1) :
      (⟨none, 1⟩ : Context).check { now := 0, cancelled := if i < 1 then [] else [1] } = .ok () := by
    rw [if_pos hi]
    rfl
  have hended (i : Nat) (hi : 1 ≤ i) : (⟨none, 1⟩ : Context).isCancelled
      { now := 0, cancelled := if i < 1 then [] else [1] } = true := by
    rw [if_neg (Nat.not_lt.2 hi)]
    rfl
  obtain ⟨hdelivered, hstopped⟩ := hcancelled 1 (by decide) hlive hended
  exact ⟨(hdelivered 1 (hbatch ▸ Nat.one_lt_two)).1, hstopped 2 (hbatch ▸ Nat.le_refl 2)⟩

end DocStore
