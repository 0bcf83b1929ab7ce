import DocStore.Proofs.Collection.Attempts
import DocStore.Proofs.Collection.Selection
import DocStore.Proofs.Failure.Reports
import DocStore.Regex.Default
/-!
Errors of the store as the caller learns of them. Whatever call of the store or of a cursor fails in an
operation, at whichever document, the failure that the operation ends with goes back to the error of
that call. It is the caller's fault only where the store rejects the write of a save or of a deletion.
-/
namespace DocStore

section

open PersistentObject (identity isNew encode)
open Failure (writeKind reports_ofStore reports_ofWrite)

variable {e : StoreError}

namespace DocumentIterator

variable {γ α : Type} [Cursor γ] [Decodable α] {alive : Except StoreError Unit} {cursor cursor' : γ}

/-- The cursor gives some documents, and then a read fails. -/
inductive FailsAfter (alive : Except StoreError Unit) (e : StoreError) : List α → γ → Prop where
  | here {cursor : γ} (h : (read (α := α) alive cursor).1 = .error e) : FailsAfter alive e [] cursor
  | later {v : α} {vs : List α} {cursor next : γ} (h : read alive cursor = (.ok (some v), next))
    (hrest : FailsAfter alive e vs next) : FailsAfter alive e (v :: vs) cursor

theorem read_of_advance (h : (Cursor.advance alive cursor).1 = .error e) :
    (read (α := α) alive cursor).1 = .error e := by
  rw [read]
  rcases hadvance : Cursor.advance alive cursor with ⟨answer, next⟩
  rw [hadvance] at h
  cases h
  rfl

theorem tryNext_of_read (it : DocumentIterator γ) (hopened : it.state = .opened)
    (hcursor : it.cursor = some cursor) (h : (read (α := α) alive cursor).1 = .error e) :
    ∃ it', it.tryNext (α := α) alive = (.error (readFailure e), it') ∧ it'.state = .failed ∧
      it'.error = some e := by
  rcases hread : read (α := α) alive cursor with ⟨answer, next⟩
  rw [hread] at h
  cases h
  rw [tryNext, hopened, hcursor]
  dsimp only
  rw [hread]
  exact ⟨_, rfl, rfl, rfl⟩

theorem tryNext_ofCursor {v : α} (h : read alive cursor = (.ok (some v), cursor'))
    (context : Context) :
    (ofCursor cursor context).tryNext alive = (.ok (some v), ofCursor cursor' context) := by
  rw [tryNext, ofCursor]
  dsimp only
  rw [h]
  rfl

/-- Reading all documents fails with the read that fails. -/
theorem readAll_of_failsAfter {vs : List α} (h : FailsAfter alive e vs cursor) (context : Context)
    {fuel : Nat} (hfuel : vs.length < fuel) :
    (ofCursor cursor context).readAll (α := α) alive fuel = .error (readFailure e) := by
  -- on the documents that are read before the failure; each of them takes one unit of the fuel
  induction h generalizing fuel with
  | here h =>
    obtain ⟨fuel, rfl⟩ : ∃ n, fuel = n + 1 := ⟨fuel - 1, by omega⟩
    obtain ⟨it', hnext, -, -⟩ := tryNext_of_read (ofCursor _ context) rfl rfl h
    rw [readAll, hnext]
  | later h hrest ih =>
    obtain ⟨fuel, rfl⟩ : ∃ n, fuel = n + 1 := ⟨fuel - 1, by omega⟩
    rw [readAll, tryNext_ofCursor h context]
    dsimp only
    rw [ih (Nat.lt_of_succ_lt_succ hfuel)]
    rfl

/-- A document is read from a cursor that has moved. -/
theorem advance_of_read {v : α} (h : read alive cursor = (.ok (some v), cursor')) :
    Cursor.advance alive cursor = (.ok true, cursor') := by
  rw [read] at h
  rcases hadvance : Cursor.advance alive cursor with ⟨_ | (_ | _), next⟩
  · rw [hadvance] at h
    cases h
  · rw [hadvance] at h
    cases h
  · rw [hadvance] at h
    have hcursor := congrArg Prod.snd h
    dsimp only at hcursor
    split at hcursor
    · rw [← hcursor]
    · split at hcursor <;> rw [← hcursor]

theorem remaining_of_advance {rows rows' : RowCursor} (h : rows.advance alive = (.ok true, rows')) :
    rows.remaining = rows'.remaining + 1 := by
  rw [RowCursor.advance] at h
  split at h
  · cases h
  · split at h
    · cases h
    · rename_i fetched hfetch
      have hpending : fetched.pending = rows.pending := by
        rw [RowCursor.fetch] at hfetch
        split at hfetch
        · obtain ⟨_, _, hend⟩ := exists_of_bind_eq_ok hfetch
          cases hend
          rfl
        · cases hfetch
          rfl
      split at h
      · cases h
      · rename_i d rest hrows
        cases h
        rw [RowCursor.remaining, ← hpending, hrows]
        rfl

/-- A cursor over rows gives no more documents than it has rows. -/
theorem length_le_of_failsAfter {vs : List α} {rows : RowCursor} (h : FailsAfter alive e vs rows) :
    vs.length ≤ rows.remaining := by
  induction h with
  | here h => exact Nat.zero_le _
  | later h hrest ih =>
    rw [remaining_of_advance (advance_of_read h)]
    exact Nat.succ_le_succ ih

theorem tells_tryNext {it : DocumentIterator γ} (hopened : it.state = .opened)
    (hcursor : it.cursor = some cursor) (h : (read (α := α) alive cursor).1 = .error e) :
    Tells .internal e (it.tryNext (α := α) alive).1 := by
  obtain ⟨it', hnext, -, -⟩ := tryNext_of_read it hopened hcursor h
  refine ⟨readFailure e, ?_, reports_ofStore nextLocation _ e⟩
  rw [hnext]

/-- Reading into a place gives no failure, but the iterator has the error. -/
theorem next_of_read {it : DocumentIterator γ} (out : α) (hopened : it.state = .opened)
    (hcursor : it.cursor = some cursor) (h : (read (α := α) alive cursor).1 = .error e) :
    ∃ it', it.next alive out = (false, out, it') ∧ it'.state = .failed ∧ it'.error = some e := by
  obtain ⟨it', hnext, hstate, herror⟩ := tryNext_of_read it hopened hcursor h
  refine ⟨it', ?_, hstate, herror⟩
  rw [next, hnext]

theorem tells_close {it : DocumentIterator γ} (hcursor : it.cursor = some cursor)
    (h : (Cursor.close alive cursor).1 = .error e) : Tells .internal e (it.close alive).1 := by
  refine ⟨closeFailure e, ?_, reports_ofStore closeLocation _ e⟩
  rw [close, release, hcursor]
  dsimp only
  rw [h]
  rfl

theorem take_of_done (n : Nat) (it : DocumentIterator γ) :
    (Documents.take (α := α) alive n ⟨it, true⟩).1 = [] := by
  cases n <;> rfl

/-- A view gives the documents before the read that fails, and then the failure. -/
theorem take_of_failsAfter {vs : List α} (h : FailsAfter alive e vs cursor) (context : Context)
    {n : Nat} (hn : vs.length < n) :
    (Documents.take alive n ⟨ofCursor cursor context, false⟩).1 =
      vs.map .ok ++ [.error (readFailure e)] := by
  induction h generalizing n with
  | @here cursor h =>
    obtain ⟨n, rfl⟩ : ∃ k, n = k + 1 := ⟨n - 1, by omega⟩
    obtain ⟨it', hnext, -, -⟩ := tryNext_of_read (ofCursor cursor context) rfl rfl h
    have hview : Documents.next (α := α) alive ⟨ofCursor cursor context, false⟩ =
        (some (.error (readFailure e)), ⟨it', true⟩) := by
      rw [Documents.next, if_neg Bool.false_ne_true, hnext]
    rw [Documents.take, hview]
    exact congrArg (List.cons _) (take_of_done n it')
  | @later v vs cursor next h hrest ih =>
    obtain ⟨n, rfl⟩ : ∃ k, n = k + 1 := ⟨n - 1, by omega⟩
    have hview : Documents.next alive ⟨ofCursor cursor context, false⟩ =
        (some (.ok v), ⟨ofCursor next context, false⟩) := by
      rw [Documents.next, if_neg Bool.false_ne_true, tryNext_ofCursor h context]
    rw [Documents.take, hview]
    exact congrArg (List.cons _) (ih (Nat.lt_of_succ_lt_succ hn))

end DocumentIterator

namespace Collection

variable {c : Collection} {s t : Host} {kind : FailureKind} {criteria : Expression}
  {options : List QueryOption}

theorem tells_call {action : StoreAction β} {failure : StoreError → Failure} (location : String)
    (filter : Option Document) (h : (action.on s).1 = .error e) (hfailure : (failure e).Reports kind e) :
    Tells kind e ((c.call location filter action failure).on s).1 := by
  obtain ⟨t, hcall, -⟩ := c.call_on location filter action failure s
  refine ⟨failure e, ?_, hfailure⟩
  rw [hcall, h]
  rfl

theorem tells_bind {x : Action β} (h : Tells kind e (x.on s).1) (f : β → Action γ) :
    Tells kind e ((x >>= f).on s).1 := by
  obtain ⟨failure, hx, hreports⟩ := h
  refine ⟨failure, ?_, hreports⟩
  rw [Action.on_bind]
  rcases hanswer : x.on s with ⟨answer, t⟩
  rw [hanswer] at hx
  cases hx
  rfl

/-! Operations that are given an expression. -/

variable [Regex.Engine]

theorem tells_count (h : ((Host.count c.context c.session c.name criteria.toFilter).on s).1 = .error e) :
    Tells .internal e ((c.count criteria).on s).1 :=
  tells_call countLocation (some criteria.toFilter) h
    ((reports_ofStore countLocation "unable to count documents" e).under [.detail _])

theorem tells_hardDelete
    (h : ((Host.delete c.context c.session c.name criteria.toFilter).on s).1 = .error e) :
    Tells .internal e ((c.hardDelete criteria).on s).1 :=
  tells_call hardDeleteLocation (some criteria.toFilter) h
    ((reports_ofStore hardDeleteLocation "unable to delete documents" e).under [.detail _])

theorem tells_load {α : Type} [Decodable α]
    (h : ((Host.findOne c.context c.session c.name criteria.toFilter
      (QueryOption.toFindOneOptions options)).on s).1 = .error e) :
    Tells .internal e ((c.load (α := α) criteria options).on s).1 :=
  tells_bind (tells_call loadLocation (some criteria.toFilter) h
    ((reports_ofStore loadLocation "unable to load document" e).under [.detail _])) _

theorem tells_iterate (h : ((Host.find c.context c.session c.name criteria.toFilter
      (QueryOption.toFindOptions options)).on s).1 = .error e) :
    Tells .internal e ((c.iterate criteria options).on s).1 :=
  tells_bind (tells_call iterateLocation (some criteria.toFilter) h
    ((reports_ofStore iterateLocation "unable to start query" e).under [.details _])) _

/-! Queries, which read a cursor to its end. -/

section Queries

variable {γ α : Type} [Cursor γ] [Decodable α]

/-- A query that reads a cursor of any kind, for as long as its fuel lasts. -/
def queryFrom (c : Collection) (search : StoreAction γ) (fuel : γ → Nat) (criteria : Expression)
    (options : List QueryOption) : Action (List α) :=
  ExceptT.mk (c.timed queryLocation (some criteria.toFilter) do
    match ← search with
    | .error e => return .error (queryFailure α criteria options e)
    | .ok cursor =>
      let rows : Except Failure (List α) :=
        (DocumentIterator.ofCursor cursor c.context).readAll (← c.alive) (fuel cursor)
      return rows.mapError (readingFailure α criteria options))

theorem query_eq_queryFrom (c : Collection) (criteria : Expression) (options : List QueryOption) :
    c.query (α := α) criteria options = c.queryFrom
      (Host.find c.context c.session c.name criteria.toFilter (QueryOption.toFindOptions options))
      (fun cursor => cursor.remaining + 1) criteria options := by
  let found : StateM Host (Except StoreError RowCursor) :=
    Host.find c.context c.session c.name criteria.toFilter (QueryOption.toFindOptions options)
  refine congrArg (fun read => ExceptT.mk (c.timed queryLocation (some criteria.toFilter)
    (found >>= read))) (funext fun answer => ?_)
  cases answer <;> rfl

omit [Regex.Engine] in
theorem queryFrom_on_fst (c : Collection) (search : StoreAction γ) (fuel : γ → Nat)
    (criteria : Expression) (options : List QueryOption) (s : Host) :
    ((c.queryFrom (α := α) search fuel criteria options).on s).1 =
      match search.on s with
      | (.ok cursor, t) =>
        ((DocumentIterator.ofCursor cursor c.context).readAll (c.context.check t.timeline)
          (fuel cursor)).mapError (readingFailure α criteria options)
      | (.error e, _) => .error (queryFailure α criteria options e) := by
  refine (timed_run_fst c s queryLocation (some criteria.toFilter) _).trans ?_
  rcases hsearch : search.on s with ⟨e | cursor, t⟩
  all_goals
    rw [StateT.run_bind, show StateT.run search s = _ from hsearch]
    rfl

omit [Regex.Engine] in
theorem tells_queryFrom_search {search : StoreAction γ} (fuel : γ → Nat)
    (h : (search.on s).1 = .error e) :
    Tells .internal e ((c.queryFrom (α := α) search fuel criteria options).on s).1 := by
  refine ⟨queryFailure α criteria options e, ?_, ?_⟩
  · rw [queryFrom_on_fst]
    rcases hsearch : search.on s with ⟨answer, t⟩
    rw [hsearch] at h
    cases h
    rfl
  · exact (reports_ofStore queryLocation "unable to execute query" e).under [.details _]

omit [Regex.Engine] in
theorem tells_queryFrom_read {search : StoreAction γ} {fuel : γ → Nat} {cursor : γ} {vs : List α}
    (h : search.on s = (.ok cursor, t))
    (hfails : DocumentIterator.FailsAfter (c.context.check t.timeline) e vs cursor)
    (hfuel : vs.length < fuel cursor) :
    Tells .internal e ((c.queryFrom (α := α) search fuel criteria options).on s).1 := by
  refine ⟨readingFailure α criteria options (DocumentIterator.readFailure e), ?_, ?_⟩
  · rw [queryFrom_on_fst, h]
    dsimp only
    rw [DocumentIterator.readAll_of_failsAfter hfails c.context hfuel]
    rfl
  · exact (reports_ofStore DocumentIterator.nextLocation _ e).under [.wrap _ _, .details _]

end Queries

/-! Operations that are given an object. -/

section Objects

variable {α : Type} [PersistentObject α] {object : α} {note : String}

/-- The call of the store that an object is written with fails. -/
inductive WriteFails (c : Collection) (s : Host) (e : StoreError) : Bool → α → Prop where
  | insert {object : α} {d : Document} (henc : encode object = .ok d)
    (h : ((Host.insert c.context c.session c.name d).on s).1 = .error e) :
    WriteFails c s e true object
  | replace {object : α} {id : ObjectId} {d : Document}
    (hstrategy : c.settings.strategy = .replace) (hid : ObjectId.ofHex? (identity object) = some id)
    (henc : encode object = .ok d)
    (h : ((Host.replace c.context c.session c.name [("_id", .objectId id)] d).on s).1 = .error e) :
    WriteFails c s e false object
  | update {object : α} {id : ObjectId} {d : Document}
    (hstrategy : c.settings.strategy = .guardedUpdate)
    (hid : ObjectId.ofHex? (identity object) = some id) (henc : encode object = .ok d)
    (h : ((Host.update c.context c.session c.name
      [("_id", .objectId id), (Journal.deleteDatePath, .int64 0)]
      [("$set", .document (d.erase "_id"))]).on s).1 = .error e) :
    WriteFails c s e false object

theorem tells_put {isNew : Bool} (h : c.WriteFails s e isNew object) :
    Tells (writeKind e) e ((c.put isNew object).on s).1 := by
  cases h with
  | @insert _ d henc h =>
    change Tells (writeKind e) e ((c.insertObject object).on s).1
    rw [insertObject, Action.on_bind_of_ok (encodeObject_on henc s)]
    exact tells_bind (tells_call saveLocation none h (reports_ofWrite saveLocation _ e)) _
  | @replace _ id d hstrategy hid henc h =>
    change Tells (writeKind e) e ((c.overwrite object).on s).1
    rw [overwrite, Action.on_bind_of_ok (existingId_on hid s),
      Action.on_bind_of_ok (encodeObject_on henc s), hstrategy]
    exact tells_bind (tells_call saveLocation _ h
      ((reports_ofWrite saveLocation _ e).under [.detail _])) _
  | @update _ id d hstrategy hid henc h =>
    change Tells (writeKind e) e ((c.overwrite object).on s).1
    rw [overwrite, Action.on_bind_of_ok (existingId_on hid s),
      Action.on_bind_of_ok (encodeObject_on henc s), hstrategy]
    exact tells_bind (tells_call saveLocation _ h
      ((reports_ofWrite saveLocation _ e).under [.detail _])) _

variable [LawfulObject α]

theorem tells_save (h : c.WriteFails s e (isNew object) (stamp (clock s) note object)) :
    Tells (writeKind e) e ((c.save object note).run s).1.1 := by
  obtain ⟨f, hput, hreports⟩ := tells_put h
  refine ⟨f, ?_, hreports⟩
  rw [save_run]
  rcases hanswer : (c.put (isNew object) (stamp (clock s) note object)).on s with ⟨answer, t⟩
  rw [hanswer] at hput
  cases hput
  rfl

theorem tells_delete (hnew : isNew object = false)
    (h : c.WriteFails s e false (stamp (clock s) note (marked (clock s) note object))) :
    Tells (writeKind e) e ((c.delete object note).run s).1.1 := by
  have hmarked : isNew (marked (clock s) note object) = false :=
    (isNew_modifyJournal _ object).trans hnew
  rw [← hmarked] at h
  obtain ⟨f, hsave, hreports⟩ := tells_save h
  rcases hrun : (c.save (marked (clock s) note object) note).run s with ⟨⟨answer, after⟩, t⟩
  rw [hrun] at hsave
  refine ⟨f.wrap deleteLocation "unable to delete object", ?_, hreports.under [.wrap _ _]⟩
  rw [delete_run_of_save hnew hrun]
  cases hsave
  rfl

end Objects

end Collection

namespace Server

variable {m : Type → Type} [Monad m] [LawfulMonad m] {β : Type} {s t u : Host} {n : SessionNumber}

theorem reports_commitFailure (e : StoreError) : (commitFailure e).Reports .internal e :=
  (reports_ofStore transactionLocation "unable to commit transaction" e).under [.detail _]

theorem finish_of_commit {value : β} (h : ((Host.commitTransaction n).on s).1 = .error e) :
    (finish n (.returned value) s).1 = .failed (commitFailure e) := by
  rw [finish, conclude_run]
  rcases hcommit : (Host.commitTransaction n).on s with ⟨answer, t⟩
  rw [hcommit] at h
  cases h
  rfl

end Server

/-- What a reader of a cursor learns when a read fails, be it that the cursor fails or that it has no
document that can be decoded. -/
structure DocumentIterator.Told (γ α : Type) [Cursor γ] [Decodable α]
    (alive : Except StoreError Unit) (e : StoreError) : Prop where
  advance : ∀ cursor : γ, (Cursor.advance alive cursor).1 = .error e →
    (read (α := α) alive cursor).1 = .error e
  tryNext : ∀ (it : DocumentIterator γ) (cursor : γ), it.state = .opened →
    it.cursor = some cursor → (read (α := α) alive cursor).1 = .error e →
    Tells .internal e (it.tryNext (α := α) alive).1
  next : ∀ (it : DocumentIterator γ) (cursor : γ) (out : α), it.state = .opened →
    it.cursor = some cursor → (read (α := α) alive cursor).1 = .error e →
    ∃ it', it.next alive out = (false, out, it') ∧ it'.state = .failed ∧ it'.error = some e
  take : ∀ (cursor : γ) (context : Context) (vs : List α) (n : Nat), FailsAfter alive e vs cursor →
    vs.length < n →
    ∃ f, (Documents.take alive n ⟨ofCursor cursor context, false⟩).1 = vs.map .ok ++ [.error f] ∧
      f.Reports .internal e
  close : ∀ (it : DocumentIterator γ) (cursor : γ), it.cursor = some cursor →
    (Cursor.close alive cursor).1 = .error e → Tells .internal e (it.close alive).1

theorem DocumentIterator.told (γ α : Type) [Cursor γ] [Decodable α]
    (alive : Except StoreError Unit) (e : StoreError) : Told γ α alive e where
  advance _ h := read_of_advance h
  tryNext _ _ hopened hcursor h := tells_tryNext hopened hcursor h
  next _ _ out hopened hcursor h := next_of_read out hopened hcursor h
  take _ context _ _ h hn := ⟨_, take_of_failsAfter h context hn, reports_ofStore nextLocation _ e⟩
  close _ _ hcursor h := tells_close hcursor h

/-- What is learnt of an error in a phase of a transaction. All work is followed by the same calls. -/
structure Server.Told (server : Server) {m : Type → Type} [Monad m] {β : Type} (context : Context)
    (work : UnitOfWork → StateT Host m (Outcome β)) (s : Host) (e : StoreError) : Prop where
  startSession : ∀ t, (Host.startSession server.sessionOptions).on s = (.error e, t) →
    ∃ f, (server.withTransaction context work).run s = pure (.failed f, t) ∧ f.Reports .internal e
  startTransaction : ∀ n t u, (Host.startSession server.sessionOptions).on s = (.ok n, t) →
    (Host.startTransaction n server.transactionOptions).on t = (.error e, u) →
    ∃ f, (server.withTransaction context work).run s = pure (.failed f, Host.endSession n u) ∧
      f.Reports .internal e
  work : ∀ n t u, (Host.startSession server.sessionOptions).on s = (.ok n, t) →
    (Host.startTransaction n server.transactionOptions).on t = (.ok (), u) →
    (server.withTransaction context work).run s =
      (work ⟨context, some n, server.settings⟩).run u >>= fun r => pure (finish n r.1 r.2)
  commit : ∀ n w (value : β), ((Host.commitTransaction n).on w).1 = .error e →
    ∃ f, (finish n (.returned value) w).1 = .failed f ∧ f.Reports .internal e

theorem Server.told (server : Server) {m : Type → Type} [Monad m] [LawfulMonad m] {β : Type}
    (context : Context) (work : UnitOfWork → StateT Host m (Outcome β)) (s : Host)
    (e : StoreError) : server.Told context work s e where
  startSession t h := by
    refine ⟨_, ?_, reports_ofStore transactionLocation "unable to start database session" e⟩
    rw [withTransaction_run, h]
  startTransaction n t u hsession h := by
    refine ⟨_, ?_, reports_ofStore transactionLocation "unable to start transaction" e⟩
    rw [withTransaction_run, hsession]
    dsimp only
    rw [h]
  work n t u hsession hbegun := by
    rw [withTransaction_run, hsession]
    dsimp only
    rw [hbegun]
  commit _ _ _ h := ⟨_, finish_of_commit h, reports_commitFailure e⟩

variable [Regex.Engine]

/-- What a caller of a collection learns of an error of the store. -/
structure Collection.Told (c : Collection) (s : Host) (e : StoreError) : Prop where
  count : ∀ criteria : Expression,
    ((Host.count c.context c.session c.name criteria.toFilter).on s).1 = .error e →
    Tells .internal e ((c.count criteria).on s).1
  hardDelete : ∀ criteria : Expression,
    ((Host.delete c.context c.session c.name criteria.toFilter).on s).1 = .error e →
    Tells .internal e ((c.hardDelete criteria).on s).1
  load : ∀ {α : Type} [Decodable α] (criteria : Expression) (options : List QueryOption),
    ((Host.findOne c.context c.session c.name criteria.toFilter
      (QueryOption.toFindOneOptions options)).on s).1 = .error e →
    Tells .internal e ((c.load (α := α) criteria options).on s).1
  iterate : ∀ (criteria : Expression) (options : List QueryOption),
    ((Host.find c.context c.session c.name criteria.toFilter
      (QueryOption.toFindOptions options)).on s).1 = .error e →
    Tells .internal e ((c.iterate criteria options).on s).1
  /-- The search fails, or its cursor does after some documents. -/
  query : ∀ {α : Type} [Decodable α] (criteria : Expression) (options : List QueryOption),
    let search := Host.find c.context c.session c.name criteria.toFilter
      (QueryOption.toFindOptions options)
    ((search.on s).1 = .error e ∨ ∃ cursor t vs, search.on s = (.ok cursor, t) ∧
      DocumentIterator.FailsAfter (α := α) (c.context.check t.timeline) e vs cursor) →
    Tells .internal e ((c.query (α := α) criteria options).on s).1
  /-- A query that reads a cursor of any other kind. -/
  queryFrom : ∀ {γ α : Type} [Cursor γ] [Decodable α] (search : StoreAction γ) (fuel : γ → Nat)
    (criteria : Expression) (options : List QueryOption),
    ((search.on s).1 = .error e ∨ ∃ cursor t vs, search.on s = (.ok cursor, t) ∧
      DocumentIterator.FailsAfter (α := α) (c.context.check t.timeline) e vs cursor ∧
      vs.length < fuel cursor) →
    Tells .internal e ((c.queryFrom (α := α) search fuel criteria options).on s).1
  save : ∀ {α : Type} [PersistentObject α] [LawfulObject α] (object : α) (note : String),
    c.WriteFails s e (isNew object) (stamp (clock s) note object) →
    Tells (writeKind e) e ((c.save object note).run s).1.1
  delete : ∀ {α : Type} [PersistentObject α] [LawfulObject α] (object : α) (note : String),
    isNew object = false →
    c.WriteFails s e false (stamp (clock s) note (marked (clock s) note object)) →
    Tells (writeKind e) e ((c.delete object note).run s).1.1

theorem Collection.told (c : Collection) (s : Host) (e : StoreError) : c.Told s e where
  count _ h := tells_count h
  hardDelete _ h := tells_hardDelete h
  load _ _ h := tells_load h
  iterate _ _ h := tells_iterate h
  query criteria options := by
    intro search h
    rw [query_eq_queryFrom]
    rcases h with h | ⟨cursor, t, vs, h, hfails⟩
    · exact tells_queryFrom_search _ h
    · have hrows := DocumentIterator.length_le_of_failsAfter hfails
      exact tells_queryFrom_read h hfails (Nat.lt_succ_of_le hrows)
  queryFrom search fuel criteria options h := by
    rcases h with h | ⟨cursor, t, vs, h, hfails, hfuel⟩
    · exact tells_queryFrom_search fuel h
    · exact tells_queryFrom_read h hfails hfuel
  save _ _ h := tells_save h
  delete _ _ hnew h := tells_delete hnew h

/-- Whichever call fails, the failure that the caller sees goes back to its error, is the caller's
fault only if the store rejects the write of a save or of a deletion, and says whether a context has
ended; and nothing of that is lost under more layers. -/
theorem storeErrors_told (e : StoreError) :
    (∀ c s, Collection.Told c s e) ∧
    (∀ (γ α : Type) [Cursor γ] [Decodable α] alive, DocumentIterator.Told γ α alive e) ∧
    (∀ (m : Type → Type) [Monad m] [LawfulMonad m] (β : Type) (server : Server) context
      (work : UnitOfWork → StateT Host m (Outcome β)) s, server.Told context work s e) ∧
    ∀ (f : Failure) (layers : List Failure.Layer),
      (f.under layers).kind = f.kind ∧ (f.under layers).storeError? = f.storeError? ∧
        (f.under layers).isDeadlineExceeded = f.isDeadlineExceeded :=
  ⟨fun c s => c.told s e, fun γ α _ _ alive => DocumentIterator.told γ α alive e,
    fun _ _ _ _ server context work s => server.told context work s e,
    fun f layers => ⟨f.under_kind layers, f.under_storeError? layers,
      f.under_isDeadlineExceeded layers⟩⟩

end

open scoped Regex
open PersistentObject (identity isNew encode)
open Failure (writeKind reports_ofStore reports_ofWrite)

/-- The store rejects the insertion of a new object. -/
theorem storeErrors_told_rejected :
    let rejection : StoreError := .write 11000 "duplicate"
    let c : Collection := ⟨"c", .background, none, {}⟩
    let s : Host :=
      { store := { database := "d", hooks := { failPoints := [⟨.insert, rejection, 1⟩] } },
        timeline := { now := 0 } }
    Tells .badRequest rejection ((c.save (⟨[("_id", .int32 1)], {}⟩ : Record) "note").run s).1.1 := by
  intro rejection c s
  obtain ⟨hcollections, -⟩ := storeErrors_told rejection
  have hinsert : ∀ d, ((Host.insert c.context c.session c.name d).on s).1 = .error rejection :=
    fun d => rfl
  exact (hcollections c s).save _ "note" (.insert rfl (hinsert _))

end DocStore
