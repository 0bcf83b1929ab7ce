import DocStore.Proofs.Collection.Refinement
import DocStore.Proofs.Collection.Streaming
import DocStore.Proofs.Store.Selection
import DocStore.Regex.Default
/-!
What the operations of a collection make of one filter. Counting, reading, loading and removing look for
the matching documents in ways of their own and agree on them; they disagree only on documents that
cannot be decoded, which is seen by those that decode.
-/
namespace DocStore

section

namespace QueryOption

/-- Whether an option limits the rows or puts them in order. -/
def arranges : QueryOption → Bool
  | firstRow | maxRows _ | sort _ _ => true
  | fields _ | caseSensitive _ => false

theorem foldl_apply_arranges (options : List QueryOption) (found : FindOneOptions) :
    (options.filter fun o => !o.arranges).foldl apply
        { projection := found.projection, collation := found.collation } =
      { projection := (options.foldl applyOne found).projection
        collation := (options.foldl applyOne found).collation } := by
  induction options generalizing found with
  | nil => rfl
  | cons o options ih =>
    cases o with
    | firstRow | maxRows | sort => exact ih found
    | fields names => exact ih { found with projection := some (projection names) }
    | caseSensitive sensitive => exact ih { found with collation := some (collation sensitive) }

/-- Options without limits and order mean the same for a search of all rows and for one of a single
row. -/
theorem toFindOptions_arranges (options : List QueryOption) :
    (toFindOptions (options.filter fun o => !o.arranges)).getD {} =
      { projection := ((toFindOneOptions options).getD {}).projection
        collation := ((toFindOneOptions options).getD {}).collation } := by
  have hfirst : (options.filter fun o => !o.arranges).any isFirstRow = false := by
    rw [List.any_eq_false]
    intro o ho
    have hkept := (List.mem_filter.1 ho).2
    cases o <;> simp_all [arranges, isFirstRow]
  have hone : (toFindOneOptions options).getD {} = options.foldl applyOne {} := by
    cases options <;> rfl
  rw [hone, ← foldl_apply_arranges, toFindOptions]
  split
  · rename_i hempty
    rw [List.isEmpty_iff.1 hempty]
    rfl
  · simp [hfirst]

end QueryOption

variable [Regex.Engine]

namespace Host

variable (context : Context) (session : Option SessionNumber) (collection : String) {s : Host}

/-- What a command answers and leaves where no failure is set. -/
theorem issue_on_gate (hpoints : s.store.hooks.failPoints = []) (command : Command) :
    ∃ name fresh t,
      let docs := s.store.ledger.tablesFor session collection
      let outcome := (s.gate context session).bind fun _ => command.run name fresh docs
      (issue context session collection command).on s = (outcome.map Prod.fst, t) ∧
        t.store.ledger.tablesFor session collection = (outcome.toOption.map Prod.snd).getD docs := by
  obtain ⟨timeline, hadmission⟩ :=
    admission_on_gate context session hpoints command.operation_ne_disconnect
  rw [issue_on, hadmission]
  have hledger := (sameData_attempted command.operation [] timeline s).ledger
  cases s.gate context session with
  | error e => exact ⟨default, default, _, rfl, congrArg (fun l => l.tablesFor session collection) hledger⟩
  | ok u =>
    obtain ⟨hanswer, hleft⟩ := carryOut_run session collection command
      ((s.attempted command.operation).later [] timeline)
    rw [hledger] at hanswer hleft
    exact ⟨_, _, _, Prod.ext hanswer rfl, hleft⟩

theorem find_on_fst (hpoints : s.store.hooks.failPoints = []) (filter : Document)
    (options : Option FindOptions) :
    ((Host.find context session collection filter options).on s).1 =
      ((s.gate context session).bind fun _ => Table.find filter (options.getD {})
        (s.store.ledger.tablesFor session collection)).map
          fun rows => .ofRows s.store.batchSize rows := by
  obtain ⟨name, fresh, t, hissue, -⟩ :=
    issue_on_gate context session collection hpoints (.find filter (options.getD {}))
  rcases hfind : (Host.find context session collection filter options).on s with ⟨e | cursor, u⟩
  · rw [find_eq_issue, StoreAction.on_bind, hissue] at hfind
    cases hgate : s.gate context session with
    | error e' => rw [hgate] at hfind; cases hfind; rfl
    | ok v =>
      rw [hgate] at hfind
      simp only [Except.bind, Command.run] at hfind ⊢
      cases hrows : Table.find filter (options.getD {}) (s.store.ledger.tablesFor session collection)
      · rw [hrows] at hfind; cases hfind; rfl
      · rw [hrows] at hfind; cases hfind
  · obtain ⟨-, rows, rfl, hrows⟩ := find_on_ok hfind
    rw [find_eq_issue, StoreAction.on_bind, hissue] at hfind
    cases hgate : s.gate context session with
    | error e' => rw [hgate] at hfind; cases hfind
    | ok v => simp only [Except.bind, hrows]; rfl

end Host

namespace Collection

open Host

section Calls

variable {c : Collection} {s : Host}

/-- A command, and what is read of its reply, where no failure is set. -/
theorem action_on_gate (hpoints : s.store.hooks.failPoints = []) (command : Command)
    (read : Reply → β) {action : StoreAction β}
    (haction : action = issue c.context c.session c.name command >>= fun reply => pure (read reply)) :
    ∃ name fresh,
      let outcome := (s.gate c.context c.session).bind fun _ => command.run name fresh (c.shown s)
      (action.on s).1 = outcome.map (fun p => read p.1) ∧
        c.shown (action.on s).2 = (outcome.toOption.map Prod.snd).getD (c.shown s) := by
  obtain ⟨name, fresh, t, hissue, hleft⟩ :=
    issue_on_gate c.context c.session c.name hpoints command
  have hshown : s.store.ledger.tablesFor c.session c.name = c.shown s := rfl
  rw [hshown] at hissue hleft
  refine ⟨name, fresh, ?_⟩
  rw [haction, StoreAction.on_bind, hissue]
  dsimp only at hleft ⊢
  generalize (s.gate c.context c.session).bind _ = outcome at hleft ⊢
  cases outcome with
  | error e => exact ⟨rfl, hleft⟩
  | ok p => exact ⟨rfl, hleft⟩

/-- Being timed changes nothing in that. -/
theorem call_on_gate (hpoints : s.store.hooks.failPoints = []) (command : Command)
    (read : Reply → β) {action : StoreAction β}
    (haction : action = issue c.context c.session c.name command >>= fun reply => pure (read reply))
    (location : String) (filter : Option Document) (failure : StoreError → Failure) :
    ∃ name fresh,
      let outcome := (s.gate c.context c.session).bind fun _ => command.run name fresh (c.shown s)
      let call := (c.call location filter action failure).on s
      call.1 = (outcome.map fun p => read p.1).mapError failure ∧
        c.shown call.2 = (outcome.toOption.map Prod.snd).getD (c.shown s) := by
  obtain ⟨name, fresh, hanswer, hleft⟩ := action_on_gate hpoints command read haction
  obtain ⟨u, hcall, hsame, -⟩ := c.call_on location filter action failure s
  refine ⟨name, fresh, ?_, ?_⟩
  · rw [hcall, hanswer]
  · rw [hcall, ← hleft]
    exact congrArg (fun l => l.tablesFor c.session c.name) hsame.ledger

end Calls

section Answers

variable (α : Type) [Decodable α] (c : Collection) (criteria : Expression)
  (options : List QueryOption) (s : Host)

def countFailure (e : StoreError) : Failure :=
  (Failure.ofStore countLocation "unable to count documents" e).withDetail
    (filterDetail criteria.toFilter)

def hardDeleteFailure (e : StoreError) : Failure :=
  (Failure.ofStore hardDeleteLocation "unable to delete documents" e).withDetail
    (filterDetail criteria.toFilter)

def loadFailure (e : StoreError) : Failure :=
  (Failure.ofStore loadLocation "unable to load document" e).withDetail
    (filterDetail criteria.toFilter)

def notLoaded : Failure :=
  (Failure.notFound loadLocation "document not found").withDetail (filterDetail criteria.toFilter)

/-- What a load makes of the document that it has found. -/
def loaded : Option Document → Except Failure α
  | none => .error (notLoaded criteria)
  | some d =>
    match Decodable.decode d with
    | .ok v => .ok v
    | .error reason =>
      .error (((Failure.internal loadLocation "unable to decode document").withDetails
        ["target: " ++ Decodable.target α, filterDetail criteria.toFilter]).withCause
          (.external reason))

/-- The matching documents, if a command that looks for them is let through and the filter gives a
verdict on every document. -/
def matching (rule : CaseRule) : Except StoreError (List Document) :=
  (s.gate c.context c.session).bind fun _ => Table.select rule criteria.toFilter (c.shown s)

theorem query_on_gate (hpoints : s.store.hooks.failPoints = []) :
    ((c.query (α := α) criteria options).on s).1 =
      match (s.gate c.context c.session).bind fun _ => c.found criteria options s with
      | .ok rows => (decodeAll rows).mapError (readingFailure α criteria options)
      | .error e => .error (queryFailure α criteria options e) := by
  have hfound := find_on_fst c.context c.session c.name hpoints criteria.toFilter
    (QueryOption.toFindOptions options)
  change _ = ((s.gate c.context c.session).bind fun _ => c.found criteria options s).map _ at hfound
  obtain ⟨e, hiterate, hquery⟩ | ⟨rows, -, hiterate, hquery⟩ := c.iterate_query α criteria options s
  all_goals
    rw [iterate_on_fst, hfound] at hiterate
    rw [hquery]
    generalize (s.gate c.context c.session).bind _ = picked at hiterate ⊢
  · cases picked with
    | ok rows => cases hiterate
    | error e' =>
      have hfailure := Except.error.inj hiterate
      cases hfailure
      rfl
  · cases picked with
    | ok rows' =>
      have hrows : rows' = rows :=
        congrArg (fun it => it.cursor.elim [] RowCursor.pending) (Except.ok.inj hiterate)
      rw [hrows]
    | error e => cases hiterate

theorem count_on_gate (hpoints : s.store.hooks.failPoints = []) :
    ((c.count criteria).on s).1 =
      ((c.matching criteria s .exact).map List.length).mapError (countFailure criteria) := by
  obtain ⟨name, fresh, hanswer, -⟩ := call_on_gate (c := c) hpoints (.count criteria.toFilter)
    Reply.count (count_eq_issue _ _ _ _) countLocation (some criteria.toFilter) (countFailure criteria)
  refine hanswer.trans (congrArg _ ?_)
  rw [matching]
  cases s.gate c.context c.session with
  | error e => rfl
  | ok u =>
    simp only [Except.bind, Command.run]
    cases Table.select .exact criteria.toFilter (c.shown s) <;> rfl

/-- A removal answers and leaves what is left, or finds a fault and leaves everything. -/
theorem hardDelete_on_gate (hpoints : s.store.hooks.failPoints = []) :
    ((c.hardDelete criteria).on s).1 =
        ((c.matching criteria s .exact).map List.length).mapError (hardDeleteFailure criteria) ∧
      c.shown ((c.hardDelete criteria).on s).2 =
        if (c.matching criteria s .exact).isOk then
          (c.shown s).filter fun d => !d.meets criteria.toFilter
        else c.shown s := by
  obtain ⟨name, fresh, hanswer, hleft⟩ := call_on_gate (c := c) hpoints (.delete criteria.toFilter)
    Reply.count (delete_eq_issue _ _ _ _) hardDeleteLocation (some criteria.toFilter)
    (hardDeleteFailure criteria)
  refine ⟨hanswer.trans (congrArg _ ?_), hleft.trans ?_⟩
  all_goals
    rw [matching]
    cases s.gate c.context c.session with
    | error e => rfl
    | ok u =>
      simp only [Except.bind, Command.run_delete]
      cases Table.select .exact criteria.toFilter (c.shown s) <;> rfl

/-- A load decodes the first match, after the projection of its options. -/
theorem load_on_gate (hpoints : s.store.hooks.failPoints = []) :
    let found := (QueryOption.toFindOneOptions options).getD {}
    ((c.load (α := α) criteria options).on s).1 =
      match (s.gate c.context c.session).bind fun _ =>
        Table.splitFirst (Collation.caseRule found.collation) criteria.toFilter [] (c.shown s) with
      | .ok first => loaded α criteria (first.map fun p => Table.shape found.projection p.2.1)
      | .error e => .error (loadFailure criteria e) := by
  intro found
  obtain ⟨name, fresh, hanswer, -⟩ := call_on_gate (c := c) hpoints
    (.findOne criteria.toFilter found) Reply.document (findOne_eq_issue _ _ _ _ _) loadLocation
    (some criteria.toFilter) (loadFailure criteria)
  have hload : (c.load (α := α) criteria options).on s = _ := Action.on_bind (c.call loadLocation
    (some criteria.toFilter) (Host.findOne c.context c.session c.name criteria.toFilter
      (QueryOption.toFindOneOptions options)) (loadFailure criteria)) _ s
  rw [hload, Action.on_eq_of_fst hanswer]
  cases s.gate c.context c.session with
  | error e => rfl
  | ok u =>
    simp only [Except.bind, Command.run_findOne, Table.findOne_eq]
    rcases Table.splitFirst (Collation.caseRule found.collation) criteria.toFilter [] (c.shown s) with
      e | (_ | ⟨before, d, after⟩)
    · rfl
    · rfl
    · simp only [Except.map, Except.mapError, Option.map_some, Reply.document, loaded]
      cases (Decodable.decode (Table.shape found.projection d) : Except String α) <;> rfl

/-- What a load gives that may choose from some values. -/
def firstOf {α : Type} (criteria : Expression) : List α → Except Failure α
  | [] => .error (notLoaded criteria)
  | v :: _ => .ok v

omit [Regex.Engine] in
/-- The first of the documents that are decoded is the one that a load decodes. -/
theorem loaded_head?_of_decodeAll {rows : List Document} {vs : List α} (h : decodeAll rows = .ok vs) :
    loaded α criteria rows.head? = firstOf criteria vs := by
  cases rows with
  | nil => cases h; rfl
  | cons d rest =>
    rw [decodeAll] at h
    simp only [List.head?_cons, loaded]
    cases hdecode : (Decodable.decode d : Except String α) with
    | error reason => rw [hdecode] at h; cases h
    | ok v =>
      rw [hdecode] at h
      cases hrest : decodeAll (α := α) rest <;> rw [hrest] at h <;> cases h
      rfl

end Answers

end Collection

namespace Collection

open Host

variable (c : Collection) (criteria : Expression) (s : Host)

/-- A replacement and an update of the first match leave all other documents as they are. -/
structure Rewrites (before : List Document) (old : Document) (after : List Document) : Prop where
  firstMatch : Table.FirstMatch .exact criteria.toFilter (c.shown s) before old after
  replaced : ∀ replacement,
    let call := (Host.replace c.context c.session c.name criteria.toFilter replacement).on s
    (call.1 = .error Table.alteredIdentity ∧ c.shown call.2 = c.shown s) ∨
      ∃ modified, call.1 = .ok ⟨1, modified⟩ ∧
        c.shown call.2 = before ++ Table.successor old replacement :: after
  updated : ∀ changes,
    let call := (Host.update c.context c.session c.name criteria.toFilter changes).on s
    (∃ e, old.applyUpdate changes = .error e ∧ call.1 = .error e ∧ c.shown call.2 = c.shown s) ∨
      ∃ next changed, old.applyUpdate changes = .ok (next, changed) ∧
        call.1 = .ok ⟨1, if changed then 1 else 0⟩ ∧ c.shown call.2 = before ++ next :: after

/-- A replacement and an update find nothing to work on. -/
structure Passes : Prop where
  replaced : ∀ replacement,
    let call := (Host.replace c.context c.session c.name criteria.toFilter replacement).on s
    call.1 = .ok {} ∧ c.shown call.2 = c.shown s
  updated : ∀ changes,
    let call := (Host.update c.context c.session c.name criteria.toFilter changes).on s
    call.1 = .ok {} ∧ c.shown call.2 = c.shown s

/-- All operations work on the same matching documents. -/
structure Selects (rows : List Document) : Prop where
  rows_eq : rows = (c.shown s).filter fun d => d.meets criteria.toFilter
  count : ((c.count criteria).on s).1 = .ok rows.length
  load : ((c.load (α := Document) criteria []).on s).1 = loaded Document criteria rows.head?
  rewrites : ∀ d more, rows = d :: more → ∃ before after, c.Rewrites criteria s before d after
  passes : rows = [] → c.Passes criteria s
  hardDelete : ((c.hardDelete criteria).on s).1 = .ok rows.length
  left : c.shown ((c.hardDelete criteria).on s).2 =
    (c.shown s).filter fun d => !d.meets criteria.toFilter
  /-- While the context goes on, nothing is left to be counted. -/
  recount : (∀ now, s.timeline.now ≤ now → c.context.check { s.timeline with now } = .ok ()) →
    ((c.count criteria).on ((c.hardDelete criteria).on s).2).1 = .ok 0

/-- All operations meet the same error, but for a load that finds a match before it. -/
structure Refuses (e : StoreError) : Prop where
  count : ((c.count criteria).on s).1 = .error (countFailure criteria e)
  hardDelete : ((c.hardDelete criteria).on s).1 = .error (hardDeleteFailure criteria e)
  left : c.shown ((c.hardDelete criteria).on s).2 = c.shown s
  load : ((c.load (α := Document) criteria []).on s).1 = .error (loadFailure criteria e) ∨
    ∃ before d after, Table.FirstMatch .exact criteria.toFilter (c.shown s) before d after ∧
      (∃ x ∈ after, x.matchesFilter .exact criteria.toFilter = .error e) ∧
      ((c.load (α := Document) criteria []).on s).1 = loaded Document criteria (some d)

variable {c criteria s}

theorem matching_eq_ok {rule : CaseRule} {rows : List Document}
    (h : c.matching criteria s rule = .ok rows) :
    (∃ u, s.gate c.context c.session = .ok u) ∧
      Table.select rule criteria.toFilter (c.shown s) = .ok rows := by
  obtain ⟨u, hgate, hselect⟩ := exists_of_bind_eq_ok h
  exact ⟨⟨u, hgate⟩, hselect⟩

/-- What a replacement answers and leaves that is let through. -/
theorem replace_on_gate (criteria : Expression) (hpoints : s.store.hooks.failPoints = []) {u : Unit}
    (hgate : s.gate c.context c.session = .ok u) (replacement : Document) :
    let outcome := Table.replace criteria.toFilter replacement (c.shown s)
    let call := (Host.replace c.context c.session c.name criteria.toFilter replacement).on s
    call.1 = outcome.map Prod.fst ∧
      c.shown call.2 = (outcome.toOption.map Prod.snd).getD (c.shown s) := by
  obtain ⟨name, fresh, hanswer, hleft⟩ := action_on_gate (c := c) hpoints
    (.replace criteria.toFilter replacement) Reply.result (replace_eq_issue _ _ _ _ _)
  rw [hgate] at hanswer hleft
  simp only [Except.bind, Command.run_replace] at hanswer hleft
  refine ⟨hanswer.trans ?_, hleft.trans ?_⟩
  all_goals cases Table.replace criteria.toFilter replacement (c.shown s) <;> rfl

/-- What an update answers and leaves that is let through. -/
theorem update_on_gate (criteria : Expression) (hpoints : s.store.hooks.failPoints = []) {u : Unit}
    (hgate : s.gate c.context c.session = .ok u) (changes : Document) :
    let outcome := Table.update criteria.toFilter changes (c.shown s)
    let call := (Host.update c.context c.session c.name criteria.toFilter changes).on s
    call.1 = outcome.map Prod.fst ∧
      c.shown call.2 = (outcome.toOption.map Prod.snd).getD (c.shown s) := by
  obtain ⟨name, fresh, hanswer, hleft⟩ := action_on_gate (c := c) hpoints
    (.update criteria.toFilter changes) Reply.result (update_eq_issue _ _ _ _ _)
  rw [hgate] at hanswer hleft
  simp only [Except.bind, Command.run_update] at hanswer hleft
  refine ⟨hanswer.trans ?_, hleft.trans ?_⟩
  all_goals cases Table.update criteria.toFilter changes (c.shown s) <;> rfl

theorem rewrites_of_firstMatch (hpoints : s.store.hooks.failPoints = []) {u : Unit}
    (hgate : s.gate c.context c.session = .ok u) {before after : List Document} {old : Document}
    (hfirst : Table.FirstMatch .exact criteria.toFilter (c.shown s) before old after) :
    c.Rewrites criteria s before old after where
  firstMatch := hfirst
  replaced replacement := by
    obtain ⟨hanswer, hleft⟩ := replace_on_gate criteria hpoints hgate replacement
    obtain hreplace | ⟨modified, hreplace⟩ := hfirst.replace_eq replacement
    · rw [hreplace] at hanswer hleft
      exact .inl ⟨hanswer, hleft⟩
    · rw [hreplace] at hanswer hleft
      exact .inr ⟨modified, hanswer, hleft⟩
  updated changes := by
    obtain ⟨hanswer, hleft⟩ := update_on_gate criteria hpoints hgate changes
    rw [hfirst.update_eq] at hanswer hleft
    cases hnext : old.applyUpdate changes with
    | error e =>
      rw [hnext] at hanswer hleft
      exact .inl ⟨e, rfl, hanswer, hleft⟩
    | ok next =>
      rw [hnext] at hanswer hleft
      exact .inr ⟨next.1, next.2, rfl, hanswer, hleft⟩

theorem passes_of_matching (hpoints : s.store.hooks.failPoints = [])
    (h : c.matching criteria s .exact = .ok []) : c.Passes criteria s := by
  obtain ⟨⟨u, hgate⟩, hselect⟩ := matching_eq_ok h
  have hnone := Table.splitFirst_of_select_nil hselect []
  constructor
  · intro replacement
    have hreplace : Table.replace criteria.toFilter replacement (c.shown s) = .ok ({}, c.shown s) := by
      rw [Table.replace, hnone]
      rfl
    obtain ⟨hanswer, hleft⟩ := replace_on_gate criteria hpoints hgate replacement
    rw [hreplace] at hanswer hleft
    exact ⟨hanswer, hleft⟩
  · intro changes
    have hupdate : Table.update criteria.toFilter changes (c.shown s) = .ok ({}, c.shown s) := by
      rw [Table.update, hnone]
      rfl
    obtain ⟨hanswer, hleft⟩ := update_on_gate criteria hpoints hgate changes
    rw [hupdate] at hanswer hleft
    exact ⟨hanswer, hleft⟩

/-- A load gives the first of the matching documents. -/
theorem load_of_matching (α : Type) [Decodable α] (options : List QueryOption)
    (hpoints : s.store.hooks.failPoints = []) {rows : List Document}
    (h : c.matching criteria s
      (Collation.caseRule ((QueryOption.toFindOneOptions options).getD {}).collation) = .ok rows) :
    ((c.load (α := α) criteria options).on s).1 = loaded α criteria
      (rows.map (Table.shape ((QueryOption.toFindOneOptions options).getD {}).projection)).head? := by
  obtain ⟨⟨u, hgate⟩, hselect⟩ := matching_eq_ok h
  rw [c.load_on_gate α criteria options s hpoints, hgate]
  cases rows with
  | nil =>
    simp only [Except.bind, Table.splitFirst_of_select_nil hselect]
    rfl
  | cons d more =>
    obtain ⟨before, after, hfirst⟩ := Table.firstMatch_of_select hselect
    simp only [Except.bind, hfirst.splitFirst_eq]
    rfl

theorem selects_of_matching (hpoints : s.store.hooks.failPoints = []) {rows : List Document}
    (h : c.matching criteria s .exact = .ok rows) : c.Selects criteria s rows := by
  obtain ⟨⟨u, hgate⟩, hselect⟩ := matching_eq_ok h
  obtain ⟨hremoved, hleft⟩ := c.hardDelete_on_gate criteria s hpoints
  rw [h] at hremoved hleft
  have hload := load_of_matching Document [] hpoints h
  have hshape : rows.map (Table.shape none) = rows := List.map_id rows
  refine {
    rows_eq := (Table.select_eq_ok_iff.1 hselect).2
    count := by rw [c.count_on_gate criteria s hpoints, h]; rfl
    load := by rw [← hshape]; exact hload
    rewrites := ?_
    passes := ?_
    hardDelete := hremoved
    left := hleft
    recount := ?_ }
  · rintro d more rfl
    obtain ⟨before, after, hfirst⟩ := Table.firstMatch_of_select hselect
    exact ⟨before, after, rewrites_of_firstMatch hpoints hgate hfirst⟩
  · rintro rfl
    exact passes_of_matching hpoints h
  · intro halive
    obtain ⟨hconnected, hended⟩ := of_gate_eq_ok hgate
    have hholds : c.Holds (c.shown s) s := ⟨⟨hconnected, hpoints, halive⟩, hended, rfl⟩
    obtain ⟨name, fresh, -, hkept⟩ := hholds.call_on (.delete criteria.toFilter) Reply.count
      (delete_eq_issue _ _ _ _) hardDeleteLocation (some criteria.toFilter)
      (hardDeleteFailure criteria)
    rw [Command.run_delete, hselect] at hkept
    obtain ⟨name, fresh, hcounted, -⟩ := hkept.call_on (.count criteria.toFilter) Reply.count
      (count_eq_issue _ _ _ _) countLocation (some criteria.toFilter) (countFailure criteria)
    dsimp only [Except.map, Except.toOption, Option.map_some, Option.getD_some] at hcounted
    rw [Command.run_count, Table.select_removed hselect] at hcounted
    exact hcounted

theorem refuses_of_matching (hpoints : s.store.hooks.failPoints = []) {e : StoreError}
    (h : c.matching criteria s .exact = .error e) : c.Refuses criteria s e := by
  obtain ⟨hremoved, hleft⟩ := c.hardDelete_on_gate criteria s hpoints
  rw [h] at hremoved hleft
  refine ⟨by rw [c.count_on_gate criteria s hpoints, h]; rfl, hremoved, hleft, ?_⟩
  have hrule : Collation.caseRule ((QueryOption.toFindOneOptions []).getD {}).collation = .exact := rfl
  rw [c.load_on_gate Document criteria [] s hpoints, hrule]
  rw [matching] at h
  cases hgate : s.gate c.context c.session with
  | error e' =>
    rw [hgate] at h
    cases h
    exact .inl rfl
  | ok u =>
    rw [hgate] at h
    simp only [Except.bind]
    -- A load stops at its first match, and the fault may only be met behind it.
    obtain hfault | ⟨before, d, after, hfirst, hfault⟩ := Table.splitFirst_of_select_error h []
    · rw [hfault]
      exact .inl rfl
    · rw [hfirst.splitFirst_eq]
      exact .inr ⟨before, d, after, hfirst, hfault, rfl⟩

/-- A search without options finds the matching documents. -/
theorem gate_bind_found_nil :
    ((s.gate c.context c.session).bind fun _ => c.found criteria [] s) =
      c.matching criteria s .exact := by
  have hfind : c.found criteria [] s = Table.select .exact criteria.toFilter (c.shown s) := by
    refine (Table.find_eq none none (c.shown s)).trans ?_
    rw [show Collation.caseRule none = .exact from rfl]
    cases Table.select .exact criteria.toFilter (c.shown s) with
    | error e => rfl
    | ok rows => exact congrArg Except.ok (List.map_id rows)
  rw [hfind, matching]

/-- What a query finds with options without limits and order. -/
theorem gate_bind_found_arranges (options : List QueryOption) :
    let found := (QueryOption.toFindOneOptions options).getD {}
    ((s.gate c.context c.session).bind fun _ =>
        c.found criteria (options.filter fun o => !o.arranges) s) =
      (c.matching criteria s (Collation.caseRule found.collation)).map
        (List.map (Table.shape found.projection)) := by
  intro found
  rw [matching, Collection.found, QueryOption.toFindOptions_arranges, Table.find_eq]
  cases s.gate c.context c.session <;> rfl

omit [Regex.Engine] in
/-- The message of a query tells whether the store failed it. -/
theorem queryFailure_ne_readingFailure (α : Type) [Decodable α] (criteria : Expression)
    (options : List QueryOption) (e : StoreError) (inner : Failure) :
    queryFailure α criteria options e ≠ readingFailure α criteria options inner := by
  intro h
  have hmessage : "unable to execute query" = "unable to read query results" :=
    congrArg Failure.message h
  exact absurd hmessage (by decide)

omit [Regex.Engine] in
theorem readingFailure_inj {α : Type} [Decodable α] {criteria : Expression} {options : List QueryOption}
    {inner inner' : Failure}
    (h : readingFailure α criteria options inner = readingFailure α criteria options inner') :
    inner = inner' :=
  Cause.failure.inj (congrArg Failure.cause h)

/-- A load gives what a query with the same options gives first, without limits and order. -/
theorem load_of_query (α : Type) [Decodable α] (options : List QueryOption)
    (hpoints : s.store.hooks.failPoints = []) {vs : List α}
    (h : ((c.query (α := α) criteria (options.filter fun o => !o.arranges)).on s).1 = .ok vs) :
    ((c.load (α := α) criteria options).on s).1 = firstOf criteria vs := by
  rw [query_on_gate α c criteria _ s hpoints, gate_bind_found_arranges] at h
  cases hmatching : c.matching criteria s
      (Collation.caseRule ((QueryOption.toFindOneOptions options).getD {}).collation) with
  | error e => rw [hmatching] at h; cases h
  | ok rows =>
    rw [hmatching] at h
    change (decodeAll (α := α) (rows.map _)).mapError _ = _ at h
    rw [load_of_matching α options hpoints hmatching]
    apply loaded_head?_of_decodeAll
    revert h
    cases decodeAll (α := α) (rows.map _) with
    | error inner => exact nofun
    | ok vs' => rintro ⟨⟩; rfl

/-- A query either reads all matching documents, or meets an error of the store, or finds one that it
cannot decode. What it gets decides what counting, loading, replacing, updating and removing do with the
same filter. A load with options gives what comes first without limits and order. -/
theorem query_agrees (c : Collection) (criteria : Expression) (s : Host)
    (hpoints : s.store.hooks.failPoints = []) (α : Type) [Decodable α] (options : List QueryOption) :
    let query := ((c.query (α := Document) criteria []).on s).1
    (∀ ds, query = .ok ds → ∃ rows, c.Selects criteria s rows ∧ decodeAll rows = .ok ds ∧
      ((c.count criteria).on s).1 = .ok ds.length ∧
      ((c.load (α := Document) criteria []).on s).1 = firstOf criteria ds ∧
      ((c.hardDelete criteria).on s).1 = .ok ds.length) ∧
    (∀ e, query = .error (queryFailure Document criteria [] e) → c.Refuses criteria s e) ∧
    (∀ inner, query = .error (readingFailure Document criteria [] inner) →
      ∃ rows, c.Selects criteria s rows ∧ decodeAll (α := Document) rows = .error inner) ∧
    ((∃ ds, query = .ok ds) ∨ (∃ e, query = .error (queryFailure Document criteria [] e)) ∨
      ∃ inner, query = .error (readingFailure Document criteria [] inner)) ∧
    ∀ vs, ((c.query (α := α) criteria (options.filter fun o => !o.arranges)).on s).1 = .ok vs →
      ((c.load (α := α) criteria options).on s).1 = firstOf criteria vs := by
  intro query
  have hquery := c.query_on_gate Document criteria [] s hpoints
  rw [gate_bind_found_nil] at hquery
  have hload (vs : List α)
      (hvs : ((c.query (α := α) criteria (options.filter fun o => !o.arranges)).on s).1 = .ok vs) :
      ((c.load (α := α) criteria options).on s).1 = firstOf criteria vs :=
    load_of_query α options hpoints hvs
  -- Whether the documents can be selected decides the first two cases, and decoding the rest.
  cases hmatching : c.matching criteria s .exact with
  | error e =>
    rw [hmatching] at hquery
    have hfailed : query = .error (queryFailure Document criteria [] e) := hquery
    refine ⟨fun ds hds => ?_, fun e' he' => ?_, fun inner hinner => ?_, .inr (.inl ⟨e, hfailed⟩), hload⟩
    · cases hfailed.symm.trans hds
    · cases hfailed.symm.trans he'
      exact refuses_of_matching hpoints hmatching
    · exact absurd (Except.error.inj (hfailed.symm.trans hinner))
        (queryFailure_ne_readingFailure Document criteria [] e inner)
  | ok rows =>
    rw [hmatching] at hquery
    have hread : query = (decodeAll rows).mapError (readingFailure Document criteria []) := hquery
    have hselects := selects_of_matching hpoints hmatching
    cases hdecode : decodeAll (α := Document) rows with
    | error inner =>
      rw [hdecode] at hread
      refine ⟨fun ds hds => ?_, fun e he => ?_, fun inner' hinner => ?_, .inr (.inr ⟨inner, hread⟩), hload⟩
      · cases hread.symm.trans hds
      · exact absurd (Except.error.inj (he.symm.trans hread))
          (queryFailure_ne_readingFailure Document criteria [] e inner)
      · have hinner' := readingFailure_inj (Except.error.inj (hread.symm.trans hinner))
        exact ⟨rows, hselects, hinner' ▸ hdecode⟩
    | ok ds =>
      rw [hdecode] at hread
      refine ⟨fun ds' hds => ?_, fun e he => ?_, fun inner hinner => ?_, .inl ⟨ds, hread⟩, hload⟩
      · cases hread.symm.trans hds
        have hlength := length_of_decodeAll hdecode
        exact ⟨rows, hselects, hdecode, by rw [hselects.count, hlength],
          hselects.load.trans (loaded_head?_of_decodeAll Document criteria hdecode),
          by rw [hselects.hardDelete, hlength]⟩
      · cases hread.symm.trans he
      · cases hread.symm.trans hinner

end Collection

end

open scoped Regex

namespace Collection

open Host

/-- Two of four documents are red. They are counted, the first of them is loaded, and both are removed: the
others are left, and then nothing red is there to be counted. -/
theorem query_agrees_of_some :
    let d : Int32 → String → Document := fun id colour => [("_id", .int32 id), ("colour", .string colour)]
    let c : Collection := ⟨"c", .background, none, {}⟩
    let s : Host :=
      { store := { database := "d", tables :=
          Tables.empty.set "c" [d 1 "blue", d 2 "red", d 3 "green", d 4 "red"] }
        timeline := { now := 0 } }
    let red : Expression := .equal "colour" (.string "red")
    ((c.query (α := Document) red []).on s).1 = .ok [d 2 "red", d 4 "red"] ∧
      ((c.count red).on s).1 = .ok 2 ∧
      ((c.load (α := Document) red []).on s).1 = .ok (d 2 "red") ∧
      ((c.hardDelete red).on s).1 = .ok 2 ∧
      c.shown ((c.hardDelete red).on s).2 = [d 1 "blue", d 3 "green"] ∧
      ((c.count red).on ((c.hardDelete red).on s).2).1 = .ok 0 := by
  intro d c s red
  have hquery : ((c.query (α := Document) red []).on s).1 = .ok [d 2 "red", d 4 "red"] := rfl
  obtain ⟨hread, -⟩ := query_agrees c red s rfl Document []
  obtain ⟨rows, hselects, -, hcount, hload, hdelete⟩ := hread _ hquery
  have hleft : c.shown ((c.hardDelete red).on s).2 =
      (c.shown s).filter fun x => !x.meets red.toFilter := hselects.left
  exact ⟨hquery, hcount, hload, hdelete, hleft, hselects.recount fun _ _ => rfl⟩

/-- A document with a tag that means nothing cannot be read, but it is counted and removed. -/
theorem undecodable_counted :
    let c : Collection := ⟨"c", .background, none, {}⟩
    let s : Host :=
      { store := { database := "d", tables :=
          Tables.empty.set "c" [[("_id", .int32 1), ("a", .document [("$oid", .string "xyz")])]] }
        timeline := { now := 0 } }
    ((c.query (α := Document) .everything []).on s).1.isOk = false ∧
      ((c.count .everything).on s).1 = .ok 1 ∧ ((c.hardDelete .everything).on s).1 = .ok 1 :=
  ⟨by decide +kernel, rfl, rfl⟩

end Collection

end DocStore
