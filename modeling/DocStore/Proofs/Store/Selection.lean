import DocStore.Proofs.Store.Writes
/-!
What a filter selects, seen by the commands that look for it in ways of their own: some go through all
documents, some stop at the first match, and a removal goes through them twice. Where no failure is set,
all commands of one moment are let through or refused alike.
-/
namespace DocStore

namespace Table

variable {rule : CaseRule} {filter : Document} {docs before after rows : List Document} {d : Document}
  {e : StoreError} {p : Document → Bool}
variable [Regex.Engine]

/-- The first match, between the documents that were passed over and those that were not looked at. -/
structure FirstMatch (rule : CaseRule) (filter : Document) (docs before : List Document) (d : Document)
    (after : List Document) : Prop where
  docs_eq : docs = before ++ d :: after
  passed : ∀ x ∈ before, x.matchesFilter rule filter = .ok false
  matched : d.matchesFilter rule filter = .ok true

theorem FirstMatch.cons {x : Document} (h : FirstMatch rule filter docs before d after)
    (hx : x.matchesFilter rule filter = .ok false) :
    FirstMatch rule filter (x :: docs) (x :: before) d after :=
  ⟨congrArg (List.cons x) h.docs_eq, List.forall_mem_cons.2 ⟨hx, h.passed⟩, h.matched⟩

theorem FirstMatch.splitFirst_eq (h : FirstMatch rule filter docs before d after)
    (done : List Document) :
    splitFirst rule filter done docs = .ok (some (before.reverse ++ done, d, after)) := by
  obtain ⟨rfl, hpassed, hmatched⟩ := h
  induction before generalizing done with
  | nil =>
    rw [List.nil_append, splitFirst, hmatched]
    rfl
  | cons x before ih =>
    obtain ⟨hx, hbefore⟩ := List.forall_mem_cons.1 hpassed
    rw [List.cons_append, splitFirst, hx, List.reverse_cons, List.append_assoc]
    exact ih (x :: done) hbefore

/-- Documents are selected all at once, and only if the filter gives a verdict on each of them. -/
theorem select_cons (x : Document) (rest : List Document) :
    select rule filter (x :: rest) =
      match x.matchesFilter rule filter with
      | .ok true => (select rule filter rest).map (x :: ·)
      | .ok false => select rule filter rest
      | .error e => .error e := by
  rw [select]
  rcases x.matchesFilter rule filter with e | (_ | _)
  · rfl
  · cases select rule filter rest <;> rfl
  · cases select rule filter rest <;> rfl

theorem select_cons_eq_ok {x : Document} {rest : List Document}
    (h : select rule filter (x :: rest) = .ok rows) :
    (x.matchesFilter rule filter = .ok false ∧ select rule filter rest = .ok rows) ∨
      ∃ more, x.matchesFilter rule filter = .ok true ∧ select rule filter rest = .ok more ∧
        rows = x :: more := by
  rw [select_cons] at h
  rcases hx : x.matchesFilter rule filter with e | (_ | _) <;> rw [hx] at h
  · cases h
  · exact .inl ⟨rfl, h⟩
  · cases hrest : select rule filter rest with
    | error e => rw [hrest] at h; cases h
    | ok more =>
      rw [hrest] at h
      cases h
      exact .inr ⟨more, rfl, rfl, rfl⟩

theorem select_cons_eq_error {x : Document} {rest : List Document}
    (h : select rule filter (x :: rest) = .error e) :
    x.matchesFilter rule filter = .error e ∨
      ∃ verdict, x.matchesFilter rule filter = .ok verdict ∧ select rule filter rest = .error e := by
  rw [select_cons] at h
  rcases hx : x.matchesFilter rule filter with e' | (_ | _) <;> rw [hx] at h
  · cases h
    exact .inl rfl
  · exact .inr ⟨false, rfl, h⟩
  · cases hrest : select rule filter rest with
    | ok more => rw [hrest] at h; cases h
    | error e' =>
      rw [hrest] at h
      cases h
      exact .inr ⟨true, rfl, rfl⟩

theorem splitFirst_cons (x : Document) (rest done : List Document) :
    splitFirst rule filter done (x :: rest) =
      match x.matchesFilter rule filter with
      | .ok true => .ok (some (done, x, rest))
      | .ok false => splitFirst rule filter (x :: done) rest
      | .error e => .error e := by
  rw [splitFirst]
  rcases x.matchesFilter rule filter with e | (_ | _) <;> rfl

/-- The first of the selected documents is the first match. -/
theorem firstMatch_of_select {more : List Document} (h : select rule filter docs = .ok (d :: more)) :
    ∃ before after, FirstMatch rule filter docs before d after := by
  induction docs with
  | nil => cases h
  | cons x rest ih =>
    obtain ⟨hx, hrest⟩ | ⟨others, hx, -, hrows⟩ := select_cons_eq_ok h
    · obtain ⟨before, after, hfirst⟩ := ih hrest
      exact ⟨x :: before, after, hfirst.cons hx⟩
    · cases hrows
      exact ⟨[], rest, rfl, nofun, hx⟩

theorem splitFirst_of_select_nil (h : select rule filter docs = .ok []) (done : List Document) :
    splitFirst rule filter done docs = .ok none := by
  induction docs generalizing done with
  | nil => rfl
  | cons x rest ih =>
    obtain ⟨hx, hrest⟩ | ⟨others, -, -, hrows⟩ := select_cons_eq_ok h
    · rw [splitFirst_cons, hx]
      exact ih hrest (x :: done)
    · cases hrows

/-- Where the filter gives a verdict on every document, those that match are selected. -/
theorem select_of_verdicts (h : ∀ d ∈ docs, d.matchesFilter rule filter = .ok (p d)) :
    select rule filter docs = .ok (docs.filter p) := by
  induction docs with
  | nil => rfl
  | cons x rest ih =>
    obtain ⟨hx, hrest⟩ := List.forall_mem_cons.1 h
    rw [select_cons, hx, ih hrest, List.filter_cons]
    cases p x <;> rfl

theorem firstMatch_of_verdicts (h : ∀ d ∈ docs, d.matchesFilter rule filter = .ok (p d))
    (hdocs : docs = before ++ d :: after) (hbefore : ∀ x ∈ before, p x = false) (hd : p d = true) :
    FirstMatch rule filter docs before d after := by
  subst hdocs
  refine ⟨rfl, fun x hx => ?_, ?_⟩
  · rw [h x (List.mem_append_left _ hx), hbefore x hx]
  · rw [h d (List.mem_append_right _ List.mem_cons_self), hd]

theorem exists_of_select_error (h : select rule filter docs = .error e) :
    ∃ x ∈ docs, x.matchesFilter rule filter = .error e := by
  induction docs with
  | nil => cases h
  | cons x rest ih =>
    obtain hx | ⟨verdict, -, hrest⟩ := select_cons_eq_error h
    · exact ⟨x, List.mem_cons_self, hx⟩
    · obtain ⟨y, hy, hfault⟩ := ih hrest
      exact ⟨y, List.mem_cons_of_mem x hy, hfault⟩

/-- A search for the first match meets the fault that selecting meets, or ends before it does. -/
theorem splitFirst_of_select_error (h : select rule filter docs = .error e) (done : List Document) :
    splitFirst rule filter done docs = .error e ∨
      ∃ before d after, FirstMatch rule filter docs before d after ∧
        ∃ x ∈ after, x.matchesFilter rule filter = .error e := by
  induction docs generalizing done with
  | nil => cases h
  | cons x rest ih =>
    rw [splitFirst_cons]
    obtain hx | ⟨_ | _, hx, hrest⟩ := select_cons_eq_error h <;> rw [hx]
    · exact .inl rfl
    · obtain hfault | ⟨before, d, after, hfirst, hfault⟩ := ih hrest (x :: done)
      · exact .inl hfault
      · exact .inr ⟨x :: before, d, after, hfirst.cons hx, hfault⟩
    · exact .inr ⟨[], x, rest, ⟨rfl, nofun, hx⟩, exists_of_select_error hrest⟩

theorem select_eq_ok_iff : select .exact filter docs = .ok rows ↔
    (∀ d ∈ docs, ∃ verdict, d.matchesFilter .exact filter = .ok verdict) ∧
      rows = docs.filter fun d => d.meets filter := by
  induction docs generalizing rows with
  | nil => simp [select, eq_comm]
  | cons x rest ih =>
    rw [List.forall_mem_cons, List.filter_cons]
    constructor
    · intro h
      obtain ⟨hx, hrest⟩ | ⟨more, hx, hrest, rfl⟩ := select_cons_eq_ok h
      · obtain ⟨hverdicts, rfl⟩ := ih.1 hrest
        rw [Document.meets_of_ok hx, if_neg Bool.false_ne_true]
        exact ⟨⟨⟨false, hx⟩, hverdicts⟩, rfl⟩
      · obtain ⟨hverdicts, rfl⟩ := ih.1 hrest
        rw [Document.meets_of_ok hx, if_pos rfl]
        exact ⟨⟨⟨true, hx⟩, hverdicts⟩, rfl⟩
    · rintro ⟨⟨⟨verdict, hx⟩, hverdicts⟩, rfl⟩
      rw [select_cons, hx, Document.meets_of_ok hx, ih.2 ⟨hverdicts, rfl⟩]
      cases verdict <;> rfl

/-- Removing selects the documents once more. -/
theorem reject_of_select (h : select .exact filter docs = .ok rows) :
    reject filter docs = .ok (docs.filter fun d => !d.meets filter) :=
  reject_eq_ok_iff.2 ⟨(select_eq_ok_iff.1 h).1, rfl⟩

theorem reject_of_select_error (h : select .exact filter docs = .error e) :
    reject filter docs = .error e := by
  induction docs with
  | nil => cases h
  | cons x rest ih =>
    rw [reject]
    obtain hx | ⟨verdict, hx, hrest⟩ := select_cons_eq_error h <;> rw [hx]
    · rfl
    · rw [ih hrest]
      rfl

theorem select_removed (h : select .exact filter docs = .ok rows) :
    select .exact filter (docs.filter fun d => !d.meets filter) = .ok [] := by
  refine select_eq_ok_iff.2 ⟨fun d hd => (select_eq_ok_iff.1 h).1 d (List.mem_of_mem_filter hd), ?_⟩
  simp

theorem length_sub_removed (filter : Document) (docs : List Document) :
    docs.length - (docs.filter fun d => !d.meets filter).length =
      (docs.filter fun d => d.meets filter).length := by
  have := docs.length_eq_length_filter_add fun d => d.meets filter
  omega

/-- What a projection leaves of a document. -/
def shape : Option Document → Document → Document
  | some projection, d => d.project projection
  | none, d => d

theorem findOne_eq (options : FindOneOptions) (docs : List Document) :
    findOne filter options docs = (splitFirst (Collation.caseRule options.collation) filter [] docs).map
      (Option.map fun found => shape options.projection found.2.1) := by
  rw [findOne]
  rcases splitFirst (Collation.caseRule options.collation) filter [] docs with e | (_ | _)
  · rfl
  · rfl
  · cases options.projection <;> rfl

/-- The matching documents in the order and the number that are asked for. -/
def arrange (options : FindOptions) (rows : List Document) : List Document :=
  limited options.limit (match options.sort with
    | some specification =>
      sortStably (Document.compareBy (Collation.caseRule options.collation) specification) rows
    | none => rows)

theorem find_eq_arrange (filter : Document) (options : FindOptions) (docs : List Document) :
    find filter options docs = (select (Collation.caseRule options.collation) filter docs).map
      fun rows => (arrange options rows).map (shape options.projection) := by
  rw [find]
  cases select (Collation.caseRule options.collation) filter docs with
  | error e => rfl
  | ok rows =>
    refine congrArg Except.ok ?_
    change _ = (arrange options rows).map (shape options.projection)
    cases options.projection with
    | none => exact (List.map_id _).symm
    | some projection => rfl

/-- A search for all documents that is given no order and no limit. -/
theorem find_eq (projection : Option Document) (collation : Option Collation) (docs : List Document) :
    find filter { projection, collation } docs =
      (select (Collation.caseRule collation) filter docs).map (List.map (shape projection)) :=
  find_eq_arrange filter { projection, collation } docs

/-- Whether a replacement has an identity other than that of the document it takes the place of. -/
def altersIdentity (old replacement : Document) : Bool :=
  match replacement.get? "_id", old.get? "_id" with
  | some new, some old => !new.equal old
  | _, _ => false

/-- A replacement of the first match changes it and nothing else, unless it alters its identity. -/
theorem FirstMatch.replace_eq_ite (h : FirstMatch .exact filter docs before d after)
    (replacement : Document) :
    replace filter replacement docs =
      if altersIdentity d replacement then .error alteredIdentity
      else .ok (⟨1, if d.equal (successor d replacement) then 0 else 1⟩,
        before ++ successor d replacement :: after) := by
  have hsplit := h.splitFirst_eq []
  rw [List.append_nil] at hsplit
  rw [replace, hsplit]
  simp only [bind, Except.bind]
  rw [List.reverse_reverse]
  change (if altersIdentity d replacement = true then _ else _) = _
  cases altersIdentity d replacement <;> rfl

theorem FirstMatch.replace_eq (h : FirstMatch .exact filter docs before d after)
    (replacement : Document) :
    replace filter replacement docs = .error alteredIdentity ∨
      ∃ modified, replace filter replacement docs =
        .ok (⟨1, modified⟩, before ++ successor d replacement :: after) := by
  rw [h.replace_eq_ite]
  by_cases haltered : altersIdentity d replacement = true
  · exact .inl (if_pos haltered)
  · exact .inr ⟨_, if_neg haltered⟩

theorem FirstMatch.update_eq (h : FirstMatch .exact filter docs before d after) (changes : Document) :
    update filter changes docs = (d.applyUpdate changes).map fun next =>
      (⟨1, if next.2 then 1 else 0⟩, before ++ next.1 :: after) := by
  have hsplit := h.splitFirst_eq []
  rw [List.append_nil] at hsplit
  rw [update, hsplit]
  simp only [bind, Except.bind]
  cases d.applyUpdate changes with
  | error e => rfl
  | ok next => simp [Except.map, pure, Except.pure]

end Table

namespace Command

variable (name : String) (fresh : ObjectId) (filter : Document) (docs : List Document)
variable [Regex.Engine]

theorem run_count : run name fresh (.count filter) docs =
    (Table.select .exact filter docs).map fun rows => (.number rows.length, docs) := by
  rw [run]
  cases Table.select .exact filter docs <;> rfl

/-- A removal counts what is selected, and leaves the other documents in order. -/
theorem run_delete : run name fresh (.delete filter) docs =
    (Table.select .exact filter docs).map fun rows =>
      (.number rows.length, docs.filter fun d => !d.meets filter) := by
  rw [run]
  cases hselect : Table.select .exact filter docs with
  | error e => rw [Table.reject_of_select_error hselect]; rfl
  | ok rows =>
    have hlength := Table.length_sub_removed filter docs
    rw [← (Table.select_eq_ok_iff.1 hselect).2] at hlength
    rw [Table.reject_of_select hselect]
    exact congrArg (fun n => Except.ok (Reply.number n, _)) hlength

theorem run_find (options : FindOptions) : run name fresh (.find filter options) docs =
    (Table.find filter options docs).map fun rows => (.rows rows, docs) := by
  rw [run]
  cases Table.find filter options docs <;> rfl

theorem run_findOne (options : FindOneOptions) : run name fresh (.findOne filter options) docs =
    (Table.findOne filter options docs).map fun found => (.row found, docs) := by
  rw [run]
  cases Table.findOne filter options docs <;> rfl

theorem run_replace (replacement : Document) : run name fresh (.replace filter replacement) docs =
    (Table.replace filter replacement docs).map fun p => (.updated p.1, p.2) := by
  rw [run]
  cases Table.replace filter replacement docs <;> rfl

theorem run_update (changes : Document) : run name fresh (.update filter changes) docs =
    (Table.update filter changes docs).map fun p => (.updated p.1, p.2) := by
  rw [run]
  cases Table.update filter changes docs <;> rfl

end Command

namespace Host

open StoreAction

variable {context : Context} {session : Option SessionNumber} {collection : String} {s : Host}

/-- Whether the context goes on until the latency of the store is over, and the time then. -/
def awaited (context : Context) (s : Host) : Except StoreError Unit × Timeline :=
  match context.check s.timeline, s.store.hooks.latency with
  | .error e, _ => (.error e, s.timeline)
  | .ok _, none => (.ok (), s.timeline)
  | .ok _, some latency =>
    (context.check (s.afterLatency context latency), s.afterLatency context latency)

/-- What every command meets before it is carried out, where no failure is set. -/
def gate (context : Context) (session : Option SessionNumber) (s : Host) : Except StoreError Unit :=
  if s.store.connected then
    match (s.awaited context).1 with
    | .error e => .error e
    | .ok _ => if s.store.isEnded session then .error Store.sessionEnded else .ok ()
  else .error .disconnected

theorem of_gate_eq_ok {u : Unit} (h : gate context session s = .ok u) :
    s.store.connected = true ∧ s.store.isEnded session = false := by
  unfold gate at h
  split at h
  · rename_i hconnected
    split at h
    · cases h
    · split at h
      · cases h
      · rename_i hended
        exact ⟨hconnected, eq_false_of_ne_true hended⟩
  · cases h

/-- A call waits, and then meets the failures that are set. -/
theorem await_on (context : Context) (operation : Operation) (s : Host) :
    on (do checkContext context; awaitLatency context; tripFailPoint operation) s =
      match (s.awaited context).1 with
      | .error e => (.error e, { s with timeline := (s.awaited context).2 })
      | .ok _ => (tripFailPoint operation).on { s with timeline := (s.awaited context).2 } := by
  rw [on_bind, checkContext_on, awaited]
  cases context.check s.timeline with
  | error e => rfl
  | ok u =>
    dsimp only
    rw [on_bind, awaitLatency_on]
    cases s.store.hooks.latency with
    | none => rfl
    | some latency =>
      dsimp only
      cases context.check (s.afterLatency context latency) <;> rfl

theorem wait_on (operation : Operation) (hpoints : s.store.hooks.failPoints = []) :
    on (do checkContext context; awaitLatency context; tripFailPoint operation) s =
      ((s.awaited context).1, s.later [] (s.awaited context).2) := by
  have hlater (timeline : Timeline) : s.later [] timeline = { s with timeline } := by
    rw [Host.later, ← hpoints]
  rw [await_on, hlater]
  cases (s.awaited context).1 with
  | error e => rfl
  | ok u => exact tripFailPoint_on_nil operation hpoints

theorem admission_on_gate (context : Context) (session : Option SessionNumber)
    (hpoints : s.store.hooks.failPoints = []) {operation : Operation}
    (hoperation : operation ≠ .disconnect) :
    ∃ timeline, (admission context session operation).on s =
      (gate context session s, (s.attempted operation).later [] timeline) := by
  rw [admission, on_bind, gate]
  cases hconnected : s.store.connected with
  | false =>
    refine ⟨s.timeline, ?_⟩
    rw [enter_on_of_disconnected context hconnected hoperation, if_neg Bool.false_ne_true, ← hpoints]
    rfl
  | true =>
    have hawaited : (s.attempted operation).awaited context = s.awaited context := rfl
    refine ⟨(s.awaited context).2, ?_⟩
    rw [enter_on_of_connected context hconnected, if_pos rfl,
      wait_on (s := s.attempted operation) operation hpoints, hawaited]
    cases (s.awaited context).1 with
    | error e => rfl
    | ok u =>
      dsimp only
      rw [on_get_bind]
      change on (if s.store.isEnded session = true then _ else _) _ = _
      cases s.store.isEnded session <;> rfl

end Host

end DocStore
