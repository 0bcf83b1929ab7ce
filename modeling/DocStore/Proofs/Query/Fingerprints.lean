import DocStore.Collection.Query
import DocStore.Json.Reader
import DocStore.Proofs.Filter.Likeness
import DocStore.Proofs.Json.Trees
import DocStore.Regex.Default
/-!
Fingerprints of filters. A fingerprint is the hash of the text of a filter, and reports of slow calls are
grouped by it. Where the text tells the parts of a filter, one fingerprint stands for one query; where it
does not, two filters that select different documents can have the same.
-/
namespace DocStore

section

/-- Two texts with one hash. -/
def Sha256.Collision (s t : String) : Prop := s ≠ t ∧ hexDigest s = hexDigest t

variable [Regex.Engine]

/-- Filters that give the same verdicts and are shown in the same way. -/
structure Document.SameFilter (f g : Document) : Prop where
  verdict : ∀ rule d, Document.matchesFilter rule d f = Document.matchesFilter rule d g
  text : Document.text f = Document.text g

namespace Document.SameFilter

variable {f g : Document} (h : SameFilter f g)
include h

theorem select (rule : CaseRule) (docs : List Document) :
    Table.select rule f docs = Table.select rule g docs := by
  induction docs with
  | nil => rfl
  | cons d docs ih => rw [Table.select, Table.select, h.verdict, ih]

theorem splitFirst (rule : CaseRule) (before docs : List Document) :
    Table.splitFirst rule f before docs = Table.splitFirst rule g before docs := by
  induction docs generalizing before with
  | nil => rfl
  | cons d docs ih => rw [Table.splitFirst, Table.splitFirst, h.verdict, ih]

theorem reject (docs : List Document) : Table.reject f docs = Table.reject g docs := by
  induction docs with
  | nil => rfl
  | cons d docs ih => rw [Table.reject, Table.reject, h.verdict, ih]

theorem fingerprint : f.fingerprint = g.fingerprint := congrArg Sha256.hexDigest h.text

theorem filterDetail : filterDetail f = filterDetail g := congrArg ("filter: " ++ ·) h.text

end Document.SameFilter

/-- Commands of one kind with the same outcome on all documents are issued alike. -/
theorem Host.issue_congr {c c' : Command} {context : Context} {session : Option SessionNumber}
    {collection : String} (hoperation : c.operation = c'.operation) (hwrite : c.isWrite = c'.isWrite)
    (hrun : ∀ name fresh docs, c.run name fresh docs = c'.run name fresh docs) :
    issue context session collection c = issue context session collection c' := by
  unfold issue
  simp only [hoperation, hwrite, hrun]

namespace Document.SameFilter

variable {f g : Document} (h : SameFilter f g) (context : Context) (session : Option SessionNumber)
  (collection : String)
include h

theorem count : Host.count context session collection f = Host.count context session collection g := by
  have hissue : Host.issue context session collection (.count f) =
      Host.issue context session collection (.count g) :=
    Host.issue_congr rfl rfl fun name fresh docs => by rw [Command.run, Command.run, h.select]
  rw [Host.count, Host.count, hissue]

theorem find (options : Option FindOptions) : Host.find context session collection f options =
    Host.find context session collection g options := by
  have hissue (options : FindOptions) : Host.issue context session collection (.find f options) =
      Host.issue context session collection (.find g options) :=
    Host.issue_congr rfl rfl fun name fresh docs => by
      rw [Command.run, Command.run, Table.find, Table.find, h.select]
  rw [Host.find, Host.find, hissue]

theorem findOne (options : Option FindOneOptions) : Host.findOne context session collection f options =
    Host.findOne context session collection g options := by
  have hissue (options : FindOneOptions) : Host.issue context session collection (.findOne f options) =
      Host.issue context session collection (.findOne g options) :=
    Host.issue_congr rfl rfl fun name fresh docs => by
      rw [Command.run, Command.run, Table.findOne, Table.findOne, h.splitFirst]
  rw [Host.findOne, Host.findOne, hissue]

theorem delete : Host.delete context session collection f = Host.delete context session collection g := by
  have hissue : Host.issue context session collection (.delete f) =
      Host.issue context session collection (.delete g) :=
    Host.issue_congr rfl rfl fun name fresh docs => by rw [Command.run, Command.run, h.reject]
  rw [Host.delete, Host.delete, hissue]

/-- A report of a slow call shows a filter by its fingerprint alone. -/
theorem timed {α : Type} (c : Collection) (location : String) (call : StateM Host α) :
    c.timed location (some f) call = c.timed location (some g) call := by
  unfold Collection.timed SlowCallMonitor.finish SlowCallMonitor.record
  simp only [Option.map_some, h.fingerprint]

theorem call {α : Type} (c : Collection) (location : String) (action : StoreAction α)
    (failure : StoreError → Failure) :
    c.call location (some f) action failure = c.call location (some g) action failure := by
  unfold Collection.call
  rw [h.timed]

end Document.SameFilter

/-- Expressions that stand for one query: they select the same documents of every collection, and every
operation does the same with either of them. -/
structure Expression.OneQuery (e₁ e₂ : Expression) : Prop where
  select : ∀ rule docs, Table.select rule e₁.toFilter docs = Table.select rule e₂.toFilter docs
  count : ∀ c : Collection, c.count e₁ = c.count e₂
  query : ∀ {α : Type} [Decodable α] (c : Collection) (options : List QueryOption),
    (c.query e₁ options : Action (List α)) = c.query e₂ options
  iterate : ∀ (c : Collection) (options : List QueryOption), c.iterate e₁ options = c.iterate e₂ options
  load : ∀ {α : Type} [Decodable α] (c : Collection) (options : List QueryOption),
    (c.load e₁ options : Action α) = c.load e₂ options
  hardDelete : ∀ c : Collection, c.hardDelete e₁ = c.hardDelete e₂

theorem Expression.OneQuery.of_sameFilter {e₁ e₂ : Expression}
    (h : Document.SameFilter e₁.toFilter e₂.toFilter) : OneQuery e₁ e₂ where
  select := h.select
  count c := by
    unfold Collection.count
    simp only [h.count, h.call, h.filterDetail]
  query c options := by
    unfold Collection.query
    simp only [h.find, h.timed, h.filterDetail]
  iterate c options := by
    unfold Collection.iterate
    simp only [h.find, h.call, h.filterDetail]
  load c options := by
    unfold Collection.load
    simp only [h.findOne, h.call, h.filterDetail]
  hardDelete c := by
    unfold Collection.hardDelete
    simp only [h.delete, h.call, h.filterDetail]

/-- What a line of the log says under a key. -/
def LogRecord.member? (line : LogRecord) (key : String) : Option Json :=
  match Json.ofText? line.text with
  | some (.object fields) => fields.lookup (some key)
  | _ => none

namespace SlowCallMonitor

omit [Regex.Engine] in
theorem member?_record (t : Timeline) (location collection : String) (elapsed threshold : ℕ)
    (filter : Document) : (record t location collection elapsed threshold (some filter)).member? "filter_hash" =
      some (.ofString filter.fingerprint) := by
  unfold LogRecord.member? record
  dsimp only
  rw [Json.ofText?_write]
  · rfl
  · simp [Json.ofFields, Json.Readable, Json.ReadableFields, Json.ofString, Json.ofNat]

/-- A line that reports a slow call with a filter. -/
def Reports (filter : Document) (line : LogRecord) : Prop :=
  ∃ m location started collection s,
    (finish m location started collection (some filter) s).2.log = s.log ++ [line]

omit [Regex.Engine] in
theorem Reports.member? {filter : Document} {line : LogRecord} (h : Reports filter line) :
    line.member? "filter_hash" = some (.ofString filter.fingerprint) := by
  obtain ⟨m, location, started, collection, s, hlog⟩ := h
  have hnone : s.log ≠ s.log ++ [line] := fun heq => by
    have hlength := congrArg List.length heq
    rw [List.length_append, List.length_singleton] at hlength
    omega
  unfold finish at hlog
  split at hlog
  · dsimp only at hlog
    split at hlog
    · obtain rfl := List.singleton_inj.1 (List.append_cancel_left hlog)
      exact member?_record _ _ _ _ _ filter
    · exact absurd hlog hnone
  · exact absurd hlog hnone

end SlowCallMonitor

namespace Expression

open Value

variable {e₁ e₂ : Expression}

/-- The filter of an expression is told by its text, so far as it goes. -/
theorem sameFilter_of_fingerprint (hlegible₁ : LegibleFields e₁.toFilter)
    (hlegible₂ : LegibleFields e₂.toFilter)
    (htypes : Filter.typesOfEntries e₁.toFilter = Filter.typesOfEntries e₂.toFilter)
    (hcollision : ¬Sha256.Collision e₁.toFilter.text e₂.toFilter.text)
    (hfingerprint : e₁.toFilter.fingerprint = e₂.toFilter.fingerprint) :
    Document.SameFilter e₁.toFilter e₂.toFilter := by
  have htext : e₁.toFilter.text = e₂.toFilter.text :=
    not_not.1 fun hne => hcollision ⟨hne, hfingerprint⟩
  have halike := Document.alike_of_text hlegible₁ hlegible₂ htext
  exact ⟨fun rule d => Document.matchesFilter_alike halike htypes rule d, htext⟩

/-- Fingerprints separate the queries whose filters are told by their texts. Lines on slow calls that have one
fingerprint then go back to one query. -/
theorem oneQuery_of_fingerprint (hlegible₁ : LegibleFields e₁.toFilter)
    (hlegible₂ : LegibleFields e₂.toFilter)
    (htypes : Filter.typesOfEntries e₁.toFilter = Filter.typesOfEntries e₂.toFilter)
    (hcollision : ¬Sha256.Collision e₁.toFilter.text e₂.toFilter.text) :
    (e₁.toFilter.fingerprint = e₂.toFilter.fingerprint → OneQuery e₁ e₂) ∧
      ∀ line₁ line₂ : LogRecord, SlowCallMonitor.Reports e₁.toFilter line₁ →
        SlowCallMonitor.Reports e₂.toFilter line₂ →
        line₁.member? "filter_hash" = line₂.member? "filter_hash" → OneQuery e₁ e₂ := by
  have hquery (hfingerprint : e₁.toFilter.fingerprint = e₂.toFilter.fingerprint) : OneQuery e₁ e₂ :=
    .of_sameFilter (sameFilter_of_fingerprint hlegible₁ hlegible₂ htypes hcollision hfingerprint)
  refine ⟨hquery, fun line₁ line₂ hline₁ hline₂ hmember => hquery ?_⟩
  rw [hline₁.member?, hline₂.member?] at hmember
  exact Option.some.inj (Json.text.inj (Option.some.inj hmember))

end Expression

end

open scoped Regex

namespace Expression

open Value

/-- A number is compared by its value, so that both expressions select the same documents. -/
theorem oneQuery_of_fingerprint_number :
    let e₁ := equal "a" (.int32 5)
    let e₂ := equal "a" (.int64 5)
    e₁.toFilter.fingerprint = e₂.toFilter.fingerprint ∧ OneQuery e₁ e₂ := by
  have htext : (equal "a" (.int32 5)).toFilter.text = (equal "a" (.int64 5)).toFilter.text := by rfl
  have hfingerprint := congrArg Sha256.hexDigest htext
  exact ⟨hfingerprint, (oneQuery_of_fingerprint (by decide) (by decide) (by decide)
    (fun hcollision => hcollision.1 htext)).1 hfingerprint⟩

/-- Two expressions, and a document that the first of them selects alone. -/
structure Confusion where
  first : Expression
  second : Expression
  document : Document

/-- The expressions have one text, so that no collision of the hash is needed for one fingerprint. -/
structure Confusion.Confuses (c : Confusion) : Prop where
  text : c.first.toFilter.text = c.second.toFilter.text
  fingerprint : c.first.toFilter.fingerprint = c.second.toFilter.fingerprint
  select_first : Table.select .exact c.first.toFilter [c.document] = .ok [c.document]
  select_second : Table.select .exact c.second.toFilter [c.document] = .ok []

/-- A string and a key that hold quotes, numbers of two types in an array, source code in place of a number,
and a NaN with a sign. -/
def confusions : List Confusion := [
  ⟨isIn "a" [.string "x", .string "y"], isIn "a" [.string "x\", \"y"],
    [("_id", .int32 1), ("a", .string "x")]⟩,
  ⟨equal "a" (.document [("k", .null), ("l", .null)]), equal "a" (.document [("k\": null, \"l", .null)]),
    [("_id", .int32 1), ("a", .document [("k", .null), ("l", .null)])]⟩,
  ⟨equal "a" (.array [.int32 5]), equal "a" (.array [.int64 5]),
    [("_id", .int32 1), ("a", .array [.int32 5])]⟩,
  ⟨equal "a" (.code "5"), equal "a" (.int32 5), [("_id", .int32 1), ("a", .code "5")]⟩,
  ⟨equal "a" (.double (.nan false)), equal "a" (.double (.nan true)),
    [("_id", .int32 1), ("a", .double (.nan false))]⟩]

/-- One fingerprint can stand for two queries. -/
theorem fingerprint_of_two_queries : confusions.Forall Confusion.Confuses := by
  have hconfuses (c : Confusion) (htext : c.first.toFilter.text = c.second.toFilter.text)
      (hfirst : Table.select .exact c.first.toFilter [c.document] = .ok [c.document])
      (hsecond : Table.select .exact c.second.toFilter [c.document] = .ok []) : c.Confuses :=
    ⟨htext, congrArg Sha256.hexDigest htext, hfirst, hsecond⟩
  exact ⟨hconfuses _ (by decide +kernel) rfl rfl, hconfuses _ (by decide +kernel) rfl rfl,
    hconfuses _ (by decide +kernel) rfl rfl, hconfuses _ (by decide +kernel) rfl rfl,
    hconfuses _ (by decide +kernel) rfl rfl⟩

end Expression

end DocStore
