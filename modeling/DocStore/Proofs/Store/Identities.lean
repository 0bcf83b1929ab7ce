import DocStore.Proofs.Document.Paths
import DocStore.Proofs.Store.Writes
import DocStore.Regex.Default
/-!
Identities of stored documents. A replacement keeps all of them, and so does an update unless it has
a path that starts with `_id` and a dot: the path `_id` itself is refused, but a path below it makes
a document of the identity.
-/
namespace DocStore

section

/-- A path into the value at `_id`. -/
def UnderIdentity (path : String) : Prop := "_id.".toList <+: path.toList

instance : DecidablePred UnderIdentity := fun path =>
  inferInstanceAs (Decidable ("_id.".toList <+: path.toList))

theorem underIdentity_iff {path : String} :
    UnderIdentity path ↔ ∃ rest, rest ≠ [] ∧ pathSegments path = "_id" :: rest := by
  have hundotted : '.' ∉ "_id".toList := by decide
  constructor
  · rintro ⟨rest, hrest⟩
    have hpath : path.toList = "_id".toList ++ '.' :: rest := hrest.symm
    refine ⟨(segmentsOf rest).map String.ofList, ?_, ?_⟩
    · intro h
      exact segmentsOf_ne_nil rest (List.map_eq_nil_iff.1 h)
    · rw [pathSegments, hpath, segmentsOf_append_dot hundotted, List.map_cons, String.ofList_toList]
  · rintro ⟨rest, hne, hsegments⟩
    obtain ⟨first, more, hfirst, hid, hmore⟩ := List.map_eq_cons_iff.1 hsegments
    have hid' : first = "_id".toList := by rw [← hid, String.toList_ofList]
    rcases eq_of_segmentsOf_eq_cons hfirst with ⟨hnil, _⟩ | ⟨rest', hpath, _⟩
    · rw [hnil] at hmore
      exact absurd hmore.symm hne
    · exact ⟨rest', by rw [hpath, hid']; rfl⟩

theorem head?_pathSegments_ne {path : String} (hpath : path ≠ "_id")
    (hunder : ¬UnderIdentity path) : (pathSegments path).head? ≠ some "_id" := by
  intro hhead
  obtain ⟨rest, hsegments⟩ := List.head?_eq_some_iff.1 hhead
  cases rest with
  | nil => exact hpath (eq_of_pathSegments_eq_singleton hsegments)
  | cons next more => exact hunder (underIdentity_iff.2 ⟨next :: more, nofun, hsegments⟩)

namespace Document

variable {d d' update : Document} {act : Document → String → Document × Bool}

/-- The update has no path into the value at `_id`. -/
def SparesIdentity (update : Document) : Prop :=
  ∀ m ∈ update.modifications, ¬UnderIdentity m.path

instance : DecidablePred SparesIdentity := fun update =>
  List.decidableBAll (fun m : Modification => ¬UnderIdentity m.path) update.modifications

def HasDocumentId (d : Document) : Prop := ∃ fields, d.get? "_id" = some (.document fields)

theorem get?_id_modifyParent (hact : Local act) {path : String} (hpath : path ≠ "_id")
    (hunder : ¬UnderIdentity path) (d : Document) :
    (d.modifyParent act (pathSegments path)).1.get? "_id" = d.get? "_id" :=
  get?_modifyParent_of_ne hact (head?_pathSegments_ne hpath hunder) d

theorem hasDocumentId_modifyParent {path : String} (hunder : UnderIdentity path) (d : Document) :
    (d.modifyParent act (pathSegments path)).1.HasDocumentId := by
  obtain ⟨rest, hne, hsegments⟩ := underIdentity_iff.1 hunder
  rw [hsegments]
  exact ⟨_, get?_modifyParent_cons act d "_id" hne⟩

/-- A modification works on one path, by an act on one field. -/
theorem exists_of_modify {modifier path : String} {argument : Value} {result : Document × Bool}
    (h : d.modify modifier path argument = .ok result) :
    path ≠ "_id" ∧ ∃ act, Local act ∧ result = d.modifyParent act (pathSegments path) := by
  obtain ⟨hpath, ⟨_, hresult⟩ | ⟨_, v, hresult⟩⟩ := modify_eq_ok h
  · exact ⟨hpath, _, local_eraseNoting, hresult⟩
  · exact ⟨hpath, _, local_insertNoting v, hresult⟩

theorem Modified.get?_id {steps : List Modification} {changed : Bool}
    (h : Modified d steps changed d') (hsteps : ∀ m ∈ steps, ¬UnderIdentity m.path) :
    d'.get? "_id" = d.get? "_id" := by
  induction h with
  | nil d => rfl
  | @cons d next d' m rest here later hmodify _ ih =>
    obtain ⟨hpath, act, hact, hresult⟩ := exists_of_modify hmodify
    have hnext : next = (d.modifyParent act (pathSegments m.path)).1 := congrArg Prod.fst hresult
    rw [ih fun m hm => hsteps m (List.mem_cons_of_mem _ hm), hnext]
    exact get?_id_modifyParent hact hpath (hsteps m List.mem_cons_self) d

/-- An identity that is a document stays one, and below it there is no way to have anything else. -/
theorem Modified.hasDocumentId {steps : List Modification} {changed : Bool}
    (h : Modified d steps changed d')
    (hsteps : d.HasDocumentId ∨ ∃ m ∈ steps, UnderIdentity m.path) : d'.HasDocumentId := by
  induction h with
  | nil d => exact hsteps.resolve_right (by rintro ⟨m, hm, _⟩; cases hm)
  | @cons d next d' m rest here later hmodify _ ih =>
    obtain ⟨hpath, act, hact, hresult⟩ := exists_of_modify hmodify
    have hnext : next = (d.modifyParent act (pathSegments m.path)).1 := congrArg Prod.fst hresult
    apply ih
    by_cases hunder : UnderIdentity m.path
    · left
      rw [hnext]
      exact hasDocumentId_modifyParent hunder d
    · rcases hsteps with ⟨fields, hfields⟩ | ⟨other, hother, hunder'⟩
      · left
        refine ⟨fields, ?_⟩
        rw [hnext, get?_id_modifyParent hact hpath hunder, hfields]
      · right
        rcases List.mem_cons.1 hother with rfl | hrest
        · exact absurd hunder' hunder
        · exact ⟨other, hrest, hunder'⟩

end Document

variable [Regex.Engine]

namespace Table

variable {filter change : Document} {docs docs' : List Document}

def identities (docs : List Document) : List (Option Value) := docs.map fun d => d.get? "_id"

omit [Regex.Engine] in
/-- A document that takes the place of another one has its identity, or none if that had none. -/
theorem get?_id_successor {replacement : Document} (h : replacement.keys.Nodup) (old : Document) :
    (successor old replacement).get? "_id" = old.get? "_id" := by
  rw [successor]
  cases hold : old.get? "_id" with
  | some id => rfl
  | none =>
    apply Document.get?_eq_none
    rw [Document.keys_erase]
    exact h.not_mem_erase

theorem identities_replace {result : UpdateResult} (hchange : change.keys.Nodup)
    (h : replace filter change docs = .ok (result, docs')) : identities docs' = identities docs := by
  rcases replace_eq_ok h with ⟨_, rfl⟩ | ⟨old, _, hexchanged⟩
  · rfl
  · exact hexchanged.map_eq (get?_id_successor hchange old)

theorem identities_update {result : UpdateResult} (hchange : change.SparesIdentity)
    (h : update filter change docs = .ok (result, docs')) : identities docs' = identities docs := by
  rcases update_eq_ok h with ⟨_, rfl⟩ | ⟨old, next, changed, _, hupdate, hexchanged, _⟩
  · rfl
  · exact hexchanged.map_eq ((Document.modified_of_applyUpdate hupdate).get?_id hchange)

/-- Where no identity is a document, a path below it changes the identity of the first match. -/
theorem identities_update_iff {result : UpdateResult} (hdocs : ∀ d ∈ docs, ¬d.HasDocumentId)
    (h : update filter change docs = .ok (result, docs')) :
    identities docs' = identities docs ↔ change.SparesIdentity ∨ result.matched = 0 := by
  constructor
  · intro hsame
    rcases update_eq_ok h with ⟨rfl, _⟩ | ⟨old, next, changed, _, hupdate, hexchanged, _⟩
    · exact .inr rfl
    · left
      intro m hm hunder
      have hnext : next.HasDocumentId :=
        (Document.modified_of_applyUpdate hupdate).hasDocumentId (.inr ⟨m, hm, hunder⟩)
      rw [Document.HasDocumentId, hexchanged.of_map_eq hsame] at hnext
      exact hdocs old hexchanged.mem hnext
  · rintro (hspares | hmatched)
    · exact identities_update hspares h
    · rcases update_eq_ok h with ⟨_, rfl⟩ | ⟨old, next, changed, _, _, _, rfl⟩
      · rfl
      · cases hmatched

end Table

/-- Commands that leave all identities as they are. -/
def Command.KeepsIdentities : Command → Prop
  | replace _ replacement => replacement.keys.Nodup
  | update _ changes => changes.SparesIdentity
  | _ => False

theorem Tables.identities_execute {command : Command} (h : command.KeepsIdentities)
    (database : String) (t : Tables) (collection : String) (fresh : ObjectId) (name : String) :
    Table.identities ((t.execute database collection fresh command).2 name) =
      Table.identities (t name) := by
  have hset : ∀ docs, Table.identities docs = Table.identities (t collection) →
      Table.identities (t.set collection docs name) = Table.identities (t name) := by
    intro docs hdocs
    rw [set]
    split
    · rename_i hname
      rw [hname, hdocs]
    · rfl
  unfold execute
  split
  · rename_i reply docs hrun
    apply hset
    cases command with
    | replace filter replacement =>
      obtain ⟨⟨result, kept⟩, hreplace, hend⟩ := exists_of_bind_eq_ok hrun
      cases hend
      exact Table.identities_replace h hreplace
    | update filter changes =>
      obtain ⟨⟨result, kept⟩, hupdate, hend⟩ := exists_of_bind_eq_ok hrun
      cases hend
      exact Table.identities_update h hupdate
    | count filter | find filter options | findOne filter options | insert d | delete filter =>
      cases h
  · rfl

namespace Host

variable {context : Context} {session : Option SessionNumber} {collection : String} {s : Host}

/-- Such a command leaves the identities that anyone sees, whatever its answer is. -/
theorem identities_issue {command : Command} (h : command.KeepsIdentities)
    (view : Option SessionNumber) (name : String) :
    Table.identities
        (((issue context session collection command).on s).2.store.visibleTables view name) =
      Table.identities (s.store.visibleTables view name) := by
  have hledger := (issue_moves context session collection command s).ledger
  simp only [Call.run] at hledger
  rw [Store.visibleTables_eq, Store.visibleTables_eq, hledger]
  rcases s.store.ledger.tablesFor_executed s.store.database session view _ with heq | ⟨hsame, heq⟩
  · rw [heq]
  · rw [heq, hsame, Ledger.tablesFor_executed_self]
    unfold Execution.replay
    split
    · rfl
    · exact Tables.identities_execute h _ _ _ _ name

end Host

/-- A replacement leaves every identity that anyone sees as it is, and so does an update without a
path below `_id`. Where no identity is a document, an update that has such a path leaves them only if
it matches nothing. -/
theorem identities_replace_update (filter change : Document) (context : Context)
    (session : Option SessionNumber) (collection : String) (s : Host) :
    let seen (view : Option SessionNumber) (name : String) (s : Host) : List Document :=
      s.store.visibleTables view name
    let replaced := (Host.replace context session collection filter change).on s
    let updated := (Host.update context session collection filter change).on s
    (change.keys.Nodup → ∀ view name,
      Table.identities (seen view name replaced.2) = Table.identities (seen view name s)) ∧
    (change.SparesIdentity → ∀ view name,
      Table.identities (seen view name updated.2) = Table.identities (seen view name s)) ∧
    ∀ result, updated.1 = .ok result → (∀ d ∈ seen session collection s, ¬d.HasDocumentId) →
      (Table.identities (seen session collection updated.2) =
          Table.identities (seen session collection s) ↔
        change.SparesIdentity ∨ result.matched = 0) := by
  intro seen replaced updated
  refine ⟨?_, ?_, ?_⟩
  · intro hchange view name
    change Table.identities (replaced.2.store.visibleTables view name) = _
    have hkeeps : (Command.replace filter change).KeepsIdentities := hchange
    rw [Host.replace_on_snd]
    exact Host.identities_issue hkeeps view name
  · intro hchange view name
    change Table.identities (updated.2.store.visibleTables view name) = _
    have hkeeps : (Command.update filter change).KeepsIdentities := hchange
    rw [Host.update_on_snd]
    exact Host.identities_issue hkeeps view name
  · intro result hresult hdocs
    exact Table.identities_update_iff hdocs (Host.update_eq_ok (Prod.ext hresult rfl))

end

open scoped Regex

/-- A replacement of one note and a new name for it leave both identities as they are. An update below the
identity does so where it matches nothing, but not where it matches the note. -/
theorem identities_replace_update_notes :
    let docs : List Document :=
      [[("_id", .int32 1), ("name", .string "a")], [("_id", .int32 2), ("name", .string "b")]]
    let s : Host :=
      { store := { database := "d", tables := Tables.empty.set "c" docs }, timeline := { now := 0 } }
    let named (name : String) : Document := [("name", .string name)]
    let identities (t : Host) := Table.identities (t.store.visibleTables none "c")
    let replaced := (Host.replace .background none "c" (named "a") (named "z")).on s
    let updated (name path : String) :=
      (Host.update .background none "c" (named name) [("$set", .document [(path, .string "z")])]).on s
    identities s = [some (.int32 1), some (.int32 2)] ∧
      (replaced.1 = .ok ⟨1, 1⟩ ∧ identities replaced.2 = identities s) ∧
      ((updated "a" "name").1 = .ok ⟨1, 1⟩ ∧ identities (updated "a" "name").2 = identities s) ∧
      ((updated "q" "_id.k").1 = .ok ⟨0, 0⟩ ∧ identities (updated "q" "_id.k").2 = identities s) ∧
      (updated "a" "_id.k").1 = .ok ⟨1, 1⟩ ∧ identities (updated "a" "_id.k").2 ≠ identities s := by
  intro docs s named identities replaced updated
  have hplain : ∀ d ∈ docs, ¬d.HasDocumentId := by
    simp only [docs, List.forall_mem_cons]
    exact ⟨nofun, nofun, nofun⟩
  have hname : Document.SparesIdentity [("$set", .document [("name", .string "z")])] := by decide
  have hbelow : ¬Document.SparesIdentity [("$set", .document [("_id.k", .string "z")])] := by decide
  have hparts (name path : String) := identities_replace_update (named name)
    [("$set", .document [(path, .string "z")])] .background none "c" s
  obtain ⟨hreplaced, -⟩ := identities_replace_update (named "a") (named "z") .background none "c" s
  refine ⟨rfl, ⟨rfl, hreplaced (by decide) none "c"⟩, ⟨rfl, (hparts "a" "name").2.1 hname none "c"⟩,
    ⟨rfl, ((hparts "q" "_id.k").2.2 ⟨0, 0⟩ rfl hplain).2 (.inr rfl)⟩, rfl, fun hsame => ?_⟩
  exact (((hparts "a" "_id.k").2.2 ⟨1, 1⟩ rfl hplain).1 hsame).elim hbelow (by decide)

/-- Two documents with identities of their own have the same one after updates with a path below
it. -/
theorem identities_update_merges :
    let docs : List Document :=
      [[("_id", .int32 1), ("name", .string "a")], [("_id", .int32 2), ("name", .string "b")]]
    let change : Document := [("$set", .document [("_id.k", .string "x")])]
    let id : Value := .document [("k", .string "x")]
    ∃ once twice,
      Table.update [("name", .string "a")] change docs = .ok (⟨1, 1⟩, once) ∧
      Table.update [("name", .string "b")] change once = .ok (⟨1, 1⟩, twice) ∧
      Table.identities docs = [some (.int32 1), some (.int32 2)] ∧
      Table.identities twice = [some id, some id] :=
  ⟨_, _, rfl, rfl, rfl, rfl⟩

end DocStore
