import DocStore.Proofs.Store.Identities
import DocStore.Proofs.Store.Invariants
import DocStore.Proofs.Value.Equality
import DocStore.Regex.Default
/-!
Unique identities. In a store that began empty and was never updated below `_id`, every document of the
committed tables and of the open transactions begins with its identity, and no other document of its
collection has an equal one.
-/
namespace DocStore

section

namespace Document

variable {id : Value} {d d' x y : Document} {act : Document → String → Document × Bool}

/-- Both documents have identities, and these are equal. -/
def SameIdentity (x y : Document) : Prop :=
  ∃ v w, x.get? "_id" = some v ∧ y.get? "_id" = some w ∧ v.equal w = true

def BeginsWith (id : Value) (d : Document) : Prop := ∃ rest, d = ("_id", id) :: rest

theorem BeginsWith.get?_id (h : d.BeginsWith id) : d.get? "_id" = some id := by
  obtain ⟨rest, rfl⟩ := h
  exact List.lookup_cons_self

/-- An act on any other field leaves the identity in front. -/
def KeepsFront (act : Document → String → Document × Bool) : Prop :=
  ∀ id rest key, key ≠ "_id" → BeginsWith id (act (("_id", id) :: rest) key).1

theorem beginsWith_insert {key : String} (hkey : key ≠ "_id") (h : d.BeginsWith id) (v : Value) :
    (d.insert key v).BeginsWith id := by
  obtain ⟨rest, rfl⟩ := h
  exact ⟨insert rest key v, by rw [insert, if_neg hkey.symm]⟩

theorem keepsFront_insertNoting (v : Value) : KeepsFront (insertNoting v) :=
  fun _ rest _ hkey => beginsWith_insert hkey ⟨rest, rfl⟩ v

theorem keepsFront_eraseNoting : KeepsFront eraseNoting :=
  fun _ rest key hkey => ⟨erase rest key, by rw [eraseNoting, erase, if_neg hkey.symm]⟩

theorem beginsWith_modifyParent (hact : KeepsFront act) {segments : List String}
    (hsegments : segments.head? ≠ some "_id") (h : d.BeginsWith id) :
    (d.modifyParent act segments).1.BeginsWith id := by
  have hne : ∀ key rest, segments = key :: rest → key ≠ "_id" := by
    rintro key rest rfl rfl
    exact hsegments rfl
  match segments with
  | [] => exact h
  | [key] =>
    obtain ⟨rest, rfl⟩ := h
    exact hact id rest key (hne key [] rfl)
  | key :: next :: more =>
    rw [modifyParent_cons act d key (List.cons_ne_nil next more)]
    exact beginsWith_insert (hne key _ rfl) h _

/-- Modifications that leave the identity alone leave it in front. -/
theorem Modified.beginsWith {steps : List Modification} {changed : Bool}
    (h : Modified d steps changed d') (hsteps : ∀ m ∈ steps, ¬UnderIdentity m.path)
    (hd : d.BeginsWith id) : d'.BeginsWith id := by
  induction h with
  | nil d => exact hd
  | @cons d next d' m rest here later hmodify _ ih =>
    apply ih fun m hm => hsteps m (List.mem_cons_of_mem _ hm)
    obtain ⟨hpath, ⟨_, hresult⟩ | ⟨_, v, hresult⟩⟩ := modify_eq_ok hmodify
    · have hhead := head?_pathSegments_ne hpath (hsteps m List.mem_cons_self)
      have hnext : next = (d.unsetAt m.path).1 := congrArg Prod.fst hresult
      rw [hnext]
      exact beginsWith_modifyParent keepsFront_eraseNoting hhead hd
    · have hhead := head?_pathSegments_ne hpath (hsteps m List.mem_cons_self)
      have hnext : next = (d.setAt m.path v).1 := congrArg Prod.fst hresult
      rw [hnext]
      exact beginsWith_modifyParent (keepsFront_insertNoting v) hhead hd

end Document

namespace Table

open Document

variable {filter : Document} {docs docs' : List Document}

/-- Every document begins with an identity, and no later one has an equal identity. -/
structure Identified (docs : List Document) : Prop where
  first : ∀ d ∈ docs, ∃ id, id.DistinctKeys ∧ d.BeginsWith id
  distinct : docs.Pairwise fun x y => ¬x.SameIdentity y

theorem identified_nil : Identified [] := ⟨nofun, .nil⟩

theorem Identified.sublist (h : Identified docs) (hsub : docs'.Sublist docs) : Identified docs' :=
  ⟨fun d hd => h.first d (hsub.subset hd), h.distinct.sublist hsub⟩

/-- Equality of identities is symmetric here, so the order of two documents plays no part. -/
theorem Identified.not_sameIdentity (h : Identified docs) {i j : Nat} {x y : Document} (hne : i ≠ j)
    (hx : docs[i]? = some x) (hy : docs[j]? = some y) : ¬x.SameIdentity y := by
  have hearlier : ∀ {i j : Nat} {x y : Document}, i < j → docs[i]? = some x → docs[j]? = some y →
      ¬x.SameIdentity y := by
    intro i j x y hij hx hy
    obtain ⟨hi, rfl⟩ := List.getElem?_eq_some_iff.1 hx
    obtain ⟨hj, rfl⟩ := List.getElem?_eq_some_iff.1 hy
    exact List.pairwise_iff_getElem.1 h.distinct i j hi hj hij
  rcases Nat.lt_or_gt_of_ne hne with hij | hji
  · exact hearlier hij hx hy
  · rintro ⟨v, w, hv, hw, hequal⟩
    have hkeys : ∀ {k : Nat} {z : Document} {u : Value}, docs[k]? = some z → z.get? "_id" = some u →
        u.DistinctKeys := by
      intro k z u hz hu
      obtain ⟨id, hid, hfront⟩ := h.first z (List.mem_of_getElem? hz)
      rw [hfront.get?_id] at hu
      cases hu
      exact hid
    have hsymm : w.equal v = true :=
      (Value.equal_comm (hkeys hy hw) (hkeys hx hv)).trans hequal
    exact hearlier hji hy hx ⟨w, v, hw, hv, hsymm⟩

theorem Identified.exchanged {old next : Document} (h : Identified docs)
    (hexchanged : Exchanged old next docs docs')
    (hnext : ∀ id, old.BeginsWith id → next.BeginsWith id) : Identified docs' := by
  obtain ⟨id, hid, hold⟩ := h.first old hexchanged.mem
  have hfront := hnext id hold
  have hsame : docs'.map (fun d => d.get? "_id") = docs.map fun d => d.get? "_id" :=
    hexchanged.map_eq (hfront.get?_id.trans hold.get?_id.symm)
  constructor
  · obtain ⟨before, after, rfl, rfl⟩ := hexchanged
    intro d hd
    rcases List.mem_append.1 hd with hd | hd
    · exact h.first d (List.mem_append_left _ hd)
    · rcases List.mem_cons.1 hd with rfl | hd
      · exact ⟨id, hid, hfront⟩
      · exact h.first d (List.mem_append_right _ (List.mem_cons_of_mem _ hd))
  · -- The identities stand where they stood, so no pair of them is a new one.
    let unequal (a b : Option Value) : Prop := ¬∃ v w, a = some v ∧ b = some w ∧ v.equal w = true
    have hdistinct : (docs.map fun d => d.get? "_id").Pairwise unequal :=
      List.pairwise_map.2 h.distinct
    rw [← hsame] at hdistinct
    exact List.pairwise_map.1 hdistinct

theorem Identified.insert {name : String} {fresh : ObjectId} {d : Document} {id : Value}
    (h : Identified docs) (hd : (Value.document d).DistinctKeys)
    (hinsert : Table.insert name fresh d docs = .ok (id, docs')) : Identified docs' := by
  rw [Table.insert] at hinsert
  split at hinsert
  · cases hinsert
  · rename_i hlacks
    cases hinsert
    have hid : ((d.get? "_id").getD (.objectId fresh)).DistinctKeys := by
      cases hown : d.get? "_id" with
      | none => trivial
      | some v => exact Value.distinctFields_iff.1 hd.2 _ (mem_of_get? hown)
    constructor
    · intro x hx
      rcases List.mem_append.1 hx with hx | hx
      · exact h.first x hx
      · rw [List.mem_singleton.1 hx]
        exact ⟨_, hid, _, rfl⟩
    · refine List.pairwise_append.2 ⟨h.distinct, List.pairwise_singleton _ _, ?_⟩
      rintro x hx y hy ⟨v, w, hv, hw, hequal⟩
      rw [List.mem_singleton.1 hy] at hw
      cases hw
      apply hlacks
      refine List.any_eq_true.2 ⟨x, hx, ?_⟩
      rw [hv]
      exact hequal

variable [Regex.Engine]

theorem Identified.replace {replacement : Document} {result : UpdateResult} (h : Identified docs)
    (hreplace : Table.replace filter replacement docs = .ok (result, docs')) : Identified docs' := by
  rcases replace_eq_ok hreplace with ⟨_, rfl⟩ | ⟨old, _, hexchanged⟩
  · exact h
  · refine h.exchanged hexchanged fun id hold => ?_
    rw [successor, hold.get?_id]
    exact ⟨_, rfl⟩

theorem Identified.update {changes : Document} {result : UpdateResult} (h : Identified docs)
    (hchanges : changes.SparesIdentity)
    (hupdate : Table.update filter changes docs = .ok (result, docs')) : Identified docs' := by
  rcases update_eq_ok hupdate with ⟨_, rfl⟩ | ⟨old, next, changed, _, happly, hexchanged, _⟩
  · exact h
  · exact h.exchanged hexchanged fun id hold => (modified_of_applyUpdate happly).beginsWith hchanges hold

theorem Identified.reject (h : Identified docs) (hreject : Table.reject filter docs = .ok docs') :
    Identified docs' := by
  obtain ⟨_, rfl⟩ := reject_eq_ok_iff.1 hreject
  exact h.sublist List.filter_sublist

end Table

/-- Any command on documents as they are in a store, but for updates below `_id`. -/
def Command.Identifying : Command → Prop
  | insert d => (Value.document d).DistinctKeys
  | update _ changes => changes.SparesIdentity
  | count _ | find _ _ | findOne _ _ | replace _ _ | delete _ => True

variable [Regex.Engine]

theorem Command.Identifying.run {command : Command} (h : command.Identifying) {name : String}
    {fresh : ObjectId} {docs docs' : List Document} {reply : Reply} (hdocs : Table.Identified docs)
    (hrun : command.run name fresh docs = .ok (reply, docs')) : Table.Identified docs' := by
  cases command with
  | count filter | find filter options | findOne filter options =>
    rw [run_of_read rfl hrun]
    exact hdocs
  | insert d =>
    obtain ⟨_, hinsert, hend⟩ := exists_of_bind_eq_ok hrun
    cases hend
    exact hdocs.insert h hinsert
  | replace filter replacement =>
    obtain ⟨_, hreplace, hend⟩ := exists_of_bind_eq_ok hrun
    cases hend
    exact hdocs.replace hreplace
  | update filter changes =>
    obtain ⟨_, hupdate, hend⟩ := exists_of_bind_eq_ok hrun
    cases hend
    exact hdocs.update h hupdate
  | delete filter =>
    obtain ⟨_, hreject, hend⟩ := exists_of_bind_eq_ok hrun
    cases hend
    exact hdocs.reject hreject

def Tables.Identified (t : Tables) : Prop := ∀ name, Table.Identified (t name)

theorem Tables.Identified.execute {t : Tables} (h : t.Identified) {command : Command}
    (hcommand : command.Identifying) (database collection : String) (identity : ObjectId) :
    (t.execute database collection identity command).2.Identified := by
  unfold Tables.execute
  split
  · rename_i reply docs hrun
    intro name
    simp only [Tables.set]
    split
    · exact hcommand.run (h collection) hrun
    · exact h name
  · exact h

/-- After any run of calls from an empty store, in the committed tables and in those of every open
transaction, documents begin with their identities, and two documents of one collection never have
equal ones. -/
theorem runAll_identified (s : Host) (hempty : ∀ name, s.store.tables name = [])
    (hquiet : ∀ n, s.store.openTransaction? (some n) = none) (calls : List Call)
    (hcalls : ∀ c ∈ calls, c.Issues Command.Identifying) :
    let t := (Call.runAll s calls).2
    ∀ tables : Tables, (tables = t.store.tables ∨
        ∃ n transaction, t.store.openTransaction? (some n) = some transaction ∧
          tables = transaction.tables) →
      ∀ name, (∀ d ∈ tables name, d.keys.head? = some "_id") ∧
        ∀ (i j : Nat) (x y : Document), i ≠ j → (tables name)[i]? = some x →
          (tables name)[j]? = some y → ¬x.SameIdentity y := by
  intro t tables htables name
  have hstart : s.store.ledger.Everywhere Tables.Identified := by
    refine ⟨fun name => ?_, fun n transaction hn => ?_⟩
    · rw [show s.store.ledger.tables name = [] from hempty name]
      exact Table.identified_nil
    · rw [show s.store.ledger.transactions n = none from hquiet n] at hn
      cases hn
  have hend : t.store.ledger.Everywhere Tables.Identified :=
    Call.runAll_everywhere
      (fun command hcommand database t collection identity ht =>
        ht.execute hcommand database collection identity) hcalls hstart
  have hidentified : tables.Identified := by
    rcases htables with rfl | ⟨n, transaction, hn, rfl⟩
    · exact hend.committed
    · exact hend.opened n transaction hn
  refine ⟨fun d hd => ?_, fun i j x y => (hidentified name).not_sameIdentity⟩
  obtain ⟨id, _, rest, rfl⟩ := (hidentified name).first d hd
  rfl

end

open scoped Regex

/-- Two transactions insert under identities that are equal as maps, and the first one commits. The
identity is refused in either order of its fields, while two that are no number are not equal. -/
theorem runAll_identified_fields :
    let s : Host := { store := { database := "d" }, timeline := { now := 0 } }
    let fields : List (String × Value) := [("a", .int32 1), ("b", .int32 2)]
    let insert (session : Option SessionNumber) (id : Value) : Call :=
      .command .background session "c" (.insert [("name", .null), ("_id", id)])
    let calls := [.startSession {}, .startSession {}, .startTransaction 0 {},
      .startTransaction 1 {}, insert (some 0) (.document fields),
      insert (some 1) (.document fields.reverse), insert (some 1) (.document fields), .commit 0,
      insert none (.document fields.reverse), insert none (.double (.nan false)),
      insert none (.double (.nan false))]
    (∀ name, s.store.tables name = []) ∧ (∀ n, s.store.openTransaction? (some n) = none) ∧
      (∀ c ∈ calls, c.Issues Command.Identifying) ∧
      ((Call.runAll s calls).2.store.tables "c").length = 3 ∧
      ((Call.runAll s calls).2.store.visibleTables (some 1) "c").length = 1 ∧
      ∀ (i j : Nat) (x y : Document), i ≠ j →
        ((Call.runAll s calls).2.store.tables "c")[i]? = some x →
        ((Call.runAll s calls).2.store.tables "c")[j]? = some y → ¬x.SameIdentity y := by
  intro s fields insert calls
  have hkeys : (Document.keys [("name", .null), ("_id", .null)]).Nodup := by decide
  have hinsert : ∀ session id, id.DistinctKeys → (insert session id).Issues Command.Identifying :=
    fun session id hid => ⟨hkeys, trivial, hid, trivial⟩
  have hfields : (Value.document fields).DistinctKeys :=
    ⟨(by decide : ["a", "b"].Nodup), trivial, trivial, trivial⟩
  have hreverse : (Value.document fields.reverse).DistinctKeys :=
    ⟨(by decide : ["b", "a"].Nodup), trivial, trivial, trivial⟩
  have hcalls : ∀ c ∈ calls, c.Issues Command.Identifying := by
    simp only [calls, List.forall_mem_cons]
    exact ⟨trivial, trivial, trivial, trivial, hinsert _ _ hfields, hinsert _ _ hreverse,
      hinsert _ _ hfields, trivial, hinsert _ _ hreverse, hinsert _ _ trivial,
      hinsert _ _ trivial, nofun⟩
  have hidentified := runAll_identified s (fun _ => rfl) (fun _ => rfl) calls hcalls _ (.inl rfl) "c"
  exact ⟨fun _ => rfl, fun _ => rfl, hcalls, by decide +kernel, by decide +kernel, hidentified.2⟩

end DocStore
