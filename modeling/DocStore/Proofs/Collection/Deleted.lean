import DocStore.Proofs.Collection.Threads
import DocStore.Proofs.Store.Writes
import DocStore.Proofs.Value.WholeNumbers
/-!
Documents that are marked as deleted. A guarded update passes over them, so they stay as they are
whatever is saved under guarded updates; only removals that match them take them away.
-/
namespace DocStore

namespace Document

/-- Whether the journal of a document says when it was deleted. -/
def isSoftDeleted (d : Document) : Bool :=
  match d.at? Journal.deleteDatePath with
  | some (.int64 date) => date != 0
  | _ => false

theorem isLive_of_isSoftDeleted {d : Document} (h : d.isSoftDeleted = true) : d.isLive = false := by
  unfold isSoftDeleted at h
  split at h
  · rename_i date hdate
    have hdate0 : date.toInt ≠ 0 := by
      intro hzero
      rw [Int64.toInt_inj.1 (hzero.trans Int64.toInt_zero.symm)] at h
      cases h
    have hlive : d.isLive = (Value.compareNumbers (.int64 date) (.int64 0) == .eq) := by
      rw [isLive, hdate, Filter.equals, Value.matchesEqual, if_pos (by simp [Value.isNumber])]
      all_goals nofun
    rw [hlive, beq_eq_false_iff_ne, Ne, Value.compareNumbers_eq_iff]
    simp only [Value.toBinary64, Int64.toInt_zero]
    exact fun heq => hdate0 ((Binary64.ofInt_inj (by decide)).1 heq)
  · cases h

/-- Whether a document is marked as deleted, and not one of those that may be removed. -/
def isFinal (removable : Document → Bool) (d : Document) : Bool := d.isSoftDeleted && !removable d

variable {removable : Document → Bool} {d : Document}

theorem isLive_of_isFinal (h : d.isFinal removable = true) : d.isLive = false :=
  isLive_of_isSoftDeleted (Bool.and_eq_true_iff.1 h).1

theorem not_removable_of_isFinal (h : d.isFinal removable = true) : removable d = false :=
  (Bool.not_eq_true' _).mp (Bool.and_eq_true_iff.1 h).2

end Document

namespace Table

variable {p : Document → Bool} {docs docs' docs'' : List Document}

/-- All documents of a kind are still there, as they were and in order. -/
def Keeps (p : Document → Bool) (docs docs' : List Document) : Prop :=
  (docs.filter p).Sublist docs'

theorem keeps_refl (docs : List Document) : Keeps p docs docs := List.filter_sublist

theorem Keeps.trans (h : Keeps p docs docs') (h' : Keeps p docs' docs'') : Keeps p docs docs'' := by
  have hfilter := h.filter p
  rw [List.filter_filter, show (fun d => p d && p d) = p from funext fun d => Bool.and_self _]
    at hfilter
  exact hfilter.trans h'

theorem Exchanged.keeps {old next : Document} (h : Exchanged old next docs docs')
    (hold : p old = false) : Keeps p docs docs' := by
  obtain ⟨first, rest, rfl, rfl⟩ := h
  unfold Keeps
  rw [List.filter_append, List.filter_cons, hold]
  exact List.filter_sublist.append (List.filter_sublist.cons next)

end Table

variable [Regex.Engine]

/-- Commands of clients that save under guarded updates. What they remove for good is removable. -/
def Command.Guarded (removable : Document → Bool) : Command → Prop
  | count _ | find _ _ | findOne _ _ | insert _ => True
  | replace _ _ => False
  | update filter _ => ∃ id, filter = SaveStrategy.guardedUpdate.filter id
  | delete filter => ∀ d : Document, d.meets filter = true → removable d = true

variable {removable : Document → Bool}

theorem SaveStrategy.command_guarded (id : ObjectId) (d : Document) :
    (guardedUpdate.command id d).Guarded removable := ⟨id, rfl⟩

namespace Command

/-- Guarded commands leave alone what is final. -/
theorem keeps_of_run {command : Command} (h : command.Guarded removable) {name : String}
    {fresh : ObjectId} {docs docs' : List Document} {reply : Reply}
    (hrun : command.run name fresh docs = .ok (reply, docs')) :
    Table.Keeps (Document.isFinal removable) docs docs' := by
  cases command with
  | count filter | find filter options | findOne filter options =>
    rw [run_of_read rfl hrun]
    exact Table.keeps_refl _
  | insert d =>
    obtain ⟨⟨id, kept⟩, hinsert, hend⟩ := exists_of_bind_eq_ok hrun
    cases hend
    rw [Table.insert_eq_ok hinsert]
    exact List.filter_sublist.trans (List.sublist_append_left _ _)
  | replace filter replacement => cases h
  | update filter changes =>
    obtain ⟨⟨result, kept⟩, hupdate, hend⟩ := exists_of_bind_eq_ok hrun
    cases hend
    obtain ⟨id, rfl⟩ := h
    rcases Table.update_eq_ok hupdate with ⟨_, rfl⟩ | ⟨old, next, _, hold, _, hexchanged, _⟩
    · exact Table.keeps_refl _
    · apply hexchanged.keeps
      rw [SaveStrategy.matchesFilter_filter] at hold
      have hlive : old.isLive = true := (Bool.and_eq_true_iff.1 (Except.ok.inj hold)).2
      cases hfinal : old.isFinal removable with
      | false => rfl
      | true =>
        rw [Document.isLive_of_isFinal hfinal] at hlive
        cases hlive
  | delete filter =>
    obtain ⟨kept, hreject, hend⟩ := exists_of_bind_eq_ok hrun
    cases hend
    obtain ⟨_, rfl⟩ := Table.reject_eq_ok_iff.1 hreject
    apply List.monotone_filter_right
    intro d hfinal
    cases hmeets : d.meets filter with
    | false => rfl
    | true =>
      have hremovable := h d hmeets
      rw [Document.not_removable_of_isFinal hfinal] at hremovable
      cases hremovable

end Command

namespace Tables

variable {p : Document → Bool} {t t' t'' : Tables}

def Keeps (p : Document → Bool) (t t' : Tables) : Prop := ∀ name, Table.Keeps p (t name) (t' name)

omit [Regex.Engine] in
theorem keeps_refl (t : Tables) : Keeps p t t := fun name => Table.keeps_refl (t name)

omit [Regex.Engine] in
theorem Keeps.trans (h : Keeps p t t') (h' : Keeps p t' t'') : Keeps p t t'' :=
  fun name => (h name).trans (h' name)

end Tables

/-- Whatever a guarded command comes to, what is final stays. -/
theorem Execution.keeps_replay {x : Execution} (h : x.command.Guarded removable)
    (database : String) (t : Tables) :
    t.Keeps (Document.isFinal removable) (x.replay database t).2 := by
  unfold replay
  split
  · exact Tables.keeps_refl t
  · unfold Tables.execute
    split
    · rename_i reply docs hrun
      intro name
      by_cases hname : name = x.collection
      · simp only [Tables.set, hname, if_true]
        exact Command.keeps_of_run h hrun
      · simp only [Tables.set, hname, if_false]
        exact Table.keeps_refl _
    · exact Tables.keeps_refl t

end DocStore
