import DocStore.Proofs.Document.Paths
import DocStore.Proofs.Store.Writes
import DocStore.Proofs.Value.Equality
import DocStore.Regex.Default
/-!
Updates that report no change. Such an update has put values only in place of equal ones and removed
nothing; yet `$unset` makes a document of everything in its way, also where it finds nothing to
remove. So the document is as it was if and only if the ways of all removals were there before.
-/
namespace DocStore

section

namespace Document

variable {act : Document → String → Document × Bool} {d d' update : Document}

/-- Each segment leads to another document. -/
def leadsOn (d : Document) : List String → Bool
  | [] => true
  | key :: rest =>
    match d.get? key with
    | some (.document child) => leadsOn child rest
    | _ => false

/-- There is a document that holds the last segment of a path, or would hold it. -/
def hasParent (d : Document) (path : String) : Bool := d.leadsOn (pathSegments path).dropLast

theorem leadsOn_cons {key : String} {rest : List String} :
    d.leadsOn (key :: rest) = true ↔
      ∃ child, d.get? key = some (.document child) ∧ leadsOn child rest = true := by
  rw [leadsOn]
  split
  · rename_i child hchild
    constructor
    · exact fun h => ⟨child, hchild, h⟩
    · rintro ⟨other, hother, h⟩
      cases hchild.symm.trans hother
      exact h
  · rename_i hother
    constructor
    · nofun
    · rintro ⟨child, hchild, _⟩
      exact absurd hchild (hother child)

theorem insert_of_get? {key : String} {v : Value} (h : d.get? key = some v) : d.insert key v = d := by
  induction d with
  | nil => cases h
  | cons field rest ih =>
    obtain ⟨k, w⟩ := field
    rw [get?_cons] at h
    rw [insert]
    by_cases hk : k = key
    · rw [if_pos hk.symm] at h
      cases h
      rw [if_pos hk]
    · rw [if_neg (Ne.symm hk)] at h
      rw [if_neg hk, ih h]

theorem erase_of_get?_eq_none {key : String} (h : d.get? key = none) : d.erase key = d := by
  induction d with
  | nil => rfl
  | cons field rest ih =>
    obtain ⟨k, w⟩ := field
    rw [get?_cons] at h
    rw [erase]
    by_cases hk : k = key
    · rw [if_pos hk.symm] at h
      cases h
    · rw [if_neg (Ne.symm hk)] at h
      rw [if_neg hk, ih h]

/-- Any modification makes a way to its place. -/
theorem leadsOn_modifyParent (act : Document → String → Document × Bool) (d : Document)
    (segments : List String) : (d.modifyParent act segments).1.leadsOn segments.dropLast = true := by
  induction segments generalizing d with
  | nil => rfl
  | cons key rest ih =>
    cases rest with
    | nil => rfl
    | cons next more =>
      rw [List.dropLast_cons_of_ne_nil (List.cons_ne_nil next more), leadsOn_cons]
      exact ⟨_, get?_modifyParent_cons act d key (List.cons_ne_nil next more), ih (d.child key)⟩

/-- Where nothing is removed and the way was there, nothing is different. -/
theorem unset_of_leadsOn {segments : List String}
    (h : (d.modifyParent eraseNoting segments).2 = false)
    (hway : d.leadsOn segments.dropLast = true) : (d.modifyParent eraseNoting segments).1 = d := by
  induction segments generalizing d with
  | nil => rfl
  | cons key rest ih =>
    cases rest with
    | nil => exact erase_of_get?_eq_none (Option.not_isSome_iff_eq_none.1 (Bool.eq_false_iff.1 h))
    | cons next more =>
      have hne := List.cons_ne_nil next more
      rw [List.dropLast_cons_of_ne_nil hne, leadsOn_cons] at hway
      obtain ⟨child, hchild, hway⟩ := hway
      rw [modifyParent_cons _ _ _ hne, child_of_get? hchild] at h ⊢
      dsimp only at h ⊢
      rw [ih h hway, insert_of_get? hchild]

/-- The empty document leads nowhere. -/
theorem follow?_empty (segments : List String) : follow? [] segments = none := by
  match segments with
  | [] => rfl
  | [key] => rfl
  | key :: next :: more => rfl

theorem follow?_cons (d : Document) (key : String) {rest : List String} (h : rest ≠ []) :
    d.follow? (key :: rest) = (d.child key).follow? rest := by
  rw [follow?, child]
  · split
    · rfl
    · exact (follow?_empty rest).symm
  · exact h

/-- A value that is put somewhere without a change being noted takes the place of an equal one. -/
theorem exists_of_set {v : Value} {segments : List String} (hne : segments ≠ [])
    (h : (d.modifyParent (insertNoting v) segments).2 = false) :
    ∃ old, d.follow? segments = some old ∧ old.equal v = true := by
  induction segments generalizing d with
  | nil => exact absurd rfl hne
  | cons key rest ih =>
    cases rest with
    | nil =>
      have hany : ((d.get? key).any fun old => old.equal v) = true := by
        simpa [modifyParent, insertNoting] using h
      obtain ⟨old, hold, hequal⟩ := (Option.any_eq_true _ _).1 hany
      exact ⟨old, hold, hequal⟩
    | cons next more =>
      have hmore := List.cons_ne_nil next more
      rw [modifyParent_cons _ _ _ hmore] at h
      obtain ⟨old, hold, hequal⟩ := ih hmore h
      exact ⟨old, (follow?_cons d key hmore).trans hold, hequal⟩

/-- A document equal to one that leads on leads on as well. -/
theorem leadsOn_of_equalFields {e : Document} {segments : List String}
    (h : Value.equalFields d e = true) (hd : d.leadsOn segments = true) :
    e.leadsOn segments = true := by
  induction segments generalizing d e with
  | nil => rfl
  | cons key rest ih =>
    obtain ⟨child, hchild, hrest⟩ := leadsOn_cons.1 hd
    obtain ⟨w, hw, hequal⟩ := Value.equalFields_iff.1 h _ (mem_of_get? hchild)
    cases w with
    | document fields =>
      rw [Value.equal, Bool.and_eq_true] at hequal
      exact leadsOn_cons.2 ⟨fields, hw, ih hequal.2 hrest⟩
    | _ => cases hequal

theorem leadsOn_insertNoting {v : Value} {key : String} {way : List String}
    (h : (d.insertNoting v key).2 = false) (hd : d.leadsOn way = true) :
    leadsOn (d.insertNoting v key).1 way = true := by
  cases way with
  | nil => rfl
  | cons k rest =>
    obtain ⟨child, hchild, hrest⟩ := leadsOn_cons.1 hd
    rw [insertNoting, leadsOn_cons]
    by_cases hk : k = key
    · subst hk
      have hequal : (Value.document child).equal v = true := by
        simpa [insertNoting, hchild] using h
      cases v with
      | document fields =>
        rw [Value.equal, Bool.and_eq_true] at hequal
        refine ⟨fields, ?_, leadsOn_of_equalFields hequal.2 hrest⟩
        rw [get?_insert, if_pos rfl]
      | _ => cases hequal
    · refine ⟨child, ?_, hrest⟩
      rw [get?_insert, if_neg hk, hchild]

/-- Modifications that note no change block no way. -/
theorem leadsOn_of_unchanged
    (hact : ∀ {d key way}, (act d key).2 = false → leadsOn d way = true →
      leadsOn (act d key).1 way = true)
    {segments way : List String} (h : (d.modifyParent act segments).2 = false)
    (hd : d.leadsOn way = true) : (d.modifyParent act segments).1.leadsOn way = true := by
  induction segments generalizing d way with
  | nil => exact hd
  | cons key rest ih =>
    cases rest with
    | nil => exact hact h hd
    | cons next more =>
      have hmore := List.cons_ne_nil next more
      rw [modifyParent_cons _ _ _ hmore] at h ⊢
      cases way with
      | nil => rfl
      | cons k way =>
        obtain ⟨child, hchild, hway⟩ := leadsOn_cons.1 hd
        rw [leadsOn_cons]
        by_cases hk : k = key
        · subst hk
          rw [child_of_get? hchild] at h ⊢
          refine ⟨_, ?_, ih h hway⟩
          rw [get?_insert, if_pos rfl]
        · refine ⟨child, ?_, hway⟩
          rw [get?_insert, if_neg hk, hchild]

theorem leadsOn_setAt {path : String} {v : Value} {way : List String}
    (h : (d.setAt path v).2 = false) (hd : d.leadsOn way = true) :
    (d.setAt path v).1.leadsOn way = true :=
  leadsOn_of_unchanged leadsOn_insertNoting h hd

theorem leadsOn_unsetAt {path : String} {way : List String} (h : (d.unsetAt path).2 = false)
    (hd : d.leadsOn way = true) : (d.unsetAt path).1.leadsOn way = true := by
  refine leadsOn_of_unchanged ?_ h hd
  intro d key way hnone hway
  have hmissing := Option.not_isSome_iff_eq_none.1 (Bool.eq_false_iff.1 hnone)
  rwa [eraseNoting, erase_of_get?_eq_none hmissing]

/-- The paths that an update removes values from. -/
def unsetPaths (update : Document) : List String :=
  (update.modifications.filter fun m => m.modifier = "$unset").map Modification.path

/-- Values of a document are put in place of equal ones. -/
inductive Retouched : Document → Document → Prop
  | refl (d : Document) : Retouched d d
  | set {d d' : Document} (path : String) {old v : Value} :
    d.follow? (pathSegments path) = some old → old.equal v = true →
      Retouched (d.setAt path v).1 d' → Retouched d d'

theorem mem_unsetPaths {path : String} :
    path ∈ update.unsetPaths ↔ ∃ m ∈ update.modifications, m.modifier = "$unset" ∧ m.path = path := by
  simp [unsetPaths, and_assoc]

section Unchanged

variable {steps : List Modification}

/-- One modification without a change keeps all ways, and there is a way to its own place. -/
theorem leadsOn_of_modify {m : Modification} {next : Document}
    (h : d.modify m.modifier m.path m.argument = .ok (next, false)) :
    (∀ way, d.leadsOn way = true → next.leadsOn way = true) ∧ next.hasParent m.path = true := by
  obtain ⟨_, ⟨_, hresult⟩ | ⟨_, v, hresult⟩⟩ := modify_eq_ok h
  · have hnext : next = (d.unsetAt m.path).1 := congrArg Prod.fst hresult
    have hchanged : (d.unsetAt m.path).2 = false := (congrArg Prod.snd hresult).symm
    rw [hnext]
    exact ⟨fun way hway => leadsOn_unsetAt hchanged hway, leadsOn_modifyParent _ _ _⟩
  · have hnext : next = (d.setAt m.path v).1 := congrArg Prod.fst hresult
    have hchanged : (d.setAt m.path v).2 = false := (congrArg Prod.snd hresult).symm
    rw [hnext]
    exact ⟨fun way hway => leadsOn_setAt hchanged hway, leadsOn_modifyParent _ _ _⟩

/-- All ways are kept, and in the end there is a way to the place of each modification. -/
theorem Modified.leadsOn {changed : Bool} (h : Modified d steps changed d')
    (hchanged : changed = false) :
    (∀ way, d.leadsOn way = true → d'.leadsOn way = true) ∧
      ∀ m ∈ steps, d'.hasParent m.path = true := by
  induction h with
  | nil d => exact ⟨fun _ h => h, nofun⟩
  | @cons d next d' m rest here later hmodify _ ih =>
    obtain ⟨rfl, hlater⟩ := Bool.or_eq_false_iff.1 hchanged
    obtain ⟨hkeeps, hparent⟩ := leadsOn_of_modify hmodify
    obtain ⟨hkeeps', hparents⟩ := ih hlater
    refine ⟨fun way hway => hkeeps' way (hkeeps way hway), ?_⟩
    intro other hother
    rcases List.mem_cons.1 hother with rfl | hother
    · exact hkeeps' _ hparent
    · exact hparents other hother

theorem Modified.retouched {changed : Bool} (h : Modified d steps changed d')
    (hchanged : changed = false)
    (hways : ∀ m ∈ steps, m.modifier = "$unset" → d.hasParent m.path = true) : Retouched d d' := by
  induction h with
  | nil d => exact .refl d
  | @cons d next d' m rest here later hmodify _ ih =>
    obtain ⟨rfl, hlater⟩ := Bool.or_eq_false_iff.1 hchanged
    have hrest : Retouched next d' := ih hlater fun other hother hunset =>
      (leadsOn_of_modify hmodify).1 _ (hways other (List.mem_cons_of_mem _ hother) hunset)
    obtain ⟨_, ⟨hunset, hresult⟩ | ⟨_, v, hresult⟩⟩ := modify_eq_ok hmodify
    · have hunchanged : (d.unsetAt m.path).2 = false := (congrArg Prod.snd hresult).symm
      have hnext : next = d := (congrArg Prod.fst hresult).trans
        (unset_of_leadsOn hunchanged (hways m List.mem_cons_self hunset))
      rwa [hnext] at hrest
    · have hunchanged : (d.setAt m.path v).2 = false := (congrArg Prod.snd hresult).symm
      have hnext : next = (d.setAt m.path v).1 := congrArg Prod.fst hresult
      obtain ⟨old, hold, hequal⟩ := exists_of_set (pathSegments_ne_nil m.path) hunchanged
      rw [hnext] at hrest
      exact .set m.path hold hequal hrest

/-- Removals alone leave the document as it is where they find their ways. -/
theorem Modified.eq_of_unset {changed : Bool} (h : Modified d steps changed d')
    (hchanged : changed = false) (hunset : ∀ m ∈ steps, m.modifier = "$unset")
    (hways : ∀ m ∈ steps, d.hasParent m.path = true) : d' = d := by
  induction h with
  | nil d => rfl
  | @cons d next d' m rest here later hmodify _ ih =>
    obtain ⟨rfl, hlater⟩ := Bool.or_eq_false_iff.1 hchanged
    obtain ⟨_, ⟨_, hresult⟩ | ⟨hset, _⟩⟩ := modify_eq_ok hmodify
    · have hunchanged : (d.unsetAt m.path).2 = false := (congrArg Prod.snd hresult).symm
      have hnext : next = d := (congrArg Prod.fst hresult).trans
        (unset_of_leadsOn hunchanged (hways m List.mem_cons_self))
      subst hnext
      exact ih hlater (fun other hother => hunset other (List.mem_cons_of_mem _ hother))
        fun other hother => hways other (List.mem_cons_of_mem _ hother)
    · exact absurd (hunset m List.mem_cons_self) hset

end Unchanged

/-- A removal finds what its path leads to. -/
theorem changed_unset (d : Document) (segments : List String) :
    (d.modifyParent eraseNoting segments).2 = (d.follow? segments).isSome := by
  induction segments generalizing d with
  | nil => rfl
  | cons key rest ih =>
    cases rest with
    | nil => rfl
    | cons next more =>
      have hmore := List.cons_ne_nil next more
      rw [modifyParent_cons _ _ _ hmore, follow?_cons d key hmore, ih]

theorem applyUpdate_unset {path : String} (hpath : path ≠ "_id") (d : Document) (argument : Value) :
    d.applyUpdate [("$unset", .document [(path, argument)])] = .ok (d.unsetAt path) := by
  have hmodify : d.modify "$unset" path argument = .ok (d.unsetAt path) := if_neg hpath
  rw [applyUpdate, if_neg (by simp), applyModifiers, modifyAll, hmodify]
  rfl

/-- The removal of what is not there changes the document if and only if there is no way to it. -/
theorem unsetAt_eq_iff {path : String} (h : d.follow? (pathSegments path) = none) :
    (d.unsetAt path).2 = false ∧ ((d.unsetAt path).1 = d ↔ d.hasParent path = true) := by
  have hunchanged : (d.unsetAt path).2 = false := by
    rw [unsetAt, changed_unset, h]
    rfl
  refine ⟨hunchanged, ?_, fun hway => unset_of_leadsOn hunchanged hway⟩
  intro hsame
  have hway : (d.unsetAt path).1.hasParent path = true := leadsOn_modifyParent _ _ _
  rwa [hsame] at hway

end Document

variable [Regex.Engine]

/-- An update that reports no change has put values in place of equal ones at most, provided that
there was a way to each path it removes; without such a way the document is another one. Removals
alone leave it as it is if and only if all ways were there. -/
theorem update_unreported (update : Document) :
    (∀ d d' : Document, d.applyUpdate update = .ok (d', false) →
      ((∀ path ∈ update.unsetPaths, d.hasParent path = true) → Document.Retouched d d') ∧
      (∀ path ∈ update.unsetPaths, d.hasParent path = false → d' ≠ d) ∧
      ((∀ m ∈ update.modifications, m.modifier = "$unset") →
        (d' = d ↔ ∀ path ∈ update.unsetPaths, d.hasParent path = true))) ∧
    (∀ (d : Document) (path : String) (argument : Value), path ≠ "_id" →
      d.follow? (pathSegments path) = none →
      ∃ d', d.applyUpdate [("$unset", .document [(path, argument)])] = .ok (d', false) ∧
        (d' = d ↔ d.hasParent path = true)) ∧
    ∀ (context : Context) (session : Option SessionNumber) (collection : String)
      (filter : Document) (s t : Host) (matched : Nat),
      (Host.update context session collection filter update).on s = (.ok ⟨matched, 0⟩, t) →
      List.Forall₂
        (fun d d' => (∀ path ∈ update.unsetPaths, d.hasParent path = true) →
          Document.Retouched d d')
        (s.store.visibleTables session collection)
        (t.store.visibleTables session collection) := by
  have hretouched : ∀ {d d' : Document}, d.applyUpdate update = .ok (d', false) →
      (∀ path ∈ update.unsetPaths, d.hasParent path = true) → Document.Retouched d d' := by
    intro d d' h hways
    exact (Document.modified_of_applyUpdate h).retouched rfl fun m hm hunset =>
      hways m.path (Document.mem_unsetPaths.2 ⟨m, hm, hunset, rfl⟩)
  have hparents : ∀ {d d' : Document}, d.applyUpdate update = .ok (d', false) →
      ∀ path ∈ update.unsetPaths, d'.hasParent path = true := by
    intro d d' h path hpath
    obtain ⟨m, hm, _, rfl⟩ := Document.mem_unsetPaths.1 hpath
    exact ((Document.modified_of_applyUpdate h).leadsOn rfl).2 m hm
  refine ⟨?_, ?_, ?_⟩
  · intro d d' h
    refine ⟨hretouched h, ?_, ?_⟩
    · rintro path hpath hmissing rfl
      rw [hparents h path hpath] at hmissing
      cases hmissing
    · intro hunset
      constructor
      · rintro rfl
        exact hparents h
      · intro hways
        exact (Document.modified_of_applyUpdate h).eq_of_unset rfl hunset fun m hm =>
          hways m.path (Document.mem_unsetPaths.2 ⟨m, hm, hunset m hm, rfl⟩)
  · intro d path argument hpath hmissing
    obtain ⟨hunchanged, hiff⟩ := Document.unsetAt_eq_iff hmissing
    refine ⟨(d.unsetAt path).1, ?_, hiff⟩
    rw [Document.applyUpdate_unset hpath, ← hunchanged]
  · intro context session collection filter s t matched h
    rcases Table.update_eq_ok (Host.update_eq_ok h) with ⟨_, hsame⟩ |
      ⟨old, next, changed, _, hupdate, hexchanged, hresult⟩
    · rw [hsame]
      exact List.forall₂_same.2 fun d _ _ => .refl d
    · have hchanged : changed = false := by
        cases changed with
        | false => rfl
        | true => cases hresult
      rw [hchanged] at hupdate
      exact Table.forall₂_of_exchanged (fun d _ => .refl d) hexchanged (hretouched hupdate)

end

open scoped Regex

/-- A document takes the place of one with the same fields in another order, and a removal finds its way but
nothing to remove. A removal without a way leaves another document. -/
theorem update_unreported_reordered :
    let fields : Document := [("k", .int32 1), ("l", .int32 2)]
    let d (v : Document) : Document := [("_id", .int32 1), ("a", .document v), ("n", .string "x")]
    let removal (path : String) : Document := [("$unset", .document [(path, .string "")])]
    let update : Document := ("$set", .document [("a", .document fields.reverse)]) :: removal "a.x"
    let docs : List Document := [[("_id", .int32 2), ("a", .document [])], d fields]
    let s : Host :=
      { store := { database := "d", tables := Tables.empty.set "c" docs }, timeline := { now := 0 } }
    let call := (Host.update .background none "c" [("n", .string "x")] update).on s
    ((d fields).applyUpdate update = .ok (d fields.reverse, false) ∧
        (d fields).Retouched (d fields.reverse)) ∧
      (d fields).applyUpdate (removal "a.x") = .ok (d fields, false) ∧
      (∃ d', (d fields).applyUpdate (removal "n.x") = .ok (d', false) ∧ d' ≠ d fields) ∧
      call.1 = .ok ⟨1, 0⟩ ∧
      List.Forall₂ Document.Retouched docs (call.2.store.visibleTables none "c") := by
  intro fields d removal update docs s call
  obtain ⟨hupdate, -, hcall⟩ := update_unreported update
  obtain ⟨-, hmissing, -⟩ := update_unreported []
  have hchanged : (d fields).applyUpdate update = .ok (d fields.reverse, false) := rfl
  have hway : ∀ path ∈ update.unsetPaths, (d fields).hasParent path = true := by decide
  have hkept : (d fields).applyUpdate (removal "a.x") = .ok (d fields, false) := rfl
  obtain ⟨d', hlost, hiff⟩ := hmissing (d fields) "n.x" (.string "") (by decide) rfl
  have hlacks : (d fields).hasParent "n.x" = false := by decide
  have hanswer : call.1 = .ok ⟨1, 0⟩ := rfl
  have hleft := hcall .background none "c" [("n", .string "x")] s call.2 1 (Prod.ext hanswer rfl)
  refine ⟨⟨hchanged, (hupdate _ _ hchanged).1 hway⟩, hkept, ⟨d', hlost, fun heq => ?_⟩, hanswer, ?_⟩
  · rw [hiff.1 heq] at hlacks
    cases hlacks
  · have hways : ∀ old ∈ docs, ∀ path ∈ update.unsetPaths, old.hasParent path = true := by decide
    exact ((List.forall₂_and_left _ _).2 ⟨hways, hleft⟩).imp fun _ _ h => h.2 h.1

/-- A removal below a number finds nothing and reports no change, and yet the number gives way to a
document. -/
theorem update_unreported_loses_number :
    let d : Document := [("_id", .int32 1), ("a", .int32 5)]
    let d' : Document := [("_id", .int32 1), ("a", .document [])]
    d.applyUpdate [("$unset", .document [("a.b", .string "")])] = .ok (d', false) ∧
      d.follow? (pathSegments "a.b") = none ∧ d' ≠ d :=
  ⟨rfl, rfl, by simp⟩

end DocStore
