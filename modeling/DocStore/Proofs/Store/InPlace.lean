import DocStore.Proofs.Store.Admission
import DocStore.Proofs.Store.Ledger
/-!
Writes that change documents in place. The documents are held in memory, a command reads and stores
them step by step, and a fault ends it with everything stored so far. An update carries out its
modifiers on a working copy; all other commands find out whether they fail before they store
anything. So a command that fails has stored nothing, and one that succeeds has stored what the
command makes of the documents as a whole.
-/
namespace DocStore

/-- A program on something held in memory. A fault ends it, and what it has stored stays. -/
abbrev InPlace (σ : Type) := ExceptT StoreError (StateM σ)

namespace InPlace

/-- Answer of a program, with the memory after it. -/
def on (program : InPlace σ α) (memory : σ) : Except StoreError α × σ := program.run.run memory

theorem on_bind (x : InPlace σ α) (f : α → InPlace σ β) (memory : σ) :
    on (x >>= f) memory = match on x memory with
      | (.ok a, later) => on (f a) later
      | (.error e, later) => (.error e, later) := by
  simp only [on, ExceptT.run_bind, StateT.run_bind]
  rcases StateT.run (ExceptT.run x) memory with ⟨e | a, later⟩ <;> rfl

theorem on_get_bind (f : σ → InPlace σ β) (memory : σ) :
    on (get >>= f) memory = on (f memory) memory := rfl

/-- Something that only looks at the memory may fail and stores nothing. -/
theorem on_liftM_bind (x : Except StoreError α) (f : α → InPlace σ β) (memory : σ) :
    on (liftM x >>= f) memory = match x with
      | .ok a => on (f a) memory
      | .error e => (.error e, memory) := by
  cases x <;> rfl

/-- What a change makes of the memory if it either takes place as a whole or not at all. -/
def allOrNothing (memory : σ) : Except StoreError (α × σ) → Except StoreError α × σ
  | .ok (a, later) => (.ok a, later)
  | .error e => (.error e, memory)

end InPlace

namespace Document

/-- Carries out one modifier on the document in memory, and says whether it changed. -/
def modifyInPlace (modifier path : String) (argument : Value) : InPlace Document Bool := do
  let (next, changed) ← liftM ((← get).modify modifier path argument)
  set next
  return changed

def modifyAllInPlace (modifier : String) (changed : Bool) :
    List (String × Value) → InPlace Document Bool
  | [] => return changed
  | (path, argument) :: rest => do
    let changedHere ← modifyInPlace modifier path argument
    modifyAllInPlace modifier (changed || changedHere) rest

def applyModifiersInPlace (changed : Bool) : List (String × Value) → InPlace Document Bool
  | [] => return changed
  | (modifier, .document fields) :: rest => do
    let changed ← modifyAllInPlace modifier changed fields
    applyModifiersInPlace changed rest
  | (modifier, _) :: _ => throw (.badValue ("modifier " ++ modifier ++ " needs an object"))

/-- Carries out an update on the document in memory. A modifier that fails leaves those before it
carried out. -/
def updateInPlace (update : Document) : InPlace Document Bool :=
  if update.isEmpty || update.any fun (key, _) => key.toList.head? != some '$' then
    throw (.badValue "update document requires atomic operators")
  else applyModifiersInPlace false update

/-- A program makes of the document in memory what a function makes of it, and fails where that
fails, with some part of the work done. -/
structure Performs (program : InPlace Document Bool)
    (f : Document → Except StoreError (Document × Bool)) : Prop where
  done : ∀ {d next changed}, f d = .ok (next, changed) → program.on d = (.ok changed, next)
  failed : ∀ {d e}, f d = .error e → ∃ later, program.on d = (.error e, later)

theorem performs_throw (e : StoreError) : Performs (throw e) fun _ => .error e := by
  refine ⟨nofun, ?_⟩
  intro d e' h
  cases h
  exact ⟨d, rfl⟩

theorem performs_pure (changed : Bool) : Performs (pure changed) fun d => .ok (d, changed) := by
  refine ⟨?_, nofun⟩
  intro d next changed' h
  cases h
  rfl

/-- One program after the other, the second one on what the first one left. -/
theorem Performs.bind {program : InPlace Document Bool} {rest : Bool → InPlace Document Bool}
    {f : Document → Except StoreError (Document × Bool)}
    {g : Document × Bool → Except StoreError (Document × Bool)} (h : Performs program f)
    (hrest : ∀ changed, Performs (rest changed) fun d => g (d, changed)) :
    Performs (program >>= rest) fun d => f d >>= g := by
  constructor
  · intro d next changed hok
    obtain ⟨⟨middle, here⟩, hf, hg⟩ := exists_of_bind_eq_ok hok
    rw [InPlace.on_bind, h.done hf]
    exact (hrest here).done hg
  · intro d e herror
    rw [InPlace.on_bind]
    rcases hf : f d with e' | ⟨middle, here⟩
    · obtain ⟨later, hon⟩ := h.failed hf
      rw [hf] at herror
      cases herror
      rw [hon]
      exact ⟨later, rfl⟩
    · rw [hf] at herror
      rw [h.done hf]
      exact (hrest here).failed herror

theorem performs_modifyInPlace (modifier path : String) (argument : Value) :
    Performs (modifyInPlace modifier path argument) fun d => d.modify modifier path argument := by
  constructor
  · intro d next changed hok
    rw [modifyInPlace, InPlace.on_get_bind, InPlace.on_liftM_bind, hok]
    rfl
  · intro d e herror
    rw [modifyInPlace, InPlace.on_get_bind, InPlace.on_liftM_bind, herror]
    exact ⟨d, rfl⟩

theorem performs_modifyAllInPlace (modifier : String) (fields : List (String × Value))
    (changed : Bool) :
    Performs (modifyAllInPlace modifier changed fields) fun d =>
      d.modifyAll modifier changed fields := by
  induction fields generalizing changed with
  | nil => exact performs_pure changed
  | cons field rest ih =>
    exact (performs_modifyInPlace modifier field.1 field.2).bind fun here => ih (changed || here)

theorem performs_applyModifiersInPlace (update : List (String × Value)) (changed : Bool) :
    Performs (applyModifiersInPlace changed update) fun d => d.applyModifiers changed update := by
  induction update generalizing changed with
  | nil => exact performs_pure changed
  | cons entry rest ih =>
    obtain ⟨modifier, argument⟩ := entry
    cases argument with
    | document fields => exact (performs_modifyAllInPlace modifier fields changed).bind ih
    | _ => exact performs_throw _

theorem performs_updateInPlace (update : Document) :
    Performs (updateInPlace update) fun d => d.applyUpdate update := by
  unfold updateInPlace applyUpdate
  split
  · exact performs_throw _
  · exact performs_applyModifiersInPlace update false

end Document

namespace Table

variable [Regex.Engine]

/-- The place of the first document that matches. -/
def firstPlace (filter : Document) : List Document → Except StoreError (Option Nat)
  | [] => .ok none
  | d :: rest => do
    if ← d.matchesFilter .exact filter then return some 0
    else return (← firstPlace filter rest).map (· + 1)

/-- Keeps the documents that have no hit beside them. -/
def retain : List Bool → List Document → List Document
  | hit :: hits, d :: rest => if hit then retain hits rest else d :: retain hits rest
  | _, rest => rest

def insertInPlace (collection : String) (fresh : ObjectId) (d : Document) :
    InPlace (List Document) Value := do
  let id := (d.get? "_id").getD (.objectId fresh)
  if (← get).any fun other => (other.get? "_id").any fun otherId => otherId.equal id then
    throw (duplicateKey collection id)
  modify (· ++ [identified id d])
  return id

def replaceInPlace (filter replacement : Document) : InPlace (List Document) UpdateResult := do
  match ← liftM (firstPlace filter (← get)) with
  | none => return {}
  | some place =>
    let old := (← get).getD place []
    let altered := match replacement.get? "_id", old.get? "_id" with
      | some new, some old => !new.equal old
      | _, _ => false
    if altered then throw alteredIdentity
    let next := successor old replacement
    modify (·.set place next)
    return ⟨1, if old.equal next then 0 else 1⟩

/-- The working copy takes the place of the document once all modifiers have been carried out. -/
def updateInPlace (filter changes : Document) : InPlace (List Document) UpdateResult := do
  match ← liftM (firstPlace filter (← get)) with
  | none => return {}
  | some place =>
    let (answer, working) := (Document.updateInPlace changes).on ((← get).getD place [])
    let changed ← liftM answer
    modify (·.set place working)
    return ⟨1, if changed then 1 else 0⟩

/-- All verdicts are there before the first document goes. -/
def deleteInPlace (filter : Document) : InPlace (List Document) Nat := do
  let hits ← liftM ((← get).mapM (Document.matchesFilter .exact · filter))
  modify (retain hits)
  return hits.count true

variable {filter : Document} {docs : List Document}

/-- The place that is found is where the search stops. -/
theorem splitFirst_eq_firstPlace (filter : Document) (docs before : List Document) :
    match firstPlace filter docs with
    | .error e => splitFirst .exact filter before docs = .error e
    | .ok none => splitFirst .exact filter before docs = .ok none
    | .ok (some place) => ∃ first old rest, docs = first ++ old :: rest ∧ first.length = place ∧
        splitFirst .exact filter before docs = .ok (some (first.reverse ++ before, old, rest)) := by
  induction docs generalizing before with
  | nil => rfl
  | cons d rest ih =>
    rw [firstPlace, splitFirst]
    cases d.matchesFilter .exact filter with
    | error e => rfl
    | ok matched =>
      cases matched with
      | true => exact ⟨[], d, rest, rfl, rfl, rfl⟩
      | false =>
        have hrest := ih (d :: before)
        simp only [bind, Except.bind, Bool.false_eq_true, if_false]
        cases hplace : firstPlace filter rest with
        | error e =>
          rw [hplace] at hrest
          exact hrest
        | ok place =>
          rw [hplace] at hrest
          cases place with
          | none => exact hrest
          | some place =>
            obtain ⟨first, old, after, rfl, hlength, hsplit⟩ := hrest
            refine ⟨d :: first, old, after, rfl, ?_, ?_⟩
            · rw [List.length_cons, hlength]
            · rw [hsplit, List.reverse_cons, List.append_assoc]
              rfl

/-- Verdicts on all documents, and what they leave of them. -/
theorem mapM_matchesFilter (filter : Document) (docs : List Document) :
    match docs.mapM (Document.matchesFilter .exact · filter) with
    | .error e => reject filter docs = .error e
    | .ok hits => reject filter docs = .ok (retain hits docs) ∧
        hits.count true + (retain hits docs).length = docs.length := by
  induction docs with
  | nil => exact ⟨rfl, rfl⟩
  | cons d rest ih =>
    rw [List.mapM_cons, reject]
    cases d.matchesFilter .exact filter with
    | error e => rfl
    | ok hit =>
      cases hrest : rest.mapM (Document.matchesFilter .exact · filter) with
      | error e =>
        simp only [hrest] at ih
        simp only [ih, bind, Except.bind]
      | ok hits =>
        simp only [hrest] at ih
        obtain ⟨hreject, hcount⟩ := ih
        simp only [hreject, bind, Except.bind, pure, Except.pure, List.length_cons]
        cases hit with
        | true =>
          refine ⟨rfl, ?_⟩
          rw [retain, if_pos rfl, List.count_cons_self]
          omega
        | false =>
          refine ⟨rfl, ?_⟩
          rw [retain, if_neg Bool.false_ne_true, List.count_cons_of_ne Bool.false_ne_true,
            List.length_cons]
          omega

open InPlace (allOrNothing)

omit [Regex.Engine] in
theorem insertInPlace_on (collection : String) (fresh : ObjectId) (d : Document)
    (docs : List Document) :
    (insertInPlace collection fresh d).on docs =
      allOrNothing docs (insert collection fresh d docs) := by
  rw [insertInPlace, InPlace.on_get_bind, insert]
  dsimp only
  split
  · rfl
  · rfl

/-- A program that works at the place of the first match, and the same work on the documents before
and after that place. -/
theorem search_on {act : Nat → InPlace (List Document) UpdateResult}
    {work : List Document → Document → List Document →
      Except StoreError (UpdateResult × List Document)}
    (hact : ∀ first old rest, docs = first ++ old :: rest →
      (act first.length).on docs = allOrNothing docs (work first.reverse old rest)) :
    InPlace.on (do
      match ← liftM (firstPlace filter (← get)) with
      | none => return {}
      | some place => act place) docs =
    allOrNothing docs (do
      match ← splitFirst .exact filter [] docs with
      | none => return ({}, docs)
      | some (before, old, after) => work before old after) := by
  have hsearch := splitFirst_eq_firstPlace filter docs []
  rw [InPlace.on_get_bind, InPlace.on_liftM_bind]
  cases hplace : firstPlace filter docs with
  | error e =>
    simp only [hplace] at hsearch
    rw [hsearch]
    rfl
  | ok found =>
    cases found with
    | none =>
      simp only [hplace] at hsearch
      rw [hsearch]
      rfl
    | some place =>
      simp only [hplace] at hsearch
      obtain ⟨first, old, rest, hdocs, rfl, hsplit⟩ := hsearch
      rw [hsplit, List.append_nil]
      exact hact first old rest hdocs

omit [Regex.Engine] in
theorem getD_place (first rest : List Document) (old : Document) :
    (first ++ old :: rest).getD first.length [] = old := by
  simp

omit [Regex.Engine] in
theorem set_place (first rest : List Document) (old next : Document) :
    (first ++ old :: rest).set first.length next = first ++ next :: rest := by
  simp

theorem replaceInPlace_on (filter replacement : Document) (docs : List Document) :
    (replaceInPlace filter replacement).on docs =
      allOrNothing docs (replace filter replacement docs) := by
  refine search_on ?_
  rintro first old rest rfl
  rw [InPlace.on_get_bind]
  dsimp only
  rw [getD_place, List.reverse_reverse, ← set_place first rest old (successor old replacement)]
  cases replacement.get? "_id" with
  | none => rfl
  | some new =>
    cases old.get? "_id" with
    | none => rfl
    | some id =>
      by_cases haltered : (!new.equal id) = true
      · simp only [if_pos haltered]
        rfl
      · simp only [if_neg haltered]
        rfl

theorem updateInPlace_on (filter changes : Document) (docs : List Document) :
    (updateInPlace filter changes).on docs =
      allOrNothing docs (update filter changes docs) := by
  refine search_on ?_
  rintro first old rest rfl
  have hperforms := Document.performs_updateInPlace changes
  rw [InPlace.on_get_bind]
  dsimp only
  rw [getD_place, List.reverse_reverse]
  cases hupdate : old.applyUpdate changes with
  | error e =>
    obtain ⟨later, hworking⟩ := hperforms.failed hupdate
    rw [hworking]
    rfl
  | ok r =>
    obtain ⟨next, changed⟩ := r
    have hset := set_place first rest old next
    rw [hperforms.done hupdate]
    simp only [bind, Except.bind, ← hset]
    rfl

theorem deleteInPlace_on (filter : Document) (docs : List Document) :
    (deleteInPlace filter).on docs =
      allOrNothing docs ((reject filter docs).map fun kept => (docs.length - kept.length, kept)) := by
  have hverdicts := mapM_matchesFilter filter docs
  rw [deleteInPlace, InPlace.on_get_bind, InPlace.on_liftM_bind]
  cases hhits : docs.mapM (Document.matchesFilter .exact · filter) with
  | error e =>
    simp only [hhits] at hverdicts
    rw [hverdicts]
    rfl
  | ok hits =>
    simp only [hhits] at hverdicts
    obtain ⟨hreject, hcount⟩ := hverdicts
    have hnumber : docs.length - (retain hits docs).length = hits.count true := by omega
    rw [hreject]
    simp only [Except.map, hnumber]
    rfl

end Table

end DocStore
