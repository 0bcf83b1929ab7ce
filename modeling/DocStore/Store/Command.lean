import DocStore.Store.Hooks
import DocStore.Filter.Match
import DocStore.Document.Update
import DocStore.Document.Projection
import DocStore.Document.Sort
import DocStore.Query.FindOptions
import DocStore.Value.Text
/-!
Commands on the documents of one collection. A command gives a reply and the documents after it, or
it is refused and gives none.
-/
namespace DocStore

structure UpdateResult where
  matched : Nat := 0
  modified : Nat := 0
deriving DecidableEq, Repr, Inhabited

inductive Command where
  | count (filter : Document)
  | find (filter : Document) (options : FindOptions)
  | findOne (filter : Document) (options : FindOneOptions)
  | insert (document : Document)
  | replace (filter replacement : Document)
  | update (filter changes : Document)
  | delete (filter : Document)

inductive Reply where
  | number (n : Nat)
  | rows (documents : List Document)
  | row (document : Option Document)
  | identity (id : Value)
  | updated (result : UpdateResult)

variable [Regex.Engine]

namespace Table

/-- The documents that match, in order. -/
def select (rule : CaseRule) (filter : Document) : List Document → Except StoreError (List Document)
  | [] => .ok []
  | d :: rest => do
    let matched ← d.matchesFilter rule filter
    let others ← select rule filter rest
    return if matched then d :: others else others

/-- The first document that matches, with those before it, the nearest first, and those after it. -/
def splitFirst (rule : CaseRule) (filter : Document) (before : List Document) :
    List Document → Except StoreError (Option (List Document × Document × List Document))
  | [] => .ok none
  | d :: rest => do
    if ← d.matchesFilter rule filter then return some (before, d, rest)
    else splitFirst rule filter (d :: before) rest

/-- The documents that do not match. -/
def reject (filter : Document) : List Document → Except StoreError (List Document)
  | [] => .ok []
  | d :: rest => do
    let matched ← d.matchesFilter .exact filter
    let others ← reject filter rest
    return if matched then others else d :: others

/-- The first rows; zero means all, and a negative number counts as its absolute value. -/
def limited (limit : Option Int64) (rows : List Document) : List Document :=
  match limit with
  | some n => if n = 0 then rows else rows.take n.toInt.natAbs
  | none => rows

/-- A document with its identity in front. -/
def identified (id : Value) (d : Document) : Document := ("_id", id) :: d.erase "_id"

/-- A replacement takes over the identity of what it replaces, if that has one. -/
def successor (old replacement : Document) : Document :=
  match old.get? "_id" with
  | some id => identified id replacement
  | none => replacement.erase "_id"

def duplicateKey (collection : String) (id : Value) : StoreError :=
  .write 11000 ("E11000 duplicate key error collection: " ++ collection ++
    " index: _id_ dup key: \x7b _id: " ++ id.text ++ " \x7d")

def alteredIdentity : StoreError :=
  .write 66 "the (immutable) field '_id' was found to have been altered"

def find (filter : Document) (options : FindOptions) (docs : List Document) :
    Except StoreError (List Document) := do
  let rule := Collation.caseRule options.collation
  let rows ← select rule filter docs
  let rows := match options.sort with
    | some specification => sortStably (Document.compareBy rule specification) rows
    | none => rows
  let rows := limited options.limit rows
  return match options.projection with
    | some projection => rows.map fun d => d.project projection
    | none => rows

def findOne (filter : Document) (options : FindOneOptions) (docs : List Document) :
    Except StoreError (Option Document) := do
  match ← splitFirst (Collation.caseRule options.collation) filter [] docs with
  | some (_, d, _) =>
    return some (match options.projection with
      | some projection => d.project projection
      | none => d)
  | none => return none

/-- Adds a document at the end, under `fresh` if it has no identity of its own. -/
def insert (collection : String) (fresh : ObjectId) (d : Document) (docs : List Document) :
    Except StoreError (Value × List Document) :=
  let id := (d.get? "_id").getD (.objectId fresh)
  if docs.any fun other => (other.get? "_id").any fun otherId => otherId.equal id then
    .error (duplicateKey collection id)
  else .ok (id, docs ++ [identified id d])

def replace (filter replacement : Document) (docs : List Document) :
    Except StoreError (UpdateResult × List Document) := do
  match ← splitFirst .exact filter [] docs with
  | none => return ({}, docs)
  | some (before, old, after) =>
    let altered := match replacement.get? "_id", old.get? "_id" with
      | some new, some old => !new.equal old
      | _, _ => false
    if altered then throw alteredIdentity
    let next := successor old replacement
    return (⟨1, if old.equal next then 0 else 1⟩, before.reverse ++ next :: after)

def update (filter changes : Document) (docs : List Document) :
    Except StoreError (UpdateResult × List Document) := do
  match ← splitFirst .exact filter [] docs with
  | none => return ({}, docs)
  | some (before, old, after) =>
    let (next, changed) ← old.applyUpdate changes
    return (⟨1, if changed then 1 else 0⟩, before.reverse ++ next :: after)

end Table

namespace Command

def operation : Command → Operation
  | count _ => .count
  | find _ _ => .find
  | findOne _ _ => .findOne
  | insert _ => .insert
  | replace _ _ => .replace
  | update _ _ => .update
  | delete _ => .delete

def isWrite : Command → Bool
  | count _ | find _ _ | findOne _ _ => false
  | insert _ | replace _ _ | update _ _ | delete _ => true

/-- Carries out a command on the documents of a collection of the given full name. -/
def run (collection : String) (fresh : ObjectId) (command : Command) (docs : List Document) :
    Except StoreError (Reply × List Document) := do
  match command with
  | count filter => return (.number (← Table.select .exact filter docs).length, docs)
  | find filter options => return (.rows (← Table.find filter options docs), docs)
  | findOne filter options => return (.row (← Table.findOne filter options docs), docs)
  | insert d =>
    let (id, docs) ← Table.insert collection fresh d docs
    return (.identity id, docs)
  | replace filter replacement =>
    let (result, docs) ← Table.replace filter replacement docs
    return (.updated result, docs)
  | update filter changes =>
    let (result, docs) ← Table.update filter changes docs
    return (.updated result, docs)
  | delete filter =>
    let kept ← Table.reject filter docs
    return (.number (docs.length - kept.length), kept)

end Command

end DocStore
