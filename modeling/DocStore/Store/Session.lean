import DocStore.Value.Basic
/-!
Sessions of a store. A session has at most one open transaction, which works on tables of its own:
a copy of the committed ones, with the version that they had.
-/
namespace DocStore

/-- The documents of each collection, by its name. -/
abbrev Tables := String → List Document

namespace Tables

def empty : Tables := fun _ => []

def set (t : Tables) (collection : String) (docs : List Document) : Tables :=
  fun name => if name = collection then docs else t name

end Tables

inductive ReadConcern where
  | local
  | majority
  | snapshot
deriving DecidableEq, Repr, Inhabited

inductive WriteConcern where
  | acknowledged
  | majority
deriving DecidableEq, Repr, Inhabited

inductive ReadPreference where
  | primary
  | primaryPreferred
  | secondary
  | secondaryPreferred
  | nearest
deriving DecidableEq, Repr, Inhabited

structure TransactionOptions where
  readConcern : ReadConcern := .majority
  writeConcern : WriteConcern := .majority
  readPreference : ReadPreference := .primary
  /-- In seconds. -/
  maxCommitTime : Option Nat := some 60
deriving DecidableEq, Repr, Inhabited

structure SessionOptions where
  causalConsistency : Bool := true
  transaction : TransactionOptions := {}
deriving DecidableEq, Repr, Inhabited

structure Transaction where
  baseVersion : Nat
  tables : Tables
  dirty : Bool
  options : TransactionOptions

structure Session where
  options : SessionOptions
  transaction : Option Transaction := none
  ended : Bool := false

end DocStore
