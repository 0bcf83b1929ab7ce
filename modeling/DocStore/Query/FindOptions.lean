import DocStore.Value.Basic
import DocStore.Query.Collation
/-!
What a store is told about a search besides the filter.
-/
namespace DocStore

structure FindOptions where
  limit : Option Int64 := none
  projection : Option Document := none
  sort : Option Document := none
  collation : Option Collation := none

/-- Options of a search for one document. -/
structure FindOneOptions where
  projection : Option Document := none
  collation : Option Collation := none

end DocStore
