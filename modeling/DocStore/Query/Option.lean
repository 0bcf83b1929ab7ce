import DocStore.Query.Direction
import DocStore.Query.FindOptions
/-!
Options of a query as a caller states them, their text, and their meaning for the store. Options
take effect in order, later ones of a kind in place of earlier ones; that the first row alone is
wanted holds wherever it is said.
-/
namespace DocStore

inductive QueryOption where
  | firstRow
  | maxRows (n : Int64)
  | fields (names : List String)
  | sort (field : String) (direction : Direction)
  | caseSensitive (sensitive : Bool)
deriving DecidableEq, Repr

namespace QueryOption

def text : QueryOption → String
  | firstRow => "first-row"
  | maxRows n => "max-rows(" ++ toString n.toInt ++ ")"
  | fields names => "fields(" ++ ",".intercalate names ++ ")"
  | sort field direction => "sort(" ++ field ++ " " ++ toString direction.sign.toInt ++ ")"
  | caseSensitive sensitive => "case-sensitive(" ++ (if sensitive then "true" else "false") ++ ")"

def describe (options : List QueryOption) : String :=
  "options: [" ++ ", ".intercalate (options.map text) ++ "]"

/-- A projection that includes the named fields; empty names are passed over. -/
def projection (names : List String) : Document :=
  .ofList ((names.filter (· != "")).map fun name => (name, .int32 1))

def collation (sensitive : Bool) : Collation :=
  { strength := if sensitive then .tertiary else .secondary }

def isFirstRow : QueryOption → Bool
  | firstRow => true
  | _ => false

/-- Lets one option take effect. Only a positive number of rows is a limit. -/
def apply (found : FindOptions) : QueryOption → FindOptions
  | firstRow => found
  | maxRows n => if 0 < n then { found with limit := some n } else found
  | fields names => { found with projection := some (projection names) }
  | sort field direction => { found with sort := some [(field, .int32 direction.sign)] }
  | caseSensitive sensitive => { found with collation := some (collation sensitive) }

/-- Options of a search for all matching documents; none if the list is empty. -/
def toFindOptions (options : List QueryOption) : Option FindOptions :=
  if options.isEmpty then none
  else
    let found := options.foldl apply {}
    some (if options.any isFirstRow then { found with limit := some 1 } else found)

/-- Lets one option take effect on a search for one document, where order and number of rows mean
nothing. -/
def applyOne (found : FindOneOptions) : QueryOption → FindOneOptions
  | fields names => { found with projection := some (projection names) }
  | caseSensitive sensitive => { found with collation := some (collation sensitive) }
  | firstRow | maxRows _ | sort _ _ => found

def toFindOneOptions (options : List QueryOption) : Option FindOneOptions :=
  if options.isEmpty then none else some (options.foldl applyOne {})

end QueryOption

end DocStore
