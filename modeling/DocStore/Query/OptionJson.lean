import DocStore.Query.Option
import DocStore.Json.Decode
import DocStore.Json.Reader
import DocStore.Json.Writer
/-!
Query options in JSON.
-/
namespace DocStore

namespace Direction

def toJson : Direction → Json
  | .ascending => .ofString "Ascending"
  | .descending => .ofString "Descending"

def ofJson? (v : Json) : Option Direction := do
  match ← v.alternative? with
  | ("Ascending", .null) => some .ascending
  | ("Descending", .null) => some .descending
  | _ => none

end Direction

namespace QueryOption

def toJson : QueryOption → Json
  | firstRow => .ofString "firstRow"
  | maxRows n => .ofFields [("maxRows", .ofInt64 n)]
  | fields names => .ofFields [("fields", .array (names.map .ofString))]
  | sort field direction => .ofFields [("sort",
      .ofFields [("field", .ofString field), ("direction", direction.toJson)])]
  | caseSensitive sensitive => .ofFields [("caseSensitive", .bool sensitive)]

def ofJson? (v : Json) : Option QueryOption := do
  match ← v.alternative? with
  | ("firstRow", .null) => return .firstRow
  | ("maxRows", n) => return .maxRows (← n.int64?)
  | ("fields", names) => return .fields (← (← names.array?).mapM Json.text?)
  | ("sort", content) =>
    match ← Json.record? ["field", "direction"] content with
    | [field, direction] => return .sort (← field.text?) (← Direction.ofJson? direction)
    | _ => none
  | ("caseSensitive", b) => return .caseSensitive (← b.bool?)
  | _ => none

def listToText (options : List QueryOption) : String := (Json.array (options.map toJson)).write

def listOfText? (s : String) : Option (List QueryOption) := do
  (← (← Json.ofText? s).array?).mapM ofJson?

end QueryOption

end DocStore
