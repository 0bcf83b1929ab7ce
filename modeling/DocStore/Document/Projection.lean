import DocStore.Document.Path
import DocStore.Value.Order
/-!
Projections. One that includes fields keeps those, under their dotted names, and the identity unless
it is excluded; one that includes none keeps all but what it excludes.
-/
namespace DocStore.Document

/-- The fields that a projection includes. -/
def includedFields (projection : Document) : List String :=
  (projection.filter fun (key, v) => key != "_id" && v.truthy).map Prod.fst

def keepsIdentity (projection : Document) : Bool :=
  match projection.get? "_id" with
  | some v => v.truthy
  | none => true

def eraseAll (d : Document) (keys : List String) : Document := keys.foldl erase d

/-- Puts the value at each path under the whole path. -/
def gather (d result : Document) (paths : List String) : Document :=
  paths.foldl (fun result path =>
    match d.at? path with
    | some v => result.insert path v
    | none => result) result

def project (d projection : Document) : Document :=
  match includedFields projection with
  | [] => d.eraseAll ((projection.filter fun (_, v) => !v.truthy).map Prod.fst)
  | fields =>
    let identity : Document :=
      if keepsIdentity projection then
        match d.get? "_id" with
        | some id => [("_id", id)]
        | none => []
      else []
    d.gather identity fields

end DocStore.Document
