import DocStore.Value.Equality
/-!
Dotted paths into nested documents. Reading goes through documents only, and no deeper than 32
segments. Writing makes a document of whatever stands in its way.
-/
namespace DocStore

/-- The stretches between dots; there is always one more of them than dots. -/
def segmentsOf : List Char → List (List Char)
  | [] => [[]]
  | c :: rest =>
    if c = '.' then [] :: segmentsOf rest
    else
      match segmentsOf rest with
      | [] => [[c]]
      | first :: more => (c :: first) :: more

def pathSegments (path : String) : List String := (segmentsOf path.toList).map String.ofList

def maxPathDepth : Nat := 32

namespace Document

/-- The value that a list of segments leads to. -/
def follow? (d : Document) : List String → Option Value
  | [] => none
  | [key] => d.get? key
  | key :: rest =>
    match d.get? key with
    | some (.document child) => follow? child rest
    | _ => none

/-- The value at a dotted path. The empty path leads nowhere. -/
def at? (d : Document) (path : String) : Option Value :=
  let segments := pathSegments path
  if path = "" ∨ maxPathDepth < segments.length then none else d.follow? segments

/-- The document under a key, empty where there is none. -/
def child (d : Document) (key : String) : Document :=
  match d.get? key with
  | some (.document child) => child
  | _ => []

/-- Lets `act` work on the document that holds the last segment. -/
def modifyParent (act : Document → String → Document × Bool) (d : Document) :
    List String → Document × Bool
  | [] => (d, false)
  | [key] => act d key
  | key :: rest =>
    let (child, changed) := modifyParent act (d.child key) rest
    (d.insert key (.document child), changed)

def insertNoting (value : Value) (d : Document) (key : String) : Document × Bool :=
  (d.insert key value, !(d.get? key).any fun old => old.equal value)

def eraseNoting (d : Document) (key : String) : Document × Bool := (d.erase key, d.contains key)

/-- Puts a value at a path, and says whether it differs from the one that was there. -/
def setAt (d : Document) (path : String) (value : Value) : Document × Bool :=
  d.modifyParent (insertNoting value) (pathSegments path)

/-- Removes the value at a path, and says whether there was one. -/
def unsetAt (d : Document) (path : String) : Document × Bool :=
  d.modifyParent eraseNoting (pathSegments path)

end Document

end DocStore
