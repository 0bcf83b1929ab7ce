/-!
Trees of TOML. A table remembers how it came about, since that decides what may be added to it: a
table in braces is complete, a table with a header takes no dotted keys from elsewhere, and a table
that is only implied by the header of another may still get its own.
-/
namespace DocStore

inductive TableOrigin where
  | header
  | implied
  | dotted
  | inline
deriving DecidableEq, Repr

inductive Toml where
  | text (s : String)
  | integer (n : Int)
  | float
  | bool (b : Bool)
  | date
  | array (items : List Toml)
  | table (origin : TableOrigin) (entries : List (String × Toml))
  /-- Tables under a repeated header in double brackets. -/
  | tables (items : List (List (String × Toml)))

namespace Toml

abbrev Entries := List (String × Toml)

def setEntry (entries : Entries) (key : String) (v : Toml) : Entries :=
  match entries with
  | [] => [(key, v)]
  | (k, old) :: rest => if k = key then (k, v) :: rest else (k, old) :: setEntry rest key v

/-- Lets `act` work on the table at a path, given how the table came about. Missing tables are made
on the way; of repeated tables the last one is meant. -/
def descend (dotted : Bool) (act : TableOrigin → Entries → Option Entries) :
    List String → TableOrigin → Entries → Option Entries
  | [], origin, entries => act origin entries
  | key :: rest, _, entries => do
    match entries.lookup key with
    | none =>
      let origin := if dotted then .dotted else .implied
      return setEntry entries key (.table origin (← descend dotted act rest origin []))
    | some (.table origin inner) =>
      if origin = .inline || (dotted && origin = .header) then none
      return setEntry entries key (.table origin (← descend dotted act rest origin inner))
    | some (.tables items) =>
      match items.reverse with
      | [] => none
      | last :: before =>
        let last ← descend dotted act rest .header last
        return setEntry entries key (.tables (last :: before).reverse)
    | some _ => none

/-- Adds an entry at a dotted key of a table. The last table on the way is to be one that dotted keys
made, unless the key has one part only. -/
def addValue (path : List String) (v : Toml) (origin : TableOrigin) (entries : Entries) :
    Option Entries :=
  match path.reverse with
  | [] => none
  | key :: before =>
    let add (origin : TableOrigin) (entries : Entries) : Option Entries :=
      if (origin = .dotted) = before.isEmpty then none
      else if (entries.lookup key).isSome then none
      else some (entries ++ [(key, v)])
    descend true add before.reverse origin entries

/-- Opens the table of a header, which may not be open already. -/
def openTable (path : List String) (root : Entries) : Option Entries :=
  match path.reverse with
  | [] => none
  | key :: before =>
    let act (_ : TableOrigin) (entries : Entries) : Option Entries :=
      match entries.lookup key with
      | none => some (entries ++ [(key, .table .header [])])
      | some (.table .implied inner) => some (setEntry entries key (.table .header inner))
      | some _ => none
    descend false act before.reverse .header root

/-- Opens the next table of a repeated header. -/
def openNext (path : List String) (root : Entries) : Option Entries :=
  match path.reverse with
  | [] => none
  | key :: before =>
    let act (_ : TableOrigin) (entries : Entries) : Option Entries :=
      match entries.lookup key with
      | none => some (entries ++ [(key, .tables [[]])])
      | some (.tables items) => some (setEntry entries key (.tables (items ++ [[]])))
      | some _ => none
    descend false act before.reverse .header root

end Toml

end DocStore
