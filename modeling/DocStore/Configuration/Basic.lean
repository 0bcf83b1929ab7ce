import DocStore.Server
/-!
Configuration of a server: which database it serves, and how.
-/
namespace DocStore

structure Configuration where
  uri : String := "mongodb://localhost:27017"
  database : String := "docbridge"
  /-- Calls that take longer are reported. Zero turns reports off. -/
  slowCallMillis : Nat := 0
  strategy : SaveStrategy := .replace
  /-- Zero leaves the time of a commit unbounded. -/
  maxCommitSeconds : Nat := 60
  /-- Further options of the client, with ascending names. -/
  clientOptions : List (String × String) := []
deriving Repr

namespace Configuration

def maxCommitTime (c : Configuration) : Option Nat :=
  if c.maxCommitSeconds = 0 then none else some c.maxCommitSeconds

def monitor (c : Configuration) : SlowCallMonitor := .ofMillis c.slowCallMillis

def collectionSettings (c : Configuration) : CollectionSettings := ⟨c.monitor, c.strategy⟩

/-- The address with the options of the client as its parameters. -/
def uriWithOptions (c : Configuration) : String :=
  if c.clientOptions.isEmpty then c.uri
  else
    let parameters := c.clientOptions.map fun (name, value) => name ++ "=" ++ value
    let mark := if c.uri.toList.contains '?' then "&" else "?"
    c.uri ++ mark ++ "&".intercalate parameters

end Configuration

namespace Server

def ofConfiguration (c : Configuration) : Server :=
  { settings := c.collectionSettings
    transactionOptions := { maxCommitTime := c.maxCommitTime } }

end Server

end DocStore
