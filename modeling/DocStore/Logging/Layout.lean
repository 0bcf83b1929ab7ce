import DocStore.Logging.SlowCall
/-!
Where log records go. Everything goes to one file; reports of slow calls go to a file of their own
and nowhere else. Files roll over when they are full, and a number of old ones is kept.
-/
namespace DocStore

structure LogFile where
  name : String
  path : String
  /-- How many old files are kept. -/
  kept : Nat
deriving DecidableEq, Repr

/-- Where the records of one target go, and from which level on. -/
structure LogRoute where
  target : String
  level : LogLevel
  /-- Whether the records also go where all others go. -/
  additive : Bool
  files : List String
deriving DecidableEq, Repr

structure LogLayout where
  level : LogLevel
  defaultFiles : List String
  files : List LogFile
  routes : List LogRoute
deriving DecidableEq, Repr

namespace LogLayout

def defaultRetention : Nat := 7

/-- At least one old file is kept, and a number beyond 32 bits counts as none given. -/
def kept (retention : Option Nat) : Nat :=
  max 1 ((retention.filter fun n => decide (n ≤ 0xffffffff)).getD defaultRetention)

def logFile (name : String) (kept : Nat) : LogFile := ⟨name, name ++ ".log", kept⟩

def ofLevel (level : LogLevel) (retention : Option Nat) : LogLayout :=
  let kept := kept retention
  { level
    defaultFiles := ["app"]
    files := [logFile "app" kept, logFile "slow" kept]
    routes := [⟨SlowCallMonitor.target, .warn, false, ["slow"]⟩] }

end LogLayout

end DocStore
