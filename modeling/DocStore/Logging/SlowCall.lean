import DocStore.Store.Basic
import DocStore.Failure
import DocStore.Json.Writer
import DocStore.Query.Fingerprint
/-!
Reports of slow calls. With a threshold every call is timed and counted, and one that takes longer
than the threshold is reported in the log; the call itself goes on as it would. Without a threshold
there is nothing to do. Filters appear in reports as fingerprints only.
-/
namespace DocStore

structure SlowCallMonitor where
  /-- In nanoseconds. -/
  threshold : Option Nat := none
deriving DecidableEq, Repr, Inhabited

namespace SlowCallMonitor

/-- Zero milliseconds mean no threshold. -/
def ofMillis (millis : Nat) : SlowCallMonitor :=
  ⟨if millis = 0 then none else some (millis * nanosPerMilli)⟩

def isEnabled (m : SlowCallMonitor) : Bool := m.threshold.isSome

def thresholdMillis (m : SlowCallMonitor) : Option Nat := m.threshold.map (· / nanosPerMilli)

/-- When a timed call starts, if it is to be timed. -/
def start (m : SlowCallMonitor) (t : Timeline) : Option Nat := m.threshold.map fun _ => t.now

def target : String := "docbridge::slow"

/-- A report of a call, as a failure that is logged and not raised. -/
def event (location collection : String) (elapsed threshold : Nat)
    (fingerprint : Option String) : Failure :=
  (Failure.timeout location (collection ++ ": took " ++ toString elapsed ++
    " ms, threshold is " ++ toString threshold ++ " ms")).withDetails
    (fingerprint.toList.map ("filter: " ++ ·))

def record (t : Timeline) (location collection : String) (elapsed threshold : Nat)
    (filter : Option Document) : LogRecord :=
  let fingerprint := filter.map Document.fingerprint
  let text := Json.ofFields [
    ("ts", .ofString (Instant.timestamp t.millis)),
    ("collection", .ofString collection),
    ("location", .ofString location),
    ("duration_ms", .ofNat elapsed),
    ("threshold_ms", .ofNat threshold),
    ("filter_hash", (fingerprint.map Json.ofString).getD .null),
    ("diagnostic", .ofString (event location collection elapsed threshold fingerprint).diagnostic)]
  { level := .warn, target, text := text.write }

/-- Counts a call that has ended and reports it if it was slow. Says whether it was. -/
def finish (m : SlowCallMonitor) (location : String) (started : Option Nat) (collection : String)
    (filter : Option Document) (s : Host) : Bool × Host :=
  match started, m.threshold with
  | some started, some threshold =>
    let elapsed := s.timeline.now - started
    let s := { s with calls := { s.calls with timed := s.calls.timed + 1 } }
    if threshold < elapsed then
      (true, { s with
        calls := { s.calls with slow := s.calls.slow + 1 }
        log := s.log ++ [record s.timeline location collection (elapsed / nanosPerMilli)
          (threshold / nanosPerMilli) filter] })
    else (false, s)
  | _, _ => (false, s)

/-- The counts as a page of metrics. -/
def metricsText (calls : CallCounts) : String :=
  "docbridge_calls_timed_total " ++ toString calls.timed ++ "\n" ++
    "docbridge_calls_slow_total " ++ toString calls.slow ++ "\n"

end SlowCallMonitor

end DocStore
