import DocStore.Server
import DocStore.Unicode.Property
/-!
One-line outlines of operators, servers, units of work, collections and iterators, for people who
look for faults. An outline names each field with its value.
-/
namespace DocStore

namespace Outline

def escapeChar (c : Char) : List Char :=
  match c with
  | '"' => ['\\', '"']
  | '\\' => ['\\', '\\']
  | '\n' => ['\\', 'n']
  | '\r' => ['\\', 'r']
  | '\t' => ['\\', 't']
  | '\x00' => ['\\', '0']
  | c =>
    if Unicode.isPrintable c && !Unicode.isGraphemeExtend c then [c]
    else ['\\', 'u', '\x7b'] ++ Nat.toDigits 16 c.toNat ++ ['\x7d']

/-- A text in quotes, with all that does not print escaped. -/
def text (s : String) : String := "\"" ++ String.ofList (s.toList.flatMap escapeChar) ++ "\""

def bool (b : Bool) : String := if b then "true" else "false"

def option (f : α → String) : Option α → String
  | some a => "Some(" ++ f a ++ ")"
  | none => "None"

def fields (pairs : List (String × String)) : String :=
  ", ".intercalate (pairs.map fun (name, value) => name ++ ": " ++ value)

def record (name : String) (pairs : List (String × String)) : String :=
  name ++ " \x7b " ++ fields pairs ++ " \x7d"

/-- A record that does not show all of its fields. -/
def openRecord (name : String) (pairs : List (String × String)) : String :=
  name ++ " \x7b " ++ fields pairs ++ ", .. \x7d"

/-- A number of units with up to `places` digits after the point. -/
def scaled (places n : Nat) (unit : String) : String :=
  let rest := Instant.padded places (n % Nat.pow 10 places)
  let kept := (rest.toList.reverse.dropWhile (· == '0')).reverse
  toString (n / Nat.pow 10 places) ++ (if places = 0 || kept.isEmpty then "" else
    "." ++ String.ofList kept) ++ unit

/-- A duration in the largest unit that it fills. -/
def duration (nanos : Nat) : String :=
  if nanosPerSecond ≤ nanos then scaled 9 nanos "s"
  else if nanosPerMilli ≤ nanos then scaled 6 nanos "ms"
  else if 1000 ≤ nanos then scaled 3 nanos "µs"
  else scaled 0 nanos "ns"

def readConcern : ReadConcern → String
  | .local => "Local"
  | .majority => "Majority"
  | .snapshot => "Snapshot"

def writeConcern : WriteConcern → String
  | .acknowledged => "Acknowledged"
  | .majority => "Majority"

def readPreference : ReadPreference → String
  | .primary => "Primary"
  | .primaryPreferred => "PrimaryPreferred"
  | .secondary => "Secondary"
  | .secondaryPreferred => "SecondaryPreferred"
  | .nearest => "Nearest"

def operator : Operator → String
  | .equal => "Equal"
  | .notEqual => "NotEqual"
  | .lessThan => "LessThan"
  | .lessOrEqual => "LessOrEqual"
  | .greaterOrEqual => "GreaterOrEqual"
  | .greaterThan => "GreaterThan"
  | .isIn => "In"
  | .notIn => "NotIn"
  | .inAll => "InAll"
  | .beginsWith => "BeginsWith"
  | .contains => "Contains"
  | .endsWith => "EndsWith"
  | .present => "Exists"
  | .geoWithin => "GeoWithin"
  | .geoIntersects => "GeoIntersects"

def strategy : SaveStrategy → String
  | .replace => "Replace"
  | .guardedUpdate => "GuardedUpdate"

def transactionOptions (o : TransactionOptions) : String :=
  record "TransactionOptions" [
    ("read_concern", readConcern o.readConcern), ("write_concern", writeConcern o.writeConcern),
    ("read_preference", readPreference o.readPreference),
    ("max_commit_time", option (fun seconds => duration (seconds * nanosPerSecond))
      o.maxCommitTime)]

def calls (c : CallCounts) : String :=
  record "Metrics" [("calls_total", toString c.timed), ("slow_total", toString c.slow)]

def settings (c : CallCounts) (s : CollectionSettings) : String :=
  record "CollectionSettings" [
    ("monitor", record "SlowQueryMonitor" [
      ("threshold", option duration s.monitor.threshold), ("metrics", calls c)]),
    ("save_strategy", strategy s.strategy)]

def server (s : Host) (server : Server) : String :=
  record "Server" [
    ("database", text s.store.database), ("settings", settings s.calls server.settings),
    ("transaction_options", transactionOptions server.transactionOptions)]

def unitOfWork (s : Host) (w : UnitOfWork) : String :=
  openRecord "Session" [
    ("database", text s.store.database), ("transactional", bool w.isTransactional)]

def collection (s : Host) (c : Collection) : String :=
  openRecord "Collection" [
    ("name", text c.name), ("transactional", bool c.session.isSome),
    ("settings", settings s.calls c.settings)]

def iteratorState : IteratorState → String
  | .opened => "Open"
  | .exhausted => "Exhausted"
  | .failed => "Failed"
  | .closed => "Closed"

def errorName : StoreError → String
  | .timeout => "Timeout"
  | .cancelled => "Cancelled"
  | .disconnected => "Disconnected"
  | .connect _ => "Connect"
  | .write _ _ => "Write"
  | .command _ _ => "Command"
  | .transaction _ _ => "Transaction"
  | .encode _ => "Encode"
  | .decode _ => "Decode"
  | .cursorClosed => "CursorClosed"
  | .unsupported _ => "Unsupported"

def error (e : StoreError) : String :=
  match e with
  | .timeout | .cancelled | .disconnected | .cursorClosed => errorName e
  | .connect reason | .encode reason | .decode reason | .unsupported reason =>
    errorName e ++ "(" ++ text reason ++ ")"
  | .write code message | .command code message =>
    record (errorName e) [("code", toString code), ("message", text message)]
  | .transaction message transient =>
    record (errorName e) [("message", text message), ("transient", bool transient)]

def iterator [Cursor γ] (it : DocumentIterator γ) : String :=
  record "DocumentIterator" [
    ("state", iteratorState it.state), ("buffered", toString it.buffered),
    ("error", option error it.error)]

end Outline

end DocStore
