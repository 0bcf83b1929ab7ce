import DocStore.Text.Blank
/-!
Levels of log records. A level is named in any case with blanks around it; a missing or unknown
name means `info`.
-/
namespace DocStore

inductive LogLevel where
  | off
  | error
  | warn
  | info
  | debug
  | trace
deriving DecidableEq, Repr, Inhabited

namespace LogLevel

def ofName (s : Option String) : LogLevel :=
  match String.ofList ((Text.trimChars (s.getD "info").toList).map Char.toLower) with
  | "off" => .off
  | "error" => .error
  | "warn" => .warn
  | "debug" => .debug
  | "trace" => .trace
  | _ => .info

def name : LogLevel → String
  | .off => "OFF"
  | .error => "ERROR"
  | .warn => "WARN"
  | .info => "INFO"
  | .debug => "DEBUG"
  | .trace => "TRACE"

end LogLevel

end DocStore
