import DocStore.Configuration.Basic
import DocStore.Regex.Default
import DocStore.Toml.Reader
/-!
Loading of a configuration. A file that is named must be there; without a name the file at the
default path is used if it is there. Variables of the environment override what was loaded.
-/
namespace DocStore.Configuration

/-- Reads one entry of a table if it is there. -/
def entry? (entries : Toml.Entries) (key : String) (missing : α) (read : Toml → Option α) :
    Option α :=
  match entries.lookup key with
  | none => some missing
  | some v => read v

def text? : Toml → Option String
  | .text s => some s
  | _ => none

/-- Whole numbers of 64 bits without a sign. -/
def number? : Toml → Option Nat
  | .integer n => if 0 ≤ n ∧ n ≤ 0xffffffffffffffff then some n.toNat else none
  | _ => none

def strategyOfName? (name : String) : Option SaveStrategy :=
  match name with
  | "replace" => some .replace
  | "guarded_update" => some .guardedUpdate
  | _ => none

/-- A strategy is given by its name, or by a table with nothing but an empty entry of that name. -/
def strategy? : Toml → Option SaveStrategy
  | .text name => strategyOfName? name
  | .table _ [(name, .table _ [])] => strategyOfName? name
  | .table _ [(name, .array [])] => strategyOfName? name
  | _ => none

def insertOption (options : List (String × String)) (name value : String) :
    List (String × String) :=
  match options with
  | [] => [(name, value)]
  | (n, v) :: rest =>
    if name < n then (name, value) :: (n, v) :: rest
    else if name = n then (n, value) :: rest
    else (n, v) :: insertOption rest name value

def options? : Toml → Option (List (String × String))
  | .table _ entries =>
    entries.foldlM (fun options (name, v) => return insertOption options name (← text? v)) []
  | _ => none

/-- Entries that a configuration does not have are passed over. -/
def ofEntries? (entries : Toml.Entries) : Option Configuration := do
  let default : Configuration := {}
  return {
    uri := ← entry? entries "uri" default.uri text?
    database := ← entry? entries "database" default.database text?
    slowCallMillis := ← entry? entries "slow_query_ms" default.slowCallMillis number?
    strategy := ← entry? entries "save_strategy" default.strategy strategy?
    maxCommitSeconds := ← entry? entries "max_commit_time_secs" default.maxCommitSeconds number?
    clientOptions := ← entry? entries "client_options" [] options? }

def textLocation : String := "docbridge::ServerConfig::from_toml_str"

def fileLocation : String := "docbridge::ServerConfig::from_file"

def environmentLocation : String := "docbridge::ServerConfig::apply_env"

def ofToml (s : String) : Except Failure Configuration :=
  match (Toml.ofText? s).bind ofEntries? with
  | some c => .ok c
  | none =>
    .error ((Failure.badRequest textLocation "invalid configuration").withCause
      (.external "malformed text, or an entry of the wrong kind"))

/-- Texts of files by their paths. -/
abbrev Files := String → Option String

/-- Values of variables by their names. -/
abbrev Environment := String → Option String

def ofFile (files : Files) (path : String) : Except Failure Configuration :=
  match files path with
  | none =>
    .error (((Failure.internal fileLocation "unable to read configuration file").withDetail
      path).withCause (.external "no such file"))
  | some s => (ofToml s).mapError fun e => e.wrap fileLocation ("in " ++ path)

/-- Lets variables override a configuration. -/
def override (c : Configuration) (env : Environment) : Except Failure Configuration := do
  let c := { c with
    uri := (env "DOCBRIDGE_URI").getD c.uri
    database := (env "DOCBRIDGE_DATABASE").getD c.database }
  match env "DOCBRIDGE_SLOW_QUERY_MS" with
  | none => return c
  | some raw =>
    match Reading.uint64? (Text.trim raw) with
    | .ok n => return { c with slowCallMillis := n.toNat }
    | .error e =>
      throw (((Failure.badRequest environmentLocation
        "DOCBRIDGE_SLOW_QUERY_MS must be a number of milliseconds").withDetail
          ("value: " ++ raw)).withCause (.integer e))

def pathVariable : String := "DOCBRIDGE_CONFIG"

def defaultPath : String := "docbridge.toml"

def load (files : Files) (env : Environment) (path : Option String) :
    Except Failure Configuration := do
  let loaded ← match path <|> env pathVariable with
    | some path => ofFile files path
    | none => if (files defaultPath).isSome then ofFile files defaultPath else .ok {}
  loaded.override env

end DocStore.Configuration

namespace DocStore

/-- A program that loads its configuration runs with the standard engine. -/
instance (priority := low) : Regex.Engine := Regex.standard

end DocStore
