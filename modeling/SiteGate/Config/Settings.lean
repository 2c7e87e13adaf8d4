import SiteGate.Json.Comments
import SiteGate.Json.Members
import SiteGate.Json.Reader
import SiteGate.Files.Replace

/-!
# Settings of the engine

How often the files are looked at, how long a second of the banner's countdown takes, whether the
host of a request is checked, and whether events of the file system wake the watcher. The settings
are read from JSON with comments; a field that is left out has its default.

An interval of zero would never let time pass, so the effective intervals are at least one unit.
-/

set_option autoImplicit false

namespace SiteGate.Config

/-- The settings of the engine. -/
structure Settings where
  refreshSeconds : Nat
  tickMillis : Nat
  validateHost : Bool
  watchEvents : Bool
deriving DecidableEq

namespace Settings

/-- The settings that hold where none are given. -/
def standard : Settings := ⟨15, 1000, false, true⟩

/-- The seconds between two looks at the files. -/
def refreshInterval (s : Settings) : Nat := max s.refreshSeconds 1

/-- The milliseconds that a second of the countdown takes. -/
def tickInterval (s : Settings) : Nat := max s.tickMillis 1

/-- The files are looked at again after some time. -/
theorem refreshInterval_pos (s : Settings) : 0 < s.refreshInterval := by
  unfold refreshInterval
  omega

/-- There is some time between two ticks. -/
theorem tickInterval_pos (s : Settings) : 0 < s.tickInterval := by
  unfold tickInterval
  omega

/-- Reads settings. -/
def ofJson? (j : Json) : Option Settings := do
  let fs ← j.fields? (["refresh_interval_secs", "banner_tick_ms", "validate_remote_host",
    "watch_file_events"].map String.toList) .opened
  let d := standard
  some {
    refreshSeconds := ← fs.getD "refresh_interval_secs" (Json.natural? UInt64.size) d.refreshSeconds
    tickMillis := ← fs.getD "banner_tick_ms" (Json.natural? UInt64.size) d.tickMillis
    validateHost := ← fs.getD "validate_remote_host" Json.bool? d.validateHost
    watchEvents := ← fs.getD "watch_file_events" Json.bool? d.watchEvents }

/-- The settings that a JSON text without comments spells. -/
def ofJsonText? (t : Text) : Option Settings := (Json.parse? t).bind ofJson?

/-- Why a settings file cannot be read. -/
inductive LoadError where
  | file (f : FileFailure)
  /-- Its text without the comments is not a JSON value all parts of which can be read. -/
  | json
deriving DecidableEq

/-- The JSON value in a file and the file's text without the comments. -/
def load (files : Tree) (path : Path) : Except LoadError (Json × Text) :=
  match files.contentAt path with
  | .error f => .error (.file f)
  | .ok content =>
    let cleaned := Json.stripComments (Text.decode content)
    match Json.ofText? cleaned with
    | some j => .ok (j, cleaned)
    | none => .error .json

/-- The settings in a file. -/
def ofFile (files : Tree) (path : Path) : Except LoadError Settings :=
  match load files path with
  | .error e => .error e
  | .ok (_, cleaned) =>
    match ofJsonText? cleaned with
    | some s => .ok s
    | none => .error .json

end Settings

end SiteGate.Config
