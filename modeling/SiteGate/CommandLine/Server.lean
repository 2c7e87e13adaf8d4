import SiteGate.CommandLine.Help
import SiteGate.CommandLine.Outcome
import SiteGate.CommandLine.Reading
import SiteGate.Log.Filter
import SiteGate.Store.Basic

/-!
# Starting the server

What the server does until it listens: it reads its arguments, the settings file and the
configuration, tells about each step in its log, and binds its address. It ends before that if
something fails. A metrics endpoint that cannot be bound is reported in the log and does no harm.

Options on the command line come before the settings file.
-/

set_option autoImplicit false

namespace SiteGate.CommandLine.Server

open Config (Settings)
open Net (Machine SocketAddress)
open Log (Event Filter)

/-- The version of the server. -/
def version : String := "0.1.0"

/-! ## Arguments -/

/-- How events are written. -/
inductive LogFormat where
  | pretty
  | json
deriving DecidableEq

/-- The format that a word asks for. -/
def LogFormat.ofText? (t : Text) : Option LogFormat :=
  if t = "pretty".toList then some .pretty
  else if t = "json".toList then some .json
  else none

/-- Whether a text spells an address with a port. -/
def isAddress (t : Text) : Bool := (SocketAddress.ofText? t).isSome

/-- The number of seconds that a text spells. -/
def seconds? (t : Text) : Option Nat := Text.natural? UInt64.size t

/-- The server as a command. -/
def server : Command where
  name := "webconf"
  about := "Static site server with a hot-reloading config file"
  options :=
    [⟨some 'r', "root", .value "ROOT" acceptsPath false,
        "Web root; \x60appdata/\x60 and \x60wwwroot/\x60 live beneath it [default: .]"⟩,
      ⟨some 'b', "bind", .value "BIND" isAddress false, "[default: 0.0.0.0:8080]"⟩,
      ⟨none, "settings", .value "SETTINGS" acceptsPath false,
        "Engine settings file (JSON, \x60#\x60 and \x60/* */\x60 comments allowed)"⟩,
      ⟨none, "refresh-secs", .value "REFRESH_SECS" (fun t => (seconds? t).isSome) false,
        "Seconds between config file polls"⟩,
      ⟨none, "validate-host", .switch,
        "Reject requests whose Host header is not a configured hostname"⟩,
      ⟨none, "metrics-addr", .value "METRICS_ADDR" isAddress false,
        "Expose Prometheus metrics on this address"⟩,
      ⟨none, "log-format", .value "LOG_FORMAT" (fun t => (LogFormat.ofText? t).isSome) false,
        "[default: pretty] [possible values: pretty, json]"⟩,
      .askHelp, .askVersion]
  operands := []
  commands := []

/-- What the server has been told to do. -/
structure Arguments where
  root : Path
  bind : SocketAddress
  settings : Option Path
  refreshSeconds : Option Nat
  validateHost : Bool
  metrics : Option SocketAddress
  logFormat : LogFormat

/-- The arguments that have been read. -/
def Arguments.ofReading (r : Reading) : Arguments where
  root := (r.value? "root").getD ['.']
  bind := ((r.value? "bind").bind SocketAddress.ofText?).getD (.v4 ⟨0, 0, 0, 0⟩ 8080)
  settings := r.value? "settings"
  refreshSeconds := (r.value? "refresh-secs").bind seconds?
  validateHost := r.has "validate-host"
  metrics := (r.value? "metrics-addr").bind SocketAddress.ofText?
  logFormat := ((r.value? "log-format").bind LogFormat.ofText?).getD .pretty

/-- The address at which the program listens for those who ask for metrics. -/
def Arguments.metricsAddress (machine : Machine) (a : Arguments) : Option SocketAddress :=
  a.metrics.filter fun address => (address.bindError? machine []).isNone

/-- The settings that arguments ask for. -/
def Arguments.engineSettings (a : Arguments) (files : Tree) : Except Failure Settings :=
  let base : Except Settings.LoadError Settings :=
    match a.settings with
    | none => .ok Settings.standard
    | some path => Settings.ofFile files path
  match base with
  | .error (.file f) => .error (.file f)
  | .error .json => .error .settings
  | .ok s =>
    .ok { s with
      refreshSeconds := a.refreshSeconds.getD s.refreshSeconds
      validateHost := a.validateHost || s.validateHost }

/-! ## Events -/

/-- The server starts. -/
def starting : Event :=
  ⟨.information, "webconf", "webconf starting", [("version", .text version.toList)]⟩

/-- The settings are known. -/
def settingsResolved (s : Settings) : Event :=
  ⟨.information, "webconf", "Engine settings resolved",
    [("refresh_interval_secs", .natural s.refreshInterval),
      ("validate_remote_host", .flag s.validateHost),
      ("watch_file_events", .flag s.watchEvents)]⟩

/-- What becomes of the metrics endpoint. -/
def metricsEvent (machine : Machine) (a : SocketAddress) : Event :=
  let target := "webconf::observability::metrics"
  match a.bindError? machine [] with
  | some e =>
    ⟨.error, target, "Failed to install Prometheus recorder",
      [("error", .text ("failed to create HTTP listener: ".toList ++ e.message))]⟩
  | none =>
    ⟨.information, target, "Metrics endpoint listening", [("address", .text a.toText)]⟩

/-- The configuration file was missing and has been written. -/
def wroteConfig (l : Config.Layout) : Event :=
  ⟨.information, "webconf::config::template", "Wrote default config",
    [("path", .text l.configFile)]⟩

/-- A snapshot has been published. -/
def snapshotReplaced (s : Config.Snapshot) : Event :=
  ⟨.information, "webconf::config::store", "Config file change detected, snapshot replaced",
    [("digest", .text s.digest), ("hostname", .text s.site.hostname),
      ("maintenance", .flag s.maintenance), ("banner_on", .flag s.banner.on)]⟩

/-- The store is open. -/
def configLoaded (l : Config.Layout) : Event :=
  ⟨.information, "webconf::config::store", "Configuration loaded",
    [("web_root", .text l.webRoot), ("config_file", .text l.configFile)]⟩

/-- What opening the store under a web root tells. -/
def openingEvents (root : Path) (o : Store.Opening) : List Event :=
  let layout := Config.Layout.ofRoot root
  (if o.wroteConfig then [wroteConfig layout] else []) ++
    match o.result with
    | .error _ => []
    | .ok (_, s) => [snapshotReplaced s.snapshot, configLoaded layout]

/-! ## Running -/

/-- How far the server comes. -/
inductive Ending where
  /-- It has been asked for a text. -/
  | told (t : Text)
  | misused
  | failed (f : Failure)
  /-- It listens, and answers requests from now on. -/
  | listening (a : SocketAddress)

/-- A run of the server: how far it comes, the events that pass its filter, how they are written,
and the files after it. -/
structure Run where
  ending : Ending
  events : List Event
  logFormat : LogFormat
  files : Tree

/-- The filter where none is given. -/
def standardFilter : Filter :=
  [⟨"webconf".toList, .all, Log.Level.information.rank⟩]

/-- The filter that a text asks for. One that cannot be read counts as none. -/
def filterOf (t : Option Text) : Filter := (t.bind Filter.ofText?).getD standardFilter

/-- Opens the store and binds the address: the end, what is told, and the files. -/
def openAndBind (machine : Machine) (files : Tree) (a : Arguments) (settings : Settings) :
    Ending × List Event × Tree :=
  let o := Store.openAt files a.root settings
  let ending :=
    match o.result with
    | .error f => .failed (.file f)
    | .ok _ =>
      match a.bind.bindError? machine (a.metricsAddress machine).toList with
      | some e => .failed (.bind e)
      | none => .listening a.bind
  (ending, openingEvents a.root o, o.files)

/-- Starts the server: the end, all that is told, and the files. -/
def start (machine : Machine) (files : Tree) (a : Arguments) : Ending × List Event × Tree :=
  match a.engineSettings files with
  | .error f => (.failed f, [starting], files)
  | .ok settings =>
    let (ending, events, files) := openAndBind machine files a settings
    (ending,
      starting :: settingsResolved settings :: a.metrics.toList.map (metricsEvent machine) ++ events,
      files)

/-- Runs the server on a machine with the words after its name and the text of a filter. -/
def runOn (machine : Machine) (files : Tree) (words : List Text) (filter : Option Text) : Run :=
  match server.readAll words with
  | .error .help => ⟨.told server.help, [], .pretty, files⟩
  | .error .version =>
    ⟨.told (server.name.toList ++ ' ' :: version.toList ++ ['\n']), [], .pretty, files⟩
  | .error .misuse => ⟨.misused, [], .pretty, files⟩
  | .ok r =>
    let a := Arguments.ofReading r
    let (ending, events, files) := start machine files a
    ⟨ending, events.filter (filterOf filter).allows, a.logFormat, files⟩

/-- Runs the server on a common machine. -/
def run : Tree → List Text → Option Text → Run := runOn Machine.common

/-- What the operating system sees of a run that ends. -/
def Run.outcome? (r : Run) : Option Outcome :=
  match r.ending with
  | .told t => some (.done r.files t)
  | .misused => some ⟨2, [], server.misuseText, r.files⟩
  | .failed f => some (.failed r.files f)
  | .listening _ => none

end SiteGate.CommandLine.Server
