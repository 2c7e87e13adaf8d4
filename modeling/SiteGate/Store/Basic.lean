import SiteGate.Config.Settings
import SiteGate.Config.Setup
import SiteGate.Config.Source
import SiteGate.Config.Update

/-!
# The store of a site

The store publishes the snapshot of the configuration file. It reads the file again when asked to,
and publishes a new snapshot only if the digest of the file or of the list of blocked addresses is
another one than that of what it has published. Every snapshot that is read from the configuration
file begins a new generation of the banner.

An operation that fails leaves the store as it is; files that it has written stay written.
-/

set_option autoImplicit false

namespace SiteGate

open Config (Layout Settings Snapshot)

/-- A store: where its files are, its settings, the snapshot that it has published, how many it
has published, the digest of the list of blocked addresses that the snapshot knows, and the
generation of the banner. A machine counts generations in a word of sixty-four bits; the two agree
for as long as a store has read fewer than 2 ^ 64 configurations. -/
structure Store where
  layout : Layout
  settings : Settings
  snapshot : Snapshot
  version : Nat
  blockedDigest : Text
  generation : Nat
deriving DecidableEq

/-- What reading the files again has come to. -/
inductive Reload where
  /-- Both files are the same as before. -/
  | unchanged
  /-- Only the list of blocked addresses is another one. -/
  | blockedRefreshed
  /-- The configuration is another one; `timed` tells whether its banner is counted down. -/
  | reloaded (timed : Bool)
deriving DecidableEq

/-- The word for what a reload has come to. -/
def Reload.label : Reload → Text
  | .unchanged => "unchanged".toList
  | .blockedRefreshed => "blocked_ip".toList
  | .reloaded _ => "reloaded".toList

namespace Store

/-- The store before it has read anything. -/
def initial (layout : Layout) (settings : Settings) : Store :=
  { layout := layout
    settings := settings
    snapshot := .empty
    version := 0
    blockedDigest := []
    generation := 0 }

/-- The store with another snapshot published. -/
def publish (s : Store) (next : Snapshot) : Store :=
  { s with snapshot := next, version := s.version + 1 }

/-- The snapshot that is published for a content and blocked addresses: it knows the places of the
files and the settings, and the count of a timed banner is full. -/
def snapshotOf (s : Store) (content : Bytes) (blocked : List Text) : Snapshot :=
  let parsed := Snapshot.ofContent content
  let ticks := if parsed.banner.isTimed then parsed.banner.secondsToDisplay
    else parsed.banner.tickCount
  { parsed with
    webRoot := s.layout.webRoot
    appdata := s.layout.appdata
    configFile := s.layout.configFile
    refreshSeconds := s.settings.refreshInterval
    validateHost := s.settings.validateHost
    blockedAddresses := blocked
    banner := { parsed.banner with tickCount := ticks } }

/-- What reloading comes to when the two files have the given contents. -/
def reloadFrom (s : Store) (content : Bytes) (blocked : Option Bytes) : Reload × Store :=
  let digest := Config.blockedDigest blocked
  let addresses := Config.blockedOfContent blocked
  if contentDigest content = s.snapshot.digest then
    if digest = s.blockedDigest then (.unchanged, s)
    else
      (.blockedRefreshed,
        { s.publish { s.snapshot with blockedAddresses := addresses } with
          blockedDigest := digest })
  else
    let next := s.snapshotOf content addresses
    (.reloaded next.banner.isTimed,
      { s.publish next with blockedDigest := digest, generation := s.generation + 1 })

/-- Reads the files again. The list of blocked addresses counts as read once. It is looked at twice,
for its digest and then for its addresses, and the two looks agree unless somebody writes the list
between them; `Attempt.reload` has each look as a step of its own, and `Attempt.comesTo_reload` says
that its steps come to this where nothing comes between. -/
def reload (s : Store) (files : Tree) : Except FileFailure (Reload × Store) :=
  match files.contentAt s.layout.configFile with
  | .error f => .error f
  | .ok content =>
    match Config.blockedContent files s.layout.blockedFile with
    | .error f => .error f
    | .ok blocked => .ok (s.reloadFrom content blocked)

/-- What an operation that may write files has come to. -/
structure Outcome (α : Type) where
  result : Except FileFailure α
  files : Tree
  store : Store

/-- Changes one value in the configuration file and reads the files again; tells whether there is a
line for the value, and what the reload has come to. -/
def update (s : Store) (files : Tree) (parent key value : Text) : Outcome (Bool × Reload) :=
  match Config.updateFile files s.layout.configFile s.layout.swapFile parent key value with
  | (.error f, files') => ⟨.error f, files', s⟩
  | (.ok found, files') =>
    match s.reload files' with
    | .error f => ⟨.error f, files', s⟩
    | .ok (outcome, s') => ⟨.ok (found, outcome), files', s'⟩

/-- Publishes the count of the banner, if the generation is still the one that is counted. -/
def setTicks (s : Store) (generation remaining : Nat) : Store :=
  if s.generation = generation then
    s.publish { s.snapshot with banner := { s.snapshot.banner with tickCount := remaining } }
  else s

/-- Publishes the banner as off. -/
def switchOff (s : Store) : Store :=
  s.publish { s.snapshot with banner := { s.snapshot.banner with on := false, tickCount := 0 } }

/-- Switches the banner off in the configuration file and reads the files again. If the banner is
on even so, because no line of the file says otherwise, it is switched off in the published snapshot
alone. Nothing happens if the generation is no longer the one that is counted. -/
def expire (s : Store) (files : Tree) (generation : Nat) : Outcome (Option Reload) :=
  if s.generation = generation then
    let o := s.update files "MessageBanner".toList "display-mode".toList "off".toList
    match o.result with
    | .error f => ⟨.error f, o.files, s⟩
    | .ok (_, outcome) =>
      let after := if o.store.snapshot.banner.on then o.store.switchOff else o.store
      ⟨.ok (some outcome), o.files, after⟩
  else ⟨.ok none, files, s⟩

/-- What opening a store has come to: the store and what its first reload has come to, the files,
whether the configuration file has been written, and whether it came to the reload at all. -/
structure Opening where
  result : Except FileFailure (Reload × Store)
  files : Tree
  wroteConfig : Bool
  setUp : Bool

/-- Sets up the files under a web root and reads them. -/
def openAt (files : Tree) (root : Path) (settings : Settings) : Opening :=
  let layout := Layout.ofRoot root
  let setup := layout.setUp files
  match setup.result with
  | .error f => ⟨.error f, setup.files, setup.wroteConfig, false⟩
  | .ok () => ⟨(initial layout settings).reload setup.files, setup.files, setup.wroteConfig, true⟩

end Store

end SiteGate
