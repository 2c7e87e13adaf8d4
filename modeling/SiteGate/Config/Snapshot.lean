import SiteGate.Association
import SiteGate.Config.ConditionalRule
import SiteGate.Config.ForwardRule

/-!
# The snapshot of a configuration

A snapshot is everything a configuration file says, together with what the store that read it adds:
the places of the files, the digest of the content, the refresh interval, the blocked addresses and
whether the host of a request is checked. A snapshot is never changed once it is published.

Ports are words of sixteen bits. The free data keep the order in which their keys first appear, and
a key that appears again gets its last value.
-/

set_option autoImplicit false

namespace SiteGate.Config

/-- The public identity of the site. -/
structure Site where
  /-- The host name in lower case; an empty one turns the check of the host off. -/
  hostname : Text
  alternateHostnames : List Text
  proto : Text
  port : UInt16
deriving DecidableEq

/-- Whether a host names the site, directly or as an alternate. -/
def Site.answersTo (s : Site) (host : Text) : Bool :=
  s.hostname == host || s.alternateHostnames.contains host

/-- Where the certificate and its private key are. -/
structure TlsFiles where
  certificate : Option Text
  privateKey : Option Text
deriving DecidableEq

/-- Whether both files are named. -/
def TlsFiles.isConfigured (t : TlsFiles) : Bool := t.certificate.isSome && t.privateKey.isSome

/-- Access to the administration. -/
structure Admin where
  runOnStartup : Bool
  port : UInt16
  allowedAddresses : List Text
deriving DecidableEq

/-- The rules about paths, in the order in which they are asked. -/
structure UrlPaths where
  restrict : List Text
  exclude : List Text
  forward : List ForwardRule
  conditional : List ConditionalRule
deriving DecidableEq

/-- The banner of the site. -/
structure MessageBanner where
  on : Bool
  /-- For how long the banner is shown; zero leaves switching it off to the operator. -/
  secondsToDisplay : Nat
  /-- The seconds that are left of a banner that switches itself off. -/
  tickCount : Nat
deriving DecidableEq

/-- Whether the banner switches itself off. -/
def MessageBanner.isTimed (b : MessageBanner) : Bool := b.on && 0 < b.secondsToDisplay

/-- Free data: keys with their values. -/
abbrev Data := Association Text Text

/-- A configuration as it is published. -/
structure Snapshot where
  webRoot : Text
  appdata : Text
  configFile : Text
  /-- The digest of the content that the snapshot was read from. -/
  digest : Text
  refreshSeconds : Nat
  site : Site
  tls : TlsFiles
  admin : Admin
  allowedMethods : List Text
  urlPaths : UrlPaths
  banner : MessageBanner
  /-- Whether requests for another host are refused. -/
  validateHost : Bool
  blockedAddresses : List Text
  redirectToHttps : Bool
  maintenance : Bool
  data : Data
deriving DecidableEq

/-- The snapshot that says nothing. -/
def Snapshot.empty : Snapshot where
  webRoot := []
  appdata := []
  configFile := []
  digest := []
  refreshSeconds := 0
  site := ⟨[], [], [], 0⟩
  tls := ⟨none, none⟩
  admin := ⟨false, 0, []⟩
  allowedMethods := []
  urlPaths := ⟨[], [], [], []⟩
  banner := ⟨false, 0, 0⟩
  validateHost := false
  blockedAddresses := []
  redirectToHttps := false
  maintenance := false
  data := []

/-- Whether an address is listed as blocked. -/
def Snapshot.isBlocked (s : Snapshot) (address : Text) : Bool := s.blockedAddresses.contains address

end SiteGate.Config
