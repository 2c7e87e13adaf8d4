import SiteGate.Text.Lowercase

/-!
# Sections, keys and directives

The vocabulary of the configuration file. A section is opened by a line that is its name; each
section but the last one has its own keys, and a line belongs to a key if it begins with the key's
name in any case, so `hostnames` counts as `hostname`. Two directives stand outside of all sections.
The section for free data takes any key.
-/

set_option autoImplicit false

namespace SiteGate.Config

/-- The sections of the file, in the order in which they are listed. -/
inductive Section where
  | site
  | tls
  | admin
  | messageBanner
  | http
  | urlPaths
  | data
deriving DecidableEq

/-- The settings that are stored under a key of a section. -/
inductive Key where
  | hostname
  | alternateHostnames
  | sitePort
  | proto
  | certificate
  | privateKey
  | allowedAddresses
  | runOnStartup
  | adminPort
  | displayMode
  | secondsToDisplay
  | allowedMethods
  | restrictPaths
  | excludePaths
  | forwardPaths
  | conditionalService
deriving DecidableEq

/-- The settings that stand outside of all sections. -/
inductive Directive where
  | maintenanceWindow
  | redirectToHttps
deriving DecidableEq

namespace Key

/-- The beginning of the lines that hold the setting. -/
def name : Key → Text
  | .hostname => "hostname".toList
  | .alternateHostnames => "alternate-hostnames".toList
  | .sitePort => "portno".toList
  | .proto => "proto".toList
  | .certificate => "cert".toList
  | .privateKey => "key".toList
  | .allowedAddresses => "allowed-ip-addr".toList
  | .runOnStartup => "run-on-startup".toList
  | .adminPort => "portno".toList
  | .displayMode => "display-mode".toList
  | .secondsToDisplay => "seconds-to-display".toList
  | .allowedMethods => "allowed-methods".toList
  | .restrictPaths => "restrict-paths".toList
  | .excludePaths => "exclude-paths".toList
  | .forwardPaths => "forward-paths".toList
  | .conditionalService => "conditional-http-service".toList

end Key

namespace Directive

/-- The beginning of the lines that hold the setting. -/
def name : Directive → Text
  | .maintenanceWindow => "maintenance-window".toList
  | .redirectToHttps => "redirect-http-to-https".toList

/-- The directive of a line, which is given in lower case. -/
def ofLine? (lowered : Text) : Option Directive :=
  [.maintenanceWindow, .redirectToHttps].find? fun d => d.name.isPrefixOf lowered

end Directive

namespace Section

/-- All sections. -/
def all : List Section := [.site, .tls, .admin, .messageBanner, .http, .urlPaths, .data]

/-- The name of a section in lower case. -/
def name : Section → Text
  | .site => "site".toList
  | .tls => "tls".toList
  | .admin => "admin".toList
  | .messageBanner => "messagebanner".toList
  | .http => "http".toList
  | .urlPaths => "urlpaths".toList
  | .data => "data".toList

/-- The keys of a section. -/
def keys : Section → List Key
  | .site => [.hostname, .alternateHostnames, .sitePort, .proto]
  | .tls => [.certificate, .privateKey]
  | .admin => [.allowedAddresses, .runOnStartup, .adminPort]
  | .messageBanner => [.displayMode, .secondsToDisplay]
  | .http => [.allowedMethods]
  | .urlPaths => [.restrictPaths, .excludePaths, .forwardPaths, .conditionalService]
  | .data => []

/-- The section with the given name in any case. -/
def ofName? (name : Text) : Option Section :=
  all.find? fun s => Text.sameIgnoringCase name s.name

/-- The section whose name is the first word of a line. -/
def ofHeader? (line : Text) : Option Section := (Text.firstWord? line).bind ofName?

/-- The section whose name is all of a line but the blanks around it. -/
def ofBareLine? (line : Text) : Option Section := ofName? (Text.trim line)

/-- The key of the section that a line belongs to, which is given in lower case. -/
def matchKey? (s : Section) (lowered : Text) : Option Key :=
  s.keys.find? fun k => k.name.isPrefixOf lowered

end Section

end SiteGate.Config
