import SiteGate.Config.Snapshot
import SiteGate.Json.Writer

/-!
# Snapshots in JSON

A snapshot is written as one object with its fields in a fixed order, and read back from such an
object with its fields in any order; a field that is left out has its empty value. A forward rule is
written as the text of its entry and read as such a text is in a configuration file.

The export of a snapshot is its JSON text in which the escapes by number of the angle brackets are
replaced by the brackets themselves.
-/

set_option autoImplicit false

namespace SiteGate.Config

/-- An object with the given names and values. -/
def record (members : List (String × Json)) : Json :=
  .object (members.map fun (name, j) => (.ofText name.toList, j))

/-- An array of texts. -/
def textArray (ts : List Text) : Json := .array (ts.map Json.ofText)

/-- A text, or null for none. -/
def nullable (t : Option Text) : Json := t.elim .null Json.ofText

/-- A rule as JSON. -/
def ConditionalRule.toJson (r : ConditionalRule) : Json :=
  record [("rule-type", Json.ofText r.part.name), ("url-path", Json.ofText r.urlPath),
    ("serve-only-to-criteria", textArray r.criteria), ("http-status-code", Json.ofInt r.statusCode)]

/-- The identity of the site as JSON. -/
def Site.toJson (s : Site) : Json :=
  record [("hostname", Json.ofText s.hostname),
    ("alternate-host-names", textArray s.alternateHostnames), ("proto", Json.ofText s.proto),
    ("portno", Json.ofNat s.port.toNat)]

/-- The certificate files as JSON. -/
def TlsFiles.toJson (t : TlsFiles) : Json :=
  record [("cert-file-path", nullable t.certificate), ("key-file-path", nullable t.privateKey)]

/-- The access to the administration as JSON. -/
def Admin.toJson (a : Admin) : Json :=
  record [("run-on-startup", .bool a.runOnStartup), ("port-no", Json.ofNat a.port.toNat),
    ("allowed-ip", textArray a.allowedAddresses)]

/-- The rules about paths as JSON. -/
def UrlPaths.toJson (u : UrlPaths) : Json :=
  record [("restrict", textArray u.restrict), ("exclude", textArray u.exclude),
    ("forward", textArray (u.forward.map ForwardRule.toText)),
    ("conditional-http-service", .array (u.conditional.map ConditionalRule.toJson))]

/-- The banner as JSON. -/
def MessageBanner.toJson (b : MessageBanner) : Json :=
  record [("on", .bool b.on), ("seconds-to-display", Json.ofNat b.secondsToDisplay),
    ("tick-count", Json.ofNat b.tickCount)]

/-- The free data as JSON. -/
def Data.toJson (d : Data) : Json :=
  .object (d.map fun (key, value) => (.ofText key, Json.ofText value))

/-- A snapshot as JSON. -/
def Snapshot.toJson (s : Snapshot) : Json :=
  record [("web-root-path", Json.ofText s.webRoot), ("appdata-path", Json.ofText s.appdata),
    ("config-file-path", Json.ofText s.configFile),
    ("config-file-last-hash", Json.ofText s.digest),
    ("refresh-interval-secs", Json.ofNat s.refreshSeconds), ("site", s.site.toJson),
    ("tls", s.tls.toJson), ("admin", s.admin.toJson),
    ("http", record [("allowed-methods", textArray s.allowedMethods)]),
    ("url-paths", s.urlPaths.toJson), ("message-banner", s.banner.toJson),
    ("validate-remote-host", .bool s.validateHost), ("blocked-ip", textArray s.blockedAddresses),
    ("redirect-http-to-https", .bool s.redirectToHttps),
    ("maintenance-window-on", .bool s.maintenance), ("data", Data.toJson s.data)]

/-- The JSON text of a snapshot. -/
def Snapshot.toJsonText (s : Snapshot) : Text := s.toJson.write

/-- The text in which the escapes by number of the angle brackets are replaced by the brackets. -/
def readableBrackets (t : Text) : Text :=
  Text.replaceAll "\\u003c".toList ['<'] (Text.replaceAll "\\u003e".toList ['>'] t)

/-- The export of a snapshot. -/
def Snapshot.exportText (s : Snapshot) : Text := readableBrackets s.toJsonText

/-- Reads the identity of the site. -/
def Site.ofJson? (j : Json) : Option Site := do
  let fs ← j.fields? (["hostname", "alternate-host-names", "proto", "portno"].map String.toList)
    .opened
  some {
    hostname := ← fs.getD "hostname" Json.text? []
    alternateHostnames := ← fs.getD "alternate-host-names" Json.texts? []
    proto := ← fs.getD "proto" Json.text? []
    port := UInt16.ofNat (← fs.getD "portno" (Json.natural? UInt16.size) 0) }

/-- Reads the certificate files. -/
def TlsFiles.ofJson? (j : Json) : Option TlsFiles := do
  let fs ← j.fields? (["cert-file-path", "key-file-path"].map String.toList) .opened
  some {
    certificate := ← fs.getD "cert-file-path" Json.nullableText? none
    privateKey := ← fs.getD "key-file-path" Json.nullableText? none }

/-- Reads the access to the administration. -/
def Admin.ofJson? (j : Json) : Option Admin := do
  let fs ← j.fields? (["run-on-startup", "port-no", "allowed-ip"].map String.toList) .opened
  some {
    runOnStartup := ← fs.getD "run-on-startup" Json.bool? false
    port := UInt16.ofNat (← fs.getD "port-no" (Json.natural? UInt16.size) 0)
    allowedAddresses := ← fs.getD "allowed-ip" Json.texts? [] }

/-- Reads the allowed methods. -/
def allowedMethodsOfJson? (j : Json) : Option (List Text) := do
  let fs ← j.fields? ["allowed-methods".toList] .opened
  fs.getD "allowed-methods" Json.texts? []

/-- Reads the rules about paths. -/
def UrlPaths.ofJson? (j : Json) : Option UrlPaths := do
  let fs ← j.fields?
    (["restrict", "exclude", "forward", "conditional-http-service"].map String.toList) .opened
  let rules := fun (items : Json) => items.items?.bind (·.mapM ConditionalRule.ofJson?)
  some {
    restrict := ← fs.getD "restrict" Json.texts? []
    exclude := ← fs.getD "exclude" Json.texts? []
    forward := (← fs.getD "forward" Json.texts? []).map ForwardRule.ofText
    conditional := ← fs.getD "conditional-http-service" rules [] }

/-- Reads the banner. -/
def MessageBanner.ofJson? (j : Json) : Option MessageBanner := do
  let fs ← j.fields? (["on", "seconds-to-display", "tick-count"].map String.toList) .opened
  some {
    on := ← fs.getD "on" Json.bool? false
    secondsToDisplay := ← fs.getD "seconds-to-display" (Json.natural? UInt64.size) 0
    tickCount := ← fs.getD "tick-count" (Json.natural? UInt64.size) 0 }

/-- Reads the members of the free data after those read so far. -/
def Data.ofMembers? (d : Data) : List (StringToken × Json) → Option Data
  | [] => some d
  | (token, j) :: rest =>
    token.text?.bind fun key => j.text?.bind fun value => Data.ofMembers? (d.insert key value) rest

/-- Reads the free data. -/
def Data.ofJson? : Json → Option Data
  | .object members => Data.ofMembers? [] members
  | _ => none

/-- The names of a snapshot's fields in JSON, in order. -/
def Snapshot.fieldNames : List Text :=
  ["web-root-path", "appdata-path", "config-file-path", "config-file-last-hash",
    "refresh-interval-secs", "site", "tls", "admin", "http", "url-paths", "message-banner",
    "validate-remote-host", "blocked-ip", "redirect-http-to-https", "maintenance-window-on",
    "data"].map String.toList

/-- Reads a snapshot. -/
def Snapshot.ofJson? (j : Json) : Option Snapshot := do
  let fs ← j.fields? fieldNames .opened
  let e := Snapshot.empty
  some {
    webRoot := ← fs.getD "web-root-path" Json.text? e.webRoot
    appdata := ← fs.getD "appdata-path" Json.text? e.appdata
    configFile := ← fs.getD "config-file-path" Json.text? e.configFile
    digest := ← fs.getD "config-file-last-hash" Json.text? e.digest
    refreshSeconds := ← fs.getD "refresh-interval-secs" (Json.natural? UInt64.size) e.refreshSeconds
    site := ← fs.getD "site" Site.ofJson? e.site
    tls := ← fs.getD "tls" TlsFiles.ofJson? e.tls
    admin := ← fs.getD "admin" Admin.ofJson? e.admin
    allowedMethods := ← fs.getD "http" allowedMethodsOfJson? e.allowedMethods
    urlPaths := ← fs.getD "url-paths" UrlPaths.ofJson? e.urlPaths
    banner := ← fs.getD "message-banner" MessageBanner.ofJson? e.banner
    validateHost := ← fs.getD "validate-remote-host" Json.bool? e.validateHost
    blockedAddresses := ← fs.getD "blocked-ip" Json.texts? e.blockedAddresses
    redirectToHttps := ← fs.getD "redirect-http-to-https" Json.bool? e.redirectToHttps
    maintenance := ← fs.getD "maintenance-window-on" Json.bool? e.maintenance
    data := ← fs.getD "data" Data.ofJson? e.data }

/-- The snapshot that a JSON text spells. -/
def Snapshot.ofJsonText? (t : Text) : Option Snapshot := (Json.parse? t).bind Snapshot.ofJson?

end SiteGate.Config
