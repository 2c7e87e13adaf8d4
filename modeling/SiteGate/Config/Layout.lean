import SiteGate.Files.Path

/-!
# Where the files of a site are

All files of a site lie under its web root: the configuration and the list of blocked addresses in
one directory, certificates in another, and the files that are served in a third. A site without a
configuration gets one with the usual settings and explanations.
-/

set_option autoImplicit false

namespace SiteGate.Config

/-- The places of a site's files. -/
structure Layout where
  webRoot : Path
  appdata : Path
  configDirectory : Path
  configFile : Path
  /-- Where a new configuration is written before it takes the place of the old one. -/
  swapFile : Path
  blockedFile : Path
  certificates : Path
  selfSigned : Path
  publicDirectory : Path
deriving DecidableEq

namespace Layout

/-- The layout under a web root. -/
def ofRoot (root : Path) : Layout :=
  let appdata := Path.join root "appdata".toList
  let configDirectory := Path.join appdata ".cfg".toList
  let certificates := Path.join appdata "certs".toList
  { webRoot := root
    appdata := appdata
    configDirectory := configDirectory
    configFile := Path.join configDirectory ".all".toList
    swapFile := Path.join configDirectory ".all.swap".toList
    blockedFile := Path.join configDirectory "blocked-ip".toList
    certificates := certificates
    selfSigned := Path.join certificates "self".toList
    publicDirectory := Path.join root "wwwroot".toList }

/-- The directories of a layout, in the order in which they are made. -/
def directories (l : Layout) : List Path :=
  [l.appdata, l.configDirectory, l.certificates, l.selfSigned, l.publicDirectory]

/-- The files of a layout. -/
def files (l : Layout) : List Path := [l.configFile, l.blockedFile, l.swapFile]

end Layout

/-- The text with the given lines, each of which ends with a line feed. -/
def textOfLines (lines : List String) : Text := lines.flatMap fun l => l.toList ++ ['\n']

/-- The configuration of a site that has none. -/
def defaultConfig : Text := textOfLines [
  "",
  "# ---------------------------------------------------------------------",
  "# Site configuration. Edits are picked up while the server runs.",
  "#",
  "#   - key and value are separated by one or more spaces",
  "#   - lines starting with # are comments",
  "#   - end a line with a backslash (\\) to continue it on the next line",
  "#   - section names and keys are case-insensitive; the usual layout is",
  "#        SectionName",
  "#           key  value",
  "# ---------------------------------------------------------------------",
  "",
  "# Hostname the site is reached by from outside. Requests naming another",
  "# host are rejected when host validation is enabled.",
  "Site",
  "    hostname             localhost",
  "    # comma separated local or public names, e.g. myhost, www.mydomain.com",
  "    alternate-hostnames",
  "    portno               8085",
  "    proto                http",
  "",
  "# Full paths to the PEM certificate and private key.",
  "TLS",
  "    #cert /srv/mysite/appdata/certs/mydomain/cert.pem",
  "    #key  /srv/mysite/appdata/certs/mydomain/key.pem",
  "",
  "# Put the whole site in maintenance (on/off).",
  "maintenance-window     off",
  "",
  "# Send plain HTTP visitors to HTTPS (yes/no).",
  "redirect-http-to-https no",
  "",
  "Admin",
  "    # comma separated addresses allowed into the admin application",
  "    allowed-ip-addr      127.0.0.1",
  "    run-on-startup       yes",
  "    portno               30000",
  "",
  "# Site-wide banner. With seconds-to-display above zero the banner turns",
  "# itself off after that many seconds; zero leaves it to the operator.",
  "MessageBanner",
  "    display-mode         off",
  "    seconds-to-display   0",
  "",
  "# Evaluated in this order: restrict-paths (401), exclude-paths (404),",
  "# forward-paths (307), conditional-http-service.",
  "# Every path must be relative (start with a slash).",
  "URLPaths",
  "    # restrict-paths  /gallery, /accounting",
  "    restrict-paths",
  "    # exclude-paths   /old-gallery",
  "    exclude-paths",
  "    # forward-paths   /a-long-blog-name|/latest-blog, /old|/new",
  "    # only relative destinations are honored",
  "    forward-paths",
  "    # serve a path only to requests matching a header, ip-address or",
  "    # query-string criterion, e.g.",
  "    # conditional-http-service [\x7b\"rule-type\":\"header\",\"url-path\":\"/robots.txt\"," ++
    "\"serve-only-to-criteria\":[\"bingbot\",\"Googlebot\"],\"http-status-code\":404\x7d]",
  "    conditional-http-service",
  "",
  "HTTP",
  "    allowed-methods      GET, HEAD, OPTIONS",
  "",
  "# Free-form values: key (no spaces) followed by any text.",
  "#     db-conn    Host=localhost;Port=5432;Database=mydb",
  "#     feature    \x7b\"beta\":[\"v1\",\"v2\"]\x7d",
  "Data",
  ""]

/-- The list of blocked addresses of a site that has none. -/
def defaultBlocked : Text := textOfLines [
  "",
  "# Connections from these addresses are dropped.",
  "# Format: <ip address> <one or more spaces> <reason>",
  "# 10.12.3.4 repeated login attempts"]

end SiteGate.Config
