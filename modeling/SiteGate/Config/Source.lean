import SiteGate.Config.BlockedList
import SiteGate.Config.Snapshot.Parser
import SiteGate.Digest
import SiteGate.Files.Replace

/-!
# What a snapshot is read from

The content of the configuration file with its digest, and the content of the list of blocked
addresses. A site without such a list blocks nobody.
-/

set_option autoImplicit false

namespace SiteGate.Config

/-- The snapshot of a content, which carries the content's digest. -/
def Snapshot.ofContent (content : Bytes) : Snapshot :=
  { Snapshot.ofText (Text.decode content) with digest := contentDigest content }

/-- The content of the list of blocked addresses, if there is one. -/
def blockedContent (t : Tree) (path : Path) : Except FileFailure (Option Bytes) :=
  if t.holds path then (t.contentAt path).map some else .ok none

/-- The digest of a list of blocked addresses; it is empty for a missing list. -/
def blockedDigest : Option Bytes → Text
  | some content => contentDigest content
  | none => []

/-- The addresses of a list of blocked addresses. -/
def blockedOfContent : Option Bytes → List Text
  | some content => blockedAddresses (Text.decode content)
  | none => []

end SiteGate.Config
