import SiteGate.Config.Line

/-!
# The list of blocked addresses

The list is a text file with one address a line; what follows the address on its line is a remark,
and comments are as in the configuration file.
-/

set_option autoImplicit false

namespace SiteGate.Config

/-- The first words of the lines that are no comments. -/
def blockedAddresses (t : Text) : List Text :=
  ((Text.lines t).filter (!isSkippable ·)).filterMap Text.firstWord?

end SiteGate.Config
