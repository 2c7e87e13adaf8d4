import SiteGate.Files.Path
import SiteGate.Http.MediaTable
import SiteGate.Http.Uri
import SiteGate.Text.LatinFold

/-!
# Types of files

What a file holds is told by the end of its name. Upper and lower case are the same there, and a
file whose name has no known end is a sequence of bytes.
-/

set_option autoImplicit false

namespace SiteGate.Http

/-- The ends of names that tell a type of a family, each with the type. -/
def MediaFamily.endings (f : MediaFamily) : List (Text × Text) :=
  f.members.flatMap fun (member, endings) =>
    (endings.toList.splitOn ' ').map (·, f.name.toList ++ '/' :: member.toList)

/-- All ends of names that tell a type, each with the type. -/
def mediaEndings : List (Text × Text) := MediaFamily.all.flatMap MediaFamily.endings

/-- The type of a file of which nothing is known. -/
def unknownType : Text := "application/octet-stream".toList

/-- The end of a file's name after its last point, unless the point begins the name. -/
def extension? (p : Path) : Option Text :=
  let name := Uri.afterLast '/' p
  let ending := Uri.afterLast '.' name
  if ending.length + 1 < name.length then some ending else none

/-- The type that the end of a name tells. -/
def typeOfEnding? (ending : Text) : Option Text := mediaEndings.lookup (Text.foldLatin ending)

/-- The type of a file. -/
def fileType (p : Path) : Text := ((extension? p).bind typeOfEnding?).getD unknownType

end SiteGate.Http
