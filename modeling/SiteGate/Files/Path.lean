import SiteGate.Text.Utf8

/-!
# Paths

A path is kept as it was written, because it is shown as it was written; its components matter only
when it is looked up. A dot among them stays where it is, two dots go up. Slashes at the end ask for
a directory.
-/

set_option autoImplicit false

namespace SiteGate

/-- A path as it is written. -/
abbrev Path := Text

namespace Path

/-- The path of something within a directory: a slash is put between them unless the directory is
empty or ends with one. -/
def join (base : Path) (child : Text) : Path :=
  if base.isEmpty || base.getLast? = some '/' then base ++ child else base ++ '/' :: child

/-- A step from a directory: up, nowhere, or to what has the given name. -/
inductive Component where
  | up
  | here
  | name (n : Text)
deriving DecidableEq

/-- The component that a piece between two slashes stands for. -/
def component? (piece : Text) : Option Component :=
  if piece.isEmpty then none
  else if piece = ['.'] then some .here
  else if piece = ['.', '.'] then some .up
  else some (.name piece)

/-- The pieces between the slashes. -/
def pieces (p : Path) : List Text := p.splitOn '/'

/-- The components of a path. -/
def components (p : Path) : List Component := p.pieces.filterMap component?

/-- The paths that a path leads through, from the shortest one to itself. -/
def beginnings (p : Path) : List Path :=
  let upTo := fun n => ['/'].intercalate (p.pieces.take (n + 1))
  ((List.range p.pieces.length).map upTo).filter (!·.isEmpty)

/-- Whether the path ends with a slash. -/
def endsWithSlash (p : Path) : Bool := p.getLast? = some '/'

end Path

end SiteGate
