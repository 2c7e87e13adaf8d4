import SiteGate.Config.Document
import SiteGate.Files.Replace

/-!
# Changing one value in the configuration file

The file is read, one value is changed in it, and the result takes the file's place. It is written
back also if there is no line for the value, and then it holds the same text.
-/

set_option autoImplicit false

namespace SiteGate.Config

/-- The text with another value for a key of a section, and whether there is a line for it. -/
def updateText (t : Text) (parent key value : Text) : Bool × Text :=
  let d := Document.ofText t
  match d.setValue? parent key value with
  | some changed => (true, changed.render)
  | none => (false, d.render)

/-- Changes a value in the file at `path` by way of the file at `swap`; tells whether there is a
line for it. -/
def updateFile (t : Tree) (path swap : Path) (parent key value : Text) :
    Except FileFailure Bool × Tree :=
  match t.contentAt path with
  | .error f => (.error f, t)
  | .ok content =>
    let (found, text) := updateText (Text.decode content) parent key value
    match t.replace path swap (Text.encode text) with
    | (.error f, t') => (.error f, t')
    | (.ok (), t') => (.ok found, t')

end SiteGate.Config
