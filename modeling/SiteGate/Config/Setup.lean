import SiteGate.Config.Layout
import SiteGate.Files.Replace

/-!
# Setting up a site's files

Before a site is opened its directories are made and the files that it has to have are written.
What is there already is left as it is. If something cannot be made, what has been made stays.
-/

set_option autoImplicit false

namespace SiteGate.Config

/-- What setting up has come to: whether it has succeeded, the files after it, and whether the
configuration file has been written. -/
structure Setup where
  result : Except FileFailure Unit
  files : Tree
  wroteConfig : Bool

/-- Makes directories one after another, up to the first one that cannot be made. -/
def makeAll (t : Tree) : List Path → Except FileFailure Unit × Tree
  | [] => (.ok (), t)
  | d :: rest =>
    match t.makeDirectories d with
    | (.error e, t') => (.error ⟨d, e⟩, t')
    | (.ok (), t') => makeAll t' rest

/-- Writes a file if it is missing; tells whether it was. -/
def writeMissing (t : Tree) (p : Path) (content : Text) : Except FileFailure (Bool × Tree) :=
  if t.holds p then .ok (false, t)
  else (t.storeAt p (Text.encode content)).map fun t' => (true, t')

/-- Makes the directories and files of a layout that are missing. -/
def Layout.setUp (l : Layout) (t : Tree) : Setup :=
  match makeAll t l.directories with
  | (.error f, t') => ⟨.error f, t', false⟩
  | (.ok (), t') =>
    match writeMissing t' l.configFile defaultConfig with
    | .error f => ⟨.error f, t', false⟩
    | .ok (wrote, t') =>
      match writeMissing t' l.blockedFile defaultBlocked with
      | .error f => ⟨.error f, t', wrote⟩
      | .ok (_, t') => ⟨.ok (), t', wrote⟩

end SiteGate.Config
