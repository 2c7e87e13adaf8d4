import SiteGate.Files.Tree

/-!
# Replacing a file

A file's content is replaced by writing the new content to a swap file, which then takes the file's
place. Whoever reads the file meets the old content or the new one, and never a part of either. If
the swap file cannot be written nothing has changed; if it cannot take the file's place it stays
behind.
-/

set_option autoImplicit false

namespace SiteGate.Tree

/-- The content of a file, with the path in the failure. -/
def contentAt (t : Tree) (p : Path) : Except FileFailure Bytes :=
  match t.read p with
  | .ok content => .ok content
  | .error e => .error ⟨p, e⟩

/-- Gives a file a content, with the path in the failure. -/
def storeAt (t : Tree) (p : Path) (content : Bytes) : Except FileFailure Tree :=
  match t.write p content with
  | .ok t' => .ok t'
  | .error e => .error ⟨p, e⟩

/-- Replaces the content of the file at `path` by way of the file at `swap`. -/
def replace (t : Tree) (path swap : Path) (content : Bytes) : Except FileFailure Unit × Tree :=
  match t.storeAt swap content with
  | .error f => (.error f, t)
  | .ok written =>
    match written.rename swap path with
    | .error e => (.error ⟨path, e⟩, written)
    | .ok renamed => (.ok (), renamed)

end SiteGate.Tree
