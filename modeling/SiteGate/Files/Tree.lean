import SiteGate.Association
import SiteGate.Files.Error

/-!
# The tree of files

What lies under the working directory: directories and files with their content, each at a place,
which is the list of names that leads to it. The working directory itself is at the empty place and
always there.

Operations follow a path component by component. On the way everything has to be a directory; what
the path leads to may be missing, if the operation makes it. An operation either succeeds and gives
the tree after it, or fails with a cause and changes nothing.
-/

set_option autoImplicit false

namespace SiteGate

/-- What lies at a place. -/
inductive Node where
  | file (content : Bytes)
  | directory
deriving DecidableEq

/-- The names that lead to a node from the working directory. -/
abbrev Place := List Text

/-- The nodes of a tree, each at its place. -/
structure Tree where
  nodes : Association Place Node
deriving DecidableEq

namespace Tree

/-- The tree with nothing in it. -/
def empty : Tree := ⟨[]⟩

/-- The node at a place. -/
def at? (t : Tree) (p : Place) : Option Node :=
  if p.isEmpty then some .directory else t.nodes.lookup p

/-- Puts a node at a place, in the stead of the one that was there. -/
def put (t : Tree) (p : Place) (n : Node) : Tree := ⟨t.nodes.insert p n⟩

/-- A node is at the place where it was put. -/
theorem at?_put_self (t : Tree) {p : Place} (h : p ≠ []) (n : Node) :
    (t.put p n).at? p = some n := by
  simp [at?, put, h, Association.lookup_insert_self]

/-- The nodes at other places are not touched. -/
theorem at?_put_of_ne (t : Tree) {p q : Place} (h : q ≠ p) (n : Node) :
    (t.put p n).at? q = t.at? q := by
  simp [at?, put, Association.lookup_insert_of_ne h]

/-- Removes the node at a place and everything below it. -/
def drop (t : Tree) (p : Place) : Tree := ⟨t.nodes.filter fun entry => !p.isPrefixOf entry.1⟩

/-- The length of a name or a path in bytes. -/
def byteLength (t : Text) : Nat := (Text.encode t).length

/-- Follows components, each of which has to lead to a directory. -/
def follow (t : Tree) (here : Place) : List Path.Component → Except FileError Place
  | [] => .ok here
  | .up :: rest => follow t here.dropLast rest
  | .here :: rest => follow t here rest
  | .name n :: rest =>
    if byteLength n > 255 then .error .nameTooLong
    else
      match t.at? (here ++ [n]) with
      | some .directory => follow t (here ++ [n]) rest
      | some (.file _) => .error .notADirectory
      | none => .error .notFound

/-- The components of a path that can be looked up at all. -/
def lookUp (p : Path) : Except FileError (List Path.Component) :=
  if p.contains '\x00' then .error .zeroInPath
  else if byteLength p ≥ 4096 then .error .nameTooLong
  else .ok p.components

/-- The directory that holds what a path leads to, and the last step from there. -/
def locate (t : Tree) (p : Path) : Except FileError (Place × Path.Component) :=
  if p.isEmpty then .error .notFound
  else
    (lookUp p).bind fun components =>
      (t.follow [] components.dropLast).map fun parent =>
        (parent, components.getLast?.getD .here)

/-- The place after one step. -/
def step (parent : Place) : Path.Component → Except FileError Place
  | .up => .ok parent.dropLast
  | .here => .ok parent
  | .name n => if byteLength n > 255 then .error .nameTooLong else .ok (parent ++ [n])

/-- The place that a path leads to. -/
def resolve (t : Tree) (p : Path) : Except FileError Place :=
  (t.locate p).bind fun (parent, last) => step parent last

/-- What a path leads to. -/
def node (t : Tree) (p : Path) : Except FileError Node :=
  (t.resolve p).bind fun place =>
    match t.at? place with
    | some (.file content) =>
      if p.endsWithSlash then .error .notADirectory else .ok (.file content)
    | some .directory => .ok .directory
    | none => .error .notFound

/-- Whether a path leads to something. -/
def holds (t : Tree) (p : Path) : Bool := (t.node p).isOk

/-- The content of the file that a path leads to. -/
def read (t : Tree) (p : Path) : Except FileError Bytes :=
  (t.node p).bind fun
    | .file content => .ok content
    | .directory => .error .isADirectory

/-- Gives the file that a path leads to a content; the file is made if it is missing. -/
def write (t : Tree) (p : Path) (content : Bytes) : Except FileError Tree :=
  (t.locate p).bind fun (parent, last) =>
    if p.endsWithSlash then .error .isADirectory
    else
      (step parent last).bind fun place =>
        match t.at? place with
        | some .directory => .error .isADirectory
        | _ => .ok (t.put place (.file content))

/-- Moves a file from one place to another, in the stead of a file that is there. -/
def move (t : Tree) (source target : Place) (asDirectory : Bool) : Except FileError Tree :=
  match t.at? source with
  | some (.file content) =>
    if asDirectory then .error .notADirectory
    else if source = target then .ok t
    else if target.isPrefixOf source then .error .notEmpty
    else
      match t.at? target with
      | some .directory => .error .isADirectory
      | _ => .ok ((t.drop source).put target (.file content))
  | _ => .error .notFound

/-- Moves the file that one path leads to where another path leads. Both have to end with names. -/
def rename (t : Tree) (source target : Path) : Except FileError Tree :=
  (t.locate source).bind fun (fromParent, fromLast) =>
    (t.locate target).bind fun (toParent, toLast) =>
      match fromLast, toLast with
      | .name _, .name _ =>
        (step fromParent fromLast).bind fun fromPlace =>
          (step toParent toLast).bind fun toPlace =>
            t.move fromPlace toPlace (source.endsWithSlash || target.endsWithSlash)
      | _, _ => .error .busy

/-- Makes the directories, from a directory on, that components lead through and are missing. -/
def fill (t : Tree) (here : Place) : List Path.Component → Except FileError Unit × Tree
  | [] => (.ok (), t)
  | .up :: rest => fill t here.dropLast rest
  | .here :: rest => fill t here rest
  | .name n :: rest =>
    if byteLength n > 255 then (.error .nameTooLong, t)
    else
      let there := here ++ [n]
      match t.at? there with
      | some .directory => fill t there rest
      | some (.file _) => (.error (if rest.isEmpty then .alreadyExists else .notADirectory), t)
      | none => fill (t.put there .directory) there rest

/-- Makes the directory that a path leads to and those on the way that are missing. If it fails,
those that it has made stay. -/
def makeDirectories (t : Tree) (p : Path) : Except FileError Unit × Tree :=
  match lookUp p with
  | .error e => (.error e, t)
  | .ok components => t.fill [] components

/-- The names joined by slashes, with a slash at the end of a directory. -/
def label (entry : Place × Node) : Text :=
  ['/'].intercalate entry.1 ++ (if entry.2 = .directory then ['/'] else [])

/-- Whether a text comes before another one, or is equal to it, when both are compared character by
character. -/
def precedes : Text → Text → Bool
  | [], _ => true
  | _ :: _, [] => false
  | a :: as, b :: bs => a.toNat < b.toNat || (a == b && precedes as bs)

/-- The labels of all nodes, in order. -/
def labels (t : Tree) : List Text := (t.nodes.map label).mergeSort precedes

end Tree

end SiteGate
