import SiteGate.Config.Line
import SiteGate.Config.Section

/-!
# The configuration file as a document

To change one value in a configuration file and nothing else, the file is kept as its physical
lines, each with what it is: blank, a comment, a section's header, a key with its value, or the
continuation of the line before it. Writing a document that has not been changed gives its text
back.

A value is replaced on the first line whose key begins with the given one: of the whole document if
no section is named, and otherwise of the first section with that name, which ends at the next
header. The line keeps its indentation, the gap after its key and a carriage return at its end, and
loses its continuation.
-/

set_option autoImplicit false

namespace SiteGate.Config

/-- What a physical line is. -/
inductive LineKind where
  | blank
  | comment
  | header (s : Section)
  | keyValue (key : Text)
  | continuation
deriving DecidableEq

/-- A physical line with what it is. -/
structure Entry where
  raw : Text
  kind : LineKind
deriving DecidableEq

/-- A configuration file: its lines in order. -/
abbrev Document := List Entry

/-- What a line is that does not continue the one before it. -/
def lineKind (raw : Text) : LineKind :=
  let line := trimLine raw
  match line with
  | [] => .blank
  | c :: _ =>
    if c = '#' then .comment
    else
      match Section.ofBareLine? line with
      | some s => .header s
      | none => .keyValue (Text.lower (splitKeyValue line).1)

/-- Whether the next line continues a line of this kind. -/
def isContinued (raw : Text) : LineKind → Bool
  | .keyValue _ => (trimLine raw).getLast? = some '\\'
  | _ => false

/-- Reads lines, the first of which continues a line before it if `continues` says so. -/
def Document.ofLines (continues : Bool) : List Text → Document
  | [] => []
  | raw :: rest =>
    if continues then ⟨raw, .continuation⟩ :: Document.ofLines false rest
    else
      let kind := lineKind raw
      ⟨raw, kind⟩ :: Document.ofLines (isContinued raw kind) rest

namespace Document

/-- A document keeps its lines as they are written. -/
theorem map_raw_ofLines (continues : Bool) (lines : List Text) :
    (ofLines continues lines).map Entry.raw = lines := by
  induction lines generalizing continues with
  | nil => rfl
  | cons raw rest ih =>
    cases continues <;> simp [ofLines, ih]

/-- The document of a text. -/
def ofText (t : Text) : Document := ofLines false (t.splitOn '\n')

/-- The text of a document. -/
def render (d : Document) : Text := ['\n'].intercalate (d.map Entry.raw)

/-- Whether a line holds a key that begins with the given one. -/
def holdsKey (key : Text) (e : Entry) : Bool :=
  match e.kind with
  | .keyValue k => key.isPrefixOf k
  | _ => false

/-- Whether a line is a header. -/
def isHeader (e : Entry) : Bool :=
  match e.kind with
  | .header _ => true
  | _ => false

/-- Whether a line is the header of the section with the given name. -/
def isHeaderOf (parent : Text) (e : Entry) : Bool :=
  match e.kind with
  | .header s => Text.sameIgnoringCase s.name parent
  | _ => false

/-- The index of the line that holds a key of a section, or of the whole document if `parent` is
empty. -/
def findKey (d : Document) (parent key : Text) : Option Nat :=
  if parent.isEmpty then d.findIdx? (holdsKey key)
  else
    (d.findIdx? (isHeaderOf parent)).bind fun start =>
      (((d.drop (start + 1)).takeWhile (!isHeader ·)).findIdx? (holdsKey key)).map
        (start + 1 + ·)

/-- A line with another key and value, in the layout of the old line. -/
def editLine (raw key value : Text) : Text :=
  let returned := raw.getLast? = some '\r'
  let bare := if returned then raw.dropLast else raw
  let indent := bare.takeWhile Text.isBlank
  let afterKey := (bare.dropWhile Text.isBlank).dropWhile (!Text.isBlank ·)
  let gap := afterKey.takeWhile Text.isBlank
  let ending := if returned then ['\r'] else []
  if value.isEmpty then indent ++ key ++ ending
  else indent ++ key ++ (if gap.isEmpty then [' '] else gap) ++ value ++ ending

/-- The document with another value for a key of a section, or `none` if there is no such line. -/
def setValue? (d : Document) (parent key value : Text) : Option Document :=
  let key := Text.lower (Text.trim key)
  (d.findKey (Text.trim parent) key).map fun pos =>
    let rest := (d.drop (pos + 1)).dropWhile (·.kind = .continuation)
    let line := (d.drop pos).take 1 |>.map fun e =>
      ⟨editLine e.raw key (Text.trim value), .keyValue key⟩
    d.take pos ++ line ++ rest

end Document

end SiteGate.Config
