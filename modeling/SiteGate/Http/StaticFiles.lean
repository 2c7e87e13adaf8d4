import SiteGate.Files.Tree
import SiteGate.Http.Date
import SiteGate.Http.Guard
import SiteGate.Http.MediaType
import SiteGate.Http.Range

/-!
# Serving files

A path names a file below a directory once its escapes are undone. A name that goes up leads
nowhere. A directory stands for the file `index.html` in it if the path ends with a slash, and
otherwise the visitor is sent to the path with a slash.

A request may ask for a part of a file, or for the file only if it was written before or after a
date. A date or a header that cannot be read counts as none.
-/

set_option autoImplicit false

namespace SiteGate.Http

/-- The value of a hexadecimal digit. -/
def hexValue? (c : Char) : Option Nat := Text.digitIn? 16 c

/-- The bytes of a text in which escapes are undone: a percent sign and two hexadecimal digits
stand for a byte. A percent sign without them stands for itself. -/
def unescape : Text → Bytes
  | [] => []
  | '%' :: a :: b :: rest =>
    match hexValue? a, hexValue? b with
    | some x, some y => UInt8.ofNat (x * 16 + y) :: unescape rest
    | _, _ => Text.encode ['%'] ++ unescape (a :: b :: rest)
  | c :: rest => Text.encode [c] ++ unescape rest

/-- The path below a directory that a request's path names. -/
def filePath? (directory : Path) (requested : Text) : Option Path :=
  (Text.decode? (unescape (requested.dropWhile (· = '/')))).bind fun name =>
    if name.head? = some '/' then none
    else
      (Path.components name).foldlM (fun p c =>
        match c with
        | .up => none
        | .here => some p
        | .name n => some (Path.join p n)) directory

/-- The date that a header names, in seconds from the beginning of 1970. -/
def dateIn? (headers : List Header) (name : String) : Option Nat :=
  (headerValue? headers name.toList).bind fun value =>
    if value.all (· < 128) then (Date.ofText? (Text.decode value)).map Date.seconds else none

/-- The answer in place of a file that was written too late or not late enough for a request. The
time of writing is given in seconds from the beginning of 1970. -/
def datedAnswer? (written : Nat) (headers : List Header) : Option Answer :=
  if (dateIn? headers "if-unmodified-since").any (· < written) then some (.bare 412)
  else if (dateIn? headers "if-modified-since").any (written ≤ ·) then some (.bare 304)
  else none

/-- What of a file is given to a request. -/
def selection (headers : List Header) (size : Nat) : Selection :=
  match (headerValue? headers "range".toList).filter (·.all isVisibleByte) with
  | some value => .ofHeader size (Text.decode value)
  | none => .whole

/-- The size of what lies at a place. A directory has the size of one block. -/
def sizeOf : Node → Nat
  | .file content => content.length
  | .directory => 4096

/-- The answer that is some bytes of what lies at a path. A `HEAD` request gets the same answer
without the content; only another one finds out that a directory cannot be read. -/
def bytesAnswer (r : Incoming) (p : Path) (n : Node) (status first count : Nat) : Answer :=
  match n with
  | .file content =>
    let given := if r.method = "HEAD".toList then [] else (content.drop first).take count
    ⟨status, none, some (fileType p), given⟩
  | .directory =>
    if r.method = "HEAD".toList then ⟨status, none, some (fileType p), []⟩ else .bare 500

/-- The answer that is the content of what lies at a path, or what is given of it. -/
def contentAnswer (r : Incoming) (p : Path) (n : Node) : Answer :=
  match selection r.headers (sizeOf n) with
  | .whole => bytesAnswer r p n 200 0 (sizeOf n)
  | .part first last => bytesAnswer r p n 206 first (last + 1 - first)
  | .several =>
    ⟨416, none, some (fileType p), Text.encode "Cannot serve multipart range requests".toList⟩
  | .impossible => ⟨416, none, some (fileType p), []⟩

/-- The status of an answer about a file that cannot be read. A file whose name holds a NUL is
missing, except to a `HEAD` request, to which it is a failure. -/
def unreadableStatus (method : Text) : FileError → Nat
  | .notFound | .notADirectory => 404
  | .zeroInPath => if method = "HEAD".toList then 500 else 404
  | _ => 500

/-- The answer that is the file at a path. The path may lead to a directory, which counts as a file
until it is read. -/
def fileAnswer (written : Path → Nat) (t : Tree) (r : Incoming) (p : Path) : Answer :=
  match t.node p with
  | .ok n => (datedAnswer? (written p) r.headers).getD (contentAnswer r p n)
  | .error e => .bare (unreadableStatus r.method e)

/-- Sends the visitor to the same target with a slash at its end. -/
def slashAnswer (u : Uri) : Answer :=
  match u.withSlash? with
  | some target => .redirect target.toText
  | none => .bare 500

/-- The answer of a directory of files to a request that the guard lets pass. A tree keeps no times,
so the times at which its files were written are given beside it. -/
def serveFile (written : Path → Nat) (t : Tree) (directory : Path) (r : Incoming) : Answer :=
  if r.method = "GET".toList || r.method = "HEAD".toList then
    match filePath? directory r.uri.path with
    | none => .bare 404
    | some p =>
      if (t.node p).toOption = some .directory then
        if r.uri.path.getLast? = some '/' then fileAnswer written t r (Path.join p "index.html".toList)
        else slashAnswer r.uri
      else fileAnswer written t r p
  else .bare 405

end SiteGate.Http
