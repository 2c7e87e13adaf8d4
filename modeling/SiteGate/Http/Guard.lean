import SiteGate.Gate.Validation
import SiteGate.Http.Uri

/-!
# The guard in front of the site

Every request meets the guard first. It refuses peers whose address is blocked, answers every
request while the site is under maintenance, and asks the gate about the rest. The gate is told the
host of the header of that name, if that is readable, and otherwise the host of the target.
-/

set_option autoImplicit false

namespace SiteGate.Http

open Config (Snapshot)

/-- A request as it arrives. -/
structure Incoming where
  method : Text
  uri : Uri
  headers : List Header
  peer : Net.SocketAddress
deriving DecidableEq

/-- An answer: its status, where it sends the visitor, and its content with its type. -/
structure Answer where
  status : Nat
  location : Option Text
  contentType : Option Text
  body : Bytes
deriving DecidableEq

namespace Answer

/-- An answer that is only a status. -/
def bare (status : Nat) : Answer := ⟨status, none, none, []⟩

/-- The type of plain text. -/
def plainText : Text := "text/plain; charset=utf-8".toList

/-- An answer with a text. -/
def text (status : Nat) (body : String) : Answer :=
  ⟨status, none, some plainText, Text.encode body.toList⟩

/-- A redirect. A location with control characters cannot be sent. -/
def redirect (location : Text) : Answer :=
  if (Text.encode location).all isValueByte then ⟨Gate.redirectStatus, some location, none, []⟩
  else .text 500 "failed to parse header value"

/-- Whether a status tells of success. -/
def isSuccess (a : Answer) : Bool := 200 ≤ a.status && a.status < 300

/-- The answer as it is sent: an answer about a file carries none of it, and neither does a
tunnel. -/
def sentFor (method : Text) (a : Answer) : Answer :=
  if method = "HEAD".toList || (method = "CONNECT".toList && a.isSuccess) then { a with body := [] }
  else a

end Answer

/-- Whether a text can be a method. -/
def isMethod (t : Text) : Bool := !t.isEmpty && t.all isTokenChar

/-- The host that a request names: the first header of that name counts if it is readable. -/
def Incoming.host (r : Incoming) : Text :=
  match (headerValue? r.headers "host".toList).filter (·.all isVisibleByte) with
  | some value => Text.decode value
  | none => r.uri.host?.getD []

/-- What the gate sees of a request. -/
def Incoming.view (r : Incoming) : Gate.Request where
  method := r.method
  host := r.host
  path := r.uri.path
  query := r.uri.query.getD []
  peer := r.peer.toText
  headers := r.headers

/-- What the guard does with a request. -/
inductive Guarded where
  | blocked
  | maintenance
  /-- The gate has been asked. -/
  | asked (v : Gate.Verdict)
deriving DecidableEq

/-- The guard's decision. -/
def guard (s : Snapshot) (r : Incoming) : Guarded :=
  if s.isBlocked r.peer.address.toText then .blocked
  else if s.maintenance then .maintenance
  else .asked (Gate.verdict s r.view)

/-- Whether a number can be the status of an answer. -/
def isStatus (n : Nat) : Bool := 100 ≤ n && n ≤ 999

/-- The answer of the guard, unless the request passes. A refusal whose status cannot be sent is
answered with 404. -/
def Guarded.answer? : Guarded → Option Answer
  | .blocked => some (.bare 403)
  | .maintenance => some (.text 503 "Down for maintenance")
  | .asked .allowed => none
  | .asked (.denied status) => some (.bare (if isStatus status then status else 404))
  | .asked (.redirected location) => some (.redirect location)

end SiteGate.Http
