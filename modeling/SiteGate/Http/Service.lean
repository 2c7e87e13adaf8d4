import SiteGate.Engine
import SiteGate.Http.StaticFiles

/-!
# Answering requests

The guard of a running site with something behind it that answers the requests that pass. The site
itself has the files of its public directory there, and marks every answer with the number that the
request came with, or with a new one. It leaves it to the connection to drop the content of an
answer that must not have any, unless the target of the request has no path.
-/

set_option autoImplicit false

namespace SiteGate

namespace Engine

open Http

/-- The answer to a request, of the guard or else of `behind`, and the site after it. The gate's
verdicts are counted. -/
def answer (e : Engine) (r : Incoming) (behind : Answer) : Answer × Engine :=
  let decision := guard e.store.snapshot r
  let e :=
    match decision with
    | .asked v => { e with metrics := e.metrics.recordVerdict v }
    | _ => e
  (decision.answer?.getD behind, e)

/-- The directory of the site's own files as it is opened: a path that does not begin with a slash
begins at the working directory. -/
def publicFiles (e : Engine) : Path :=
  let directory := e.store.layout.publicDirectory
  if directory.head? = some '/' then directory else Path.join ['.'] directory

/-- The answer of a site with a file service behind the guard, which is given the files, the public
directory and the request. -/
def serveBy (service : Tree → Path → Incoming → Answer) (e : Engine) (r : Incoming) :
    Answer × Engine :=
  let (a, e) := e.answer r (service e.files e.publicFiles r)
  (if r.uri.isRooted then a else a.sentFor r.method, e)

/-- The day on which the files of a site count as written where nobody tells the times. -/
def dayOfFiles : Nat := Date.seconds ⟨2026, 9, 1, 0, 0, 0⟩

/-- The answer of a site whose files were all written on that day. -/
def serve (e : Engine) (r : Incoming) : Answer × Engine :=
  e.serveBy (serveFile fun _ => dayOfFiles) r

end Engine

/-- The number that a request came with. -/
def Http.Incoming.requestId? (r : Http.Incoming) : Option Bytes :=
  Http.headerValue? r.headers "x-request-id".toList

end SiteGate
