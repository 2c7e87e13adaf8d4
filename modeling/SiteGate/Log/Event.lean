import SiteGate.Text.Basic

/-!
# Log events

What a program tells about its work: a level, the part of the program that speaks, a message, and
named values. A finer level tells more; the levels are ranked so that a limit lets through every
event whose rank is at most the limit.
-/

set_option autoImplicit false

namespace SiteGate.Log

/-- How much an event matters. -/
inductive Level where
  | error
  | warning
  | information
  | debugging
  | tracing
deriving DecidableEq

namespace Level

/-- The rank of a level, from one for the events that matter most. -/
def rank : Level → Nat
  | .error => 1
  | .warning => 2
  | .information => 3
  | .debugging => 4
  | .tracing => 5

/-- The levels from the one that matters most. -/
def all : List Level := [.error, .warning, .information, .debugging, .tracing]

/-- The word for a level. -/
def name : Level → String
  | .error => "ERROR"
  | .warning => "WARN"
  | .information => "INFO"
  | .debugging => "DEBUG"
  | .tracing => "TRACE"

end Level

/-- The value of a field. -/
inductive Value where
  | text (t : Text)
  | natural (n : Nat)
  | flag (b : Bool)
deriving DecidableEq

/-- An event. -/
structure Event where
  level : Level
  target : String
  message : String
  fields : List (String × Value)
deriving DecidableEq

/-- The names of all that an event tells; its message is told as a field too. -/
def Event.fieldNames (e : Event) : List Text :=
  ("message" :: e.fields.map Prod.fst).map String.toList

end SiteGate.Log
