/-!
# The stop signal

A signal that tells background tasks to end. It has handles, through which it is triggered, and
listeners, which wait for it; both come and go. Once triggered it stays so. A listener is ready when
the signal has been triggered, whether before or after it began to listen, and also when there is no
handle left through which it could be.
-/

set_option autoImplicit false

namespace SiteGate

/-- A stop signal: whether it has been triggered, and for each handle and each listener that was
ever made whether it is still there. -/
structure StopSignal where
  triggered : Bool
  handles : List Bool
  listeners : List Bool
deriving DecidableEq

namespace StopSignal

/-- A new signal, with one handle. -/
def new : StopSignal := ⟨false, [true], []⟩

/-- Makes another handle; its number is the count of handles made before. -/
def clone (s : StopSignal) : StopSignal := { s with handles := s.handles ++ [true] }

/-- Makes a listener; its number is the count of listeners made before. -/
def listen (s : StopSignal) : StopSignal := { s with listeners := s.listeners ++ [true] }

/-- Triggers the signal. -/
def trigger (s : StopSignal) : StopSignal := { s with triggered := true }

/-- Drops a handle. -/
def dropHandle (s : StopSignal) (i : Nat) : StopSignal :=
  { s with handles := s.handles.set i false }

/-- Drops a listener. -/
def dropListener (s : StopSignal) (i : Nat) : StopSignal :=
  { s with listeners := s.listeners.set i false }

/-- Whether there is a handle. -/
def hasHandle (s : StopSignal) : Bool := s.handles.any id

/-- Whether a listener need not wait. -/
def isReady (s : StopSignal) : Bool := s.triggered || !s.hasHandle

/-- How many listeners there are. -/
def listenerCount (s : StopSignal) : Nat := s.listeners.count true

/-- A triggered signal is ready, and stays so whatever comes and goes. -/
theorem isReady_of_triggered {s : StopSignal} (h : s.triggered) : s.isReady := by
  simp [isReady, h]

/-- While there is a handle, a listener is ready just if the signal has been triggered. -/
theorem isReady_of_hasHandle {s : StopSignal} (h : s.hasHandle) : s.isReady = s.triggered := by
  simp [isReady, h]

end StopSignal

end SiteGate
