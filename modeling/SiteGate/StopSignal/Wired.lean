import SiteGate.StopSignal

/-!
# How the stop signal is wired

The signal is a flag and a broadcast channel with room for one message. All handles and listeners
share the flag; besides, a handle has a sender of the channel, and a listener has a receiver. The
first trigger raises the flag and sends a message.

A listener that begins to wait looks at the flag. If the flag is down, the listener waits until its
receiver is given something, whatever that is, and does not look at the flag again.

The channel itself is not part of the program. It is known by its answers after what has been done
to it, and a lawful one answers as a broadcast channel does.
-/

set_option autoImplicit false

namespace SiteGate

/-! ## The channel -/

/-- What can be done to a channel. Receivers are numbered in the order in which they are made. -/
inductive ChannelCall where
  | addSender
  | dropSender
  | subscribe
  | dropReceiver (r : Nat)
  | send
  | poll (r : Nat)
deriving DecidableEq

/-- What a receiver can be given: a message, word that it has missed messages, or word that there is
no sender. -/
inductive Reception where
  | message
  | missed
  | closed
deriving DecidableEq

/-- A broadcast channel. Its answers depend on what has been done to it, the last call first. -/
structure Broadcast where
  /-- What a receiver is given when it is polled, or `none` if it must wait. -/
  poll? : List ChannelCall → Nat → Option Reception
  /-- How many receivers there are. -/
  receiverCount : List ChannelCall → Nat

namespace Broadcast

/-- How many senders there are after some calls. A channel comes with one. -/
def senders : List ChannelCall → Nat
  | [] => 1
  | .addSender :: before => senders before + 1
  | .dropSender :: before => senders before - 1
  | _ :: before => senders before

/-- How many messages a receiver has yet to take when it has been polled. Of several messages only
the last one is kept for it, and the others are missed. -/
def leftAfterPoll (unread : Nat) : Nat := if 1 < unread then 1 else 0

/-- How many messages each receiver has yet to take, or `none` if it has been dropped. A channel
comes with one receiver. -/
def receivers : List ChannelCall → List (Option Nat)
  | [] => [some 0]
  | .subscribe :: before => receivers before ++ [some 0]
  | .dropReceiver r :: before => (receivers before).modify r fun _ => none
  | .send :: before => (receivers before).map (Option.map (· + 1))
  | .poll r :: before => (receivers before).modify r (Option.map leftAfterPoll)
  | _ :: before => receivers before

/-- Calls that can be made one after the other: receivers are polled and dropped while they are
there, and all other calls are made through a sender. -/
def Possible : List ChannelCall → Prop
  | [] => True
  | .dropReceiver r :: before | .poll r :: before =>
    Possible before ∧ ∃ unread, (receivers before)[r]? = some (some unread)
  | _ :: before => Possible before ∧ 0 < senders before

/-- A channel that answers as a broadcast channel with room for one message does. -/
structure Lawful (c : Broadcast) : Prop where
  /-- A message is given to every receiver that has been there since before it was sent, -/
  delivers : ∀ h r, Possible h → (receivers h)[r]? = some (some 1) → c.poll? h r = some .message
  /-- after word of the messages before it that were not taken. -/
  tells : ∀ h r unread, Possible h → (receivers h)[r]? = some (some unread) → 1 < unread →
    c.poll? h r = some .missed
  /-- It is given once only: with no other message the receiver waits while there is a sender, -/
  waits : ∀ h r, Possible h → (receivers h)[r]? = some (some 0) → 0 < senders h →
    c.poll? h r = none
  /-- and is told if there is none. -/
  closes : ∀ h r, Possible h → (receivers h)[r]? = some (some 0) → senders h = 0 →
    c.poll? h r = some .closed
  counts : ∀ h, Possible h → c.receiverCount h = (receivers h).countP Option.isSome

end Broadcast

namespace StopSignal

/-! ## The signal -/

/-- What a listener does: it waits since it was last polled, or it does not, or it is not there. -/
inductive Listener where
  | idle
  | waiting
  | gone
deriving DecidableEq

/-- A signal with its wires: the flag, what has been done to the channel, the last call first, and
for each handle and each listener that was ever made whether it is still there. -/
structure Wired where
  flag : Bool
  calls : List ChannelCall
  handles : List Bool
  listeners : List Listener
deriving DecidableEq

/-- What can be done with a signal, through a handle or with a listener. -/
inductive Step where
  | clone (i : Nat)
  | listen (i : Nat)
  | trigger (i : Nat)
  | dropHandle (i : Nat)
  | dropListener (l : Nat)
  /-- Polls a listener, which begins to wait if it does not wait already. -/
  | poll (l : Nat)
  /-- Lets a listener that waits give up. -/
  | abandon (l : Nat)
deriving DecidableEq

namespace Wired

/-- A new signal with one handle. The receiver that the channel comes with is dropped. -/
def new : Wired := ⟨false, [.dropReceiver 0], [true], []⟩

/-- The receiver of a listener, after the one that the channel comes with. -/
def receiverOf (l : Nat) : Nat := l + 1

/-- Makes another handle. -/
def clone (w : Wired) : Wired :=
  { w with calls := .addSender :: w.calls, handles := w.handles ++ [true] }

/-- Makes a listener. -/
def listen (w : Wired) : Wired :=
  { w with calls := .subscribe :: w.calls, listeners := w.listeners ++ [.idle] }

/-- Raises the flag, and sends a message if it was down. -/
def trigger (w : Wired) : Wired :=
  if w.flag then w else { w with flag := true, calls := .send :: w.calls }

/-- Drops a handle with its sender. -/
def dropHandle (w : Wired) (i : Nat) : Wired :=
  { w with calls := .dropSender :: w.calls, handles := w.handles.set i false }

/-- Drops a listener with its receiver. -/
def dropListener (w : Wired) (l : Nat) : Wired :=
  { w with
    calls := .dropReceiver (receiverOf l) :: w.calls
    listeners := w.listeners.set l .gone }

/-- Lets a listener give up waiting. What the channel has for it stays there. -/
def abandon (w : Wired) (l : Nat) : Wired := { w with listeners := w.listeners.set l .idle }

/-- Polls a listener. Gives whether it has been reached, and the signal after that. -/
def poll (c : Broadcast) (w : Wired) (l : Nat) : Bool × Wired :=
  -- The flag is looked at by a listener that begins to wait, and not by one that waits already.
  if w.flag && w.listeners[l]? != some .waiting then (true, w)
  else
    let reached := (c.poll? w.calls (receiverOf l)).isSome
    (reached, { w with
      calls := .poll (receiverOf l) :: w.calls
      listeners := w.listeners.set l (if reached then .idle else .waiting) })

/-- Whether the signal has been triggered. -/
def isTriggered (w : Wired) : Bool := w.flag

/-- How many listeners there are. -/
def listenerCount (c : Broadcast) (w : Wired) : Nat := c.receiverCount w.calls

/-- Whether a handle is there. -/
def hasHandle (w : Wired) (i : Nat) : Bool := w.handles[i]? == some true

/-- Whether a listener is there. -/
def hasListener (w : Wired) (l : Nat) : Bool := w.listeners[l]?.getD .gone != .gone

/-- Whether a step can be taken: what it is taken with has to be there. -/
def allows (w : Wired) : Step → Bool
  | .clone i | .listen i | .trigger i | .dropHandle i => w.hasHandle i
  | .dropListener l | .poll l => w.hasListener l
  | .abandon l => w.listeners[l]? == some .waiting

/-- Takes a step. -/
def act (c : Broadcast) (w : Wired) : Step → Wired
  | .clone _ => w.clone
  | .listen _ => w.listen
  | .trigger _ => w.trigger
  | .dropHandle i => w.dropHandle i
  | .dropListener l => w.dropListener l
  | .poll l => (w.poll c l).2
  | .abandon l => w.abandon l

/-- Takes a step if it can be taken. -/
def step? (c : Broadcast) (w : Wired) (a : Step) : Option Wired :=
  if w.allows a then some (w.act c a) else none

/-- Takes steps one after the other. -/
def run? (c : Broadcast) (w : Wired) (steps : List Step) : Option Wired :=
  steps.foldlM (step? c) w

end Wired

end StopSignal

end SiteGate
