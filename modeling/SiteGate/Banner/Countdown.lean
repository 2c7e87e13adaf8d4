import SiteGate.Config.Snapshot

/-!
# The countdown of a banner

A banner that is on for a number of seconds is counted down, a tick a second. Each tick is told
whether the banner is still on: if it is not, somebody has switched it off and the countdown is
over. The tick that brings the count to zero says that the banner has to be switched off; once that
is done, the countdown is over as well.
-/

set_option autoImplicit false

namespace SiteGate.Banner

open Config (MessageBanner)

/-- Where a countdown stands. -/
inductive Phase where
  /-- There is nothing to count. -/
  | idle
  | active
  /-- The banner has to be switched off. -/
  | expiring
  | off
deriving DecidableEq

/-- What a tick does. -/
inductive Tick where
  | idle
  | running (remaining : Nat)
  | expired
  | cancelled
deriving DecidableEq

/-- A countdown. -/
structure Countdown where
  phase : Phase
  remaining : Nat
deriving DecidableEq

namespace Countdown

/-- The countdown of a banner. -/
def ofBanner (b : MessageBanner) : Countdown :=
  if b.isTimed then ⟨.active, b.secondsToDisplay⟩ else ⟨.idle, 0⟩

/-- One tick. -/
def tick (c : Countdown) (stillOn : Bool) : Tick × Countdown :=
  match c.phase with
  | .idle => (.idle, c)
  | .expiring | .off => (.cancelled, c)
  | .active =>
    if !stillOn then (.cancelled, { c with phase := .off })
    else
      match c.remaining - 1 with
      | 0 => (.expired, ⟨.expiring, 0⟩)
      | r + 1 => (.running (r + 1), ⟨.active, r + 1⟩)

/-- The countdown after the banner has been switched off. -/
def finish (c : Countdown) : Countdown := { c with phase := .off }

/-- The count never grows. -/
theorem remaining_tick_le (c : Countdown) (stillOn : Bool) :
    (c.tick stillOn).2.remaining ≤ c.remaining := by
  unfold tick
  split
  · exact Nat.le_refl _
  · exact Nat.le_refl _
  · exact Nat.le_refl _
  · split
    · exact Nat.le_refl _
    · split <;> simp only <;> omega

end Countdown

end SiteGate.Banner
