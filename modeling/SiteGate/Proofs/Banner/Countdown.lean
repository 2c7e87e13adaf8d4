import SiteGate.Banner.Countdown

/-!
# Countdowns are on time

Whoever drives a countdown ticks it and finishes it, in any order. A banner that is not timed is
never counted, and a timed one is counted to its last second and no further: each tick says what is
left, then one says that the time is up, and whatever is done after that, no other one says so
(`expires_once_on_time`).

All of it follows from what one call keeps. There is nothing to count once the time is up, a tick
has found the banner off or the countdown has been finished, and then every tick says that it has
been cancelled (`IsOver.tick`, `IsOver.after`); until then there is something left (`Runs.after`).
-/

set_option autoImplicit false

namespace SiteGate.Banner

open Config (MessageBanner)

/-- What is done with a countdown. -/
inductive Call where
  | tick (stillOn : Bool)
  | finish
deriving DecidableEq

namespace Countdown

/-- The countdown after one call. -/
def after (c : Countdown) : Call → Countdown
  | .tick stillOn => (c.tick stillOn).2
  | .finish => c.finish

/-- The countdown after some calls. -/
def run (c : Countdown) (calls : List Call) : Countdown := calls.foldl after c

/-- What the ticks among some calls say, in order. -/
def said (c : Countdown) : List Call → List Tick
  | [] => []
  | .tick stillOn :: rest => (c.tick stillOn).1 :: said (c.tick stillOn).2 rest
  | .finish :: rest => said c.finish rest

/-- A number of ticks that all find the banner on. -/
def ticksOn (i : Nat) : List Call := List.replicate i (.tick true)

variable {c : Countdown} {stillOn : Bool}

/-- Calls may be made in two parts. -/
theorem run_append (c : Countdown) (calls more : List Call) :
    c.run (calls ++ more) = (c.run calls).run more := List.foldl_append

/-- What each call keeps is kept by all of them. -/
theorem run_induction {P : Countdown → Prop} (calls : List Call) (hc : P c)
    (hcall : ∀ (c : Countdown) (x : Call), P c → P (c.after x)) : P (c.run calls) :=
  List.foldlRecOn calls after hc fun c hc x _ => hcall c x hc

/-! ## Nothing to count -/

/-- Nothing has been counted from the beginning. -/
def IsIdle (c : Countdown) : Prop := c.phase = .idle ∨ c.phase = .off

/-- A tick of a countdown that has counted nothing says that it is idle or cancelled, and leaves
it. -/
theorem IsIdle.tick (h : c.IsIdle) (stillOn : Bool) :
    c.tick stillOn = (.idle, c) ∨ c.tick stillOn = (.cancelled, c) := by
  rcases h with h | h
  · exact .inl (by rw [Countdown.tick, h])
  · exact .inr (by rw [Countdown.tick, h])

/-- A countdown that has counted nothing counts nothing after a call. -/
theorem IsIdle.after (h : c.IsIdle) (x : Call) : (c.after x).IsIdle := by
  cases x with
  | tick stillOn =>
    have hsame : (c.tick stillOn).2 = c := by
      rcases h.tick stillOn with htick | htick <;> rw [htick]
    rwa [Countdown.after, hsame]
  | finish => exact .inr rfl

/-- There is nothing to count any more. -/
def IsOver (c : Countdown) : Prop := c.phase = .expiring ∨ c.phase = .off

/-- A tick of a countdown that is over says that it is cancelled, and leaves it. -/
theorem IsOver.tick (h : c.IsOver) (stillOn : Bool) : c.tick stillOn = (.cancelled, c) := by
  rcases h with h | h <;> rw [Countdown.tick, h]

/-- A countdown that is over stays so. -/
theorem IsOver.after (h : c.IsOver) (x : Call) : (c.after x).IsOver := by
  cases x with
  | tick stillOn =>
    rw [Countdown.after, h.tick]
    exact h
  | finish => exact .inr rfl

/-- A countdown is over as soon as a tick has said that the time is up, or that it has been
cancelled. -/
theorem isOver_of_tick
    (h : (c.tick stillOn).1 = .expired ∨ (c.tick stillOn).1 = .cancelled) :
    (c.tick stillOn).2.IsOver := by
  obtain ⟨phase, remaining⟩ := c
  cases phase with
  | idle => simp [Countdown.tick] at h
  | expiring => exact .inl rfl
  | off => exact .inr rfl
  | active =>
    cases stillOn with
    | false => exact .inr rfl
    | true =>
      match remaining with
      | 0 | 1 => exact .inl rfl
      | r + 2 => simp [Countdown.tick] at h

/-- A countdown that is over never says that the time is up. -/
theorem IsOver.not_expired (h : c.IsOver) (calls : List Call) : .expired ∉ c.said calls := by
  induction calls generalizing c with
  | nil => simp [said]
  | cons x rest ih =>
    have hrest := ih (h.after x)
    cases x with
    | tick stillOn =>
      rw [said, h.tick stillOn]
      rw [Countdown.after, h.tick stillOn] at hrest
      simpa using hrest
    | finish => exact hrest

/-- No countdown says twice that the time is up. -/
theorem count_expired_le (c : Countdown) (calls : List Call) :
    (c.said calls).count .expired ≤ 1 := by
  induction calls generalizing c with
  | nil => simp [said]
  | cons x rest ih =>
    cases x with
    | finish => exact ih c.finish
    | tick stillOn =>
      rw [said]
      by_cases hup : (c.tick stillOn).1 = .expired
      · have hrest := List.count_eq_zero_of_not_mem ((isOver_of_tick (.inl hup)).not_expired rest)
        rw [hup, List.count_cons_self]
        omega
      · rw [List.count_cons_of_ne hup]
        exact ih (c.tick stillOn).2

/-- A countdown that has been finished stays off. -/
theorem off_after (h : c.phase = .off) (x : Call) : (c.after x).phase = .off := by
  cases x with
  | tick stillOn =>
    rw [after, IsOver.tick (.inr h)]
    exact h
  | finish => rfl

/-! ## What is left -/

/-- What is left does not grow by a call. -/
theorem remaining_after_le (c : Countdown) (x : Call) : (c.after x).remaining ≤ c.remaining := by
  cases x with
  | tick stillOn => exact c.remaining_tick_le stillOn
  | finish => exact Nat.le_refl _

/-- What is still counted has something left. -/
def Runs (c : Countdown) : Prop := c.phase = .active → 0 < c.remaining

/-- After a call, what is still counted has something left. -/
theorem Runs.after (h : c.Runs) (x : Call) : (c.after x).Runs := by
  cases x with
  | finish => exact fun hactive => nomatch hactive
  | tick stillOn =>
    obtain ⟨phase, remaining⟩ := c
    cases phase with
    | idle | expiring | off => exact fun hactive => nomatch hactive
    | active =>
      cases stillOn with
      | false => exact fun hactive => nomatch hactive
      | true =>
        match remaining with
        | 0 | 1 => exact fun hactive => nomatch hactive
        | r + 2 => exact fun _ => Nat.succ_pos r

/-- The countdown of a timed banner has all its seconds left. -/
theorem ofBanner_of_timed {b : MessageBanner} (h : b.isTimed = true) :
    ofBanner b = ⟨.active, b.secondsToDisplay⟩ := if_pos h

/-- The countdown of any other banner is idle. -/
theorem ofBanner_of_not_timed {b : MessageBanner} (h : b.isTimed = false) :
    ofBanner b = ⟨.idle, 0⟩ := by
  simp [ofBanner, h]

/-- A countdown that begins has something left if it counts. -/
theorem runs_ofBanner (b : MessageBanner) : (ofBanner b).Runs := by
  cases htimed : b.isTimed with
  | false =>
    rw [ofBanner_of_not_timed htimed]
    exact fun hactive => nomatch hactive
  | true =>
    rw [ofBanner_of_timed htimed]
    intro _
    simp only [MessageBanner.isTimed, Bool.and_eq_true, decide_eq_true_eq] at htimed
    exact htimed.2

/-! ## Counting down -/

/-- A tick takes a second away if more than that is left. -/
theorem tick_of_one_lt {r : Nat} (h : 1 < r) :
    tick ⟨.active, r⟩ true = (.running (r - 1), ⟨.active, r - 1⟩) := by
  obtain ⟨k, rfl⟩ := Nat.exists_eq_add_of_lt h
  have hleft : 1 + k + 1 - 1 = k + 1 := by omega
  rw [hleft, tick]
  simp only [hleft]
  rfl

/-- Ticks take a second away each, as long as fewer come than there are seconds. -/
theorem run_ticksOn {n i : Nat} (h : i < n) :
    run ⟨.active, n⟩ (ticksOn i) = ⟨.active, n - i⟩ := by
  induction i with
  | zero => rfl
  | succ i ih =>
    have hlast : ticksOn (i + 1) = ticksOn i ++ [.tick true] := List.replicate_succ'
    rw [hlast, run_append, ih (by omega)]
    show (tick ⟨.active, n - i⟩ true).2 = _
    rw [tick_of_one_lt (by omega), Nat.sub_sub]

/-- A countdown of a timed banner says at each tick how many seconds are left, and at the last one
that the time is up, as long as the banner is on; a tick before that which finds it off ends it. One
of another banner never counts. In every run the time is up once at most, and nothing is counted
after that or after a tick has cancelled the countdown or it has been finished; what is left never
grows, and is positive as long as it is counted. -/
theorem expires_once_on_time (b : MessageBanner) :
    let c := ofBanner b
    let n := b.secondsToDisplay
    (b.isTimed = false → ∀ calls stillOn,
      (c.run calls).tick stillOn = (.idle, c.run calls) ∨
        (c.run calls).tick stillOn = (.cancelled, c.run calls)) ∧
    (b.on = true → 0 < n →
      (∀ i, 0 < i → i < n →
        (c.run (ticksOn (i - 1))).tick true = (.running (n - i), ⟨.active, n - i⟩)) ∧
      (c.run (ticksOn (n - 1))).tick true = (.expired, ⟨.expiring, 0⟩) ∧
      ∀ i, 0 < i → i ≤ n →
        (c.run (ticksOn (i - 1))).tick false = (.cancelled, ⟨.off, n - (i - 1)⟩)) ∧
    ∀ calls,
      (∀ stillOn, ((c.run calls).tick stillOn).1 = .expired ∨
          ((c.run calls).tick stillOn).1 = .cancelled →
        ∀ more again,
          ((c.run (calls ++ .tick stillOn :: more)).tick again).1 = .cancelled) ∧
      (c.said calls).count .expired ≤ 1 ∧
      (∀ more, (c.run (calls ++ more)).remaining ≤ (c.run calls).remaining) ∧
      ((c.run calls).phase = .active → 0 < (c.run calls).remaining) ∧
      ∀ more, (c.run (calls ++ .finish :: more)).phase = .off ∧
        ∀ stillOn, ((c.run (calls ++ .finish :: more)).tick stillOn).1 = .cancelled := by
  intro c n
  refine ⟨fun htimed calls stillOn => ?_, fun hon hpos => ?_, fun calls => ⟨?_, ?_, ?_, ?_, ?_⟩⟩
  · have hidle : c.IsIdle := .inl (by rw [show c = ⟨.idle, 0⟩ from ofBanner_of_not_timed htimed])
    exact (run_induction (P := IsIdle) calls hidle fun _ x h => h.after x).tick stillOn
  · have htimed : b.isTimed = true := by simp [MessageBanner.isTimed, hon, n, hpos]
    rw [show c = ⟨.active, n⟩ from ofBanner_of_timed htimed]
    refine ⟨fun i hi hlt => ?_, ?_, fun i hi hle => ?_⟩
    · rw [run_ticksOn (by omega), tick_of_one_lt (by omega)]
      have hleft : n - (i - 1) - 1 = n - i := by omega
      rw [hleft]
    · have hleft : n - (n - 1) = 1 := by omega
      rw [run_ticksOn (by omega), hleft]
      rfl
    · rw [run_ticksOn (by omega)]
      rfl
  · intro stillOn hover more again
    rw [run_append]
    exact congrArg Prod.fst ((run_induction (P := IsOver) more (isOver_of_tick hover) fun _ x h =>
      h.after x).tick again)
  · exact count_expired_le c calls
  · intro more
    rw [run_append]
    exact run_induction (P := fun d => d.remaining ≤ (c.run calls).remaining) more (Nat.le_refl _)
      fun d x h => Nat.le_trans (d.remaining_after_le x) h
  · exact run_induction (P := Runs) calls (runs_ofBanner b) fun _ x h => h.after x
  · intro more
    have hoff : (c.run (calls ++ .finish :: more)).phase = .off := by
      rw [run_append]
      exact run_induction (P := fun d => d.phase = .off) more rfl fun _ x h => off_after h x
    exact ⟨hoff, fun stillOn => congrArg Prod.fst (IsOver.tick (.inr hoff) stillOn)⟩

/-- A banner of three seconds that somebody switches off before the last of them. -/
example : (ofBanner ⟨true, 3, 0⟩).said [.tick true, .tick true, .tick false, .tick true] =
    [.running 2, .running 1, .cancelled, .cancelled] := by
  decide

end Countdown

end SiteGate.Banner
