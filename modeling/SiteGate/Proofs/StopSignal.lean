import Mathlib.Data.List.Forall2
import Mathlib.Data.List.Induction
import SiteGate.StopSignal.Wired

/-!
# The stop signal reaches every listener

As its users see it, a signal is triggered or not, and has handles and listeners (`StopSignal`). The
wires keep up with this (`view_act`), and a listener that is polled is reached just when the signal
is ready (`Sound.poll_fst`): when it has been triggered, or nobody is left to trigger it. What that
means for a whole run is said without the signal, by the steps alone (`reaches_every_listener`).

There are three ways for a listener to be reached, and `Sound` says why one of them is always open.
While the flag is down, no receiver has a message to take. Once it is up, a listener that begins to
wait sees it. A listener that has waited since before has had its receiver since before too, so the
message has been sent to it, and it has not taken the message, or it would not wait any longer.

All this is said of any lawful channel. One that keeps its last message in a slot is lawful
(`lawful_oneSlot`).
-/

set_option autoImplicit false

namespace SiteGate

/-! ## Two lists in step -/

section

variable {α β : Type} {R : α → β → Prop} {xs : List α} {ys : List β}

/-- Where two lists go together, an element of the first has one of the second at its place. -/
theorem exists_getElem?_of_forall₂ (h : List.Forall₂ R xs ys) {i : Nat} {x : α}
    (hx : xs[i]? = some x) : ∃ y, ys[i]? = some y ∧ R x y := by
  induction h generalizing i with
  | nil => cases hx
  | @cons a b _ _ hab _ ih =>
    cases i with
    | zero =>
      obtain rfl : a = x := Option.some.inj hx
      exact ⟨b, rfl, hab⟩
    | succ i => exact ih hx

/-- Both lists may be changed at one place. -/
theorem forall₂_modify (h : List.Forall₂ R xs ys) {i : Nat} {f : α → α} {g : β → β}
    (hat : ∀ a b, xs[i]? = some a → R a b → R (f a) (g b)) :
    List.Forall₂ R (xs.modify i f) (ys.modify i g) := by
  induction h generalizing i with
  | nil => simp
  | cons hab htail ih =>
    cases i with
    | zero => exact .cons (hat _ _ rfl hab) htail
    | succ i =>
      rw [List.modify_succ_cons, List.modify_succ_cons]
      exact .cons hab (ih hat)

/-- Where two lists go together, as many elements of both have properties that go together. -/
theorem countP_eq_of_forall₂ (h : List.Forall₂ R xs ys) {p : α → Bool} {q : β → Bool}
    (hpq : ∀ a b, R a b → p a = q b) : xs.countP p = ys.countP q := by
  induction h with
  | nil => rfl
  | cons hab _ ih => rw [List.countP_cons, List.countP_cons, ih, hpq _ _ hab]

/-- Putting what is there in its place changes nothing. -/
theorem set_of_getElem? {i : Nat} {x : α} (h : xs[i]? = some x) : xs.set i x = xs := by
  obtain ⟨hlt, rfl⟩ := List.getElem?_eq_some_iff.mp h
  exact List.set_getElem_self hlt

end

/-- One that is there goes, and one fewer is there. -/
theorem count_set_false {xs : List Bool} {i : Nat} (h : xs[i]? = some true) :
    (xs.set i false).count true + 1 = xs.count true := by
  obtain ⟨hlt, hget⟩ := List.getElem?_eq_some_iff.mp h
  have hpos : 0 < xs.count true := List.count_pos_iff.mpr (hget ▸ List.getElem_mem hlt)
  rw [List.count_set hlt, hget]
  simp
  omega

namespace StopSignal

/-! ## What users see -/

/-- What a step does to a signal. -/
def act (s : StopSignal) : Step → StopSignal
  | .clone _ => s.clone
  | .listen _ => s.listen
  | .trigger _ => s.trigger
  | .dropHandle i => s.dropHandle i
  | .dropListener l => s.dropListener l
  | .poll _ | .abandon _ => s

/-- A signal has a handle if one of them has not been dropped. -/
theorem hasHandle_iff {s : StopSignal} : s.hasHandle = true ↔ 0 < s.handles.count true := by
  simp [hasHandle, List.count_pos_iff]

/-- A signal has been triggered after some steps if it was before them or if one of them has done
so. -/
theorem triggered_foldl_act (s : StopSignal) (steps : List Step) :
    (steps.foldl act s).triggered = true ↔
      s.triggered = true ∨ ∃ i, Step.trigger i ∈ steps := by
  induction steps generalizing s with
  | nil => simp
  | cons a steps ih =>
    rw [List.foldl_cons, ih]
    cases a <;> simp [act, clone, listen, trigger, dropHandle, dropListener]

namespace Wired

variable {c : Broadcast} {w w' : Wired} {a : Step} {l : Nat} {x : Listener}

/-- A signal without its wires. -/
def view (w : Wired) : StopSignal := ⟨w.flag, w.handles, w.listeners.map (· != .gone)⟩

/-- A handle that is there has not been dropped. -/
theorem getElem?_of_hasHandle {i : Nat} (h : w.hasHandle i = true) :
    w.handles[i]? = some true := by
  simpa [hasHandle] using h

/-- A listener that is there is not gone. -/
theorem getElem?_of_hasListener (h : w.hasListener l = true) :
    ∃ x, w.listeners[l]? = some x ∧ x ≠ .gone := by
  unfold hasListener at h
  cases hx : w.listeners[l]? with
  | none => simp [hx] at h
  | some x => exact ⟨x, rfl, by simpa [hx] using h⟩

/-- A listener that is there and stays there is seen as before. -/
theorem map_set_present (hx : w.listeners[l]? = some x) (hpresent : x ≠ .gone) {y : Listener}
    (hy : y ≠ .gone) : (w.listeners.set l y).map (· != .gone) = w.listeners.map (· != .gone) := by
  rw [List.map_set]
  apply set_of_getElem?
  rw [List.getElem?_map, hx, Option.map_some, bne_iff_ne.mpr hpresent, bne_iff_ne.mpr hy]

/-- The wires keep up with what users see. -/
theorem view_act (h : w.allows a = true) : (w.act c a).view = w.view.act a := by
  cases a with
  | clone i => rfl
  | listen i => simp [view, Wired.act, Wired.listen, StopSignal.act, StopSignal.listen]
  | trigger i =>
    cases hflag : w.flag <;>
      simp [view, Wired.act, Wired.trigger, StopSignal.act, StopSignal.trigger, hflag]
  | dropHandle i => rfl
  | dropListener l =>
    simp [view, Wired.act, Wired.dropListener, StopSignal.act, StopSignal.dropListener,
      List.map_set]
  | poll l =>
    obtain ⟨x, hx, hpresent⟩ := getElem?_of_hasListener h
    simp only [Wired.act, poll, StopSignal.act]
    split
    · rfl
    · have hstays : (w.listeners.set l (if (c.poll? w.calls (receiverOf l)).isSome then .idle
          else .waiting)).map (· != .gone) = w.listeners.map (· != .gone) :=
        map_set_present hx hpresent (by split <;> decide)
      simp only [view, hstays]
  | abandon l =>
    have hx : w.listeners[l]? = some .waiting := by simpa [allows] using h
    have hstays : (w.listeners.set l .idle).map (· != .gone) = w.listeners.map (· != .gone) :=
      map_set_present hx (by decide) (by decide)
    simp only [view, Wired.act, abandon, hstays, StopSignal.act]

/-! ## What the wires carry -/

/-- What a receiver has to take, by what its listener does: nothing before the flag is up, and after
that the message, unless the listener has stopped waiting. -/
def Owed (flag : Bool) : Listener → Option Nat → Prop
  | .idle, unread => ∃ n, unread = some n ∧ (flag = false → n = 0)
  | .waiting, unread => unread = some (if flag then 1 else 0)
  | .gone, unread => unread = none

/-- A receiver is there just if its listener is. -/
theorem Owed.isSome_eq {flag : Bool} {unread : Option Nat} (h : Owed flag x unread) :
    unread.isSome = (x != .gone) := by
  cases x with
  | idle =>
    obtain ⟨n, rfl, -⟩ := h
    rfl
  | waiting =>
    rw [show unread = some _ from h]
    rfl
  | gone =>
    rw [show unread = none from h]
    rfl

/-- A listener that is there has a receiver, with a number of messages to take. -/
theorem Owed.exists_unread {flag : Bool} {unread : Option Nat} (h : Owed flag x unread)
    (hpresent : x ≠ .gone) : ∃ n, unread = some n := by
  rw [← Option.isSome_iff_exists, h.isSome_eq, bne_iff_ne]
  exact hpresent

/-- A receiver that is polled has the message to take just if the flag is up. -/
theorem Owed.eq_of_asks {flag : Bool} {unread : Option Nat} (h : Owed flag x unread)
    (hpresent : x ≠ .gone) (hasks : flag = false ∨ x = .waiting) :
    unread = some (if flag then 1 else 0) := by
  cases x with
  | idle =>
    obtain ⟨n, rfl, hzero⟩ := h
    have hdown : flag = false := by simpa using hasks
    simp [hdown, hzero hdown]
  | waiting => exact h
  | gone => exact absurd rfl hpresent

/-- The message comes to those that are there, and those that wait have not taken one before. -/
theorem Owed.send {unread : Option Nat} (h : Owed false x unread) :
    Owed true x (unread.map (· + 1)) := by
  cases x with
  | idle =>
    obtain ⟨n, rfl, -⟩ := h
    exact ⟨n + 1, rfl, by simp⟩
  | waiting =>
    rw [show unread = some 0 from h]
    rfl
  | gone =>
    rw [show unread = none from h]
    rfl

/-- Each handle has its sender and each listener its receiver, which has to take what it should. -/
structure Sound (w : Wired) : Prop where
  possible : Broadcast.Possible w.calls
  senders : Broadcast.senders w.calls = w.handles.count true
  receivers : ∃ unread, Broadcast.receivers w.calls = none :: unread ∧
    List.Forall₂ (Owed w.flag) w.listeners unread

/-- A signal is sound when it is made. -/
theorem sound_new : Sound new :=
  ⟨⟨trivial, 0, rfl⟩, rfl, [], rfl, .nil⟩

/-- A listener of a sound signal has a receiver with what it is owed. -/
theorem Sound.owed (h : Sound w) (hx : w.listeners[l]? = some x) :
    ∃ unread, (Broadcast.receivers w.calls)[receiverOf l]? = some unread ∧
      Owed w.flag x unread := by
  obtain ⟨unread, heq, hstep⟩ := h.receivers
  obtain ⟨n, hn, howed⟩ := exists_getElem?_of_forall₂ hstep hx
  exact ⟨n, by rw [heq]; exact hn, howed⟩

/-- A sound signal with a handle has a sender. -/
theorem Sound.senders_pos (h : Sound w) {i : Nat} (hi : w.hasHandle i = true) :
    0 < Broadcast.senders w.calls := by
  rw [h.senders, List.count_pos_iff]
  exact List.mem_of_getElem? (getElem?_of_hasHandle hi)

/-- A receiver that is polled is given something just if the signal is ready. -/
theorem Sound.isSome_poll? (hc : c.Lawful) (h : Sound w) (hx : w.listeners[l]? = some x)
    (hpresent : x ≠ .gone) (hasks : w.flag = false ∨ x = .waiting) :
    (c.poll? w.calls (receiverOf l)).isSome = w.view.isReady := by
  obtain ⟨unread, hunread, howed⟩ := h.owed hx
  rw [howed.eq_of_asks hpresent hasks] at hunread
  cases hflag : w.flag with
  | true =>
    rw [hflag] at hunread
    rw [hc.delivers _ _ h.possible hunread]
    simp [isReady, view, hflag]
  | false =>
    rw [hflag] at hunread
    have hview : w.view.isReady = !w.view.hasHandle := by simp [isReady, view, hflag]
    have hhandles : w.view.hasHandle = true ↔ 0 < Broadcast.senders w.calls := by
      rw [hasHandle_iff, h.senders]
      rfl
    rcases Nat.eq_zero_or_pos (Broadcast.senders w.calls) with hnone | hsome
    · have hhandle : w.view.hasHandle = false := by
        rw [← Bool.not_eq_true, hhandles]
        omega
      rw [hc.closes _ _ h.possible hunread hnone, hview, hhandle]
      rfl
    · rw [hc.waits _ _ h.possible hunread hsome, hview, hhandles.mpr hsome]
      rfl

/-- A listener that does not see the flag asks its receiver while the flag is down, or goes on
waiting. -/
theorem asks_of_not_sees (hx : w.listeners[l]? = some x)
    (h : ¬ (w.flag && w.listeners[l]? != some .waiting) = true) :
    w.flag = false ∨ x = .waiting := by
  cases hflag : w.flag with
  | false => exact .inl rfl
  | true => exact .inr (by simpa [hflag, hx] using h)

/-- A listener that is polled is reached just if the signal is ready. -/
theorem Sound.poll_fst (hc : c.Lawful) (h : Sound w) (hl : w.hasListener l = true) :
    (w.poll c l).1 = w.view.isReady := by
  obtain ⟨x, hx, hpresent⟩ := getElem?_of_hasListener hl
  unfold poll
  split
  · next hsees =>
    have hflag : w.flag = true := by simp_all
    simp [isReady, view, hflag]
  · next hsees =>
    exact h.isSome_poll? hc hx hpresent (asks_of_not_sees hx hsees)

/-! ## Steps -/

/-- A listener and its receiver may be changed together. -/
theorem Sound.change (h : Sound w) {call : ChannelCall} {f : Option Nat → Option Nat} {y : Listener}
    (hpossible : Broadcast.Possible (call :: w.calls))
    (hsenders : Broadcast.senders (call :: w.calls) = Broadcast.senders w.calls)
    (hreceivers : Broadcast.receivers (call :: w.calls) =
      (Broadcast.receivers w.calls).modify (receiverOf l) f)
    (howed : ∀ x unread, w.listeners[l]? = some x → Owed w.flag x unread →
      Owed w.flag y (f unread)) :
    Sound { w with calls := call :: w.calls, listeners := w.listeners.set l y } := by
  obtain ⟨unread, heq, hstep⟩ := h.receivers
  refine ⟨hpossible, hsenders.trans h.senders, unread.modify l f, ?_, ?_⟩
  · rw [hreceivers, heq, receiverOf, List.modify_succ_cons]
  · rw [List.set_eq_modify]
    exact forall₂_modify hstep howed

/-- Polling a listener leaves a signal sound. -/
theorem Sound.poll (hc : c.Lawful) (h : Sound w) (hl : w.hasListener l = true) :
    Sound (w.poll c l).2 := by
  obtain ⟨x, hx, hpresent⟩ := getElem?_of_hasListener hl
  unfold Wired.poll
  split
  · exact h
  · next hsees =>
    have hasks := asks_of_not_sees hx hsees
    have hready := h.isSome_poll? hc hx hpresent hasks
    obtain ⟨unread, hunread, howed⟩ := h.owed hx
    obtain ⟨n, rfl⟩ := howed.exists_unread hpresent
    refine h.change ⟨h.possible, n, hunread⟩ rfl rfl ?_
    intro x' unread' hx' howed'
    obtain rfl : x = x' := Option.some.inj (hx.symm.trans hx')
    have hleft : unread'.map Broadcast.leftAfterPoll = some 0 := by
      rw [howed'.eq_of_asks hpresent hasks]
      cases w.flag <;> rfl
    rw [hleft]
    cases hreached : (c.poll? w.calls (receiverOf l)).isSome with
    | true => exact ⟨0, rfl, fun _ => rfl⟩
    | false =>
      -- The listener waits on, so the flag is down.
      have hdown : w.flag = false := by
        rw [hreached] at hready
        simp_all [isReady, view]
      simp [Owed, hdown]

/-- The wires stay sound. -/
theorem Sound.act (hc : c.Lawful) (h : Sound w) (ha : w.allows a = true) : Sound (w.act c a) := by
  obtain ⟨unread, heq, hstep⟩ := h.receivers
  cases a with
  | clone i =>
    refine ⟨⟨h.possible, h.senders_pos ha⟩, ?_, unread, heq, hstep⟩
    simp [Wired.act, Wired.clone, Broadcast.senders, h.senders]
  | listen i =>
    refine ⟨⟨h.possible, h.senders_pos ha⟩, h.senders, unread ++ [some 0], ?_, ?_⟩
    · simp [Wired.act, Wired.listen, Broadcast.receivers, heq]
    · exact List.rel_append hstep (.cons ⟨0, rfl, fun _ => rfl⟩ .nil)
  | trigger i =>
    unfold Wired.act Wired.trigger
    cases hflag : w.flag with
    | true => exact h
    | false =>
      refine ⟨⟨h.possible, h.senders_pos ha⟩, h.senders, unread.map (Option.map (· + 1)), ?_, ?_⟩
      · simp [Broadcast.receivers, heq]
      · rw [List.forall₂_map_right_iff]
        rw [hflag] at hstep
        exact hstep.imp fun _ _ howed => howed.send
  | dropHandle i =>
    refine ⟨⟨h.possible, h.senders_pos ha⟩, ?_, unread, heq, hstep⟩
    have hcount := count_set_false (getElem?_of_hasHandle ha)
    simp only [Wired.act, Wired.dropHandle, Broadcast.senders, h.senders]
    omega
  | dropListener l =>
    obtain ⟨x, hx, hpresent⟩ := getElem?_of_hasListener ha
    obtain ⟨n, hn, howed⟩ := h.owed hx
    obtain ⟨n, rfl⟩ := howed.exists_unread hpresent
    exact h.change ⟨h.possible, n, hn⟩ rfl rfl fun _ _ _ _ => rfl
  | poll l => exact h.poll hc ha
  | abandon l =>
    have hx : w.listeners[l]? = some .waiting := by simpa [allows] using ha
    refine ⟨h.possible, h.senders, unread, heq, ?_⟩
    change List.Forall₂ (Owed w.flag) (w.listeners.set l .idle) unread
    rw [← List.modify_id l unread, List.set_eq_modify]
    refine forall₂_modify hstep fun x n hx' howed => ?_
    obtain rfl : .waiting = x := Option.some.inj (hx.symm.trans hx')
    exact ⟨_, howed, fun hdown => by simp [hdown]⟩

/-! ## Runs -/

/-- A step is taken just if it is allowed, and comes to what it does. -/
theorem step?_eq_some_iff : w.step? c a = some w' ↔ w.allows a = true ∧ w.act c a = w' := by
  simp [step?]

/-- Steps may be taken in two parts. -/
theorem run?_append (c : Broadcast) (w : Wired) (steps later : List Step) :
    w.run? c (steps ++ later) = (w.run? c steps).bind fun w => w.run? c later := by
  simp [run?]

/-- What every step keeps, a run keeps. -/
theorem run?_induction {P : Wired → List Step → Prop} (steps : List Step)
    (hrun : w.run? c steps = some w') (start : P w [])
    (step : ∀ w done a, P w done → w.allows a = true → P (w.act c a) (done ++ [a])) :
    P w' steps := by
  induction steps using List.reverseRecOn generalizing w' with
  | nil =>
    obtain rfl : w = w' := by simpa [run?] using hrun
    exact start
  | append_singleton done a ih =>
    rw [run?_append] at hrun
    obtain ⟨w₁, hdone, hlast⟩ := Option.bind_eq_some_iff.mp hrun
    obtain ⟨hallows, rfl⟩ : w₁.allows a = true ∧ w₁.act c a = w' := by
      rw [← step?_eq_some_iff]
      simpa [run?] using hlast
    exact step w₁ done a (ih hdone) hallows

/-- Along a run the wires stay sound, and keep up with what users see. -/
theorem Sound.run (hc : c.Lawful) (h : Sound w) {steps : List Step}
    (hrun : w.run? c steps = some w') : Sound w' ∧ w'.view = steps.foldl StopSignal.act w.view := by
  refine run?_induction (P := fun w' done => Sound w' ∧ w'.view = done.foldl StopSignal.act w.view)
    steps hrun ⟨h, rfl⟩ ?_
  intro w₁ done a hdone hallows
  refine ⟨hdone.1.act hc hallows, ?_⟩
  rw [view_act hallows, hdone.2, List.foldl_concat]

/-- A signal that is ready stays so, for there is no step that makes the first handle. -/
theorem isReady_run? {steps : List Step} (hrun : w.run? c steps = some w')
    (h : w.view.isReady = true) : w'.view.isReady = true := by
  refine run?_induction (P := fun w' _ => w'.view.isReady = true) steps hrun h ?_
  intro w _ a hready hallows
  rw [view_act hallows]
  cases a with
  | clone i =>
    have hhandle : w.view.hasHandle = true := by
      have hmem : true ∈ w.handles := List.mem_of_getElem? (getElem?_of_hasHandle hallows)
      simpa [StopSignal.hasHandle, view] using hmem
    rw [isReady_of_hasHandle hhandle] at hready
    exact isReady_of_triggered hready
  | trigger i => exact isReady_of_triggered rfl
  | dropHandle i =>
    have hfewer : (w.view.dropHandle i).hasHandle = true → w.view.hasHandle = true := by
      simp only [StopSignal.hasHandle, StopSignal.dropHandle, List.any_eq_true]
      rintro ⟨there, hmem, hthere⟩
      rcases List.mem_or_eq_of_mem_set hmem with hmem | rfl
      · exact ⟨there, hmem, hthere⟩
      · cases hthere
    simp only [StopSignal.act, isReady, Bool.or_eq_true, Bool.not_eq_true'] at hready ⊢
    rcases hready with htriggered | hnone
    · exact .inl htriggered
    · exact .inr (by simpa [hnone] using hfewer)
  | _ => exact hready

/-! ## What there is after a run -/

/-- How many handles have been made and not dropped, with the one that a signal comes with. -/
def handlesLeft (steps : List Step) : Nat :=
  1 + steps.countP (· matches .clone _) - steps.countP (· matches .dropHandle _)

/-- How many listeners have been made and not dropped. -/
def listenersLeft (steps : List Step) : Nat :=
  steps.countP (· matches .listen _) - steps.countP (· matches .dropListener _)

/-- After a run there are as many handles as have been made and not dropped. -/
theorem count_handles {steps : List Step} (hrun : new.run? c steps = some w) :
    w.view.handles.count true = handlesLeft steps := by
  have hcount : w.view.handles.count true + steps.countP (· matches .dropHandle _) =
      1 + steps.countP (· matches .clone _) := by
    refine run?_induction (P := fun w done => w.view.handles.count true +
      done.countP (· matches .dropHandle _) = 1 + done.countP (· matches .clone _))
      steps hrun rfl ?_
    intro w done a ih hallows
    rw [view_act hallows, List.countP_append, List.countP_append]
    cases a with
    | clone i =>
      simp [StopSignal.act, StopSignal.clone]
      omega
    | dropHandle i =>
      have hthere : w.view.handles[i]? = some true := getElem?_of_hasHandle hallows
      have hfewer := count_set_false hthere
      simp [StopSignal.act, StopSignal.dropHandle]
      omega
    | _ => simpa [StopSignal.act, StopSignal.listen, StopSignal.trigger,
        StopSignal.dropListener] using ih
  unfold handlesLeft
  omega

/-- After a run there are as many listeners as have been made and not dropped. -/
theorem count_listeners {steps : List Step} (hrun : new.run? c steps = some w) :
    w.view.listenerCount = listenersLeft steps := by
  have hcount : w.view.listenerCount + steps.countP (· matches .dropListener _) =
      steps.countP (· matches .listen _) := by
    refine run?_induction (P := fun w done => w.view.listenerCount +
      done.countP (· matches .dropListener _) = done.countP (· matches .listen _))
      steps hrun rfl ?_
    intro w done a ih hallows
    rw [view_act hallows, List.countP_append, List.countP_append]
    unfold StopSignal.listenerCount at ih ⊢
    cases a with
    | listen i =>
      simp [StopSignal.act, StopSignal.listen]
      omega
    | dropListener l =>
      obtain ⟨x, hx, hpresent⟩ := getElem?_of_hasListener hallows
      have hthere : w.view.listeners[l]? = some true := by simp [view, hx, hpresent]
      have hfewer := count_set_false hthere
      simp [StopSignal.act, StopSignal.dropListener]
      omega
    | _ => simpa [StopSignal.act, StopSignal.clone, StopSignal.trigger,
        StopSignal.dropHandle] using ih
  unfold listenersLeft
  omega

/-- The channel has a receiver for each listener and no other one. -/
theorem Sound.listenerCount_eq (hc : c.Lawful) (h : Sound w) :
    w.listenerCount c = w.view.listenerCount := by
  obtain ⟨unread, heq, hstep⟩ := h.receivers
  rw [listenerCount, hc.counts _ h.possible, heq, List.countP_cons_of_neg (by simp),
    ← countP_eq_of_forall₂ hstep fun _ _ howed => howed.isSome_eq.symm]
  simp [StopSignal.listenerCount, view, List.count, List.countP_map, Function.comp_def]

/-- The signal reaches every listener, and for ever. After any steps, a listener that is polled is
reached just if the signal has been triggered or no handle is left; then every listener is that is
polled later. Once it is triggered, to trigger it again changes nothing. Whether it is triggered,
and how many listeners there are, is told as it is. -/
theorem reaches_every_listener {c : Broadcast} (hc : c.Lawful) {steps : List Step} {w : Wired}
    (hrun : new.run? c steps = some w) :
    (∀ l, w.hasListener l = true →
      ((w.poll c l).1 = true ↔ (∃ i, Step.trigger i ∈ steps) ∨ handlesLeft steps = 0)) ∧
    (∀ l, w.hasListener l = true → (w.poll c l).1 = true →
      ∀ later w', w.run? c later = some w' →
        ∀ l', w'.hasListener l' = true → (w'.poll c l').1 = true) ∧
    ((∃ i, Step.trigger i ∈ steps) →
      ∀ i, w.hasHandle i = true → w.step? c (.trigger i) = some w) ∧
    (w.isTriggered = true ↔ ∃ i, Step.trigger i ∈ steps) ∧
    w.listenerCount c = listenersLeft steps := by
  obtain ⟨hsound, hview⟩ := sound_new.run hc hrun
  have htriggered : w.flag = true ↔ ∃ i, Step.trigger i ∈ steps := by
    have hfold := triggered_foldl_act new.view steps
    rw [← hview] at hfold
    simpa [view, new] using hfold
  have hhandles : w.view.hasHandle = false ↔ handlesLeft steps = 0 := by
    rw [← count_handles hrun, ← Bool.not_eq_true, hasHandle_iff]
    omega
  refine ⟨?_, ?_, ?_, htriggered, ?_⟩
  · intro l hl
    rw [hsound.poll_fst hc hl, isReady, Bool.or_eq_true, Bool.not_eq_true', ← htriggered,
      ← hhandles]
    rfl
  · intro l hl hready later w' hlater l' hl'
    rw [hsound.poll_fst hc hl] at hready
    rw [(hsound.run hc hlater).1.poll_fst hc hl']
    exact isReady_run? hlater hready
  · intro hbefore i hi
    rw [step?_eq_some_iff]
    exact ⟨hi, by simp [Wired.act, trigger, htriggered.mpr hbefore]⟩
  · rw [hsound.listenerCount_eq hc, count_listeners hrun]

end Wired

/-! ## A channel with one slot -/

/-- A channel that numbers its messages and keeps the last one. It knows how many have been sent,
and for each receiver which one it takes next. -/
structure OneSlot where
  senders : Nat
  sent : Nat
  next : List (Option Nat)
deriving DecidableEq

namespace OneSlot

/-- Does a call. A message that nobody is there to receive is not sent. -/
def call (o : OneSlot) : ChannelCall → OneSlot
  | .addSender => { o with senders := o.senders + 1 }
  | .dropSender => { o with senders := o.senders - 1 }
  | .subscribe => { o with next := o.next ++ [some o.sent] }
  | .dropReceiver r => { o with next := o.next.modify r fun _ => none }
  | .send => if o.next.all Option.isNone then o else { o with sent := o.sent + 1 }
  | .poll r =>
    -- A receiver that is behind by more than one goes on with the message that is kept.
    { o with next := o.next.modify r (Option.map fun n =>
        if n + 1 < o.sent then o.sent - 1 else o.sent) }

/-- The channel after some calls, the last one first. -/
def after (h : List ChannelCall) : OneSlot := h.foldr (fun a o => o.call a) ⟨1, 0, [some 0]⟩

/-- What a receiver is given. -/
def give? (o : OneSlot) (r : Nat) : Option Reception :=
  o.next[r]?.join.bind fun n =>
    if n = o.sent then if o.senders = 0 then some .closed else none
    else if n + 1 = o.sent then some .message else some .missed

end OneSlot

/-- The channel with one slot, by its answers. -/
def oneSlot : Broadcast where
  poll? := fun h r => (OneSlot.after h).give? r
  receiverCount := fun h => (OneSlot.after h).next.countP Option.isSome

namespace OneSlot

/-- The channel with one slot counts its senders. -/
theorem senders_after (h : List ChannelCall) : (after h).senders = Broadcast.senders h := by
  induction h with
  | nil => rfl
  | cons a h ih =>
    rw [after, List.foldr_cons, ← after]
    cases a with
    | send =>
      simp only [call]
      split <;> exact ih
    | _ => simp only [call, Broadcast.senders, ih]

/-- A receiver is not ahead of the messages, and has yet to take those from its next one on. -/
def Keeps (sent : Nat) (next unread : Option Nat) : Prop :=
  next.map (sent - ·) = unread ∧ ∀ n ∈ next, n ≤ sent

/-- The receivers of the channel with one slot keep what they have to take. -/
theorem forall₂_after (h : List ChannelCall) :
    List.Forall₂ (Keeps (after h).sent) (after h).next (Broadcast.receivers h) := by
  induction h with
  | nil => exact .cons ⟨rfl, by simp [after]⟩ .nil
  | cons a h ih =>
    rw [after, List.foldr_cons, ← after]
    cases a with
    | addSender => exact ih
    | dropSender => exact ih
    | subscribe => exact List.rel_append ih (.cons ⟨by simp, by simp⟩ .nil)
    | dropReceiver r => exact forall₂_modify ih fun _ _ _ _ => ⟨rfl, by simp⟩
    | send =>
      rw [Broadcast.receivers, List.forall₂_map_right_iff]
      by_cases hnobody : (after h).next.all Option.isNone = true
      · have hcall : (after h).call .send = after h := by simp [call, hnobody]
        rw [hcall]
        have hboth := (List.forall₂_and_left _ _).mpr ⟨List.all_eq_true.mp hnobody, ih⟩
        refine hboth.imp ?_
        rintro next unread ⟨hnone, rfl, -⟩
        rw [Option.isNone_iff_eq_none.mp hnone]
        exact ⟨rfl, by simp⟩
      · have hcall : (after h).call .send = { after h with sent := (after h).sent + 1 } := by
          simp [call, hnobody]
        rw [hcall]
        refine ih.imp ?_
        rintro next unread ⟨rfl, hle⟩
        cases next with
        | none => exact ⟨rfl, by simp⟩
        | some n =>
          have hn := hle n rfl
          simp [Keeps]
          omega
    | poll r =>
      refine forall₂_modify ih ?_
      rintro next unread - ⟨rfl, hle⟩
      cases next with
      | none => exact ⟨rfl, by simp⟩
      | some n =>
        have hn := hle n rfl
        simp [Keeps, Broadcast.leftAfterPoll]
        split <;> split <;> omega

/-- A receiver that is there knows which message it takes next. -/
theorem exists_next {h : List ChannelCall} {r unread : Nat}
    (hr : (Broadcast.receivers h)[r]? = some (some unread)) :
    ∃ n, (after h).next[r]? = some (some n) ∧ n + unread = (after h).sent := by
  obtain ⟨next, hnext, hmap, hle⟩ := exists_getElem?_of_forall₂ (forall₂_after h).flip hr
  obtain ⟨n, rfl, hn⟩ := Option.map_eq_some_iff.mp hmap
  have hsent := hle n rfl
  exact ⟨n, hnext, by omega⟩

/-- A receiver of the channel with one slot is given the last message, or told that it has missed
some, that the channel is closed, or nothing yet. -/
theorem poll?_oneSlot {h : List ChannelCall} {r n : Nat}
    (hn : (after h).next[r]? = some (some n)) :
    oneSlot.poll? h r =
      if n = (after h).sent then if (after h).senders = 0 then some .closed else none
      else if n + 1 = (after h).sent then some .message else some .missed := by
  simp [oneSlot, give?, hn]

/-- The channel with one slot is lawful. -/
theorem lawful_oneSlot : oneSlot.Lawful where
  delivers h r _ hr := by
    obtain ⟨n, hn, hsent⟩ := exists_next hr
    rw [poll?_oneSlot hn, if_neg (by omega), if_pos hsent]
  tells h r unread _ hr hmore := by
    obtain ⟨n, hn, hsent⟩ := exists_next hr
    rw [poll?_oneSlot hn, if_neg (by omega), if_neg (by omega)]
  waits h r _ hr hsender := by
    obtain ⟨n, hn, hsent⟩ := exists_next hr
    rw [poll?_oneSlot hn, if_pos (by omega), senders_after, if_neg (by omega)]
  closes h r _ hr hsender := by
    obtain ⟨n, hn, hsent⟩ := exists_next hr
    rw [poll?_oneSlot hn, if_pos (by omega), senders_after, if_pos hsender]
  counts h _ := by
    refine countP_eq_of_forall₂ (forall₂_after h) ?_
    rintro next unread ⟨rfl, -⟩
    simp

end OneSlot

/-- A listener that waits, a second handle that triggers, and a listener that comes late; then no
handle is left. -/
def lateSteps : List Step :=
  [.listen 0, .poll 0, .clone 0, .dropHandle 0, .trigger 1, .listen 1, .dropHandle 1]

/-- Both listeners are reached, the first one by the message and the other by the flag. -/
theorem reaches_every_listener_lateSteps :
    ∃ w, Wired.new.run? oneSlot lateSteps = some w ∧ w.listeners = [.waiting, .idle] ∧
      (w.poll oneSlot 0).1 = true ∧ (w.poll oneSlot 1).1 = true ∧
      w.listenerCount oneSlot = 2 := by
  obtain ⟨w, hrun, hlisteners⟩ : ∃ w, Wired.new.run? oneSlot lateSteps = some w ∧
      w.listeners = [.waiting, .idle] := by
    exact ⟨_, rfl, by decide⟩
  have hthere : w.hasListener 0 = true ∧ w.hasListener 1 = true := by
    simp [Wired.hasListener, hlisteners]
  have htriggered : ∃ i, Step.trigger i ∈ lateSteps := ⟨1, by decide⟩
  obtain ⟨hreach, -, -, -, hcount⟩ :=
    Wired.reaches_every_listener OneSlot.lawful_oneSlot hrun
  exact ⟨w, hrun, hlisteners, (hreach 0 hthere.1).mpr (.inl htriggered),
    (hreach 1 hthere.2).mpr (.inl htriggered), hcount.trans (by decide)⟩

end StopSignal

end SiteGate
