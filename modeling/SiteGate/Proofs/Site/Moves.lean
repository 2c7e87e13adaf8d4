import Mathlib.Logic.Relation
import SiteGate.Proofs.Store.SiteCountdowns

/-!
# What happens to a site

Others call a running site and change its files (`Call`), and it does things by itself: it wakes the
tasks that can do something, in whatever order, a watcher looks at the files when it is told of a
change, and time passes as long as no task is due (`Own`). All that a site can come to is reached by
such steps (`Runs`), and what holds of its tasks throughout is kept by each of them
(`Sound.happens`).

Between two steps a site may be in the middle of its work. It has come to rest when no task can do
anything (`Settled`). Letting everything happen that can happen now brings it to rest
(`Sound.settle`), and while it sleeps it goes from rest to rest (`Sound.sleep`).
-/

set_option autoImplicit false

namespace SiteGate

open Banner (Countdown)
open Store (Act Runtime Scene)

/-! ## Ticks of a countdown -/

/-- A tick counts down, says that the count is over, or ends a countdown that does not count or
whose banner is off. -/
theorem Banner.Countdown.tick_cases (c : Countdown) (on : Bool) :
    (on = true ∧ c.phase = .active ∧ ∃ remaining, c.remaining = remaining + 2 ∧
      c.tick on = (.running (remaining + 1), ⟨.active, remaining + 1⟩)) ∨
    (on = true ∧ c.phase = .active ∧ c.remaining ≤ 1 ∧ c.tick on = (.expired, ⟨.expiring, 0⟩)) ∨
    ((on = false ∨ c.phase ≠ .active) ∧
      ((c.tick on).1 = .cancelled ∨ (c.tick on).1 = .idle)) := by
  obtain ⟨phase, remaining⟩ := c
  cases phase with
  | idle => exact .inr (.inr ⟨.inr (by simp), .inr rfl⟩)
  | expiring => exact .inr (.inr ⟨.inr (by simp), .inl rfl⟩)
  | off => exact .inr (.inr ⟨.inr (by simp), .inl rfl⟩)
  | active =>
    cases on with
    | false => exact .inr (.inr ⟨.inl rfl, .inl rfl⟩)
    | true =>
      match remaining with
      | 0 => exact .inr (.inl ⟨rfl, rfl, Nat.zero_le 1, rfl⟩)
      | 1 => exact .inr (.inl ⟨rfl, rfl, Nat.le_refl 1, rfl⟩)
      | r + 2 => exact .inl ⟨rfl, rfl, r, rfl, rfl⟩

namespace Task

/-- How long a task waits from one thing that it does to the next. -/
def interval (t : Task) : Nat :=
  match t.work with
  | .armed _ period => period
  | .counting _ period _ => period
  | .watching interval => interval

/-- Whether a task is a countdown that has not started. -/
def isArmed (t : Task) : Bool :=
  match t.work with
  | .armed _ _ => true
  | _ => false

end Task

namespace Engine

/-! ## Steps -/

/-- What others do: they change files, ask for a reload or a change of a value, ask the gate about a
request, and start watchers. -/
inductive Call : Engine → Engine → Prop where
  | edit (e : Engine) (files : Tree) : Call e { e with files := files }
  | refresh (e : Engine) : Call e e.refresh.2
  | update (e : Engine) (parent key value : Text) : Call e (e.update parent key value).2
  | ask (e : Engine) (request : Gate.Request) : Call e (e.ask request).2
  | watch (e : Engine) {interval : Nat} (h : 0 < interval) : Call e (e.watch interval)

/-- What a site does by itself: it wakes a task that can do something, lets a watcher look at the
files before its time, and lets time pass up to a time before which no task is due. -/
inductive Own : Engine → Engine → Prop where
  | wake {e : Engine} {t : Task} (ht : t ∈ e.tasks) (hready : e.isReady t = true) :
    Own e (e.wake t)
  | look {e : Engine} {t : Task} (ht : t ∈ e.tasks) : Own e (e.lookNow t)
  | pass {e : Engine} {now : Nat} (h : e.now ≤ now) (hdue : ∀ t ∈ e.tasks, now ≤ t.due) :
    Own e { e with now := now }

/-- One step of a site, whoever takes it. -/
def Happens (e e' : Engine) : Prop := e.Call e' ∨ e.Own e'

/-- Any number of steps, one after the other. -/
abbrev Runs : Engine → Engine → Prop := Relation.ReflTransGen Happens

/-- No task can do anything now. -/
def Settled (e : Engine) : Prop := ∀ t ∈ e.tasks, e.isReady t = false

variable {e e' : Engine} {t t' : Task}

/-- A task can do something if the site has been told to stop, if its time has come, or if it has
not started. -/
theorem isReady_eq (e : Engine) (t : Task) :
    e.isReady t = (e.stopped || decide (t.due ≤ e.now) || t.isArmed) := by
  obtain ⟨id, due, work⟩ := t
  cases work <;> rfl

/-- In a site at rest every task waits for a later time. -/
theorem lt_due_of_settled (h : e.Settled) (ht : t ∈ e.tasks) : e.now < t.due := by
  have hready := h t ht
  simp only [isReady_eq, Bool.or_eq_false_iff, decide_eq_false_iff_not] at hready
  exact Nat.not_le.mp hready.1.2

/-- In a site at rest every countdown has started. -/
theorem isArmed_of_settled (h : e.Settled) (ht : t ∈ e.tasks) : t.isArmed = false := by
  have hready := h t ht
  simp only [isReady_eq, Bool.or_eq_false_iff] at hready
  exact hready.2

/-! ## Fields that an operation leaves -/

section Fields

variable (e)

/-- Noting a reload touches the counters and the tasks only. -/
theorem noteReload_eq (inside : Bool) (outcome : Reload) : ∃ metrics tasks nextId,
    e.noteReload inside outcome = { e with metrics := metrics, tasks := tasks, nextId := nextId } := by
  unfold noteReload
  split
  · dsimp only
    split
    · exact ⟨_, _, _, rfl⟩
    · exact ⟨_, _, _, rfl⟩
  · exact ⟨_, _, _, rfl⟩

/-- Noting a reload takes no time. -/
@[simp] theorem now_noteReload (inside : Bool) (outcome : Reload) :
    (e.noteReload inside outcome).now = e.now := by
  obtain ⟨metrics, tasks, nextId, hnoted⟩ := e.noteReload_eq inside outcome
  rw [hnoted]

/-- Noting a reload does not tell the site to stop. -/
@[simp] theorem stopped_noteReload (inside : Bool) (outcome : Reload) :
    (e.noteReload inside outcome).stopped = e.stopped := by
  obtain ⟨metrics, tasks, nextId, hnoted⟩ := e.noteReload_eq inside outcome
  rw [hnoted]

/-- Noting a reload ends no task. -/
@[simp] theorem ended_noteReload (inside : Bool) (outcome : Reload) :
    (e.noteReload inside outcome).ended = e.ended := by
  obtain ⟨metrics, tasks, nextId, hnoted⟩ := e.noteReload_eq inside outcome
  rw [hnoted]

/-- Noting a reload does not change where the site is called from. -/
@[simp] theorem concurrent_noteReload (inside : Bool) (outcome : Reload) :
    (e.noteReload inside outcome).concurrent = e.concurrent := by
  obtain ⟨metrics, tasks, nextId, hnoted⟩ := e.noteReload_eq inside outcome
  rw [hnoted]

/-- An operation takes no time. -/
@[simp] theorem now_performed (inside : Bool) (a : Act) : (e.performed inside a).now = e.now := by
  unfold performed
  split <;> simp

/-- An operation does not tell the site to stop. -/
@[simp] theorem stopped_performed (inside : Bool) (a : Act) :
    (e.performed inside a).stopped = e.stopped := by
  unfold performed
  split <;> simp

/-- An operation ends no task. -/
@[simp] theorem ended_performed (inside : Bool) (a : Act) :
    (e.performed inside a).ended = e.ended := by
  unfold performed
  split <;> simp

/-- An operation does not change where the site is called from. -/
@[simp] theorem concurrent_performed (inside : Bool) (a : Act) :
    (e.performed inside a).concurrent = e.concurrent := by
  unfold performed
  split <;> simp

/-- To the store and the files an operation does what it does without a site around them. -/
@[simp] theorem scene_performed (inside : Bool) (a : Act) :
    (e.performed inside a).scene = e.scene.act a := by
  unfold performed
  split
  · rw [scene_noteReload]
    rfl
  · rfl

/-- The store after an operation is the one without a site around it. -/
@[simp] theorem store_performed (inside : Bool) (a : Act) :
    (e.performed inside a).store = (e.scene.act a).store :=
  congrArg Scene.store (e.scene_performed inside a)

/-- The files after an operation are those without a site around them. -/
@[simp] theorem files_performed (inside : Bool) (a : Act) :
    (e.performed inside a).files = (e.scene.act a).files :=
  congrArg Scene.files (e.scene_performed inside a)

/-- Noting a reload arms a countdown for a timed banner, inside a runtime. -/
theorem tasks_noteReload (inside : Bool) (outcome : Reload) :
    (e.noteReload inside outcome).tasks =
      if outcome = .reloaded true ∧ inside = true then
        e.tasks ++ [⟨e.nextId, e.now, .armed e.store.generation e.store.settings.tickInterval⟩]
      else e.tasks := by
  match outcome with
  | .unchanged => simp [noteReload]
  | .blockedRefreshed => simp [noteReload]
  | .reloaded false => simp [noteReload]
  | .reloaded true => cases inside <;> simp [noteReload, spawn]

/-- An act arms a countdown if it reads a timed banner from the file, inside a runtime. -/
theorem tasks_performed (inside : Bool) (a : Act) :
    (e.performed inside a).tasks =
      if e.scene.reload? a = some (.reloaded true) ∧ inside = true then
        e.tasks ++ [⟨e.nextId, e.now, .armed (e.scene.act a).store.generation
          (e.scene.act a).store.settings.tickInterval⟩]
      else e.tasks := by
  unfold performed
  cases hreload : e.scene.reload? a with
  | none => simp
  | some outcome => simp [tasks_noteReload]

/-- The tasks after a refresh are those after the operation of that name. -/
theorem tasks_refreshFrom (inside : Bool) :
    (e.refreshFrom inside).2.tasks = (e.performed inside .refresh).tasks := by
  rw [refreshFrom_eq]

/-- A refresh takes no time. -/
@[simp] theorem now_refreshFrom (inside : Bool) : (e.refreshFrom inside).2.now = e.now := by
  rw [refreshFrom_eq]
  exact e.now_performed _ _

/-- A refresh does not tell the site to stop. -/
@[simp] theorem stopped_refreshFrom (inside : Bool) :
    (e.refreshFrom inside).2.stopped = e.stopped := by
  rw [refreshFrom_eq]
  exact e.stopped_performed _ _

/-- A refresh does not change where the site is called from. -/
@[simp] theorem concurrent_refreshFrom (inside : Bool) :
    (e.refreshFrom inside).2.concurrent = e.concurrent := by
  rw [refreshFrom_eq]
  exact e.concurrent_performed _ _

/-- The tasks after an expiry are those after the operation of that name. -/
theorem tasks_expire (generation : Nat) :
    (e.expire generation).2.tasks = (e.performed true (.expire generation)).tasks := by
  rw [expire_eq]

/-- An expiry takes no time. -/
@[simp] theorem now_expire (generation : Nat) : (e.expire generation).2.now = e.now := by
  rw [expire_eq]
  exact e.now_performed _ _

/-- An expiry does not tell the site to stop. -/
@[simp] theorem stopped_expire (generation : Nat) :
    (e.expire generation).2.stopped = e.stopped := by
  rw [expire_eq]
  exact e.stopped_performed _ _

/-- An expiry does not change where the site is called from. -/
@[simp] theorem concurrent_expire (generation : Nat) :
    (e.expire generation).2.concurrent = e.concurrent := by
  rw [expire_eq]
  exact e.concurrent_performed _ _

end Fields

/-! ## What waking a task does -/

/-- What is due after an interval is due later, if the interval is not empty. -/
theorem now_lt_after (e : Engine) {interval : Nat} (h : 0 < interval) :
    e.now < e.after interval := by
  unfold after longWait
  split <;> omega

/-- Once the site has been told to stop, a task that is woken ends, if it waits for some time. -/
theorem wake_stopped (hstopped : e.stopped = true) (hsteady : 0 < t.interval) :
    e.wake t = e.finish t.id (.ok ()) := by
  have hinstant : t.isInstant = false := by
    obtain ⟨id, due, work⟩ := t
    cases work with
    | armed generation period => exact decide_eq_false (Nat.ne_of_gt hsteady)
    | counting generation period count => rfl
    | watching interval => rfl
  simp [wake, hstopped, hinstant]

/-- A countdown that has not started starts when it is woken. -/
theorem wake_armed (hstopped : e.stopped = false) (id due generation period : Nat) :
    e.wake ⟨id, due, .armed generation period⟩ = e.start id generation period := by
  simp [wake, hstopped]

/-- A countdown that counts ticks when it is woken. -/
theorem wake_counting (hstopped : e.stopped = false) (id due generation period : Nat)
    (count : Countdown) :
    e.wake ⟨id, due, .counting generation period count⟩ = e.tick id generation period count := by
  simp [wake, hstopped]

/-- How a watcher that has looked at the files goes on. -/
def afterLook (e : Engine) (id interval : Nat) : Except FileFailure Reload → Engine
  | .error f => e.finish id (.error f)
  | .ok _ => e.resume id (e.after interval) (.watching interval)

/-- A watcher looks at the files when it is woken, and goes on. -/
theorem wake_watching (hstopped : e.stopped = false) (id due interval : Nat) :
    e.wake ⟨id, due, .watching interval⟩ =
      (e.refreshFrom true).2.afterLook id interval (e.refreshFrom true).1 := by
  unfold wake
  rw [hstopped]
  cases hrefresh : e.refreshFrom true with
  | mk result next => cases result <;> simp [afterLook]

/-- A countdown whose ticks take time counts a timed banner, and ends for another one. -/
theorem start_eq (e : Engine) (id generation : Nat) {period : Nat} (hperiod : 0 < period) :
    e.start id generation period =
      if e.store.snapshot.banner.isTimed = true then
        e.resume id (e.now + period)
          (.counting generation period ⟨.active, e.store.snapshot.banner.secondsToDisplay⟩)
      else e.finish id (.ok ()) := by
  have hne : period ≠ 0 := Nat.ne_of_gt hperiod
  unfold start Countdown.ofBanner
  by_cases htimed : e.store.snapshot.banner.isTimed = true
  · simp [htimed, hne]
  · simp [htimed]

/-- A tick ends a countdown that has been superseded, counts down, switches the banner off, or ends
a countdown that has nothing to count. -/
theorem tick_cases (e : Engine) (id generation period : Nat) (count : Countdown) :
    (e.store.generation ≠ generation ∧
      e.tick id generation period count = e.finish id (.ok ())) ∨
    (e.store.generation = generation ∧ e.store.snapshot.banner.on = true ∧
      count.phase = .active ∧ ∃ remaining, count.remaining = remaining + 2 ∧
        e.tick id generation period count =
          { e with store := e.store.setTicks generation (remaining + 1) }.resume id
            (e.now + period) (.counting generation period ⟨.active, remaining + 1⟩)) ∨
    (e.store.generation = generation ∧ e.store.snapshot.banner.on = true ∧
      count.phase = .active ∧ count.remaining ≤ 1 ∧
        e.tick id generation period count =
          (e.expire generation).2.finish id (e.expire generation).1) ∨
    (e.store.generation = generation ∧
      (e.store.snapshot.banner.on = false ∨ count.phase ≠ .active) ∧
        e.tick id generation period count = e.finish id (.ok ())) := by
  by_cases hgeneration : e.store.generation = generation
  · obtain ⟨hon, hphase, remaining, hremaining, htick⟩ | ⟨hon, hphase, hremaining, htick⟩ |
        ⟨hnot, htick⟩ := count.tick_cases e.store.snapshot.banner.on
    · refine .inr (.inl ⟨hgeneration, hon, hphase, remaining, hremaining, ?_⟩)
      simp only [tick, hgeneration, ne_eq, not_true_eq_false, if_false, htick]
    · refine .inr (.inr (.inl ⟨hgeneration, hon, hphase, hremaining, ?_⟩))
      simp only [tick, hgeneration, ne_eq, not_true_eq_false, if_false, htick]
    · refine .inr (.inr (.inr ⟨hgeneration, hnot, ?_⟩))
      unfold tick
      rw [if_neg (not_not_intro hgeneration)]
      split
      · next hrunning => simp [hrunning] at htick
      · next hexpired => simp [hexpired] at htick
      · rfl
      · rfl
  · refine .inl ⟨hgeneration, ?_⟩
    unfold tick
    rw [if_pos hgeneration]

/-- A watcher that is told of a change looks at the files, and ends if it cannot read them. -/
theorem lookNow_cases (e : Engine) (t : Task) :
    (e.lookNow t = e) ∨
    (∃ interval, t.work = .watching interval ∧ e.lookNow t = (e.refreshFrom true).2) ∨
    (∃ interval f, t.work = .watching interval ∧
      e.lookNow t = (e.refreshFrom true).2.finish t.id (.error f)) := by
  obtain ⟨id, due, work⟩ := t
  cases work with
  | armed generation period => exact .inl rfl
  | counting generation period count => exact .inl rfl
  | watching interval =>
    cases hrefresh : e.refreshFrom true with
    | mk result next =>
      cases result with
      | error f => exact .inr (.inr ⟨interval, f, rfl, by simp [lookNow, hrefresh]⟩)
      | ok outcome => exact .inr (.inl ⟨interval, rfl, by simp [lookNow, hrefresh]⟩)

/-! ## The tasks after a step -/

/-- An operation adds no task but a countdown that has not started. -/
theorem mem_performed_cases {inside : Bool} {a : Act} (h : t' ∈ (e.performed inside a).tasks) :
    t' ∈ e.tasks ∨ (t'.isArmed = true ∧ 0 < t'.interval) := by
  rw [tasks_performed e inside a] at h
  split at h
  · rcases List.mem_append.mp h with h | h
    · exact .inl h
    · obtain rfl := List.mem_singleton.mp h
      exact .inr ⟨rfl, Config.Settings.tickInterval_pos _⟩
  · exact .inl h

/-- After a task has ended there are the other ones. -/
theorem mem_finish_iff {id : Nat} {how : TaskEnd} :
    t' ∈ (e.finish id how).tasks ↔ t' ∈ e.tasks ∧ t'.id ≠ id := by
  simp [finish]

/-- After a task has gone on there are the other ones, and the task with its new work. -/
theorem mem_resume_iff {id due : Nat} {work : Work} :
    t' ∈ (e.resume id due work).tasks ↔
      (t' ∈ e.tasks ∧ t'.id ≠ id) ∨ t' = ⟨id, due, work⟩ := by
  simp [resume]

/-- After a task has been woken there are the other tasks, the same one if it waits again, and
countdowns that have not started, if it was none of those itself. -/
theorem mem_wake_cases (hstopped : e.stopped = false)
    (hsteady : 0 < t.interval) (h : t' ∈ (e.wake t).tasks) :
    (t' ∈ e.tasks ∧ t'.id ≠ t.id) ∨
    (t'.isArmed = false ∧ e.now < t'.due ∧ 0 < t'.interval) ∨
    (t'.isArmed = true ∧ 0 < t'.interval ∧ t.isArmed = false) := by
  obtain ⟨id, due, work⟩ := t
  cases work with
  | armed generation period =>
    rw [wake_armed hstopped, start_eq e id generation (show 0 < period from hsteady)] at h
    split at h
    · rcases mem_resume_iff.mp h with hother | rfl
      · exact .inl hother
      · exact .inr (.inl ⟨rfl, Nat.lt_add_of_pos_right hsteady, hsteady⟩)
    · exact .inl (mem_finish_iff.mp h)
  | counting generation period count =>
    rw [wake_counting hstopped] at h
    obtain ⟨-, htick⟩ | ⟨-, -, -, remaining, -, htick⟩ | ⟨-, -, -, -, htick⟩ | ⟨-, -, htick⟩ :=
      e.tick_cases id generation period count
    · rw [htick] at h
      exact .inl (mem_finish_iff.mp h)
    · rw [htick] at h
      rcases mem_resume_iff.mp h with hother | rfl
      · exact .inl hother
      · exact .inr (.inl ⟨rfl, Nat.lt_add_of_pos_right hsteady, hsteady⟩)
    · rw [htick] at h
      obtain ⟨hmem, hne⟩ := mem_finish_iff.mp h
      rw [tasks_expire] at hmem
      rcases mem_performed_cases hmem with hmem | ⟨harmed, hpos⟩
      · exact .inl ⟨hmem, hne⟩
      · exact .inr (.inr ⟨harmed, hpos, rfl⟩)
    · rw [htick] at h
      exact .inl (mem_finish_iff.mp h)
  | watching interval =>
    rw [wake_watching hstopped] at h
    have hrefresh : ∀ t' ∈ (e.refreshFrom true).2.tasks, t'.id ≠ id →
        (t' ∈ e.tasks ∧ t'.id ≠ id) ∨
        (t'.isArmed = false ∧ e.now < t'.due ∧ 0 < t'.interval) ∨
        (t'.isArmed = true ∧ 0 < t'.interval ∧
          (Task.mk id due (.watching interval)).isArmed = false) := by
      intro t' ht' hne
      rw [tasks_refreshFrom] at ht'
      rcases mem_performed_cases ht' with hmem | ⟨harmed, hpos⟩
      · exact .inl ⟨hmem, hne⟩
      · exact .inr (.inr ⟨harmed, hpos, rfl⟩)
    unfold afterLook at h
    split at h
    · obtain ⟨hmem, hne⟩ := mem_finish_iff.mp h
      exact hrefresh t' hmem hne
    · rcases mem_resume_iff.mp h with ⟨hmem, hne⟩ | rfl
      · exact hrefresh t' hmem hne
      · have hlater := now_lt_after (e.refreshFrom true).2 hsteady
        rw [now_refreshFrom] at hlater
        exact .inr (.inl ⟨rfl, hlater, hsteady⟩)

/-- Waking a task takes no time and does not stop the site. -/
theorem now_stopped_wake (hstopped : e.stopped = false) (hsteady : 0 < t.interval) :
    (e.wake t).now = e.now ∧ (e.wake t).stopped = false := by
  obtain ⟨id, due, work⟩ := t
  cases work with
  | armed generation period =>
    rw [wake_armed hstopped, start_eq e id generation (show 0 < period from hsteady)]
    split <;> exact ⟨rfl, hstopped⟩
  | counting generation period count =>
    rw [wake_counting hstopped]
    obtain ⟨-, htick⟩ | ⟨-, -, -, remaining, -, htick⟩ | ⟨-, -, -, -, htick⟩ | ⟨-, -, htick⟩ :=
      e.tick_cases id generation period count
    · rw [htick]
      exact ⟨rfl, hstopped⟩
    · rw [htick]
      exact ⟨rfl, hstopped⟩
    · rw [htick]
      exact ⟨e.now_expire generation, (e.stopped_expire generation).trans hstopped⟩
    · rw [htick]
      exact ⟨rfl, hstopped⟩
  | watching interval =>
    rw [wake_watching hstopped]
    unfold afterLook
    split <;> exact ⟨e.now_refreshFrom true, (e.stopped_refreshFrom true).trans hstopped⟩

/-! ## What holds throughout -/

/-- A site that has not been told to stop, as a runtime sees it, all of whose tasks wait for some
time. -/
structure Sound (e : Engine) : Prop where
  shown : ∃ r, e.Shows r
  steady : ∀ t ∈ e.tasks, 0 < t.interval
  running : e.stopped = false

namespace Sound

/-- A site that shows what has come of a runtime is sound if its tasks wait for some time. -/
theorem of_follows {r : Runtime} (h : e.Follows r) (hsteady : ∀ t ∈ e.tasks, 0 < t.interval)
    (hrunning : e.stopped = false) : e.Sound := by
  obtain ⟨moves, hshows⟩ := h
  exact ⟨⟨_, hshows⟩, hsteady, hrunning⟩

/-- Two tasks of a sound site differ in their numbers and their generations. -/
theorem apart (h : e.Sound) (ht : t ∈ e.tasks) (ht' : t' ∈ e.tasks) (hne : t ≠ t') :
    t.Apart t' := by
  obtain ⟨r, hr⟩ := h.shown
  exact hr.tasks.apart.forall ht ht' hne

/-- After an operation all tasks wait for some time. -/
theorem steady_performed (h : e.Sound) (inside : Bool) (a : Act) :
    ∀ t ∈ (e.performed inside a).tasks, 0 < t.interval := by
  intro t ht
  rcases mem_performed_cases ht with ht | ⟨-, hpos⟩
  · exact h.steady t ht
  · exact hpos

/-- An operation leaves a site sound. -/
theorem performed (h : e.Sound) (inside : Bool) (a : Act) : (e.performed inside a).Sound := by
  obtain ⟨r, hr⟩ := h.shown
  exact ⟨⟨_, hr.performed inside a⟩, h.steady_performed inside a,
    (e.stopped_performed inside a).trans h.running⟩

/-- After a refresh all tasks wait for some time. -/
theorem steady_refreshFrom (h : e.Sound) (inside : Bool) :
    ∀ t ∈ (e.refreshFrom inside).2.tasks, 0 < t.interval := by
  rw [tasks_refreshFrom]
  exact h.steady_performed inside .refresh

/-- Waking a task leaves a site sound. -/
theorem wake (h : e.Sound) (ht : t ∈ e.tasks) : (e.wake t).Sound := by
  obtain ⟨r, hr⟩ := h.shown
  have hsteady := h.steady t ht
  refine of_follows (hr.follows_wake ht) ?_ (now_stopped_wake h.running hsteady).2
  intro t' ht'
  obtain ⟨hmem, -⟩ | ⟨-, -, hpos⟩ | ⟨-, hpos, -⟩ :=
    mem_wake_cases h.running hsteady ht'
  · exact h.steady t' hmem
  · exact hpos
  · exact hpos

/-- Telling a watcher of a change leaves a site sound. -/
theorem look (h : e.Sound) (t : Task) : (e.lookNow t).Sound := by
  obtain ⟨r, hr⟩ := h.shown
  have hfollows := hr.follows_lookNow t
  obtain hlook | ⟨interval, -, hlook⟩ | ⟨interval, f, -, hlook⟩ := e.lookNow_cases t
  · rw [hlook]
    exact h
  · rw [hlook] at hfollows ⊢
    exact of_follows hfollows (h.steady_refreshFrom true)
      ((e.stopped_refreshFrom true).trans h.running)
  · rw [hlook] at hfollows ⊢
    refine of_follows hfollows ?_ ((e.stopped_refreshFrom true).trans h.running)
    intro t' ht'
    exact h.steady_refreshFrom true t' (mem_finish_iff.mp ht').1

/-- Time that passes leaves a site sound. -/
theorem pass (h : e.Sound) (now : Nat) : Sound { e with now := now } := by
  obtain ⟨r, hr⟩ := h.shown
  exact ⟨⟨r, hr.withNow now⟩, h.steady, h.running⟩

/-- What others do leaves a site sound. -/
theorem call (h : e.Sound) (hcall : e.Call e') : e'.Sound := by
  obtain ⟨r, hr⟩ := h.shown
  cases hcall with
  | edit files => exact of_follows (hr.follows.edit files) h.steady h.running
  | refresh =>
    exact of_follows hr.follows.refresh (h.steady_refreshFrom _)
      ((e.stopped_refreshFrom _).trans h.running)
  | update parent key value =>
    unfold Engine.update
    rw [updateFrom_eq]
    exact h.performed _ _
  | ask request => exact ⟨⟨r, hr.withMetrics _⟩, h.steady, h.running⟩
  | watch hpos =>
    refine of_follows (hr.follows.watch _) ?_ h.running
    intro t ht
    rcases List.mem_append.mp ht with ht | ht
    · exact h.steady t ht
    · rw [List.mem_singleton.mp ht]
      exact hpos

/-- What a site does by itself leaves it sound. -/
theorem own (h : e.Sound) (hown : e.Own e') : e'.Sound := by
  cases hown with
  | wake ht hready => exact h.wake ht
  | look ht => exact h.look _
  | pass hle hdue => exact h.pass _

/-- Every step leaves a site sound. -/
theorem happens (h : e.Sound) (hstep : e.Happens e') : e'.Sound := by
  rcases hstep with hcall | hown
  · exact h.call hcall
  · exact h.own hown

/-- Every run leaves a site sound. -/
theorem runs (h : e.Sound) (hruns : e.Runs e') : e'.Sound := by
  induction hruns with
  | refl => exact h
  | tail _ hstep ih => exact ih.happens hstep

end Sound

/-! ## The beginning -/

/-- A site that has not read its files yet. -/
def unread (layout : Config.Layout) (settings : Config.Settings) (files : Tree)
    (metrics : Metrics) : Engine :=
  { files := files
    store := .initial layout settings
    metrics := metrics
    concurrent := true
    stopped := false
    now := 0
    tasks := []
    ended := []
    nextId := 0 }

/-- A site begins with its first look at the files, which succeeds. -/
theorem exists_unread_of_openAt {files : Tree} {metrics : Metrics} {root : Path}
    {settings : Config.Settings} (h : (openAt files metrics root settings true).1 = .ok e) :
    ∃ files metrics, e = (unread (.ofRoot root) settings files metrics).performed true .refresh ∧
      ∃ outcome, (Store.initial (.ofRoot root) settings).reload files = .ok (outcome, e.store) := by
  unfold openAt at h
  dsimp only at h
  split at h
  · cases h
  · next outcome s hresult =>
    obtain rfl := Except.ok.inj h
    have hreload := Store.reload_of_openAt hresult
    refine ⟨(Store.openAt files root settings).files,
      countOpening metrics (Store.openAt files root settings), ?_, outcome, ?_⟩
    · unfold performed Scene.act Scene.reload? unread scene
      simp only [hreload]
      rfl
    · rw [store_noteReload]
      exact hreload

/-- The site of the given files, whose countdowns tick once a second. -/
def ofFiles (files : Tree) : Except FileFailure Engine :=
  (openAt files .none "w".toList ⟨1, 1000, false, false⟩ true).1

/-- A site that has read nothing is sound. -/
theorem sound_unread (layout : Config.Layout) (settings : Config.Settings) (files : Tree)
    (metrics : Metrics) : (unread layout settings files metrics).Sound where
  shown := ⟨.initial layout settings files, rfl, Runtime.ordered_initial _ _ _, .nil⟩
  steady := fun _ ht => by cases ht
  running := rfl

/-- A site is sound when it is opened. -/
theorem sound_of_openAt {files : Tree} {metrics : Metrics} {root : Path}
    {settings : Config.Settings} (h : (openAt files metrics root settings true).1 = .ok e) :
    e.Sound := by
  obtain ⟨files, metrics, rfl, -⟩ := exists_unread_of_openAt h
  exact (sound_unread _ _ _ _).performed true .refresh

/-! ## The site of the store -/

/-- A step is a run of the store. -/
theorem leads_happens (hstep : e.Happens e') : e.scene.Leads e'.scene := by
  rcases hstep with hcall | hown
  · cases hcall with
    | edit files => exact .act e.scene (.edit files)
    | refresh => exact e.leads_refreshFrom _
    | update parent key value =>
      rw [scene_update]
      exact .act e.scene _
    | ask request => exact .refl e.scene
    | watch h => exact .refl e.scene
  · cases hown with
    | wake ht hready => exact e.leads_wake _
    | look ht => exact e.leads_lookNow _
    | pass hle hdue => exact .refl e.scene

/-- A step leaves where the files of a site are, and its settings. -/
theorem site_happens (hstep : e.Happens e') :
    e'.store.layout = e.store.layout ∧ e'.store.settings = e.store.settings := by
  obtain ⟨acts, hacts⟩ := leads_happens hstep
  have hsite := e.scene.site_run acts
  rw [hacts] at hsite
  exact hsite

/-! ## Where a site is called from -/

/-- A tick does not change where the site is called from. -/
theorem concurrent_tick (e : Engine) (id generation period : Nat) (count : Countdown) :
    (e.tick id generation period count).concurrent = e.concurrent := by
  unfold tick
  split
  · rfl
  · split
    · rfl
    · exact e.concurrent_expire generation
    · rfl
    · rfl

/-- Ticks without waiting do not change where the site is called from. -/
theorem concurrent_tickAtOnce (e : Engine) (id n : Nat) :
    (e.tickAtOnce id n).concurrent = e.concurrent := by
  induction n generalizing e with
  | zero => rfl
  | succ n ih =>
    unfold tickAtOnce
    split
    · exact (ih _).trans (e.concurrent_tick ..)
    · rfl

/-- A countdown that starts does not change where the site is called from. -/
theorem concurrent_start (e : Engine) (id generation period : Nat) :
    (e.start id generation period).concurrent = e.concurrent := by
  unfold start
  dsimp only
  split
  · rfl
  · split
    · exact concurrent_tickAtOnce ..
    · rfl

/-- Waking a task does not change where the site is called from. -/
theorem concurrent_wake (e : Engine) (t : Task) : (e.wake t).concurrent = e.concurrent := by
  have hread := e.concurrent_refreshFrom true
  unfold wake
  split
  · rfl
  · split
    · exact e.concurrent_start ..
    · exact e.concurrent_tick ..
    · split <;> (next hresult => rw [hresult] at hread; exact hread)

/-- Telling a watcher of a change does not change where the site is called from. -/
theorem concurrent_lookNow (e : Engine) (t : Task) : (e.lookNow t).concurrent = e.concurrent := by
  have hread := e.concurrent_refreshFrom true
  unfold lookNow
  split
  · split <;> (next hresult => rw [hresult] at hread; exact hread)
  · rfl

/-- A step does not change where the site is called from. -/
theorem concurrent_happens (hstep : e.Happens e') : e'.concurrent = e.concurrent := by
  rcases hstep with hcall | hown
  · cases hcall with
    | edit files => rfl
    | refresh => exact e.concurrent_refreshFrom _
    | update parent key value =>
      unfold Engine.update
      rw [updateFrom_eq]
      exact e.concurrent_performed _ _
    | ask request => rfl
    | watch h => rfl
  · cases hown with
    | wake ht hready => exact e.concurrent_wake _
    | look ht => exact e.concurrent_lookNow _
    | pass hle hdue => rfl

/-- So a site that has been opened inside a runtime is called from there throughout a run. -/
theorem concurrent_runs {files : Tree} {metrics : Metrics} {root : Path}
    {settings : Config.Settings} (h : (openAt files metrics root settings true).1 = .ok e)
    (hruns : e.Runs e') : e'.concurrent = true := by
  induction hruns with
  | refl =>
    obtain ⟨files, metrics, rfl, -⟩ := exists_unread_of_openAt h
    exact concurrent_performed _ _ _
  | tail _ hstep ih => exact (concurrent_happens hstep).trans ih

/-! ## What a site keeps -/

/-- A site keeps the places of its files and its settings. -/
theorem site_runs {files : Tree} {metrics : Metrics} {root : Path} {settings : Config.Settings}
    (h : (openAt files metrics root settings true).1 = .ok e) (hruns : e.Runs e') :
    e'.store.layout = .ofRoot root ∧ e'.store.settings = settings := by
  induction hruns with
  | refl =>
    obtain ⟨files, metrics, -, outcome, hreload⟩ := exists_unread_of_openAt h
    exact Store.site_reload hreload
  | tail _ hstep ih =>
    obtain ⟨hlayout, hsettings⟩ := site_happens hstep
    exact ⟨hlayout.trans ih.1, hsettings.trans ih.2⟩

end Engine

end SiteGate
