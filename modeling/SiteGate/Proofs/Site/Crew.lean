import SiteGate.Proofs.Store.Countdowns
import SiteGate.Proofs.Store.Provenance

/-!
# Tasks that are told to stop

Countdowns and watchers run beside a store. Most of the time a task waits, for its own time to come
and for the signal to stop, whichever is first; if both are there it may take either. The signal has
two halves. A flag is set, and after that a message is sent to every task that has been started by
then. A task that begins to wait looks at the flag; one that waits already has looked, and depends on
the message (`Worker.hears`). A task that is started later gets no message and finds the flag.

So once the message has been sent no task waits any more without hearing it (`alert_run`). When no
task is left that is going to run, all have ended. What is started after that ends when it is polled
for the first time, without having done anything: whatever happens to the store and its files is what
others do (`nothing_acts_after_stop`).

This is so because such a task finds nothing but the signal when it begins to wait. There are two
kinds for which that need not be so: a watcher that listens to changes of the files, which may find one
that has come in the meantime, and a countdown without any time between its ticks, which always finds
its next tick (`not_nothing_acts_after_stop`). A countdown that a reload arms is not of the second
kind.
-/

set_option autoImplicit false

namespace SiteGate

open Banner (Countdown)
open Store (Act Runtime Scene Stage Timer)

/-! ## What a countdown does next -/

namespace Store

/-- The next stage of a countdown, and what it does to the store on the way there. -/
def Timer.next (s : Store) (t : Timer) : Stage × Option Act :=
  match t.stage with
  | .armed =>
    let count := Countdown.ofBanner s.snapshot.banner
    (if count.phase = .active then .waiting count else .ended, none)
  | .waiting count => (if s.generation = t.generation then .confirmed count else .ended, none)
  | .confirmed count =>
    match count.tick s.snapshot.banner.on with
    | (.running remaining, next) => (.publishing remaining next, none)
    | (.expired, _) => (.expiring, none)
    | (.cancelled, _) | (.idle, _) => (.ended, none)
  | .publishing remaining count => (.waiting count, some (.tick t.generation remaining))
  | .expiring => (.ended, some (.expire t.generation))
  | .ended => (.ended, none)

/-- A countdown of a runtime takes its next step. -/
theorem Runtime.advance_eq_next {r : Runtime} {i : Nat} {t : Timer} (h : r.timers[i]? = some t) :
    r.advance i t =
      match (t.next r.scene.store).2 with
      | none => r.become i t (t.next r.scene.store).1
      | some a => (r.become i t (t.next r.scene.store).1).perform a := by
  obtain ⟨generation, stage⟩ := t
  cases stage with
  | armed => rfl
  | waiting count => rfl
  | confirmed count =>
    unfold advance Timer.next
    dsimp only
    cases count.tick r.scene.store.snapshot.banner.on with
    | mk outcome next => cases outcome <;> rfl
  | publishing remaining count => rfl
  | expiring => rfl
  | ended => exact (become_self h).symm

end Store

/-! ## Workers -/

namespace Crew

/-- Where a watcher stands. -/
inductive Watch where
  | starting
  /-- It waits for its interval, a change, or the signal. -/
  | waiting
  /-- It has been woken, and is about to read the files. -/
  | looking
  | ended
deriving DecidableEq

/-- What a task is and where it stands. The ticks of an `instant` countdown take no time; a watcher that
`listens` is woken by changes of the files, too. -/
inductive Post where
  | countdown (timer : Timer) (instant : Bool)
  | watcher (stage : Watch) (listens : Bool)
deriving DecidableEq

namespace Post

/-- Whether the task has ended. -/
def isOver : Post → Bool
  | .countdown ⟨_, .ended⟩ _ => true
  | .watcher .ended _ => true
  | _ => false

/-- Whether it waits for its time and for the signal. -/
def waits : Post → Bool
  | .countdown ⟨_, .waiting _⟩ _ => true
  | .watcher .waiting _ => true
  | _ => false

/-- Whether its time has come as soon as it begins to wait. -/
def isInstant : Post → Bool
  | .countdown _ instant => instant
  | .watcher _ _ => false

/-- Whether its interval can be over although it does not wait. -/
def looks : Post → Bool
  | .watcher .looking _ => true
  | _ => false

/-- Whether changes of the files reach it. -/
def listens : Post → Bool
  | .watcher .waiting listens => listens
  | .watcher .looking listens => listens
  | _ => false

/-- Where it stands next if it is not told to stop, and what it does on the way there. -/
def next (w : Scene) : Post → Post × Option Act
  | .countdown timer instant => (.countdown { timer with stage := (timer.next w.store).1 } instant,
      (timer.next w.store).2)
  | .watcher .starting listens => (.watcher .waiting listens, none)
  | .watcher .waiting listens => (.watcher .looking listens, none)
  | .watcher .looking listens =>
    (.watcher (if (w.store.reload w.files).isOk then .waiting else .ended) listens, some .refresh)
  | .watcher .ended listens => (.watcher .ended listens, none)

/-- Where it stands once it has been told to stop. -/
def stop : Post → Post
  | .countdown timer instant => .countdown { timer with stage := .ended } instant
  | .watcher _ listens => .watcher .ended listens

end Post

/-- How far the signal to stop has got. -/
inductive Alarm where
  | silent
  | raised
  | sent
deriving DecidableEq

/-- A task, with what the scheduler and the signal have to do with it. -/
structure Worker where
  post : Post
  /-- Whether it runs or is going to be polled. -/
  scheduled : Bool
  /-- Whether what it waits for beside the signal is there. -/
  due : Bool
  /-- Whether it has not looked at the flag since it began to wait. -/
  fresh : Bool
  /-- Whether the message has reached it. -/
  told : Bool
deriving DecidableEq

namespace Worker

/-- A task that has just been started, and is going to be polled. -/
def new (post : Post) : Worker := ⟨post, true, false, true, false⟩

/-- The task at another post. When it waits there it looks at the flag first. -/
def goTo (w : Worker) (post : Post) : Worker :=
  { w with post := post, scheduled := !post.isOver, fresh := true }

/-- Whether a task that waits finds that it has to stop. -/
def hears (w : Worker) (alarm : Alarm) : Bool := w.told || (w.fresh && alarm ≠ .silent)

/-- The message reaches the task and wakes it, unless it has ended. -/
def tell (w : Worker) : Worker :=
  if w.post.isOver then w else { w with told := true, scheduled := true }

/-- The time of the task comes and wakes it. A task that has not begun to wait has no time yet, but for
a watcher, whose interval goes on while it reads the files. -/
def elapse (w : Worker) : Worker :=
  if (w.post.waits && !w.fresh) || w.post.looks then { w with due := true, scheduled := true }
  else w

/-- A change of the files wakes a task that listens, or is kept until it waits again. -/
def nudge (w : Worker) : Worker :=
  if w.post.listens then { w with due := true, scheduled := true } else w

end Worker

/-- What others ask of a store, and do to its files. -/
inductive Call where
  | edit (files : Tree)
  | refresh
  | update (parent key value : Text)

/-- The act that it is for the store. -/
def Call.act : Call → Act
  | .edit files => .edit files
  | .refresh => .refresh
  | .update parent key value => .update parent key value

/-- What can happen. -/
inductive Move where
  /-- Somebody calls, `inside` a runtime or outside of one. -/
  | call (call : Call) (inside : Bool)
  /-- Somebody starts a watcher. -/
  | hire (listens : Bool)
  /-- Somebody starts a countdown by hand. -/
  | start (generation : Nat) (instant : Bool)
  /-- The first half of the signal: the flag is set. -/
  | raise
  /-- The second half: the message is sent. -/
  | send
  | elapse (i : Nat)
  | nudge (i : Nat)
  /-- A worker takes a step. Where it is due and hears the signal as well, it goes on if being due comes
  `first`. -/
  | work (i : Nat) (first : Bool)

/-- Whether it starts a task that may find something beside the signal when it begins to wait. -/
def Move.isEager : Move → Bool
  | .hire listens => listens
  | .start _ instant => instant
  | _ => false

end Crew

/-- A store with its files, the signal to stop, and all tasks that have been started, in the order in
which they were. -/
structure Crew where
  scene : Scene
  alarm : Crew.Alarm
  workers : List Crew.Worker

namespace Crew

/-- Nothing has been read, and no task has been started. -/
def initial (layout : Config.Layout) (settings : Config.Settings) (files : Tree) : Crew :=
  ⟨⟨Store.initial layout settings, files⟩, .silent, []⟩

/-- The crew with another worker in the place of one. -/
def put (c : Crew) (i : Nat) (w : Worker) : Crew := { c with workers := c.workers.set i w }

/-- The crew with a new worker. -/
def add (c : Crew) (post : Post) : Crew := { c with workers := c.workers ++ [.new post] }

/-- Something is done to the store or its files. If a timed banner is read `inside` a runtime, a
countdown is armed; the ticks of a store's own countdowns take some time. -/
def perform (c : Crew) (inside : Bool) (a : Act) : Crew :=
  let c' := { c with scene := c.scene.act a }
  match c.scene.reload? a with
  | some (.reloaded true) =>
    if inside then c'.add (.countdown ⟨c'.scene.store.generation, .armed⟩ false) else c'
  | _ => c'

/-- A worker goes to its next post, and does what belongs to that; a task runs inside a runtime. -/
def goOn (c : Crew) (i : Nat) (w : Worker) : Crew :=
  match (w.post.next c.scene).2 with
  | none => c.put i (w.goTo (w.post.next c.scene).1)
  | some a => (c.put i (w.goTo (w.post.next c.scene).1)).perform true a

/-- The next step of a worker. One that waits goes on if it is due, and ends if it hears the signal;
if both are so it does what comes `first`, and if neither is so it sleeps. -/
def work (c : Crew) (i : Nat) (w : Worker) (first : Bool) : Crew :=
  if w.post.waits then
    if (w.due || w.post.isInstant) && (first || !w.hears c.alarm) then
      c.goOn i { w with due := false }
    else if w.hears c.alarm then c.put i (w.goTo w.post.stop)
    else c.put i { w with scheduled := false, fresh := false }
  else c.goOn i w

/-- The crew with one of its workers changed, if it is there. -/
def change (c : Crew) (i : Nat) (f : Worker → Worker) : Crew :=
  match c.workers[i]? with
  | some w => c.put i (f w)
  | none => c

/-- What comes of a move. -/
def step (c : Crew) : Move → Crew
  | .call call inside => c.perform inside call.act
  | .hire listens => c.add (.watcher .starting listens)
  | .start generation instant => c.add (.countdown ⟨generation, .armed⟩ instant)
  | .raise => if c.alarm = .silent then { c with alarm := .raised } else c
  | .send =>
    if c.alarm = .raised then { c with alarm := .sent, workers := c.workers.map Worker.tell } else c
  | .elapse i => c.change i Worker.elapse
  | .nudge i => c.change i Worker.nudge
  | .work i first =>
    match c.workers[i]? with
    | some w => if w.scheduled then c.work i w first else c
    | none => c

/-- What comes of moves one after the other. -/
def run (c : Crew) (moves : List Move) : Crew := moves.foldl step c

/-- What others do in the course of moves. -/
def acts (moves : List Move) : List Act :=
  moves.filterMap fun
    | .call call _ => some call.act
    | _ => none

variable {c : Crew} {i : Nat} {w : Worker} {P : Nat → Worker → Prop}

/-! ## What holds of every worker -/

/-- After a change of a worker there are that one and the others. -/
theorem get_put_cases {j : Nat} {v : Worker} (h : (c.put i w).workers[j]? = some v) :
    (i = j ∧ w = v) ∨ (i ≠ j ∧ c.workers[j]? = some v) := by
  unfold put at h
  by_cases hij : i = j
  · subst hij
    rw [List.getElem?_set_self'] at h
    obtain ⟨-, -, rfl⟩ := Option.map_eq_some_iff.mp h
    exact .inl ⟨rfl, rfl⟩
  · rw [List.getElem?_set_ne hij] at h
    exact .inr ⟨hij, h⟩

/-- What holds of all workers holds after a change of one of which it holds. -/
theorem forall_put (h : ∀ j w, c.workers[j]? = some w → P j w) {w' : Worker} (hw : P i w') :
    ∀ j w, (c.put i w').workers[j]? = some w → P j w := by
  intro j w hj
  rcases get_put_cases hj with ⟨rfl, rfl⟩ | ⟨-, hj⟩
  · exact hw
  · exact h j w hj

/-- What holds of all workers holds with a new one of which it holds. -/
theorem forall_add (h : ∀ j w, c.workers[j]? = some w → P j w) {post : Post}
    (hw : P c.workers.length (.new post)) : ∀ j w, (c.add post).workers[j]? = some w → P j w := by
  intro j w hj
  unfold add at hj
  rcases Nat.lt_or_ge j c.workers.length with hlt | hge
  · rw [List.getElem?_append_left hlt] at hj
    exact h j w hj
  · rw [List.getElem?_append_right hge] at hj
    obtain ⟨hat, rfl⟩ := List.getElem?_eq_some_iff.mp hj
    obtain rfl : j = c.workers.length := by
      simp only [List.length_singleton] at hat
      omega
    simpa using hw

/-- What holds of all workers holds after an act, if it holds of countdowns that are armed. -/
theorem forall_perform (h : ∀ j w, c.workers[j]? = some w → P j w) (inside : Bool) (a : Act)
    (hw : ∀ generation, P c.workers.length (.new (.countdown ⟨generation, .armed⟩ false))) :
    ∀ j w, (c.perform inside a).workers[j]? = some w → P j w := by
  unfold perform
  dsimp only
  split
  · split
    · exact forall_add (c := { c with scene := c.scene.act a }) h (hw _)
    · exact h
  · exact h

/-- What holds of all workers holds after a change of one that keeps it. -/
theorem forall_change (h : ∀ j w, c.workers[j]? = some w → P j w) {f : Worker → Worker}
    (hf : ∀ w, P i w → P i (f w)) : ∀ j w, (c.change i f).workers[j]? = some w → P j w := by
  unfold change
  split
  · next w hi => exact forall_put h (hf w (h i w hi))
  · exact h

/-- An act says nothing about the signal. -/
@[simp] theorem alarm_perform (c : Crew) (inside : Bool) (a : Act) :
    (c.perform inside a).alarm = c.alarm := by
  unfold perform
  dsimp only
  split
  · split <;> rfl
  · rfl

/-- Arming a countdown leaves the store and its files. -/
@[simp] theorem scene_perform (c : Crew) (inside : Bool) (a : Act) :
    (c.perform inside a).scene = c.scene.act a := by
  unfold perform
  dsimp only
  split
  · split <;> rfl
  · rfl

/-- Changing a worker leaves their number. -/
@[simp] theorem length_put (c : Crew) (i : Nat) (w : Worker) :
    (c.put i w).workers.length = c.workers.length := by
  simp [put]

/-- A worker that goes on says nothing about the signal. -/
theorem alarm_goOn (c : Crew) (i : Nat) (w : Worker) : (c.goOn i w).alarm = c.alarm := by
  unfold goOn
  split
  · rfl
  · exact alarm_perform _ _ _

/-- What holds of all workers holds after a step of one, if it holds of its next post and of countdowns
that are armed. -/
theorem forall_goOn (h : ∀ j w, c.workers[j]? = some w → P j w) {w' : Worker}
    (hw : P i (w'.goTo (w'.post.next c.scene).1))
    (hnew : ∀ generation, P c.workers.length (.new (.countdown ⟨generation, .armed⟩ false))) :
    ∀ j w, (c.goOn i w').workers[j]? = some w → P j w := by
  unfold goOn
  split
  · exact forall_put h hw
  · refine forall_perform (forall_put h hw) _ _ ?_
    rw [length_put]
    exact hnew

/-! ## After the message -/

/-- A worker that has not ended runs, and if it waits it hears the signal. -/
def Worker.Awake (w : Worker) : Prop :=
  w.post.isOver = false → w.scheduled = true ∧ (w.post.waits = true → w.told = true ∨ w.fresh = true)

/-- A worker that goes to another post is awake. -/
theorem awake_goTo (w : Worker) (post : Post) : (w.goTo post).Awake := by
  intro hover
  have hpost : post.isOver = false := hover
  exact ⟨by simp [Worker.goTo, hpost], fun _ => .inr rfl⟩

/-- A worker that has just been started is awake. -/
theorem awake_new (post : Post) : (Worker.new post).Awake := fun _ => ⟨rfl, fun _ => .inr rfl⟩

/-- A worker that the message has reached is awake. -/
theorem awake_tell (w : Worker) : w.tell.Awake := by
  unfold Worker.tell
  split
  · next hover =>
    intro hnot
    rw [hover] at hnot
    cases hnot
  · exact fun _ => ⟨rfl, fun _ => .inl rfl⟩

/-- A worker whose time comes stays awake. -/
theorem Worker.Awake.elapse (h : w.Awake) : w.elapse.Awake := by
  unfold Worker.elapse
  split
  · exact fun hover => ⟨rfl, (h hover).2⟩
  · exact h

/-- A worker that is told of a change stays awake. -/
theorem Worker.Awake.nudge (h : w.Awake) : w.nudge.Awake := by
  unfold Worker.nudge
  split
  · exact fun hover => ⟨rfl, (h hover).2⟩
  · exact h

/-- A task that waits has not ended. -/
theorem Post.isOver_of_waits {post : Post} (h : post.waits = true) : post.isOver = false := by
  cases post with
  | countdown timer instant =>
    obtain ⟨generation, stage⟩ := timer
    cases stage <;> first | rfl | cases h
  | watcher stage listens => cases stage <;> first | rfl | cases h

/-- Once the message has been sent, a worker that is awake and waits hears it. -/
theorem Worker.Awake.hears (h : w.Awake) (hwaits : w.post.waits = true) :
    w.hears .sent = true := by
  obtain ⟨-, hheard⟩ := h (Post.isOver_of_waits hwaits)
  rcases hheard hwaits with htold | hfresh
  · simp [Worker.hears, htold]
  · simp [Worker.hears, hfresh]

/-- Once the message has been sent, every worker that has not ended is going to run. -/
def Alert (c : Crew) : Prop :=
  c.alarm = .sent → ∀ (i : Nat) (w : Worker), c.workers[i]? = some w → w.Awake

/-- Going on leaves every worker awake. -/
theorem Alert.goOn (h : c.Alert) (i : Nat) (w : Worker) : (c.goOn i w).Alert := by
  intro hsent
  rw [alarm_goOn] at hsent
  exact forall_goOn (P := fun _ => Worker.Awake) (i := i) (h hsent) (awake_goTo w _)
    fun _ => awake_new _

/-- Every step of a worker leaves all of them awake. -/
theorem Alert.work (h : c.Alert) (hi : c.workers[i]? = some w) (first : Bool) :
    (c.work i w first).Alert := by
  unfold Crew.work
  split
  · next hwaits =>
    split
    · exact h.goOn i _
    · split
      · exact fun hsent => forall_put (P := fun _ => Worker.Awake) (h hsent) (awake_goTo w _)
      · -- It cannot sleep, for it hears the message.
        next hdeaf =>
        intro hsent
        have hsame : c.alarm = .sent := hsent
        rw [hsame] at hdeaf
        exact absurd ((h hsame i w hi).hears hwaits) hdeaf
  · exact h.goOn i w

/-- Every move leaves every worker awake. -/
theorem Alert.step (h : c.Alert) (m : Move) : (c.step m).Alert := by
  cases m with
  | call call inside =>
    intro hsent
    have hsame : c.alarm = .sent := (alarm_perform c _ _).symm.trans hsent
    exact forall_perform (P := fun _ => Worker.Awake) (h hsame) _ _ fun _ => awake_new _
  | hire listens => exact fun hsent => forall_add (P := fun _ => Worker.Awake) (h hsent) (awake_new _)
  | start generation instant =>
    exact fun hsent => forall_add (P := fun _ => Worker.Awake) (h hsent) (awake_new _)
  | raise =>
    unfold Crew.step
    dsimp only
    split
    · exact fun hsent => by cases hsent
    · exact h
  | send =>
    unfold Crew.step
    dsimp only
    split
    · intro _ i w hi
      rw [List.getElem?_map] at hi
      obtain ⟨w', -, rfl⟩ := Option.map_eq_some_iff.mp hi
      exact awake_tell w'
    · exact h
  | elapse i =>
    intro hsent
    have hsame : c.alarm = .sent := by
      unfold Crew.step change at hsent
      dsimp only at hsent
      split at hsent <;> exact hsent
    exact forall_change (P := fun _ => Worker.Awake) (h hsame) fun _ hw => hw.elapse
  | nudge i =>
    intro hsent
    have hsame : c.alarm = .sent := by
      unfold Crew.step change at hsent
      dsimp only at hsent
      split at hsent <;> exact hsent
    exact forall_change (P := fun _ => Worker.Awake) (h hsame) fun _ hw => hw.nudge
  | work i first =>
    unfold Crew.step
    dsimp only
    split
    · next w hi =>
      split
      · exact h.work hi first
      · exact h
    · exact h

/-- So it is after every run. -/
theorem alert_run (layout : Config.Layout) (settings : Config.Settings) (files : Tree)
    (moves : List Move) : ((initial layout settings files).run moves).Alert := by
  have hrun : ∀ (moves : List Move) (c : Crew), c.Alert → (c.run moves).Alert := by
    intro moves
    induction moves with
    | nil => exact fun _ h => h
    | cons m rest ih => exact fun c h => ih _ (h.step m)
  exact hrun moves _ fun hsent => by cases hsent

/-! ## After all have ended -/

/-- A countdown that has not been woken yet and whose ticks take time, or a watcher that has not and
does not listen. -/
def Post.isYoung : Post → Bool
  | .countdown ⟨_, .armed⟩ instant => !instant
  | .countdown ⟨_, .waiting _⟩ instant => !instant
  | .watcher .starting listens => !listens
  | .watcher .waiting listens => !listens
  | _ => false

/-- A worker that has ended, or that runs and has nothing to do before it looks at the flag. -/
def Worker.Idle (w : Worker) : Prop :=
  w.post.isOver = true ∨
    (w.post.isYoung = true ∧ w.scheduled = true ∧ w.due = false ∧ w.fresh = true)

/-- The message has been sent, and whoever was there then has ended. -/
structure Still (n : Nat) (c : Crew) : Prop where
  sent : c.alarm = .sent
  length : n ≤ c.workers.length
  idle : ∀ i w, c.workers[i]? = some w → w.Idle ∧ (i < n → w.post.isOver = true)

/-- A task that has been told to stop has ended. -/
theorem isOver_stop (post : Post) : post.stop.isOver = true := by
  cases post <;> rfl

/-- A countdown that has just been armed is idle. -/
theorem idle_new_armed (generation : Nat) :
    (Worker.new (.countdown ⟨generation, .armed⟩ false)).Idle :=
  .inr ⟨rfl, rfl, rfl, rfl⟩

/-- A task that has ended waits for nothing and does nothing. -/
theorem Post.of_isOver {post : Post} (h : post.isOver = true) :
    post.waits = false ∧ post.looks = false ∧ post.listens = false ∧
      ∀ w : Scene, post.next w = (post, none) := by
  cases post with
  | countdown timer instant =>
    obtain ⟨generation, stage⟩ := timer
    cases stage <;> first | exact ⟨rfl, rfl, rfl, fun _ => rfl⟩ | cases h
  | watcher stage listens => cases stage <;> first | exact ⟨rfl, rfl, rfl, fun _ => rfl⟩ | cases h

/-- A young task finds nothing but the signal when it begins to wait. -/
theorem Post.of_isYoung {post : Post} (h : post.isYoung = true) :
    post.looks = false ∧ post.listens = false ∧ post.isInstant = false := by
  cases post with
  | countdown timer instant =>
    obtain ⟨generation, stage⟩ := timer
    refine ⟨rfl, rfl, ?_⟩
    cases stage <;> simp_all [Post.isYoung, Post.isInstant]
  | watcher stage listens =>
    refine ⟨?_, ?_, rfl⟩ <;> cases stage <;> simp_all [Post.isYoung, Post.looks, Post.listens]

/-- What is polled for the first time begins to wait, or ends, and does nothing. -/
theorem Post.next_of_isYoung (w : Scene) {post : Post} (h : post.isYoung = true)
    (hwaits : post.waits = false) :
    (post.next w).2 = none ∧ ((post.next w).1.isOver = true ∨
      ((post.next w).1.isYoung = true ∧ (post.next w).1.waits = true)) := by
  cases post with
  | countdown timer instant =>
    obtain ⟨generation, stage⟩ := timer
    cases stage with
    | armed =>
      refine ⟨rfl, ?_⟩
      unfold Post.next Timer.next
      dsimp only
      split
      · exact .inr ⟨h, rfl⟩
      · exact .inl rfl
    | waiting count => cases hwaits
    | confirmed count => cases h
    | publishing remaining count => cases h
    | expiring => cases h
    | ended => cases h
  | watcher stage listens =>
    cases stage with
    | starting => exact ⟨rfl, .inr ⟨h, rfl⟩⟩
    | waiting => cases hwaits
    | looking => cases h
    | ended => cases h

/-- What an idle worker waits for does not come before it has looked at the flag. -/
theorem Worker.Idle.unmoved (h : w.Idle) : w.elapse = w ∧ w.nudge = w := by
  unfold Worker.elapse Worker.nudge
  rcases h with hover | ⟨hyoung, -, -, hfresh⟩
  · obtain ⟨hwaits, hlooks, hlistens, -⟩ := Post.of_isOver hover
    simp [hwaits, hlooks, hlistens]
  · obtain ⟨hlooks, hlistens, -⟩ := Post.of_isYoung hyoung
    simp [hlooks, hlistens, hfresh]

variable {n : Nat}

/-- Putting a worker in its own place changes nothing. -/
theorem put_self (hi : c.workers[i]? = some w) : c.put i w = c := by
  obtain ⟨hlt, hget⟩ := List.getElem?_eq_some_iff.mp hi
  unfold put
  rw [← hget, List.set_getElem_self]

/-- The next step of an idle worker ends it, or takes it to where it looks at the flag; it touches
nothing else. -/
theorem Still.step_work (h : c.Still n) (hi : c.workers[i]? = some w) (first : Bool) :
    ∃ w', c.step (.work i first) = c.put i w' ∧ w'.Idle ∧
      (w'.post.isOver = true ∨
        (w.post.isOver = false ∧ w.post.waits = false ∧ w'.post.waits = true)) := by
  have hstep : c.step (.work i first) = if w.scheduled then c.work i w first else c := by
    simp only [step, hi]
  rw [hstep]
  rcases (h.idle i w hi).1 with hover | ⟨hyoung, hscheduled, hdue, hfresh⟩
  · obtain ⟨hwaits, -, -, hnext⟩ := Post.of_isOver hover
    split
    · refine ⟨w.goTo w.post, ?_, .inl hover, .inl hover⟩
      simp [work, hwaits, goOn, hnext]
    · exact ⟨w, (put_self hi).symm, .inl hover, .inl hover⟩
  · rw [if_pos hscheduled]
    by_cases hwaits : w.post.waits = true
    · refine ⟨w.goTo w.post.stop, ?_, .inl (isOver_stop _), .inl (isOver_stop _)⟩
      have hhears : w.hears c.alarm = true := by
        simp [Worker.hears, hfresh, h.sent]
      simp [work, hwaits, hdue, (Post.of_isYoung hyoung).2.2, hhears]
    · have hnot := Bool.eq_false_iff.mpr hwaits
      obtain ⟨hnone, hnext⟩ := Post.next_of_isYoung c.scene hyoung hnot
      refine ⟨w.goTo (w.post.next c.scene).1, ?_, ?_⟩
      · simp [work, hnot, goOn, hnone]
      · rcases hnext with hover | ⟨hyoung', hwaits'⟩
        · exact ⟨.inl hover, .inl hover⟩
        · have hrunning := Post.isOver_of_waits hwaits'
          refine ⟨.inr ⟨hyoung', ?_, hdue, rfl⟩, ?_⟩
          · simp [Worker.goTo, hrunning]
          · by_cases hover : w.post.isOver = true
            · have hsame := congrArg Prod.fst ((Post.of_isOver hover).2.2.2 c.scene)
              exact .inl (hsame ▸ hover)
            · exact .inr ⟨Bool.eq_false_iff.mpr hover, hnot, hwaits'⟩

/-- All stay idle if one goes from idle to idle. -/
theorem Still.put (h : c.Still n) {w' : Worker} (hidle : w'.Idle)
    (hold : i < n → w'.post.isOver = true) : (c.put i w').Still n where
  sent := h.sent
  length := by
    rw [length_put]
    exact h.length
  idle := forall_put (P := fun i w => w.Idle ∧ (i < n → w.post.isOver = true)) h.idle ⟨hidle, hold⟩

/-- A change that leaves every idle worker as it is leaves the crew as it is. -/
theorem Still.change (h : c.Still n) (i : Nat) {f : Worker → Worker}
    (hf : ∀ w, w.Idle → f w = w) : c.change i f = c := by
  unfold Crew.change
  split
  · next w hi =>
    rw [hf w (h.idle i w hi).1]
    exact put_self hi
  · rfl

/-- All stay idle if an idle one is started. -/
theorem Still.add (h : c.Still n) {post : Post} (hidle : (Worker.new post).Idle) :
    (c.add post).Still n where
  sent := h.sent
  length := by
    have hlength := h.length
    simp only [Crew.add, List.length_append, List.length_singleton]
    omega
  idle := by
    refine forall_add (P := fun i w => w.Idle ∧ (i < n → w.post.isOver = true)) h.idle ⟨hidle, ?_⟩
    intro hlt
    have hlength := h.length
    omega

/-- All stay idle if something is done to the store. -/
theorem Still.perform (h : c.Still n) (inside : Bool) (a : Act) : (c.perform inside a).Still n := by
  have hscene : Still n { c with scene := c.scene.act a } := ⟨h.sent, h.length, h.idle⟩
  unfold Crew.perform
  dsimp only
  split
  · split
    · exact hscene.add (idle_new_armed _)
    · exact hscene
  · exact hscene

/-- A move leaves all workers idle, and only others do anything to the store and its files. -/
theorem Still.step (h : c.Still n) {m : Move} (hm : m.isEager = false) :
    (c.step m).Still n ∧ (c.step m).scene = c.scene.run (acts [m]) := by
  cases m with
  | call call inside => exact ⟨h.perform inside call.act, scene_perform c inside call.act⟩
  | hire listens =>
    obtain rfl : listens = false := hm
    exact ⟨h.add (.inr ⟨rfl, rfl, rfl, rfl⟩), rfl⟩
  | start generation instant =>
    obtain rfl : instant = false := hm
    exact ⟨h.add (idle_new_armed generation), rfl⟩
  | raise =>
    have hsame : c.step .raise = c := by simp [Crew.step, h.sent]
    rw [hsame]
    exact ⟨h, rfl⟩
  | send =>
    have hsame : c.step .send = c := by simp [Crew.step, h.sent]
    rw [hsame]
    exact ⟨h, rfl⟩
  | elapse i =>
    have hsame : c.step (.elapse i) = c := h.change i fun _ hidle => hidle.unmoved.1
    rw [hsame]
    exact ⟨h, rfl⟩
  | nudge i =>
    have hsame : c.step (.nudge i) = c := h.change i fun _ hidle => hidle.unmoved.2
    rw [hsame]
    exact ⟨h, rfl⟩
  | work i first =>
    cases hi : c.workers[i]? with
    | none =>
      have hsame : c.step (.work i first) = c := by simp only [Crew.step, hi]
      rw [hsame]
      exact ⟨h, rfl⟩
    | some w =>
      obtain ⟨w', hstep, hidle, hover⟩ := h.step_work hi first
      rw [hstep]
      refine ⟨h.put hidle fun hlt => hover.resolve_right ?_, rfl⟩
      rintro ⟨hrunning, -⟩
      rw [(h.idle i w hi).2 hlt] at hrunning
      cases hrunning

/-- So it is with a run. -/
theorem Still.run (h : c.Still n) {moves : List Move} (hmoves : ∀ m ∈ moves, m.isEager = false) :
    (c.run moves).Still n ∧ (c.run moves).scene = c.scene.run (acts moves) := by
  induction moves generalizing c with
  | nil => exact ⟨h, rfl⟩
  | cons m rest ih =>
    obtain ⟨hfirst, hrest⟩ := List.forall_mem_cons.mp hmoves
    obtain ⟨hstill, hscene⟩ := h.step hfirst
    obtain ⟨hstillRest, hsceneRest⟩ := ih hstill hrest
    refine ⟨hstillRest, ?_⟩
    have hacts : acts ([m] ++ rest) = acts [m] ++ acts rest := List.filterMap_append
    rw [List.singleton_append] at hacts
    rw [hacts, Scene.run, List.foldl_append]
    exact hsceneRest.trans (congrArg (Scene.run · (acts rest)) hscene)

/-- Two steps end an idle worker: when it is polled for the first time it begins to wait, and finds
the flag. -/
theorem Still.ends (h : c.Still n) (hi : c.workers[i]? = some w) (first second : Bool) :
    (c.run [.work i first, .work i second]).scene = c.scene ∧
      ∃ w', (c.run [.work i first, .work i second]).workers[i]? = some w' ∧
        w'.post.isOver = true := by
  have hget : ∀ {c : Crew} {w : Worker} (w' : Worker), c.workers[i]? = some w →
      (c.put i w').workers[i]? = some w' := by
    intro c w w' hi
    obtain ⟨hlt, -⟩ := List.getElem?_eq_some_iff.mp hi
    exact List.getElem?_set_self hlt
  obtain ⟨hstill, -⟩ := h.step (m := .work i first) rfl
  obtain ⟨v, hfirst, -, hv⟩ := h.step_work hi first
  rw [hfirst] at hstill
  obtain ⟨u, hsecond, -, hu⟩ := hstill.step_work (hget v hi) second
  have hrun : c.run [.work i first, .work i second] = (c.put i v).put i u := by
    rw [← hsecond, ← hfirst]
    rfl
  rw [hrun]
  refine ⟨rfl, u, hget u (hget v hi), hu.resolve_right ?_⟩
  rintro ⟨hrunning, hnot, -⟩
  rcases hv with hover | ⟨-, -, hwaits⟩
  · rw [hover] at hrunning
    cases hrunning
  · rw [hnot] at hwaits
    cases hwaits

/-- However a store is used, its files are changed and its tasks take their steps: once the message to
stop has been sent and no task is left that is going to run, all have ended. After that, as long as
nobody starts a watcher that listens to changes or a countdown without time between its ticks, the
store and its files go through what others do and nothing else. A task that is there then has been
started since, for a banner that was read since or by hand; it has done nothing, and its next two steps
end it, in which it looks at the banner and at the flag. -/
theorem nothing_acts_after_stop (layout : Config.Layout) (settings : Config.Settings) (files : Tree)
    (moves more : List Move) :
    let c := (initial layout settings files).run moves
    c.alarm = .sent → (∀ w ∈ c.workers, w.scheduled = false) → (∀ m ∈ more, m.isEager = false) →
    let c' := c.run more
    (∀ w ∈ c.workers, w.post.isOver = true) ∧
      c'.scene = c.scene.run (acts more) ∧
      ∀ i w, c'.workers[i]? = some w → w.post.isOver = false →
        c.workers.length ≤ i ∧ w.post.isYoung = true ∧
        ∀ first second, (c'.run [.work i first, .work i second]).scene = c'.scene ∧
          ∃ w', (c'.run [.work i first, .work i second]).workers[i]? = some w' ∧
            w'.post.isOver = true := by
  intro c hsent hasleep hmore c'
  have hover : ∀ w ∈ c.workers, w.post.isOver = true := by
    intro w hw
    obtain ⟨i, hi⟩ := List.mem_iff_getElem?.mp hw
    cases hrunning : w.post.isOver with
    | true => rfl
    | false =>
      have hawake := alert_run layout settings files moves hsent i w hi hrunning
      rw [hasleep w hw] at hawake
      cases hawake.1
  have hstill : c.Still c.workers.length :=
    { sent := hsent
      length := Nat.le_refl _
      idle := fun i w hi => ⟨.inl (hover w (List.mem_of_getElem? hi)),
        fun _ => hover w (List.mem_of_getElem? hi)⟩ }
  obtain ⟨hstill', hscene⟩ := hstill.run hmore
  refine ⟨hover, hscene, ?_⟩
  intro i w hi hrunning
  obtain ⟨hidle, hold⟩ := hstill'.idle i w hi
  refine ⟨?_, ?_, hstill'.ends hi⟩
  · refine Nat.not_lt.mp fun hlt => ?_
    rw [hold hlt] at hrunning
    cases hrunning
  · rcases hidle with hended | ⟨hyoung, -⟩
    · rw [hended] at hrunning
      cases hrunning
    · exact hyoung

/-- A countdown and a watcher that wait are told to stop, and both end; after that a value is changed,
and the countdown that this arms does not tick. -/
theorem nothing_acts_after_stop_bannerFiles :
    let c := (initial (.ofRoot "w".toList) ⟨1, 1000, false, true⟩ Store.bannerFiles).run
      [.call .refresh true, .work 0 true, .work 0 true, .hire true, .work 1 true, .work 1 true,
        .raise, .send, .work 0 true, .work 1 true]
    let more : List Move := [.call (.update "MessageBanner".toList "seconds-to-display".toList
      "5".toList) true, .elapse 2, .work 2 true, .elapse 2]
    let c' := c.run more
    c.workers.length = 2 ∧ (∀ w ∈ c.workers, w.post.isOver = true) ∧
      c'.scene = c.scene.run (acts more) ∧ c'.scene.store.snapshot.banner = ⟨true, 5, 5⟩ ∧
      ∃ w, c'.workers[2]? = some w ∧ w.post = .countdown ⟨2, .waiting ⟨.active, 5⟩⟩ false ∧
        (c'.run [.work 2 true, .work 2 true]).scene = c'.scene := by
  intro c more c'
  have hsent : c.alarm = .sent ∧ c.workers.length = 2 ∧ ∀ w ∈ c.workers, w.scheduled = false := by
    decide +kernel
  have hmore : ∀ m ∈ more, m.isEager = false := by simp [more, Move.isEager]
  have hpost : c'.scene.store.snapshot.banner = ⟨true, 5, 5⟩ ∧ c'.workers[2]?.map Worker.post =
      some (.countdown ⟨2, .waiting ⟨.active, 5⟩⟩ false) := by
    decide +kernel
  obtain ⟨hover, hscene, hyoung⟩ := nothing_acts_after_stop (.ofRoot "w".toList)
    ⟨1, 1000, false, true⟩ Store.bannerFiles _ more hsent.1 hsent.2.2 hmore
  obtain ⟨w, hw, hat⟩ := Option.map_eq_some_iff.mp hpost.2
  obtain ⟨-, -, hends⟩ := hyoung 2 w hw (by rw [hat]; rfl)
  exact ⟨hsent.2.1, hover, hscene, hpost.1, w, hw, hat, (hends true true).1⟩

/-- It is otherwise for the two kinds of tasks that are left out. All have ended, and nobody calls: a
countdown that is started without time between its ticks counts to its end and switches the banner off.
And when somebody changes the files, a watcher that listens may be started and read them. -/
theorem not_nothing_acts_after_stop :
    let c := (initial (.ofRoot "w".toList) ⟨1, 1000, false, true⟩ Store.bannerFiles).run
      [.call .refresh true, .work 0 true, .work 0 true, .raise, .send, .work 0 true]
    let counting : List Move := .start 1 true :: List.replicate 10 (.work 1 true)
    let watching : List Move := [.call (.edit (Store.siteFiles "maintenance-window on".toList)) true,
      .hire true, .work 1 true, .nudge 1, .work 1 true, .work 1 true]
    c.alarm = .sent ∧ (∀ w ∈ c.workers, w.scheduled = false) ∧
      c.scene.store.snapshot.banner.on = true ∧
      (acts counting = [] ∧ (c.run counting).scene.store.snapshot.banner.on = false ∧
        (c.run counting).scene ≠ c.scene.run (acts counting)) ∧
      (c.run watching).scene.store.snapshot.banner.on = false ∧
        (c.run watching).scene ≠ c.scene.run (acts watching) := by
  intro c counting watching
  have hended : c.alarm = .sent ∧ (∀ w ∈ c.workers, w.scheduled = false) ∧
      c.scene.store.snapshot.banner.on = true := by
    decide +kernel
  have hoff : (c.run counting).scene.store.snapshot.banner.on = false ∧
      (c.run watching).scene.store.snapshot.banner.on = false := by
    decide +kernel
  have hcalls : (c.scene.run (acts watching)).store.snapshot.banner.on = true := by decide +kernel
  refine ⟨hended.1, hended.2.1, hended.2.2, ⟨rfl, hoff.1, ?_⟩, hoff.2, ?_⟩
  · intro hsame
    have hon := hsame ▸ hoff.1
    exact absurd hended.2.2 (Bool.eq_false_iff.mp hon)
  · intro hsame
    have hon := hsame ▸ hoff.2
    exact absurd hcalls (Bool.eq_false_iff.mp hon)

end Crew

end SiteGate
