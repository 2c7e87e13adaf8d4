import SiteGate.Proofs.Site.Crew
import SiteGate.Proofs.Site.Moves

/-!
# The crew of a running site

A running site is a crew that is only ever seen when its tasks wait, have just been started, or have
ended (`Engine.Manned`): the task with number `i` is the worker with number `i`. Whatever happens to
the site, and also that it is told to stop, comes about by moves of the crew (`Manned.lives`). What a
site does when it wakes a task is a few steps of one worker, from one wait to the next.
-/

set_option autoImplicit false

namespace SiteGate

open Banner (Countdown)
open Crew (Post Worker)
open Store (Act Scene Timer)

namespace Crew

variable {c c' c₁ : Crew} {i : Nat} {w w' : Worker} {a : Act}

/-! ## Steps of one worker -/

/-- A crew gets from one state to another by some moves. -/
def Reaches (c c' : Crew) : Prop := ∃ moves, c.run moves = c'

/-- A crew gets to where it is without any move. -/
theorem Reaches.refl (c : Crew) : c.Reaches c := ⟨[], rfl⟩

/-- A crew that has got somewhere gets one move further. -/
theorem Reaches.tail (h : c.Reaches c₁) (m : Move) : c.Reaches (c₁.step m) := by
  obtain ⟨moves, rfl⟩ := h
  exact ⟨moves ++ [m], by simp [run]⟩

/-- What a crew gets to from where it has got, it gets to. -/
theorem Reaches.trans (h : c.Reaches c₁) (h' : c₁.Reaches c') : c.Reaches c' := by
  obtain ⟨moves, rfl⟩ := h
  obtain ⟨more, rfl⟩ := h'
  exact ⟨moves ++ more, by simp [run]⟩

/-- A worker that is put in the place of another one stands there. -/
theorem get_put (hi : c.workers[i]? = some w) (w' : Worker) :
    (c.put i w').workers[i]? = some w' := by
  obtain ⟨hlt, -⟩ := List.getElem?_eq_some_iff.mp hi
  exact List.getElem?_set_self hlt

/-- Changing a worker leaves the signal. -/
@[simp] theorem alarm_put (c : Crew) (i : Nat) (w : Worker) : (c.put i w).alarm = c.alarm := rfl

/-- Of two changes of one worker the later one counts. -/
@[simp] theorem put_put (c : Crew) (i : Nat) (w w' : Worker) :
    (c.put i w).put i w' = c.put i w' := by
  simp [put, List.set_set]

/-- A message does not take a worker from its post. -/
theorem post_tell (w : Worker) : w.tell.post = w.post := by
  unfold Worker.tell
  split <;> rfl

/-- An act leaves the workers that are there. -/
theorem get_perform (hi : c.workers[i]? = some w) (inside : Bool) (a : Act) :
    (c.perform inside a).workers[i]? = some w := by
  obtain ⟨hlt, -⟩ := List.getElem?_eq_some_iff.mp hi
  unfold perform
  dsimp only
  split
  · split
    · exact (List.getElem?_append_left hlt).trans hi
    · exact hi
  · exact hi

/-- An act and a change of one worker may be exchanged. -/
theorem put_perform (hi : c.workers[i]? = some w) (w' : Worker) (inside : Bool) (a : Act) :
    (c.put i w').perform inside a = (c.perform inside a).put i w' := by
  obtain ⟨hlt, -⟩ := List.getElem?_eq_some_iff.mp hi
  unfold perform put add
  dsimp only
  split
  · split
    · rw [List.set_append_left i _ hlt]
    · rfl
  · rfl

/-! ## Where a countdown goes -/

section Next

variable {v : Scene} {generation remaining : Nat} {count next : Countdown}

/-- A countdown that starts counts a timed banner. -/
theorem next_armed_of_timed (h : v.store.snapshot.banner.isTimed = true) :
    Post.next v (.countdown ⟨generation, .armed⟩ false) = (.countdown ⟨generation,
      .waiting ⟨.active, v.store.snapshot.banner.secondsToDisplay⟩⟩ false, none) := by
  simp [Post.next, Timer.next, Countdown.ofBanner, h]

/-- A countdown that starts ends if the banner is not timed. -/
theorem next_armed_of_not_timed (h : ¬ v.store.snapshot.banner.isTimed = true) :
    Post.next v (.countdown ⟨generation, .armed⟩ false) =
      (.countdown ⟨generation, .ended⟩ false, none) := by
  simp [Post.next, Timer.next, Countdown.ofBanner, h]

/-- A countdown whose time has come goes on if its generation is the current one. -/
theorem next_waiting_of_current (h : v.store.generation = generation) :
    Post.next v (.countdown ⟨generation, .waiting count⟩ false) =
      (.countdown ⟨generation, .confirmed count⟩ false, none) := by
  simp [Post.next, Timer.next, h]

/-- A countdown whose time has come ends if it has been superseded. -/
theorem next_waiting_of_stale (h : v.store.generation ≠ generation) :
    Post.next v (.countdown ⟨generation, .waiting count⟩ false) =
      (.countdown ⟨generation, .ended⟩ false, none) := by
  simp [Post.next, Timer.next, h]

/-- A countdown that goes on publishes what is left, if anything is. -/
theorem next_confirmed_of_running
    (h : count.tick v.store.snapshot.banner.on = (.running remaining, next)) :
    Post.next v (.countdown ⟨generation, .confirmed count⟩ false) =
      (.countdown ⟨generation, .publishing remaining next⟩ false, none) := by
  simp [Post.next, Timer.next, h]

/-- A countdown that goes on switches the banner off if nothing is left. -/
theorem next_confirmed_of_expired (h : count.tick v.store.snapshot.banner.on = (.expired, next)) :
    Post.next v (.countdown ⟨generation, .confirmed count⟩ false) =
      (.countdown ⟨generation, .expiring⟩ false, none) := by
  simp [Post.next, Timer.next, h]

/-- A countdown that goes on ends if there is nothing to count. -/
theorem next_confirmed_of_over
    (h : (count.tick v.store.snapshot.banner.on).1 = .cancelled ∨
      (count.tick v.store.snapshot.banner.on).1 = .idle) :
    Post.next v (.countdown ⟨generation, .confirmed count⟩ false) =
      (.countdown ⟨generation, .ended⟩ false, none) := by
  cases hticked : count.tick v.store.snapshot.banner.on with
  | mk outcome next =>
    rw [hticked] at h
    rcases h with rfl | rfl <;> simp [Post.next, Timer.next, hticked]

end Next

end Crew

/-! ## Tasks and workers -/

/-- A worker waits for its time, or hears that it has to stop. -/
def Crew.Worker.Rests (w : Worker) (stopped : Bool) : Prop :=
  if stopped then w.scheduled = true ∧ (w.told = true ∨ w.fresh = true)
  else w.scheduled = false ∧ w.fresh = false

/-- The worker that does the work of a task between two of its steps. -/
structure Task.Fills (t : Task) (stopped : Bool) (w : Worker) : Prop where
  due : w.due = false
  told : stopped = false → w.told = false
  post : match t.work with
    | .armed generation _ => w.post = .countdown ⟨generation, .armed⟩ false ∧ w.scheduled = true
    | .counting generation _ count =>
      w.post = .countdown ⟨generation, .waiting count⟩ false ∧ w.Rests stopped
    | .watching _ => w.post = .watcher .waiting true ∧ w.Rests stopped

namespace Task.Fills

variable {id due generation period interval : Nat} {count : Countdown} {stopped : Bool} {w : Worker}

/-- A worker that is going to start a countdown does the work of one that has not started. -/
theorem of_armed (hdue : w.due = false) (htold : stopped = false → w.told = false)
    (hpost : w.post = .countdown ⟨generation, .armed⟩ false) (hscheduled : w.scheduled = true) :
    Task.Fills ⟨id, due, .armed generation period⟩ stopped w :=
  ⟨hdue, htold, hpost, hscheduled⟩

/-- A worker that waits for the next tick does the work of a countdown that counts. -/
theorem of_counting (hdue : w.due = false) (htold : stopped = false → w.told = false)
    (hpost : w.post = .countdown ⟨generation, .waiting count⟩ false) (hrests : w.Rests stopped) :
    Task.Fills ⟨id, due, .counting generation period count⟩ stopped w :=
  ⟨hdue, htold, hpost, hrests⟩

/-- A worker that waits for the files to change does the work of a watcher. -/
theorem of_watching (hdue : w.due = false) (htold : stopped = false → w.told = false)
    (hpost : w.post = .watcher .waiting true) (hrests : w.Rests stopped) :
    Task.Fills ⟨id, due, .watching interval⟩ stopped w :=
  ⟨hdue, htold, hpost, hrests⟩

/-- A worker that gets the message does the same work at a site that has been told to stop. -/
theorem tell {t : Task} (h : t.Fills false w) : t.Fills true w.tell := by
  obtain ⟨id, due, work⟩ := t
  obtain ⟨post, scheduled, due', fresh, told⟩ := w
  obtain ⟨hdue, -, hpost⟩ := h
  cases work with
  | armed generation period =>
    obtain ⟨rfl, -⟩ : post = .countdown ⟨generation, .armed⟩ false ∧ scheduled = true := hpost
    exact .of_armed hdue nofun rfl rfl
  | counting generation period count =>
    obtain ⟨rfl, -⟩ := hpost
    exact .of_counting hdue nofun rfl ⟨rfl, .inl rfl⟩
  | watching interval =>
    obtain ⟨rfl, -⟩ := hpost
    exact .of_watching hdue nofun rfl ⟨rfl, .inl rfl⟩

end Task.Fills

namespace Engine

/-- A crew that does what a site does: the same has been done to the store and the files, the signal has
got as far, each task is done by the worker with its number, and all other workers have ended. -/
structure Manned (e : Engine) (c : Crew) : Prop where
  steady : ∀ t ∈ e.tasks, 0 < t.interval
  scene : c.scene = e.scene
  alarm : c.alarm = if e.stopped then .sent else .silent
  length : c.workers.length = e.nextId
  fills : ∀ t ∈ e.tasks, ∃ w, c.workers[t.id]? = some w ∧ t.Fills e.stopped w
  others : ∀ i w, c.workers[i]? = some w → w.post.isOver = false → ∃ t ∈ e.tasks, t.id = i

variable {e e' : Engine} {c : Crew} {t : Task} {w w' : Worker}

namespace Manned

/-- A crew does not see the counters. -/
theorem withMetrics (h : e.Manned c) (m : Metrics) : Manned { e with metrics := m } c :=
  ⟨h.steady, h.scene, h.alarm, h.length, h.fills, h.others⟩

/-- A task that has ended is a worker that has ended. -/
theorem finish (h : e.Manned c) {id : Nat} (hover : w'.post.isOver = true) (how : TaskEnd) :
    (e.finish id how).Manned (c.put id w') where
  steady := fun t' ht' => h.steady t' (mem_finish_iff.mp ht').1
  scene := h.scene
  alarm := h.alarm
  length := (Crew.length_put c id w').trans h.length
  fills := fun t' ht' => by
    obtain ⟨hmem, hne⟩ := mem_finish_iff.mp ht'
    obtain ⟨v, hv, hfills⟩ := h.fills t' hmem
    exact ⟨v, (List.getElem?_set_ne hne.symm).trans hv, hfills⟩
  others := fun j v hj hrunning => by
    rcases Crew.get_put_cases hj with ⟨-, rfl⟩ | ⟨hne, hj⟩
    · rw [hover] at hrunning
      cases hrunning
    · obtain ⟨t', ht', rfl⟩ := h.others j v hj hrunning
      exact ⟨t', mem_finish_iff.mpr ⟨ht', hne.symm⟩, rfl⟩

/-- A task that goes on is a worker that goes on. -/
theorem resume (h : e.Manned c) {id due : Nat} {work : Work} (hw : c.workers[id]? = some w)
    (hfills : Task.Fills ⟨id, due, work⟩ e.stopped w') (hsteady : 0 < Task.interval ⟨id, due, work⟩) :
    (e.resume id due work).Manned (c.put id w') where
  steady := fun t' ht' => by
    rcases mem_resume_iff.mp ht' with ⟨hmem, -⟩ | rfl
    · exact h.steady t' hmem
    · exact hsteady
  scene := h.scene
  alarm := h.alarm
  length := (Crew.length_put c id w').trans h.length
  fills := fun t' ht' => by
    rcases mem_resume_iff.mp ht' with ⟨hmem, hne⟩ | rfl
    · obtain ⟨v, hv, hfills'⟩ := h.fills t' hmem
      exact ⟨v, (List.getElem?_set_ne hne.symm).trans hv, hfills'⟩
    · exact ⟨w', Crew.get_put hw w', hfills⟩
  others := fun j v hj hrunning => by
    rcases Crew.get_put_cases hj with ⟨rfl, -⟩ | ⟨hne, hj⟩
    · exact ⟨_, mem_resume_iff.mpr (.inr rfl), rfl⟩
    · obtain ⟨t', ht', rfl⟩ := h.others j v hj hrunning
      exact ⟨t', mem_resume_iff.mpr (.inl ⟨ht', hne.symm⟩), rfl⟩

/-- A task that has been started is one more worker. -/
theorem spawn (h : e.Manned c) {work : Work} {due : Nat}
    (hfills : Task.Fills ⟨e.nextId, due, work⟩ e.stopped w)
    (hsteady : 0 < Task.interval ⟨e.nextId, due, work⟩) :
    (e.spawn work due).Manned { c with workers := c.workers ++ [w] } where
  steady := fun t ht => by
    rcases List.mem_append.mp ht with ht | ht
    · exact h.steady t ht
    · rw [List.mem_singleton.mp ht]
      exact hsteady
  scene := h.scene
  alarm := h.alarm
  length := by
    simp only [List.length_append, List.length_singleton, h.length]
    rfl
  fills := fun t ht => by
    rcases List.mem_append.mp ht with ht | ht
    · obtain ⟨v, hv, hfills'⟩ := h.fills t ht
      obtain ⟨hlt, -⟩ := List.getElem?_eq_some_iff.mp hv
      exact ⟨v, (List.getElem?_append_left hlt).trans hv, hfills'⟩
    · rw [List.mem_singleton.mp ht]
      refine ⟨w, ?_, hfills⟩
      simp [h.length]
  others := fun j v hj hrunning => by
    rcases Nat.lt_or_ge j c.workers.length with hlt | hge
    · rw [List.getElem?_append_left hlt] at hj
      obtain ⟨t, ht, rfl⟩ := h.others j v hj hrunning
      exact ⟨t, List.mem_append_left _ ht, rfl⟩
    · refine ⟨_, List.mem_append_right _ (List.mem_singleton.mpr rfl), ?_⟩
      obtain ⟨hlt, -⟩ := List.getElem?_eq_some_iff.mp hj
      simp only [List.length_append, List.length_singleton] at hlt
      exact h.length.symm.trans (by omega)

/-- A worker may change as long as its task is still done. -/
theorem stay (h : e.Manned c) {id : Nat} (hw : c.workers[id]? = some w)
    (hfills : ∀ t ∈ e.tasks, t.Fills e.stopped w → t.Fills e.stopped w')
    (hover : w.post.isOver = w'.post.isOver) : e.Manned (c.put id w') where
  steady := h.steady
  scene := h.scene
  alarm := h.alarm
  length := (Crew.length_put c id w').trans h.length
  fills := fun t ht => by
    obtain ⟨v, hv, hfilled⟩ := h.fills t ht
    by_cases hid : t.id = id
    · rw [hid, hw] at hv
      obtain rfl := Option.some.inj hv
      exact ⟨w', hid ▸ Crew.get_put hw w', hfills t ht hfilled⟩
    · exact ⟨v, (List.getElem?_set_ne (Ne.symm hid)).trans hv, hfilled⟩
  others := fun j v hj hrunning => by
    rcases Crew.get_put_cases hj with ⟨rfl, rfl⟩ | ⟨-, hj⟩
    · exact h.others id w hw (hover.trans hrunning)
    · exact h.others j v hj hrunning

/-- The store and the files may change for a site and its crew together. -/
theorem withScene (h : e.Manned c) (v : Scene) :
    Manned { e with store := v.store, files := v.files } { c with scene := v } :=
  ⟨h.steady, rfl, h.alarm, h.length, h.fills, h.others⟩

/-- An act does to a site what it does to its crew. -/
theorem performed (h : e.Manned c) (inside : Bool) (a : Act) :
    (e.performed inside a).Manned (c.perform inside a) := by
  have hscene := h.withScene (e.scene.act a)
  unfold Engine.performed Crew.perform
  dsimp only
  rw [h.scene]
  match e.scene.reload? a with
  | none => exact hscene
  | some .unchanged => exact hscene
  | some .blockedRefreshed => exact hscene
  | some (.reloaded false) =>
    simp only [noteReload, Bool.false_and, Bool.false_eq_true, if_false]
    exact hscene.withMetrics _
  | some (.reloaded true) =>
    cases inside with
    | true =>
      refine (hscene.withMetrics _).spawn (w := .new _) (.of_armed rfl (fun _ => rfl) rfl rfl) ?_
      exact (e.scene.act a).store.settings.tickInterval_pos
    | false => exact hscene.withMetrics _

end Manned

/-! ## Steps of one worker -/

/-- A site has the crew that a crew gets to. -/
def MannedFrom (e : Engine) (c : Crew) : Prop := ∃ c', c.Reaches c' ∧ e.Manned c'

/-- A crew that does what a site does gets there without any move. -/
theorem Manned.from (h : e.Manned c) : e.MannedFrom c := ⟨c, .refl c, h⟩

namespace MannedFrom

variable {i : Nat} {post : Post} {v : Scene}

/-- A crew gets to that of a site if it does so after one move. -/
theorem of_step {m : Crew.Move} (h : e.MannedFrom (c.step m)) : e.MannedFrom c := by
  obtain ⟨c', hreaches, hmanned⟩ := h
  exact ⟨c', ((Crew.Reaches.refl c).tail m).trans hreaches, hmanned⟩

/-- A crew gets to that of a site if it does so after a worker has gone on to its next post. -/
theorem of_goOn (hw : c.workers[i]? = some w) (hscheduled : w.scheduled = true)
    (hwaits : w.post.waits = false) (hscene : c.scene = v) (hnext : w.post.next v = (post, none))
    (h : e.MannedFrom (c.put i (w.goTo post))) : e.MannedFrom c := by
  apply of_step (m := .work i true)
  simpa [Crew.step, hw, hscheduled, Crew.work, hwaits, Crew.goOn, hscene, hnext] using h

/-- A crew gets to that of a site if it does so after a worker has acted on the way to its next post. -/
theorem of_act (hw : c.workers[i]? = some w) (hscheduled : w.scheduled = true)
    (hwaits : w.post.waits = false) (hscene : c.scene = v) {a : Act}
    (hnext : w.post.next v = (post, some a))
    (h : e.MannedFrom ((c.perform true a).put i (w.goTo post))) : e.MannedFrom c := by
  apply of_step (m := .work i true)
  rw [← Crew.put_perform hw] at h
  simpa [Crew.step, hw, hscheduled, Crew.work, hwaits, Crew.goOn, hscene, hnext] using h

/-- A crew gets to that of a site if it does so after a worker that waited has gone on because its time has
come. -/
theorem of_due (hw : c.workers[i]? = some w) (hscheduled : w.scheduled = true)
    (hwaits : w.post.waits = true) (hdue : w.due = true) (hscene : c.scene = v)
    (hnext : w.post.next v = (post, none))
    (h : e.MannedFrom (c.put i ({ w with due := false }.goTo post))) : e.MannedFrom c := by
  apply of_step (m := .work i true)
  simpa [Crew.step, hw, hscheduled, Crew.work, hwaits, hdue, Crew.goOn, hscene, hnext] using h

/-- A crew gets to that of a site if it does so after a worker has begun to wait. -/
theorem of_sleep (hw : c.workers[i]? = some w) (hscheduled : w.scheduled = true)
    (hwaits : w.post.waits = true) (hinstant : w.post.isInstant = false) (hdue : w.due = false)
    (hdeaf : w.hears c.alarm = false)
    (h : e.MannedFrom (c.put i { w with scheduled := false, fresh := false })) :
    e.MannedFrom c := by
  apply of_step (m := .work i true)
  simpa [Crew.step, hw, hscheduled, Crew.work, hwaits, hinstant, hdue, hdeaf] using h

/-- A crew gets to that of a site if it does so after a worker has heard that it has to stop. -/
theorem of_stop (hw : c.workers[i]? = some w) (hscheduled : w.scheduled = true)
    (hwaits : w.post.waits = true) (hinstant : w.post.isInstant = false) (hdue : w.due = false)
    (hhears : w.hears c.alarm = true)
    (h : e.MannedFrom (c.put i (w.goTo w.post.stop))) : e.MannedFrom c := by
  apply of_step (m := .work i true)
  simpa [Crew.step, hw, hscheduled, Crew.work, hwaits, hinstant, hdue, hhears] using h

/-- A crew gets to that of a site if it does so after the time of a worker that waits has come. -/
theorem of_elapse (hw : c.workers[i]? = some w) (hwaits : w.post.waits = true)
    (hfresh : w.fresh = false)
    (h : e.MannedFrom (c.put i { w with due := true, scheduled := true })) : e.MannedFrom c := by
  apply of_step (m := .elapse i)
  simpa [Crew.step, Crew.change, hw, Worker.elapse, hwaits, hfresh] using h

/-- A crew gets to that of a site if it does so after a watcher has been told of a change. -/
theorem of_nudge (hw : c.workers[i]? = some w) (hlistens : w.post.listens = true)
    (h : e.MannedFrom (c.put i { w with due := true, scheduled := true })) : e.MannedFrom c := by
  apply of_step (m := .nudge i)
  simpa [Crew.step, Crew.change, hw, Worker.nudge, hlistens] using h

end MannedFrom

namespace Manned

variable {id due generation period interval : Nat} {count : Countdown}

/-! ## A task that is woken -/

/-- Before a site has been told to stop no worker hears that it has. -/
theorem deaf (h : e.Manned c) (hrunning : e.stopped = false) {w : Worker}
    (htold : w.told = false) : w.hears c.alarm = false := by
  simp [Worker.hears, htold, h.alarm, hrunning]

/-- Before a site has been told to stop, a worker that rests sleeps at its post. -/
theorem resting (hrunning : e.stopped = false) {post : Post} (hdue : w.due = false)
    (htold : e.stopped = false → w.told = false) (hpost : w.post = post)
    (hrests : w.Rests e.stopped) : w = ⟨post, false, false, false, false⟩ := by
  obtain ⟨post, scheduled, due, fresh, told⟩ := w
  simp only [Worker.Rests, hrunning, Bool.false_eq_true, if_false] at hrests
  obtain ⟨hscheduled, hfresh⟩ := hrests
  simp_all

/-- Before a site has been told to stop, a worker that sleeps rests. -/
theorem rests_asleep (hrunning : e.stopped = false) (post : Post) :
    Worker.Rests ⟨post, false, false, false, false⟩ e.stopped := by
  simp [Worker.Rests, hrunning]

/-- A countdown that starts looks at the banner, and waits or ends. -/
theorem start (h : e.Manned c) (hrunning : e.stopped = false)
    (ht : ⟨id, due, .armed generation period⟩ ∈ e.tasks) :
    (e.start id generation period).MannedFrom c := by
  have hperiod : 0 < period := h.steady _ ht
  obtain ⟨⟨post, scheduled, due', fresh, told⟩, hw, hdue, htold, hpost, hscheduled⟩ := h.fills _ ht
  obtain rfl : due' = false := hdue
  obtain rfl : told = false := htold hrunning
  obtain rfl : post = .countdown ⟨generation, .armed⟩ false := hpost
  obtain rfl : scheduled = true := hscheduled
  rw [start_eq e id generation hperiod]
  by_cases htimed : e.store.snapshot.banner.isTimed = true
  · rw [if_pos htimed]
    refine .of_goOn hw rfl rfl h.scene (Crew.next_armed_of_timed htimed) ?_
    refine .of_sleep (Crew.get_put hw _) rfl rfl rfl rfl (h.deaf hrunning rfl) ?_
    rw [Crew.put_put]
    exact (h.resume hw (.of_counting rfl (fun _ => rfl) rfl (rests_asleep hrunning _)) hperiod).from
  · rw [if_neg htimed]
    exact .of_goOn hw rfl rfl h.scene (Crew.next_armed_of_not_timed htimed) (h.finish rfl _).from

/-- A countdown that has counted publishes what is left, and waits again. -/
theorem publish (h : e.Manned c) (hrunning : e.stopped = false) (hw : c.workers[id]? = some w)
    (hperiod : 0 < period) (generation remaining : Nat) {fresh : Bool} :
    ((e.performed true (.tick generation remaining)).resume id due
        (.counting generation period count)).MannedFrom
      (c.put id ⟨.countdown ⟨generation, .publishing remaining count⟩ false, true, false, fresh,
        false⟩) := by
  have hperformed := h.performed true (.tick generation remaining)
  have hget := Crew.get_perform hw true (.tick generation remaining)
  refine .of_act (Crew.get_put hw _) rfl rfl h.scene rfl ?_
  rw [Crew.put_perform hw, Crew.put_put]
  refine .of_sleep (Crew.get_put hget _) rfl rfl rfl rfl (hperformed.deaf hrunning rfl) ?_
  rw [Crew.put_put]
  exact (hperformed.resume hget (.of_counting rfl (fun _ => rfl) rfl (rests_asleep hrunning _))
    hperiod).from

/-- One that has nothing left to count switches off the banner, and ends however that goes. -/
theorem expire (h : e.Manned c) (hw : c.workers[id]? = some w) (generation : Nat) (how : TaskEnd)
    {fresh told : Bool} :
    ((e.expire generation).2.finish id how).MannedFrom
      (c.put id ⟨.countdown ⟨generation, .expiring⟩ false, true, false, fresh, told⟩) := by
  rw [expire_eq]
  refine .of_act (Crew.get_put hw _) rfl rfl h.scene rfl ?_
  rw [Crew.put_perform hw, Crew.put_put]
  exact (((h.performed true (.expire generation)).withMetrics _).finish rfl how).from

/-- A countdown that is woken goes on from one wait to the next, or ends. -/
theorem tick (h : e.Manned c) (hrunning : e.stopped = false)
    (ht : ⟨id, due, .counting generation period count⟩ ∈ e.tasks) :
    (e.tick id generation period count).MannedFrom c := by
  have hperiod : 0 < period := h.steady _ ht
  obtain ⟨w, hw, hdue, htold, hpost, hrests⟩ := h.fills _ ht
  obtain rfl := resting hrunning hdue htold hpost hrests
  refine .of_elapse hw rfl rfl ?_
  by_cases hgeneration : e.store.generation = generation
  · refine .of_due (Crew.get_put hw _) rfl rfl rfl h.scene
      (Crew.next_waiting_of_current hgeneration) ?_
    rw [Crew.put_put]
    have hwoken := Crew.get_put hw
      ⟨.countdown ⟨generation, .confirmed count⟩ false, true, false, true, false⟩
    -- The countdown looks whether the banner is still on, and counts.
    obtain ⟨-, -, remaining, -, hcount⟩ | ⟨-, -, -, hcount⟩ | ⟨-, hcount⟩ :=
      count.tick_cases e.store.snapshot.banner.on
    · have htick : e.tick id generation period count =
          (e.performed true (.tick generation (remaining + 1))).resume id (e.now + period)
            (.counting generation period ⟨.active, remaining + 1⟩) := by
        simp only [Engine.tick, hgeneration, ne_eq, not_true_eq_false, if_false, hcount]
        rfl
      rw [htick]
      refine .of_goOn hwoken rfl rfl h.scene (Crew.next_confirmed_of_running hcount) ?_
      rw [Crew.put_put]
      exact h.publish hrunning hw hperiod generation (remaining + 1)
    · have htick : e.tick id generation period count =
          (e.expire generation).2.finish id (e.expire generation).1 := by
        simp only [Engine.tick, hgeneration, ne_eq, not_true_eq_false, if_false, hcount]
      rw [htick]
      refine .of_goOn hwoken rfl rfl h.scene (Crew.next_confirmed_of_expired hcount) ?_
      rw [Crew.put_put]
      exact h.expire hw generation _
    · have htick : e.tick id generation period count = e.finish id (.ok ()) := by
        cases hticked : count.tick e.store.snapshot.banner.on with
        | mk outcome next =>
          rw [hticked] at hcount
          rcases hcount with rfl | rfl <;> simp [Engine.tick, hgeneration, hticked]
      rw [htick]
      refine .of_goOn hwoken rfl rfl h.scene (Crew.next_confirmed_of_over hcount) ?_
      rw [Crew.put_put]
      exact (h.finish rfl _).from
  · have htick : e.tick id generation period count = e.finish id (.ok ()) := by
      unfold Engine.tick
      rw [if_pos hgeneration]
    rw [htick]
    refine .of_due (Crew.get_put hw _) rfl rfl rfl h.scene
      (Crew.next_waiting_of_stale hgeneration) ?_
    rw [Crew.put_put]
    exact (h.finish rfl _).from

/-- A watcher that has been woken looks at the files. It waits again if it can read them, and has
ended otherwise. -/
theorem look (h : e.Manned c) (hw : c.workers[id]? = some w) {e' : Engine} {fresh told : Bool}
    (hread : ∀ r, e.store.reload e.files = .ok r → e'.MannedFrom
      ((c.perform true .refresh).put id ⟨.watcher .waiting true, true, false, true, told⟩))
    (hfailed : ∀ f, e.store.reload e.files = .error f → e'.MannedFrom
      ((c.perform true .refresh).put id ⟨.watcher .ended true, false, false, true, told⟩)) :
    e'.MannedFrom (c.put id ⟨.watcher .looking true, true, false, fresh, told⟩) := by
  have hget := Crew.get_put hw ⟨.watcher .looking true, true, false, fresh, told⟩
  cases hreload : e.store.reload e.files with
  | ok r =>
    have hnext : Post.next e.scene (.watcher .looking true) =
        (.watcher .waiting true, some .refresh) := by
      simp [Post.next, Engine.scene, hreload, Except.isOk, Except.toBool]
    refine .of_act hget rfl rfl h.scene hnext ?_
    rw [Crew.put_perform hw, Crew.put_put]
    exact hread r hreload
  | error f =>
    have hnext : Post.next e.scene (.watcher .looking true) =
        (.watcher .ended true, some .refresh) := by
      simp [Post.next, Engine.scene, hreload, Except.isOk, Except.toBool]
    refine .of_act hget rfl rfl h.scene hnext ?_
    rw [Crew.put_perform hw, Crew.put_put]
    exact hfailed f hreload

/-- A watcher's look at the files is an act of the crew. -/
theorem refreshed (h : e.Manned c) (inside : Bool) :
    (e.refreshFrom inside).2.Manned (c.perform inside .refresh) := by
  rw [refreshFrom_eq]
  exact (h.performed inside .refresh).withMetrics _

/-- A watcher whose interval is over looks at the files and waits again. -/
theorem watch (h : e.Manned c) (hrunning : e.stopped = false)
    (ht : ⟨id, due, .watching interval⟩ ∈ e.tasks) :
    ((e.refreshFrom true).2.afterLook id interval (e.refreshFrom true).1).MannedFrom c := by
  have hinterval : 0 < interval := h.steady _ ht
  obtain ⟨w, hw, hdue, htold, hpost, hrests⟩ := h.fills _ ht
  obtain rfl := resting hrunning hdue htold hpost hrests
  refine .of_elapse hw rfl rfl ?_
  refine .of_due (Crew.get_put hw _) rfl rfl rfl h.scene rfl ?_
  rw [Crew.put_put]
  have hcalled := Crew.get_perform hw true .refresh
  have hstill := (e.stopped_refreshFrom true).trans hrunning
  refine h.look hw (fun r hreload => ?_) fun f hreload => ?_
  · have hresult : (e.refreshFrom true).1 = .ok r.1 := by
      unfold Engine.refreshFrom
      simp only [hreload]
    rw [hresult]
    refine .of_sleep (Crew.get_put hcalled _) rfl rfl rfl rfl ((h.refreshed true).deaf hstill rfl) ?_
    rw [Crew.put_put]
    exact ((h.refreshed true).resume hcalled
      (.of_watching rfl (fun _ => rfl) rfl (rests_asleep hstill _)) hinterval).from
  · have hresult : (e.refreshFrom true).1 = .error f := by
      unfold Engine.refreshFrom
      simp only [hreload]
    rw [hresult]
    exact ((h.refreshed true).finish rfl _).from

/-- A task that is woken after the site has been told to stop ends. -/
theorem leave (h : e.Manned c) (hstopped : e.stopped = true) (ht : t ∈ e.tasks) :
    (e.finish t.id (.ok ())).MannedFrom c := by
  obtain ⟨id, due, work⟩ := t
  obtain ⟨⟨post, scheduled, due', fresh, told⟩, hw, hdue, -, hpost⟩ := h.fills _ ht
  obtain rfl : due' = false := hdue
  have hsent : c.alarm = .sent := by rw [h.alarm, if_pos hstopped]
  -- A task that waits hears the signal.
  have hleave : ∀ post : Post, post.waits = true → post.isInstant = false →
      Worker.Rests ⟨post, scheduled, false, fresh, told⟩ e.stopped →
      c.workers[id]? = some ⟨post, scheduled, false, fresh, told⟩ →
      (e.finish id (.ok ())).MannedFrom c := by
    intro post hwaits hinstant hrests hw
    rw [Worker.Rests, if_pos hstopped] at hrests
    obtain ⟨hscheduled, hheard⟩ := hrests
    refine .of_stop hw hscheduled hwaits hinstant rfl ?_ (h.finish (Crew.isOver_stop post) _).from
    rcases hheard with htold | hfresh
    · simp_all [Worker.hears]
    · simp_all [Worker.hears]
  cases work with
  | armed generation period =>
    obtain ⟨rfl, rfl⟩ : post = .countdown ⟨generation, .armed⟩ false ∧ scheduled = true := hpost
    by_cases htimed : e.store.snapshot.banner.isTimed = true
    · refine .of_goOn hw rfl rfl h.scene (Crew.next_armed_of_timed htimed) ?_
      refine .of_stop (Crew.get_put hw _) rfl rfl rfl rfl ?_ ?_
      · simp [Worker.hears, Worker.goTo, hsent]
      · rw [Crew.put_put]
        exact (h.finish rfl _).from
    · exact .of_goOn hw rfl rfl h.scene (Crew.next_armed_of_not_timed htimed) (h.finish rfl _).from
  | counting generation period count =>
    obtain ⟨rfl, hrests⟩ := hpost
    exact hleave _ rfl rfl hrests hw
  | watching interval =>
    obtain ⟨rfl, hrests⟩ := hpost
    exact hleave _ rfl rfl hrests hw

/-- Waking a task is a few steps of its worker. -/
theorem wake (h : e.Manned c) (ht : t ∈ e.tasks) : (e.wake t).MannedFrom c := by
  cases hstopped : e.stopped with
  | true =>
    rw [wake_stopped hstopped (h.steady t ht)]
    exact h.leave hstopped ht
  | false =>
    obtain ⟨id, due, work⟩ := t
    cases work with
    | armed generation period =>
      rw [wake_armed hstopped]
      exact h.start hstopped ht
    | counting generation period count =>
      rw [wake_counting hstopped]
      exact h.tick hstopped ht
    | watching interval =>
      rw [wake_watching hstopped]
      exact h.watch hstopped ht

/-- A watcher that is told of a change looks at the files before its interval is over, even if it has
been told to stop at the same time. -/
theorem lookNow (h : e.Manned c) (ht : t ∈ e.tasks) : (e.lookNow t).MannedFrom c := by
  obtain ⟨id, due, work⟩ := t
  cases work with
  | armed generation period => exact h.from
  | counting generation period count => exact h.from
  | watching interval =>
    obtain ⟨⟨post, scheduled, due', fresh, told⟩, hw, hdue, htold, hpost, hrests⟩ := h.fills _ ht
    obtain rfl : due' = false := hdue
    obtain rfl : post = .watcher .waiting true := hpost
    refine .of_nudge hw rfl ?_
    refine .of_due (Crew.get_put hw _) rfl rfl rfl h.scene rfl ?_
    rw [Crew.put_put]
    have hcalled := Crew.get_perform hw true .refresh
    have hstill := e.stopped_refreshFrom true
    have hread := h.refreshed true
    have hfilled : ∀ w' : Worker, w'.post = .watcher .waiting true → w'.due = false →
        ((e.refreshFrom true).2.stopped = false → w'.told = false) →
        w'.Rests (e.refreshFrom true).2.stopped →
        (e.refreshFrom true).2.Manned ((c.perform true .refresh).put id w') := by
      intro w' hpost' hdue' htold' hrests'
      refine hread.stay hcalled ?_ (by rw [hpost'])
      rintro ⟨id', due', work⟩ - ⟨-, -, hpost⟩
      cases work with
      | armed generation period => exact nomatch hpost.1
      | counting generation period count => exact nomatch hpost.1
      | watching interval => exact .of_watching hdue' htold' hpost' hrests'
    refine h.look hw (fun r hreload => ?_) fun f hreload => ?_
    · have hlook : e.lookNow ⟨id, due, .watching interval⟩ = (e.refreshFrom true).2 := by
        unfold Engine.lookNow Engine.refreshFrom
        simp only [hreload]
      rw [hlook]
      cases hstopped : e.stopped with
      | true =>
        have hstopped' := hstill.trans hstopped
        refine (hfilled _ rfl rfl (fun hrunning => ?_) ?_).from
        · rw [hstopped'] at hrunning
          cases hrunning
        · rw [Worker.Rests, if_pos hstopped']
          exact ⟨rfl, .inr rfl⟩
      | false =>
        obtain rfl : told = false := htold hstopped
        have hrunning := hstill.trans hstopped
        refine .of_sleep (Crew.get_put hcalled _) rfl rfl rfl rfl (hread.deaf hrunning rfl) ?_
        rw [Crew.put_put]
        exact (hfilled _ rfl rfl (fun _ => rfl) (rests_asleep hrunning _)).from
    · have hlook : e.lookNow ⟨id, due, .watching interval⟩ =
          (e.refreshFrom true).2.finish id (.error f) := by
        unfold Engine.lookNow Engine.refreshFrom
        simp only [hreload]
      rw [hlook]
      exact (hread.finish rfl _).from

/-! ## A site and its crew -/

/-- Starting a watcher is hiring a worker, which goes to wait for the first time. -/
theorem hire (h : e.Manned c) (hsteady : 0 < interval) : (e.watch interval).MannedFrom c := by
  have hnew : (c.add (.watcher .starting true)).workers[c.workers.length]? =
      some (.new (.watcher .starting true)) := by
    simp [Crew.add]
  have hput : ∀ w : Worker, (c.add (.watcher .starting true)).put c.workers.length w =
      { c with workers := c.workers ++ [w] } := by
    intro w
    simp [Crew.add, Crew.put]
  have hadded : (e.watch interval).MannedFrom (c.add (.watcher .starting true)) := by
    refine .of_goOn hnew rfl rfl h.scene rfl ?_
    cases hstopped : e.stopped with
    | true =>
      rw [hput]
      refine (h.spawn (.of_watching rfl (fun _ => rfl) rfl ?_) hsteady).from
      rw [Worker.Rests, if_pos hstopped]
      exact ⟨rfl, .inr rfl⟩
    | false =>
      refine .of_sleep (Crew.get_put hnew _) rfl rfl rfl rfl (h.deaf hstopped rfl) ?_
      rw [Crew.put_put, hput]
      exact (h.spawn (.of_watching rfl (fun _ => rfl) rfl (rests_asleep hstopped _)) hsteady).from
  exact .of_step (m := .hire true) hadded

/-- What others do to a site is some moves of its crew. -/
theorem call (h : e.Manned c) (hcall : e.Call e') : e'.MannedFrom c := by
  cases hcall with
  | edit files =>
    exact .of_step (m := .call (.edit files) true) (h.performed true (.edit files)).from
  | refresh => exact .of_step (m := .call .refresh e.concurrent) (h.refreshed e.concurrent).from
  | update parent key value =>
    unfold Engine.update
    rw [updateFrom_eq]
    exact .of_step (m := .call (.update parent key value) e.concurrent)
      (h.performed e.concurrent _).from
  | ask request => exact (h.withMetrics _).from
  | watch hsteady => exact h.hire hsteady

/-- Every step of a site is some moves of its crew. -/
theorem happens (h : e.Manned c) (hstep : e.Happens e') : e'.MannedFrom c := by
  rcases hstep with hcall | hown
  · exact h.call hcall
  · cases hown with
    | wake ht hready => exact h.wake ht
    | look ht => exact h.lookNow ht
    | pass hle hdue =>
      exact Manned.from
        ⟨h.steady, h.scene, h.alarm, h.length, h.fills, h.others⟩

/-- The site is told to stop: the flag is set, and the message is sent. -/
theorem stop (h : e.Manned c) : e.stop.MannedFrom c := by
  cases hstopped : e.stopped with
  | true =>
    have hstop : e.stop = e := by
      unfold Engine.stop
      rw [← hstopped]
    rw [hstop]
    exact h.from
  | false =>
    have hsilent : c.alarm = .silent := by
      rw [h.alarm, hstopped]
      rfl
    refine .of_step (m := .raise) (.of_step (m := .send) (Manned.from ?_))
    have hcrew : (c.step .raise).step .send =
        { c with alarm := .sent, workers := c.workers.map Worker.tell } := by
      simp [Crew.step, hsilent]
    rw [hcrew]
    refine ⟨h.steady, h.scene, rfl, ?_, ?_, ?_⟩
    · rw [List.length_map]
      exact h.length
    · intro t ht
      obtain ⟨w, hw, hfills⟩ := h.fills t ht
      rw [hstopped] at hfills
      exact ⟨w.tell, by rw [List.getElem?_map, hw]; rfl, hfills.tell⟩
    · intro i w hi hrunning
      rw [List.getElem?_map] at hi
      obtain ⟨v, hv, rfl⟩ := Option.map_eq_some_iff.mp hi
      exact h.others i v hv (by rwa [Crew.post_tell] at hrunning)

end Manned

/-- A site lives: things happen to it, and it may be told to stop. -/
abbrev Lives : Engine → Engine → Prop := Relation.ReflTransGen fun e e' => e.Happens e' ∨ e' = e.stop

/-- However a site lives, its crew gets to where the site gets. -/
theorem Manned.lives (h : e.Manned c) (hlives : e.Lives e') : e'.MannedFrom c := by
  induction hlives with
  | refl => exact h.from
  | @tail _ e₂ _ hstep ih =>
    obtain ⟨c', hreaches, hmanned⟩ := ih
    have hnext : e₂.MannedFrom c' := by
      rcases hstep with hstep | rfl
      · exact hmanned.happens hstep
      · exact hmanned.stop
    obtain ⟨c'', hreaches', hmanned'⟩ := hnext
    exact ⟨c'', hreaches.trans hreaches', hmanned'⟩

/-- Whatever has happened to a site since it was opened has happened to a crew. -/
theorem crew_of_openAt {start : Engine} {files : Tree} {metrics : Metrics} {root : Path}
    {settings : Config.Settings} (h : (openAt files metrics root settings true).1 = .ok start)
    (hlives : start.Lives e) :
    ∃ files moves, e.Manned ((Crew.initial (.ofRoot root) settings files).run moves) := by
  obtain ⟨files, metrics, rfl, -⟩ := exists_unread_of_openAt h
  have hunread : (unread (.ofRoot root) settings files metrics).Manned
      (.initial (.ofRoot root) settings files) :=
    { steady := fun _ ht => by cases ht
      scene := rfl
      alarm := rfl
      length := rfl
      fills := fun _ ht => by cases ht
      others := fun _ _ hi => by cases hi }
  obtain ⟨c, ⟨moves, hmoves⟩, hmanned⟩ := (hunread.performed true .refresh).lives hlives
  refine ⟨files, .call .refresh true :: moves, ?_⟩
  rw [← hmoves] at hmanned
  exact hmanned

end Engine

end SiteGate
