import Mathlib.Data.List.Pairwise
import SiteGate.Proofs.Store.Countdowns
import SiteGate.Proofs.Store.Site

/-!
# The countdowns of a running site

A running site is a runtime that makes its moves at certain times. Its tasks are only ever seen
between two ticks; `Engine.Shows` says that each of them that counts down is a countdown of the
runtime, at the same stage. What an operation does to the site is what an act does to the runtime
(`Shows.performed`), and a tick is three steps of a countdown without anything in between
(`Shows.tick`). So wherever a site gets to from its beginning, while it is used, while files are
changed and while time passes, a runtime gets to as well (`Follows`), and what holds of the
countdowns of all runtimes holds of those of the site: no two of them have the same generation
(`Follows.generations_nodup`).
-/

set_option autoImplicit false

namespace SiteGate

open Banner (Countdown)
open Store (Act Runtime Scene Timer)

/-! ## Tasks that count down -/

namespace Task

/-- The countdown that a task runs, if it runs one. -/
def timer? (t : Task) : Option Timer :=
  match t.work with
  | .armed generation _ => some ⟨generation, .armed⟩
  | .counting generation _ count => some ⟨generation, .waiting count⟩
  | .watching _ => none

/-- Two tasks have different numbers, and if both count down, then for different generations. -/
def Apart (t t' : Task) : Prop :=
  t.id ≠ t'.id ∧
    ∀ timer, t.timer? = some timer → ∀ timer', t'.timer? = some timer' →
      timer.generation ≠ timer'.generation

/-- That two tasks are apart does not depend on their order. -/
instance : Std.Symm Apart where
  symm _ _ h :=
    ⟨h.1.symm, fun timer' htimer' timer htimer => (h.2 timer htimer timer' htimer').symm⟩

/-- Tasks with numbers below `nextId`, no two alike, whose countdowns are among the given ones. -/
structure Shown (tasks : List Task) (nextId : Nat) (timers : List Timer) : Prop where
  numbered : ∀ t ∈ tasks, t.id < nextId
  apart : tasks.Pairwise Apart
  timers : ∀ t ∈ tasks, ∀ timer, t.timer? = some timer → timer ∈ timers

namespace Shown

variable {tasks : List Task} {nextId : Nat} {timers : List Timer} {t : Task} {timer : Timer}

/-- No tasks at all are shown by any countdowns. -/
theorem nil : Shown [] nextId timers where
  numbered := List.forall_mem_nil _
  apart := List.Pairwise.nil
  timers := List.forall_mem_nil _

/-- Fewer tasks are shown, with larger numbers left for others, by more countdowns. -/
theorem mono (h : Shown tasks nextId timers) {tasks' : List Task} {nextId' : Nat}
    {timers' : List Timer} (htasks : tasks'.Sublist tasks) (hnext : nextId ≤ nextId')
    (htimers : timers ⊆ timers') : Shown tasks' nextId' timers' where
  numbered := fun t ht => Nat.lt_of_lt_of_le (h.numbered t (htasks.subset ht)) hnext
  apart := h.apart.sublist htasks
  timers := fun t ht timer htimer => htimers (h.timers t (htasks.subset ht) timer htimer)

/-- One more task is shown if its number and its generation are its own. -/
theorem append (h : Shown tasks nextId timers) (hnumber : t.id < nextId)
    (hapart : ∀ t' ∈ tasks, t'.Apart t) (htimer : ∀ timer, t.timer? = some timer → timer ∈ timers) :
    Shown (tasks ++ [t]) nextId timers where
  numbered := fun t' ht' => by
    rcases List.mem_append.mp ht' with ht' | ht'
    · exact h.numbered t' ht'
    · rw [List.mem_singleton.mp ht']
      exact hnumber
  apart := by
    refine List.pairwise_append.mpr ⟨h.apart, List.pairwise_singleton _ _, ?_⟩
    intro t' ht' t'' ht''
    rw [List.mem_singleton.mp ht'']
    exact hapart t' ht'
  timers := fun t' ht' => by
    rcases List.mem_append.mp ht' with ht' | ht'
    · exact h.timers t' ht'
    · rw [List.mem_singleton.mp ht']
      exact htimer

/-- A countdown that is armed for a generation that none has is shown by a new task. -/
theorem arm (h : Shown tasks nextId timers) {generation : Nat}
    (hfresh : ∀ timer ∈ timers, timer.generation ≠ generation) (due period : Nat) :
    Shown (tasks ++ [⟨nextId, due, .armed generation period⟩]) (nextId + 1)
      (timers ++ [⟨generation, .armed⟩]) := by
  have hmore := h.mono (List.Sublist.refl tasks) (Nat.le_succ nextId)
    (List.subset_append_left timers [⟨generation, .armed⟩])
  refine hmore.append (Nat.lt_succ_self nextId) ?_ ?_
  · intro t' ht'
    refine ⟨Nat.ne_of_lt (h.numbered t' ht'), ?_⟩
    intro timer' htimer' timer htimer
    cases htimer
    exact hfresh timer' (h.timers t' ht' timer' htimer')
  · intro timer htimer
    cases htimer
    exact List.mem_append_right timers (List.mem_singleton.mpr rfl)

/-- A watcher is no countdown. -/
theorem watch (h : Shown tasks nextId timers) {id due interval : Nat} (hnumber : id < nextId)
    (hother : ∀ t' ∈ tasks, t'.id ≠ id) :
    Shown (tasks ++ [⟨id, due, .watching interval⟩]) nextId timers :=
  h.append hnumber (fun t' ht' => ⟨hother t' ht', fun _ _ _ htimer => by cases htimer⟩)
    (fun _ htimer => by cases htimer)

/-- Shown tasks with different numbers have different generations. -/
theorem apart_of_ne (h : Shown tasks nextId timers) {t' : Task} (ht' : t' ∈ tasks) (ht : t ∈ tasks)
    (hne : t'.id ≠ t.id) : t'.Apart t :=
  h.apart.forall ht' ht fun heq => hne (congrArg Task.id heq)

/-- Where a countdown goes to another stage, the tasks apart from its own are shown as before. -/
theorem others (h : Shown tasks nextId timers) (ht : t ∈ tasks) (htimer : t.timer? = some timer)
    {i : Nat} (hi : timers[i]? = some timer) (stage : Store.Stage) :
    Shown (tasks.filter (·.id ≠ t.id)) nextId (timers.set i { timer with stage := stage }) where
  numbered := fun t' ht' => h.numbered t' (List.mem_filter.mp ht').1
  apart := h.apart.filter _
  timers := fun t' ht' timer' htimer' => by
    obtain ⟨ht', hne⟩ := List.mem_filter.mp ht'
    have hapart : t'.Apart t := h.apart_of_ne ht' ht (by simpa using hne)
    obtain ⟨j, hj⟩ := List.mem_iff_getElem?.mp (h.timers t' ht' timer' htimer')
    -- The countdown of another task has another generation, so it stands in another place.
    have hij : i ≠ j := by
      rintro rfl
      obtain rfl := Option.some.inj (hi.symm.trans hj)
      exact hapart.2 timer htimer' timer htimer rfl
    exact List.mem_of_getElem? ((List.getElem?_set_ne hij).trans hj)

end Shown

end Task

namespace Engine

/-- A site as a runtime sees it: the store and the files are the runtime's, and every task that counts
down is one of its countdowns. The runtime may have more of them than the site has armed: these never
take a step. -/
structure Shows (e : Engine) (r : Runtime) : Prop where
  scene : e.scene = r.scene
  ordered : r.Ordered
  tasks : Task.Shown e.tasks e.nextId r.timers

/-- A site shows a runtime that has come from the given one. -/
def Follows (e : Engine) (r : Runtime) : Prop := ∃ moves, e.Shows (r.run moves)

variable {e : Engine} {r : Runtime}

/-! ## Operations -/

/-- What an act inside a runtime or outside of one makes of a site, apart from the counters. -/
def performed (e : Engine) (inside : Bool) (a : Act) : Engine :=
  let e' := { e with store := (e.scene.act a).store, files := (e.scene.act a).files }
  match e.scene.reload? a with
  | some outcome => e'.noteReload inside outcome
  | none => e'

/-- An act makes of a site what it makes of the runtime. -/
theorem Shows.performed (h : e.Shows r) (inside : Bool) (a : Act) :
    (e.performed inside a).Shows (r.perform a) := by
  have hordered : (r.perform a).Ordered := h.ordered.step (.act a)
  have hgeneration := e.scene.generation_act a
  unfold Runtime.perform at hordered ⊢
  unfold Engine.performed
  rw [← h.scene] at hordered ⊢
  -- Only a reload that meets a timed banner touches the tasks and the countdowns.
  match hreload : e.scene.reload? a with
  | none =>
    rw [hreload] at hordered
    exact ⟨rfl, hordered, h.tasks⟩
  | some .unchanged =>
    rw [hreload] at hordered
    exact ⟨rfl, hordered, h.tasks⟩
  | some .blockedRefreshed =>
    rw [hreload] at hordered
    exact ⟨rfl, hordered, h.tasks⟩
  | some (.reloaded false) =>
    rw [hreload] at hordered
    exact ⟨rfl, hordered, h.tasks⟩
  | some (.reloaded true) =>
    rw [hreload] at hordered hgeneration
    have hnext : (e.scene.act a).store.generation = r.scene.store.generation + 1 := by
      rw [← h.scene]
      exact hgeneration
    have hfresh : ∀ timer ∈ r.timers, timer.generation ≠ (e.scene.act a).store.generation := by
      intro timer htimer
      have hle := h.ordered.bounded _ (List.mem_map_of_mem htimer)
      omega
    cases inside with
    | true => exact ⟨rfl, hordered, h.tasks.arm hfresh _ _⟩
    | false =>
      exact ⟨rfl, hordered, h.tasks.mono (List.Sublist.refl _) (Nat.le_refl _)
        (List.subset_append_left _ _)⟩

/-- Reading the files again is an act, apart from the counters. -/
theorem refreshFrom_eq (e : Engine) (inside : Bool) :
    (e.refreshFrom inside).2 =
      { e.performed inside .refresh with metrics := (e.refreshFrom inside).2.metrics } := by
  unfold refreshFrom Engine.performed Scene.act Scene.reload?
  cases hreload : e.store.reload e.files with
  | error f =>
    simp only [scene, hreload]
    rfl
  | ok r =>
    simp only [scene, hreload]
    rfl

/-- Changing a value is an act. -/
theorem updateFrom_eq (e : Engine) (inside : Bool) (parent key value : Text) :
    (e.updateFrom inside parent key value).2 =
      e.performed inside (.update parent key value) := by
  unfold updateFrom Engine.performed Scene.act Scene.reload?
  cases hresult : (e.store.update e.files parent key value).result with
  | error f =>
    simp only [scene, hresult]
    rfl
  | ok r =>
    simp only [scene, hresult]
    rfl

/-- Switching off a banner is an act, apart from the counters. -/
theorem expire_eq (e : Engine) (generation : Nat) :
    (e.expire generation).2 =
      { e.performed true (.expire generation) with
        metrics := (e.expire generation).2.metrics } := by
  unfold expire Engine.performed Scene.act Scene.reload?
  obtain ⟨-, hexpire⟩ | ⟨-, f, -, hexpire⟩ | ⟨-, found, outcome, -, hexpire⟩ :=
    e.store.expire_cases e.files generation
  · simp only [scene, hexpire]
    rfl
  · simp only [scene, hexpire]
    rfl
  · simp only [scene, hexpire]
    rfl

/-- A runtime does not see the counters. -/
theorem Shows.withMetrics (h : e.Shows r) (m : Metrics) : Shows { e with metrics := m } r :=
  ⟨h.scene, h.ordered, h.tasks⟩

/-- Reading the files again makes of a site what it makes of the runtime. -/
theorem Shows.refreshFrom (h : e.Shows r) (inside : Bool) :
    (e.refreshFrom inside).2.Shows (r.perform .refresh) := by
  rw [refreshFrom_eq]
  exact (h.performed inside .refresh).withMetrics _

/-- Changing a value makes of a site what it makes of the runtime. -/
theorem Shows.updateFrom (h : e.Shows r) (inside : Bool) (parent key value : Text) :
    (e.updateFrom inside parent key value).2.Shows (r.perform (.update parent key value)) := by
  rw [updateFrom_eq]
  exact h.performed _ _

/-- Switching off a banner makes of a site what it makes of the runtime. -/
theorem Shows.expire (h : e.Shows r) (generation : Nat) :
    (e.expire generation).2.Shows (r.perform (.expire generation)) := by
  rw [expire_eq]
  exact (h.performed _ _).withMetrics _

/-- No operation ends a task or gives it other work. -/
theorem mem_performed {t : Task} (ht : t ∈ e.tasks) (inside : Bool) (a : Act) :
    t ∈ (e.performed inside a).tasks := by
  unfold Engine.performed
  match e.scene.reload? a with
  | none => exact ht
  | some .unchanged => exact ht
  | some .blockedRefreshed => exact ht
  | some (.reloaded timed) =>
    unfold noteReload
    dsimp only
    split
    · exact List.mem_append_left _ ht
    · exact ht

/-- Reading the files again ends no task. -/
theorem mem_refreshFrom {t : Task} (ht : t ∈ e.tasks) (inside : Bool) :
    t ∈ (e.refreshFrom inside).2.tasks := by
  rw [refreshFrom_eq]
  exact mem_performed ht inside .refresh

/-- Switching off a banner ends no task. -/
theorem mem_expire {t : Task} (ht : t ∈ e.tasks) (generation : Nat) :
    t ∈ (e.expire generation).2.tasks := by
  rw [expire_eq]
  exact mem_performed ht _ _

/-! ## A countdown and its task -/

section Countdown

variable {t : Task} {timer : Timer} {i : Nat}

/-- Ending a task is nothing to the runtime: a countdown may take no more steps. -/
theorem Shows.finish (h : e.Shows r) (id : Nat) (how : TaskEnd) : (e.finish id how).Shows r :=
  ⟨h.scene, h.ordered,
    h.tasks.mono List.filter_sublist (Nat.le_refl _) (List.Subset.refl _)⟩

/-- A task that ends is a countdown that goes to whatever stage. -/
theorem Shows.finish_become (h : e.Shows r) (ht : t ∈ e.tasks) (htimer : t.timer? = some timer)
    (hi : r.timers[i]? = some timer) (stage : Store.Stage) (how : TaskEnd) :
    (e.finish t.id how).Shows (r.become i timer stage) :=
  ⟨h.scene, h.ordered.become hi stage, h.tasks.others ht htimer hi stage⟩

/-- A task that goes on is a countdown that goes to the stage of its new work. -/
theorem Shows.resume_become (h : e.Shows r) (ht : t ∈ e.tasks) (htimer : t.timer? = some timer)
    (hi : r.timers[i]? = some timer) {stage : Store.Stage} {due : Nat} {work : Work}
    (hwork : Task.timer? ⟨t.id, due, work⟩ = some { timer with stage := stage }) :
    (e.resume t.id due work).Shows (r.become i timer stage) := by
  refine ⟨h.scene, h.ordered.become hi stage, ?_⟩
  refine (h.tasks.others ht htimer hi stage).append (h.tasks.numbered t ht) ?_ ?_
  · intro t' ht'
    obtain ⟨ht', hne⟩ := List.mem_filter.mp ht'
    have hapart : t'.Apart t := h.tasks.apart_of_ne ht' ht (by simpa using hne)
    refine ⟨hapart.1, ?_⟩
    intro timer' htimer' timer'' htimer''
    obtain rfl := Option.some.inj (hwork.symm.trans htimer'')
    exact hapart.2 timer' htimer' timer htimer
  · intro timer' htimer'
    obtain rfl := Option.some.inj (hwork.symm.trans htimer')
    exact List.mem_of_getElem? (Runtime.timers_become hi stage)

/-- The tick of a task is the tick of its countdown. -/
theorem Shows.tick (h : e.Shows r) {id due generation period : Nat} {count : Countdown}
    (ht : ⟨id, due, .counting generation period count⟩ ∈ e.tasks)
    (hi : r.timers[i]? = some ⟨generation, .waiting count⟩) :
    (e.tick id generation period count).Shows (r.tick i generation count) := by
  have hscene : e.store = r.scene.store := congrArg Scene.store h.scene
  unfold Engine.tick Runtime.tick
  rw [hscene]
  by_cases hgeneration : r.scene.store.generation = generation
  · rw [if_neg (not_not_intro hgeneration), if_pos hgeneration]
    -- What the tick does to the store comes first, and then the task goes to its next stage.
    cases count.tick r.scene.store.snapshot.banner.on with
    | mk outcome next =>
      cases outcome with
      | running remaining =>
        have hcounted := h.performed true (.tick generation remaining)
        have hmem := mem_performed ht true (.tick generation remaining)
        rw [← hscene]
        exact hcounted.resume_become hmem rfl (Runtime.timers_perform hi _) rfl
      | expired =>
        have hmem := mem_expire ht generation
        exact (h.expire generation).finish_become hmem rfl (Runtime.timers_perform hi _) .ended _
      | cancelled => exact h.finish_become ht rfl hi .ended _
      | idle => exact h.finish_become ht rfl hi .ended _
  · rw [if_pos hgeneration, if_neg hgeneration]
    exact h.finish_become ht rfl hi .ended _

end Countdown

/-- A site follows the runtime that it shows. -/
theorem Shows.follows (h : e.Shows r) : e.Follows r := ⟨[], h⟩

/-- A site follows a runtime if it follows what has come of that one. -/
theorem Follows.of_run {moves : List Store.Move} (h : e.Follows (r.run moves)) : e.Follows r := by
  obtain ⟨more, hmore⟩ := h
  refine ⟨moves ++ more, ?_⟩
  rwa [Runtime.run, List.foldl_append]

/-- A site follows a runtime if it follows that one after an act. -/
theorem Follows.of_perform {a : Act} (h : e.Follows (r.perform a)) : e.Follows r := by
  have hrun : e.Follows (r.run [.act a]) := h
  exact hrun.of_run

/-- A tick takes a site where moves take the runtime. -/
theorem Shows.follows_tick (h : e.Shows r) {id due generation period : Nat} {count : Countdown}
    (ht : ⟨id, due, .counting generation period count⟩ ∈ e.tasks) :
    (e.tick id generation period count).Follows r := by
  obtain ⟨i, hi⟩ := List.mem_iff_getElem?.mp (h.tasks.timers _ ht _ rfl)
  have htick := h.tick ht hi
  rw [← Runtime.run_tick hi] at htick
  exact htick.follows.of_run

/-- Ticks without waiting are ticks. -/
theorem Shows.follows_tickAtOnce (h : e.Shows r) (id n : Nat) : (e.tickAtOnce id n).Follows r := by
  induction n generalizing e r with
  | zero => exact h.follows
  | succ n ih =>
    unfold tickAtOnce
    split
    · next generation period count hwork =>
      obtain ⟨⟨id', due, work⟩, hfind, rfl⟩ := Option.map_eq_some_iff.mp hwork
      obtain rfl : id' = id := by simpa using List.find?_some hfind
      obtain ⟨moves, hticked⟩ := h.follows_tick (List.mem_of_find?_eq_some hfind)
      exact (ih hticked).of_run
    · exact h.follows

/-- A task that starts is a countdown that looks at the banner, and then may tick. -/
theorem Shows.follows_start (h : e.Shows r) {id due generation period : Nat}
    (ht : ⟨id, due, .armed generation period⟩ ∈ e.tasks) :
    (e.start id generation period).Follows r := by
  obtain ⟨i, hi⟩ := List.mem_iff_getElem?.mp (h.tasks.timers _ ht _ rfl)
  have hscene : e.store = r.scene.store := congrArg Scene.store h.scene
  have hlook : r.run [.advance i] = r.advance i ⟨generation, .armed⟩ := Runtime.step_advance hi
  apply Follows.of_run
  rw [hlook]
  unfold start Runtime.advance
  rw [hscene]
  dsimp only
  generalize Countdown.ofBanner r.scene.store.snapshot.banner = count
  by_cases hactive : count.phase = .active
  · have hresumed : (e.resume id (e.now + period) (.counting generation period count)).Shows
        (r.become i ⟨generation, .armed⟩ (.waiting count)) := h.resume_become ht rfl hi rfl
    rw [if_neg (not_not_intro hactive), if_pos hactive]
    split
    · exact hresumed.follows_tickAtOnce _ _
    · exact hresumed.follows
  · rw [if_pos hactive, if_neg hactive]
    exact (h.finish_become ht rfl hi .ended _).follows

/-! ## The tasks one after the other -/

section Others

variable {t : Task} {id : Nat}

/-- Ending a task leaves the other ones. -/
theorem mem_finish (ht : t ∈ e.tasks) (hne : t.id ≠ id) (how : TaskEnd) :
    t ∈ (e.finish id how).tasks :=
  List.mem_filter.mpr ⟨ht, by simpa using hne⟩

/-- A task that goes on leaves the other ones. -/
theorem mem_resume (ht : t ∈ e.tasks) (hne : t.id ≠ id) (due : Nat) (work : Work) :
    t ∈ (e.resume id due work).tasks :=
  List.mem_append_left _ (List.mem_filter.mpr ⟨ht, by simpa using hne⟩)

/-- A task that ticks leaves the other ones. -/
theorem mem_tick (ht : t ∈ e.tasks) (hne : t.id ≠ id) (generation period : Nat)
    (count : Countdown) : t ∈ (e.tick id generation period count).tasks := by
  unfold tick
  split
  · exact mem_finish ht hne _
  · split
    · exact mem_resume ht hne _ _
    · exact mem_finish (mem_expire ht generation) hne _
    · exact mem_finish ht hne _
    · exact mem_finish ht hne _

/-- A task that ticks without waiting leaves the other ones. -/
theorem mem_tickAtOnce (ht : t ∈ e.tasks) (hne : t.id ≠ id) (n : Nat) :
    t ∈ (e.tickAtOnce id n).tasks := by
  induction n generalizing e with
  | zero => exact ht
  | succ n ih =>
    unfold tickAtOnce
    split
    · exact ih (mem_tick ht hne _ _ _)
    · exact ht

/-- A task that starts leaves the other ones. -/
theorem mem_start (ht : t ∈ e.tasks) (hne : t.id ≠ id) (generation period : Nat) :
    t ∈ (e.start id generation period).tasks := by
  unfold start
  dsimp only
  split
  · exact mem_finish ht hne _
  · split
    · exact mem_tickAtOnce (mem_resume ht hne _ _) hne _
    · exact mem_resume ht hne _ _

/-- Waking a task does nothing to the other tasks. -/
theorem mem_wake (ht : t ∈ e.tasks) {woken : Task} (hne : t.id ≠ woken.id) :
    t ∈ (e.wake woken).tasks := by
  have hrefresh := mem_refreshFrom ht true
  unfold wake
  split
  · exact mem_finish ht hne _
  · split
    · exact mem_start ht hne _ _
    · exact mem_tick ht hne _ _ _
    · split
      · next hresult =>
        rw [hresult] at hrefresh
        exact mem_finish hrefresh hne _
      · next hresult =>
        rw [hresult] at hrefresh
        exact mem_resume hrefresh hne _ _

end Others

/-- A watcher that goes on is nothing to the runtime. -/
theorem Shows.resume_watching (h : e.Shows r) {t : Task} (ht : t ∈ e.tasks) (due interval : Nat) :
    (e.resume t.id due (.watching interval)).Shows r := by
  have hrest := h.tasks.mono (List.filter_sublist (p := (·.id ≠ t.id))) (Nat.le_refl _)
    (List.Subset.refl _)
  refine ⟨h.scene, h.ordered, hrest.watch (h.tasks.numbered t ht) ?_⟩
  intro t' ht'
  simpa using (List.mem_filter.mp ht').2

/-- Waking a task takes a site where moves take the runtime. -/
theorem Shows.follows_wake (h : e.Shows r) {t : Task} (ht : t ∈ e.tasks) :
    (e.wake t).Follows r := by
  have hrefresh := h.refreshFrom true
  have hmem := mem_refreshFrom ht true
  obtain ⟨id, due, work⟩ := t
  unfold wake
  split
  · exact (h.finish _ _).follows
  · cases work with
    | armed generation period => exact h.follows_start ht
    | counting generation period count => exact h.follows_tick ht
    | watching interval =>
      apply Follows.of_perform
      dsimp only
      split
      · next hresult =>
        rw [hresult] at hrefresh
        exact (hrefresh.finish _ _).follows
      · next hresult =>
        rw [hresult] at hrefresh hmem
        exact (hrefresh.resume_watching hmem _ _).follows

/-- Tasks that are woken one after the other are all still there when their turn comes. -/
theorem Shows.follows_wakes (h : e.Shows r) {woken : List Task} (hwoken : woken ⊆ e.tasks)
    (hids : woken.Pairwise fun t t' => t.id ≠ t'.id) : (woken.foldl wake e).Follows r := by
  induction woken generalizing e r with
  | nil => exact h.follows
  | cons t rest ih =>
    obtain ⟨hnew, hrest⟩ := List.pairwise_cons.mp hids
    obtain ⟨ht, hsubset⟩ := List.cons_subset.mp hwoken
    obtain ⟨moves, hafter⟩ := h.follows_wake ht
    have hstill : rest ⊆ (e.wake t).tasks := by
      intro t' ht'
      exact mem_wake (hsubset ht') (hnew t' ht').symm
    exact (ih hafter hstill hrest).of_run

/-- Waking all tasks that can do something takes a site where moves take the runtime. -/
theorem Shows.follows_wakeReady (h : e.Shows r) : e.wakeReady.Follows r :=
  h.follows_wakes List.filter_sublist.subset ((h.tasks.apart.filter _).imp And.left)

/-- Coming to rest takes a site where moves take the runtime. -/
theorem Shows.follows_settle (h : e.Shows r) : e.settle.Follows r := by
  obtain ⟨moves, hfirst⟩ := h.follows_wakeReady
  exact hfirst.follows_wakeReady.of_run

/-! ## Time and events -/

/-- A runtime does not see the time. -/
theorem Shows.withNow (h : e.Shows r) (now : Nat) : Shows { e with now := now } r :=
  ⟨h.scene, h.ordered, h.tasks⟩

/-- Time that passes, with all that happens by then, takes a site where moves take the runtime. -/
theorem Shows.follows_passTo (h : e.Shows r) (deadline stops : Nat) :
    (passTo deadline stops e).Follows r := by
  induction stops generalizing e r with
  | zero => exact (h.withNow _).follows
  | succ stops ih =>
    unfold passTo
    split
    · exact (h.withNow _).follows
    · next due _ =>
      split
      · obtain ⟨moves, hsettled⟩ := (h.withNow (max e.now due)).follows_settle
        exact (ih hsettled).of_run
      · exact (h.withNow _).follows

/-- A site that lets time pass is a runtime that runs. -/
theorem Follows.sleep (h : e.Follows r) (ms : Nat) : (e.sleep ms).Follows r := by
  obtain ⟨moves, hshows⟩ := h
  exact (hshows.follows_passTo _ _).of_run

/-- Telling a watcher of a change takes a site where moves take the runtime. -/
theorem Shows.follows_lookNow (h : e.Shows r) (t : Task) : (e.lookNow t).Follows r := by
  have hrefresh := h.refreshFrom true
  unfold lookNow
  split
  · apply Follows.of_perform
    split
    · next hresult =>
      rw [hresult] at hrefresh
      exact (hrefresh.finish _ _).follows
    · next hresult =>
      rw [hresult] at hrefresh
      exact hrefresh.follows
  · exact h.follows

/-- Telling several watchers of a change takes a site where moves take the runtime. -/
theorem Shows.follows_lookNows (h : e.Shows r) (tasks : List Task) :
    (tasks.foldl lookNow e).Follows r := by
  induction tasks generalizing e r with
  | nil => exact h.follows
  | cons t rest ih =>
    obtain ⟨moves, hlooked⟩ := h.follows_lookNow t
    exact (ih hlooked).of_run

/-- A site whose watchers are told of a change is a runtime that runs. -/
theorem Follows.notice (h : e.Follows r) (changed : Path) : (e.notice changed).Follows r := by
  obtain ⟨moves, hshows⟩ := h
  unfold Engine.notice
  dsimp only
  split
  · exact (hshows.follows_lookNows _).of_run
  · exact hshows.follows.of_run

/-- A site that begins to watch its files is a runtime that runs. -/
theorem Follows.watch (h : e.Follows r) (interval : Nat) : (e.watch interval).Follows r := by
  obtain ⟨moves, hshows⟩ := h
  have htasks := hshows.tasks.mono (List.Sublist.refl _) (Nat.le_succ _) (List.Subset.refl _)
  exact ⟨moves, hshows.scene, hshows.ordered,
    htasks.watch (Nat.lt_succ_self _) fun t ht => Nat.ne_of_lt (hshows.tasks.numbered t ht)⟩

/-- A site that is asked to read its files again is a runtime that runs. -/
theorem Follows.refresh (h : e.Follows r) : e.refresh.2.Follows r := by
  obtain ⟨moves, hshows⟩ := h
  exact (hshows.refreshFrom _).follows.of_perform.of_run

/-- A site of which a value is changed is a runtime that runs. -/
theorem Follows.update (h : e.Follows r) (parent key value : Text) :
    (e.update parent key value).2.Follows r := by
  obtain ⟨moves, hshows⟩ := h
  exact (hshows.updateFrom _ parent key value).follows.of_perform.of_run

/-- A site whose files somebody else changes is a runtime that runs. -/
theorem Follows.edit (h : e.Follows r) (files : Tree) : Follows { e with files := files } r := by
  obtain ⟨moves, hshows⟩ := h
  exact (hshows.performed true (.edit files)).follows.of_perform.of_run

/-- A site that is told to stop is a runtime that runs. -/
theorem Follows.stop (h : e.Follows r) : e.stop.Follows r := by
  obtain ⟨moves, hshows⟩ := h
  exact ⟨moves, hshows.scene, hshows.ordered, hshows.tasks⟩

/-! ## The beginning -/

/-- A reload that is noted makes of a site what reading the files makes of the runtime. -/
theorem Shows.noteReload (h : e.Shows r) {outcome : Reload} {s : Store}
    (hreload : e.store.reload e.files = .ok (outcome, s)) (inside : Bool) :
    (Engine.noteReload { e with store := s } inside outcome).Shows (r.perform .refresh) := by
  have hread := h.performed inside .refresh
  have hscene : e.scene.store.reload e.scene.files = .ok (outcome, s) := hreload
  unfold Engine.performed Scene.act Scene.reload? at hread
  rw [hscene] at hread
  exact hread

/-- A site begins as a runtime that has read the files for the first time. -/
theorem follows_of_openAt {files : Tree} {metrics : Metrics} {root : Path}
    {settings : Config.Settings} {inside : Bool}
    (h : (openAt files metrics root settings inside).1 = .ok e) :
    e.Follows (.initial (.ofRoot root) settings e.files) := by
  unfold openAt at h
  dsimp only at h
  split at h
  · cases h
  · next outcome s hresult =>
    obtain rfl := Except.ok.inj h
    rw [files_noteReload]
    have hbefore : Shows ⟨(Store.openAt files root settings).files,
        .initial (.ofRoot root) settings, countOpening metrics (Store.openAt files root settings),
        inside, false, 0, [], [], 0⟩
        (.initial (.ofRoot root) settings (Store.openAt files root settings).files) :=
      { scene := rfl
        ordered := Runtime.ordered_initial _ _ _
        tasks := .nil }
    exact (hbefore.noteReload (Store.reload_of_openAt hresult) _).follows.of_perform

/-- No two countdowns of a site have the same generation. -/
theorem Follows.generations_nodup (h : e.Follows r) :
    ((e.tasks.filterMap Task.timer?).map Timer.generation).Nodup := by
  obtain ⟨moves, hshows⟩ := h
  rw [List.Nodup, List.pairwise_map, List.pairwise_filterMap]
  refine hshows.tasks.apart.imp ?_
  intro t t' hapart timer htimer timer' htimer'
  exact hapart.2 timer htimer timer' htimer'

end Engine

end SiteGate
