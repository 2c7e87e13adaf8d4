import SiteGate.Engine
import SiteGate.Proofs.Store.Run

/-!
# A running site runs its store

Whatever a running site does, its store and its files go through a run of the store: what the
operations do is one act each (`scene_refresh`, `scene_update`, `scene_expire`), and what its tasks
do in the background is a sequence of them (`leads_wake`). So what holds of all runs of a store that
has been opened holds of the site from its beginning (`opened_of_openAt`), while time passes
(`leads_sleep`), and whenever the file system tells of a change (`leads_notice`).
-/

set_option autoImplicit false

namespace SiteGate

namespace Store.Scene

/-- A run goes from one scene to another. -/
def Leads (w v : Scene) : Prop := ∃ acts, w.run acts = v

/-- Nothing has to happen. -/
theorem Leads.refl (w : Scene) : w.Leads w := ⟨[], rfl⟩

/-- A run may be one act. -/
theorem Leads.act (w : Scene) (a : Act) : w.Leads (w.act a) := ⟨[a], rfl⟩

/-- Two runs one after the other are a run. -/
theorem Leads.trans {u v w : Scene} (h : u.Leads v) (h' : v.Leads w) : u.Leads w := by
  obtain ⟨before, rfl⟩ := h
  obtain ⟨after, rfl⟩ := h'
  refine ⟨before ++ after, ?_⟩
  simp [run, List.foldl_append]

end Store.Scene

namespace Engine

open Banner (Countdown)
open Store (Scene)

/-- The store of a site with the files that it works on. -/
def scene (e : Engine) : Scene := ⟨e.store, e.files⟩

/-! ## The operations -/

/-- Spawning a task leaves the scene. -/
@[simp] theorem scene_spawn (e : Engine) (work : Work) (due : Nat) :
    (e.spawn work due).scene = e.scene := rfl

/-- Ending a task leaves the scene. -/
@[simp] theorem scene_finish (e : Engine) (id : Nat) (how : TaskEnd) :
    (e.finish id how).scene = e.scene := rfl

/-- Giving a task other work leaves the scene. -/
@[simp] theorem scene_resume (e : Engine) (id due : Nat) (work : Work) :
    (e.resume id due work).scene = e.scene := rfl

/-- Noting a reload leaves the scene. -/
@[simp] theorem scene_noteReload (e : Engine) (inside : Bool) (outcome : Reload) :
    (e.noteReload inside outcome).scene = e.scene := by
  cases outcome with
  | unchanged => rfl
  | blockedRefreshed => rfl
  | reloaded timed =>
    unfold noteReload
    by_cases hcounted : (timed && inside) = true
    · simp only [hcounted, if_true]
      rfl
    · simp only [hcounted]
      rfl

/-- Noting a reload leaves the store. -/
@[simp] theorem store_noteReload (e : Engine) (inside : Bool) (outcome : Reload) :
    (e.noteReload inside outcome).store = e.store :=
  congrArg Scene.store (scene_noteReload e inside outcome)

/-- Noting a reload leaves the files. -/
@[simp] theorem files_noteReload (e : Engine) (inside : Bool) (outcome : Reload) :
    (e.noteReload inside outcome).files = e.files :=
  congrArg Scene.files (scene_noteReload e inside outcome)

/-- Reading the files again is an act, from wherever it is called. -/
theorem scene_refreshFrom (e : Engine) (inside : Bool) :
    (e.refreshFrom inside).2.scene = e.scene.act .refresh := by
  cases hreload : e.store.reload e.files with
  | error f => simp [refreshFrom, Scene.act, scene, hreload]
  | ok r => simp [refreshFrom, Scene.act, scene, hreload]

/-- A refresh is an act. -/
theorem scene_refresh (e : Engine) : e.refresh.2.scene = e.scene.act .refresh :=
  e.scene_refreshFrom e.concurrent

/-- Changing a value is an act, from wherever it is called. -/
theorem scene_updateFrom (e : Engine) (inside : Bool) (parent key value : Text) :
    (e.updateFrom inside parent key value).2.scene = e.scene.act (.update parent key value) := by
  unfold updateFrom
  cases hresult : (e.store.update e.files parent key value).result with
  | error f => simp [Scene.act, scene, hresult]
  | ok r => simp [Scene.act, scene, hresult]

/-- An update is an act. -/
theorem scene_update (e : Engine) (parent key value : Text) :
    (e.update parent key value).2.scene = e.scene.act (.update parent key value) :=
  e.scene_updateFrom e.concurrent parent key value

/-- Switching off a banner is an act. -/
theorem scene_expire (e : Engine) (generation : Nat) :
    (e.expire generation).2.scene = e.scene.act (.expire generation) := by
  obtain ⟨-, hexpire⟩ | ⟨-, f, -, hexpire⟩ | ⟨-, found, outcome, -, hexpire⟩ :=
    e.store.expire_cases e.files generation
  · simp [expire, Scene.act, scene, hexpire]
  · simp [expire, Scene.act, scene, hexpire]
  · simp [expire, Scene.act, scene, hexpire]

/-- Reading the files again is a run of the store. -/
theorem leads_refreshFrom (e : Engine) (inside : Bool) :
    e.scene.Leads (e.refreshFrom inside).2.scene := by
  rw [scene_refreshFrom]
  exact .act e.scene .refresh

/-- Switching off a banner is a run of the store. -/
theorem leads_expire (e : Engine) (generation : Nat) :
    e.scene.Leads (e.expire generation).2.scene := by
  rw [scene_expire]
  exact .act e.scene (.expire generation)

/-- What is done task by task is a run, if what is done for each is one. -/
theorem leads_foldl {f : Engine → Task → Engine} (h : ∀ (e : Engine) t, e.scene.Leads (f e t).scene)
    (e : Engine) (tasks : List Task) : e.scene.Leads (tasks.foldl f e).scene := by
  induction tasks generalizing e with
  | nil => exact .refl e.scene
  | cons t rest ih => exact (h e t).trans (ih (f e t))

/-! ## The tasks -/

/-- A tick of a countdown counts down, switches off the banner, or does nothing. -/
theorem leads_tick (e : Engine) (id generation period : Nat) (count : Countdown) :
    e.scene.Leads (e.tick id generation period count).scene := by
  unfold tick
  by_cases hgeneration : e.store.generation ≠ generation
  · rw [if_pos hgeneration]
    exact .refl e.scene
  · rw [if_neg hgeneration]
    split
    · next remaining _ _ => exact .act e.scene (.tick generation remaining)
    · exact e.leads_expire generation
    · exact .refl e.scene
    · exact .refl e.scene

/-- Many ticks are many acts. -/
theorem leads_tickAtOnce (e : Engine) (id n : Nat) :
    e.scene.Leads (e.tickAtOnce id n).scene := by
  induction n generalizing e with
  | zero => exact .refl e.scene
  | succ n ih =>
    unfold tickAtOnce
    split
    · exact (e.leads_tick id _ _ _).trans (ih _)
    · exact .refl e.scene

/-- A countdown that starts may tick at once. -/
theorem leads_start (e : Engine) (id generation period : Nat) :
    e.scene.Leads (e.start id generation period).scene := by
  unfold start
  dsimp only
  by_cases hactive : (Countdown.ofBanner e.store.snapshot.banner).phase ≠ .active
  · rw [if_pos hactive]
    exact .refl e.scene
  · rw [if_neg hactive]
    by_cases hatOnce : period = 0
    · rw [if_pos hatOnce]
      have hticks := leads_tickAtOnce (e.resume id (e.now + period)
        (.counting generation period (Countdown.ofBanner e.store.snapshot.banner))) id
        (Countdown.ofBanner e.store.snapshot.banner).remaining
      rw [scene_resume] at hticks
      exact hticks
    · rw [if_neg hatOnce]
      exact .refl e.scene

/-- Whatever a task does when it is woken is a run. -/
theorem leads_wake (e : Engine) (t : Task) : e.scene.Leads (e.wake t).scene := by
  unfold wake
  split
  · exact .refl e.scene
  · split
    · exact e.leads_start _ _ _
    · exact e.leads_tick _ _ _ _
    · have hrefresh := e.leads_refreshFrom true
      split
      · next hresult =>
        rw [hresult] at hrefresh
        exact hrefresh
      · next hresult =>
        rw [hresult] at hrefresh
        exact hrefresh

/-- Whatever the tasks do that can do something now is a run. -/
theorem leads_wakeReady (e : Engine) : e.scene.Leads e.wakeReady.scene := by
  unfold wakeReady
  exact leads_foldl leads_wake e (e.tasks.filter e.isReady)

/-- Letting everything happen that can happen now is a run. -/
theorem leads_settle (e : Engine) : e.scene.Leads e.settle.scene :=
  e.leads_wakeReady.trans e.wakeReady.leads_wakeReady

/-! ## Time and events -/

/-- While time passes up to a deadline there is a run. -/
theorem leads_passTo (e : Engine) (deadline stops : Nat) :
    e.scene.Leads (passTo deadline stops e).scene := by
  induction stops generalizing e with
  | zero => exact .refl e.scene
  | succ stops ih =>
    unfold passTo
    split
    · exact .refl e.scene
    · next due _ =>
      split
      · exact (leads_settle { e with now := max e.now due }).trans (ih _)
      · exact .refl e.scene

/-- While a site sleeps there is a run. -/
theorem leads_sleep (e : Engine) (ms : Nat) : e.scene.Leads (e.sleep ms).scene :=
  e.leads_passTo (e.now + ms) ms

/-- A watcher that looks before its time reads the files. -/
theorem leads_lookNow (e : Engine) (t : Task) : e.scene.Leads (e.lookNow t).scene := by
  have hrefresh := e.leads_refreshFrom true
  unfold lookNow
  split
  · split
    · next hresult =>
      rw [hresult] at hrefresh
      exact hrefresh
    · next hresult =>
      rw [hresult] at hrefresh
      exact hrefresh
  · exact .refl e.scene

/-- When the file system tells of a change there is a run. -/
theorem leads_notice (e : Engine) (changed : Path) :
    e.scene.Leads (e.notice changed).scene := by
  unfold notice
  dsimp only
  split
  · exact leads_foldl leads_lookNow e e.tasks
  · exact .refl e.scene

/-! ## Beginning -/

/-- A site begins with a store that has been opened. -/
theorem opened_of_openAt {files : Tree} {metrics : Metrics} {root : Path}
    {settings : Config.Settings} {concurrent : Bool} {e : Engine}
    (h : (openAt files metrics root settings concurrent).1 = .ok e) :
    Scene.opened? files root settings = some e.scene := by
  unfold openAt at h
  unfold Scene.opened?
  cases hresult : (Store.openAt files root settings).result with
  | error f => simp [hresult] at h
  | ok r =>
    simp only [hresult, Except.ok.injEq] at h
    subst h
    simp [scene, hresult]

end Engine

end SiteGate
