import SiteGate.Proofs.Digest
import SiteGate.Proofs.Site.Moves

/-!
# What a step does for the banner

Whatever happens to a site, its banner and the countdown of its generation stay as they are
(`Stays`), another configuration is read (`Reads`), or the countdown takes one of its own steps: it
starts, it counts, or it switches the banner off. There is nothing else (`Sound.turn`).
-/

set_option autoImplicit false

namespace SiteGate

open Banner (Countdown)
open Store (Act Scene)

/-! ## Banners that are read -/

/-- The banner as it is published: the count of a timed one is full. -/
def Config.MessageBanner.full (b : Config.MessageBanner) : Config.MessageBanner :=
  { b with tickCount := if b.isTimed then b.secondsToDisplay else b.tickCount }

namespace Store

variable {s t : Store} {files : Tree} {outcome : Reload}

/-- A reload leaves the banner, or begins a generation with the banner that it reads. -/
theorem banner_of_reload (h : s.reload files = .ok (outcome, t)) :
    ((∀ timed, outcome ≠ .reloaded timed) ∧ t.generation = s.generation ∧
      t.snapshot.banner = s.snapshot.banner ∧ t.snapshot.digest = s.snapshot.digest) ∨
    (outcome = .reloaded t.snapshot.banner.isTimed ∧ t.generation = s.generation + 1 ∧
      ∃ content, files.contentAt s.layout.configFile = .ok content ∧
        contentDigest content ≠ s.snapshot.digest ∧
        t.snapshot.banner = (Config.Snapshot.ofContent content).banner.full) := by
  unfold reload at h
  cases hcontent : files.contentAt s.layout.configFile with
  | error f => simp [hcontent] at h
  | ok content =>
    cases hblocked : Config.blockedContent files s.layout.blockedFile with
    | error f => simp [hcontent, hblocked] at h
    | ok blocked =>
      simp only [hcontent, hblocked, Except.ok.injEq] at h
      unfold reloadFrom at h
      by_cases hdigest : contentDigest content = s.snapshot.digest
      · rw [if_pos hdigest] at h
        refine .inl ?_
        split at h
        · obtain ⟨rfl, rfl⟩ := Prod.mk.inj h
          exact ⟨fun _ => nofun, rfl, rfl, rfl⟩
        · obtain ⟨rfl, rfl⟩ := Prod.mk.inj h
          exact ⟨fun _ => nofun, rfl, rfl, rfl⟩
      · rw [if_neg hdigest] at h
        obtain ⟨rfl, rfl⟩ := Prod.mk.inj h
        exact .inr ⟨rfl, rfl, content, rfl, hdigest, rfl⟩

/-- After a reload the snapshot has the digest of the content that was read. -/
theorem digest_of_reload (h : s.reload files = .ok (outcome, t)) :
    ∃ content, files.contentAt t.layout.configFile = .ok content ∧
      t.snapshot.digest = contentDigest content := by
  obtain ⟨content, blocked, hcontent, -, hdigest, -⟩ := digests_of_reload h
  exact ⟨content, hcontent, hdigest⟩

end Store

/-- A countdown that counts what a store has published, or is about to. -/
def Task.Counts (t : Task) (s : Store) : Prop :=
  s.snapshot.banner.isTimed = true ∧
    ((∃ period, t.work = .armed s.generation period ∧
      s.snapshot.banner.tickCount = s.snapshot.banner.secondsToDisplay) ∨
    ∃ period, t.work = .counting s.generation period ⟨.active, s.snapshot.banner.tickCount⟩)

/-- A task that has not started runs a countdown that has not. -/
theorem Task.timer?_of_armed {t : Task} {generation period : Nat}
    (h : t.work = .armed generation period) : t.timer? = some ⟨generation, .armed⟩ := by
  simp [timer?, h]

/-- A task that counts runs a countdown that waits for the next tick. -/
theorem Task.timer?_of_counting {t : Task} {generation period : Nat} {count : Countdown}
    (h : t.work = .counting generation period count) :
    t.timer? = some ⟨generation, .waiting count⟩ := by
  simp [timer?, h]

namespace Engine

variable {e e' : Engine} {t : Task}

/-! ## Steps -/

/-- The banner stays, and so does the countdown that counts it. Files are changed only if the step is
a call of others. -/
structure Stays (e : Engine) (called : Prop) (e' : Engine) : Prop where
  generation : e'.store.generation = e.store.generation
  banner : e'.store.snapshot.banner = e.store.snapshot.banner
  digest : e'.store.snapshot.digest = e.store.snapshot.digest
  files : e'.files = e.files ∨ called
  tasks : ∀ t ∈ e.tasks, t.Counts e.store → t ∈ e'.tasks
  ended : e.ended ⊆ e'.ended
  later : e.now ≤ e'.now
  due : ∀ t ∈ e.tasks, e.now ≤ t.due → e'.now ≤ t.due

/-- Another configuration is read, and a countdown is armed if its banner is timed and it is not read
for somebody who calls from outside a runtime. -/
structure Reads (e : Engine) (called : Prop) (e' : Engine) : Prop where
  generation : e'.store.generation = e.store.generation + 1
  content : ∃ content, e'.files.contentAt e.store.layout.configFile = .ok content ∧
    contentDigest content ≠ e.store.snapshot.digest ∧
    e'.store.snapshot.banner = (Config.Snapshot.ofContent content).banner.full
  files : e'.files = e.files ∨ called
  armed : (called → e.concurrent = true) → e'.store.snapshot.banner.isTimed = true →
    ⟨e.nextId, e'.now, .armed e'.store.generation e'.store.settings.tickInterval⟩ ∈ e'.tasks

/-- What a step can be for the banner. -/
inductive Turn (e : Engine) (called : Prop) : Engine → Prop where
  | stays {e' : Engine} (h : e.Stays called e') : Turn e called e'
  | reads {e' : Engine} (h : e.Reads called e') : Turn e called e'
  | starts {t : Task} {period : Nat} (ht : t ∈ e.tasks)
    (hwork : t.work = .armed e.store.generation period)
    (htimed : e.store.snapshot.banner.isTimed = true) :
    Turn e called (e.resume t.id (e.now + period) (.counting e.store.generation period
      ⟨.active, e.store.snapshot.banner.secondsToDisplay⟩))
  | counts {t : Task} {period remaining : Nat} (ht : t ∈ e.tasks)
    (hwork : t.work = .counting e.store.generation period ⟨.active, remaining + 2⟩)
    (hdue : t.due ≤ e.now) (hon : e.store.snapshot.banner.on = true) :
    Turn e called ({ e with store := e.store.setTicks e.store.generation (remaining + 1) }.resume t.id
      (e.now + period) (.counting e.store.generation period ⟨.active, remaining + 1⟩))
  /-- It is over, and switches the banner off. -/
  | expires {t : Task} {period remaining : Nat} (ht : t ∈ e.tasks)
    (hready : e.isReady t = true)
    (hwork : t.work = .counting e.store.generation period ⟨.active, remaining⟩)
    (hlast : remaining ≤ 1) (hon : e.store.snapshot.banner.on = true)
    (hwake : e.wake t = (e.expire e.store.generation).2.finish t.id
      (e.expire e.store.generation).1) : Turn e called (e.wake t)

/-- Nothing that happens leaves the banner as it is. -/
theorem Stays.refl (e : Engine) (called : Prop) : e.Stays called e where
  generation := rfl
  banner := rfl
  digest := rfl
  files := .inl rfl
  tasks := fun _ ht _ => ht
  ended := List.Subset.refl _
  later := Nat.le_refl _
  due := fun _ _ hdue => hdue

/-! ## Steps that do not concern the countdown -/

/-- Reading the files again leaves them. -/
theorem files_performed_refresh (e : Engine) (inside : Bool) :
    (e.performed inside .refresh).files = e.files := by
  rw [files_performed]
  unfold Scene.act
  cases e.scene.store.reload e.scene.files <;> rfl

/-- A refresh leaves the files. -/
theorem files_refreshFrom (e : Engine) (inside : Bool) :
    (e.refreshFrom inside).2.files = e.files := by
  rw [refreshFrom_eq]
  exact e.files_performed_refresh inside

section Others

variable {e₁ : Engine} {called : Prop} {id : Nat}

/-- The counters do not matter to what stays. -/
theorem Stays.withMetrics (h : e.Stays called e₁) (m : Metrics) :
    e.Stays called { e₁ with metrics := m } :=
  ⟨h.generation, h.banner, h.digest, h.files, h.tasks, h.ended, h.later, h.due⟩

/-- It does not matter to what stays where the site is called from. -/
theorem Stays.fromElsewhere (h : e.Stays called e₁) (inside : Bool) :
    e.Stays called { e₁ with concurrent := inside } :=
  ⟨h.generation, h.banner, h.digest, h.files, h.tasks, h.ended, h.later, h.due⟩

/-- Ending a task that counts nothing leaves the banner as it is. -/
theorem Stays.finish (h : e.Stays called e₁)
    (hother : ∀ t ∈ e.tasks, t.Counts e.store → t.id ≠ id) (how : TaskEnd) :
    e.Stays called (e₁.finish id how) where
  generation := h.generation
  banner := h.banner
  digest := h.digest
  files := h.files
  tasks := fun t ht hcounts => mem_finish (h.tasks t ht hcounts) (hother t ht hcounts) how
  ended := fun _ hx => List.mem_append_left _ (h.ended hx)
  later := h.later
  due := h.due

/-- A task that counts nothing leaves the banner as it is when it goes on. -/
theorem Stays.resume (h : e.Stays called e₁)
    (hother : ∀ t ∈ e.tasks, t.Counts e.store → t.id ≠ id) (due : Nat) (work : Work) :
    e.Stays called (e₁.resume id due work) where
  generation := h.generation
  banner := h.banner
  digest := h.digest
  files := h.files
  tasks := fun t ht hcounts => mem_resume (h.tasks t ht hcounts) (hother t ht hcounts) due work
  ended := h.ended
  later := h.later
  due := h.due

/-- The counters do not matter to what is read. -/
theorem Reads.withMetrics (h : e.Reads called e₁) (m : Metrics) :
    e.Reads called { e₁ with metrics := m } :=
  ⟨h.generation, h.content, h.files, h.armed⟩

/-- The task that has read a configuration may end. -/
theorem Reads.finish (h : e.Reads called e₁) (hid : id < e.nextId)
    (how : TaskEnd) : e.Reads called (e₁.finish id how) :=
  ⟨h.generation, h.content, h.files,
    fun hinside htimed => mem_finish (h.armed hinside htimed) (Nat.ne_of_gt hid) how⟩

/-- The task that has read a configuration may go on. -/
theorem Reads.resume (h : e.Reads called e₁) (hid : id < e.nextId)
    (due : Nat) (work : Work) : e.Reads called (e₁.resume id due work) :=
  ⟨h.generation, h.content, h.files,
    fun hinside htimed => mem_resume (h.armed hinside htimed) (Nat.ne_of_gt hid) due work⟩

end Others

/-- A reload or an update leaves the banner, or reads another configuration. -/
theorem turn_performed (e : Engine) (inside : Bool) (called : Prop) {a : Act}
    (ha : a = .refresh ∨ ∃ parent key value, a = .update parent key value)
    (hfiles : (e.performed inside a).files = e.files ∨ called)
    (hinside : (called → e.concurrent = true) → inside = true) :
    e.Stays called (e.performed inside a) ∨ e.Reads called (e.performed inside a) := by
  have htasks := e.tasks_performed inside a
  have hstore := e.store_performed inside a
  obtain ⟨hnone, hleft⟩ | ⟨outcome, houtcome, hreload⟩ := e.scene.reload?_cases ha
  · left
    rw [hnone, if_neg (by simp)] at htasks
    have hsame : (e.performed inside a).store = e.store := hstore.trans hleft
    exact
      { generation := congrArg Store.generation hsame
        banner := congrArg (·.snapshot.banner) hsame
        digest := congrArg (·.snapshot.digest) hsame
        files := hfiles
        tasks := fun t ht _ => htasks ▸ ht
        ended := by simp
        later := by simp
        due := by simp }
  · obtain ⟨hnot, hgeneration, hbanner, hdigest⟩ | ⟨rfl, hgeneration, hcontent⟩ :=
      Store.banner_of_reload hreload
    · left
      rw [houtcome, if_neg (by simp [hnot true])] at htasks
      exact
        { generation := (congrArg Store.generation hstore).trans hgeneration
          banner := (congrArg (·.snapshot.banner) hstore).trans hbanner
          digest := (congrArg (·.snapshot.digest) hstore).trans hdigest
          files := hfiles
          tasks := fun t ht _ => htasks ▸ ht
          ended := by simp
          later := by simp
          due := by simp }
    · right
      refine ⟨(congrArg Store.generation hstore).trans hgeneration, ?_, hfiles, ?_⟩
      · rw [files_performed, hstore]
        exact hcontent
      · intro hcalled htimed
        rw [hstore] at htimed ⊢
        rw [htasks, houtcome, htimed, hinside hcalled, if_pos ⟨rfl, rfl⟩, now_performed]
        exact List.mem_append_right _ (List.mem_singleton.mpr rfl)

/-- A refresh leaves the banner as it is, or reads another configuration. -/
theorem turn_refreshFrom (e : Engine) (called : Prop) {inside : Bool}
    (hinside : (called → e.concurrent = true) → inside = true) :
    e.Stays called (e.refreshFrom inside).2 ∨ e.Reads called (e.refreshFrom inside).2 := by
  have hfiles := e.files_performed_refresh inside
  rw [refreshFrom_eq]
  rcases e.turn_performed inside called (.inl rfl) (.inl hfiles) hinside with hstays | hreads
  · exact .inl (hstays.withMetrics _)
  · exact .inr (hreads.withMetrics _)

/-- A call leaves the banner, or reads another configuration. -/
theorem turn_call (hcall : e.Call e') : e.Turn True e' := by
  have hsame : ∀ {e' : Engine}, e'.store = e.store → e.tasks ⊆ e'.tasks → e'.ended = e.ended →
      e'.now = e.now → e.Turn True e' := by
    intro e' hstore htasks hended hnow
    exact .stays
      { generation := by rw [hstore]
        banner := by rw [hstore]
        digest := by rw [hstore]
        files := .inr trivial
        tasks := fun t ht _ => htasks ht
        ended := by rw [hended]; exact List.Subset.refl _
        later := Nat.le_of_eq hnow.symm
        due := fun t _ hdue => by rw [hnow]; exact hdue }
  cases hcall with
  | edit files => exact hsame rfl (List.Subset.refl _) rfl rfl
  | refresh =>
    rcases e.turn_refreshFrom True (fun hinside => hinside trivial) with hstays | hreads
    · exact .stays hstays
    · exact .reads hreads
  | update parent key value =>
    unfold Engine.update
    rw [updateFrom_eq]
    rcases e.turn_performed e.concurrent True (.inr ⟨parent, key, value, rfl⟩) (.inr trivial)
      (fun hinside => hinside trivial) with hstays | hreads
    · exact .stays hstays
    · exact .reads hreads
  | ask request => exact hsame rfl (List.Subset.refl _) rfl rfl
  | watch hpos => exact hsame rfl (List.subset_append_left _ _) rfl rfl

namespace Sound

/-- A task of a sound site has a number that has been given. -/
theorem numbered (h : e.Sound) (ht : t ∈ e.tasks) : t.id < e.nextId := by
  obtain ⟨r, hr⟩ := h.shown
  exact hr.tasks.numbered t ht

/-- A task that does not count is another one than those that do. -/
theorem others (h : e.Sound) (ht : t ∈ e.tasks) (hnot : ¬ t.Counts e.store) :
    ∀ t' ∈ e.tasks, t'.Counts e.store → t'.id ≠ t.id := by
  intro t' ht' hcounts
  have hne : t' ≠ t := by
    rintro rfl
    exact hnot hcounts
  exact (h.apart ht' ht hne).1

/-- Two countdowns of one generation in a sound site are one. -/
theorem unique (h : e.Sound) {t' : Task} (ht : t ∈ e.tasks) (ht' : t' ∈ e.tasks)
    {generation : Nat} {stage stage' : Store.Stage} (htimer : t.timer? = some ⟨generation, stage⟩)
    (htimer' : t'.timer? = some ⟨generation, stage'⟩) : t = t' := by
  by_contra hne
  exact (h.apart ht ht' hne).2 _ htimer _ htimer' rfl

/-- Waking a countdown is one of its steps, unless it does not count the banner. -/
theorem turn_wake (h : e.Sound) (ht : t ∈ e.tasks) (hready : e.isReady t = true) :
    e.Turn False (e.wake t) := by
  have hperiod := h.steady t ht
  have hid := h.numbered ht
  have hothers := h.others ht
  have hfinish : ¬ t.Counts e.store → e.Turn False (e.finish t.id (.ok ())) := fun hnot =>
    .stays ((Stays.refl e _).finish (hothers hnot) _)
  obtain ⟨id, due, work⟩ := t
  cases work with
  | armed generation period =>
    rw [wake_armed h.running, start_eq e id generation (show 0 < period from hperiod)]
    split
    · next htimed =>
      by_cases hgeneration : e.store.generation = generation
      · subst hgeneration
        exact .starts ht rfl htimed
      · refine .stays ((Stays.refl e _).resume (hothers ?_) _ _)
        rintro ⟨-, ⟨_, hwork, -⟩ | ⟨_, hwork⟩⟩
        · exact hgeneration (Work.armed.inj hwork).1.symm
        · cases hwork
    · next hnot => exact hfinish fun hcounts => hnot hcounts.1
  | counting generation period count =>
    obtain ⟨hstale, htick⟩ | ⟨hgeneration, hon, hphase, remaining, hremaining, htick⟩ |
        ⟨hgeneration, hon, hphase, hremaining, htick⟩ | ⟨hgeneration, hidle, htick⟩ :=
      e.tick_cases id generation period count
    · rw [wake_counting h.running, htick]
      refine hfinish ?_
      rintro ⟨-, ⟨_, hwork, -⟩ | ⟨_, hwork⟩⟩
      · cases hwork
      · exact hstale (Work.counting.inj hwork).1.symm
    · obtain ⟨phase, left⟩ := count
      subst hgeneration hphase hremaining
      have hdue : due ≤ e.now := by simpa [isReady_eq, h.running, Task.isArmed] using hready
      rw [wake_counting h.running, htick]
      exact .counts ht rfl hdue hon
    · obtain ⟨phase, left⟩ := count
      subst hgeneration hphase
      exact .expires ht hready rfl hremaining hon ((wake_counting h.running ..).trans htick)
    · rw [wake_counting h.running, htick]
      refine hfinish ?_
      rintro ⟨htimed, ⟨_, hwork, -⟩ | ⟨_, hwork⟩⟩
      · cases hwork
      · obtain ⟨-, -, rfl⟩ := Work.counting.inj hwork
        rcases hidle with hoff | hphase
        · simp [Config.MessageBanner.isTimed, hoff] at htimed
        · exact hphase rfl
  | watching interval =>
    have hnot : ¬ (Task.mk id due (.watching interval)).Counts e.store := by
      rintro ⟨-, ⟨_, hwork, -⟩ | ⟨_, hwork⟩⟩ <;> cases hwork
    rw [wake_watching h.running]
    unfold afterLook
    rcases e.turn_refreshFrom False (fun _ => rfl) with hstays | hreads
    · split
      · exact .stays (hstays.finish (hothers hnot) _)
      · exact .stays (hstays.resume (hothers hnot) _ _)
    · split
      · exact .reads (hreads.finish hid _)
      · exact .reads (hreads.resume hid _ _)

/-- Telling a watcher of a change is a turn of the site. -/
theorem turn_look (h : e.Sound) (ht : t ∈ e.tasks) : e.Turn False (e.lookNow t) := by
  obtain hlook | ⟨interval, hwork, hlook⟩ | ⟨interval, f, hwork, hlook⟩ := e.lookNow_cases t
  · rw [hlook]
    exact .stays (.refl e _)
  · rw [hlook]
    rcases e.turn_refreshFrom False (fun _ => rfl) with hstays | hreads
    · exact .stays hstays
    · exact .reads hreads
  · have hnot : ¬ t.Counts e.store := by
      rintro ⟨-, ⟨_, hcounts, -⟩ | ⟨_, hcounts⟩⟩ <;> cases hwork.symm.trans hcounts
    rw [hlook]
    rcases e.turn_refreshFrom False (fun _ => rfl) with hstays | hreads
    · exact .stays (hstays.finish (h.others ht hnot) _)
    · exact .reads (hreads.finish (h.numbered ht) _)

/-- What a site does by itself is a turn that nobody has called for. -/
theorem turn_own (h : e.Sound) (hown : e.Own e') : e.Turn False e' := by
  cases hown with
  | wake ht hready => exact h.turn_wake ht hready
  | look ht => exact h.turn_look ht
  | pass hle hdue =>
    exact .stays
      { Stays.refl e False with
        files := .inl rfl
        tasks := fun t ht _ => ht
        later := hle
        due := fun t ht _ => hdue t ht }

/-- Every step is a turn. -/
theorem turn (h : e.Sound) (hstep : e.Happens e') : ∃ called, e.Turn called e' := by
  rcases hstep with hcall | hown
  · exact ⟨True, turn_call hcall⟩
  · exact ⟨False, h.turn_own hown⟩

end Sound

end Engine

end SiteGate
