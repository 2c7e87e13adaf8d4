import SiteGate.Proofs.Site.Mishaps
import SiteGate.Proofs.Store.Provenance

/-!
# Timed banners and their countdowns

A banner that is on for a number of seconds is counted: the countdown of its generation runs, and
what it has left is what is published (`Counted`). There are two ways in which it can be left alone.
The last tick writes to the configuration file and reads the files again; if that fails the countdown
ends with the failure, and the banner stays on (`GaveUp`). And a configuration that is read for somebody
who calls from outside a runtime is read without a countdown (`Unarmed`). So it is until another
configuration is read (`guarded_fares`).
-/

set_option autoImplicit false

namespace SiteGate.Engine

variable {start e e' : Engine} {t : Task}

/-- Some countdown counts the banner that is published. -/
def Counted (e : Engine) : Prop := ∃ t ∈ e.tasks, t.Counts e.store

/-- The countdown of the banner that is published has ended because its last tick failed. -/
def GaveUp (start e : Engine) : Prop :=
  ∃ before after t mishaps f, start.Fares before ∧ t ∈ before.tasks ∧ before.isReady t = true ∧
    (∃ period count, t.work = .counting before.store.generation period count) ∧
    (Attempt.expire before.store.generation).outcome before mishaps = (.error f, after) ∧
    (after.finish t.id (.error f)).Fares e ∧ e.store.generation = before.store.generation ∧
    (t.id, .error f) ∈ e.ended

/-- The configuration whose banner is published has been read for somebody who called from outside a
runtime. -/
def Unarmed (start e : Engine) : Prop :=
  ∃ before after, start.Fares before ∧ before.concurrent = false ∧ before.Asks after ∧
    before.store.generation < after.store.generation ∧ after.Fares e ∧
    e.store.generation = after.store.generation

/-- A timed banner is counted, or its countdown has given up, or it never had one. -/
def Guarded (start e : Engine) : Prop :=
  e.store.snapshot.banner.isTimed = true → e.Counted ∨ start.GaveUp e ∨ start.Unarmed e

/-! ## Steps -/

/-- An expiry for the store's generation fails and leaves the store, or the banner is off after
it. -/
theorem expire_outcome (e : Engine) :
    (∃ f, (e.expire e.store.generation).1 = .error f ∧
      (e.expire e.store.generation).2.store = e.store) ∨
    ((e.expire e.store.generation).1 = .ok () ∧
      (e.expire e.store.generation).2.store.snapshot.banner.on = false) := by
  unfold expire
  obtain ⟨hne, -⟩ | ⟨-, f, -, hexpire⟩ | ⟨-, found, outcome, -, hexpire⟩ :=
    e.store.expire_cases e.files e.store.generation
  · exact absurd rfl hne
  · rw [hexpire]
    exact .inl ⟨f, rfl, rfl⟩
  · rw [hexpire]
    refine .inr ⟨rfl, ?_⟩
    dsimp only
    rw [store_noteReload]
    split
    · rfl
    · next hoff => exact Bool.eq_false_iff.mpr hoff

/-- So it is if something goes wrong with its steps. -/
theorem expire_outcome_cases {root : Path} (hlayout : e.store.layout = .ofRoot root)
    (mishaps : List (Option Mishap)) :
    (∃ f after, (Attempt.expire e.store.generation).outcome e mishaps = (.error f, after) ∧
      Attempt.Leaves e after) ∨
    ((Attempt.expire e.store.generation).outcome e mishaps).2.store.snapshot.banner.on = false := by
  obtain ⟨_, t, hout, hdoes⟩ | ⟨f, t, hout, hspares⟩ :=
    ((Operation.expire e.store.generation).ends_attempt ⟨e, mishaps⟩ hlayout).outcome_cases
  · change (Attempt.expire e.store.generation).outcome e mishaps = _ at hout
    rw [hout]
    obtain ⟨hne, -⟩ | ⟨read, -, hoff⟩ := hdoes
    · exact absurd rfl hne
    · rw [hoff]
      exact .inr (Attempt.on_noteOff read)
  · change (Attempt.expire e.store.generation).outcome e mishaps = _ at hout
    exact .inl ⟨f, _, hout, hspares.leaves⟩

/-- The countdown that a reading of the files arms counts the banner that was read. -/
theorem Reads.counted {called : Prop} (h : e.Reads called e') (hinside : called → e.concurrent = true)
    (htimed : e'.store.snapshot.banner.isTimed = true) :
    e'.Counted := by
  refine ⟨_, h.armed hinside htimed, htimed, .inl ⟨_, rfl, ?_⟩⟩
  obtain ⟨content, -, -, hbanner⟩ := h.content
  have hparsed : (Config.Snapshot.ofContent content).banner.isTimed = true := by
    rw [hbanner] at htimed
    exact htimed
  rw [hbanner]
  simp [Config.MessageBanner.full, hparsed]

/-- A countdown that has given up has done so for as long as no other configuration is read. -/
theorem GaveUp.befalls (h : start.GaveUp e) (hstep : e.Befalls e')
    (hgeneration : e'.store.generation = e.store.generation) (hended : e.ended ⊆ e'.ended) :
    start.GaveUp e' := by
  obtain ⟨before, after, t, mishaps, f, hbefore, ht, hready, hwork, hfailed, hafter, hsame, hend⟩ := h
  exact ⟨before, after, t, mishaps, f, hbefore, ht, hready, hwork, hfailed, hafter.tail hstep,
    hgeneration.trans hsame, hended hend⟩

/-- So it is with a banner that never had one. -/
theorem Unarmed.befalls (h : start.Unarmed e) (hstep : e.Befalls e')
    (hgeneration : e'.store.generation = e.store.generation) : start.Unarmed e' := by
  obtain ⟨before, after, hbefore, houtside, hasks, hbegun, hafter, hsame⟩ := h
  exact ⟨before, after, hbefore, houtside, hasks, hbegun, hafter.tail hstep, hgeneration.trans hsame⟩

/-- A step that leaves the banner and its countdown leaves it guarded. -/
theorem Guarded.stays {called : Prop} (h : start.Guarded e) (hstep : e.Befalls e')
    (hstays : e.Stays called e') : start.Guarded e' := by
  intro htimed
  rw [hstays.banner] at htimed
  rcases h htimed with ⟨t, ht, hcounts⟩ | hgaveUp | hunarmed
  · refine .inl ⟨t, hstays.tasks t ht hcounts, ?_⟩
    unfold Task.Counts
    rw [hstays.banner, hstays.generation]
    exact hcounts
  · exact .inr (.inl (hgaveUp.befalls hstep hstays.generation hstays.ended))
  · exact .inr (.inr (hunarmed.befalls hstep hstays.generation))

/-- A step that reads another configuration arms a countdown, unless somebody calls from outside a
runtime. -/
theorem guarded_reads {called : Prop} (hfares : start.Fares e) (hasks : called → e.Asks e')
    (hreads : e.Reads called e') : start.Guarded e' := by
  intro htimed
  by_cases hinside : called → e.concurrent = true
  · exact .inl (hreads.counted hinside htimed)
  · obtain ⟨hcalled, houtside⟩ := Classical.not_imp.mp hinside
    refine .inr (.inr ⟨e, e', hfares, Bool.eq_false_iff.mpr houtside, hasks hcalled, ?_, .refl, rfl⟩)
    rw [hreads.generation]
    exact Nat.lt_succ_self _

/-- So it is if the step is one of these two. -/
theorem Guarded.leaves_or_reads (called : Prop) (h : start.Guarded e) (hfares : start.Fares e)
    (hstep : e.Befalls e') (hasks : called → e.Asks e')
    (hread : e.Stays called e' ∨ e.Reads called e') : start.Guarded e' := by
  rcases hread with hstays | hreads
  · exact h.stays hstep hstays
  · exact guarded_reads hfares hasks hreads

/-- A banner that is off is none of these. -/
theorem guarded_of_off (h : e.store.snapshot.banner.on = false) : start.Guarded e := by
  intro htimed
  simp [Config.MessageBanner.isTimed, h] at htimed

/-- A countdown whose last tick goes wrong gives up. -/
theorem gaveUp_of_failed {mishaps : List (Option Mishap)} {f : FileFailure} {after : Engine}
    {period : Nat} {count : Banner.Countdown} (hfares : start.Fares e) (ht : t ∈ e.tasks)
    (hready : e.isReady t = true)
    (hwork : t.work = .counting e.store.generation period count)
    (hfailed : (Attempt.expire e.store.generation).outcome e mishaps = (.error f, after))
    (hleaves : Attempt.Leaves e after) : start.GaveUp (after.finish t.id (.error f)) :=
  ⟨e, after, t, mishaps, f, hfares, ht, hready, ⟨period, count, hwork⟩, hfailed, .refl,
    hleaves.generation, List.mem_append_right _ (List.mem_singleton.mpr rfl)⟩

/-- What a site does by itself or for those who call leaves a timed banner guarded. -/
theorem Guarded.happens {root : Path} (hguarded : start.Guarded e) (hsound : e.Sound)
    (hlayout : e.store.layout = .ofRoot root) (hfares : start.Fares e)
    (hstep : e.Happens e') : start.Guarded e' := by
  have hbefalls := hstep.befalls
  intro htimed'
  obtain ⟨called, hturn, hasks⟩ : ∃ called, e.Turn called e' ∧ (called → e.Asks e') := by
    rcases hstep with hcall | hown
    · exact ⟨True, turn_call hcall, fun _ => .call hcall⟩
    · exact ⟨False, hsound.turn_own hown, False.elim⟩
  cases hturn with
  | stays h => exact hguarded.stays hbefalls h htimed'
  | reads h => exact guarded_reads hfares hasks h htimed'
  | @starts t period ht hwork htimed =>
    rcases hguarded htimed with ⟨t', ht', -, hcounts⟩ | hgaveUp | hunarmed
    · -- The countdown that counts the banner is the one that starts, so the count is full.
      obtain ⟨_, hwork', hfull⟩ | ⟨_, hwork'⟩ := hcounts
      · refine .inl ⟨_, mem_resume_iff.mpr (.inr rfl), htimed, .inr ⟨period, ?_⟩⟩
        simp [resume, hfull]
      · have hsame := hsound.unique ht ht' (Task.timer?_of_armed hwork)
          (Task.timer?_of_counting hwork')
        rw [hsame, hwork'] at hwork
        cases hwork
    · exact .inr (.inl (hgaveUp.befalls hbefalls rfl (List.Subset.refl _)))
    · exact .inr (.inr (hunarmed.befalls hbefalls rfl))
  | @counts t period _ ht hwork hdue hon =>
    refine .inl ⟨_, mem_resume_iff.mpr (.inr rfl), htimed', .inr ⟨period, ?_⟩⟩
    simp [resume, Store.setTicks, Store.publish]
  | @expires t period _ ht hready hwork hlast hon hwake =>
    -- An expiry with which nothing goes wrong is one that meets with no mishaps.
    have hplain := (Attempt.comesTo_expire e.store.generation e).outcome_eq
    rw [hwake] at htimed' ⊢
    obtain ⟨f, after, hfailed, hleaves⟩ | hoff := expire_outcome_cases hlayout []
    · have hresult := Prod.mk.inj (hplain.symm.trans hfailed)
      rw [hresult.1, hresult.2]
      exact .inr (.inl (gaveUp_of_failed hfares ht hready hwork hfailed hleaves))
    · rw [hplain] at hoff
      exact guarded_of_off hoff htimed'

/-- An operation that somebody asks for does, whatever goes wrong with it. -/
theorem Guarded.attempt {root : Path} (hguarded : start.Guarded e)
    (hlayout : e.store.layout = .ofRoot root) (hfares : start.Fares e) (op : Operation)
    (mishaps : List (Option Mishap)) : start.Guarded (op.attempt.outcome e mishaps).2 := by
  have hasks := Asks.attempt e op mishaps
  have hread := hguarded.leaves_or_reads True hfares (.asks hasks) (fun _ => hasks)
  obtain ⟨_, t, hout, hdoes⟩ | ⟨f, t, hout, hspares⟩ :=
    (op.ends_attempt ⟨e, mishaps⟩ hlayout).outcome_cases
  · rw [hout] at hread ⊢
    cases op with
    | refresh => exact hread (turn_of_rereads hdoes (.inr trivial) fun hinside => hinside trivial)
    | update parent key value =>
      exact hread (turn_of_rereads hdoes (.inr trivial) fun hinside => hinside trivial)
    | expire generation =>
      obtain ⟨-, hsame⟩ | ⟨read, -, hoff⟩ := hdoes
      · rw [hsame]
        exact hguarded
      · rw [hoff]
        exact guarded_of_off (Attempt.on_noteOff read)
  · rw [hout] at hread ⊢
    exact hread (.inl (stays_of_leaves hspares.leaves (.inr trivial)))

/-- Whatever befalls a site, a timed banner stays guarded. -/
theorem Guarded.befalls {root : Path} (hguarded : start.Guarded e) (hsound : e.Sound)
    (hlayout : e.store.layout = .ofRoot root) (hfares : start.Fares e)
    (hstep : e.Befalls e') : start.Guarded e' := by
  -- What a watcher reads is read inside a runtime, and the watcher counts nothing.
  have hlook : ∀ {t : Task} {interval : Nat}, t ∈ e.tasks → t.work = .watching interval →
      t.id < e.nextId ∧ ∀ t' ∈ e.tasks, t'.Counts e.store → t'.id ≠ t.id := by
    intro t interval ht hwork
    refine ⟨hsound.numbered ht, hsound.others ht ?_⟩
    rintro ⟨-, ⟨_, hcounts, -⟩ | ⟨_, hcounts⟩⟩ <;> cases hwork.symm.trans hcounts
  cases hstep with
  | asks hasks =>
    cases hasks with
    | call hcall => exact hguarded.happens hsound hlayout hfares (.inl hcall)
    | attempt op mishaps => exact hguarded.attempt hlayout hfares op mishaps
  | own hown => exact hguarded.happens hsound hlayout hfares (.inr hown)
  | calls inside => exact hguarded.stays (.calls e inside) ((Stays.refl e False).fromElsewhere inside)
  | looks ht hready hwork mishaps =>
    obtain ⟨hid, hothers⟩ := hlook ht hwork
    refine hguarded.leaves_or_reads False hfares (.looks ht hready hwork mishaps) False.elim ?_
    unfold afterLook
    rcases turn_look_outcome e mishaps with hstays | hreads
    · split
      · exact .inl (hstays.finish hothers _)
      · exact .inl (hstays.resume hothers _ _)
    · split
      · exact .inr (hreads.finish hid _)
      · exact .inr (hreads.resume hid _ _)
  | nudged ht hwork mishaps =>
    obtain ⟨hid, hothers⟩ := hlook ht hwork
    refine hguarded.leaves_or_reads False hfares (.nudged ht hwork mishaps) False.elim ?_
    unfold afterNudge
    rcases turn_look_outcome e mishaps with hstays | hreads
    · split
      · exact .inl (hstays.finish hothers _)
      · exact .inl hstays
    · split
      · exact .inr (hreads.finish hid _)
      · exact .inr hreads
  | expires ht hready hwork hlast hon mishaps =>
    obtain ⟨f, after, hfailed, hleaves⟩ | hoff := expire_outcome_cases hlayout mishaps
    · rw [hfailed]
      exact fun _ => .inr (.inl (gaveUp_of_failed hfares ht hready hwork hfailed hleaves))
    · exact guarded_of_off hoff

/-! ## Runs -/

/-- A timed banner is guarded when a site is opened. -/
theorem guarded_of_openAt {files : Tree} {metrics : Metrics} {root : Path}
    {settings : Config.Settings} (h : (openAt files metrics root settings true).1 = .ok start) :
    start.Guarded start := by
  obtain ⟨files, metrics, rfl, -⟩ := exists_unread_of_openAt h
  intro htimed
  rcases turn_performed (unread (.ofRoot root) settings files metrics) true False (.inl rfl)
    (.inl (files_performed_refresh _ _)) (fun _ => rfl) with hstays | hreads
  · rw [hstays.banner] at htimed
    cases htimed
  · exact .inl (hreads.counted False.elim htimed)

/-- A timed banner is guarded however the site fares. -/
theorem guarded_fares {files : Tree} {metrics : Metrics} {root : Path} {settings : Config.Settings}
    (hopen : (openAt files metrics root settings true).1 = .ok start) (hfares : start.Fares e) :
    start.Guarded e := by
  induction hfares with
  | refl => exact guarded_of_openAt hopen
  | tail hbefore hstep ih =>
    obtain ⟨hsound, hlayout⟩ := sound_fares hopen hbefore
    exact ih.befalls hsound hlayout hbefore hstep

/-- However a site fares that has been opened inside a runtime, whoever changes its files, asks for
reloads and updates from wherever, whatever goes wrong with its files, and however much time passes: a
timed banner is counted by the countdown of its generation, of which as much is left as is published,
or the last tick of that countdown has failed, or the banner has been read for somebody who called from
outside a runtime. -/
theorem timed_banner_counted {files : Tree} {metrics : Metrics} {root : Path}
    {settings : Config.Settings} (hopen : (openAt files metrics root settings true).1 = .ok start)
    (hfares : start.Fares e) (hsettled : e.Settled)
    (htimed : e.store.snapshot.banner.isTimed = true) :
    (∃ t ∈ e.tasks, ∃ period,
      t.work = .counting e.store.generation period ⟨.active, e.store.snapshot.banner.tickCount⟩) ∨
    start.GaveUp e ∨ start.Unarmed e := by
  rcases guarded_fares hopen hfares htimed with
    ⟨t, ht, -, ⟨period, hwork, -⟩ | ⟨period, hwork⟩⟩ | hleft
  · -- A countdown that has not started would start now.
    have harmed := isArmed_of_settled hsettled ht
    simp [Task.isArmed, hwork] at harmed
  · exact .inl ⟨t, ht, period, hwork⟩
  · exact .inr hleft

/-- A banner of three seconds after its first tick. -/
theorem timed_banner_counted_bannerFiles :
    ∃ start e, ofFiles Store.bannerFiles = .ok start ∧ start.Fares e ∧ e.Settled ∧
      e.store.snapshot.banner = ⟨true, 3, 2⟩ ∧
      ((∃ t ∈ e.tasks, ∃ period, t.work =
        .counting e.store.generation period ⟨.active, e.store.snapshot.banner.tickCount⟩) ∨
      start.GaveUp e ∨ start.Unarmed e) := by
  have hbanner : (ofFiles Store.bannerFiles).toOption.map
      (fun start => (start.settle.sleep 1000).store.snapshot.banner) = some ⟨true, 3, 2⟩ := by
    decide +kernel
  cases hopen : ofFiles Store.bannerFiles with
  | error f => simp [hopen, Except.toOption] at hbanner
  | ok start =>
    replace hbanner : (start.settle.sleep 1000).store.snapshot.banner = ⟨true, 3, 2⟩ := by
      simpa [hopen, Except.toOption] using hbanner
    obtain ⟨hruns, hsettled, -⟩ := (sound_of_openAt hopen).settle_sleep 1000
    refine ⟨start, _, rfl, hruns.runs.fares, hsettled, hbanner, ?_⟩
    exact timed_banner_counted hopen hruns.runs.fares hsettled (by rw [hbanner]; rfl)

/-- A site with a banner that is shown for a second, and with a directory where the swap file
goes. -/
def stuckFiles : Tree :=
  ⟨[(["w".toList], .directory), (["w".toList, "appdata".toList], .directory),
    (["w".toList, "appdata".toList, ".cfg".toList], .directory),
    (["w".toList, "appdata".toList, ".cfg".toList, ".all".toList],
      .file (Text.encode "MessageBanner\ndisplay-mode on\nseconds-to-display 1".toList)),
    (["w".toList, "appdata".toList, ".cfg".toList, ".all.swap".toList], .directory)]⟩

/-- Somebody puts a banner of three seconds in the place of the maintenance, and asks for a refresh
from outside a runtime. -/
def refreshedOutside (start : Engine) : Engine :=
  Engine.refresh { start with
    files := Store.siteFiles "MessageBanner\ndisplay-mode on\nseconds-to-display 3".toList
    concurrent := false } |>.2

/-- What is done there may befall a site. -/
theorem fares_refreshedOutside (start : Engine) : start.Fares start.refreshedOutside :=
  .tail (.tail (.tail .refl (.calls start false)) (.asks (.call (.edit _ _))))
    (.asks (.call (.refresh _)))

/-- A timed banner may be left on without a countdown, and also if no task has failed. -/
theorem not_timed_banner_counted :
    (¬ ∀ (files : Tree) (metrics : Metrics) (root : Path) (settings : Config.Settings)
      (start e : Engine), (openAt files metrics root settings true).1 = .ok start →
      start.Runs e → e.Settled → e.store.snapshot.banner.isTimed = true →
      ∃ t ∈ e.tasks, ∃ period, t.work =
        .counting e.store.generation period ⟨.active, e.store.snapshot.banner.tickCount⟩) ∧
    ¬ ∀ (files : Tree) (metrics : Metrics) (root : Path) (settings : Config.Settings)
      (start e : Engine), (openAt files metrics root settings true).1 = .ok start →
      start.Fares e → e.Settled → e.store.snapshot.banner.isTimed = true → e.ended = [] →
      ∃ t ∈ e.tasks, ∃ period, t.work =
        .counting e.store.generation period ⟨.active, e.store.snapshot.banner.tickCount⟩ := by
  constructor
  · intro h
    have hstuck : (ofFiles stuckFiles).toOption.map
        (fun start => ((start.settle.sleep 1000).store.snapshot.banner,
          (start.settle.sleep 1000).tasks)) = some (⟨true, 1, 1⟩, []) := by
      decide +kernel
    obtain ⟨start, hstart, hstuck⟩ := Option.map_eq_some_iff.mp hstuck
    obtain ⟨hbanner, htasks⟩ := Prod.mk.inj hstuck
    have hopen := toOption_eq_some_iff.mp hstart
    obtain ⟨hruns, hsettled, -⟩ := (sound_of_openAt hopen).settle_sleep 1000
    obtain ⟨t, ht, -⟩ := h _ _ _ _ start _ hopen hruns.runs hsettled (by rw [hbanner]; rfl)
    rw [htasks] at ht
    cases ht
  · intro h
    have hquiet : (ofFiles (Store.siteFiles "maintenance-window on".toList)).toOption.map
        (fun start => (start.refreshedOutside.store.snapshot.banner, start.refreshedOutside.tasks,
          start.refreshedOutside.ended.length)) = some (⟨true, 3, 3⟩, [], 0) := by
      decide +kernel
    obtain ⟨start, hstart, hquiet⟩ := Option.map_eq_some_iff.mp hquiet
    simp only [Prod.mk.injEq] at hquiet
    obtain ⟨hbanner, htasks, hended⟩ := hquiet
    have hopen := toOption_eq_some_iff.mp hstart
    have hsettled : start.refreshedOutside.Settled := by simp [Settled, htasks]
    obtain ⟨t, ht, -⟩ := h _ _ _ _ start _ hopen (fares_refreshedOutside start) hsettled
      (by rw [hbanner]; rfl) (List.length_eq_zero_iff.mp hended)
    rw [htasks] at ht
    cases ht

end SiteGate.Engine
