import SiteGate.Proofs.Config.Layout
import SiteGate.Proofs.Config.Ownership
import SiteGate.Proofs.Site.Counted

/-!
# A timed banner goes off on time

A site reads a banner that is shown for `n` seconds at a time `t₀`. As long as the bytes of the
configuration stay as they are and the files can be used (`Quietly`), what is left is `n - k` from the
`k`-th tick on, and the banner is off from the `n`-th tick on. Where the site stands in this is its
`Phase`, and every step goes from phase to phase (`OnTime.quietly`). The last tick writes to the
configuration, so that other bytes are read; whether or not these turn the banner off, it is off
afterwards, and its count is zero (`expire_of_usable`).
-/

set_option autoImplicit false

namespace SiteGate

open Banner (Countdown)
open Store (Scene)

/-! ## Banners that are read -/

namespace Config

/-- No line of a configuration says what is left of its banner. -/
theorem tickCount_ofText (t : Text) : (Snapshot.ofText t).banner.tickCount = 0 :=
  (unsaid_ofText t).1

/-- A banner that is off is published with nothing to count. -/
theorem tickCount_full_ofContent {content : Bytes}
    (hoff : (Snapshot.ofContent content).banner.on = false) :
    (Snapshot.ofContent content).banner.full.tickCount = 0 := by
  have hnot : (Snapshot.ofContent content).banner.isTimed = false := by
    simp [MessageBanner.isTimed, hoff]
  simp only [MessageBanner.full, hnot]
  exact tickCount_ofText _

end Config

/-! ## An expiry that succeeds -/

namespace Store

variable {s : Store} {files written : Tree} {root : Path} {sample : Bytes}

/-- An update succeeds where the files can be read and the swap file be written. -/
theorem update_of_usable (hlayout : s.layout = .ofRoot root) {old : Bytes}
    (hconfig : files.contentAt s.layout.configFile = .ok old) {blocked : Option Bytes}
    (hblocked : Config.blockedContent files s.layout.blockedFile = .ok blocked)
    (hswap : files.write s.layout.swapFile sample = .ok written) (parent key value : Text) :
    ∃ r, (s.update files parent key value).result = .ok r := by
  rw [hlayout] at hconfig hblocked hswap
  obtain ⟨replaced, hreplace, hcontent, hsame, -⟩ := Config.replace_configFile hconfig hswap
    (Text.encode (Config.updateText (Text.decode old) parent key value).2)
  rw [hblocked] at hsame
  unfold update Config.updateFile reload
  simp only [hlayout, hconfig, hreplace, hcontent, hsame]
  exact ⟨_, rfl⟩

/-- An expiry that succeeds leaves a banner that is off, and a snapshot of what is in the file. -/
theorem expire_of_writeOff {r : Bool × Reload} (h : (s.writeOff files).result = .ok r)
    (hon : s.snapshot.banner.on = true) :
    (s.expire files s.generation).store.snapshot.banner.on = false ∧
      (s.expire files s.generation).store.snapshot.banner.tickCount = 0 ∧
      ∃ content, Scene.config ⟨(s.expire files s.generation).store,
          (s.expire files s.generation).files⟩ = .ok content ∧
        (s.expire files s.generation).store.snapshot.digest = contentDigest content := by
  obtain ⟨hne, -⟩ | ⟨-, f, hfailed, -⟩ | ⟨-, found, outcome, hresult, hexpire⟩ :=
    s.expire_cases files s.generation
  · exact absurd rfl hne
  · rw [hfailed] at h
    cases h
  · rw [hexpire]
    obtain ⟨⟨f, hfailed⟩, -⟩ | ⟨_, outcome, -, hreload⟩ := update_cases s files
      "MessageBanner".toList "display-mode".toList "off".toList
    · rw [writeOff, hfailed] at h
      cases h
    · obtain ⟨content, hcontent, hdigest⟩ := digest_of_reload hreload
      change (s.writeOff files).files.contentAt (s.writeOff files).store.layout.configFile = _ at hcontent
      change (s.writeOff files).store.snapshot.digest = _ at hdigest
      change s.reload (s.writeOff files).files = .ok (outcome, (s.writeOff files).store) at hreload
      by_cases hstill : (s.writeOff files).store.snapshot.banner.on = true
      · rw [if_pos hstill]
        exact ⟨rfl, rfl, content, hcontent, hdigest⟩
      · rw [if_neg hstill]
        have hoff := Bool.eq_false_iff.mpr hstill
        refine ⟨hoff, ?_, content, hcontent, hdigest⟩
        obtain ⟨-, -, hbanner, -⟩ | ⟨-, -, content', -, -, hbanner⟩ := banner_of_reload hreload
        · rw [hbanner] at hstill
          exact absurd hon hstill
        · rw [hbanner] at hoff ⊢
          exact Config.tickCount_full_ofContent hoff

end Store

namespace Engine

variable {start e e' : Engine} {root : Path}

/-- Both files can be read, and the swap file can be written. -/
structure Usable (e : Engine) : Prop where
  config : ∃ content, e.scene.config = .ok content
  blocked : ∃ content, e.scene.blocked = .ok content
  swap : ∃ content files, e.files.write e.store.layout.swapFile content = .ok files

/-- A test for that. -/
def canUse (e : Engine) : Bool :=
  e.scene.config.isOk && e.scene.blocked.isOk && (e.files.write e.store.layout.swapFile []).isOk

/-- A site that passes the test is usable. -/
theorem usable_of_canUse (h : e.canUse = true) : e.Usable := by
  unfold canUse at h
  rw [Bool.and_eq_true, Bool.and_eq_true] at h
  obtain ⟨⟨hconfig, hblocked⟩, hswap⟩ := h
  refine ⟨?_, ?_, [], ?_⟩
  · cases hread : e.scene.config with
    | error f => simp [hread, Except.isOk, Except.toBool] at hconfig
    | ok content => exact ⟨content, rfl⟩
  · cases hread : e.scene.blocked with
    | error f => simp [hread, Except.isOk, Except.toBool] at hblocked
    | ok content => exact ⟨content, rfl⟩
  · cases hwrite : e.files.write e.store.layout.swapFile [] with
    | error f => simp [hwrite, Except.isOk, Except.toBool] at hswap
    | ok files => exact ⟨files, rfl⟩

/-- A site with the same files at the same places is as usable. -/
theorem Usable.congr (h : e.Usable) (hfiles : e'.files = e.files)
    (hlayout : e'.store.layout = e.store.layout) :
    e'.scene.config = e.scene.config ∧ e'.Usable := by
  have hconfig : e'.scene.config = e.scene.config := by
    unfold Scene.config scene
    rw [hlayout, hfiles]
  refine ⟨hconfig, hconfig ▸ h.config, ?_, ?_⟩
  · have hblocked := h.blocked
    unfold Scene.blocked scene at hblocked ⊢
    rw [hlayout, hfiles]
    exact hblocked
  · rw [hlayout, hfiles]
    exact h.swap

/-- Where the files can be used, an expiry switches the banner off and publishes what is in the
file. -/
theorem expire_of_usable (h : e.Usable) (hlayout : e.store.layout = .ofRoot root)
    (hon : e.store.snapshot.banner.on = true) :
    (e.expire e.store.generation).2.store.snapshot.banner.on = false ∧
      (e.expire e.store.generation).2.store.snapshot.banner.tickCount = 0 ∧
      ∃ content, (e.expire e.store.generation).2.scene.config = .ok content ∧
        (e.expire e.store.generation).2.store.snapshot.digest = contentDigest content := by
  obtain ⟨old, hconfig⟩ := h.config
  obtain ⟨blocked, hblocked⟩ := h.blocked
  obtain ⟨sample, written, hswap⟩ := h.swap
  obtain ⟨r, hr⟩ := Store.update_of_usable hlayout hconfig hblocked hswap
    "MessageBanner".toList "display-mode".toList "off".toList
  have hscene := e.scene_expire e.store.generation
  have hstore : (e.expire e.store.generation).2.store =
      (e.store.expire e.files e.store.generation).store := congrArg Scene.store hscene
  rw [hstore, hscene]
  exact Store.expire_of_writeOff hr hon

/-! ## When a banner is armed -/

/-- A site has just read its configuration: when it was opened, or in its last step. -/
def HasRead (start e : Engine) : Prop :=
  e = start ∨ ∃ before, start.Runs before ∧ before.Happens e ∧
    ∃ timed, before.store.reload e.files = .ok (.reloaded timed, e.store)

/-- A step inside a runtime that reads a timed banner arms a countdown for it. -/
theorem armed_of_turn {before : Engine} {called : Prop} (hturn : before.Turn called e)
    (hinside : before.concurrent = true)
    {timed : Bool} (hread : before.store.reload e.files = .ok (.reloaded timed, e.store))
    {content : Bytes} (hconfig : e.scene.config = .ok content)
    (htimed : (Config.Snapshot.ofContent content).banner.isTimed = true) :
    e.store.snapshot.banner = (Config.Snapshot.ofContent content).banner.full ∧
      ⟨before.nextId, e.now, .armed e.store.generation e.store.settings.tickInterval⟩ ∈ e.tasks := by
  obtain ⟨hnot, -⟩ | ⟨-, hgeneration, content', hcontent, -, hbanner⟩ :=
    Store.banner_of_reload hread
  · exact absurd rfl (hnot timed)
  · obtain rfl : content' = content := by
      have hlayout := (Store.site_reload hread).1
      have hsame : e.scene.config = .ok content' := by
        unfold Scene.config scene
        rw [hlayout]
        exact hcontent
      exact Except.ok.inj (hsame.symm.trans hconfig)
    refine ⟨hbanner, ?_⟩
    have hpublished : e.store.snapshot.banner.isTimed = true := by
      rw [hbanner]
      exact htimed
    -- Every other step leaves the generation or turns the banner off.
    cases hturn with
    | stays h => exact absurd (h.generation.symm.trans hgeneration) (Nat.ne_of_lt (Nat.lt_succ_self _))
    | reads h => exact h.armed (fun _ => hinside) hpublished
    | starts ht hwork hon => exact absurd hgeneration (Nat.ne_of_lt (Nat.lt_succ_self _))
    | counts ht hwork hdue hon =>
      have hsame : (before.store.setTicks before.store.generation _).generation = _ := hgeneration
      simp [Store.setTicks, Store.publish] at hsame
    | expires ht hready hwork hlast hon hwake =>
      rw [hwake] at hgeneration hpublished
      obtain ⟨f, -, hstore⟩ | ⟨-, hoff⟩ := before.expire_outcome
      · have hsame : (before.expire before.store.generation).2.store.generation = _ := hgeneration
        rw [hstore] at hsame
        exact absurd hsame (Nat.ne_of_lt (Nat.lt_succ_self _))
      · have hon : (before.expire before.store.generation).2.store.snapshot.banner.isTimed = true :=
          hpublished
        simp [Config.MessageBanner.isTimed, hoff] at hon

/-- A site that has just read a timed banner has a countdown for it. -/
theorem armed_of_hasRead {files : Tree} {metrics : Metrics} {settings : Config.Settings}
    (hopen : (openAt files metrics root settings true).1 = .ok start) (h : start.HasRead e)
    {content : Bytes} (hconfig : e.scene.config = .ok content)
    (htimed : (Config.Snapshot.ofContent content).banner.isTimed = true) :
    start.Runs e ∧ e.store.snapshot.digest = contentDigest content ∧
      e.store.snapshot.banner = (Config.Snapshot.ofContent content).banner.full ∧
      ∃ id, ⟨id, e.now, .armed e.store.generation settings.tickInterval⟩ ∈ e.tasks := by
  have hdigest : ∀ {s : Store} {outcome : Reload},
      s.reload e.files = .ok (outcome, e.store) → e.store.snapshot.digest = contentDigest content := by
    intro s outcome hreload
    obtain ⟨content', hcontent, hdigest⟩ := Store.digest_of_reload hreload
    obtain rfl := Except.ok.inj (hcontent.symm.trans hconfig)
    exact hdigest
  rcases h with rfl | ⟨before, hruns, hstep, timed, hread⟩
  · obtain ⟨files, metrics, hfirst, outcome, hreload⟩ := exists_unread_of_openAt hopen
    have hfiles : e.files = files := by
      rw [hfirst]
      exact files_performed_refresh _ _
    rw [← hfiles] at hreload
    have hfull := hdigest hreload
    -- The first reload meets a digest that no content has, so it begins a generation.
    obtain ⟨-, -, -, hsame⟩ | ⟨rfl, -⟩ := Store.banner_of_reload hreload
    · exact absurd (hfull.symm.trans hsame) (contentDigest_ne_nil content)
    · have hturn : ∃ called, (unread (.ofRoot root) settings files metrics).Turn called e := by
        rw [hfirst]
        rcases turn_performed _ true True (.inl rfl) (.inr trivial) (fun _ => rfl) with hstays | hreads
        · exact ⟨True, .stays hstays⟩
        · exact ⟨True, .reads hreads⟩
      obtain ⟨called, hturn⟩ := hturn
      obtain ⟨hbanner, harmed⟩ := armed_of_turn hturn rfl hreload hconfig htimed
      rw [(site_runs hopen .refl).2] at harmed
      exact ⟨.refl, hfull, hbanner, _, harmed⟩
  · have hsound := (sound_of_openAt hopen).runs hruns
    obtain ⟨called, hturn⟩ := hsound.turn hstep
    have hall := hruns.tail hstep
    obtain ⟨hbanner, harmed⟩ := armed_of_turn hturn (concurrent_runs hopen hruns) hread
      hconfig htimed
    rw [(site_runs hopen hall).2] at harmed
    exact ⟨hall, hdigest hread, hbanner, _, harmed⟩

/-! ## Phases -/

/-- Where a banner of `n` seconds stands that was read at a certain time, with ticks of a period. -/
inductive Phase (since period n : Nat) (e : Engine) : Prop where
  | armed {t : Task} (ht : t ∈ e.tasks) (hwork : t.work = .armed e.store.generation period)
    (hdue : t.due = since) (hnow : e.now = since)
    (hbanner : e.store.snapshot.banner = ⟨true, n, n⟩)
  | counting {t : Task} {k : Nat} (hk : k < n) (ht : t ∈ e.tasks)
    (hwork : t.work = .counting e.store.generation period ⟨.active, n - k⟩)
    (hdue : t.due = since + (k + 1) * period) (hfrom : since + k * period ≤ e.now)
    (huntil : e.now ≤ t.due) (hbanner : e.store.snapshot.banner = ⟨true, n, n - k⟩)
  | off (hfrom : since + n * period ≤ e.now) (hon : e.store.snapshot.banner.on = false)
    (hcount : e.store.snapshot.banner.tickCount = 0)

section Phases

variable {since period n : Nat} {called : Prop} {t : Task}

/-- A banner stays in its phase where it stays as it is. -/
theorem Phase.stays (h : e.Phase since period n) (hn : 0 < n) (hstays : e.Stays called e') :
    e'.Phase since period n := by
  cases h with
  | armed ht hwork hdue hnow hbanner =>
    have hcounts : Task.Counts _ e.store := ⟨by simp [Config.MessageBanner.isTimed, hbanner, hn],
      .inl ⟨period, hwork, by rw [hbanner]⟩⟩
    refine .armed (hstays.tasks _ ht hcounts) (hstays.generation ▸ hwork) hdue ?_
      (hstays.banner.trans hbanner)
    have hlater := hstays.later
    have hbefore := hstays.due _ ht (by omega)
    omega
  | @counting t k hk ht hwork hdue hfrom huntil hbanner =>
    have hcounts : t.Counts e.store :=
      ⟨by simp [Config.MessageBanner.isTimed, hbanner, hn], .inr ⟨period, by rw [hbanner]; exact hwork⟩⟩
    exact .counting hk (hstays.tasks t ht hcounts) (hstays.generation ▸ hwork) hdue
      (Nat.le_trans hfrom hstays.later) (hstays.due t ht huntil) (hstays.banner.trans hbanner)
  | off hfrom hon hcount =>
    exact .off (Nat.le_trans hfrom hstays.later) (hstays.banner ▸ hon) (hstays.banner ▸ hcount)

/-- The countdown that starts is the one that has been armed. -/
theorem Phase.starts (h : e.Phase since period n) (hsound : e.Sound) (hn : 0 < n) (ht : t ∈ e.tasks)
    {ticks : Nat} (hwork : t.work = .armed e.store.generation ticks)
    (htimed : e.store.snapshot.banner.isTimed = true) :
    (e.resume t.id (e.now + ticks) (.counting e.store.generation ticks
      ⟨.active, e.store.snapshot.banner.secondsToDisplay⟩)).Phase since period n := by
  cases h with
  | armed ht' hwork' hdue hnow hbanner =>
    obtain rfl := hsound.unique ht ht' (Task.timer?_of_armed hwork) (Task.timer?_of_armed hwork')
    obtain ⟨-, rfl⟩ := Work.armed.inj (hwork.symm.trans hwork')
    refine .counting hn (mem_resume_iff.mpr (.inr rfl)) ?_ ?_ ?_ ?_ hbanner
    · show Work.counting _ _ _ = Work.counting _ _ _
      rw [hbanner]
      rfl
    · show e.now + ticks = _
      omega
    · show _ ≤ e.now
      omega
    · exact Nat.le_add_right e.now ticks
  | counting hk ht' hwork' hdue hfrom huntil hbanner =>
    obtain rfl := hsound.unique ht ht' (Task.timer?_of_armed hwork) (Task.timer?_of_counting hwork')
    cases hwork.symm.trans hwork'
  | off hfrom hon hcount => simp [Config.MessageBanner.isTimed, hon] at htimed

/-- The countdown that ticks is the one that counts, and it ticks when it is due. -/
theorem Phase.counts (h : e.Phase since period n) (hsound : e.Sound) (ht : t ∈ e.tasks)
    {ticks remaining : Nat}
    (hwork : t.work = .counting e.store.generation ticks ⟨.active, remaining + 2⟩)
    (hdue : t.due ≤ e.now) (hon : e.store.snapshot.banner.on = true) :
    ({ e with store := e.store.setTicks e.store.generation (remaining + 1) }.resume t.id
      (e.now + ticks) (.counting e.store.generation ticks
        ⟨.active, remaining + 1⟩)).Phase since period n := by
  cases h with
  | armed ht' hwork' hdue hnow hbanner =>
    obtain rfl := hsound.unique ht ht' (Task.timer?_of_counting hwork) (Task.timer?_of_armed hwork')
    cases hwork.symm.trans hwork'
  | @counting t' k hk ht' hwork' hdue' hfrom huntil hbanner =>
    obtain rfl := hsound.unique ht ht' (Task.timer?_of_counting hwork)
      (Task.timer?_of_counting hwork')
    obtain ⟨-, rfl, hcount⟩ := Work.counting.inj (hwork.symm.trans hwork')
    have hleft : remaining + 2 = n - k := congrArg Countdown.remaining hcount
    have hnext : n - (k + 1) = remaining + 1 := by omega
    have hstep : (k + 1 + 1) * ticks = (k + 1) * ticks + ticks := Nat.succ_mul _ _
    refine .counting (show k + 1 < n by omega) (mem_resume_iff.mpr (.inr rfl)) ?_ ?_ ?_ ?_ ?_
    · simp [resume, Store.setTicks, Store.publish, hnext]
    · show e.now + ticks = _
      omega
    · show _ ≤ e.now
      omega
    · exact Nat.le_add_right e.now ticks
    · simp [resume, Store.setTicks, Store.publish, hnext, hbanner]
  | off hfrom hoff hcount =>
    rw [hoff] at hon
    cases hon

/-- The countdown that is over has ticked `n` times. -/
theorem Phase.le_of_last (h : e.Phase since period n) (hsound : e.Sound) (ht : t ∈ e.tasks)
    {ticks remaining : Nat} (hready : e.isReady t = true)
    (hwork : t.work = .counting e.store.generation ticks ⟨.active, remaining⟩)
    (hlast : remaining ≤ 1) : since + n * period ≤ e.now := by
  cases h with
  | armed ht' hwork' hdue hnow hbanner =>
    obtain rfl := hsound.unique ht ht' (Task.timer?_of_counting hwork) (Task.timer?_of_armed hwork')
    cases hwork.symm.trans hwork'
  | @counting t' k hk ht' hwork' hdue hfrom huntil hbanner =>
    obtain rfl := hsound.unique ht ht' (Task.timer?_of_counting hwork)
      (Task.timer?_of_counting hwork')
    obtain ⟨-, rfl, hcount⟩ := Work.counting.inj (hwork.symm.trans hwork')
    have hleft : remaining = n - k := congrArg Countdown.remaining hcount
    have hready' : t.due ≤ e.now := by
      simpa [isReady_eq, hsound.running, Task.isArmed, hwork] using hready
    obtain rfl : n = k + 1 := by omega
    omega
  | off hfrom hoff hcount => exact hfrom

/-! ## Steps -/

/-- Steps that leave the bytes of the configuration and files that can be used; the site itself may
do whatever it does. -/
inductive Quietly : Engine → Engine → Prop where
  | call {e e' : Engine} (h : e.Call e') (hconfig : e'.scene.config = e.scene.config)
    (husable : e'.Usable) : Quietly e e'
  | own {e e' : Engine} (h : e.Own e') : Quietly e e'

/-- Quiet steps are steps. -/
theorem Quietly.happens (h : e.Quietly e') : e.Happens e' := by
  cases h with
  | call h _ _ => exact .inl h
  | own h => exact .inr h

/-- A refresh is quiet where the files can be used. -/
theorem quietly_refresh (h : e.Usable) : e.Quietly e.refresh.2 := by
  have hcall := Call.refresh e
  obtain ⟨hconfig, husable⟩ := h.congr (files_refreshFrom e _) (site_happens (.inl hcall)).1
  exact .call hcall hconfig husable

/-- As long as the site itself writes no file, the configuration stays and files can be used. -/
theorem Sound.turn_quietly (h : e.Sound) (hstep : e.Quietly e') :
    ∃ called, e.Turn called e' ∧ (e'.files = e.files ∨ called →
      e'.scene.config = e.scene.config ∧ (e.Usable → e'.Usable)) := by
  have hlayout := (site_happens hstep.happens).1
  cases hstep with
  | call hcall hconfig husable =>
    exact ⟨True, turn_call hcall, fun _ => ⟨hconfig, fun _ => husable⟩⟩
  | own hown =>
    refine ⟨False, h.turn_own hown, fun hfiles => ?_⟩
    have hsame := hfiles.resolve_right id
    refine ⟨?_, fun husable => (husable.congr hsame hlayout).2⟩
    unfold Scene.config scene
    rw [hlayout, hsame]

/-- A site whose banner is in its phase, and whose snapshot is one of the file. -/
structure OnTime (root : Path) (since period n : Nat) (e : Engine) : Prop where
  sound : e.Sound
  layout : e.store.layout = .ofRoot root
  current : ∃ content, e.scene.config = .ok content ∧
    e.store.snapshot.digest = contentDigest content
  usable : e.store.snapshot.banner.on = true → e.Usable
  phase : e.Phase since period n

/-- A banner that is on time stays so by a quiet step. -/
theorem OnTime.quietly (h : OnTime root since period n e) (hn : 0 < n) (hstep : e.Quietly e') :
    OnTime root since period n e' := by
  have hsound := h.sound.happens hstep.happens
  have hlayout := (site_happens hstep.happens).1.trans h.layout
  obtain ⟨content, hcontent, hdigest⟩ := h.current
  obtain ⟨called, hturn, hkeeps⟩ := h.sound.turn_quietly hstep
  cases hturn with
  | stays hstays =>
    obtain ⟨hconfig, husable⟩ := hkeeps hstays.files
    exact
      { sound := hsound
        layout := hlayout
        current := ⟨content, hconfig.trans hcontent, hstays.digest.trans hdigest⟩
        usable := fun hon => husable (h.usable (hstays.banner ▸ hon))
        phase := h.phase.stays hn hstays }
  | reads hreads =>
    -- The content is the one that the snapshot was read from, so no generation begins.
    obtain ⟨hconfig, -⟩ := hkeeps hreads.files
    obtain ⟨content', hcontent', hother, -⟩ := hreads.content
    have hread : e'.scene.config = .ok content' := by
      unfold Scene.config scene
      rw [(site_happens hstep.happens).1]
      exact hcontent'
    obtain rfl := Except.ok.inj (hread.symm.trans (hconfig.trans hcontent))
    exact absurd hdigest.symm hother
  | starts ht hwork htimed =>
    obtain ⟨hconfig, husable⟩ := hkeeps (.inl rfl)
    exact
      { sound := hsound
        layout := hlayout
        current := ⟨content, hcontent, hdigest⟩
        usable := fun hon => husable (h.usable hon)
        phase := h.phase.starts h.sound hn ht hwork htimed }
  | counts ht hwork hdue hon =>
    obtain ⟨hconfig, husable⟩ := hkeeps (.inl rfl)
    refine
      { sound := hsound
        layout := hlayout
        current := ⟨content, hconfig.trans hcontent, ?_⟩
        usable := fun _ => husable (h.usable hon)
        phase := h.phase.counts h.sound ht hwork hdue hon }
    rw [← hdigest]
    simp [resume, Store.setTicks, Store.publish]
  | @expires t _ _ ht hready hwork hlast hon hwake =>
    obtain ⟨hoff, hcount, hcurrent⟩ := expire_of_usable (h.usable hon) h.layout hon
    have hover : since + n * period ≤ (e.expire e.store.generation).2.now := by
      rw [now_expire]
      exact h.phase.le_of_last h.sound ht hready hwork hlast
    rw [hwake] at hsound hlayout ⊢
    exact
      { sound := hsound
        layout := hlayout
        current := hcurrent
        usable := fun hstill => absurd hstill (Bool.eq_false_iff.mp hoff)
        phase := .off hover hoff hcount }

end Phases

/-! ## Runs -/

/-- Any number of steps that leave the bytes of the configuration and files that can be used. -/
abbrev QuietlyRuns : Engine → Engine → Prop := Relation.ReflTransGen Quietly

/-- A banner that is on time stays so by quiet steps. -/
theorem OnTime.quietlyRuns {since period n : Nat} (h : OnTime root since period n e) (hn : 0 < n)
    (hruns : e.QuietlyRuns e') : OnTime root since period n e' := by
  induction hruns with
  | refl => exact h
  | tail _ hstep ih => exact ih.quietly hn hstep

/-- What a site does by itself is quiet. -/
theorem RunsAlone.quietlyRuns (h : e.RunsAlone e') : e.QuietlyRuns e' :=
  Relation.ReflTransGen.mono (fun _ _ hown => .own hown) _ _ h

/-- A banner that has just been read is on time. -/
theorem onTime_of_hasRead {files : Tree} {metrics : Metrics} {settings : Config.Settings}
    (hopen : (openAt files metrics root settings true).1 = .ok start) (h : start.HasRead e)
    {content : Bytes} (hconfig : e.scene.config = .ok content)
    (hon : (Config.Snapshot.ofContent content).banner.on = true)
    (hseconds : 0 < (Config.Snapshot.ofContent content).banner.secondsToDisplay)
    (husable : e.Usable) :
    OnTime root e.now settings.tickInterval
      (Config.Snapshot.ofContent content).banner.secondsToDisplay e := by
  have htimed : (Config.Snapshot.ofContent content).banner.isTimed = true := by
    simp [Config.MessageBanner.isTimed, hon, hseconds]
  obtain ⟨hruns, hdigest, hbanner, id, harmed⟩ := armed_of_hasRead hopen h hconfig htimed
  refine
    { sound := (sound_of_openAt hopen).runs hruns
      layout := (site_runs hopen hruns).1
      current := ⟨content, hconfig, hdigest⟩
      usable := fun _ => husable
      phase := .armed harmed rfl rfl rfl ?_ }
  rw [hbanner]
  unfold Config.MessageBanner.full
  rw [if_pos htimed, hon]

/-- What has not reached the tick after the `k`-th has not ticked more than `k` times. -/
theorem le_of_ticks {since period now j k : Nat} (hfrom : since + j * period ≤ now)
    (hbefore : now < since + (k + 1) * period) : j ≤ k := by
  have hlt : j * period < (k + 1) * period := by omega
  exact Nat.lt_succ_iff.mp (Nat.lt_of_mul_lt_mul_right hlt)

/-- A site that has read a banner that is on for `n` seconds shows it for `n` ticks, with the seconds
that are left, and then it is off with nothing left: at every later time, as long as the bytes of the
configuration stay and its files can be used. -/
theorem timed_banner_goes_off {files : Tree} {metrics : Metrics} {settings : Config.Settings}
    {armed now : Engine} {content : Bytes} {n : Nat}
    (hopen : (openAt files metrics root settings true).1 = .ok start)
    (harmed : start.HasRead armed) (hconfig : armed.scene.config = .ok content)
    (hon : (Config.Snapshot.ofText (Text.decode content)).banner.on = true)
    (hseconds : (Config.Snapshot.ofText (Text.decode content)).banner.secondsToDisplay = n)
    (hn : 0 < n) (husable : armed.Usable) (hruns : armed.QuietlyRuns now)
    (hsettled : now.Settled) :
    (∀ k < n, armed.now + k * settings.tickInterval ≤ now.now →
      now.now < armed.now + (k + 1) * settings.tickInterval →
      now.store.snapshot.banner.on = true ∧ now.store.snapshot.banner.tickCount = n - k) ∧
    (armed.now + n * settings.tickInterval ≤ now.now →
      now.store.snapshot.banner.on = false ∧ now.store.snapshot.banner.tickCount = 0) := by
  subst hseconds
  have honTime := (onTime_of_hasRead hopen harmed hconfig hon hn husable).quietlyRuns hn hruns
  cases honTime.phase with
  | armed ht hwork hdue hnow hbanner =>
    have harmed := isArmed_of_settled hsettled ht
    simp [Task.isArmed, hwork] at harmed
  | @counting t j hj ht hwork hdue hfrom huntil hbanner =>
    have hbefore : now.now < armed.now + (j + 1) * settings.tickInterval :=
      hdue ▸ lt_due_of_settled hsettled ht
    constructor
    · intro k hk hsince hnext
      obtain rfl : j = k := Nat.le_antisymm (le_of_ticks hfrom hnext) (le_of_ticks hsince hbefore)
      rw [hbanner]
      exact ⟨rfl, rfl⟩
    · intro hover
      exact absurd hj (Nat.not_lt.mpr (le_of_ticks hover hbefore))
  | off hfrom hoff hcount =>
    constructor
    · intro k hk hsince hnext
      exact absurd hk (Nat.not_lt.mpr (le_of_ticks hfrom hnext))
    · exact fun _ => ⟨hoff, hcount⟩

/-- A banner of three seconds after a reload in its second second, when it has ticked twice. -/
theorem timed_banner_goes_off_bannerFiles :
    ∃ start now, ofFiles Store.bannerFiles = .ok start ∧ start.QuietlyRuns now ∧ now.Settled ∧
      now.now = start.now + 2200 ∧ now.store.snapshot.banner.on = true ∧
      now.store.snapshot.banner.tickCount = 1 := by
  let content := Text.encode "MessageBanner\ndisplay-mode on\nseconds-to-display 3".toList
  have hchecked : (ofFiles Store.bannerFiles).toOption.map (fun start =>
      (start.scene.config.toOption, start.canUse, (start.settle.sleep 1500).canUse)) =
      some (some content, true, true) := by
    decide +kernel
  have hbanner : (Config.Snapshot.ofText (Text.decode content)).banner = ⟨true, 3, 0⟩ := by
    decide +kernel
  cases hopen : ofFiles Store.bannerFiles with
  | error f => simp [hopen, Except.toOption] at hchecked
  | ok start =>
    simp only [hopen, Except.toOption, Option.map_some, Option.some.injEq, Prod.mk.injEq] at hchecked
    obtain ⟨hcontent, husable, husableThen⟩ := hchecked
    have hconfig : start.scene.config = .ok content := by
      cases hread : start.scene.config with
      | error f => simp [hread] at hcontent
      | ok c => simpa [hread] using hcontent
    -- Half a second after its first tick somebody asks for a reload.
    have hsound := sound_of_openAt hopen
    obtain ⟨hfirst, -, hnowFirst⟩ := hsound.settle_sleep 1500
    have hrefresh := quietly_refresh (usable_of_canUse husableThen)
    have hsoundThen := (hsound.runs hfirst.runs).happens hrefresh.happens
    obtain ⟨hlast, hsettled, hnow⟩ := hsoundThen.settle_sleep 700
    have hruns := (hfirst.quietlyRuns.tail hrefresh).trans hlast.quietlyRuns
    have htime := hnow.trans (congrArg (· + 700) ((now_refreshFrom _ _).trans hnowFirst))
    have hgoes := timed_banner_goes_off hopen (.inl rfl) hconfig (by rw [hbanner])
      (n := 3) (by rw [hbanner]) (by omega) (usable_of_canUse husable) hruns hsettled
    obtain ⟨hon, hcount⟩ := hgoes.1 2 (by omega)
      (by rw [htime]; show start.now + 2 * 1000 ≤ _; omega)
      (by rw [htime]; show _ < start.now + (2 + 1) * 1000; omega)
    exact ⟨start, _, rfl, hruns, hsettled, htime, hon, hcount⟩

end Engine

end SiteGate
