import SiteGate.Proofs.Store.BannerCount
import SiteGate.Proofs.Store.Provenance

/-!
# What a refresh goes by

A refresh compares digests, but what it answers is about contents. To say so, the contents that the
store has taken over are kept beside it (`Taken`): that of the configuration from which the
published snapshot has been built, and that of the list of blocked addresses which has been recorded
last. Only a reload takes contents over (`Taken.after`). Whatever happens to the store and its
files, what it has published is what these contents say, and the digests that it knows are theirs
(`Taken.records_afterAll`); that needs no assumption about digests.

So as long as no two contents that occur have the same digest, a refresh reads the configuration
again just if it is not the one that has been taken over, and only then a generation begins; and it
takes over the list alone just if that is another one (`refresh_gated`).
-/

set_option autoImplicit false

namespace SiteGate

open Config (Layout Settings Snapshot)

namespace Store

variable {s t : Store} {files : Tree} {outcome : Reload}

/-! ## What the store has taken over -/

/-- The contents that a store has taken over: that of the configuration from which it has built the
snapshot, and that of the list of blocked addresses, if there has been one. -/
structure Taken where
  config : Bytes
  list : Option Bytes
deriving DecidableEq

namespace Taken

/-- What has been taken over after an act. A reload that builds a snapshot takes over both contents
that the files then hold, and one that refreshes the blocked addresses takes over the list. -/
def after (k : Taken) (w : Scene) (a : Act) : Taken :=
  match w.reload? a, (w.act a).config, (w.act a).blocked with
  | some (.reloaded _), .ok config, .ok list => ⟨config, list⟩
  | some .blockedRefreshed, _, .ok list => { k with list := list }
  | _, _, _ => k

/-- What has been taken over after acts one after the other. -/
def afterAll (k : Taken) (w : Scene) : List Act → Taken
  | [] => k
  | a :: rest => (k.after w a).afterAll (w.act a) rest

/-- What has been taken over is of two kinds. -/
structure Of (k : Taken) (config : Bytes → Prop) (list : Option Bytes → Prop) : Prop where
  config : config k.config
  list : list k.list

variable {k : Taken} {w : Scene} {config : Bytes → Prop} {list : Option Bytes → Prop}

/-- A reload that succeeds leaves a store that records what it has taken over. -/
theorem records_after_reload (h : Records w.store k.config k.list) {a : Act}
    (hsome : w.reload? a = some outcome)
    (hreload : w.store.reload (w.act a).files = .ok (outcome, t)) :
    Records t (k.after w a).config (k.after w a).list := by
  obtain ⟨content, blocked, hcontent, hblocked, hnext⟩ := reload_eq_ok_iff.mp hreload
  have hlayout := (w.change_act a).site.1
  have hconfig : (w.act a).config = .ok content := by
    unfold Scene.config
    rw [hlayout, hcontent]
  have hlist : (w.act a).blocked = .ok blocked := by
    unfold Scene.blocked
    rw [hlayout, hblocked]
  rw [reloadFrom_eq] at hnext
  split at hnext
  · split at hnext
    · obtain ⟨rfl, rfl⟩ := Prod.mk.inj hnext
      simp only [Taken.after, hsome]
      exact h
    · obtain ⟨rfl, rfl⟩ := Prod.mk.inj hnext
      simp only [Taken.after, hsome, hlist]
      exact h.withList blocked
  · obtain ⟨rfl, rfl⟩ := Prod.mk.inj hnext
    simp only [Taken.after, hsome, hconfig, hlist]
    exact .withContents w.store content blocked

/-- After an act the store records what it has taken over by then. -/
theorem records_after (h : Records w.store k.config k.list) (a : Act) :
    Records (w.act a).store (k.after w a).config (k.after w a).list := by
  obtain ⟨hnone, hleft⟩ | ⟨outcome, t, hsome, hreload, hleft⟩ := w.act_cases a
  · simp only [Taken.after, hnone]
    obtain hleft | ⟨generation, remaining, hleft⟩ := hleft
    · rw [hleft]
      exact h
    · rw [hleft]
      exact h.setTicks generation remaining
  · have hrecords := records_after_reload h hsome hreload
    obtain hleft | hleft := hleft
    · rw [hleft]
      exact hrecords
    · rw [hleft]
      exact hrecords.switchOff

/-- After a run the store records what it has taken over by then. -/
theorem records_afterAll (h : Records w.store k.config k.list) (acts : List Act) :
    Records (w.run acts).store (k.afterAll w acts).config (k.afterAll w acts).list := by
  induction acts generalizing k w with
  | nil => exact h
  | cons a rest ih => exact ih (records_after h a)

/-- What is taken over by an act is of the kinds that the files then are. -/
theorem Of.after (h : k.Of config list) {a : Act} (hkinds : (w.act a).Supplies config list) :
    (k.after w a).Of config list := by
  unfold Taken.after
  split
  · next hconfig hlist => exact ⟨hkinds.config _ hconfig, hkinds.blocked _ hlist⟩
  · next hlist => exact ⟨h.config, hkinds.blocked _ hlist⟩
  · exact h

/-- What is taken over in a run is of the kinds that the files are throughout. -/
theorem Of.afterAll (h : k.Of config list) {acts : List Act}
    (hkinds : ∀ before, before <+: acts → (w.run before).Supplies config list) :
    (k.afterAll w acts).Of config list := by
  induction acts generalizing k w with
  | nil => exact h
  | cons a rest ih =>
    have hfirst : (w.act a).Supplies config list :=
      hkinds [a] (List.prefix_cons_inj a |>.mpr List.nil_prefix)
    refine ih (h.after hfirst) fun before hbefore => ?_
    exact hkinds (a :: before) ((List.prefix_cons_inj a).mpr hbefore)

end Taken

/-- A store that has been opened has taken over what the files hold. -/
theorem exists_taken_of_opened {root : Path} {settings : Settings} {w : Scene}
    (h : Scene.opened? files root settings = some w) :
    ∃ k : Taken, w.config = .ok k.config ∧ w.blocked = .ok k.list ∧
      Records w.store k.config k.list := by
  obtain ⟨⟨content, blocked, hcontent, hblocked, hrecords⟩, -, -⟩ := Scene.upToDate_of_opened h
  exact ⟨⟨content, blocked⟩, hcontent, hblocked, hrecords⟩

end Store

namespace Engine

open Store (Act Scene Taken)

variable {e e' : Engine} {outcome : Reload}

/-! ## Refreshes -/

/-- An operation has read the files that it leaves, and armed a countdown if the banner that it has
read is timed. -/
structure Reread (e : Engine) (outcome : Reload) (e' : Engine) : Prop where
  reload : e.store.reload e'.files = .ok (outcome, e'.store)
  tasks : e'.tasks =
    if outcome = .reloaded true ∧ e.concurrent = true then
      e.tasks ++ [⟨e.nextId, e.now, .armed e'.store.generation e'.store.settings.tickInterval⟩]
    else e.tasks

/-- A refresh rereads the files and leaves them. -/
theorem reread_of_refresh (h : e.refresh = (.ok outcome, e')) :
    e.Reread outcome e' ∧ e'.files = e.files := by
  unfold refresh refreshFrom at h
  cases hreload : e.store.reload e.files with
  | error f => simp [hreload] at h
  | ok r =>
    obtain ⟨outcome', s⟩ := r
    simp only [hreload, Prod.mk.injEq, Except.ok.injEq] at h
    obtain ⟨rfl, rfl⟩ := h
    exact ⟨⟨by simpa using hreload, by simp [tasks_noteReload]⟩, by simp⟩

/-- A refresh goes by the contents of the two files, `now` and `list`, and by what the store has
taken over of them. -/
structure Gated (taken : Taken) (now : Bytes) (list : Option Bytes) (e : Engine)
    (outcome : Reload) (e' : Engine) : Prop where
  /-- The configuration is read again just if it is another one, -/
  reloaded_iff : (∃ timed, outcome = .reloaded timed) ↔ now ≠ taken.config
  /-- only the list just if it alone is another one, or has come or gone, -/
  refreshed_iff : outcome = .blockedRefreshed ↔ now = taken.config ∧ list ≠ taken.list
  /-- and nothing otherwise. -/
  unchanged_iff : outcome = .unchanged ↔ now = taken.config ∧ list = taken.list
  unchanged : outcome = .unchanged → e'.store = e.store
  refreshed : outcome = .blockedRefreshed → e'.store =
    { e.store with
      snapshot := { e.store.snapshot with blockedAddresses := Config.blockedOfContent list }
      version := e.store.version + 1
      blockedDigest := Config.blockedDigest list }
  reloaded : now ≠ taken.config → e'.store.snapshot =
    e.store.snapshotOf now (Config.blockedOfContent list)
  generation : e'.store.generation =
    if now = taken.config then e.store.generation else e.store.generation + 1
  /-- A countdown is armed just if the configuration is read again, its banner is on for a number of
  seconds, and whoever calls is inside a runtime. No other task is touched. -/
  tasks : e'.tasks =
    let banner := (Snapshot.ofText (Text.decode now)).banner
    if now ≠ taken.config ∧ banner.on = true ∧ 0 < banner.secondsToDisplay ∧
        e.concurrent = true then
      e.tasks ++ [⟨e.nextId, e.now, .armed e'.store.generation e.store.settings.tickInterval⟩]
    else e.tasks

/-- If equal digests mean equal contents, a refresh goes by the contents. -/
theorem gated_of_records {taken : Taken} {now : Bytes} {list : Option Bytes}
    (hrecords : Store.Records e.store taken.config taken.list) (hnow : e.scene.config = .ok now)
    (hlist : e.scene.blocked = .ok list)
    (hsame : contentDigest now = contentDigest taken.config → now = taken.config)
    (hsameList : Config.blockedDigest list = Config.blockedDigest taken.list → list = taken.list)
    (hrefresh : e.refresh = (.ok outcome, e')) : Gated taken now list e outcome e' := by
  obtain ⟨⟨hreload, htasks⟩, hfiles⟩ := reread_of_refresh hrefresh
  rw [hfiles] at hreload
  obtain ⟨content, blocked, hcontent, hblocked, hnext⟩ := Store.reload_eq_ok_iff.mp hreload
  obtain rfl : content = now := Except.ok.inj (hcontent.symm.trans hnow)
  obtain rfl : blocked = list := Except.ok.inj (hblocked.symm.trans hlist)
  have hdigest : contentDigest content = e.store.snapshot.digest ↔ content = taken.config := by
    rw [hrecords.digest]
    exact ⟨hsame, fun h => by rw [h]⟩
  have hdigestList : Config.blockedDigest blocked = e.store.blockedDigest ↔
      blocked = taken.list := by
    rw [hrecords.blockedDigest]
    exact ⟨hsameList, fun h => by rw [h]⟩
  rw [Store.reloadFrom_eq] at hnext
  simp only [hdigest, hdigestList] at hnext
  by_cases hconfig : content = taken.config
  · by_cases hrecorded : blocked = taken.list
    · rw [if_pos hconfig, if_pos hrecorded] at hnext
      obtain ⟨rfl, hstore⟩ := Prod.mk.inj hnext
      constructor <;> simp [hconfig, hrecorded, htasks, ← hstore]
    · rw [if_pos hconfig, if_neg hrecorded] at hnext
      obtain ⟨rfl, hstore⟩ := Prod.mk.inj hnext
      constructor <;> simp [hconfig, hrecorded, htasks, ← hstore, Store.withList, Store.publish]
  · rw [if_neg hconfig] at hnext
    obtain ⟨rfl, hstore⟩ := Prod.mk.inj hnext
    constructor <;> simp [hconfig, htasks, ← hstore, Store.withContents, Store.publish]
    simp only [Config.MessageBanner.isTimed_iff, and_assoc]
    rfl

/-- Whatever has happened since a store was opened, a refresh that succeeds goes by what the two
files hold and what the store has taken over of them since, if no two contents that have occurred
have the same digest. -/
theorem refresh_gated {files : Tree} {root : Path} {settings : Settings} {w : Scene}
    (hopen : Scene.opened? files root settings = some w) (acts : List Act)
    (hfree : CollisionFree (w.Occurs acts)) (hscene : e.scene = w.run acts)
    (hrefresh : e.refresh = (.ok outcome, e')) :
    ∃ (first : Taken) (now : Bytes) (list : Option Bytes),
      w.config = .ok first.config ∧ w.blocked = .ok first.list ∧
      Store.Records e.store (first.afterAll w acts).config (first.afterAll w acts).list ∧
      e.scene.config = .ok now ∧ e.scene.blocked = .ok list ∧
      Gated (first.afterAll w acts) now list e outcome e' := by
  obtain ⟨first, hconfig, hlist, hfirst⟩ := Store.exists_taken_of_opened hopen
  obtain ⟨hreread, hfiles⟩ := reread_of_refresh hrefresh
  obtain ⟨now, list, hnow, hlistNow, -⟩ := Store.reload_eq_ok_iff.mp (hfiles ▸ hreread.reload)
  have hrecords := Taken.records_afterAll hfirst acts
  rw [← hscene] at hrecords
  refine ⟨first, now, list, hconfig, hlist, hrecords, hnow, hlistNow, ?_⟩
  have hof : first.Of (w.ConfigOccurs acts) (w.BlockedOccurs acts) :=
    ⟨⟨[], List.nil_prefix, hconfig⟩, ⟨[], List.nil_prefix, hlist⟩⟩
  have htaken := hof.afterAll fun before hbefore => w.supplies_of_begins hbefore
  have hcurrent : Scene.Supplies (w.ConfigOccurs acts) (w.BlockedOccurs acts) e.scene := by
    rw [hscene]
    exact w.supplies_of_begins List.prefix_rfl
  refine gated_of_records hrecords hnow hlistNow ?_ ?_ hrefresh
  · exact hfree now _ (.inl (hcurrent.config now hnow)) (.inl htaken.config)
  · apply hfree.blocked_eq
    · rintro c rfl
      exact .inr (hcurrent.blocked _ hlistNow)
    · intro c hc
      have hoccurs := htaken.list
      rw [Option.mem_def.mp hc] at hoccurs
      exact .inr hoccurs

/-- Somebody puts a banner in the place of the maintenance. -/
def bannerEdit : List Act :=
  [.edit (Store.siteFiles "MessageBanner\ndisplay-mode on\nseconds-to-display 3".toList)]

/-- The contents that the files have before and after. -/
def bannerContents : List Bytes :=
  ["maintenance-window on", "MessageBanner\ndisplay-mode on\nseconds-to-display 3",
    "10.1.1.1 scanner"].map fun lines => Text.encode lines.toList

/-- The next refresh builds a snapshot and arms a countdown. -/
theorem refresh_gated_bannerEdit :
    ∃ start e e', ofFiles (Store.siteFiles "maintenance-window on".toList) = .ok start ∧
      CollisionFree (start.scene.Occurs bannerEdit) ∧ e.scene = start.scene.run bannerEdit ∧
      e.refresh = (.ok (.reloaded true), e') ∧
      ∃ (first : Taken) (now : Bytes) (list : Option Bytes),
        start.scene.config = .ok first.config ∧ start.scene.blocked = .ok first.list ∧
        Store.Records e.store (first.afterAll start.scene bannerEdit).config
          (first.afterAll start.scene bannerEdit).list ∧
        e.scene.config = .ok now ∧ e.scene.blocked = .ok list ∧
        Gated (first.afterAll start.scene bannerEdit) now list e (.reloaded true) e' := by
  have hscenes : ∀ start ∈ (ofFiles (Store.siteFiles "maintenance-window on".toList)).toOption,
      ∀ before ∈ bannerEdit.inits, (start.scene.run before).config ∈ bannerContents.map .ok ∧
        (start.scene.run before).blocked ∈ bannerContents.map fun c => .ok (some c) := by
    decide +kernel
  have hanswer : (ofFiles (Store.siteFiles "maintenance-window on".toList)).toOption.map
      (fun start => (Engine.refresh { start with
        files := (start.scene.run bannerEdit).files }).1.toOption) =
      some (some (.reloaded true)) := by
    decide +kernel
  have hdistinct : (bannerContents.map contentDigest).Nodup := by decide +kernel
  obtain ⟨start, hstart, hanswer⟩ := Option.map_eq_some_iff.mp hanswer
  have hopen := toOption_eq_some_iff.mp hstart
  have hfree : CollisionFree (start.scene.Occurs bannerEdit) := by
    intro b c hb hc hdigest
    have hb' := Scene.mem_of_occurs (hscenes start hstart) hb
    have hc' := Scene.mem_of_occurs (hscenes start hstart) hc
    exact List.inj_on_of_nodup_map hdistinct hb' hc' hdigest
  have hrefresh : Engine.refresh { start with files := (start.scene.run bannerEdit).files } =
      (.ok (.reloaded true), _) :=
    Prod.ext (toOption_eq_some_iff.mp hanswer) rfl
  exact ⟨start, _, _, hopen, hfree, rfl, hrefresh,
    refresh_gated (opened_of_openAt hopen) bannerEdit hfree rfl hrefresh⟩

end Engine

end SiteGate
