import Mathlib.Data.List.Induction
import Mathlib.Data.List.Infix
import Mathlib.Data.List.Nodup
import SiteGate.Proofs.Digest
import SiteGate.Proofs.Store.Run

/-!
# Where a published snapshot comes from

A store publishes snapshots in five ways, and three of them patch the snapshot that it has published
before. Its files are changed by others at any time, and an operation may fail half way. Even so a
published snapshot is never a blend of two files: it says what one content of the configuration file
says and what one content of the list of blocked addresses says, and it knows by their digests which
ones (`Records`). Only the banner may have been counted down and switched off since.

This rests on the digests. Contents that occur in a run are assumed to have different ones
(`CollisionFree`), and the digest of no content is the empty text that stands for a missing list
(`contentDigest_ne_nil`). So a digest that stays the same tells that the content has, and every
reload records what the files hold when it reads them (`Records.reloadFrom`).
-/

set_option autoImplicit false

namespace SiteGate.Store

open Config (Layout Settings Snapshot)

/-! ## Contents that occur -/

namespace Scene

/-- The configuration file has a content at some time of a run. -/
def ConfigOccurs (w : Scene) (acts : List Act) (content : Bytes) : Prop :=
  ∃ before, before <+: acts ∧ (w.run before).config = .ok content

/-- The list of blocked addresses has a content, or is missing, at some time of a run. -/
def BlockedOccurs (w : Scene) (acts : List Act) (blocked : Option Bytes) : Prop :=
  ∃ before, before <+: acts ∧ (w.run before).blocked = .ok blocked

/-- One of the two files has a content at some time of a run. -/
def Occurs (w : Scene) (acts : List Act) (content : Bytes) : Prop :=
  w.ConfigOccurs acts content ∨ w.BlockedOccurs acts (some content)

end Scene

/-! ## What a store records -/

/-- What the two files say in a site with a layout and settings. -/
def saidBy (layout : Layout) (settings : Settings) (content : Bytes) (blocked : Option Bytes) :
    Snapshot :=
  { Snapshot.ofText (Text.decode content) with
    digest := contentDigest content
    webRoot := layout.webRoot
    appdata := layout.appdata
    configFile := layout.configFile
    refreshSeconds := settings.refreshInterval
    validateHost := settings.validateHost
    blockedAddresses := Config.blockedOfContent blocked }

/-- The store has published what two contents say, but for the count of the banner and for a banner
that has been switched off, and it knows the digests of both. -/
structure Records (s : Store) (content : Bytes) (blocked : Option Bytes) : Prop where
  fields : { s.snapshot with banner := (saidBy s.layout s.settings content blocked).banner } =
    saidBy s.layout s.settings content blocked
  seconds : s.snapshot.banner.secondsToDisplay =
    (Snapshot.ofText (Text.decode content)).banner.secondsToDisplay
  on : s.snapshot.banner.on = true → (Snapshot.ofText (Text.decode content)).banner.on = true
  blockedDigest : s.blockedDigest = Config.blockedDigest blocked

namespace Records

variable {s : Store} {content : Bytes} {blocked : Option Bytes}

/-- The published snapshot carries the digest of the content. -/
theorem digest (h : Records s content blocked) : s.snapshot.digest = contentDigest content :=
  congrArg Snapshot.digest h.fields

/-- A snapshot that is read from the configuration file records the contents. -/
theorem withContents (s : Store) (content : Bytes) (blocked : Option Bytes) :
    Records (s.withContents content blocked) content blocked :=
  ⟨rfl, rfl, id, rfl⟩

/-- Other blocked addresses and their digest take the place of the old ones together. -/
theorem withList (h : Records s content blocked) (next : Option Bytes) :
    Records (s.withList next) content next := by
  refine ⟨?_, h.seconds, h.on, rfl⟩
  have hfields := congrArg
    (fun t : Snapshot => { t with blockedAddresses := Config.blockedOfContent next }) h.fields
  exact hfields

/-- The first reload of a store records the contents that it reads. -/
theorem of_initial (layout : Layout) (settings : Settings) (content : Bytes)
    (blocked : Option Bytes) :
    Records ((initial layout settings).reloadFrom content blocked).2 content blocked := by
  have hdigest : contentDigest content ≠ (initial layout settings).snapshot.digest :=
    contentDigest_ne_nil content
  obtain ⟨hsame, -, -⟩ | ⟨hsame, -⟩ | ⟨-, hnew⟩ :=
    reloadFrom_cases (initial layout settings) content blocked
  · exact absurd hsame hdigest
  · exact absurd hsame hdigest
  · rw [hnew]
    exact .withContents _ content blocked

/-- A reload records the contents that it reads, if a digest that stays the same means that the
content does. -/
theorem reloadFrom (h : Records s content blocked) {next : Bytes} {nextBlocked : Option Bytes}
    (hnext : contentDigest next = contentDigest content → next = content)
    (hblocked : Config.blockedDigest nextBlocked = Config.blockedDigest blocked →
      nextBlocked = blocked) :
    Records (s.reloadFrom next nextBlocked).2 next nextBlocked := by
  obtain ⟨hsame, hsameList, hnew⟩ | ⟨hsame, hnew⟩ | ⟨-, hnew⟩ :=
    reloadFrom_cases s next nextBlocked
  · rw [hnew, hnext (hsame.trans h.digest), hblocked (hsameList.trans h.blockedDigest)]
    exact h
  · rw [hnew, hnext (hsame.trans h.digest)]
    exact h.withList nextBlocked
  · rw [hnew]
    exact .withContents s next nextBlocked

/-- The count of the banner may be published. -/
theorem setTicks (h : Records s content blocked) (generation remaining : Nat) :
    Records (s.setTicks generation remaining) content blocked := by
  unfold Store.setTicks
  split
  · exact ⟨h.fields, h.seconds, h.on, h.blockedDigest⟩
  · exact h

/-- The banner may be switched off. -/
theorem switchOff (h : Records s content blocked) : Records s.switchOff content blocked := by
  refine ⟨h.fields, h.seconds, ?_, h.blockedDigest⟩
  intro hon
  cases hon

end Records

/-! ## The invariant of a run -/

variable {s t : Store} {files : Tree} {outcome : Reload}

/-- A store records a content of the configuration file of a kind, and a content of the list of
blocked addresses of another kind. -/
def Traced (config : Bytes → Prop) (blocked : Option Bytes → Prop) (s : Store) : Prop :=
  ∃ content list, config content ∧ blocked list ∧ Records s content list

/-- The contents of two kinds together. -/
def Either (config : Bytes → Prop) (blocked : Option Bytes → Prop) (content : Bytes) : Prop :=
  config content ∨ blocked (some content)

/-- What the two files hold is of the two kinds. -/
structure Scene.Supplies (config : Bytes → Prop) (blocked : Option Bytes → Prop) (w : Scene) :
    Prop where
  config : ∀ content, w.config = .ok content → config content
  blocked : ∀ list, w.blocked = .ok list → blocked list

/-- The store records what the two files hold. -/
def Scene.UpToDate (w : Scene) : Prop :=
  ∃ content blocked, w.config = .ok content ∧ w.blocked = .ok blocked ∧
    Records w.store content blocked

section

variable {config : Bytes → Prop} {blocked : Option Bytes → Prop}

/-- A store that is up to date is traced to what the files hold. -/
theorem Scene.UpToDate.traced {w : Scene} (h : w.UpToDate) (hkinds : w.Supplies config blocked) :
    Traced config blocked w.store := by
  obtain ⟨content, list, hcontent, hlist, hrecords⟩ := h
  exact ⟨content, list, hkinds.config content hcontent, hkinds.blocked list hlist, hrecords⟩

/-- What the files hold depends on the store by its layout only. -/
theorem Scene.Supplies.of_layout (h : Scene.Supplies config blocked ⟨s, files⟩)
    (hlayout : t.layout = s.layout) : Scene.Supplies config blocked ⟨t, files⟩ where
  config := by
    intro content hcontent
    unfold Scene.config at hcontent
    rw [hlayout] at hcontent
    exact h.config content hcontent
  blocked := by
    intro list hlist
    unfold Scene.blocked at hlist
    rw [hlayout] at hlist
    exact h.blocked list hlist

/-- The first reload brings a store up to date. -/
theorem upToDate_of_initial {layout : Layout} {settings : Settings}
    (h : (initial layout settings).reload files = .ok (outcome, t)) :
    Scene.UpToDate ⟨t, files⟩ := by
  obtain ⟨content, list, hcontent, hlist, hnext⟩ := contents_of_reload h
  refine ⟨content, list, hcontent, hlist, ?_⟩
  rw [← hnext]
  exact .of_initial layout settings content list

/-- Every later reload does so too, if no content that the store is traced to shares its digest with
another one. -/
theorem Traced.upToDate_of_reload (h : Traced config blocked s)
    (hfree : CollisionFree (Either config blocked))
    (hkinds : Scene.Supplies config blocked ⟨t, files⟩)
    (hreload : s.reload files = .ok (outcome, t)) : Scene.UpToDate ⟨t, files⟩ := by
  obtain ⟨content, list, hkind, hkindList, hrecords⟩ := h
  obtain ⟨next, nextList, hnext, hnextList, hstore⟩ := contents_of_reload hreload
  have hcontent : contentDigest next = contentDigest content → next = content :=
    hfree next content (.inl (hkinds.config next hnext)) (.inl hkind)
  have hlist : Config.blockedDigest nextList = Config.blockedDigest list → nextList = list := by
    apply hfree.blocked_eq
    · rintro c rfl
      exact .inr (hkinds.blocked _ hnextList)
    · rintro c rfl
      exact .inr hkindList
  refine ⟨next, nextList, hnext, hnextList, ?_⟩
  rw [← hstore]
  exact hrecords.reloadFrom hcontent hlist

/-- Switching the banner off does not break the trace. -/
theorem Traced.switchOff (h : Traced config blocked s) : Traced config blocked s.switchOff := by
  obtain ⟨content, list, hkind, hkindList, hrecords⟩ := h
  exact ⟨content, list, hkind, hkindList, hrecords.switchOff⟩

/-- Counting the banner down does not break the trace. -/
theorem Traced.setTicks (h : Traced config blocked s) (generation remaining : Nat) :
    Traced config blocked (s.setTicks generation remaining) := by
  obtain ⟨content, list, hkind, hkindList, hrecords⟩ := h
  exact ⟨content, list, hkind, hkindList, hrecords.setTicks generation remaining⟩

/-- No change breaks the trace: a reload is the only one that brings other contents in, and they are
those of the files. -/
theorem Traced.change (h : Traced config blocked s) (hfree : CollisionFree (Either config blocked))
    (hkinds : Scene.Supplies config blocked ⟨t, files⟩) (hchange : Change files s t) :
    Traced config blocked t := by
  cases hchange with
  | stay => exact h
  | reload hreload => exact (h.upToDate_of_reload hfree hkinds hreload).traced hkinds
  | @switchOff _ u hreload =>
    have hkindsBefore : Scene.Supplies config blocked ⟨u, files⟩ := hkinds.of_layout rfl
    exact ((h.upToDate_of_reload hfree hkindsBefore hreload).traced hkindsBefore).switchOff
  | ticks generation remaining => exact h.setTicks generation remaining

/-- An act that leaves contents of the kinds behind does not break the trace. -/
theorem Scene.traced_act {w : Scene} {a : Act} (h : Traced config blocked w.store)
    (hfree : CollisionFree (Either config blocked)) (hkinds : (w.act a).Supplies config blocked) :
    Traced config blocked (w.act a).store :=
  h.change hfree hkinds (w.change_act a)

/-- A run through contents of the kinds does not break the trace. -/
theorem Scene.traced_run {w : Scene} (h : Traced config blocked w.store)
    (hfree : CollisionFree (Either config blocked)) (acts : List Act)
    (hkinds : ∀ before, before <+: acts → (w.run before).Supplies config blocked) :
    Traced config blocked (w.run acts).store := by
  -- From the left the scene that a run starts from would change, and with it what is supplied.
  induction acts using List.reverseRecOn with
  | nil => exact h
  | append_singleton before a ih =>
    have hbefore : Traced config blocked (w.run before).store := by
      apply ih
      intro earlier hearlier
      exact hkinds earlier (hearlier.trans (List.prefix_append before [a]))
    have hlast := hkinds (before ++ [a]) List.prefix_rfl
    rw [run_concat] at hlast ⊢
    exact traced_act hbefore hfree hlast

end

/-! ## The published snapshot -/

/-- What a store has published after a run is told by one content of each file. -/
structure Provenance (w : Scene) (acts : List Act) (content : Bytes) (blocked : Option Bytes) :
    Prop where
  /-- The store records the contents, -/
  records : Records (w.run acts).store content blocked
  /-- the first of which the configuration file has at some time of the run -/
  config : w.ConfigOccurs acts content
  /-- and the second the list of blocked addresses. -/
  list : w.BlockedOccurs acts blocked
  /-- No other content that occurs has the digest that the snapshot carries, -/
  config_unique : ∀ other, w.Occurs acts other →
    contentDigest other = (w.run acts).store.snapshot.digest → other = content
  /-- and no other list the digest that the store knows. -/
  list_unique : ∀ other, (∀ c ∈ other, w.Occurs acts c) →
    Config.blockedDigest other = (w.run acts).store.blockedDigest → other = blocked
  /-- They are what the files hold, if the run ends with a reload. -/
  current : ∀ before a, acts = before ++ [a] → (w.run before).Reloads a →
    (w.run acts).config = .ok content ∧ (w.run acts).blocked = .ok blocked

/-- A store that has been opened is up to date. -/
theorem Scene.upToDate_of_opened {w : Scene} {root : Path} {settings : Settings}
    (h : Scene.opened? files root settings = some w) :
    w.UpToDate ∧ w.store.layout = Layout.ofRoot root ∧ w.store.settings = settings := by
  unfold opened? at h
  cases hresult : (openAt files root settings).result with
  | error f => simp [hresult] at h
  | ok r =>
    simp only [hresult, Option.some.injEq] at h
    subst h
    have hreload := reload_of_openAt hresult
    exact ⟨upToDate_of_initial hreload, site_reload hreload⟩

/-- Every scene of a run supplies contents that occur in it. -/
theorem Scene.supplies_of_begins (w : Scene) {before acts : List Act} (h : before <+: acts) :
    (w.run before).Supplies (w.ConfigOccurs acts) (w.BlockedOccurs acts) where
  config := fun _ hcontent => ⟨before, h, hcontent⟩
  blocked := fun _ hlist => ⟨before, h, hlist⟩

/-- A run that ends with a reload brings the store up to date. -/
theorem Scene.upToDate_of_reloads {w : Scene} {before acts : List Act} {a : Act}
    (hstart : w.UpToDate) (hfree : CollisionFree (w.Occurs acts)) (hacts : acts = before ++ [a])
    (hreloads : (w.run before).Reloads a) : (w.run acts).UpToDate := by
  have hbegin : ∀ earlier, earlier <+: before → earlier <+: acts := by
    intro earlier hearlier
    rw [hacts]
    exact hearlier.trans (List.prefix_append before [a])
  have htraced : Traced (w.ConfigOccurs acts) (w.BlockedOccurs acts) (w.run before).store := by
    apply traced_run (hstart.traced (w.supplies_of_begins (List.nil_prefix))) hfree
    intro earlier hearlier
    exact w.supplies_of_begins (hbegin earlier hearlier)
  have hlast : w.run acts = (w.run before).act a := by
    rw [hacts, run_concat]
  have hkinds : (w.run acts).Supplies (w.ConfigOccurs acts) (w.BlockedOccurs acts) :=
    w.supplies_of_begins List.prefix_rfl
  rw [hlast] at hkinds ⊢
  obtain ⟨outcome, hreload⟩ := hreloads.reload_act
  exact htraced.upToDate_of_reload hfree hkinds hreload

/-- Whatever happens after a store has been opened, what it publishes comes from one content of the
configuration file and one of the list of blocked addresses, if no two contents that occur have the
same digest. -/
theorem published_from_one_content {w : Scene} {root : Path} {settings : Settings}
    (hopen : Scene.opened? files root settings = some w) (acts : List Act)
    (hfree : CollisionFree (w.Occurs acts)) :
    (w.run acts).store.layout = Layout.ofRoot root ∧ (w.run acts).store.settings = settings ∧
      ∃ content blocked, Provenance w acts content blocked := by
  obtain ⟨hstart, hlayout, hsettings⟩ := Scene.upToDate_of_opened hopen
  obtain ⟨hlayoutRun, hsettingsRun⟩ := w.site_run acts
  refine ⟨hlayoutRun.trans hlayout, hsettingsRun.trans hsettings, ?_⟩
  have htraced : Traced (w.ConfigOccurs acts) (w.BlockedOccurs acts) (w.run acts).store := by
    apply Scene.traced_run (hstart.traced (w.supplies_of_begins List.nil_prefix)) hfree
    intro before hbefore
    exact w.supplies_of_begins hbefore
  obtain ⟨content, blocked, hcontent, hblocked, hrecords⟩ := htraced
  have hoccurs : ∀ c ∈ blocked, w.Occurs acts c := by
    rintro c rfl
    exact .inr hblocked
  have hunique : ∀ other, w.Occurs acts other →
      contentDigest other = (w.run acts).store.snapshot.digest → other = content := by
    intro other hother hdigest
    exact hfree other content hother (.inl hcontent) (hdigest.trans hrecords.digest)
  have huniqueList : ∀ other, (∀ c ∈ other, w.Occurs acts c) →
      Config.blockedDigest other = (w.run acts).store.blockedDigest → other = blocked := by
    intro other hother hdigest
    exact hfree.blocked_eq hother hoccurs (hdigest.trans hrecords.blockedDigest)
  refine ⟨content, blocked, hrecords, hcontent, hblocked, hunique, huniqueList, ?_⟩
  intro before a hacts hreloads
  obtain ⟨next, list, hnext, hlist, hrecordsNext⟩ :=
    Scene.upToDate_of_reloads hstart hfree hacts hreloads
  -- Both pairs of contents have the digests that the store knows, so they are the same.
  have hsame : next = content :=
    hunique next (.inl ⟨acts, List.prefix_rfl, hnext⟩) hrecordsNext.digest.symm
  have hsameList : list = blocked := by
    apply huniqueList list _ hrecordsNext.blockedDigest.symm
    rintro c rfl
    exact .inr ⟨acts, List.prefix_rfl, hlist⟩
  rw [hnext, hlist, hsame, hsameList]
  exact ⟨rfl, rfl⟩

/-- The files of a site with a configuration, in which one address is blocked. -/
def siteFiles (config : Text) : Tree :=
  ⟨[(["w".toList], .directory), (["w".toList, "appdata".toList], .directory),
    (["w".toList, "appdata".toList, ".cfg".toList], .directory),
    (["w".toList, "appdata".toList, ".cfg".toList, ".all".toList], .file (Text.encode config)),
    (["w".toList, "appdata".toList, ".cfg".toList, "blocked-ip".toList],
      .file (Text.encode "10.1.1.1 scanner".toList))]⟩

/-- A store that is opened while such a site is under maintenance. -/
def openedSite? : Option Scene :=
  Scene.opened? (siteFiles "maintenance-window on".toList) "w".toList ⟨1, 1000, false, false⟩

/-- Somebody ends the maintenance, and the store reads it. -/
def endMaintenance : List Act := [.edit (siteFiles "maintenance-window off".toList), .refresh]

/-- The contents that the files have before and after. -/
def siteContents : List Bytes :=
  ["maintenance-window on", "maintenance-window off", "10.1.1.1 scanner"].map
    fun line => Text.encode line.toList

/-- The contents that occur in a run are those that its scenes have. -/
theorem Scene.mem_of_occurs {w : Scene} {acts : List Act} {contents : List Bytes} {content : Bytes}
    (hscenes : ∀ before ∈ acts.inits, (w.run before).config ∈ contents.map .ok ∧
      (w.run before).blocked ∈ contents.map fun c => .ok (some c))
    (h : w.Occurs acts content) : content ∈ contents := by
  obtain ⟨before, hbefore, hconfig⟩ | ⟨before, hbefore, hblocked⟩ := h
  · have hmem := (hscenes before ((List.mem_inits _ _).mpr hbefore)).1
    rw [hconfig] at hmem
    simpa using hmem
  · have hmem := (hscenes before ((List.mem_inits _ _).mpr hbefore)).2
    rw [hblocked] at hmem
    simpa using hmem

/-- No other contents occur. -/
theorem mem_siteContents {w : Scene} {content : Bytes} (hopen : openedSite? = some w)
    (h : w.Occurs endMaintenance content) : content ∈ siteContents := by
  have hscenes : ∀ w ∈ openedSite?, ∀ before ∈ endMaintenance.inits,
      (w.run before).config ∈ siteContents.map .ok ∧
        (w.run before).blocked ∈ siteContents.map fun c => .ok (some c) := by
    decide +kernel
  exact Scene.mem_of_occurs (hscenes w hopen) h

/-- What is published after the end of the maintenance comes from one content of each file. -/
theorem published_from_one_content_endMaintenance :
    ∃ w, openedSite? = some w ∧ CollisionFree (w.Occurs endMaintenance) ∧
      ∃ content blocked, Provenance w endMaintenance content blocked := by
  have hsome : openedSite?.isSome = true := by decide +kernel
  obtain ⟨w, hopen⟩ := Option.isSome_iff_exists.mp hsome
  have hdistinct : (siteContents.map contentDigest).Nodup := by decide +kernel
  have hfree : CollisionFree (w.Occurs endMaintenance) := by
    intro b c hb hc hdigest
    have hb' := mem_siteContents hopen hb
    have hc' := mem_siteContents hopen hc
    exact List.inj_on_of_nodup_map hdistinct hb' hc' hdigest
  exact ⟨w, hopen, hfree, (published_from_one_content hopen endMaintenance hfree).2.2⟩

end SiteGate.Store
