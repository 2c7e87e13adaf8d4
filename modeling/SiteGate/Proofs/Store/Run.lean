import SiteGate.Store.Basic

/-!
# Runs of a store

A store is worked on by those who use it, by the countdown of its banner and by whoever watches its
files; and its files are changed by others at any time. A run is any sequence of such acts (`Act`).
What an act can make of the store is said once, by `Change`: every act leaves the store as it is,
reads the files that it leaves behind, switches the banner off after that, or counts it down
(`Scene.change_act`). No act reaches the layout and the settings (`Scene.site_run`).
-/

set_option autoImplicit false

namespace SiteGate.Store

open Config (Layout Settings Snapshot)

/-! ## Runs -/

/-- A store and the files that it works on. -/
structure Scene where
  store : Store
  files : Tree

/-- What can happen to a store and its files: somebody else changes files, the store reads them
again when it is asked to or a watcher polls it, changes a value in one of them, counts its banner
down, or switches it off. -/
inductive Act where
  | edit (files : Tree)
  | refresh
  | update (parent key value : Text)
  | tick (generation remaining : Nat)
  | expire (generation : Nat)

namespace Scene

/-- What comes of an act. An operation that fails leaves the store as it is. -/
def act (w : Scene) : Act → Scene
  | .edit files => { w with files := files }
  | .refresh =>
    match w.store.reload w.files with
    | .ok (_, s) => { w with store := s }
    | .error _ => w
  | .update parent key value =>
    let o := w.store.update w.files parent key value
    ⟨o.store, o.files⟩
  | .tick generation remaining => { w with store := w.store.setTicks generation remaining }
  | .expire generation =>
    let o := w.store.expire w.files generation
    ⟨o.store, o.files⟩

/-- What comes of acts one after the other. -/
def run (w : Scene) (acts : List Act) : Scene := acts.foldl act w

/-- The last act comes after the run of those before it. -/
theorem run_concat (w : Scene) (before : List Act) (a : Act) :
    w.run (before ++ [a]) = (w.run before).act a := by
  simp [run, List.foldl_append]

/-- An act is a reload, or an update with its reload, and does not fail. -/
def Reloads (w : Scene) : Act → Prop
  | .refresh => ∃ r, w.store.reload w.files = .ok r
  | .update parent key value => ∃ r, (w.store.update w.files parent key value).result = .ok r
  | _ => False

/-- The content of the configuration file. -/
def config (w : Scene) : Except FileFailure Bytes := w.files.contentAt w.store.layout.configFile

/-- The content of the list of blocked addresses, if there is one. -/
def blocked (w : Scene) : Except FileFailure (Option Bytes) :=
  Config.blockedContent w.files w.store.layout.blockedFile

/-- The scene that opening a store under a web root leaves behind, if it succeeds. -/
def opened? (files : Tree) (root : Path) (settings : Settings) : Option Scene :=
  let o := openAt files root settings
  match o.result with
  | .ok (_, s) => some ⟨s, o.files⟩
  | .error _ => none

end Scene

/-! ## What a reload does -/

/-- The store after a reload that meets another list of blocked addresses only. -/
def withList (s : Store) (blocked : Option Bytes) : Store :=
  { s.publish { s.snapshot with blockedAddresses := Config.blockedOfContent blocked } with
    blockedDigest := Config.blockedDigest blocked }

/-- The store after a reload that meets another configuration. -/
def withContents (s : Store) (content : Bytes) (blocked : Option Bytes) : Store :=
  { s.publish (s.snapshotOf content (Config.blockedOfContent blocked)) with
    blockedDigest := Config.blockedDigest blocked, generation := s.generation + 1 }

/-- A reload compares digests, and does one of three things. -/
theorem reloadFrom_eq (s : Store) (content : Bytes) (blocked : Option Bytes) :
    s.reloadFrom content blocked =
      if contentDigest content = s.snapshot.digest then
        if Config.blockedDigest blocked = s.blockedDigest then (.unchanged, s)
        else (.blockedRefreshed, s.withList blocked)
      else (.reloaded (Snapshot.ofContent content).banner.isTimed,
        s.withContents content blocked) :=
  rfl

/-- So it leaves the store, or takes over the list alone or both contents. -/
theorem reloadFrom_cases (s : Store) (content : Bytes) (blocked : Option Bytes) :
    (contentDigest content = s.snapshot.digest ∧ Config.blockedDigest blocked = s.blockedDigest ∧
      (s.reloadFrom content blocked).2 = s) ∨
    (contentDigest content = s.snapshot.digest ∧
      (s.reloadFrom content blocked).2 = s.withList blocked) ∨
    (contentDigest content ≠ s.snapshot.digest ∧
      (s.reloadFrom content blocked).2 = s.withContents content blocked) := by
  rw [reloadFrom_eq]
  by_cases hcontent : contentDigest content = s.snapshot.digest
  · by_cases hblocked : Config.blockedDigest blocked = s.blockedDigest
    · refine .inl ⟨hcontent, hblocked, ?_⟩
      rw [if_pos hcontent, if_pos hblocked]
    · refine .inr (.inl ⟨hcontent, ?_⟩)
      rw [if_pos hcontent, if_neg hblocked]
  · refine .inr (.inr ⟨hcontent, ?_⟩)
    rw [if_neg hcontent]

/-! ## What an act does to the store -/

/-- What an act that leaves files behind can make of a store. -/
inductive Change (files : Tree) (s : Store) : Store → Prop where
  /-- Nothing. -/
  | stay : Change files s s
  /-- It reads the files that it leaves behind. -/
  | reload {outcome : Reload} {t : Store} (h : s.reload files = .ok (outcome, t)) :
    Change files s t
  /-- It reads them and switches the banner off. -/
  | switchOff {outcome : Reload} {t : Store} (h : s.reload files = .ok (outcome, t)) :
    Change files s t.switchOff
  /-- It counts the banner down. -/
  | ticks (generation remaining : Nat) : Change files s (s.setTicks generation remaining)

variable {s t : Store} {files : Tree} {outcome : Reload}

/-- A reload succeeds if both files can be read, and then it goes by what they hold. -/
theorem reload_eq_ok_iff : s.reload files = .ok (outcome, t) ↔
    ∃ content blocked, files.contentAt s.layout.configFile = .ok content ∧
      Config.blockedContent files s.layout.blockedFile = .ok blocked ∧
      s.reloadFrom content blocked = (outcome, t) := by
  unfold reload
  cases files.contentAt s.layout.configFile with
  | error f => simp
  | ok content => cases Config.blockedContent files s.layout.blockedFile <;> simp

/-- A reload that succeeds reads both files. -/
theorem reload_ok (h : s.reload files = .ok (outcome, t)) :
    ∃ content blocked, files.contentAt s.layout.configFile = .ok content ∧
      Config.blockedContent files s.layout.blockedFile = .ok blocked ∧
      (s.reloadFrom content blocked).2 = t := by
  obtain ⟨content, blocked, hcontent, hblocked, hnext⟩ := reload_eq_ok_iff.mp h
  exact ⟨content, blocked, hcontent, hblocked, by rw [hnext]⟩

/-- An update fails and leaves the store as it is, or it reads the files that it leaves behind. -/
theorem update_cases (s : Store) (files : Tree) (parent key value : Text) :
    ((∃ f, (s.update files parent key value).result = .error f) ∧
      (s.update files parent key value).store = s) ∨
    ∃ found outcome, (s.update files parent key value).result = .ok (found, outcome) ∧
      s.reload (s.update files parent key value).files =
        .ok (outcome, (s.update files parent key value).store) := by
  unfold update
  split
  · exact .inl ⟨⟨_, rfl⟩, rfl⟩
  · split
    · exact .inl ⟨⟨_, rfl⟩, rfl⟩
    · next hreload => exact .inr ⟨_, _, rfl, hreload⟩

/-- An update changes a store in one of the ways. -/
theorem change_update (s : Store) (files : Tree) (parent key value : Text) :
    Change (s.update files parent key value).files s (s.update files parent key value).store := by
  obtain ⟨-, hstore⟩ | ⟨_, _, -, hreload⟩ := update_cases s files parent key value
  · rw [hstore]
    exact .stay
  · exact .reload hreload

/-- The update with which expiry begins. -/
def writeOff (s : Store) (files : Tree) : Outcome (Bool × Reload) :=
  s.update files "MessageBanner".toList "display-mode".toList "off".toList

/-- Expiry does nothing for another generation, it fails with its update, or it sees to it after the
update that the banner is off. -/
theorem expire_cases (s : Store) (files : Tree) (generation : Nat) :
    (s.generation ≠ generation ∧ s.expire files generation = ⟨.ok none, files, s⟩) ∨
    (s.generation = generation ∧ ∃ f, (s.writeOff files).result = .error f ∧
      s.expire files generation = ⟨.error f, (s.writeOff files).files, s⟩) ∨
    (s.generation = generation ∧ ∃ found outcome,
      (s.writeOff files).result = .ok (found, outcome) ∧
        s.expire files generation = ⟨.ok (some outcome), (s.writeOff files).files,
          if (s.writeOff files).store.snapshot.banner.on then (s.writeOff files).store.switchOff
          else (s.writeOff files).store⟩) := by
  by_cases hgeneration : s.generation = generation
  · unfold expire
    rw [if_pos hgeneration]
    cases hresult : (s.writeOff files).result with
    | error f =>
      refine .inr (.inl ⟨hgeneration, f, rfl, ?_⟩)
      unfold writeOff at hresult
      simp only [hresult]
      rfl
    | ok r =>
      refine .inr (.inr ⟨hgeneration, r.1, r.2, rfl, ?_⟩)
      unfold writeOff at hresult
      simp only [hresult]
      rfl
  · refine .inl ⟨hgeneration, ?_⟩
    unfold expire
    rw [if_neg hgeneration]

/-- Expiry changes a store in one of the ways. -/
theorem change_expire (s : Store) (files : Tree) (generation : Nat) :
    Change (s.expire files generation).files s (s.expire files generation).store := by
  obtain ⟨-, hexpire⟩ | ⟨-, f, -, hexpire⟩ | ⟨-, found, outcome, hresult, hexpire⟩ :=
    s.expire_cases files generation
  · rw [hexpire]
    exact .stay
  · rw [hexpire]
    exact .stay
  · rw [hexpire]
    obtain ⟨⟨f, hfailed⟩, -⟩ | ⟨_, _, -, hreload⟩ := update_cases s files _ _ _
    · rw [writeOff, hfailed] at hresult
      cases hresult
    · split
      · exact .switchOff hreload
      · exact .reload hreload

/-- Every act changes the store in one of the ways. -/
theorem Scene.change_act (w : Scene) (a : Act) :
    Change (w.act a).files w.store (w.act a).store := by
  cases a with
  | edit files => exact .stay
  | refresh =>
    unfold act
    cases hreload : w.store.reload w.files with
    | error f => exact .stay
    | ok r => exact .reload hreload
  | update parent key value => exact change_update w.store w.files parent key value
  | tick generation remaining => exact .ticks generation remaining
  | expire generation => exact change_expire w.store w.files generation

/-- An act that is said to reload reads the files that it leaves behind. -/
theorem Scene.Reloads.reload_act {w : Scene} {a : Act} (h : w.Reloads a) :
    ∃ outcome, w.store.reload (w.act a).files = .ok (outcome, (w.act a).store) := by
  cases a with
  | refresh =>
    obtain ⟨⟨outcome, t⟩, hreload⟩ := h
    refine ⟨outcome, ?_⟩
    simp only [act, hreload]
  | update parent key value =>
    obtain ⟨r, hr⟩ := h
    obtain ⟨⟨f, hf⟩, -⟩ | ⟨_, outcome, -, hreload⟩ :=
      update_cases w.store w.files parent key value
    · rw [hf] at hr
      cases hr
    · exact ⟨outcome, hreload⟩
  | edit files => exact h.elim
  | tick generation remaining => exact h.elim
  | expire generation => exact h.elim

/-! ## The site of a store -/

/-- Reading other contents leaves the layout and the settings. -/
theorem site_reloadFrom (s : Store) (content : Bytes) (blocked : Option Bytes) :
    (s.reloadFrom content blocked).2.layout = s.layout ∧
      (s.reloadFrom content blocked).2.settings = s.settings := by
  obtain ⟨-, -, hnew⟩ | ⟨-, hnew⟩ | ⟨-, hnew⟩ := reloadFrom_cases s content blocked
  · rw [hnew]
    exact ⟨rfl, rfl⟩
  · rw [hnew]
    exact ⟨rfl, rfl⟩
  · rw [hnew]
    exact ⟨rfl, rfl⟩

/-- Counting down leaves the layout and the settings. -/
theorem site_setTicks (s : Store) (generation remaining : Nat) :
    (s.setTicks generation remaining).layout = s.layout ∧
      (s.setTicks generation remaining).settings = s.settings := by
  unfold setTicks
  split <;> exact ⟨rfl, rfl⟩

/-- A reload leaves the layout and the settings. -/
theorem site_reload (h : s.reload files = .ok (outcome, t)) :
    t.layout = s.layout ∧ t.settings = s.settings := by
  obtain ⟨content, blocked, -, -, rfl⟩ := reload_ok h
  exact site_reloadFrom s content blocked

/-- The contents that a reload reads are those that the files have for the store that comes of
it. -/
theorem contents_of_reload (h : s.reload files = .ok (outcome, t)) :
    ∃ content blocked, (Scene.mk t files).config = .ok content ∧
      (Scene.mk t files).blocked = .ok blocked ∧ (s.reloadFrom content blocked).2 = t := by
  have hlayout : t.layout = s.layout := (site_reload h).1
  obtain ⟨content, blocked, hcontent, hblocked, hnext⟩ := reload_ok h
  refine ⟨content, blocked, ?_, ?_, hnext⟩
  · unfold Scene.config
    rw [hlayout]
    exact hcontent
  · unfold Scene.blocked
    rw [hlayout]
    exact hblocked

/-- After a reload the store has the digests of what the files hold. -/
theorem digests_of_reload (h : s.reload files = .ok (outcome, t)) :
    ∃ content blocked, (Scene.mk t files).config = .ok content ∧
      (Scene.mk t files).blocked = .ok blocked ∧ t.snapshot.digest = contentDigest content ∧
      t.blockedDigest = Config.blockedDigest blocked := by
  obtain ⟨content, blocked, hcontent, hblocked, rfl⟩ := contents_of_reload h
  refine ⟨content, blocked, hcontent, hblocked, ?_⟩
  obtain ⟨hsame, hlist, hnew⟩ | ⟨hsame, hnew⟩ | ⟨-, hnew⟩ := s.reloadFrom_cases content blocked
  · rw [hnew]
    exact ⟨hsame.symm, hlist.symm⟩
  · rw [hnew]
    exact ⟨hsame.symm, rfl⟩
  · rw [hnew]
    exact ⟨rfl, rfl⟩

/-- A store that has the digests of what the files hold is left as it is by a reload. -/
theorem reload_of_digests {content : Bytes} {blocked : Option Bytes}
    (hcontent : (Scene.mk t files).config = .ok content)
    (hblocked : (Scene.mk t files).blocked = .ok blocked)
    (hdigest : t.snapshot.digest = contentDigest content)
    (hlist : t.blockedDigest = Config.blockedDigest blocked) :
    t.reload files = .ok (.unchanged, t) := by
  unfold Scene.config at hcontent
  unfold Scene.blocked at hblocked
  unfold reload reloadFrom
  simp only [hcontent, hblocked, hdigest, hlist, if_true]

/-- No change reaches the layout and the settings. -/
theorem Change.site (h : Change files s t) : t.layout = s.layout ∧ t.settings = s.settings := by
  cases h with
  | stay => exact ⟨rfl, rfl⟩
  | reload hreload => exact site_reload hreload
  | switchOff hreload =>
    obtain ⟨hlayout, hsettings⟩ := site_reload hreload
    exact ⟨hlayout, hsettings⟩
  | ticks generation remaining => exact site_setTicks s generation remaining

/-- A run leaves the layout and the settings. -/
theorem Scene.site_run (w : Scene) (acts : List Act) :
    (w.run acts).store.layout = w.store.layout ∧
      (w.run acts).store.settings = w.store.settings := by
  induction acts generalizing w with
  | nil => exact ⟨rfl, rfl⟩
  | cons a rest ih =>
    obtain ⟨hlayout, hsettings⟩ := (w.change_act a).site
    obtain ⟨hlayoutRest, hsettingsRest⟩ := ih (w.act a)
    exact ⟨hlayoutRest.trans hlayout, hsettingsRest.trans hsettings⟩

/-- Opening a store ends with its first reload. -/
theorem reload_of_openAt {root : Path} {settings : Settings}
    (h : (openAt files root settings).result = .ok (outcome, t)) :
    (initial (Layout.ofRoot root) settings).reload (openAt files root settings).files =
      .ok (outcome, t) := by
  unfold openAt at h ⊢
  cases hsetup : ((Layout.ofRoot root).setUp files).result with
  | error f => simp [hsetup] at h
  | ok u => simpa [hsetup] using h

end SiteGate.Store
