import SiteGate.Config.Setup
import SiteGate.Proofs.Files.Extends
import SiteGate.Proofs.Store.Provenance

/-!
# Setting up what is there

Setting up makes what is missing and leaves alone what is there. So a site that has been set up is
left as it is by whoever sets it up again (`Layout.setUp_again`), and a store that is opened where
both files are there reads what they hold, whatever directories had to be made for it
(`Store.openAt_of_contents`).
-/

set_option autoImplicit false

namespace SiteGate

namespace Config

variable {t t' : Tree} {path : Path}

/-- Making directories extends a tree. -/
theorem extends_makeAll (t : Tree) (directories : List Path) :
    t.Extends (makeAll t directories).2 := by
  induction directories generalizing t with
  | nil => exact .refl t
  | cons d rest ih =>
    unfold makeAll
    have hextends := t.extends_makeDirectories d
    rcases hmade : t.makeDirectories d with ⟨⟨e⟩ | ⟨⟨⟩⟩, made⟩
    · rwa [hmade] at hextends
    · rw [hmade] at hextends
      exact hextends.trans (ih made)

/-- The directories that have been made are there, and nothing is made a second time. -/
theorem makeAll_again {directories : List Path} (hdone : (makeAll t directories).1 = .ok ())
    (h : (makeAll t directories).2.Extends t') : makeAll t' directories = (.ok (), t') := by
  induction directories generalizing t with
  | nil => rfl
  | cons d rest ih =>
    unfold makeAll at hdone h ⊢
    rcases hmade : t.makeDirectories d with ⟨⟨e⟩ | ⟨⟨⟩⟩, made⟩
    · simp [hmade] at hdone
    · simp only [hmade] at hdone h
      have hlater : (t.makeDirectories d).2.Extends t' := by
        rw [hmade]
        exact (extends_makeAll made rest).trans h
      rw [Tree.makeDirectories_again (by rw [hmade]) hlater]
      exact ih hdone h

/-- A file that is there is not written. -/
theorem writeMissing_of_held (h : t.holds path = true) (content : Text) :
    writeMissing t path content = .ok (false, t) := if_pos h

/-- A file that is there has been left alone, and one that is missing has been written. -/
theorem writeMissing_cases {content : Text} {wrote : Bool}
    (h : writeMissing t path content = .ok (wrote, t')) :
    t.holds path = true ∧ t' = t ∨
      t.holds path = false ∧ t.write path (Text.encode content) = .ok t' := by
  cases hheld : t.holds path with
  | true =>
    rw [writeMissing_of_held hheld] at h
    cases h
    exact .inl ⟨rfl, rfl⟩
  | false =>
    unfold writeMissing Tree.storeAt at h
    cases hwrite : t.write path (Text.encode content) with
    | error e => simp [hheld, hwrite, Except.map] at h
    | ok written =>
      simp only [hheld, hwrite, Except.map] at h
      cases h
      exact .inr ⟨rfl, rfl⟩

/-- The file is there afterwards, and what was there before still is. -/
theorem extends_writeMissing {content : Text} {wrote : Bool}
    (h : writeMissing t path content = .ok (wrote, t')) :
    t.Extends t' ∧ t'.holds path = true := by
  obtain ⟨hheld, rfl⟩ | ⟨hmissing, hwrite⟩ := writeMissing_cases h
  · exact ⟨.refl t', hheld⟩
  · exact Tree.extends_write hmissing hwrite

/-- Where both files are there, nothing but directories is made. -/
theorem Layout.setUp_of_held {l : Layout} (hdone : (makeAll t l.directories).1 = .ok ())
    (hconfig : (makeAll t l.directories).2.holds l.configFile = true)
    (hlist : (makeAll t l.directories).2.holds l.blockedFile = true) :
    l.setUp t = ⟨.ok (), (makeAll t l.directories).2, false⟩ := by
  unfold setUp
  rcases hmade : makeAll t l.directories with ⟨⟨f⟩ | ⟨⟨⟩⟩, made⟩
  · simp [hmade] at hdone
  · rw [hmade] at hconfig hlist
    simp only [writeMissing_of_held hconfig, writeMissing_of_held hlist]

/-- What setting up has made is there afterwards. -/
theorem Layout.held_of_setUp {l : Layout} (h : (l.setUp t).result = .ok ()) :
    makeAll (l.setUp t).files l.directories = (.ok (), (l.setUp t).files) ∧
      (l.setUp t).files.holds l.configFile = true ∧
      (l.setUp t).files.holds l.blockedFile = true := by
  rcases hmade : makeAll t l.directories with ⟨⟨f⟩ | ⟨⟨⟩⟩, made⟩
  · simp [setUp, hmade] at h
  rcases hconfig : writeMissing made l.configFile defaultConfig with f | ⟨wrote, withConfig⟩
  · simp [setUp, hmade, hconfig] at h
  rcases hlist : writeMissing withConfig l.blockedFile defaultBlocked with f | ⟨wroteList, withList⟩
  · simp [setUp, hmade, hconfig, hlist] at h
  have hfiles : (l.setUp t).files = withList := by simp [setUp, hmade, hconfig, hlist]
  obtain ⟨hextends, hconfigHeld⟩ := extends_writeMissing hconfig
  obtain ⟨hextends', hlistHeld⟩ := extends_writeMissing hlist
  have hlater : (makeAll t l.directories).2.Extends withList := by
    rw [hmade]
    exact hextends.trans hextends'
  rw [hfiles]
  exact ⟨makeAll_again (by rw [hmade]) hlater, hextends'.holds hconfigHeld, hlistHeld⟩

/-- Setting up a second time makes nothing. -/
theorem Layout.setUp_again {l : Layout} (h : (l.setUp t).result = .ok ()) :
    l.setUp (l.setUp t).files = ⟨.ok (), (l.setUp t).files, false⟩ := by
  obtain ⟨hmade, hconfig, hlist⟩ := held_of_setUp h
  have hagain := setUp_of_held (l := l) (t := (l.setUp t).files) (by rw [hmade])
    (by rw [hmade]; exact hconfig) (by rw [hmade]; exact hlist)
  rw [hagain, hmade]

end Config

namespace Store

open Config (Layout Settings)

variable {files : Tree} {root : Path} {content list : Bytes}

/-- A store that is opened where both files are there records what they hold. -/
theorem openAt_of_contents (settings : Settings)
    (hdone : (Config.makeAll files (Layout.ofRoot root).directories).1 = .ok ())
    (hconfig : files.contentAt (Layout.ofRoot root).configFile = .ok content)
    (hlist : files.contentAt (Layout.ofRoot root).blockedFile = .ok list) :
    ∃ outcome s, (openAt files root settings).result = .ok (outcome, s) ∧
      s.layout = Layout.ofRoot root ∧ s.settings = settings ∧
      s.Records content (some list) := by
  have hextends := Config.extends_makeAll files (Layout.ofRoot root).directories
  have hconfig' := hextends.contentAt hconfig
  have hlist' := hextends.contentAt hlist
  have hsetUp := Layout.setUp_of_held hdone (Tree.holds_of_contentAt hconfig')
    (Tree.holds_of_contentAt hlist')
  have hread : Config.blockedContent
      (Config.makeAll files (Layout.ofRoot root).directories).2 (Layout.ofRoot root).blockedFile =
        .ok (some list) := by
    rw [Config.blockedContent, if_pos (Tree.holds_of_contentAt hlist'), hlist']
    rfl
  let s := (initial (Layout.ofRoot root) settings).reloadFrom content (some list)
  have hreload : (initial (Layout.ofRoot root) settings).reload
      (Config.makeAll files (Layout.ofRoot root).directories).2 = .ok s := by
    unfold reload
    simp only [initial, hconfig', hread]
    rfl
  have hresult : (openAt files root settings).result = .ok s := by
    unfold openAt
    simp only [hsetUp, hreload]
  refine ⟨s.1, s.2, hresult, (site_reload hreload).1, (site_reload hreload).2, ?_⟩
  exact .of_initial _ _ content (some list)

/-- Where a store has been opened, all its directories are there. -/
theorem makeAll_of_opened {settings : Settings} {w : Scene}
    (h : Scene.opened? files root settings = some w) :
    (Config.makeAll w.files (Layout.ofRoot root).directories).1 = .ok () := by
  unfold Scene.opened? openAt at h
  cases hsetUp : ((Layout.ofRoot root).setUp files).result with
  | error f => simp [hsetUp] at h
  | ok u =>
    simp only [hsetUp] at h
    split at h
    · obtain rfl := Option.some.inj h
      rw [(Layout.held_of_setUp hsetUp).1]
    · cases h

end Store

end SiteGate
