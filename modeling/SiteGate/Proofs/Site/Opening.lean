import SiteGate.Proofs.Config.Additions
import SiteGate.Proofs.Store.Site

/-!
# What opening a site leaves behind

Opening a site sets up its files and reads them. Whether it succeeds or not, what was there before
stays, and what is new is the layout's own. After it has succeeded everything the layout has to have
is there, so a refresh finds nothing new, and opening the site once more makes nothing and gives the
same store (`opening_adds`).
-/

set_option autoImplicit false

namespace SiteGate

namespace Store

open Config (Layout Settings)

variable {files : Tree} {root : Path} {settings : Settings} {outcome : Reload} {s : Store}

/-- Opening a store changes no files but in setting them up. -/
theorem files_openAt (files : Tree) (root : Path) (settings : Settings) :
    (openAt files root settings).files = ((Layout.ofRoot root).setUp files).files := by
  unfold openAt
  cases hsetUp : ((Layout.ofRoot root).setUp files).result with
  | error f => simp only [hsetUp]
  | ok u => simp only [hsetUp]

/-- The files of a site that is opened have been set up. -/
theorem setUp_of_openAt (h : (openAt files root settings).result = .ok (outcome, s)) :
    ((Layout.ofRoot root).setUp files).result = .ok () := by
  unfold openAt at h
  cases hsetUp : ((Layout.ofRoot root).setUp files).result with
  | error f => simp [hsetUp] at h
  | ok u => rfl

/-- A store that is opened a second time is the same, and nothing is made for it. -/
theorem openAt_again (h : (openAt files root settings).result = .ok (outcome, s)) :
    openAt (openAt files root settings).files root settings =
      ⟨.ok (outcome, s), (openAt files root settings).files, false, true⟩ := by
  have hreload := reload_of_openAt h
  rw [files_openAt] at hreload ⊢
  rw [openAt, Layout.setUp_again (setUp_of_openAt h)]
  simp only [hreload]

/-- A store that has been opened has everything that its layout has to have. -/
theorem furnished_openAt (h : (openAt files root settings).result = .ok (outcome, s)) :
    (Layout.ofRoot root).Furnished files (openAt files root settings).files := by
  have hreload := reload_of_openAt h
  have hdone := setUp_of_openAt h
  rw [files_openAt] at hreload ⊢
  obtain ⟨content, blocked, hconfig, hblocked, -⟩ := reload_ok hreload
  obtain ⟨-, -, hheld⟩ := Layout.held_of_setUp hdone
  simp only [initial, Config.blockedContent, hheld, if_true] at hblocked
  cases hlist : ((Layout.ofRoot root).setUp files).files.contentAt
      (Layout.ofRoot root).blockedFile with
  | error f => simp [hlist, Except.map] at hblocked
  | ok list => exact Layout.furnished_setUp hdone hconfig hlist

/-- The files hold what a store that has been opened has read. -/
theorem reload_unchanged_of_openAt (h : (openAt files root settings).result = .ok (outcome, s)) :
    s.reload (openAt files root settings).files = .ok (.unchanged, s) := by
  obtain ⟨content, blocked, hconfig, hblocked, hdigest, hlist⟩ :=
    digests_of_reload (reload_of_openAt h)
  exact reload_of_digests hconfig hblocked hdigest hlist

end Store

namespace Engine

open Config (Layout Settings)

variable {files : Tree} {metrics : Metrics} {root : Path} {settings : Settings} {concurrent : Bool}
  {e : Engine}

/-- The files after a site has been opened are those after its store has been opened. -/
theorem files_openAt (files : Tree) (metrics : Metrics) (root : Path) (settings : Settings)
    (concurrent : Bool) : (openAt files metrics root settings concurrent).2.1 =
      (Store.openAt files root settings).files := by
  unfold openAt
  cases hresult : (Store.openAt files root settings).result with
  | error f => simp only [hresult]
  | ok r => simp only [hresult, files_noteReload]

/-- A site that has been opened has a store that has been opened. -/
theorem store_of_openAt (h : (openAt files metrics root settings concurrent).1 = .ok e) :
    ∃ outcome, (Store.openAt files root settings).result = .ok (outcome, e.store) ∧
      (Store.openAt files root settings).files = e.files := by
  unfold openAt at h
  cases hresult : (Store.openAt files root settings).result with
  | error f => simp [hresult] at h
  | ok r =>
    simp only [hresult] at h
    obtain rfl := Except.ok.inj h
    exact ⟨r.1, by rw [store_noteReload], by rw [files_noteReload]⟩

/-- Where a store is opened, so is the site. -/
theorem exists_of_openAt {outcome : Reload} {s : Store} (metrics : Metrics) (concurrent : Bool)
    (h : (Store.openAt files root settings).result = .ok (outcome, s)) :
    ∃ e, (openAt files metrics root settings concurrent).1 = .ok e := by
  unfold openAt
  simp only [h]
  exact ⟨_, rfl⟩

/-- Opening a site adds to the files what is missing of its layout, as far as it comes: everything
that was there before is where it was, also if opening fails. If it succeeds, the layout has all
that it has to have, a refresh finds nothing new and changes the counters only, and opening the site
again succeeds, leaves the files as they are and gives the same store. -/
theorem opening_adds (files : Tree) (metrics : Metrics) (root : Path) (settings : Settings)
    (concurrent : Bool) :
    (Layout.ofRoot root).Adds files (openAt files metrics root settings concurrent).2.1 ∧
    ∀ e, (openAt files metrics root settings concurrent).1 = .ok e →
      e.files = (openAt files metrics root settings concurrent).2.1 ∧
      (Layout.ofRoot root).Furnished files e.files ∧
      e.refresh =
        (.ok .unchanged, { e with metrics := e.metrics.recordReload (.ok .unchanged) }) ∧
      ∀ (metrics' : Metrics) (concurrent' : Bool), ∃ e',
        (openAt e.files metrics' root settings concurrent').1 = .ok e' ∧
          e'.files = e.files ∧ e'.store = e.store := by
  rw [files_openAt]
  refine ⟨?_, fun e hopen => ?_⟩
  · rw [Store.files_openAt]
    exact Layout.adds_setUp _ files
  obtain ⟨outcome, hresult, hfiles⟩ := store_of_openAt hopen
  have hunchanged := Store.reload_unchanged_of_openAt hresult
  have hagain := Store.openAt_again hresult
  have hfurnished := Store.furnished_openAt hresult
  rw [hfiles] at hunchanged hagain hfurnished ⊢
  refine ⟨rfl, hfurnished, ?_, fun metrics' concurrent' => ?_⟩
  · unfold refresh refreshFrom
    simp only [hunchanged]
    rfl
  · have hresult' : (Store.openAt e.files root settings).result = .ok (outcome, e.store) := by
      rw [hagain]
    obtain ⟨e', hopen'⟩ := exists_of_openAt metrics' concurrent' hresult'
    obtain ⟨outcome', hsecond, hfiles'⟩ := store_of_openAt hopen'
    rw [hagain] at hsecond hfiles'
    refine ⟨e', hopen', hfiles'.symm, ?_⟩
    exact (Prod.mk.inj (Except.ok.inj hsecond)).2.symm

/-- A site that has a configuration and a file of its own, but no list of blocked addresses and not
all directories. -/
def halfSite : Tree :=
  ⟨[(["site".toList], .directory), (["site".toList, "appdata".toList], .directory),
    (["site".toList, "appdata".toList, ".cfg".toList], .directory),
    (["site".toList, "appdata".toList, ".cfg".toList, ".all".toList],
      .file (Text.encode "Site\nhostname a".toList)),
    (["site".toList, "notes".toList], .file (Text.encode "mine".toList))]⟩

/-- It is opened by a path through a directory that is missing, which is made. -/
theorem opening_adds_halfSite :
    ∃ e, (openAt halfSite .none "new/../site".toList .standard true).1 = .ok e ∧
      e.files.at? ["new".toList] = some .directory ∧
      e.files.at? ["site".toList, "notes".toList] = some (.file (Text.encode "mine".toList)) ∧
      e.files.contentAt "site/appdata/.cfg/blocked-ip".toList =
        .ok (Text.encode Config.defaultBlocked) ∧
      e.refresh.1 = .ok .unchanged ∧
      (openAt e.files .none "new/../site".toList .standard true).1.toOption.map (·.store) =
        some e.store := by
  have hrun : (openAt halfSite .none "new/../site".toList .standard true).1.toOption.map
      (fun e => (e.files.at? ["new".toList],
        e.files.contentAt "site/appdata/.cfg/blocked-ip".toList)) =
      some (some .directory, .ok (Text.encode Config.defaultBlocked)) := by
    decide +kernel
  obtain ⟨e, hopen, hrun⟩ := Option.map_eq_some_iff.mp hrun
  simp only [Prod.mk.injEq] at hrun
  obtain ⟨hnew, hlist⟩ := hrun
  have hopen := toOption_eq_some_iff.mp hopen
  obtain ⟨hadds, hopened⟩ := opening_adds halfSite .none "new/../site".toList .standard true
  obtain ⟨hfiles, -, hrefresh, hagain⟩ := hopened e hopen
  obtain ⟨e', hopen', -, hstore⟩ := hagain .none true
  have hnotes : halfSite.at? ["site".toList, "notes".toList] =
      some (.file (Text.encode "mine".toList)) := by
    decide
  refine ⟨e, hopen, hnew, ?_, hlist, by rw [hrefresh], ?_⟩
  · rw [hfiles]
    exact hadds.keeps hnotes
  · rw [hopen', ← hstore]
    rfl

end Engine

end SiteGate
