import SiteGate.Proofs.Config.AnyOrder
import SiteGate.Proofs.Site.Gating

/-!
# Updates that find no line

An update that finds no line for its value writes the configuration all the same. It writes the text
that it has read, but bytes that are no UTF-8 have been read as replacement characters, and as such
they are written. So the configuration stays what it is, byte for byte, just if it is UTF-8. In that
case an update is no more than a refresh of the published snapshot, and leaves it if the file is the
one that has been read; otherwise the store meets another digest, and reloads
(`unmatched_update_iff`).
-/

set_option autoImplicit false

namespace SiteGate

namespace Config

variable {t t' : Tree} {path swap : Path} {parent key value : Text} {content : Bytes}

/-- What an update that finds no line has written is the text that it has read. -/
theorem contentAt_of_unmatched (hcontent : t.contentAt path = .ok content)
    (h : updateFile t path swap parent key value = (.ok false, t')) :
    t'.contentAt path = .ok (Text.encode (Text.decode content)) := by
  rcases updateFile_cases t path swap with ⟨f, hfails⟩ | ⟨old, written, hold, hwrite⟩
  · rw [hfails ⟨parent, key, value⟩] at h
    cases h
  · obtain rfl : old = content := Except.ok.inj (hold.symm.trans hcontent)
    obtain ⟨replaced, hupdate, hnew, -⟩ := updateFile_of_write hold hwrite ⟨parent, key, value⟩
    obtain ⟨hfound, rfl⟩ := Prod.mk.inj (hupdate.symm.trans h)
    rw [hnew, changeText, Document.updateText_of_not_found (Except.ok.inj hfound)]

end Config

namespace Engine

variable {e e' : Engine} {parent key value : Text} {content : Bytes}

/-- An update changes the file and rereads both. -/
theorem reread_of_update {found : Bool} (h : e.update parent key value = (.ok found, e')) :
    ∃ outcome, Config.updateFile e.files e.store.layout.configFile e.store.layout.swapFile parent
        key value = (.ok found, e'.files) ∧ e.Reread outcome e' := by
  unfold update updateFrom Store.update at h
  cases hwrite : Config.updateFile e.files e.store.layout.configFile e.store.layout.swapFile parent
      key value with
  | mk answer files =>
    cases answer with
    | error f => simp [hwrite] at h
    | ok found' =>
      cases hreload : e.store.reload files with
      | error f => simp [hwrite, hreload] at h
      | ok r =>
        obtain ⟨outcome, s⟩ := r
        simp only [hwrite, hreload, Prod.mk.injEq, Except.ok.injEq] at h
        obtain ⟨rfl, rfl⟩ := h
        exact ⟨outcome, by simp, by simpa using hreload, by simp [tasks_noteReload]⟩

/-- The snapshot stays as it has been published, but for the blocked addresses. No generation
begins, and no task is touched. -/
structure KeepsPublished (e e' : Engine) : Prop where
  snapshot : e'.store.snapshot =
    { e.store.snapshot with blockedAddresses := e'.store.snapshot.blockedAddresses }
  generation : e'.store.generation = e.store.generation
  tasks : e'.tasks = e.tasks

/-- A reload goes by the digest of the configuration that it reads. -/
theorem Reread.by_digest {outcome : Reload} (h : e.Reread outcome e')
    (hcontent : e'.files.contentAt e.store.layout.configFile = .ok content) :
    e'.store.snapshot.digest = contentDigest content ∧
      (e.store.snapshot.digest = contentDigest content → e.KeepsPublished e') ∧
      (e.store.snapshot.digest ≠ contentDigest content →
        e'.store.generation = e.store.generation + 1) := by
  obtain ⟨hreload, htasks⟩ := h
  obtain ⟨content', blocked, hcontent', -, hnext⟩ := Store.reload_eq_ok_iff.mp hreload
  obtain rfl : content' = content := Except.ok.inj (hcontent'.symm.trans hcontent)
  rw [Store.reloadFrom_eq] at hnext
  by_cases hsame : contentDigest content' = e.store.snapshot.digest
  · have hkeeps : e.KeepsPublished e' := by
      rw [if_pos hsame] at hnext
      split at hnext
      · obtain ⟨rfl, hstore⟩ := Prod.mk.inj hnext
        exact ⟨by rw [← hstore], by rw [← hstore], by simpa using htasks⟩
      · obtain ⟨rfl, hstore⟩ := Prod.mk.inj hnext
        exact ⟨by rw [← hstore]; rfl, by rw [← hstore]; rfl, by simpa using htasks⟩
    have hdigest : e'.store.snapshot.digest = e.store.snapshot.digest := by
      rw [hkeeps.snapshot]
    exact ⟨hdigest.trans hsame.symm, fun _ => hkeeps, fun h => absurd hsame.symm h⟩
  · rw [if_neg hsame] at hnext
    have hstore : e.store.withContents content' blocked = e'.store := (Prod.mk.inj hnext).2
    refine ⟨?_, fun h => absurd h.symm hsame, fun _ => ?_⟩
    · rw [← hstore]
      rfl
    · rw [← hstore]
      rfl

/-- An update that finds no line leaves the configuration byte for byte just if it is UTF-8. The
store then knows the digest of what the file has held all along, and a site that has published it
stays as it is but for the list of blocked addresses. If the configuration is no UTF-8, such a site
reloads, as long as the new content has another digest. -/
theorem unmatched_update_iff {t t' : Tree} {path swap : Path}
    (hcontent : t.contentAt path = .ok content)
    (hupdate : Config.updateFile t path swap parent key value = (.ok false, t')) :
    (t'.contentAt path = .ok content ↔ Text.IsUtf8 content) ∧
    ∀ e e' : Engine, e.files = t → e.store.layout.configFile = path →
      e.store.layout.swapFile = swap → e.update parent key value = (.ok false, e') →
      (Text.IsUtf8 content →
        e'.store.snapshot.digest = contentDigest content ∧
        (e.store.snapshot.digest = contentDigest content → e.KeepsPublished e')) ∧
      (¬ Text.IsUtf8 content → e.store.snapshot.digest = contentDigest content →
        CollisionFree (fun c => c = content ∨ c = Text.encode (Text.decode content)) →
        e'.store.snapshot.digest ≠ e.store.snapshot.digest ∧
        e'.store.generation = e.store.generation + 1) := by
  have hnew := Config.contentAt_of_unmatched hcontent hupdate
  refine ⟨by rw [hnew, Except.ok.injEq, Text.encode_decode_iff], ?_⟩
  rintro e e' rfl rfl rfl hsite
  obtain ⟨outcome, hwrite, hreread⟩ := reread_of_update hsite
  obtain rfl : t' = e'.files := (Prod.mk.inj (hupdate.symm.trans hwrite)).2
  obtain ⟨hdigest, hkeeps, hnext⟩ := hreread.by_digest hnew
  constructor
  · intro hutf8
    rw [Text.encode_decode_iff.mpr hutf8] at hdigest hkeeps
    exact ⟨hdigest, hkeeps⟩
  · intro hnot hpublished hfree
    have hother : contentDigest content ≠ contentDigest (Text.encode (Text.decode content)) := by
      intro hsame
      have heq := hfree content _ (.inl rfl) (.inr rfl) hsame
      exact hnot (Text.encode_decode_iff.mp heq.symm)
    rw [hpublished] at hnext ⊢
    rw [hdigest]
    exact ⟨hother.symm, hnext hother⟩

/-- An update of a key that the configuration does not have leaves it, and the site. -/
theorem unmatched_update_siteFiles :
    let content := Text.encode "Site\nhostname a".toList
    ∃ start e', ofFiles (Store.siteFiles "Site\nhostname a".toList) = .ok start ∧
      start.update "Site".toList "proto".toList "https".toList = (.ok false, e') ∧
      e'.files.contentAt start.store.layout.configFile = .ok content ∧
      e'.store.snapshot.digest = contentDigest content ∧ start.KeepsPublished e' := by
  have hrun : (ofFiles (Store.siteFiles "Site\nhostname a".toList)).toOption.map (fun start =>
      ((start.update "Site".toList "proto".toList "https".toList).1.toOption,
        start.files.contentAt start.store.layout.configFile, start.store.snapshot.digest)) =
      some (some false, .ok (Text.encode "Site\nhostname a".toList),
        contentDigest (Text.encode "Site\nhostname a".toList)) := by
    decide +kernel
  obtain ⟨start, hstart, hrun⟩ := Option.map_eq_some_iff.mp hrun
  simp only [Prod.mk.injEq] at hrun
  obtain ⟨hanswer, hcontent, hdigest⟩ := hrun
  have hupdate : start.update "Site".toList "proto".toList "https".toList = (.ok false, _) :=
    Prod.ext (toOption_eq_some_iff.mp hanswer) rfl
  obtain ⟨-, hwrite, -⟩ := reread_of_update hupdate
  have hutf8 : Text.IsUtf8 (Text.encode "Site\nhostname a".toList) := ⟨_, rfl⟩
  obtain ⟨hfile, hsite⟩ := unmatched_update_iff hcontent hwrite
  obtain ⟨hknown, hkeeps⟩ := (hsite start _ rfl rfl rfl hupdate).1 hutf8
  exact ⟨start, _, toOption_eq_some_iff.mp hstart, hupdate, hfile.mpr hutf8, hknown,
    hkeeps hdigest⟩

/-- The files of a site with a host name in Latin-1. -/
def latinFiles : Tree :=
  (Store.siteFiles []).put ["w".toList, "appdata".toList, ".cfg".toList, ".all".toList]
    (.file (Text.encode "Site\nhostname caf".toList ++ [0xE9]))

/-- The last byte is no UTF-8. An update of a key that the configuration does not have writes a
replacement character in its place, and the store reloads. -/
theorem not_unmatched_update :
    ¬ ∀ (files : Tree) (start e' : Engine) (parent key value : Text), ofFiles files = .ok start →
      start.update parent key value = (.ok false, e') →
      e'.scene.config = start.scene.config ∨
        e'.store.snapshot.digest = start.store.snapshot.digest ∨
        e'.store.generation = start.store.generation := by
  intro h
  have hrun : (ofFiles latinFiles).toOption.map (fun start =>
      let r := start.update "Site".toList "proto".toList "https".toList
      (r.1.toOption, decide (r.2.scene.config = start.scene.config ∨
        r.2.store.snapshot.digest = start.store.snapshot.digest ∨
        r.2.store.generation = start.store.generation))) = some (some false, false) := by
    decide +kernel
  obtain ⟨start, hstart, hrun⟩ := Option.map_eq_some_iff.mp hrun
  simp only [Prod.mk.injEq] at hrun
  obtain ⟨hanswer, hchanged⟩ := hrun
  have hupdate : start.update "Site".toList "proto".toList "https".toList = (.ok false, _) :=
    Prod.ext (toOption_eq_some_iff.mp hanswer) rfl
  have hopen := toOption_eq_some_iff.mp hstart
  exact of_decide_eq_false hchanged (h latinFiles start _ _ _ _ hopen hupdate)

end Engine

end SiteGate
