import SiteGate.Proofs.Site.Failures
import SiteGate.Proofs.Store.Update

/-!
# An update that is made twice

When an update has been reported as done, the configuration holds the line that it writes, and the
store has the digests of what the files hold. The same update finds that line again and writes it
as it is (`Assignment.updateText_again`). So the configuration stays the same, byte for byte, and
the reload finds nothing new (`update_again`).
-/

set_option autoImplicit false

namespace SiteGate

open Config (Assignment)
open Store (Scene)

variable {root : Path}

/-- An update that is made again answers the same and changes nothing, and neither does a reload
after it. -/
theorem Store.update_of_updated {s t : Store} {files replaced : Tree}
    (hlayout : s.layout = .ofRoot root) (a : Assignment) {found : Bool} {outcome : Reload}
    (h : s.update files a.parent a.key a.value = ⟨.ok (found, outcome), replaced, t⟩) :
    ∃ content again, Scene.config ⟨t, replaced⟩ = .ok content ∧
      Scene.config ⟨t, again⟩ = .ok content ∧
      t.update replaced a.parent a.key a.value = ⟨.ok (found, .unchanged), again, t⟩ ∧
      t.reload again = .ok (.unchanged, t) := by
  rcases update_outcome hlayout files a.toChange with
    ⟨f, hfailed⟩ | ⟨old, replaced', hfirst, ⟨f, -, hfailed⟩ | ⟨outcome', t', hreload, hdone⟩⟩
  · rw [hfailed] at h
    cases h
  · rw [hfailed] at h
    cases h
  · rw [hdone] at h
    cases h
    obtain ⟨written, hwrite⟩ := hfirst.swap []
    obtain ⟨again, hupdate, hsecond⟩ :=
      Config.exists_replaced hfirst.content hwrite a.toChange
    rw [Text.decode_encode, a.updateText_again] at hupdate
    have hcontent := hsecond.content
    rw [Text.decode_encode] at hcontent
    have htwice : Config.changeText (Config.changeText (Text.decode old) a.toChange) a.toChange =
        Config.changeText (Text.decode old) a.toChange :=
      congrArg Prod.snd (a.updateText_again (Text.decode old))
    rw [htwice] at hcontent
    have hlayout' : t.layout = .ofRoot root := (site_reload hreload).1.trans hlayout
    obtain ⟨content, blocked, hconfig, hblocked, hdigest, hlist⟩ := digests_of_reload hreload
    have hconfig' : Scene.config ⟨t, again⟩ = .ok content := by
      rw [← hconfig]
      unfold Scene.config
      rw [hlayout', hcontent, hfirst.content]
    have hblocked' : Scene.blocked ⟨t, again⟩ = .ok blocked := by
      rw [← hblocked]
      unfold Scene.blocked
      rw [hlayout', hsecond.list]
    have hsame := reload_of_digests hconfig' hblocked' hdigest hlist
    refine ⟨content, again, hconfig, hconfig', ?_, hsame⟩
    unfold update
    rw [hlayout', hupdate]
    simp only [hsame]

namespace Engine

/-- An update that is made again at once answers the same. It leaves the configuration byte for
byte, and the store as it is: the snapshot is not published anew, and no generation of the banner
begins. The next refresh finds nothing new. -/
theorem update_again {e e' : Engine} (h : e.Reachable root) (a : Assignment) {found : Bool}
    (hupdate : e.update a.parent a.key a.value = (.ok found, e')) :
    ∃ content e'', e'.scene.config = .ok content ∧
      e'.update a.parent a.key a.value = (.ok found, e'') ∧
      e''.scene.config = .ok content ∧ e''.store = e'.store ∧ e''.tasks = e'.tasks ∧
      e''.refresh.1 = .ok .unchanged := by
  cases hfirst : e.store.update e.files a.parent a.key a.value with
  | mk result replaced t =>
    unfold update updateFrom at hupdate
    simp only [hfirst] at hupdate
    cases result with
    | error f => cases hupdate
    | ok r =>
      obtain ⟨found', outcome⟩ := r
      obtain ⟨rfl, hnoted⟩ : found' = found ∧
          noteReload { e with files := replaced, store := t } e.concurrent outcome = e' := by
        simpa using hupdate
      have hstore : e'.store = t := by rw [← hnoted, store_noteReload]
      have hfiles : e'.files = replaced := by rw [← hnoted, files_noteReload]
      obtain ⟨content, again, hconfig, hconfig', hsecond, hreload⟩ :=
        Store.update_of_updated h.layout a hfirst
      refine ⟨content, { e' with files := again }, ?_, ?_, ?_, rfl, rfl, ?_⟩
      · rw [scene, hstore, hfiles]
        exact hconfig
      · unfold update updateFrom
        simp only [hstore, hfiles, hsecond]
        rw [← hstore]
        rfl
      · rw [scene, hstore]
        exact hconfig'
      · unfold refresh refreshFrom
        simp only [hstore, hreload]

/-- The seconds of a banner are set twice. -/
theorem update_again_bannerFiles :
    ∃ start e', ofFiles Store.bannerFiles = .ok start ∧
      start.update "MessageBanner".toList "seconds-to-display".toList "5".toList = (.ok true, e') ∧
      e'.store.generation = 2 ∧
      ∃ content e'', e'.scene.config = .ok content ∧
        e'.update "MessageBanner".toList "seconds-to-display".toList "5".toList = (.ok true, e'') ∧
        e''.scene.config = .ok content ∧ e''.store = e'.store ∧ e''.tasks = e'.tasks ∧
        e''.refresh.1 = .ok .unchanged := by
  let a : Assignment :=
    ⟨⟨"MessageBanner".toList, "seconds-to-display".toList, "5".toList⟩, .key .secondsToDisplay,
      ⟨by decide, .messageBanner, by decide, by decide⟩, ⟨by decide, by decide⟩⟩
  have hfirst : (ofFiles Store.bannerFiles).toOption.map (fun start =>
      ((start.update a.parent a.key a.value).1.toOption,
        (start.update a.parent a.key a.value).2.store.generation)) = some (some true, 2) := by
    decide +kernel
  cases hopen : ofFiles Store.bannerFiles with
  | error f =>
    rw [hopen] at hfirst
    cases hfirst
  | ok start =>
    rw [hopen] at hfirst
    cases hupdate : start.update a.parent a.key a.value with
    | mk answer e' =>
      simp only [hupdate, Except.toOption, Option.map_some, Option.some.injEq, Prod.mk.injEq]
        at hfirst
      obtain ⟨hanswer, hgeneration⟩ := hfirst
      cases answer with
      | error f => cases hanswer
      | ok found =>
        obtain rfl : found = true := Option.some.inj hanswer
        exact ⟨start, e', rfl, hupdate, hgeneration, update_again (.opened hopen) a hupdate⟩

end Engine

end SiteGate
