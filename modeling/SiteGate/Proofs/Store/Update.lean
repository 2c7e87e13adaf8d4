import SiteGate.Proofs.Config.AnyOrder
import SiteGate.Proofs.Store.Run

/-!
# What an update comes to

An update of the store changes the configuration and reads both files again. Under a web root
there are three outcomes (`update_outcome`). Where the configuration cannot be read or the swap
file cannot be written, nothing is touched. Otherwise the configuration is replaced, whatever
comes after that (`Replaced`), and only the list of blocked addresses can make the update fail
then.
-/

set_option autoImplicit false

namespace SiteGate

namespace Config

/-- The configuration under a web root has been replaced by the content that a change makes of it.
The list of blocked addresses is as before, and the swap file can be written again. -/
structure Replaced (root : Path) (c : Change) (old : Bytes) (files replaced : Tree) : Prop where
  config : files.contentAt (Layout.ofRoot root).configFile = .ok old
  content : replaced.contentAt (Layout.ofRoot root).configFile =
    .ok (Text.encode (changeText (Text.decode old) c))
  list : blockedContent replaced (Layout.ofRoot root).blockedFile =
    blockedContent files (Layout.ofRoot root).blockedFile
  swap : ∀ next, ∃ written, replaced.write (Layout.ofRoot root).swapFile next = .ok written

/-- Where the configuration can be read and the swap file be written, a change replaces it. -/
theorem exists_replaced {files written : Tree} {root : Path} {old sample : Bytes}
    (hconfig : files.contentAt (Layout.ofRoot root).configFile = .ok old)
    (hswap : files.write (Layout.ofRoot root).swapFile sample = .ok written) (c : Change) :
    ∃ replaced, updateFile files (Layout.ofRoot root).configFile (Layout.ofRoot root).swapFile
        c.parent c.key c.value =
          (.ok (updateText (Text.decode old) c.parent c.key c.value).1, replaced) ∧
      Replaced root c old files replaced := by
  obtain ⟨replaced, hreplace, hcontent, hblocked, hagain⟩ :=
    replace_configFile hconfig hswap (Text.encode (changeText (Text.decode old) c))
  refine ⟨replaced, ?_, hconfig, hcontent, hblocked, hagain⟩
  rw [changeText] at hreplace
  simp [updateFile, hconfig, hreplace]

end Config

namespace Store

open Config (Layout Replaced)

variable {root : Path}

/-- An update touches nothing, or it replaces the configuration and reads the files that it
leaves; if it fails after that, the list of blocked addresses could not be read. -/
theorem update_outcome {s : Store} (hlayout : s.layout = .ofRoot root) (files : Tree)
    (c : Config.Change) :
    (∃ f, s.update files c.parent c.key c.value = ⟨.error f, files, s⟩) ∨
    ∃ old replaced, Replaced root c old files replaced ∧
      ((∃ f, Config.blockedContent files s.layout.blockedFile = .error f ∧
          s.update files c.parent c.key c.value = ⟨.error f, replaced, s⟩) ∨
        ∃ outcome t, s.reload replaced = .ok (outcome, t) ∧
          s.update files c.parent c.key c.value =
            ⟨.ok ((Config.updateText (Text.decode old) c.parent c.key c.value).1, outcome),
              replaced, t⟩) := by
  unfold update
  rw [hlayout]
  rcases Config.updateFile_cases files (Layout.ofRoot root).configFile
    (Layout.ofRoot root).swapFile with ⟨f, hfails⟩ | ⟨old, written, hold, hwrite⟩
  · exact .inl ⟨f, by rw [hfails c]⟩
  · obtain ⟨replaced, hupdate, h⟩ := Config.exists_replaced hold hwrite c
    refine .inr ⟨old, replaced, h, ?_⟩
    rw [hupdate]
    cases hblocked : Config.blockedContent files (Layout.ofRoot root).blockedFile with
    | error f =>
      refine .inl ⟨f, rfl, ?_⟩
      have hreload : s.reload replaced = .error f := by
        unfold reload
        simp only [hlayout, h.content, h.list, hblocked]
      simp only [hreload]
    | ok blocked =>
      have hreload : ∃ r, s.reload replaced = .ok r := by
        unfold reload
        simp only [hlayout, h.content, h.list, hblocked]
        exact ⟨_, rfl⟩
      obtain ⟨⟨outcome, t⟩, hreload⟩ := hreload
      exact .inr ⟨outcome, t, hreload, by simp only [hreload]⟩

end Store

end SiteGate
