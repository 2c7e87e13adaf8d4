import SiteGate.Config.Layout
import SiteGate.Config.Source
import SiteGate.Proofs.Files.Directory

/-!
# The files of a layout

The configuration, the swap file and the list of blocked addresses are three names in one directory.
So where the configuration can be read and the swap file be written, the configuration can be
replaced by any content; the list of blocked addresses stays as it is, and the swap file can be
written again (`replace_configFile`).
-/

set_option autoImplicit false

namespace SiteGate.Config

open SiteGate.Path (IsName within)
open SiteGate.Tree (In Fits)

/-! ## The three names -/

namespace Layout

/-- The name of the configuration in its directory. -/
def configName : Text := ".all".toList

/-- The name of the swap file in that directory. -/
def swapName : Text := ".all.swap".toList

/-- The name of the list of blocked addresses in that directory. -/
def blockedName : Text := "blocked-ip".toList

/-- The name of the configuration is a name. -/
theorem isName_config : IsName configName := by constructor <;> decide

/-- The name of the swap file is a name. -/
theorem isName_swap : IsName swapName := by constructor <;> decide

/-- The name of the list of blocked addresses is a name. -/
theorem isName_blocked : IsName blockedName := by constructor <;> decide

/-- The configuration is in its directory. -/
theorem configFile_eq (root : Path) :
    (ofRoot root).configFile = within (ofRoot root).configDirectory configName :=
  Path.join_join _ (by decide) (by decide)

/-- The swap file is in the directory of the configuration. -/
theorem swapFile_eq (root : Path) :
    (ofRoot root).swapFile = within (ofRoot root).configDirectory swapName :=
  Path.join_join _ (by decide) (by decide)

/-- The list of blocked addresses is in the directory of the configuration. -/
theorem blockedFile_eq (root : Path) :
    (ofRoot root).blockedFile = within (ofRoot root).configDirectory blockedName :=
  Path.join_join _ (by decide) (by decide)

end Layout

/-! ## What their paths lead to -/

variable {t t' : Tree} {directory : Path} {place : Place} {n : Text}

/-- The content of a file is what can be read there. -/
theorem contentAt_eq_ok_iff {p : Path} {content : Bytes} :
    t.contentAt p = .ok content ↔ t.read p = .ok content := by
  unfold Tree.contentAt
  cases t.read p <;> simp

/-- The list of blocked addresses is what is at its place, and none if nothing is there. -/
theorem blockedContent_eq (h : t.In directory place n) :
    blockedContent t (within directory n) =
      match t.at? (place ++ [n]) with
      | some (.file content) => .ok (some content)
      | some .directory => .error ⟨within directory n, .isADirectory⟩
      | none => .ok none := by
  unfold blockedContent Tree.holds Tree.contentAt
  rw [h.node, h.read]
  cases t.at? (place ++ [n]) with
  | none => rfl
  | some found => cases found <;> rfl

/-- A path that the system does not take leads to no list. -/
theorem blockedContent_of_not_fits (t : Tree) (h : ¬ Fits (within directory n)) :
    blockedContent t (within directory n) = .ok none := by
  have hholds : t.holds (within directory n) = false := by
    unfold Tree.holds Tree.node Tree.resolve Tree.locate
    have hne : (within directory n).isEmpty = false := by simp [within]
    cases hlookUp : Tree.lookUp (within directory n) with
    | error e => simp [hne, Except.bind, Except.isOk, Except.toBool]
    | ok components => exact absurd (Tree.fits_of_lookUp hlookUp) h
  simp [blockedContent, hholds]

/-! ## Replacing the configuration -/

/-- Where the configuration can be read and the swap file be written, both are in the directory. -/
theorem in_configDirectory {root : Path} {old content : Bytes}
    (hconfig : t.contentAt (Layout.ofRoot root).configFile = .ok old)
    (hswap : t.write (Layout.ofRoot root).swapFile content = .ok t') :
    ∃ place, t.In (Layout.ofRoot root).configDirectory place Layout.configName ∧
      t.at? (place ++ [Layout.configName]) = some (.file old) ∧
      t.In (Layout.ofRoot root).configDirectory place Layout.swapName ∧
      t.at? (place ++ [Layout.swapName]) ≠ some .directory ∧
      t' = t.put (place ++ [Layout.swapName]) (.file content) := by
  rw [Layout.configFile_eq, contentAt_eq_ok_iff] at hconfig
  rw [Layout.swapFile_eq] at hswap
  obtain ⟨place, hin, hfile⟩ := Tree.in_of_read Layout.isName_config (by decide) hconfig
  obtain ⟨place', hin', hnot, hput⟩ := Tree.in_of_write Layout.isName_swap (by decide) hswap
  obtain rfl : place' = place := by
    have hsame := hin'.follow.symm.trans hin.follow
    exact Except.ok.inj hsame
  exact ⟨place', hin, hfile, hin', hnot, hput⟩

/-- The list of blocked addresses is what it was after the configuration has been replaced. -/
theorem blockedContent_replaced {root : Path} {content : Bytes}
    (hconfig : t.In (Layout.ofRoot root).configDirectory place Layout.configName)
    (hnot : t.at? (place ++ [Layout.configName]) ≠ some .directory)
    (hswapNot : t.at? (place ++ [Layout.swapName]) ≠ some .directory) :
    blockedContent (t.replaced place Layout.swapName Layout.configName content)
        (Layout.ofRoot root).blockedFile =
      blockedContent t (Layout.ofRoot root).blockedFile := by
  rw [Layout.blockedFile_eq]
  by_cases hfits : Fits (within (Layout.ofRoot root).configDirectory Layout.blockedName)
  · have hin : t.In (Layout.ofRoot root).configDirectory place Layout.blockedName :=
      ⟨hfits, hconfig.follow, Layout.isName_blocked, by decide⟩
    have hin' := hin.replaced (by decide) hswapNot hnot content
    rw [blockedContent_eq hin, blockedContent_eq hin',
      Tree.at?_replaced_of_ne t place (by decide) (by decide)]
  · rw [blockedContent_of_not_fits _ hfits, blockedContent_of_not_fits _ hfits]

/-- The configuration is replaced by any content if the swap file can be written; the list of
blocked addresses is left, and the swap file can be written again. -/
theorem replace_configFile {root : Path} {old sample : Bytes}
    (hconfig : t.contentAt (Layout.ofRoot root).configFile = .ok old)
    (hswap : t.write (Layout.ofRoot root).swapFile sample = .ok t') (content : Bytes) :
    ∃ replaced, t.replace (Layout.ofRoot root).configFile (Layout.ofRoot root).swapFile content =
        (.ok (), replaced) ∧
      replaced.contentAt (Layout.ofRoot root).configFile = .ok content ∧
      blockedContent replaced (Layout.ofRoot root).blockedFile =
        blockedContent t (Layout.ofRoot root).blockedFile ∧
      ∀ next, ∃ written, replaced.write (Layout.ofRoot root).swapFile next = .ok written := by
  obtain ⟨place, hin, hfile, hinSwap, hswapNot, -⟩ := in_configDirectory hconfig hswap
  have hnot : t.at? (place ++ [Layout.configName]) ≠ some .directory := by simp [hfile]
  have hne : Layout.swapName ≠ Layout.configName := by decide
  refine ⟨t.replaced place Layout.swapName Layout.configName content, ?_, ?_, ?_, ?_⟩
  · rw [Layout.configFile_eq, Layout.swapFile_eq]
    exact hinSwap.replace hin hne hswapNot hnot content
  · have hin' := hin.replaced hne hswapNot hnot content
    rw [Layout.configFile_eq, contentAt_eq_ok_iff, hin'.read, Tree.at?_replaced_self]
  · exact blockedContent_replaced hin hnot hswapNot
  · intro next
    have hin' := hinSwap.replaced hne hswapNot hnot content
    rw [Layout.swapFile_eq, hin'.write, Tree.at?_replaced_swap t place hne]
    exact ⟨_, rfl⟩

/-- The configuration stays as it is while the swap file is written. -/
theorem contentAt_configFile_of_write {root : Path} {old content : Bytes}
    (hconfig : t.contentAt (Layout.ofRoot root).configFile = .ok old)
    (hswap : t.write (Layout.ofRoot root).swapFile content = .ok t') :
    t'.contentAt (Layout.ofRoot root).configFile = .ok old := by
  obtain ⟨place, hin, hfile, -, hswapNot, rfl⟩ := in_configDirectory hconfig hswap
  have hne : place ++ [Layout.configName] ≠ place ++ [Layout.swapName] := by simp; decide
  rw [Layout.configFile_eq, contentAt_eq_ok_iff, (hin.put hswapNot content).read,
    Tree.at?_put_of_ne t hne, hfile]

/-- The configuration has the content of the swap file when that has taken its place. -/
theorem contentAt_configFile_of_rename {root : Path} {old content : Bytes} {t'' : Tree}
    (hconfig : t.contentAt (Layout.ofRoot root).configFile = .ok old)
    (hswap : t.write (Layout.ofRoot root).swapFile content = .ok t')
    (hrename : t'.rename (Layout.ofRoot root).swapFile (Layout.ofRoot root).configFile = .ok t'') :
    t''.contentAt (Layout.ofRoot root).configFile = .ok content := by
  obtain ⟨replaced, hreplace, hcontent, -⟩ := replace_configFile hconfig hswap content
  have hstore : t.storeAt (Layout.ofRoot root).swapFile content = .ok t' := by
    unfold Tree.storeAt
    rw [hswap]
  unfold Tree.replace at hreplace
  simp only [hstore, hrename, Prod.mk.injEq, true_and] at hreplace
  rw [hreplace]
  exact hcontent

end SiteGate.Config
