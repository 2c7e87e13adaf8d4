import Mathlib.Data.List.Basic
import SiteGate.Files.Replace

/-!
# Files and the paths to them

A path to a file leads through directories and ends with the file's name. Where the directories are
there, what the path leads to is decided at one place of the tree alone (`Names.read`,
`Names.write`). A file that is put at such a place, or moved from one to another, leaves every
directory that can be reached where it is (`isOpen_put`, `isOpen_drop`). So a file that can be read is
replaced wherever the swap file can be written (`exists_replaced`), and if both are names of one
directory the other files there are as before (`at?_replaced_of_ne`).
-/

set_option autoImplicit false

namespace SiteGate

/-- A result is there just if it is a success. -/
theorem toOption_eq_some_iff {α ε : Type} {x : Except ε α} {a : α} :
    x.toOption = some a ↔ x = .ok a := by
  cases x <;> simp [Except.toOption]

namespace Path

/-- A name that stands between two slashes as it is. -/
structure IsName (n : Text) : Prop where
  slash : '/' ∉ n
  ne_nil : n ≠ []
  ne_here : n ≠ ['.']
  ne_up : n ≠ ['.', '.']

/-- A path to a name in a directory that is given by its own path. -/
def within (directory : Path) (n : Text) : Path := directory ++ '/' :: n

/-- A text without a character is not split at it. -/
theorem splitOn_of_not_mem {n : Text} {c : Char} (h : c ∉ n) : n.splitOn c = [n] := by
  have hsplit : List.splitOn c ([c].intercalate [n]) = [n] :=
    List.splitOn_intercalate c (by simpa using h) (by simp)
  simpa using hsplit

/-- A name is a component of its own. -/
theorem component?_name {n : Text} (hn : IsName n) : component? n = some (.name n) := by
  simp [component?, hn.ne_nil, hn.ne_here, hn.ne_up]

/-- The components of a path to a name in a directory. -/
theorem components_within (directory : Path) {n : Text} (hn : IsName n) :
    (within directory n).components = directory.components ++ [.name n] := by
  have hpieces : (within directory n).pieces = directory.pieces ++ [n] := by
    unfold pieces within
    rw [← splitOn_of_not_mem hn.slash]
    exact List.splitOnP_append_cons directory n (by simp)
  unfold components
  rw [hpieces, List.filterMap_append]
  simp [component?_name hn]

/-- A path to a name in a directory does not end with a slash. -/
theorem endsWithSlash_within (directory : Path) {n : Text} (hn : IsName n) :
    (within directory n).endsWithSlash = false := by
  have hlast : (within directory n).getLast? = n.getLast? := by
    unfold within
    rw [List.append_cons, List.getLast?_append_of_ne_nil _ hn.ne_nil]
  have hmem : n.getLast? ≠ some '/' := fun h => hn.slash (List.mem_of_getLast? h)
  simp [endsWithSlash, hlast, hmem]

/-- A path to something is not empty. -/
theorem join_ne_nil (base : Path) {child : Text} (h : child ≠ []) : join base child ≠ [] := by
  unfold join
  split <;> simp [h]

/-- A name in something that has a name of its own. -/
theorem join_join (base : Path) {d n : Text} (hne : d ≠ []) (hlast : d.getLast? ≠ some '/') :
    join (join base d) n = within (join base d) n := by
  have hjoin : (join base d).getLast? = d.getLast? := by
    unfold join
    split
    · exact List.getLast?_append_of_ne_nil base hne
    · rw [List.append_cons, List.getLast?_append_of_ne_nil _ hne]
  rw [join, hjoin]
  simp [hlast, join_ne_nil base hne, within]

end Path

namespace Tree

open SiteGate.Path (Component IsName within)

variable {t t' : Tree} {p q : Place}

/-! ## Directories -/

/-- All directories that lead to a place are there, and so is the place. -/
def IsOpen (t : Tree) (p : Place) : Prop := ∀ q, q <+: p → t.at? q = some .directory

/-- The top of a tree is open. -/
theorem isOpen_nil (t : Tree) : t.IsOpen [] := by
  intro q hq
  rw [List.prefix_nil.mp hq]
  rfl

/-- An open place is a directory. -/
theorem IsOpen.at? (h : t.IsOpen p) : t.at? p = some .directory := h p List.prefix_rfl

/-- The place above an open place is open. -/
theorem IsOpen.dropLast (h : t.IsOpen p) : t.IsOpen p.dropLast :=
  fun q hq => h q (hq.trans (List.dropLast_prefix p))

/-- A directory in an open place is open. -/
theorem IsOpen.concat {n : Text} (h : t.IsOpen p) (hn : t.at? (p ++ [n]) = some .directory) :
    t.IsOpen (p ++ [n]) := by
  intro q hq
  rcases List.prefix_concat_iff.mp hq with rfl | hq
  · exact hn
  · exact h q hq

/-- Following components from an open place leads to an open place, and to the same one in any tree
where what is open here is open too. -/
theorem follow_of_isOpen (hkeep : ∀ p, t.IsOpen p → t'.IsOpen p) {components : List Component}
    (hp : t.IsOpen p) (h : t.follow p components = .ok q) :
    t.IsOpen q ∧ t'.follow p components = .ok q := by
  induction components generalizing p with
  | nil =>
    obtain rfl := Except.ok.inj h
    exact ⟨hp, rfl⟩
  | cons c rest ih =>
    cases c with
    | up => exact ih hp.dropLast h
    | here => exact ih hp h
    | name n =>
      unfold follow at h ⊢
      by_cases hlong : byteLength n > 255
      · simp [hlong] at h
      · rw [if_neg hlong] at h ⊢
        cases hnode : t.at? (p ++ [n]) with
        | none => simp [hnode] at h
        | some node =>
          cases node with
          | file content => simp [hnode] at h
          | directory =>
            simp only [hnode] at h
            have hopen := hp.concat hnode
            simp only [(hkeep _ hopen).at?]
            exact ih hopen h

/-! ## Where a path is located -/

/-- A path that the system takes. -/
def Fits (p : Path) : Prop := p.contains '\x00' = false ∧ byteLength p < 4096

/-- A path that the system takes is looked up by its components. -/
theorem lookUp_of_fits {p : Path} (h : Fits p) : lookUp p = .ok p.components := by
  have hzero := h.1
  unfold lookUp
  rw [hzero, if_neg (by simp), if_neg (Nat.not_le.mpr h.2)]

/-- A path that is looked up is one that the system takes. -/
theorem fits_of_lookUp {p : Path} {components : List Component} (h : lookUp p = .ok components) :
    Fits p := by
  unfold lookUp at h
  split at h
  · cases h
  · next hzero =>
    split at h
    · cases h
    · next hlength => exact ⟨by simpa using hzero, Nat.not_le.mp hlength⟩

/-- A path is looked up by nothing but its components. -/
theorem eq_components_of_lookUp {p : Path} {components : List Component}
    (h : lookUp p = .ok components) : components = p.components :=
  Except.ok.inj (h.symm.trans (lookUp_of_fits (fits_of_lookUp h)))

/-- What a path leads to is in the directory that all its components but the last lead to. -/
theorem locate_eq_ok_iff {path : Path} {found : Place × Component} :
    t.locate path = .ok found ↔
      path ≠ [] ∧ Fits path ∧ t.follow [] path.components.dropLast = .ok found.1 ∧
        path.components.getLast?.getD .here = found.2 := by
  obtain ⟨parent, last⟩ := found
  by_cases hempty : path = []
  · simp [locate, hempty]
  · have hnonempty : ¬ path.isEmpty = true := by simpa using hempty
    rw [locate, if_neg hnonempty]
    by_cases hfits : Fits path
    · rw [lookUp_of_fits hfits]
      cases hfollow : t.follow [] path.components.dropLast with
      | error e => simp [Except.bind, Except.map, hfollow]
      | ok place => simp [Except.bind, Except.map, hfollow, hempty, hfits]
    · cases hlookUp : lookUp path with
      | error e => simp [Except.bind, hfits]
      | ok components => exact absurd (fits_of_lookUp hlookUp) hfits

/-! ## The name that a path ends with -/

/-- What a path is located in is there. -/
theorem isOpen_of_locate {path : Path} {found : Place × Component} (h : t.locate path = .ok found) :
    t.IsOpen found.1 := by
  obtain ⟨-, -, hfollow, -⟩ := locate_eq_ok_iff.mp h
  exact (follow_of_isOpen (fun _ => id) t.isOpen_nil hfollow).1

/-- A path ends with a name that a file may have in a directory that is there. -/
structure Names (t : Tree) (path : Path) (parent : Place) (n : Text) : Prop where
  locate : t.locate path = .ok (parent, .name n)
  plain : path.endsWithSlash = false
  short : byteLength n ≤ 255

section

variable {path : Path} {parent : Place} {n : Text}

/-- A name leads from its directory to its place. -/
theorem Names.step (h : t.Names path parent n) :
    Tree.step parent (.name n) = .ok (parent ++ [n]) := by
  simp [Tree.step, Nat.not_lt.mpr h.short]

/-- A path that ends with a name leads to the place of that name. -/
theorem Names.resolve (h : t.Names path parent n) : t.resolve path = .ok (parent ++ [n]) := by
  rw [Tree.resolve, h.locate]
  exact h.step

/-- The directory of a name is there. -/
theorem Names.isOpen (h : t.Names path parent n) : t.IsOpen parent := isOpen_of_locate h.locate

/-- The node of such a path is the one at its place. -/
theorem Names.node (h : t.Names path parent n) :
    t.node path =
      match t.at? (parent ++ [n]) with
      | some found => .ok found
      | none => .error .notFound := by
  rw [Tree.node, h.resolve]
  simp only [Except.bind, h.plain]
  cases t.at? (parent ++ [n]) with
  | none => rfl
  | some found => cases found <;> rfl

/-- Reading at a path that ends with a name gives what is at its place. -/
theorem Names.read (h : t.Names path parent n) :
    t.read path =
      match t.at? (parent ++ [n]) with
      | some (.file content) => .ok content
      | some .directory => .error .isADirectory
      | none => .error .notFound := by
  unfold Tree.read
  rw [h.node]
  cases t.at? (parent ++ [n]) with
  | none => rfl
  | some found => cases found <;> rfl

/-- Writing at a path that ends with a name puts a file at its place, unless a directory is
there. -/
theorem Names.write (h : t.Names path parent n) (content : Bytes) :
    t.write path content =
      match t.at? (parent ++ [n]) with
      | some .directory => .error .isADirectory
      | _ => .ok (t.put (parent ++ [n]) (.file content)) := by
  unfold Tree.write
  rw [h.locate]
  simp only [Except.bind, h.step, h.plain]
  rfl

/-- Where a path ends with no name it leads to a directory. -/
theorem isOpen_of_step {p q : Place} {last : Component} (hp : t.IsOpen p)
    (hstep : Tree.step p last = .ok q) : t.IsOpen q ∨ ∃ n, last = .name n ∧ byteLength n ≤ 255 := by
  cases last with
  | up =>
    obtain rfl := Except.ok.inj hstep
    exact .inl hp.dropLast
  | here =>
    obtain rfl := Except.ok.inj hstep
    exact .inl hp
  | name n =>
    refine .inr ⟨n, rfl, ?_⟩
    by_contra hlong
    simp [Tree.step, Nat.lt_of_not_le hlong] at hstep

/-- A path that leads to something other than a directory ends with a name. -/
theorem names_of_resolve {place : Place} (hresolve : t.resolve path = .ok place)
    (hnot : t.at? place ≠ some .directory) (hplain : path.endsWithSlash = false) :
    ∃ parent n, t.Names path parent n ∧ place = parent ++ [n] := by
  unfold resolve at hresolve
  cases hlocate : t.locate path with
  | error e => simp [hlocate, Except.bind] at hresolve
  | ok found =>
    obtain ⟨parent, last⟩ := found
    simp only [hlocate, Except.bind] at hresolve
    rcases isOpen_of_step (isOpen_of_locate hlocate) hresolve with hopen | ⟨n, rfl, hshort⟩
    · exact absurd hopen.at? hnot
    · have hnames : t.Names path parent n := ⟨hlocate, hplain, hshort⟩
      exact ⟨parent, n, hnames, Except.ok.inj (hresolve.symm.trans hnames.step)⟩

end

/-! ## What a path within a directory leads to -/

/-- A path leads through a directory that is there to a name that it may have. -/
structure In (t : Tree) (directory : Path) (place : Place) (n : Text) : Prop where
  fits : Fits (within directory n)
  follow : t.follow [] directory.components = .ok place
  name : IsName n
  short : byteLength n ≤ 255

section

variable {directory : Path} {place : Place} {n : Text}

/-- A path to a name in a directory is located in the place of the directory. -/
theorem In.locate (h : t.In directory place n) :
    t.locate (within directory n) = .ok (place, .name n) := by
  have hne : within directory n ≠ [] := by simp [within]
  refine locate_eq_ok_iff.mpr ⟨hne, h.fits, ?_, ?_⟩
  · rw [Path.components_within directory h.name, List.dropLast_concat, h.follow]
  · rw [Path.components_within directory h.name, List.getLast?_concat, Option.getD_some]

/-- A path to a name in a directory ends with that name. -/
theorem In.names (h : t.In directory place n) : t.Names (within directory n) place n :=
  ⟨h.locate, Path.endsWithSlash_within directory h.name, h.short⟩

/-- What can be located in a directory is in it. -/
theorem in_of_locate {found : Place × Component} (hn : IsName n) (hshort : byteLength n ≤ 255)
    (h : t.locate (within directory n) = .ok found) : t.In directory found.1 n := by
  obtain ⟨-, hfits, hfollow, -⟩ := locate_eq_ok_iff.mp h
  rw [Path.components_within directory hn, List.dropLast_concat] at hfollow
  exact ⟨hfits, hfollow, hn, hshort⟩

/-- The node of a path in a directory is the one at its place. -/
theorem In.node (h : t.In directory place n) :
    t.node (within directory n) =
      match t.at? (place ++ [n]) with
      | some found => .ok found
      | none => .error .notFound :=
  h.names.node

/-- Reading at a path to a name in a directory gives what is at its place. -/
theorem In.read (h : t.In directory place n) :
    t.read (within directory n) =
      match t.at? (place ++ [n]) with
      | some (.file content) => .ok content
      | some .directory => .error .isADirectory
      | none => .error .notFound :=
  h.names.read

/-- Writing at a path to a name in a directory puts a file at its place, unless a directory is
there. -/
theorem In.write (h : t.In directory place n) (content : Bytes) :
    t.write (within directory n) content =
      match t.at? (place ++ [n]) with
      | some .directory => .error .isADirectory
      | _ => .ok (t.put (place ++ [n]) (.file content)) :=
  h.names.write content

/-- A file that can be read is in its directory. -/
theorem in_of_read {content : Bytes} (hn : IsName n) (hshort : byteLength n ≤ 255)
    (h : t.read (within directory n) = .ok content) :
    ∃ place, t.In directory place n ∧ t.at? (place ++ [n]) = some (.file content) := by
  cases hlocate : t.locate (within directory n) with
  | error e => simp [Tree.read, Tree.node, resolve, hlocate, Except.bind] at h
  | ok found =>
    have hin := in_of_locate hn hshort hlocate
    refine ⟨found.1, hin, ?_⟩
    rw [hin.read] at h
    cases hat : t.at? (found.1 ++ [n]) with
    | none => simp [hat] at h
    | some node =>
      cases node with
      | directory => simp [hat] at h
      | file c =>
        simp only [hat, Except.ok.injEq] at h
        rw [h]

/-- A file that can be written is in its directory, and not a directory itself. -/
theorem in_of_write {content : Bytes} (hn : IsName n) (hshort : byteLength n ≤ 255)
    (h : t.write (within directory n) content = .ok t') :
    ∃ place, t.In directory place n ∧ t.at? (place ++ [n]) ≠ some .directory ∧
      t' = t.put (place ++ [n]) (.file content) := by
  cases hlocate : t.locate (within directory n) with
  | error e => simp [Tree.write, hlocate, Except.bind] at h
  | ok found =>
    have hin := in_of_locate hn hshort hlocate
    refine ⟨found.1, hin, ?_⟩
    rw [hin.write] at h
    cases hat : t.at? (found.1 ++ [n]) with
    | none =>
      simp only [hat, Except.ok.injEq] at h
      exact ⟨by simp, h.symm⟩
    | some node =>
      cases node with
      | directory => simp [hat] at h
      | file c =>
        simp only [hat, Except.ok.injEq] at h
        exact ⟨by simp, h.symm⟩

end

/-! ## Files that are put and moved -/

/-- A place in a directory is not the top. -/
theorem concat_ne_nil (place : Place) (n : Text) : place ++ [n] ≠ [] := by simp

/-- Where no directory is, a file that is put there hides none. -/
theorem isOpen_put (hp : p ≠ []) (hnot : t.at? p ≠ some .directory) (content : Bytes)
    (h : t.IsOpen q) : (t.put p (.file content)).IsOpen q := by
  intro r hr
  have hat := h r hr
  have hne : r ≠ p := by
    rintro rfl
    exact hnot hat
  rw [at?_put_of_ne t hne]
  exact hat

/-- A path leads to the same place in a tree where the same directories can be reached. -/
theorem locate_of_isOpen (hkeep : ∀ p, t.IsOpen p → t'.IsOpen p) {path : Path}
    {found : Place × Component} (h : t.locate path = .ok found) : t'.locate path = .ok found := by
  obtain ⟨hne, hfits, hfollow, hlast⟩ := locate_eq_ok_iff.mp h
  exact locate_eq_ok_iff.mpr
    ⟨hne, hfits, (follow_of_isOpen hkeep t.isOpen_nil hfollow).2, hlast⟩

/-- Of two things that are put at one place the later one counts. -/
theorem put_put (t : Tree) (p : Place) (first second : Node) :
    (t.put p first).put p second = t.put p second := by
  simp [Tree.put, Association.insert_insert]

/-- Whether a file can be written, and where, does not depend on its content. It can be written again
after it has been. -/
theorem write_cases (t : Tree) (path : Path) :
    (∃ e, ∀ content, t.write path content = .error e) ∨
    ∃ place, t.at? place ≠ some .directory ∧
      ∀ content, t.write path content = .ok (t.put place (.file content)) ∧
        ∀ next, (t.put place (.file content)).write path next = .ok (t.put place (.file next)) := by
  have hwrite : ∀ (t : Tree) (found : Place × Component), t.locate path = .ok found →
      ∀ content, t.write path content =
        if path.endsWithSlash then .error .isADirectory
        else (Tree.step found.1 found.2).bind fun place =>
          match t.at? place with
          | some .directory => .error .isADirectory
          | _ => .ok (t.put place (.file content)) := by
    intro t found hlocate content
    unfold Tree.write
    rw [hlocate]
    rfl
  cases hlocate : t.locate path with
  | error e => exact .inl ⟨e, fun content => by simp [Tree.write, hlocate, Except.bind]⟩
  | ok found =>
    by_cases hslash : path.endsWithSlash = true
    · exact .inl ⟨.isADirectory, fun content => by simp [hwrite t found hlocate, hslash]⟩
    · cases hstep : Tree.step found.1 found.2 with
      | error e =>
        exact .inl ⟨e, fun content => by simp [hwrite t found hlocate, hslash, hstep, Except.bind]⟩
      | ok place =>
        by_cases hat : t.at? place = some .directory
        · refine .inl ⟨.isADirectory, fun content => ?_⟩
          simp [hwrite t found hlocate, hslash, hstep, Except.bind, hat]
        · refine .inr ⟨place, hat, fun content => ⟨?_, fun next => ?_⟩⟩
          · rw [hwrite t found hlocate, if_neg hslash, hstep]
            simp only [Except.bind]
          · have hne : place ≠ [] := by
              rintro rfl
              exact hat rfl
            have hlocate' := locate_of_isOpen (fun _ => isOpen_put hne hat content) hlocate
            rw [hwrite _ found hlocate', if_neg hslash, hstep]
            simp only [Except.bind, at?_put_self t hne, put_put]

/-- What is not at a place or below it stays when the place is dropped. -/
theorem at?_drop_of_not_above (t : Tree) (h : ¬ p <+: q) : (t.drop p).at? q = t.at? q := by
  have hkeep : (!p.isPrefixOf q) = true := by
    rw [Bool.not_eq_true', Bool.eq_false_iff, Ne, List.isPrefixOf_iff_prefix]
    exact h
  unfold Tree.at? drop
  rw [Association.lookup_filter t.nodes (fun place => !p.isPrefixOf place) hkeep]

/-- Where something has been dropped there is nothing. -/
theorem at?_drop_self (t : Tree) (hp : p ≠ []) : (t.drop p).at? p = none := by
  have hnone : List.lookup p (t.drop p).nodes = none := by
    rw [List.lookup_eq_none_iff]
    intro entry hentry
    have hnot := (List.mem_filter.mp hentry).2
    have hne : p ≠ entry.1 := by
      intro heq
      have hself : p.isPrefixOf p = true := List.isPrefixOf_iff_prefix.mpr List.prefix_rfl
      simp [← heq, hself] at hnot
    simpa using hne
  simp [Tree.at?, hp, hnone]

/-- Dropping what is no directory leaves all directories that can be reached. -/
theorem isOpen_drop (hnot : t.at? p ≠ some .directory) (h : t.IsOpen q) : (t.drop p).IsOpen q := by
  intro r hr
  have hprefix : ¬ p <+: r := fun hpr => hnot (h p (hpr.trans hr))
  rw [at?_drop_of_not_above t hprefix]
  exact h r hr

/-! ## Files that take the place of others -/

section

variable {path swap source target : Path} {p q : Place} {n m : Text}

/-- A path ends with a name in every tree where the same directories are open. -/
theorem Names.of_isOpen (hkeep : ∀ p, t.IsOpen p → t'.IsOpen p) (h : t.Names path p n) :
    t'.Names path p n :=
  ⟨locate_of_isOpen hkeep h.locate, h.plain, h.short⟩

/-- Where no directory is there is none further up either, as seen from a name. -/
theorem Names.not_prefix (h : t.Names path p n) {place : Place} (hne : place ≠ p ++ [n])
    (hnot : t.at? place ≠ some .directory) : ¬ place <+: p ++ [n] := by
  intro hprefix
  rcases List.prefix_concat_iff.mp hprefix with heq | hprefix
  · exact hne heq
  · exact hnot (h.isOpen place hprefix)

/-- A file goes to another name, where no directory is. -/
theorem Names.rename (hs : t.Names source p n) (ht : t.Names target q m)
    (hne : p ++ [n] ≠ q ++ [m]) {content : Bytes} (hfile : t.at? (p ++ [n]) = some (.file content))
    (hnot : t.at? (q ++ [m]) ≠ some .directory) :
    t.rename source target = .ok ((t.drop (p ++ [n])).put (q ++ [m]) (.file content)) := by
  have hprefix : (q ++ [m]).isPrefixOf (p ++ [n]) = false := by
    rw [Bool.eq_false_iff, Ne, List.isPrefixOf_iff_prefix]
    exact hs.not_prefix hne.symm hnot
  unfold Tree.rename
  rw [hs.locate, ht.locate]
  simp only [Except.bind, hs.step, ht.step, hs.plain, ht.plain, Bool.or_self]
  unfold move
  rw [hfile]
  simp only [hne, hprefix, Bool.false_eq_true, if_false]

/-- A file that goes where it is stays there. -/
theorem Names.rename_self (hs : t.Names source p n) (ht : t.Names target q m)
    (heq : p ++ [n] = q ++ [m]) {content : Bytes}
    (hfile : t.at? (p ++ [n]) = some (.file content)) : t.rename source target = .ok t := by
  unfold Tree.rename
  rw [hs.locate, ht.locate]
  simp only [Except.bind, hs.step, ht.step, hs.plain, ht.plain, Bool.or_self]
  unfold move
  rw [hfile]
  simp only [heq, if_true, Bool.false_eq_true, if_false]

/-- The path of a file that can be read ends with a name. -/
theorem names_of_read {content : Bytes} (h : t.read path = .ok content) :
    ∃ p n, t.Names path p n ∧ t.at? (p ++ [n]) = some (.file content) := by
  unfold Tree.read Tree.node at h
  cases hresolve : t.resolve path with
  | error e => simp [hresolve, Except.bind] at h
  | ok place =>
    simp only [hresolve, Except.bind] at h
    cases hat : t.at? place with
    | none => simp [hat] at h
    | some node =>
      cases node with
      | directory => simp [hat] at h
      | file c =>
        cases hplain : path.endsWithSlash with
        | true => simp [hat, hplain] at h
        | false =>
          obtain rfl : c = content := by simpa [hat, hplain] using h
          obtain ⟨p, n, hnames, rfl⟩ := names_of_resolve hresolve (by simp [hat]) hplain
          exact ⟨p, n, hnames, hat⟩

/-- The path of a file that can be written ends with a name, where no directory is. -/
theorem names_of_write {content : Bytes} (h : t.write path content = .ok t') :
    ∃ p n, t.Names path p n ∧ t.at? (p ++ [n]) ≠ some .directory := by
  unfold Tree.write at h
  cases hlocate : t.locate path with
  | error e => simp [hlocate, Except.bind] at h
  | ok found =>
    obtain ⟨parent, last⟩ := found
    cases hplain : path.endsWithSlash with
    | true => simp [hlocate, hplain, Except.bind] at h
    | false =>
      cases hstep : Tree.step parent last with
      | error e => simp [hlocate, hplain, hstep, Except.bind] at h
      | ok place =>
        have hresolve : t.resolve path = .ok place := by
          rw [resolve, hlocate]
          exact hstep
        have hnot : t.at? place ≠ some .directory := by
          intro hat
          simp [hlocate, hplain, hstep, Except.bind, hat] at h
        obtain ⟨p, n, hnames, rfl⟩ := names_of_resolve hresolve hnot hplain
        exact ⟨p, n, hnames, hnot⟩

/-- A file can be written where no directory is. -/
theorem Names.write_of_not (h : t.Names path p n) (hnot : t.at? (p ++ [n]) ≠ some .directory)
    (content : Bytes) : t.write path content = .ok (t.put (p ++ [n]) (.file content)) := by
  rw [h.write]
  split
  · next hat => exact absurd hat hnot
  · rfl

/-- A file that can be read is replaced by any content if the swap file can be written, and that can
be written again. -/
theorem exists_replaced {old sample : Bytes} (hread : t.read path = .ok old)
    (hwrite : t.write swap sample = .ok t') (content : Bytes) :
    ∃ replaced, t.replace path swap content = (.ok (), replaced) ∧
      replaced.read path = .ok content ∧
      ∀ next, ∃ written, replaced.write swap next = .ok written := by
  obtain ⟨q, m, hpath, hold⟩ := names_of_read hread
  obtain ⟨p, n, hswap, hnot⟩ := names_of_write hwrite
  have hkeep : ∀ r, t.IsOpen r → (t.put (p ++ [n]) (.file content)).IsOpen r :=
    fun _ => isOpen_put (concat_ne_nil p n) hnot content
  have hswap' := hswap.of_isOpen hkeep
  have hpath' := hpath.of_isOpen hkeep
  have hfile := at?_put_self t (concat_ne_nil p n) (.file content)
  have hstore : t.storeAt swap content = .ok (t.put (p ++ [n]) (.file content)) := by
    unfold storeAt
    rw [hswap.write_of_not hnot]
  have hdone : ∀ {renamed : Tree},
      (t.put (p ++ [n]) (.file content)).rename swap path = .ok renamed →
        t.replace path swap content = (.ok (), renamed) := by
    intro renamed hrename
    unfold Tree.replace
    simp only [hstore, hrename]
  by_cases hsame : p ++ [n] = q ++ [m]
  · refine ⟨_, hdone (hswap'.rename_self hpath' hsame hfile), ?_, fun next => ?_⟩
    · rw [hpath'.read, ← hsame, hfile]
    · exact ⟨_, hswap'.write_of_not (by simp [hfile]) next⟩
  · have hold' : (t.put (p ++ [n]) (.file content)).at? (q ++ [m]) = some (.file old) := by
      rw [at?_put_of_ne t (Ne.symm hsame), hold]
    have hprefix := hpath'.not_prefix hsame (by simp [hfile])
    have hdropped : ((t.put (p ++ [n]) (.file content)).drop (p ++ [n])).at? (q ++ [m]) ≠
        some .directory := by
      rw [at?_drop_of_not_above _ hprefix, hold']
      simp
    have hkeep' : ∀ r, (t.put (p ++ [n]) (.file content)).IsOpen r →
        (((t.put (p ++ [n]) (.file content)).drop (p ++ [n])).put (q ++ [m])
          (.file content)).IsOpen r := by
      intro r hr
      exact isOpen_put (concat_ne_nil q m) hdropped content (isOpen_drop (by simp [hfile]) hr)
    refine ⟨_, hdone (hswap'.rename hpath' hsame hfile (by simp [hold'])), ?_, fun next => ?_⟩
    · rw [(hpath'.of_isOpen hkeep').read, at?_put_self _ (concat_ne_nil q m)]
    · refine ⟨_, (hswap'.of_isOpen hkeep').write_of_not ?_ next⟩
      rw [at?_put_of_ne _ hsame, at?_drop_self _ (concat_ne_nil p n)]
      simp

end

section

variable {directory : Path} {place : Place} {n m : Text}

/-- A name is in a directory in every tree where the same directories are open. -/
theorem In.of_isOpen (hkeep : ∀ p, t.IsOpen p → t'.IsOpen p) (h : t.In directory place n) :
    t'.In directory place n :=
  ⟨h.fits, (follow_of_isOpen hkeep t.isOpen_nil h.follow).2, h.name, h.short⟩

/-- A name is in its directory after a file has been put there. -/
theorem In.put (h : t.In directory place n) (hnot : t.at? (place ++ [m]) ≠ some .directory)
    (content : Bytes) : (t.put (place ++ [m]) (.file content)).In directory place n :=
  h.of_isOpen fun _ => isOpen_put (concat_ne_nil place m) hnot content

/-- A file goes to another name of its directory, where no directory is. -/
theorem In.rename (hn : t.In directory place n) (hm : t.In directory place m) (hne : n ≠ m)
    {content : Bytes} (hfile : t.at? (place ++ [n]) = some (.file content))
    (hnot : t.at? (place ++ [m]) ≠ some .directory) :
    t.rename (within directory n) (within directory m) =
      .ok ((t.drop (place ++ [n])).put (place ++ [m]) (.file content)) :=
  hn.names.rename hm.names (by simpa using hne) hfile hnot

/-- The tree after the file of one name has been replaced by way of another name. -/
def replaced (t : Tree) (place : Place) (n m : Text) (content : Bytes) : Tree :=
  ((t.put (place ++ [n]) (.file content)).drop (place ++ [n])).put (place ++ [m]) (.file content)

/-- A file is replaced where both names can be written. -/
theorem In.replace (hn : t.In directory place n) (hm : t.In directory place m) (hne : n ≠ m)
    (hnNot : t.at? (place ++ [n]) ≠ some .directory)
    (hmNot : t.at? (place ++ [m]) ≠ some .directory) (content : Bytes) :
    t.replace (within directory m) (within directory n) content =
      (.ok (), t.replaced place n m content) := by
  have hplaces : place ++ [m] ≠ place ++ [n] := by simpa using hne.symm
  have hwrite : t.storeAt (within directory n) content =
      .ok (t.put (place ++ [n]) (.file content)) := by
    unfold storeAt
    rw [hn.names.write_of_not hnNot]
  have hrename := (hn.put hnNot content).rename (hm.put hnNot content) hne
    (at?_put_self t (concat_ne_nil place n) (.file content))
    (by rw [at?_put_of_ne t hplaces]; exact hmNot)
  unfold Tree.replace
  rw [hwrite]
  simp only [hrename]
  rfl

section Replaced

variable {k : Text}

/-- A file that has been replaced has the new content. -/
theorem at?_replaced_self (t : Tree) (place : Place) (n m : Text) (content : Bytes) :
    (t.replaced place n m content).at? (place ++ [m]) = some (.file content) :=
  at?_put_self _ (concat_ne_nil place m) _

/-- Nothing is left under the other name by way of which a file has been replaced. -/
theorem at?_replaced_swap (t : Tree) (place : Place) (hne : n ≠ m) (content : Bytes) :
    (t.replaced place n m content).at? (place ++ [n]) = none := by
  have hplaces : place ++ [n] ≠ place ++ [m] := by simpa using hne
  unfold replaced
  rw [at?_put_of_ne _ hplaces]
  exact at?_drop_self _ (concat_ne_nil place n)

/-- Replacing a file leaves what has other names. -/
theorem at?_replaced_of_ne (t : Tree) (place : Place) (hn : k ≠ n) (hm : k ≠ m)
    (content : Bytes) : (t.replaced place n m content).at? (place ++ [k]) = t.at? (place ++ [k]) := by
  have hplaces : place ++ [k] ≠ place ++ [n] := by simpa using hn
  have hplaces' : place ++ [k] ≠ place ++ [m] := by simpa using hm
  have hprefix : ¬ place ++ [n] <+: place ++ [k] := by simpa using hn.symm
  unfold replaced
  rw [at?_put_of_ne _ hplaces', at?_drop_of_not_above _ hprefix, at?_put_of_ne _ hplaces]

/-- Replacing a file leaves the names in their directory. -/
theorem In.replaced (h : t.In directory place k) (hne : n ≠ m)
    (hnNot : t.at? (place ++ [n]) ≠ some .directory)
    (hmNot : t.at? (place ++ [m]) ≠ some .directory) (content : Bytes) :
    (t.replaced place n m content).In directory place k := by
  have hplaces : place ++ [m] ≠ place ++ [n] := by simpa using hne.symm
  have hprefix : ¬ place ++ [n] <+: place ++ [m] := by simpa using hne
  have hfile : (t.put (place ++ [n]) (.file content)).at? (place ++ [n]) ≠ some .directory := by
    rw [at?_put_self t (concat_ne_nil place n)]
    simp
  have htarget : ((t.put (place ++ [n]) (.file content)).drop (place ++ [n])).at? (place ++ [m]) ≠
      some .directory := by
    rw [at?_drop_of_not_above _ hprefix, at?_put_of_ne t hplaces]
    exact hmNot
  apply h.of_isOpen
  intro p hp
  have hput := isOpen_put (concat_ne_nil place n) hnNot content hp
  exact isOpen_put (concat_ne_nil place m) htarget content (isOpen_drop hfile hput)

end Replaced

end

end Tree

end SiteGate
