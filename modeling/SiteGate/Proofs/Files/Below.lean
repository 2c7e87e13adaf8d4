import SiteGate.Proofs.Files.Directory

/-!
# Files below a directory

Names lead from a directory to a file below it. The place of such a file is the place of the
directory with the names behind it (`exists_of_resolve_below`), so different names lead to different
places. Where a file is, another content of it changes no path's place, and changes what lies there
for the paths to that place only (`resolve_put_file`, `node_put_file`).
-/

set_option autoImplicit false

namespace SiteGate

namespace Path

/-- The path to what names lead to from a directory. -/
def below (directory : Path) (names : List Text) : Path := names.foldl join directory

/-- Joining a name to a path adds the name to its components. -/
theorem components_join (base : Path) {n : Text} (hn : IsName n) :
    (join base n).components = base.components ++ [.name n] := by
  by_cases hempty : base = []
  · subst hempty
    have hpieces : pieces (join [] n) = [n] := splitOn_of_not_mem hn.slash
    rw [components, hpieces, List.filterMap_cons_some (component?_name hn)]
    rfl
  -- a slash at the end of the base makes an empty piece, which is no component
  by_cases hslash : base.getLast? = some '/'
  · obtain ⟨stem, rfl⟩ := List.getLast?_eq_some_iff.mp hslash
    have hstem : components (stem ++ ['/']) = components stem := by
      have hpieces : pieces (stem ++ ['/']) = pieces stem ++ [[]] :=
        List.splitOnP_append_cons stem [] (by simp)
      rw [components, hpieces, List.filterMap_append]
      simp [component?, components]
    have hjoin : join (stem ++ ['/']) n = within stem n := by
      simp [join, within]
    rw [hjoin, hstem, components_within stem hn]
  · have hjoin : join base n = within base n := by
      simp [join, within, hempty, hslash]
    rw [hjoin, components_within base hn]

/-- Joining names to a path adds them to its components. -/
theorem components_below (directory : Path) {names : List Text} (hnames : ∀ n ∈ names, IsName n) :
    (below directory names).components = directory.components ++ names.map .name := by
  induction names generalizing directory with
  | nil => simp [below]
  | cons n rest ih =>
    have hrest := ih (join directory n) fun m hm => hnames m (List.mem_cons_of_mem _ hm)
    rw [components_join directory (hnames n (List.mem_cons_self ..))] at hrest
    simpa [below] using hrest

end Path

namespace Tree

open SiteGate.Path (Component IsName below)

variable {t : Tree}

/-! ## Where names lead -/

/-- Components may be followed in two parts. -/
theorem follow_append (t : Tree) (here : Place) (before after : List Component) :
    t.follow here (before ++ after) = (t.follow here before).bind fun p => t.follow p after := by
  induction before generalizing here with
  | nil => rfl
  | cons c rest ih =>
    cases c with
    | up => exact ih here.dropLast
    | here => exact ih here
    | name n =>
      simp only [List.cons_append, follow]
      by_cases hlong : byteLength n > 255
      · simp [hlong, Except.bind]
      · rw [if_neg hlong, if_neg hlong]
        cases t.at? (here ++ [n]) with
        | none => rfl
        | some node =>
          cases node with
          | file content => rfl
          | directory => exact ih (here ++ [n])

/-- Names lead to the place that they spell. -/
theorem eq_of_follow_names {names : List Text} {p q : Place}
    (h : t.follow p (names.map .name) = .ok q) : q = p ++ names := by
  induction names generalizing p with
  | nil =>
    obtain rfl := Except.ok.inj h
    exact (List.append_nil p).symm
  | cons n rest ih =>
    rw [List.map_cons, follow] at h
    by_cases hlong : byteLength n > 255
    · simp [hlong] at h
    · rw [if_neg hlong] at h
      cases hnode : t.at? (p ++ [n]) with
      | none => simp [hnode] at h
      | some node =>
        cases node with
        | file content => simp [hnode] at h
        | directory =>
          simp only [hnode] at h
          rw [ih h, List.append_assoc, List.singleton_append]

/-- What names lead to has its place below the place of the directory. -/
theorem exists_of_resolve_below {directory : Path} {names : List Text} {place : Place}
    (hne : names ≠ []) (hnames : ∀ n ∈ names, IsName n)
    (h : t.resolve (below directory names) = .ok place) :
    ∃ base, t.follow [] directory.components = .ok base ∧ place = base ++ names := by
  obtain ⟨init, n, rfl⟩ := (List.eq_nil_or_concat' names).resolve_left hne
  unfold resolve at h
  cases hlocate : t.locate (below directory (init ++ [n])) with
  | error e => simp [hlocate, Except.bind] at h
  | ok found =>
    obtain ⟨-, -, hfollow, hlast⟩ := locate_eq_ok_iff.mp hlocate
    rw [Path.components_below directory hnames, List.map_append, List.map_singleton,
      ← List.append_assoc] at hfollow hlast
    rw [List.dropLast_concat, follow_append] at hfollow
    rw [List.getLast?_concat, Option.getD_some] at hlast
    simp only [hlocate, Except.bind, ← hlast] at h
    cases hbase : t.follow [] directory.components with
    | error e => simp [hbase, Except.bind] at hfollow
    | ok base =>
      simp only [hbase, Except.bind] at hfollow
      refine ⟨base, rfl, ?_⟩
      by_cases hlong : byteLength n > 255
      · simp [step, hlong] at h
      · rw [step, if_neg hlong] at h
        rw [← Except.ok.inj h, eq_of_follow_names hfollow, List.append_assoc]

/-- Different names lead to different places. -/
theorem names_eq_of_resolve {directory : Path} {names names' : List Text} {place : Place}
    (hne : names ≠ []) (hnames : ∀ n ∈ names, IsName n) (hne' : names' ≠ [])
    (hnames' : ∀ n ∈ names', IsName n)
    (h : t.resolve (below directory names) = .ok place)
    (h' : t.resolve (below directory names') = .ok place) : names' = names := by
  obtain ⟨base, hbase, rfl⟩ := exists_of_resolve_below hne hnames h
  obtain ⟨base', hbase', hplace⟩ := exists_of_resolve_below hne' hnames' h'
  obtain rfl : base = base' := Except.ok.inj (hbase.symm.trans hbase')
  exact (List.append_cancel_left hplace).symm

/-! ## Another content of a file -/

section

variable {place : Place} {content : Bytes} {path : Path}

/-- A file is not at the top of a tree. -/
theorem ne_nil_of_file (hfile : t.at? place = some (.file content)) : place ≠ [] := by
  rintro rfl
  simp [Tree.at?] at hfile

/-- Components lead to the same places whatever a file holds. -/
theorem follow_put_file (hfile : t.at? place = some (.file content)) (other : Bytes) (here : Place)
    (components : List Component) :
    (t.put place (.file other)).follow here components = t.follow here components := by
  induction components generalizing here with
  | nil => rfl
  | cons c rest ih =>
    cases c with
    | up => exact ih here.dropLast
    | here => exact ih here
    | name n =>
      simp only [follow]
      by_cases hplace : here ++ [n] = place
      · rw [hplace, at?_put_self t (ne_nil_of_file hfile), hfile]
      · rw [at?_put_of_ne t hplace]
        simp only [ih]

/-- Paths lead to the same places whatever a file holds. -/
theorem resolve_put_file (hfile : t.at? place = some (.file content)) (other : Bytes)
    (path : Path) : (t.put place (.file other)).resolve path = t.resolve path := by
  have hlocate : (t.put place (.file other)).locate path = t.locate path := by
    unfold locate
    simp only [follow_put_file hfile]
  rw [resolve, hlocate, resolve]

/-- A path to another place leads to what it has led to. -/
theorem node_put_file (hfile : t.at? place = some (.file content)) (other : Bytes)
    (hother : t.resolve path ≠ .ok place) :
    (t.put place (.file other)).node path = t.node path := by
  unfold node
  rw [resolve_put_file hfile]
  cases hresolve : t.resolve path with
  | error e => rfl
  | ok found =>
    have hne : found ≠ place := by
      rintro rfl
      exact hother hresolve
    simp only [Except.bind, at?_put_of_ne t hne]

/-- The directories are the same whatever a file holds. -/
theorem isDirectory_put_file (hfile : t.at? place = some (.file content)) (other : Bytes)
    (path : Path) :
    (t.put place (.file other)).node path = .ok .directory ↔ t.node path = .ok .directory := by
  by_cases hplace : t.resolve path = .ok place
  · have hnot : ∀ {s : Tree} {c : Bytes}, s.resolve path = .ok place →
        s.at? place = some (.file c) → s.node path ≠ .ok .directory := by
      intro s c hresolve hat
      rw [node, hresolve]
      simp only [Except.bind, hat]
      split <;> simp
    refine iff_of_false (hnot ?_ (at?_put_self t (ne_nil_of_file hfile) _)) (hnot hplace hfile)
    rw [resolve_put_file hfile, hplace]
  · rw [node_put_file hfile other hplace]

/-- The path of a file leads to a place where the file is. -/
theorem exists_of_node_file (h : t.node path = .ok (.file content)) :
    ∃ place, t.resolve path = .ok place ∧ t.at? place = some (.file content) := by
  unfold node at h
  cases hresolve : t.resolve path with
  | error e => simp [hresolve, Except.bind] at h
  | ok place =>
    refine ⟨place, rfl, ?_⟩
    simp only [hresolve, Except.bind] at h
    cases hat : t.at? place with
    | none => simp [hat] at h
    | some found =>
      cases found with
      | directory => simp [hat] at h
      | file c =>
        simp only [hat] at h
        split at h
        · cases h
        · rw [Node.file.inj (Except.ok.inj h)]

end

end Tree

end SiteGate
