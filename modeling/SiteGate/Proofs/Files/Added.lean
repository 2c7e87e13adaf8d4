import SiteGate.Proofs.Files.Below
import SiteGate.Proofs.Files.Extends

/-!
# What is new in a tree

Making directories puts directories only, and only where the path leads through, so what is new
afterwards is on the way of the path (`makeDirectories_new`). If it succeeds the path leads to a
directory (`node_of_makeDirectories`). Writing a file that is missing puts that file at the place
the path leads to, and nothing else (`write_new`).
-/

set_option autoImplicit false

namespace SiteGate.Tree

open SiteGate.Path (Component)

variable {t t' : Tree} {path : Path} {here p q : Place} {node : Node} {components : List Component}

/-! ## On the way of a path -/

/-- The path, or a beginning of it, leads to a place. -/
def LeadsThrough (t : Tree) (path : Path) (p : Place) : Prop :=
  ∃ front, front <+: path.components ∧ t.follow [] front = .ok p

/-- A path leads through a place in every extension. -/
theorem Extends.leadsThrough (h : t.Extends t') (hthrough : t.LeadsThrough path p) :
    t'.LeadsThrough path p := by
  obtain ⟨front, hfront, hfollow⟩ := hthrough
  exact ⟨front, hfront, (follow_of_isOpen (fun _ => h.isOpen) t.isOpen_nil hfollow).2⟩

/-- Following one component is a step. -/
theorem step_of_follow {c : Component} (h : t.follow p [c] = .ok q) : step p c = .ok q := by
  cases c with
  | up => exact h
  | here => exact h
  | name n =>
    unfold follow at h
    by_cases hlong : byteLength n > 255
    · simp [hlong] at h
    · rw [if_neg hlong] at h
      rw [step, if_neg hlong]
      split at h
      · exact h
      · cases h
      · cases h

/-- A path whose components can all be followed leads where they lead. -/
theorem resolve_of_follow (hne : path ≠ []) (hfits : Fits path)
    (h : t.follow [] path.components = .ok p) : t.resolve path = .ok p := by
  obtain hnil | ⟨front, last, hlast⟩ := path.components.eq_nil_or_concat'
  · have hlocate : t.locate path = .ok ([], .here) :=
      locate_eq_ok_iff.mpr ⟨hne, hfits, by simp [hnil, follow], by simp [hnil]⟩
    rw [hnil] at h
    rw [resolve, hlocate]
    exact h
  · rw [hlast, follow_append] at h
    cases hfront : t.follow [] front with
    | error e => simp [hfront, Except.bind] at h
    | ok parent =>
      have hlocate : t.locate path = .ok (parent, last) :=
        locate_eq_ok_iff.mpr ⟨hne, hfits, by simp [hlast, hfront], by simp [hlast]⟩
      rw [hfront] at h
      rw [resolve, hlocate]
      exact step_of_follow h

/-- A path whose components can be followed leads to a directory. -/
theorem node_of_follow (hne : path ≠ []) (hfits : Fits path)
    (h : t.follow [] path.components = .ok p) : t.node path = .ok .directory := by
  have hopen : t.IsOpen p := (follow_of_isOpen (fun _ => id) t.isOpen_nil h).1
  rw [Tree.node, resolve_of_follow hne hfits h]
  simp only [Except.bind, hopen.at?]

/-! ## Making directories -/

/-- What is new where components have been filled is a directory that they lead through. -/
theorem fill_new (hmissing : t.at? p = none) (hat : (t.fill here components).2.at? p = some node) :
    node = .directory ∧
      ∃ front, front <+: components ∧ (t.fill here components).2.follow here front = .ok p := by
  induction components generalizing t here with
  | nil =>
    rw [fill, hmissing] at hat
    cases hat
  | cons c rest ih =>
    -- a beginning of the rest is one of the whole with the first component before it
    have hfront : ∀ {front}, front <+: rest → c :: front <+: c :: rest :=
      fun h => (List.prefix_cons_inj c).mpr h
    cases c with
    | up =>
      obtain ⟨hnode, front, hprefix, hfollow⟩ := ih hmissing hat
      exact ⟨hnode, .up :: front, hfront hprefix, hfollow⟩
    | here =>
      obtain ⟨hnode, front, hprefix, hfollow⟩ := ih hmissing hat
      exact ⟨hnode, .here :: front, hfront hprefix, hfollow⟩
    | name n =>
      obtain ⟨e, hfill⟩ | ⟨t', hshort, hthere, -, hother, hfill⟩ := t.fill_name_cases here n rest
      · rw [hfill, hmissing] at hat
        cases hat
      rw [hfill] at hat ⊢
      have hkept := t'.extends_fill (here ++ [n]) rest hthere
      by_cases hp : p = here ++ [n]
      · subst hp
        rw [hkept] at hat
        refine ⟨(Option.some.inj hat).symm, [.name n], hfront List.nil_prefix, ?_⟩
        rw [follow_name hshort hkept, follow]
      · obtain ⟨hnode, front, hprefix, hfollow⟩ := ih ((hother p hp).trans hmissing) hat
        refine ⟨hnode, .name n :: front, hfront hprefix, ?_⟩
        rw [follow_name hshort hkept, hfollow]

/-- Components that have all been filled can be followed. -/
theorem follow_of_fill (hdone : (t.fill here components).1 = .ok ()) :
    ∃ p, (t.fill here components).2.follow here components = .ok p := by
  induction components generalizing t here with
  | nil => exact ⟨here, rfl⟩
  | cons c rest ih =>
    cases c with
    | up => exact ih hdone
    | here => exact ih hdone
    | name n =>
      obtain ⟨e, hfill⟩ | ⟨t', hshort, hthere, -, -, hfill⟩ := t.fill_name_cases here n rest
      · rw [hfill] at hdone
        cases hdone
      rw [hfill] at hdone ⊢
      rw [follow_name hshort (t'.extends_fill _ rest hthere)]
      exact ih hdone

/-- What is new after directories have been made is a directory on the way of their path. -/
theorem makeDirectories_new (hmissing : t.at? p = none)
    (hat : (t.makeDirectories path).2.at? p = some node) :
    node = .directory ∧ (t.makeDirectories path).2.LeadsThrough path p := by
  unfold makeDirectories at hat ⊢
  cases hlookUp : lookUp path with
  | error e =>
    rw [hlookUp, hmissing] at hat
    cases hat
  | ok components =>
    obtain rfl := eq_components_of_lookUp hlookUp
    rw [hlookUp] at hat
    exact fill_new hmissing hat

/-- A path whose directories have been made leads to a directory. -/
theorem node_of_makeDirectories (hne : path ≠ []) (hdone : (t.makeDirectories path).1 = .ok ()) :
    (t.makeDirectories path).2.node path = .ok .directory := by
  unfold makeDirectories at hdone ⊢
  cases hlookUp : lookUp path with
  | error e =>
    rw [hlookUp] at hdone
    cases hdone
  | ok components =>
    obtain rfl := eq_components_of_lookUp hlookUp
    rw [hlookUp] at hdone
    obtain ⟨p, hfollow⟩ := follow_of_fill hdone
    exact node_of_follow hne (fits_of_lookUp hlookUp) hfollow

/-! ## Writing a file that is missing -/

/-- What is new after a file has been written is that file. -/
theorem write_new {content : Bytes} (h : t.write path content = .ok t')
    (hmissing : t.at? p = none) (hat : t'.at? p = some node) :
    node = .file content ∧ t'.resolve path = .ok p := by
  obtain ⟨parent, n, hnames, hnot⟩ := names_of_write h
  rw [hnames.write_of_not hnot] at h
  obtain rfl := Except.ok.inj h
  by_cases hp : p = parent ++ [n]
  · subst hp
    have hnames' := hnames.of_isOpen fun _ => isOpen_put (concat_ne_nil parent n) hnot content
    rw [at?_put_self t (concat_ne_nil parent n)] at hat
    exact ⟨(Option.some.inj hat).symm, hnames'.resolve⟩
  · rw [at?_put_of_ne t hp, hmissing] at hat
    cases hat

end SiteGate.Tree
