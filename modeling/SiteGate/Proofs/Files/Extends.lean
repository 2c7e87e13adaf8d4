import SiteGate.Proofs.Files.Directory

/-!
# Trees that hold more

One tree extends another one if everything that lies somewhere there lies at the same place here.
Paths that lead to something still lead to it (`Extends.node`), so what has been read can be read
again. Making directories and writing a file that is missing both extend the tree, and making
directories that have been made changes nothing, in the tree that has been left and in every tree
that extends it (`makeDirectories_again`).
-/

set_option autoImplicit false

namespace SiteGate.Tree

open SiteGate.Path (Component)

variable {t t' t'' : Tree} {path : Path}

/-- Everything that lies somewhere in one tree lies at the same place in the other. -/
def Extends (t t' : Tree) : Prop := ∀ ⦃p : Place⦄ ⦃n : Node⦄, t.at? p = some n → t'.at? p = some n

namespace Extends

/-- A tree extends itself. -/
theorem refl (t : Tree) : t.Extends t := fun _ _ h => h

/-- What extends an extension of a tree extends the tree. -/
theorem trans (h : t.Extends t') (h' : t'.Extends t'') : t.Extends t'' :=
  fun _ _ hat => h' (h hat)

/-- Something is put where there was nothing. -/
theorem put {p : Place} (hmissing : t.at? p = none) (n : Node) : t.Extends (t.put p n) := by
  intro q m hat
  have hne : q ≠ p := by
    rintro rfl
    rw [hmissing] at hat
    cases hat
  rw [at?_put_of_ne t hne, hat]

/-- An open place is open in every extension. -/
theorem isOpen (h : t.Extends t') {p : Place} (hopen : t.IsOpen p) : t'.IsOpen p :=
  fun q hq => h (hopen q hq)

/-- A path leads to the place that it has led to. -/
theorem resolve (h : t.Extends t') {p : Place} (hresolve : t.resolve path = .ok p) :
    t'.resolve path = .ok p := by
  unfold Tree.resolve at hresolve ⊢
  cases hlocate : t.locate path with
  | error e => simp [hlocate, Except.bind] at hresolve
  | ok found =>
    rw [locate_of_isOpen (fun _ => h.isOpen) hlocate, ← hlocate]
    exact hresolve

/-- A path leads to what it has led to. -/
theorem node (h : t.Extends t') {n : Node} (hnode : t.node path = .ok n) :
    t'.node path = .ok n := by
  unfold Tree.node at hnode ⊢
  cases hresolve : t.resolve path with
  | error e => simp [hresolve, Except.bind] at hnode
  | ok place =>
    rw [h.resolve hresolve]
    simp only [hresolve, Except.bind] at hnode ⊢
    cases hat : t.at? place with
    | none => simp [hat] at hnode
    | some m => simpa only [h hat, hat] using hnode

/-- A file that is there is there in every extension. -/
theorem holds (h : t.Extends t') (hheld : t.holds path = true) : t'.holds path = true := by
  unfold Tree.holds at hheld ⊢
  cases hnode : t.node path with
  | error e => simp [hnode, Except.isOk, Except.toBool] at hheld
  | ok n => simp [h.node hnode, Except.isOk, Except.toBool]

/-- A file that can be read has the same content. -/
theorem contentAt (h : t.Extends t') {content : Bytes} (hread : t.contentAt path = .ok content) :
    t'.contentAt path = .ok content := by
  unfold Tree.contentAt Tree.read at hread ⊢
  cases hnode : t.node path with
  | error e => simp [hnode, Except.bind] at hread
  | ok n => simpa [h.node hnode, hnode] using hread

end Extends

/-- Where a file can be read there is one. -/
theorem holds_of_contentAt {content : Bytes} (h : t.contentAt path = .ok content) :
    t.holds path = true := by
  unfold contentAt Tree.read at h
  cases hnode : t.node path with
  | error e => simp [hnode, Except.bind] at h
  | ok n => simp [holds, hnode, Except.isOk, Except.toBool]

/-- A file that is missing is written where there was nothing, and is there afterwards. -/
theorem extends_write {content : Bytes} (hmissing : t.holds path = false)
    (h : t.write path content = .ok t') : t.Extends t' ∧ t'.holds path = true := by
  obtain ⟨p, n, hnames, hnot⟩ := names_of_write h
  rw [hnames.write_of_not hnot] at h
  obtain rfl := Except.ok.inj h
  have hnone : t.at? (p ++ [n]) = none := by
    cases hat : t.at? (p ++ [n]) with
    | none => rfl
    | some m => simp [holds, hnames.node, hat, Except.isOk, Except.toBool] at hmissing
  have hextends := Extends.put hnone (.file content)
  refine ⟨hextends, ?_⟩
  have hnode := (hnames.of_isOpen fun _ => hextends.isOpen).node
  rw [at?_put_self t (concat_ne_nil p n)] at hnode
  simp [holds, hnode, Except.isOk, Except.toBool]

/-! ## Making directories -/

/-- A name is followed to the directory that has it. -/
theorem follow_name {here : Place} {n : Text} (hshort : ¬ byteLength n > 255)
    (hat : t.at? (here ++ [n]) = some .directory) (rest : List Component) :
    t.follow here (.name n :: rest) = t.follow (here ++ [n]) rest := by
  rw [follow, if_neg hshort, hat]

/-- Nothing has to be made for a name of a directory that is there. -/
theorem fill_name {here : Place} {n : Text} (hshort : ¬ byteLength n > 255)
    (hat : t.at? (here ++ [n]) = some .directory) (rest : List Component) :
    t.fill here (.name n :: rest) = t.fill (here ++ [n]) rest := by
  rw [fill, if_neg hshort]
  simp only [hat]

/-- A name stops the making of directories, or leads on from the directory that has it, which is all
that has been made for it. -/
theorem fill_name_cases (t : Tree) (here : Place) (n : Text) (rest : List Component) :
    (∃ e, t.fill here (.name n :: rest) = (.error e, t)) ∨
    ∃ t' : Tree, ¬ byteLength n > 255 ∧ t'.at? (here ++ [n]) = some .directory ∧ t.Extends t' ∧
      (∀ p, p ≠ here ++ [n] → t'.at? p = t.at? p) ∧
      t.fill here (.name n :: rest) = t'.fill (here ++ [n]) rest := by
  by_cases hlong : byteLength n > 255
  · exact .inl ⟨.nameTooLong, by rw [fill, if_pos hlong]⟩
  cases hat : t.at? (here ++ [n]) with
  | none =>
    have hput := at?_put_self t (concat_ne_nil here n) .directory
    refine .inr ⟨t.put (here ++ [n]) .directory, hlong, hput, .put hat .directory,
      fun p hp => at?_put_of_ne t hp .directory, ?_⟩
    rw [fill, if_neg hlong]
    simp only [hat]
  | some found =>
    cases found with
    | directory => exact .inr ⟨t, hlong, hat, .refl t, fun _ _ => rfl, fill_name hlong hat rest⟩
    | file content =>
      refine .inl ⟨if rest.isEmpty then .alreadyExists else .notADirectory, ?_⟩
      rw [fill, if_neg hlong]
      simp only [hat]

/-- Making what is missing on the way to a place extends a tree. -/
theorem extends_fill (t : Tree) (here : Place) (components : List Component) :
    t.Extends (t.fill here components).2 := by
  induction components generalizing t here with
  | nil => exact .refl t
  | cons c rest ih =>
    cases c with
    | up => exact ih t here.dropLast
    | here => exact ih t here
    | name n =>
      obtain ⟨e, hfill⟩ | ⟨t', -, -, hextends, -, hfill⟩ := t.fill_name_cases here n rest
      · rw [hfill]
        exact .refl t
      · rw [hfill]
        exact hextends.trans (ih t' (here ++ [n]))

/-- The directories that have been made are there, and nothing is made a second time. -/
theorem fill_again {here : Place} {components : List Component}
    (hdone : (t.fill here components).1 = .ok ())
    (h : (t.fill here components).2.Extends t') : t'.fill here components = (.ok (), t') := by
  induction components generalizing t here with
  | nil => rfl
  | cons c rest ih =>
    cases c with
    | up => exact ih hdone h
    | here => exact ih hdone h
    | name n =>
      obtain ⟨e, hfill⟩ | ⟨made, hshort, hat, -, -, hfill⟩ := t.fill_name_cases here n rest
      · rw [hfill] at hdone
        cases hdone
      rw [hfill] at hdone h
      -- the directory that has been made for the name has stayed
      rw [fill_name hshort (h (extends_fill made _ rest hat))]
      exact ih hdone h

/-- Making a directory, with what is missing on the way to it, extends a tree. -/
theorem extends_makeDirectories (t : Tree) (path : Path) :
    t.Extends (t.makeDirectories path).2 := by
  unfold makeDirectories
  cases lookUp path with
  | error e => exact .refl t
  | ok components => exact t.extends_fill [] components

/-- A directory that has been made need not be made again. -/
theorem makeDirectories_again (hdone : (t.makeDirectories path).1 = .ok ())
    (h : (t.makeDirectories path).2.Extends t') : t'.makeDirectories path = (.ok (), t') := by
  unfold makeDirectories at hdone h ⊢
  cases hlookUp : lookUp path with
  | error e => simp [hlookUp] at hdone
  | ok components =>
    simp only [hlookUp] at hdone h
    exact fill_again hdone h

end SiteGate.Tree
