import SiteGate.Proofs.Config.Layout
import SiteGate.Proofs.Config.Setup
import SiteGate.Proofs.Files.Added

/-!
# What setting up adds

Whatever lies somewhere before a site is set up lies there afterwards, whether setting up succeeds
or not, and what is new is one of the layout's own (`Layout.adds_setUp`): a directory on the way to
one of its directories, or one of its two files with the text that it begins with. If setting up
succeeds, all that the layout has to have is there (`Layout.furnished_setUp`).
-/

set_option autoImplicit false

namespace SiteGate.Config

variable {t t' t'' : Tree} {p : Place} {node : Node} {path : Path}

namespace Layout

variable {l : Layout}

/-- What a layout makes at a place: a directory on the way to one of its directories, or one of the
two files that it has to have, with the usual text. -/
inductive Makes (l : Layout) (t : Tree) (p : Place) : Node → Prop where
  | directory {d : Path} (hd : d ∈ l.directories) (h : t.LeadsThrough d p) : Makes l t p .directory
  | config (h : t.resolve l.configFile = .ok p) : Makes l t p (.file (Text.encode defaultConfig))
  | blocked (h : t.resolve l.blockedFile = .ok p) : Makes l t p (.file (Text.encode defaultBlocked))

/-- What a layout makes at a place it makes there in every tree with more in it. -/
theorem Makes.mono (hkeeps : t.Extends t') (h : l.Makes t p node) : l.Makes t' p node := by
  cases h with
  | directory hd h => exact .directory hd (hkeeps.leadsThrough h)
  | config h => exact .config (hkeeps.resolve h)
  | blocked h => exact .blocked (hkeeps.resolve h)

/-- A tree has become another one in which everything is where it was, and what is new is the
layout's. -/
structure Adds (l : Layout) (t t' : Tree) : Prop where
  keeps : t.Extends t'
  new : ∀ p node, t.at? p = none → t'.at? p = some node → l.Makes t' p node

/-- A tree in which nothing is new has nothing but what the layout adds. -/
theorem Adds.refl (l : Layout) (t : Tree) : l.Adds t t where
  keeps := .refl t
  new p node hmissing hat := by
    rw [hmissing] at hat
    cases hat

/-- What a layout adds in two steps it adds. -/
theorem Adds.trans (h : l.Adds t t') (h' : l.Adds t' t'') : l.Adds t t'' where
  keeps := h.keeps.trans h'.keeps
  new p node hmissing hat := by
    cases hbetween : t'.at? p with
    | none => exact h'.new p node hbetween hat
    | some m =>
      obtain rfl : m = node := Option.some.inj ((h'.keeps hbetween).symm.trans hat)
      exact (h.new p m hmissing hbetween).mono h'.keeps

/-! ## The steps of setting up -/

/-- Making a directory of a layout adds nothing but what is the layout's. -/
theorem adds_makeDirectories (t : Tree) {d : Path} (hd : d ∈ l.directories) :
    l.Adds t (t.makeDirectories d).2 where
  keeps := t.extends_makeDirectories d
  new p node hmissing hat := by
    obtain ⟨rfl, hthrough⟩ := Tree.makeDirectories_new hmissing hat
    exact .directory hd hthrough

/-- Making several directories of a layout adds nothing but what is the layout's. -/
theorem adds_makeAll (t : Tree) {directories : List Path}
    (hsub : ∀ d ∈ directories, d ∈ l.directories) : l.Adds t (makeAll t directories).2 := by
  induction directories generalizing t with
  | nil => exact .refl l t
  | cons d rest ih =>
    have hfirst := adds_makeDirectories t (hsub d (List.mem_cons_self ..))
    unfold makeAll
    rcases hmade : t.makeDirectories d with ⟨⟨e⟩ | ⟨⟨⟩⟩, made⟩
    · rwa [hmade] at hfirst
    · rw [hmade] at hfirst
      exact hfirst.trans (ih made fun d hd => hsub d (List.mem_cons_of_mem _ hd))

/-- Writing a file that is missing adds it, if it is one of the layout's. -/
theorem adds_writeMissing {content : Text} {wrote : Bool}
    (hown : ∀ p, t'.resolve path = .ok p → l.Makes t' p (.file (Text.encode content)))
    (h : writeMissing t path content = .ok (wrote, t')) : l.Adds t t' where
  keeps := (extends_writeMissing h).1
  new p node hmissing hat := by
    obtain ⟨-, rfl⟩ | ⟨-, hwrite⟩ := writeMissing_cases h
    · rw [hmissing] at hat
      cases hat
    · obtain ⟨rfl, hresolve⟩ := Tree.write_new hwrite hmissing hat
      exact hown p hresolve

/-- Setting up adds what is missing, as far as it comes. -/
theorem adds_setUp (l : Layout) (t : Tree) : l.Adds t (l.setUp t).files := by
  have hmakes := adds_makeAll (l := l) t fun _ hd => hd
  rcases hmade : makeAll t l.directories with ⟨⟨f⟩ | ⟨⟨⟩⟩, made⟩
  all_goals rw [hmade] at hmakes
  · simpa only [setUp, hmade] using hmakes
  rcases hconfig : writeMissing made l.configFile defaultConfig with f | ⟨wrote, withConfig⟩
  · simpa only [setUp, hmade, hconfig] using hmakes
  have hwrites := hmakes.trans (adds_writeMissing (fun _ => .config) hconfig)
  rcases hlist : writeMissing withConfig l.blockedFile defaultBlocked with f | ⟨wroteList, withList⟩
  · simpa only [setUp, hmade, hconfig, hlist] using hwrites
  simp only [setUp, hmade, hconfig, hlist]
  exact hwrites.trans (adds_writeMissing (fun _ => .blocked) hlist)

/-! ## What a layout has in the end -/

/-- Directories that have been made are there. -/
theorem node_of_makeAll {directories : List Path} (hne : ∀ d ∈ directories, d ≠ [])
    (hdone : (makeAll t directories).1 = .ok ()) :
    ∀ d ∈ directories, (makeAll t directories).2.node d = .ok .directory := by
  induction directories generalizing t with
  | nil => simp
  | cons d rest ih =>
    unfold makeAll at hdone ⊢
    rcases hmade : t.makeDirectories d with ⟨⟨e⟩ | ⟨⟨⟩⟩, made⟩
    · simp [hmade] at hdone
    simp only [hmade] at hdone ⊢
    intro d' hd'
    rcases List.mem_cons.mp hd' with rfl | hd'
    · have hnode := Tree.node_of_makeDirectories (hne d' (List.mem_cons_self ..)) (by rw [hmade])
      rw [hmade] at hnode
      exact (extends_makeAll made rest).node hnode
    · exact ih (fun d hd => hne d (List.mem_cons_of_mem _ hd)) hdone d' hd'

/-- A path leads to a file, which has a text if there was nothing at its place before. -/
def Supplied (t t' : Tree) (path : Path) (text : Text) : Prop :=
  ∃ p content, t'.resolve path = .ok p ∧ t'.at? p = some (.file content) ∧
    (t.at? p = none → content = Text.encode text)

/-- Everything that a layout has to have is there, and was given the usual text if it is new. -/
structure Furnished (l : Layout) (t t' : Tree) : Prop where
  directories : ∀ d ∈ l.directories, t'.node d = .ok .directory
  config : Supplied t t' l.configFile defaultConfig
  blocked : Supplied t t' l.blockedFile defaultBlocked

/-- The directories of a layout have paths that are not empty. -/
theorem directories_ne_nil (root : Path) : ∀ d ∈ (ofRoot root).directories, d ≠ [] := by
  simp only [directories, ofRoot, List.forall_mem_cons]
  refine ⟨?_, ?_, ?_, ?_, ?_, by simp⟩
  all_goals exact Path.join_ne_nil _ (by decide)

/-- The two files have different places. -/
theorem resolve_blockedFile_ne {root : Path} (h : t.resolve (ofRoot root).configFile = .ok p) :
    t.resolve (ofRoot root).blockedFile ≠ .ok p := by
  intro h'
  have hsame : [blockedName] = [configName] :=
    Tree.names_eq_of_resolve (by simp) (by simpa using isName_config) (by simp)
      (by simpa using isName_blocked) h h'
  exact absurd hsame (by decide)

/-- A file with a content is at some place. -/
theorem exists_of_contentAt {content : Bytes} (h : t.contentAt path = .ok content) :
    ∃ p, t.resolve path = .ok p ∧ t.at? p = some (.file content) := by
  obtain ⟨parent, n, hnames, hat⟩ := Tree.names_of_read (contentAt_eq_ok_iff.mp h)
  exact ⟨parent ++ [n], hnames.resolve, hat⟩

/-- Where setting up has succeeded and both files can be read, everything is there. -/
theorem furnished_setUp {root : Path} {content list : Bytes}
    (hdone : ((ofRoot root).setUp t).result = .ok ())
    (hconfig : ((ofRoot root).setUp t).files.contentAt (ofRoot root).configFile = .ok content)
    (hlist : ((ofRoot root).setUp t).files.contentAt (ofRoot root).blockedFile = .ok list) :
    (ofRoot root).Furnished t ((ofRoot root).setUp t).files where
  directories := by
    obtain ⟨hmade, -⟩ := held_of_setUp hdone
    have hnodes := node_of_makeAll (directories_ne_nil root) (congrArg Prod.fst hmade)
    rwa [hmade] at hnodes
  config := by
    obtain ⟨p, hresolve, hat⟩ := exists_of_contentAt hconfig
    refine ⟨p, content, hresolve, hat, fun hmissing => ?_⟩
    cases (adds_setUp _ t).new p _ hmissing hat with
    | config => rfl
    | blocked h => exact absurd h (resolve_blockedFile_ne hresolve)
  blocked := by
    obtain ⟨p, hresolve, hat⟩ := exists_of_contentAt hlist
    refine ⟨p, list, hresolve, hat, fun hmissing => ?_⟩
    cases (adds_setUp _ t).new p _ hmissing hat with
    | config h => exact absurd hresolve (resolve_blockedFile_ne h)
    | blocked => rfl

end Layout

end SiteGate.Config
