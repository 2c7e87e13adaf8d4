import SiteGate.Proofs.Config.Layout
import SiteGate.Proofs.Site.Attempts
import SiteGate.Proofs.Site.Turns

/-!
# Operations that fail

The store records something only after the last step on files that can fail. So an operation that
fails, whichever step it was and whatever went wrong, leaves the store and all tasks as they were; and
as the swap file takes the place of the configuration only when it is complete, the configuration
holds what it held before or the whole new content (`failed_attempt_publishes_nothing`).

What a step comes to is stated with two conditions, one for the site after it has succeeded and one
for the site after it has failed (`Attempt.Ends`).
-/

set_option autoImplicit false

namespace SiteGate

namespace Attempt

variable {α β : Type} {x : Attempt α} {f : α → Attempt β} {t : Trial}

/-! ## What steps come to -/

/-- What an attempt comes to: `done` holds of its result and of the site after it, or it fails and
`failed` holds of the site. -/
def Ends (x : Attempt α) (t : Trial) (done : α → Trial → Prop) (failed : Trial → Prop) : Prop :=
  match x.run t with
  | .ok a t' => done a t'
  | .error _ t' => failed t'

namespace Ends

variable {done done' : α → Trial → Prop} {failed failed' : Trial → Prop}

/-- A step is followed by the next one, which ends as it does from where the first one has come. -/
theorem bind {done : β → Trial → Prop}
    (h : x.Ends t (fun a t' => (f a).Ends t' done failed) failed) :
    (x >>= f).Ends t done failed := by
  unfold Ends at h ⊢
  rw [run_bind]
  cases hx : x.run t with
  | ok a t' =>
    rw [hx] at h
    exact h
  | error e t' =>
    rw [hx] at h
    exact h

/-- What an attempt ends with may be said less exactly. -/
theorem mono (h : x.Ends t done failed) (hdone : ∀ a t', done a t' → done' a t')
    (hfailed : ∀ t', failed t' → failed' t') : x.Ends t done' failed' := by
  unfold Ends at h ⊢
  cases hx : x.run t with
  | ok a t' =>
    rw [hx] at h
    exact hdone a t' h
  | error e t' =>
    rw [hx] at h
    exact hfailed t' h

/-- A step and the next one end as is said of them both. -/
theorem andThen {done' : β → Trial → Prop} (h : x.Ends t done failed)
    (hdone : ∀ a t', done a t' → (f a).Ends t' done' failed')
    (hfailed : ∀ t', failed t' → failed' t') : (x >>= f).Ends t done' failed' :=
  bind (h.mono hdone hfailed)

/-- An attempt that is handled ends as it does if it succeeds, or as the handler does. -/
theorem tryCatch {handle : FileFailure → Attempt α}
    (h : x.Ends t done fun t' => ∀ e, (handle e).Ends t' done failed) :
    (MonadExcept.tryCatch x handle).Ends t done failed := by
  unfold Ends at h ⊢
  simp only [EStateM.run, MonadExcept.tryCatch, tryCatchThe, MonadExceptOf.tryCatch,
    EStateM.tryCatch] at h ⊢
  cases hx : x t with
  | ok a t' =>
    rw [hx] at h
    exact h
  | error e t' =>
    rw [hx] at h
    exact h e

/-- An answer succeeds with the site as it is. -/
theorem pure {a : α} (h : done a t) : (Pure.pure a : Attempt α).Ends t done failed := h

/-- A failure fails with the site as it is. -/
theorem throw {e : FileFailure} (h : failed t) :
    (MonadExcept.throw e : Attempt α).Ends t done failed := h

/-- Asking for the site succeeds with the site as it is. -/
theorem get {done : Trial → Trial → Prop} (h : done t t) :
    (MonadState.get : Attempt Trial).Ends t done failed := h

/-- A change of the site succeeds with the site as it has become. -/
theorem modify {done : PUnit → Trial → Prop} {f : Trial → Trial} (h : done ⟨⟩ (f t)) :
    (modify f : Attempt PUnit).Ends t done failed := h

/-- What is recorded succeeds with the site as it is recorded. -/
theorem record {done : Unit → Trial → Prop} {f : Engine → Engine}
    (h : done () { t with engine := f t.engine }) : (Attempt.record f).Ends t done failed := h

/-- Asking what goes wrong succeeds, with one mishap less to come. -/
theorem mishap? {done : Option Mishap → Trial → Prop}
    (h : done t.mishaps.head?.join { t with mishaps := t.mishaps.tail }) :
    Attempt.mishap?.Ends t done failed := h

end Ends

/-- A step that looks at the files leaves the site. -/
theorem ends_look (p : Path) (answer : Tree → Except FileError α) (t : Trial) :
    (look p answer).Ends t (fun a t' => answer t.engine.files = .ok a ∧ t'.engine = t.engine)
      (fun t' => t'.engine = t.engine) := by
  unfold look
  refine .bind (.mishap? ?_)
  cases t.mishaps.head?.join with
  | some m => exact .throw rfl
  | none =>
    refine .bind (.get ?_)
    cases answer t.engine.files with
    | error e => exact .throw rfl
    | ok a => exact .pure ⟨rfl, rfl⟩

/-- A step that changes the files leaves everything else. If it fails the files are as they were, or
a part of the step has been done. -/
theorem ends_change (p : Path) (size : Nat) (part : Nat → Tree → Except FileError Tree) (t : Trial) :
    (change p size part).Ends t
      (fun _ t' => ∃ files, part size t.engine.files = .ok files ∧
        t'.engine = { t.engine with files := files })
      (fun t' => ∃ files, (files = t.engine.files ∨ ∃ n, part n t.engine.files = .ok files) ∧
        t'.engine = { t.engine with files := files }) := by
  unfold change
  refine .bind (.mishap? (.bind (.get ?_)))
  dsimp only
  cases hpart : part ((t.mishaps.head?.join.map Mishap.progress).getD size) t.engine.files with
  | error cause => exact .throw ⟨t.engine.files, .inl rfl, rfl⟩
  | ok files =>
    refine .bind (.modify ?_)
    cases hmishap : t.mishaps.head?.join with
    | some m => exact .throw ⟨files, .inr ⟨_, hpart⟩, rfl⟩
    | none =>
      rw [hmishap] at hpart
      exact .pure ⟨files, hpart, rfl⟩

/-- Reading a file gives its content, or fails, and leaves the site either way. -/
theorem ends_contentAt (p : Path) (t : Trial) :
    (contentAt p).Ends t
      (fun content t' => t.engine.files.contentAt p = .ok content ∧ t'.engine = t.engine)
      (fun t' => t'.engine = t.engine) := by
  refine .andThen (ends_look p _ t) ?_ fun t' h => h
  intro node t₁ hopened
  obtain ⟨hnode, hsame⟩ := hopened
  refine (ends_look p _ t₁).mono ?_ fun t' h => h.trans hsame
  intro content t' hread
  obtain ⟨hcontent, hsame'⟩ := hread
  refine ⟨?_, hsame'.trans hsame⟩
  rw [Config.contentAt_eq_ok_iff]
  unfold Tree.read
  rw [hnode]
  cases node with
  | file content' => exact hcontent
  | directory => cases hcontent

/-- Asking whether there is a file leaves the site. -/
theorem ends_holds (p : Path) (t : Trial) {failed : Trial → Prop} :
    (holds p).Ends t (fun _ t' => t'.engine = t.engine) failed := by
  unfold holds
  refine .bind (.mishap? ?_)
  cases t.mishaps.head?.join with
  | some m => exact .pure rfl
  | none => exact .bind (.get (.pure rfl))

/-- Reading the list of blocked addresses leaves the site, whether it fails or not. -/
theorem ends_blockedContent (t : Trial) :
    blockedContent.Ends t (fun _ t' => t'.engine = t.engine) (fun t' => t'.engine = t.engine) := by
  refine .bind (.get (.andThen (ends_holds _ t) ?_ fun t' h => h))
  intro there t₁ hsame
  cases there with
  | true =>
    refine .andThen (ends_contentAt _ t₁) ?_ fun t' h => h.trans hsame
    intro content t' hread
    exact .pure (hread.2.trans hsame)
  | false => exact .pure hsame

/-! ## What operations come to -/

/-- What no operation touches: the clock, whether the site has been told to stop, the tasks that have
ended, where it is called from, and what the store has been given when it was opened. -/
structure Keeps (e e' : Engine) : Prop where
  rest : e' = { e with
    files := e'.files, store := e'.store, metrics := e'.metrics,
    tasks := e'.tasks, nextId := e'.nextId }
  layout : e'.store.layout = e.store.layout
  settings : e'.store.settings = e.store.settings

/-- The configuration that has been read last, its banner and its countdowns stay. -/
structure Leaves (e e' : Engine) : Prop extends Keeps e e' where
  generation : e'.store.generation = e.store.generation
  banner : e'.store.snapshot.banner = e.store.snapshot.banner
  digest : e'.store.snapshot.digest = e.store.snapshot.digest
  tasks : e'.tasks = e.tasks
  nextId : e'.nextId = e.nextId

/-- Another configuration is read, and a countdown is armed if its banner is timed and it is read
`inside` a runtime. -/
structure Begins (inside : Bool) (e e' : Engine) : Prop extends Keeps e e' where
  generation : e'.store.generation = e.store.generation + 1
  content : ∃ content, e'.files.contentAt e.store.layout.configFile = .ok content ∧
    contentDigest content ≠ e.store.snapshot.digest ∧
    e'.store.snapshot.banner = (Config.Snapshot.ofContent content).banner.full
  tasks : e'.tasks = if e'.store.snapshot.banner.isTimed && inside then
      e.tasks ++ [⟨e.nextId, e.now, .armed e'.store.generation e'.store.settings.tickInterval⟩]
    else e.tasks
  nextId : e'.nextId = if e'.store.snapshot.banner.isTimed && inside then e.nextId + 1 else e.nextId

/-- What reading the files again comes to where it succeeds. -/
inductive Rereads (inside : Bool) (e e' : Engine) : Prop where
  | leaves (h : Leaves e e')
  | begins (h : Begins inside e e')

section

variable {inside : Bool} {e e₁ e' : Engine}

/-- Nothing has to be touched. -/
theorem Leaves.refl (e : Engine) : Leaves e e := ⟨⟨rfl, rfl, rfl⟩, rfl, rfl, rfl, rfl, rfl⟩

/-- Of what follows on a site that has kept something, that is kept. -/
theorem Keeps.trans (h : Keeps e e₁) (h' : Keeps e₁ e') : Keeps e e' where
  rest := by
    rw [h'.rest, h.rest]
  layout := h'.layout.trans h.layout
  settings := h'.settings.trans h.settings

/-- The counters do not matter for the banner. -/
theorem Leaves.withMetrics (h : Leaves e e') (m : Metrics) : Leaves e { e' with metrics := m } where
  rest := by
    rw [h.rest]
  layout := h.layout
  settings := h.settings
  generation := h.generation
  banner := h.banner
  digest := h.digest
  tasks := h.tasks
  nextId := h.nextId

/-- Nor do they when another configuration is read. -/
theorem Rereads.withMetrics (h : Rereads inside e e') (m : Metrics) :
    Rereads inside e { e' with metrics := m } := by
  cases h with
  | leaves h => exact .leaves (h.withMetrics m)
  | begins h =>
    refine .begins ⟨⟨?_, h.layout, h.settings⟩, h.generation, h.content, h.tasks, h.nextId⟩
    rw [h.rest]

/-- The files are read again after something that does not concern the banner. -/
theorem Leaves.rereads (h : Leaves e e₁) (h' : Rereads inside e₁ e') : Rereads inside e e' := by
  cases h' with
  | leaves h' =>
    exact .leaves
      { h.toKeeps.trans h'.toKeeps with
        generation := h'.generation.trans h.generation
        banner := h'.banner.trans h.banner
        digest := h'.digest.trans h.digest
        tasks := h'.tasks.trans h.tasks
        nextId := h'.nextId.trans h.nextId }
  | begins h' =>
    have hnow : e₁.now = e.now := by
      rw [h.rest]
    refine .begins ⟨h.toKeeps.trans h'.toKeeps, ?_, ?_, ?_, ?_⟩
    · rw [h'.generation, h.generation]
    · rw [← h.layout, ← h.digest]
      exact h'.content
    · rw [h'.tasks, h.tasks, h.nextId, hnow]
    · rw [h'.nextId, h.nextId]

/-- Either way a site keeps what no operation touches. -/
theorem Rereads.keeps (h : Rereads inside e e') : Keeps e e' := by
  cases h with
  | leaves h => exact h.toKeeps
  | begins h => exact h.toKeeps

end

/-- Reading the files again records something only when nothing can fail any more. -/
theorem ends_reload (inside : Bool) (t : Trial) :
    (reload inside).Ends t
      (fun _ t' => Rereads inside t.engine t'.engine ∧ t'.engine.files = t.engine.files)
      (fun t' => t'.engine = t.engine) := by
  refine .bind (.get (.andThen (ends_contentAt _ t) ?_ fun t' h => h))
  intro content t₁ hread
  obtain ⟨hcontent, hsame₁⟩ := hread
  refine .andThen (ends_blockedContent t₁) ?_ fun t' h => h.trans hsame₁
  intro blocked t₂ hsame₂
  replace hsame₂ := hsame₂.trans hsame₁
  dsimp only
  -- The files have been read by now, and read only: the site is what it was before. Where the list is
  -- read once more this holds until it has been.
  split
  · split
    · rw [← hsame₂]
      exact .pure ⟨.leaves (.refl _), rfl⟩
    · refine .andThen (ends_blockedContent t₂) ?_ fun t' h => h.trans hsame₂
      intro addresses t₃ hsame₃
      refine .bind (.record (.bind (.record (.pure ?_))))
      dsimp only
      rw [hsame₃.trans hsame₂]
      exact ⟨.leaves ⟨⟨rfl, rfl, rfl⟩, rfl, rfl, rfl, rfl, rfl⟩, rfl⟩
  · next hother =>
    refine .andThen (ends_blockedContent t₂) ?_ fun t' h => h.trans hsame₂
    intro addresses t₃ hsame₃
    refine .bind (.record (.bind (.record (.bind (.record (.bind (.bind (.record ?_))))))))
    refine .record (.pure ?_)
    dsimp only
    rw [hsame₃.trans hsame₂]
    split
    · next harmed =>
      exact ⟨.begins ⟨⟨rfl, rfl, rfl⟩, rfl, ⟨content, hcontent, hother, rfl⟩,
        (if_pos harmed).symm, (if_pos harmed).symm⟩, rfl⟩
    · next hnot =>
      exact ⟨.begins ⟨⟨rfl, rfl, rfl⟩, rfl, ⟨content, hcontent, hother, rfl⟩,
        (if_neg hnot).symm, (if_neg hnot).symm⟩, rfl⟩

/-- So it is with a refresh, which counts how it went. -/
theorem ends_refresh (inside : Bool) (t : Trial) :
    (refresh inside).Ends t
      (fun _ t' => Rereads inside t.engine t'.engine ∧ t'.engine.files = t.engine.files)
      (fun t' => ∃ metrics, t'.engine = { t.engine with metrics := metrics }) := by
  refine .tryCatch (.andThen (ends_reload inside t) ?_ ?_)
  · intro outcome t' hread
    exact .bind (.record (.pure ⟨hread.1.withMetrics _, hread.2⟩))
  · intro t' hsame e
    refine .bind (.record (.throw ⟨t'.engine.metrics.recordReload (.error e), ?_⟩))
    dsimp only
    rw [hsame]

/-! ### The configuration -/

/-- Everything but the files is as it was, and the configuration has one of two contents. -/
structure Holds (e : Engine) (config : Path) (old new : Bytes) (e' : Engine) : Prop where
  rest : e' = withFiles e e'.files
  content : e'.files.contentAt config = .ok old ∨ e'.files.contentAt config = .ok new

/-- The swap file can be written at a place. The configuration stays as it is until the swap file is
moved there. -/
structure Swaps (files : Tree) (config swap : Path) (old : Bytes) (place : Place) : Prop where
  write : ∀ c, files.write swap c = .ok (files.put place (.file c))
  rewrite : ∀ c next, (files.put place (.file c)).write swap next =
    .ok (files.put place (.file next))
  kept : ∀ c, (files.put place (.file c)).contentAt config = .ok old
  moved : ∀ c moved, (files.put place (.file c)).rename swap config = .ok moved →
    moved.contentAt config = .ok c

/-- Where the configuration can be read, the swap file can be written, whatever is written, or it
cannot. -/
theorem exists_swaps {root : Path} {files : Tree} {old : Bytes}
    (hconfig : files.contentAt (Config.Layout.ofRoot root).configFile = .ok old) :
    (∃ cause, ∀ c, files.write (Config.Layout.ofRoot root).swapFile c = .error cause) ∨
    ∃ place, Swaps files (Config.Layout.ofRoot root).configFile
      (Config.Layout.ofRoot root).swapFile old place := by
  obtain hnever | ⟨place, -, hwrite⟩ := files.write_cases (Config.Layout.ofRoot root).swapFile
  · exact .inl hnever
  · exact .inr ⟨place,
      { write := fun c => (hwrite c).1
        rewrite := fun c => (hwrite c).2
        kept := fun c => Config.contentAt_configFile_of_write hconfig (hwrite c).1
        moved := fun c _ => Config.contentAt_configFile_of_rename hconfig (hwrite c).1 }⟩

section

variable {e : Engine} {config swap : Path} {old new : Bytes} {place : Place}

/-- The configuration has its old content before anything is done to it. -/
theorem holds_self (h : e.files.contentAt config = .ok old) : Holds e config old new e :=
  ⟨rfl, .inl h⟩

namespace Swaps

/-- The configuration has its old content while the swap file is written. -/
theorem holds (h : Swaps e.files config swap old place) (c : Bytes) :
    Holds e config old new (filled e place c) :=
  ⟨rfl, .inl (h.kept c)⟩

/-- Making the swap file empties it, or fails and leaves the old content. -/
theorem ends_make (h : Swaps e.files config swap old place)
    (hconfig : e.files.contentAt config = .ok old) (ht : t.engine = e) :
    (make swap).Ends t (fun _ t' => t'.engine = filled e place [])
      (fun t' => Holds e config old new t'.engine) := by
  subst ht
  refine (ends_change _ _ _ t).mono ?_ ?_
  · rintro _ t' ⟨files, hmade, hafter⟩
    rw [if_neg Nat.one_ne_zero, h.write] at hmade
    obtain rfl := Except.ok.inj hmade
    exact hafter
  · rintro t' ⟨files, hpart, hafter⟩
    rw [hafter]
    obtain rfl | rfl : files = t.engine.files ∨ files = t.engine.files.put place (.file []) := by
      rcases hpart with hfiles | ⟨n, hmade⟩
      · exact .inl hfiles
      · split at hmade
        · exact .inl (Except.ok.inj hmade).symm
        · rw [h.write] at hmade
          exact .inr (Except.ok.inj hmade).symm
    · exact holds_self hconfig
    · exact h.holds []

/-- Filling the swap file puts the content there, or fails and leaves the old content. -/
theorem ends_fill (h : Swaps e.files config swap old place) {c : Bytes} (content : Bytes)
    (ht : t.engine = filled e place c) :
    (fill swap content).Ends t (fun _ t' => t'.engine = filled e place content)
      (fun t' => Holds e config old new t'.engine) := by
  have hwritten : ∀ next files, t.engine.files.write swap next = .ok files →
      files = e.files.put place (.file next) := by
    intro next files hnext
    rw [ht] at hnext
    exact (Except.ok.inj ((h.rewrite c next).symm.trans hnext)).symm
  refine (ends_change _ _ _ t).mono ?_ ?_
  · rintro _ t' ⟨files, hfilled, hafter⟩
    rw [List.take_length] at hfilled
    obtain rfl := hwritten _ _ hfilled
    rw [hafter, ht]
    rfl
  · rintro t' ⟨files, rfl | ⟨n, hfilled⟩, hafter⟩
    · rw [hafter, ht]
      exact h.holds c
    · obtain rfl := hwritten _ _ hfilled
      rw [hafter, ht]
      exact h.holds (content.take n)

/-- Having the swap file put on the disk leaves it, whether it fails or not. -/
theorem ends_sync (h : Swaps e.files config swap old place) {c : Bytes}
    (ht : t.engine = filled e place c) :
    (sync swap).Ends t (fun _ t' => t'.engine = filled e place c)
      (fun t' => Holds e config old new t'.engine) := by
  refine (ends_change _ _ _ t).mono ?_ ?_
  · rintro _ t' ⟨files, hput, hafter⟩
    obtain rfl := Except.ok.inj hput
    exact hafter.trans ht
  · rintro t' ⟨files, hput, hafter⟩
    obtain rfl : files = t.engine.files := by
      rcases hput with hfiles | ⟨n, hput⟩
      · exact hfiles
      · exact (Except.ok.inj hput).symm
    have hsame : t'.engine = filled e place c := hafter.trans ht
    rw [hsame]
    exact h.holds c

/-- Moving the swap file gives the configuration the new content; where it fails the content is the
old one or the new one. -/
theorem ends_move (h : Swaps e.files config swap old place)
    (ht : t.engine = filled e place new) :
    (move swap config).Ends t
      (fun _ t' => t'.engine = withFiles e t'.engine.files ∧
        t'.engine.files.contentAt config = .ok new)
      (fun t' => Holds e config old new t'.engine) := by
  have hmoved : ∀ files, t.engine.files.rename swap config = .ok files →
      files.contentAt config = .ok new := by
    intro files hrenamed
    rw [ht] at hrenamed
    exact h.moved new files hrenamed
  refine (ends_change _ _ _ t).mono ?_ ?_
  · rintro _ t' ⟨files, hrenamed, hafter⟩
    rw [if_neg Nat.one_ne_zero] at hrenamed
    rw [hafter, ht]
    exact ⟨rfl, hmoved files hrenamed⟩
  · rintro t' ⟨files, hpart, hafter⟩
    obtain rfl | hfiles : files = t.engine.files ∨ files.contentAt config = .ok new := by
      rcases hpart with hfiles | ⟨n, hrenamed⟩
      · exact .inl hfiles
      · split at hrenamed
        · exact .inl (Except.ok.inj hrenamed).symm
        · exact .inr (hmoved files hrenamed)
    · have hsame : t'.engine = filled e place new := hafter.trans ht
      rw [hsame]
      exact h.holds new
    · rw [hafter, ht]
      exact ⟨rfl, .inr hfiles⟩

end Swaps

end

/-- Where the swap file cannot be written the first step fails, whatever else goes wrong, and no file is
changed. -/
theorem ends_make_of_never {swap : Path} {cause : FileError} (t : Trial)
    (hnever : ∀ c, t.engine.files.write swap c = .error cause) :
    (make swap).Ends t (fun _ _ => False) (fun t' => t'.engine = t.engine) := by
  refine (ends_change _ _ _ t).mono ?_ ?_
  · rintro _ t' ⟨files, hmade, -⟩
    rw [if_neg Nat.one_ne_zero, hnever] at hmade
    cases hmade
  · rintro t' ⟨files, hpart, hafter⟩
    obtain rfl : files = t.engine.files := by
      rcases hpart with hfiles | ⟨n, hmade⟩
      · exact hfiles
      · split at hmade
        · exact (Except.ok.inj hmade).symm
        · rw [hnever] at hmade
          cases hmade
    exact hafter

/-- While the configuration is replaced it holds what it held, and after that the new content. -/
theorem ends_replace {root : Path} {old : Bytes} (new : Bytes) (t : Trial)
    (hconfig : t.engine.files.contentAt (Config.Layout.ofRoot root).configFile = .ok old) :
    (replace (Config.Layout.ofRoot root).configFile (Config.Layout.ofRoot root).swapFile new).Ends t
      (fun _ t' => t'.engine = withFiles t.engine t'.engine.files ∧
        t'.engine.files.contentAt (Config.Layout.ofRoot root).configFile = .ok new)
      (fun t' => Holds t.engine (Config.Layout.ofRoot root).configFile old new t'.engine) := by
  obtain ⟨cause, hnever⟩ | ⟨place, h⟩ := exists_swaps hconfig
  · refine .andThen (ends_make_of_never t hnever) (fun _ _ hnot => hnot.elim) fun t' hsame => ?_
    rw [hsame]
    exact holds_self hconfig
  · refine (h.ends_make hconfig rfl).andThen (fun _ t₁ h₁ => ?_) fun t' hfailed => hfailed
    refine (h.ends_fill new h₁).andThen (fun _ t₂ h₂ => ?_) fun t' hfailed => hfailed
    refine (h.ends_sync h₂).andThen (fun _ t₃ h₃ => ?_) fun t' hfailed => hfailed
    exact h.ends_move h₃

/-- What a failed operation leaves: everything but the files and the counters is as it was, and the
configuration has the content that it had, or the whole content that was to be written over it. -/
structure Spares (e : Engine) (written? : Bytes → Option Bytes) (e' : Engine) : Prop where
  rest : e' = { e with files := e'.files, metrics := e'.metrics }
  config : e'.scene.config = e.scene.config ∨
    ∃ old new, e.scene.config = .ok old ∧ written? old = some new ∧ e'.scene.config = .ok new

section

variable {e e' e'' : Engine} {written? : Bytes → Option Bytes} {root : Path} {old new : Bytes}

/-- A banner that has been noted as off is off. -/
theorem on_noteOff (e : Engine) : (noteOff e).store.snapshot.banner.on = false := by
  unfold noteOff
  dsimp only
  split
  · rfl
  · next hoff => exact Bool.eq_false_iff.mpr hoff

/-- So a failed operation does nothing that concerns the banner. -/
theorem Spares.leaves (h : Spares e written? e') : Leaves e e' := by
  rw [h.rest]
  exact ⟨⟨rfl, rfl, rfl⟩, rfl, rfl, rfl, rfl, rfl⟩

/-- An operation that does nothing spares the configuration. -/
theorem spares_self (e : Engine) (written? : Bytes → Option Bytes) : Spares e written? e :=
  ⟨rfl, .inl rfl⟩

/-- The configuration is the content of its file. -/
theorem config_eq (hlayout : e.store.layout = .ofRoot root) :
    e.scene.config = e.files.contentAt (Config.Layout.ofRoot root).configFile := by
  unfold Engine.scene Store.Scene.config
  rw [hlayout]

/-- A configuration that is held has the old content or the new one. -/
theorem Holds.config (h : Holds e (Config.Layout.ofRoot root).configFile old new e')
    (hlayout : e.store.layout = .ofRoot root) :
    e'.scene.config = .ok old ∨ e'.scene.config = .ok new := by
  have hlayout' : e'.store.layout = .ofRoot root := by
    rw [h.rest]
    exact hlayout
  rw [config_eq hlayout']
  exact h.content

/-- An operation that gets no further than the files spares the configuration. -/
theorem Holds.spares (h : Holds e (Config.Layout.ofRoot root).configFile old new e')
    (hlayout : e.store.layout = .ofRoot root) (hold : e.scene.config = .ok old)
    (hnew : written? old = some new) : Spares e written? e' := by
  have hmetrics : e'.metrics = e.metrics := by
    rw [h.rest]
    rfl
  refine ⟨h.rest.trans (by rw [hmetrics]; rfl), ?_⟩
  rcases h.config hlayout with hconfig | hconfig
  · exact .inl (hconfig.trans hold.symm)
  · exact .inr ⟨old, new, hold, hnew, hconfig⟩

/-- Changing a value writes nothing into the configuration but the whole new content. -/
theorem ends_updateFile (parent key value : Text) (t : Trial)
    (hlayout : t.engine.store.layout = .ofRoot root) :
    (updateFile parent key value).Ends t
      (fun _ t' => t'.engine.store.layout = .ofRoot root ∧
        Spares t.engine (fun old => some (written parent key value old)) t'.engine)
      (fun t' => Spares t.engine (fun old => some (written parent key value old)) t'.engine) := by
  refine .bind (.get ?_)
  rw [hlayout]
  refine .andThen (ends_contentAt _ t) ?_ fun t' hsame => hsame ▸ spares_self _ _
  rintro old t₁ ⟨hread, hsame⟩
  have hconfig : t.engine.scene.config = .ok old := (config_eq hlayout).trans hread
  rw [← hsame] at hread hlayout hconfig ⊢
  refine .andThen (ends_replace (written parent key value old) t₁ hread) ?_ ?_
  · rintro _ t₂ ⟨hrest, hcontent⟩
    have hholds : Holds t₁.engine (Config.Layout.ofRoot root).configFile old
        (written parent key value old) t₂.engine := ⟨hrest, .inr hcontent⟩
    refine .pure ⟨?_, hholds.spares hlayout hconfig rfl⟩
    rw [hrest]
    exact hlayout
  · intro t' hholds
    exact hholds.spares hlayout hconfig rfl

/-- An update that fails when it reads the files again leaves what changing the value has left. -/
theorem ends_update (inside : Bool) (parent key value : Text) (t : Trial)
    (hlayout : t.engine.store.layout = .ofRoot root) :
    (update inside parent key value).Ends t (fun _ t' => Rereads inside t.engine t'.engine)
      (fun t' => Spares t.engine (fun old => some (written parent key value old)) t'.engine) := by
  refine .andThen (ends_updateFile parent key value t hlayout) ?_ fun t' hspares => hspares
  rintro found t₁ ⟨-, hspares⟩
  refine .andThen (ends_reload inside t₁) ?_ fun t' hsame => ?_
  · intro _ t₂ hread
    exact .pure (hspares.leaves.rereads hread.1)
  · rw [hsame]
    exact hspares

end

end Attempt

namespace Operation

open Attempt (Rereads Spares noteOff)

/-- What an operation makes of a site where it succeeds. -/
def Does : Operation → Engine → Engine → Prop
  | .refresh, e, e' => Rereads e.concurrent e e'
  | .update _ _ _, e, e' => Rereads e.concurrent e e'
  | .expire generation, e, e' =>
    (e.store.generation ≠ generation ∧ e' = e) ∨ ∃ read, Rereads true e read ∧ e' = noteOff read

/-- Whatever an operation does, the store stays where it is. -/
theorem Does.layout {op : Operation} {e e' : Engine} (h : op.Does e e') :
    e'.store.layout = e.store.layout := by
  cases op with
  | refresh => exact h.keeps.layout
  | update parent key value => exact h.keeps.layout
  | expire generation =>
    obtain ⟨-, rfl⟩ | ⟨read, hread, rfl⟩ := h
    · rfl
    · refine Eq.trans ?_ hread.keeps.layout
      unfold noteOff
      dsimp only
      split <;> rfl

/-- If an operation fails, what has been published stays. -/
theorem ends_attempt {root : Path} (op : Operation) (t : Trial)
    (hlayout : t.engine.store.layout = .ofRoot root) :
    op.attempt.Ends t (fun _ t' => op.Does t.engine t'.engine)
      (fun t' => Spares t.engine op.written? t'.engine) := by
  cases op with
  | refresh =>
    refine .bind (.get (.andThen (Attempt.ends_refresh _ t) (fun _ t' h => .pure h.1) ?_))
    rintro t' ⟨metrics, hsame⟩
    rw [hsame]
    exact ⟨rfl, .inl rfl⟩
  | update parent key value =>
    exact .bind (.get (.andThen (Attempt.ends_update _ parent key value t hlayout)
      (fun _ t' h => .pure h) fun t' h => h))
  | expire generation =>
    refine .bind (.get ?_)
    split
    · refine .andThen (Attempt.ends_update true _ _ _ t hlayout) (fun _ t' hread => ?_) fun t' h => h
      exact .record (.inr ⟨t'.engine, hread, rfl⟩)
    · next hother => exact .pure (.inl ⟨hother, rfl⟩)

end Operation

namespace Engine

/-- The sites that one can get to from a store under a web root that has been opened: whatever
happens to it, wherever it is called from, also after it has been told to stop, and whatever goes wrong
in its operations. -/
inductive Reachable (root : Path) : Engine → Prop
  | opened {files : Tree} {metrics : Metrics} {settings : Config.Settings} {concurrent : Bool}
    {e : Engine} (h : (openAt files metrics root settings concurrent).1 = .ok e) : Reachable root e
  | happens {e e' : Engine} (h : Reachable root e) (hstep : e.Happens e') : Reachable root e'
  | stop {e : Engine} (h : Reachable root e) : Reachable root e.stop
  | calls {e : Engine} (h : Reachable root e) (inside : Bool) :
    Reachable root { e with concurrent := inside }
  | done {e : Engine} (h : Reachable root e) {op : Operation} {mishaps : List (Option Mishap)}
    {t : Trial} (hrun : op.attempt.run ⟨e, mishaps⟩ = .ok () t) : Reachable root t.engine
  | failed {e : Engine} (h : Reachable root e) {op : Operation} {mishaps : List (Option Mishap)}
    {f : FileFailure} {t : Trial} (hrun : op.attempt.run ⟨e, mishaps⟩ = .error f t) :
    Reachable root t.engine

/-- The files of a site that has been reached are below its root. -/
theorem Reachable.layout {root : Path} {e : Engine} (h : e.Reachable root) :
    e.store.layout = .ofRoot root := by
  induction h with
  | @opened files metrics settings concurrent e h =>
    unfold openAt at h
    dsimp only at h
    split at h
    · cases h
    · next outcome s hresult =>
      obtain rfl := Except.ok.inj h
      rw [store_noteReload]
      exact (Store.site_reload (Store.reload_of_openAt hresult)).1
  | happens h hstep ih => exact (site_happens hstep).1.trans ih
  | stop h ih => exact ih
  | calls h inside ih => exact ih
  | @done e h op mishaps t hrun ih =>
    have hends := op.ends_attempt ⟨e, mishaps⟩ ih
    rw [Attempt.Ends, hrun] at hends
    exact hends.layout.trans ih
  | @failed e h op mishaps f t hrun ih =>
    have hends := op.ends_attempt ⟨e, mishaps⟩ ih
    rw [Attempt.Ends, hrun] at hends
    rw [hends.rest]
    exact ih

/-- An operation that fails at whichever of its steps, whatever goes wrong there, leaves the published
snapshot, the recorded digest of the list of blocked addresses, the generation of the banner and all
tasks as they were. The configuration has the content that it had, or the whole content that the
operation writes. -/
theorem failed_attempt_publishes_nothing {root : Path} {e : Engine} (h : e.Reachable root)
    (op : Operation) (mishaps : List (Option Mishap)) {f : FileFailure} {t : Trial}
    (hfailed : op.attempt.run ⟨e, mishaps⟩ = .error f t) :
    t.engine.store = e.store ∧ t.engine.tasks = e.tasks ∧
      (t.engine.scene.config = e.scene.config ∨
        ∃ old new, e.scene.config = .ok old ∧ op.written? old = some new ∧
          t.engine.scene.config = .ok new) := by
  have hspares := op.ends_attempt ⟨e, mishaps⟩ h.layout
  rw [Attempt.Ends, hfailed] at hspares
  refine ⟨?_, ?_, hspares.config⟩
  · rw [hspares.rest]
  · rw [hspares.rest]

/-- The disk is full when the first bytes of the swap file have been written. -/
theorem failed_attempt_publishes_nothing_bannerFiles :
    let op : Operation :=
      .update "MessageBanner".toList "seconds-to-display".toList "5".toList
    ∃ start f t, ofFiles Store.bannerFiles = .ok start ∧
      op.attempt.run ⟨start, [none, none, none, some ⟨.busy, 13⟩]⟩ = .error f t ∧
      t.engine.files.contentAt start.store.layout.swapFile =
        .ok (Text.encode "MessageBanner".toList) ∧
      t.engine.store = start.store ∧ t.engine.tasks = start.tasks ∧
      (t.engine.scene.config = start.scene.config ∨
        ∃ old new, start.scene.config = .ok old ∧ op.written? old = some new ∧
          t.engine.scene.config = .ok new) := by
  intro op
  have hswap : (ofFiles Store.bannerFiles).toOption.bind (fun start =>
      match op.attempt.run ⟨start, [none, none, none, some ⟨.busy, 13⟩]⟩ with
      | .error _ t => (t.engine.files.contentAt start.store.layout.swapFile).toOption
      | .ok _ _ => none) = some (Text.encode "MessageBanner".toList) := by
    decide +kernel
  cases hopen : ofFiles Store.bannerFiles with
  | error f =>
    rw [hopen] at hswap
    cases hswap
  | ok start =>
    rw [hopen] at hswap
    dsimp only [Except.toOption, Option.bind_some] at hswap
    cases hrun : op.attempt.run ⟨start, [none, none, none, some ⟨.busy, 13⟩]⟩ with
    | ok u t =>
      rw [hrun] at hswap
      cases hswap
    | error f t =>
      rw [hrun] at hswap
      dsimp only at hswap
      have hcontent : t.engine.files.contentAt start.store.layout.swapFile =
          .ok (Text.encode "MessageBanner".toList) := by
        cases hread : t.engine.files.contentAt start.store.layout.swapFile with
        | error f' =>
          rw [hread] at hswap
          cases hswap
        | ok content =>
          rw [hread] at hswap
          exact congrArg Except.ok (Option.some.inj hswap)
      exact ⟨start, f, t, rfl, hrun, hcontent,
        failed_attempt_publishes_nothing (.opened hopen) op _ hrun⟩

end Engine

end SiteGate
