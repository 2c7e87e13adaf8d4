import SiteGate.Proofs.Site.Failures
import SiteGate.Proofs.Store.Update

/-!
# Updates that fail

An update replaces the configuration and then reads the files again. If it fails before the swap
file has taken the place of the configuration, that is what it was. If it fails at that step or
after it, the configuration may hold the whole new content all the same, and nothing puts the old
one back; the failure then names the configuration or the list of blocked addresses
(`failed_update_config`).

Where a failure comes from is seen from the path that it names (`Attempt.Stops`).
-/

set_option autoImplicit false

namespace SiteGate

namespace Attempt

variable {α β : Type} {x : Attempt α} {g : α → Attempt β} {t : Trial}

/-- If an attempt fails, its failure and the site after it are as `failed` says. -/
def Stops (x : Attempt α) (t : Trial) (failed : FileFailure → Trial → Prop) : Prop :=
  ∀ f t', x.run t = .error f t' → failed f t'

/-! ## Where steps fail -/

section

variable {failed failed' : FileFailure → Trial → Prop}

/-- What holds of the site after every failure holds where an attempt stops. -/
theorem Ends.stops {done : α → Trial → Prop} {after : Trial → Prop} (h : x.Ends t done after) :
    x.Stops t fun _ t' => after t' := by
  intro f t' hrun
  rw [Ends, hrun] at h
  exact h

namespace Stops

/-- Where an attempt stops may be said less exactly. -/
theorem mono (h : x.Stops t failed) (hfailed : ∀ f t', failed f t' → failed' f t') :
    x.Stops t failed' :=
  fun f t' hrun => hfailed f t' (h f t' hrun)

/-- Two things that hold where an attempt stops hold there together. -/
theorem and (h : x.Stops t failed) (h' : x.Stops t failed') :
    x.Stops t fun f t' => failed f t' ∧ failed' f t' :=
  fun f t' hrun => ⟨h f t' hrun, h' f t' hrun⟩

/-- An answer does not fail. -/
theorem pure (a : α) : (Pure.pure a : Attempt α).Stops t failed := by
  intro f t' hrun
  cases hrun

/-- What is recorded does not fail. -/
theorem record (update : Engine → Engine) : (Attempt.record update).Stops t failed := by
  intro f t' hrun
  cases hrun

/-- What comes after a step is looked at only where that has succeeded. -/
theorem bind {done : α → Trial → Prop} {after : Trial → Prop} (hx : x.Stops t failed)
    (hends : x.Ends t done after) (hg : ∀ a t', done a t' → (g a).Stops t' failed) :
    (x >>= g).Stops t failed := by
  intro f t' hrun
  rw [run_bind] at hrun
  rw [Ends] at hends
  cases hfirst : x.run t with
  | ok a t₁ =>
    rw [hfirst] at hrun hends
    exact hg a t₁ hends f t' hrun
  | error f₁ t₁ =>
    rw [hfirst] at hrun
    cases hrun
    exact hx f t' hfirst

/-- A step and the next one stop as is said of them both. -/
theorem andThen (hx : x.Stops t failed) (hg : ∀ a t', (g a).Stops t' failed) :
    (x >>= g).Stops t failed := by
  have hends : x.Ends t (fun _ _ => True) (fun _ => True) := by
    unfold Ends
    cases x.run t <;> trivial
  exact hx.bind hends fun a t' _ => hg a t'

/-- A failure stops where it is thrown. -/
theorem throw {f : FileFailure} (h : failed f t) :
    (MonadExcept.throw f : Attempt α).Stops t failed := by
  intro f' t' hrun
  cases hrun
  exact h

/-- A change of the site does not fail. -/
theorem modify (update : Trial → Trial) :
    (modify update : Attempt PUnit).Stops t failed := by
  intro f t' hrun
  cases hrun

/-- No mishap keeps one from asking for it. -/
theorem mishap?_bind {g : Option Mishap → Attempt β}
    (h : ∀ m t', (g m).Stops t' failed) : (Attempt.mishap? >>= g).Stops t failed := by
  refine .andThen ?_ h
  intro f t' hrun
  cases hrun

/-- Asking for the site does not fail. -/
theorem get_bind {g : Trial → Attempt β} (h : (g t).Stops t failed) :
    (MonadState.get >>= g).Stops t failed := h

end Stops

/-- Where it is known what a step leaves when it fails, that is enough. -/
theorem Ends.andStops {done : α → Trial → Prop} {after : Trial → Prop} (h : x.Ends t done after)
    (hafter : ∀ f t', after t' → failed f t')
    (hg : ∀ a t', done a t' → (g a).Stops t' failed) : (x >>= g).Stops t failed :=
  .bind (h.stops.mono hafter) h hg

end

/-- A look at a file that fails names that file. -/
theorem stops_look (p : Path) (answer : Tree → Except FileError α) (t : Trial) :
    (look p answer).Stops t fun f _ => f.path = p := by
  unfold look
  refine .mishap?_bind fun m t₁ => ?_
  cases m with
  | some m => exact .throw rfl
  | none =>
    refine .get_bind ?_
    cases answer t₁.engine.files with
    | error e => exact .throw rfl
    | ok a => exact .pure a

/-- A change of a file that fails names that file. -/
theorem stops_change (p : Path) (size : Nat) (part : Nat → Tree → Except FileError Tree)
    (t : Trial) : (change p size part).Stops t fun f _ => f.path = p := by
  unfold change
  refine .mishap?_bind fun m t₁ => .get_bind ?_
  dsimp only
  cases part ((m.map Mishap.progress).getD size) t₁.engine.files with
  | error cause => exact .throw rfl
  | ok files =>
    refine .andThen (.modify _) fun _ t₂ => ?_
    cases m with
    | some m => exact .throw rfl
    | none => exact .pure ()

/-- Reading a file fails with its name. -/
theorem stops_contentAt (p : Path) (t : Trial) : (contentAt p).Stops t fun f _ => f.path = p :=
  .bind (stops_look p _ t) (ends_look p _ t) fun _ t' _ => stops_look p _ t'

/-- Reading the list of blocked addresses fails with its name. -/
theorem stops_blockedContent (t : Trial) :
    blockedContent.Stops t fun f _ => f.path = t.engine.store.layout.blockedFile := by
  refine .get_bind (.andThen (.mishap?_bind fun m t₁ => ?_) fun there t₁ => ?_)
  · cases m with
    | some m => exact .pure false
    | none => exact .get_bind (.pure _)
  · cases there with
    | true => exact .andThen (stops_contentAt _ t₁) fun content _ => .pure _
    | false => exact .pure none

/-- Reading the files again fails at one of the two. -/
theorem stops_reload (inside : Bool) (t : Trial) :
    (reload inside).Stops t fun f _ => f.path = t.engine.store.layout.configFile ∨
      f.path = t.engine.store.layout.blockedFile := by
  refine .get_bind (.bind ((stops_contentAt _ t).mono fun _ _ => .inl) (ends_contentAt _ t) ?_)
  rintro content t₁ ⟨-, hsame₁⟩
  have hlist : ∀ {t' : Trial}, t'.engine = t.engine → blockedContent.Stops t' fun f _ =>
      f.path = t.engine.store.layout.configFile ∨
        f.path = t.engine.store.layout.blockedFile := by
    intro t' hsame
    rw [← hsame]
    exact (stops_blockedContent t').mono fun _ _ => .inr
  refine .bind (hlist hsame₁) (ends_blockedContent t₁) fun blocked t₂ hsame₂ => ?_
  replace hsame₂ := hsame₂.trans hsame₁
  dsimp only
  split
  · split
    · exact .pure _
    · refine .andThen (hlist hsame₂) fun addresses t₃ => ?_
      exact .andThen (.record _) fun _ _ => .andThen (.record _) fun _ _ => .pure _
  · refine .andThen (hlist hsame₂) fun addresses t₃ => ?_
    refine .andThen (.record _) fun _ _ => .andThen (.record _) fun _ _ => ?_
    refine .andThen (.record _) fun _ _ => .andThen ?_ fun _ _ => .pure _
    exact .andThen (.record _) fun _ _ => .record _

/-- While the configuration is replaced it stays what it is, but for the last step, which names
it. -/
theorem stops_replace {root : Path} {old : Bytes} (new : Bytes) (t : Trial)
    (hconfig : t.engine.files.contentAt (Config.Layout.ofRoot root).configFile = .ok old) :
    (replace (Config.Layout.ofRoot root).configFile (Config.Layout.ofRoot root).swapFile new).Stops t
      fun f t' =>
        Holds t.engine (Config.Layout.ofRoot root).configFile old old t'.engine ∨
          f.path = (Config.Layout.ofRoot root).configFile ∧
            Holds t.engine (Config.Layout.ofRoot root).configFile old new t'.engine := by
  obtain ⟨cause, hnever⟩ | ⟨place, h⟩ := exists_swaps hconfig
  · refine (ends_make_of_never t hnever).andStops (fun _ t' hsame => .inl ?_)
      fun _ _ hnot => hnot.elim
    rw [hsame]
    exact holds_self hconfig
  · refine (h.ends_make hconfig rfl).andStops (fun _ _ => .inl) fun _ t₁ h₁ => ?_
    refine (h.ends_fill new h₁).andStops (fun _ _ => .inl) fun _ t₂ h₂ => ?_
    refine (h.ends_sync h₂).andStops (fun _ _ => .inl) fun _ t₃ h₃ => ?_
    exact ((stops_change _ _ _ t₃).and (h.ends_move h₃).stops).mono fun _ _ => .inr

section

variable {root : Path}

/-- What a change of a value that succeeds leaves in the configuration. -/
theorem ends_updateFile_written (parent key value : Text) (t : Trial)
    (hlayout : t.engine.store.layout = .ofRoot root) :
    (updateFile parent key value).Ends t
      (fun _ t' => t'.engine.store.layout = .ofRoot root ∧ ∃ old, t.engine.scene.config = .ok old ∧
        t'.engine.scene.config = .ok (written parent key value old))
      (fun _ => True) := by
  refine .bind (.get ?_)
  rw [hlayout]
  refine .andThen (ends_contentAt _ t) ?_ fun _ _ => trivial
  rintro old t₁ ⟨hread, hsame⟩
  have hconfig := (config_eq hlayout).trans hread
  rw [← hsame] at hread hlayout hconfig ⊢
  refine .andThen (ends_replace (written parent key value old) t₁ hread) ?_ fun _ _ => trivial
  rintro _ t₂ ⟨hrest, hcontent⟩
  have hlayout₂ : t₂.engine.store.layout = .ofRoot root := by
    rw [hrest]
    exact hlayout
  exact .pure ⟨hlayout₂, old, hconfig, (config_eq hlayout₂).trans hcontent⟩

/-- Changing a value in the file fails with the configuration as it was, or names the configuration,
which then has the new content. -/
theorem stops_updateFile (parent key value : Text) (t : Trial)
    (hlayout : t.engine.store.layout = .ofRoot root) :
    (updateFile parent key value).Stops t fun f t' =>
      t'.engine.scene.config = t.engine.scene.config ∨
        f.path = (Config.Layout.ofRoot root).configFile ∧ ∃ old,
          t.engine.scene.config = .ok old ∧
            t'.engine.scene.config = .ok (written parent key value old) := by
  refine .get_bind ?_
  rw [hlayout]
  refine (ends_contentAt _ t).andStops (fun _ t' hsame => .inl (by rw [hsame])) ?_
  rintro old t₁ ⟨hread, hsame⟩
  have hconfig := (config_eq hlayout).trans hread
  rw [← hsame] at hread hlayout hconfig ⊢
  have hreplace := stops_replace (written parent key value old) t₁ hread
  refine .andThen (hreplace.mono ?_) fun _ _ => .pure _
  rintro f t' (hholds | ⟨hpath, hholds⟩)
  · rcases hholds.config hlayout with h | h <;> exact .inl (h.trans hconfig.symm)
  · rcases hholds.config hlayout with h | h
    · exact .inl (h.trans hconfig.symm)
    · exact .inr ⟨hpath, old, hconfig, h⟩

/-- An update that fails leaves the configuration, or it fails at replacing it or after that. -/
theorem stops_update (inside : Bool) (parent key value : Text) (t : Trial)
    (hlayout : t.engine.store.layout = .ofRoot root) :
    (update inside parent key value).Stops t fun f t' =>
      t'.engine.scene.config = t.engine.scene.config ∨
        (f.path = (Config.Layout.ofRoot root).configFile ∨
          f.path = (Config.Layout.ofRoot root).blockedFile) ∧
          ∃ old, t.engine.scene.config = .ok old ∧
            t'.engine.scene.config = .ok (written parent key value old) := by
  refine .bind ((stops_updateFile parent key value t hlayout).mono ?_)
    (ends_updateFile_written parent key value t hlayout) ?_
  · rintro f t' (hsame | ⟨hpath, hwritten⟩)
    · exact .inl hsame
    · exact .inr ⟨.inl hpath, hwritten⟩
  · rintro found t₁ ⟨hlayout₁, hwritten⟩
    refine .andThen (((stops_reload inside t₁).and (ends_reload inside t₁).stops).mono ?_)
      fun _ _ => .pure _
    rintro f t' ⟨hpath, hsame⟩
    rw [hlayout₁] at hpath
    rw [hsame]
    exact .inr ⟨hpath, hwritten⟩

end

end Attempt

namespace Engine

/-- An update that fails has left the configuration as it was, or has written the whole new
content over it and failed in spite of that: because the list of blocked addresses cannot be read,
and where things go wrong with the steps themselves, at putting the new configuration in its place
or at reading the files again. -/
theorem failed_update_config {root : Path} {e : Engine} (h : e.Reachable root)
    (parent key value : Text) :
    (∀ f e', e.update parent key value = (.error f, e') →
      e'.scene.config = e.scene.config ∨
        e.scene.blocked = .error f ∧ ∃ old, e.scene.config = .ok old ∧
          e'.scene.config = .ok (Attempt.written parent key value old)) ∧
    ∀ inside mishaps f t, (Attempt.update inside parent key value).run ⟨e, mishaps⟩ = .error f t →
      t.engine.scene.config = e.scene.config ∨
        (f.path = e.store.layout.configFile ∨ f.path = e.store.layout.blockedFile) ∧
          ∃ old, e.scene.config = .ok old ∧
            t.engine.scene.config = .ok (Attempt.written parent key value old) := by
  refine ⟨fun f e' hupdate => ?_, fun inside mishaps => ?_⟩
  · unfold update updateFrom at hupdate
    rcases Store.update_outcome h.layout e.files ⟨parent, key, value⟩ with
      ⟨f', hfailed⟩ | ⟨old, replaced, hreplaced, ⟨f', hblocked, hfailed⟩ | ⟨outcome, t, -, hdone⟩⟩
    · simp only [hfailed] at hupdate
      obtain ⟨-, rfl⟩ := Prod.mk.inj hupdate
      exact .inl rfl
    · simp only [hfailed] at hupdate
      obtain ⟨hf, rfl⟩ := Prod.mk.inj hupdate
      obtain rfl := Except.error.inj hf
      have hlayout : ({ e with files := replaced } : Engine).store.layout = .ofRoot root := h.layout
      exact .inr ⟨hblocked, old, (Attempt.config_eq h.layout).trans hreplaced.config,
        (Attempt.config_eq hlayout).trans hreplaced.content⟩
    · simp only [hdone] at hupdate
      cases (Prod.mk.inj hupdate).1
  · have hstops := Attempt.stops_update inside parent key value ⟨e, mishaps⟩ h.layout
    rw [← h.layout] at hstops
    exact hstops

/-- The files after a directory has taken the place of the list of blocked addresses. -/
def withoutList (files : Tree) : Tree :=
  files.put ["w".toList, "appdata".toList, ".cfg".toList, "blocked-ip".toList] .directory

/-- The site with a directory where the list of blocked addresses should be. -/
def blockedAway (e : Engine) : Engine := { e with files := withoutList e.files }

/-- That site is reached by changing the files of an opened one. -/
theorem reachable_blockedAway {start : Engine} (h : ofFiles Store.bannerFiles = .ok start) :
    start.blockedAway.Reachable "w".toList :=
  .happens (.opened h) (.inl (.edit start (withoutList start.files)))

/-- The update is reported as failed, and the configuration has been changed. -/
theorem update_blockedAway :
    ∃ start f e', ofFiles Store.bannerFiles = .ok start ∧
      start.blockedAway.update "MessageBanner".toList "seconds-to-display".toList "5".toList =
        (.error f, e') ∧ e'.scene.config ≠ start.blockedAway.scene.config := by
  have hrun : (ofFiles Store.bannerFiles).toOption.map (fun start =>
      let r := start.blockedAway.update "MessageBanner".toList "seconds-to-display".toList "5".toList
      (r.1.isOk, decide (r.2.scene.config.toOption = start.blockedAway.scene.config.toOption))) =
        some (false, false) := by
    decide +kernel
  cases hopen : ofFiles Store.bannerFiles with
  | error f =>
    rw [hopen] at hrun
    cases hrun
  | ok start =>
    rw [hopen] at hrun
    simp only [Except.toOption, Option.map_some, Option.some.injEq, Prod.mk.injEq] at hrun
    obtain ⟨hanswer, hconfig⟩ := hrun
    cases hupdate : start.blockedAway.update "MessageBanner".toList "seconds-to-display".toList
      "5".toList with
    | mk answer e' =>
      rw [hupdate] at hanswer hconfig
      cases answer with
      | ok found => cases hanswer
      | error f =>
        refine ⟨start, f, e', rfl, hupdate, fun hsame => ?_⟩
        simp [hsame] at hconfig

/-- The list cannot be read when the configuration has been replaced already. -/
theorem failed_update_config_blockedAway :
    ∃ (start : Engine) (f : FileFailure) (e' : Engine), start.blockedAway.Reachable "w".toList ∧
      start.blockedAway.update "MessageBanner".toList "seconds-to-display".toList "5".toList =
        (.error f, e') ∧
      start.blockedAway.scene.blocked = .error f ∧
      ∃ old, start.blockedAway.scene.config = .ok old ∧ e'.scene.config =
        .ok (Attempt.written "MessageBanner".toList "seconds-to-display".toList "5".toList old) := by
  obtain ⟨start, f, e', hopen, hupdate, hchanged⟩ := update_blockedAway
  have hreachable := reachable_blockedAway hopen
  have houtcome := (failed_update_config hreachable "MessageBanner".toList
    "seconds-to-display".toList "5".toList).1 f e' hupdate
  exact ⟨start, f, e', hreachable, hupdate, houtcome.resolve_left hchanged⟩

/-- An update that is reported as failed may have been made. -/
theorem not_failed_update_config :
    ¬ ∀ (root : Path) (e : Engine), e.Reachable root → ∀ parent key value f e',
      e.update parent key value = (.error f, e') → e'.scene.config = e.scene.config := by
  intro h
  obtain ⟨start, f, e', hopen, hupdate, hchanged⟩ := update_blockedAway
  exact hchanged (h _ _ (reachable_blockedAway hopen) _ _ _ f e' hupdate)

end Engine

end SiteGate
