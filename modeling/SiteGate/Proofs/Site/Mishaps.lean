import SiteGate.Proofs.Site.Failures
import SiteGate.Proofs.Site.Rest

/-!
# Steps that meet with mishaps

A site may be called from inside a runtime at one time and from outside at another, and anything may
go wrong with its files whenever it does something with them: when it is asked to, when a watcher looks
at them, or when a countdown is over. `Befalls` is one step of all that, and `Fares` any number of
them. What holds of the tasks of a site throughout its runs holds here as well (`Sound.fares`), because
an operation that meets with mishaps does nothing, or reads a configuration like any other.
-/

set_option autoImplicit false

namespace SiteGate

open Store (Runtime)

namespace Attempt

variable {α : Type} {x : Attempt α} {e e' : Engine} {mishaps : List (Option Mishap)}

/-- What an attempt comes to on a site if these mishaps come its way: its result, and the site after
it. -/
def outcome (x : Attempt α) (e : Engine) (mishaps : List (Option Mishap)) :
    Except FileFailure α × Engine :=
  match x.run ⟨e, mishaps⟩ with
  | .ok a t => (.ok a, t.engine)
  | .error f t => (.error f, t.engine)

/-- If none come, it is what it comes to where nothing goes wrong. -/
theorem ComesTo.outcome_eq {r : Except FileFailure α} (h : x.ComesTo e r e') :
    x.outcome e [] = (r, e') := by
  unfold ComesTo at h
  unfold outcome
  rw [h]
  cases r <;> rfl

/-- An attempt succeeds or fails, and the site after it is as is said of that. -/
theorem Ends.outcome_cases {done : α → Trial → Prop} {failed : Trial → Prop}
    (h : x.Ends ⟨e, mishaps⟩ done failed) :
    (∃ a t, (x.outcome e mishaps) = (.ok a, t.engine) ∧ done a t) ∨
    ∃ f t, (x.outcome e mishaps) = (.error f, t.engine) ∧ failed t := by
  unfold Ends at h
  unfold outcome
  cases hrun : x.run ⟨e, mishaps⟩ with
  | ok a t =>
    rw [hrun] at h
    exact .inl ⟨a, t, rfl, h⟩
  | error f t =>
    rw [hrun] at h
    exact .inr ⟨f, t, rfl, h⟩

end Attempt

namespace Engine

open Attempt (Rereads Leaves Begins noteOff)

variable {e e' : Engine} {t : Task} {mishaps : List (Option Mishap)}

/-! ## Steps -/

/-- How a watcher that has been told of a change goes on. -/
def afterNudge (e : Engine) (id : Nat) : Except FileFailure Reload → Engine
  | .error f => e.finish id (.error f)
  | .ok _ => e

/-- What others do: they call, or ask for an operation of which some steps go wrong. -/
inductive Asks : Engine → Engine → Prop where
  | call {e e' : Engine} (h : e.Call e') : Asks e e'
  | attempt (e : Engine) (op : Operation) (mishaps : List (Option Mishap)) :
    Asks e (op.attempt.outcome e mishaps).2

/-- One step of a site, whoever takes it and from wherever, and whatever goes wrong. -/
inductive Befalls : Engine → Engine → Prop where
  | asks {e e' : Engine} (h : e.Asks e') : Befalls e e'
  | own {e e' : Engine} (h : e.Own e') : Befalls e e'
  /-- The next call comes from inside a runtime, or from outside. -/
  | calls (e : Engine) (inside : Bool) : Befalls e { e with concurrent := inside }
  /-- A watcher whose interval is over looks at the files. -/
  | looks {e : Engine} {t : Task} {interval : Nat} (ht : t ∈ e.tasks) (hready : e.isReady t = true)
    (hwork : t.work = .watching interval) (mishaps : List (Option Mishap)) :
    Befalls e (((Attempt.refresh true).outcome e mishaps).2.afterLook t.id interval
      ((Attempt.refresh true).outcome e mishaps).1)
  /-- A watcher that is told of a change does. -/
  | nudged {e : Engine} {t : Task} {interval : Nat} (ht : t ∈ e.tasks)
    (hwork : t.work = .watching interval) (mishaps : List (Option Mishap)) :
    Befalls e (((Attempt.refresh true).outcome e mishaps).2.afterNudge t.id
      ((Attempt.refresh true).outcome e mishaps).1)
  /-- A countdown that has nothing left to count switches off the banner, and ends. -/
  | expires {e : Engine} {t : Task} {period remaining : Nat} (ht : t ∈ e.tasks)
    (hready : e.isReady t = true)
    (hwork : t.work = .counting e.store.generation period ⟨.active, remaining⟩)
    (hlast : remaining ≤ 1) (hon : e.store.snapshot.banner.on = true)
    (mishaps : List (Option Mishap)) :
    Befalls e (((Attempt.expire e.store.generation).outcome e mishaps).2.finish t.id
      ((Attempt.expire e.store.generation).outcome e mishaps).1)

/-- Whatever a site may come to. -/
abbrev Fares : Engine → Engine → Prop := Relation.ReflTransGen Befalls

/-- Steps of which none goes wrong are among these. -/
theorem Happens.befalls (h : e.Happens e') : e.Befalls e' := by
  rcases h with hcall | hown
  · exact .asks (.call hcall)
  · exact .own hown

/-- Runs in which nothing goes wrong are among these. -/
theorem Runs.fares (h : e.Runs e') : e.Fares e' :=
  Relation.ReflTransGen.mono (fun _ _ hstep => Happens.befalls hstep) _ _ h

/-! ## What reading the files does for the banner -/

/-- An operation that does nothing for the banner leaves it. -/
theorem stays_of_leaves {called : Prop} (h : Leaves e e') (hfiles : e'.files = e.files ∨ called) :
    e.Stays called e' where
  generation := h.generation
  banner := h.banner
  digest := h.digest
  files := hfiles
  tasks := fun t ht _ => h.tasks ▸ ht
  ended := by
    rw [h.rest]
    exact List.Subset.refl _
  later := Nat.le_of_eq (congrArg Engine.now h.rest).symm
  due := fun _ _ hdue => by
    rw [h.rest]
    exact hdue

/-- One that reads the files leaves the banner, or reads another configuration. -/
theorem turn_of_rereads {inside : Bool} {called : Prop} (h : Rereads inside e e')
    (hfiles : e'.files = e.files ∨ called) (hinside : (called → e.concurrent = true) → inside = true) :
    e.Stays called e' ∨ e.Reads called e' := by
  cases h with
  | leaves h => exact .inl (stays_of_leaves h hfiles)
  | begins h =>
    refine .inr ⟨h.generation, h.content, hfiles, fun hcalled htimed => ?_⟩
    have hnow : e'.now = e.now := by
      rw [h.rest]
    rw [h.tasks, htimed, hinside hcalled, if_pos (Bool.and_self true), hnow]
    exact List.mem_append_right _ (List.mem_singleton.mpr rfl)

/-- A watcher's look at the files, whatever goes wrong with it, leaves the banner, or reads another
configuration. -/
theorem turn_look_outcome (e : Engine) (mishaps : List (Option Mishap)) :
    e.Stays False ((Attempt.refresh true).outcome e mishaps).2 ∨
      e.Reads False ((Attempt.refresh true).outcome e mishaps).2 := by
  obtain ⟨outcome, t, hout, hread, hfiles⟩ | ⟨f, t, hout, metrics, hsame⟩ :=
    (Attempt.ends_refresh true ⟨e, mishaps⟩).outcome_cases
  · rw [hout]
    exact turn_of_rereads hread (.inl hfiles) (fun _ => rfl)
  · rw [hout, hsame]
    exact .inl ((Stays.refl e False).withMetrics metrics)

/-! ## What holds throughout -/

namespace Sound

/-- An operation that does nothing for the banner leaves a site sound. -/
theorem leaves (h : e.Sound) (hleaves : Leaves e e') : e'.Sound := by
  obtain ⟨r, hr⟩ := h.shown
  have hgeneration : e'.store.generation = r.scene.store.generation := by
    rw [hleaves.generation, ← hr.scene]
    rfl
  refine ⟨⟨⟨e'.scene, r.timers⟩, rfl, ⟨hr.ordered.nodup, ?_⟩, ?_⟩, ?_, ?_⟩
  · intro g hg
    exact hgeneration ▸ hr.ordered.bounded g hg
  · rw [hleaves.tasks, hleaves.nextId]
    exact hr.tasks
  · rw [hleaves.tasks]
    exact h.steady
  · rw [hleaves.rest]
    exact h.running

/-- An operation that reads another configuration leaves a site sound. If no countdown is armed, the
runtime has one more than the site. -/
theorem begins {inside : Bool} (h : e.Sound) (hbegins : Begins inside e e') : e'.Sound := by
  obtain ⟨r, hr⟩ := h.shown
  have hgeneration : e'.store.generation = r.scene.store.generation + 1 := by
    rw [hbegins.generation, ← hr.scene]
    rfl
  have hfresh : ∀ timer ∈ r.timers, timer.generation ≠ e'.store.generation := by
    intro timer htimer
    have hle := hr.ordered.bounded _ (List.mem_map_of_mem htimer)
    omega
  refine ⟨⟨⟨e'.scene, r.timers ++ [⟨e'.store.generation, .armed⟩]⟩, rfl,
    hr.ordered.append ?_ (by simp [Runtime.generations, scene]), ?_⟩, ?_, ?_⟩
  · exact Nat.lt_of_lt_of_eq (Nat.lt_succ_self _) hgeneration.symm
  · rw [hbegins.tasks, hbegins.nextId]
    split
    · exact hr.tasks.arm hfresh _ _
    · exact hr.tasks.mono (List.Sublist.refl _) (Nat.le_refl _) (List.subset_append_left _ _)
  · intro t ht
    rw [hbegins.tasks] at ht
    split at ht
    · rcases List.mem_append.mp ht with ht | ht
      · exact h.steady t ht
      · rw [List.mem_singleton.mp ht]
        exact Config.Settings.tickInterval_pos _
    · exact h.steady t ht
  · rw [hbegins.rest]
    exact h.running

/-- Reading the files again leaves a site sound. -/
theorem rereads {inside : Bool} (h : e.Sound) (hread : Rereads inside e e') : e'.Sound := by
  cases hread with
  | leaves hleaves => exact h.leaves hleaves
  | begins hbegins => exact h.begins hbegins

/-- Publishing the banner as off leaves a site sound. -/
theorem noteOff (h : e.Sound) : (Attempt.noteOff e).Sound := by
  obtain ⟨r, hr⟩ := h.shown
  have hgeneration : (Attempt.noteOff e).store.generation = r.scene.store.generation := by
    rw [← hr.scene]
    unfold Attempt.noteOff
    dsimp only
    split <;> rfl
  refine ⟨⟨⟨(Attempt.noteOff e).scene, r.timers⟩, rfl, ⟨hr.ordered.nodup, ?_⟩, hr.tasks⟩, h.steady,
    h.running⟩
  intro g hg
  exact hgeneration ▸ hr.ordered.bounded g hg

/-- Ending a task leaves a site sound. -/
theorem finish (h : e.Sound) (id : Nat) (how : TaskEnd) : (e.finish id how).Sound := by
  obtain ⟨r, hr⟩ := h.shown
  exact ⟨⟨r, hr.finish id how⟩, fun t ht => h.steady t (mem_finish_iff.mp ht).1, h.running⟩

/-- A watcher that goes on leaves a site sound. -/
theorem resume_watching (h : e.Sound) (ht : t ∈ e.tasks) (due : Nat) {interval : Nat}
    (hpos : 0 < interval) : (e.resume t.id due (.watching interval)).Sound := by
  obtain ⟨r, hr⟩ := h.shown
  refine ⟨⟨r, hr.resume_watching ht due interval⟩, fun t' ht' => ?_, h.running⟩
  rcases mem_resume_iff.mp ht' with ⟨hmem, -⟩ | rfl
  · exact h.steady t' hmem
  · exact hpos

/-- An operation leaves a site sound, whatever goes wrong with it. -/
theorem attempt {root : Path} (h : e.Sound) (hlayout : e.store.layout = .ofRoot root)
    (op : Operation) (mishaps : List (Option Mishap)) :
    (op.attempt.outcome e mishaps).2.Sound := by
  obtain ⟨_, t, hout, hdoes⟩ | ⟨f, t, hout, hspares⟩ :=
    (op.ends_attempt ⟨e, mishaps⟩ hlayout).outcome_cases
  · rw [hout]
    cases op with
    | refresh => exact h.rereads hdoes
    | update parent key value => exact h.rereads hdoes
    | expire generation =>
      obtain ⟨-, hsame⟩ | ⟨read, hread, hoff⟩ := hdoes
      · rw [hsame]
        exact h
      · rw [hoff]
        exact (h.rereads hread).noteOff
  · rw [hout]
    exact h.leaves hspares.leaves

/-- A watcher's look at the files leaves a site sound and the watcher there. -/
theorem look_outcome (h : e.Sound) (mishaps : List (Option Mishap)) :
    ((Attempt.refresh true).outcome e mishaps).2.Sound ∧
      e.tasks ⊆ ((Attempt.refresh true).outcome e mishaps).2.tasks := by
  obtain ⟨outcome, t, hout, hread, -⟩ | ⟨f, t, hout, metrics, hsame⟩ :=
    (Attempt.ends_refresh true ⟨e, mishaps⟩).outcome_cases
  · rw [hout]
    refine ⟨h.rereads hread, ?_⟩
    cases hread with
    | leaves hleaves =>
      rw [hleaves.tasks]
      exact List.Subset.refl _
    | begins hbegins =>
      rw [hbegins.tasks]
      split
      · exact List.subset_append_left _ _
      · exact List.Subset.refl _
  · rw [hout, hsame]
    exact ⟨h.leaves ((Leaves.refl e).withMetrics metrics), List.Subset.refl _⟩

/-- Whatever befalls a site leaves it sound. -/
theorem befalls {root : Path} (h : e.Sound) (hlayout : e.store.layout = .ofRoot root)
    (hstep : e.Befalls e') : e'.Sound := by
  cases hstep with
  | asks hasks =>
    cases hasks with
    | call hcall => exact h.call hcall
    | attempt op mishaps => exact h.attempt hlayout op mishaps
  | own hown => exact h.own hown
  | calls inside =>
    obtain ⟨r, hr⟩ := h.shown
    exact ⟨⟨r, hr.scene, hr.ordered, hr.tasks⟩, h.steady, h.running⟩
  | @looks t interval ht hready hwork mishaps =>
    obtain ⟨hsound, hmem⟩ := h.look_outcome mishaps
    have hpos : 0 < interval := by simpa [Task.interval, hwork] using h.steady t ht
    unfold afterLook
    split
    · exact hsound.finish _ _
    · exact hsound.resume_watching (hmem ht) _ hpos
  | nudged ht hwork mishaps =>
    obtain ⟨hsound, -⟩ := h.look_outcome mishaps
    unfold afterNudge
    split
    · exact hsound.finish _ _
    · exact hsound
  | expires ht hready hwork hlast hon mishaps =>
    exact (h.attempt hlayout (.expire _) mishaps).finish _ _

end Sound

/-! ## Where the store is -/

/-- No operation takes the store to another place, whatever goes wrong with it. -/
theorem layout_attempt {root : Path} (hlayout : e.store.layout = .ofRoot root) (op : Operation)
    (mishaps : List (Option Mishap)) :
    (op.attempt.outcome e mishaps).2.store.layout = .ofRoot root := by
  obtain ⟨_, t, hout, hdoes⟩ | ⟨f, t, hout, hspares⟩ :=
    (op.ends_attempt ⟨e, mishaps⟩ hlayout).outcome_cases
  · rw [hout]
    exact hdoes.layout.trans hlayout
  · rw [hout]
    exact hspares.leaves.layout.trans hlayout

/-- A watcher's look at the files does not take the store to another place, whatever goes wrong with
it. -/
theorem layout_look_outcome {root : Path} (hlayout : e.store.layout = .ofRoot root)
    (mishaps : List (Option Mishap)) :
    ((Attempt.refresh true).outcome e mishaps).2.store.layout = .ofRoot root := by
  obtain ⟨outcome, t, hout, hread, -⟩ | ⟨f, t, hout, metrics, hsame⟩ :=
    (Attempt.ends_refresh true ⟨e, mishaps⟩).outcome_cases
  · rw [hout]
    exact hread.keeps.layout.trans hlayout
  · rw [hout, hsame]
    exact hlayout

/-- No step takes the store to another place. -/
theorem layout_befalls {root : Path} (hlayout : e.store.layout = .ofRoot root)
    (hstep : e.Befalls e') : e'.store.layout = .ofRoot root := by
  cases hstep with
  | asks hasks =>
    cases hasks with
    | call hcall => exact (site_happens (.inl hcall)).1.trans hlayout
    | attempt op mishaps => exact layout_attempt hlayout op mishaps
  | own hown => exact (site_happens (.inr hown)).1.trans hlayout
  | calls inside => exact hlayout
  | looks ht hready hwork mishaps =>
    unfold afterLook
    split <;> exact layout_look_outcome hlayout mishaps
  | nudged ht hwork mishaps =>
    unfold afterNudge
    split <;> exact layout_look_outcome hlayout mishaps
  | expires ht hready hwork hlast hon mishaps => exact layout_attempt hlayout (.expire _) mishaps

/-- However a site fares that has been opened, it stays sound and where it is. -/
theorem sound_fares {start : Engine} {files : Tree} {metrics : Metrics} {root : Path}
    {settings : Config.Settings} (hopen : (openAt files metrics root settings true).1 = .ok start)
    (hfares : start.Fares e) : e.Sound ∧ e.store.layout = .ofRoot root := by
  induction hfares with
  | refl => exact ⟨sound_of_openAt hopen, (site_runs hopen .refl).1⟩
  | tail _ hstep ih => exact ⟨ih.1.befalls ih.2 hstep, layout_befalls ih.2 hstep⟩

end Engine

end SiteGate
