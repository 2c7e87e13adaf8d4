import SiteGate.Proofs.Site.Moves

/-!
# How a site comes to rest

Letting everything happen that can happen now takes two rounds. The first wakes all tasks that can
do something; those that wait again wait for a later time, and some may arm countdowns. The second
starts these, which arm none (`ready_wakes`). After that no task can do anything (`Sound.settle`).

While a site sleeps its clock stops wherever a task is due, and each time the site comes to rest
before the clock goes on. As a site at rest has only tasks that are due later, every stop is later
than the one before, and no task is passed over (`Sound.sleep`).
-/

set_option autoImplicit false

namespace SiteGate.Engine

variable {e e' : Engine} {t : Task}

/-- What a site comes to by itself. -/
abbrev RunsAlone : Engine → Engine → Prop := Relation.ReflTransGen Own

/-- What a site does by itself is a run. -/
theorem RunsAlone.runs (h : e.RunsAlone e') : e.Runs e' :=
  Relation.ReflTransGen.mono (fun _ _ hown => Or.inr hown) _ _ h

/-- Whether a task can do something depends on the time, and on whether the site has been told to
stop. -/
theorem isReady_congr (hnow : e'.now = e.now) (hstopped : e'.stopped = e.stopped) (t : Task) :
    e'.isReady t = e.isReady t := by
  rw [isReady_eq, isReady_eq, hnow, hstopped]

/-! ## Rounds of waking -/

/-- After tasks have been woken one after the other, of those that can do something only countdowns
are left that have not started; and if all that were woken were such countdowns, none is left. -/
theorem ready_wakes {others : Prop} {woken : List Task} (h : e.Sound)
    (hwoken : ∀ t ∈ woken, t ∈ e.tasks ∧ e.isReady t = true)
    (hids : woken.Pairwise fun t t' => t.id ≠ t'.id)
    (hothers : ∀ t ∈ woken, t.isArmed = true ∨ others)
    (hready : ∀ t ∈ e.tasks, e.isReady t = true → t ∈ woken ∨ (t.isArmed = true ∧ others)) :
    e.RunsAlone (woken.foldl wake e) ∧ (woken.foldl wake e).Sound ∧
      (woken.foldl wake e).now = e.now ∧
      ∀ t ∈ (woken.foldl wake e).tasks, (woken.foldl wake e).isReady t = true →
        t.isArmed = true ∧ others := by
  -- The induction is on the tasks to be woken; those that are ready are among them, or are armed.
  induction woken generalizing e with
  | nil => exact ⟨.refl, h, rfl, fun t ht hr => (hready t ht hr).resolve_left (by simp)⟩
  | cons t rest ih =>
    obtain ⟨ht, hr⟩ := hwoken t List.mem_cons_self
    obtain ⟨hne, hidsRest⟩ := List.pairwise_cons.mp hids
    have hsteady := h.steady t ht
    obtain ⟨hnow, hrunning⟩ := now_stopped_wake h.running hsteady
    have hcongr := isReady_congr hnow (hrunning.trans h.running.symm)
    have hrest := ih (h.wake ht) ?_ hidsRest (fun t' ht' => hothers t' (List.mem_cons_of_mem t ht'))
      ?_
    · obtain ⟨hruns, hsound, hnowRest, hleft⟩ := hrest
      exact ⟨.head (.wake ht hr) hruns, hsound, hnowRest.trans hnow, hleft⟩
    · intro t' ht'
      obtain ⟨hmem, hr'⟩ := hwoken t' (List.mem_cons_of_mem t ht')
      exact ⟨mem_wake hmem (hne t' ht').symm, (hcongr t').trans hr'⟩
    · intro t' ht' hr'
      rw [hcongr] at hr'
      obtain ⟨hmem, hother⟩ | ⟨harmed, hlater, -⟩ | ⟨harmed, -, hnot⟩ :=
        mem_wake_cases h.running hsteady ht'
      · rcases hready t' hmem hr' with hin | hleft
        · refine .inl ((List.mem_cons.mp hin).resolve_left ?_)
          rintro rfl
          exact hother rfl
        · exact .inr hleft
      · simp only [isReady_eq, h.running, harmed, Bool.or_false, Bool.false_or,
          decide_eq_true_eq] at hr'
        omega
      · refine .inr ⟨harmed, (hothers t List.mem_cons_self).resolve_left ?_⟩
        simp [hnot]

/-- Waking all tasks that can do something leaves none but countdowns that have been armed by
others. -/
theorem Sound.wakeReady {others : Prop} (h : e.Sound)
    (hothers : ∀ t ∈ e.tasks, e.isReady t = true → t.isArmed = true ∨ others) :
    e.RunsAlone e.wakeReady ∧ e.wakeReady.Sound ∧ e.wakeReady.now = e.now ∧
      ∀ t ∈ e.wakeReady.tasks, e.wakeReady.isReady t = true → t.isArmed = true ∧ others := by
  obtain ⟨r, hr⟩ := h.shown
  refine ready_wakes h ?_ ((hr.tasks.apart.filter _).imp And.left) ?_ ?_
  · intro t ht
    exact List.mem_filter.mp ht
  · intro t ht
    obtain ⟨hmem, hready⟩ := List.mem_filter.mp ht
    exact hothers t hmem hready
  · intro t ht hready
    exact .inl (List.mem_filter.mpr ⟨ht, hready⟩)

/-- Two rounds bring a site to rest. -/
theorem Sound.settle (h : e.Sound) :
    e.RunsAlone e.settle ∧ e.settle.Settled ∧ e.settle.now = e.now := by
  obtain ⟨hruns, hsound, hnow, hleft⟩ := h.wakeReady (fun t _ _ => .inr trivial)
  have harmed : ∀ t ∈ e.wakeReady.tasks, e.wakeReady.isReady t = true →
      t.isArmed = true ∨ False := fun t ht hready => .inl (hleft t ht hready).1
  obtain ⟨hrunsNext, -, hnowNext, hnone⟩ := hsound.wakeReady harmed
  refine ⟨hruns.trans hrunsNext, ?_, hnowNext.trans hnow⟩
  intro t ht
  exact Bool.eq_false_iff.mpr fun hready => (hnone t ht hready).2

/-! ## Sleeping -/

/-- Nothing is due next just if there are no tasks. -/
theorem nextDue?_eq_none_iff : e.nextDue? = none ↔ e.tasks = [] := by
  simp [nextDue?]

/-- What is due next is the first time at which a task is due. -/
theorem nextDue?_eq_some_iff {due : Nat} :
    e.nextDue? = some due ↔ (∃ t ∈ e.tasks, t.due = due) ∧ ∀ t ∈ e.tasks, due ≤ t.due := by
  simp [nextDue?, List.min?_eq_some_iff]

/-- A site at rest may let time pass up to a time before which no task is due, and is at rest still
if none is due then. -/
theorem settled_pass (h : e.Settled) {now : Nat} (hdue : ∀ t ∈ e.tasks, now < t.due) :
    Settled { e with now := now } := by
  intro t ht
  have hready := h t ht
  rw [isReady_eq] at hready ⊢
  simp only [Bool.or_eq_false_iff] at hready
  simp [hready.1.1, hready.2, hdue t ht]

/-- Up to a deadline the clock stops only where a task is due, so that no stop is lost. -/
theorem Sound.passTo (h : e.Sound) (hsettled : e.Settled) {deadline stops : Nat}
    (hdeadline : e.now ≤ deadline) (hstops : deadline ≤ e.now + stops) :
    e.RunsAlone (Engine.passTo deadline stops e) ∧ (Engine.passTo deadline stops e).Settled ∧
      (Engine.passTo deadline stops e).now = deadline := by
  induction stops generalizing e with
  | zero =>
    obtain rfl : deadline = e.now := Nat.le_antisymm hstops hdeadline
    exact ⟨.refl, hsettled, rfl⟩
  | succ stops ih =>
    unfold Engine.passTo
    cases hnext : e.nextDue? with
    | none =>
      have hnil := nextDue?_eq_none_iff.mp hnext
      refine ⟨.single (.pass hdeadline ?_), settled_pass hsettled ?_, rfl⟩ <;> simp [hnil]
    | some due =>
      obtain ⟨⟨t, ht, rfl⟩, hfirst⟩ := nextDue?_eq_some_iff.mp hnext
      have hlater := lt_due_of_settled hsettled ht
      dsimp only
      split
      · next hdue =>
        have hmax : max e.now t.due = t.due := Nat.max_eq_right (Nat.le_of_lt hlater)
        rw [hmax]
        have hpassed : e.Own { e with now := t.due } := .pass (Nat.le_of_lt hlater) hfirst
        have hsound := h.pass t.due
        obtain ⟨hruns, hrest, hnow⟩ := hsound.settle
        have hsoundRest := (hsound.runs hruns.runs)
        obtain ⟨hrunsRest, hsettledRest, hnowRest⟩ := ih hsoundRest hrest
          (by rw [hnow]; exact hdue) (by rw [hnow]; simp only; omega)
        exact ⟨.head hpassed (hruns.trans hrunsRest), hsettledRest, hnowRest⟩
      · next hdue =>
        have hbefore : ∀ t ∈ e.tasks, deadline < t.due := by
          intro t' ht'
          have hle := hfirst t' ht'
          omega
        exact ⟨.single (.pass hdeadline fun t ht => Nat.le_of_lt (hbefore t ht)),
          settled_pass hsettled hbefore, rfl⟩

/-- While it sleeps, a site goes by itself from rest to rest. -/
theorem Sound.sleep (h : e.Sound) (hsettled : e.Settled) (ms : Nat) :
    e.RunsAlone (e.sleep ms) ∧ (e.sleep ms).Settled ∧ (e.sleep ms).now = e.now + ms :=
  h.passTo hsettled (Nat.le_add_right _ _) (Nat.le_refl _)

/-- A site that comes to rest and then sleeps is at rest after that time. -/
theorem Sound.settle_sleep (h : e.Sound) (ms : Nat) :
    e.RunsAlone (e.settle.sleep ms) ∧ (e.settle.sleep ms).Settled ∧
      (e.settle.sleep ms).now = e.now + ms := by
  obtain ⟨hruns, hsettled, hnow⟩ := h.settle
  obtain ⟨hrunsOn, hsettledOn, hnowOn⟩ := (h.runs hruns.runs).sleep hsettled ms
  exact ⟨hruns.trans hrunsOn, hsettledOn, by rw [hnowOn, hnow]⟩

end SiteGate.Engine
