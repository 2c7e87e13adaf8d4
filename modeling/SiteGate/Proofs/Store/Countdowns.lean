import SiteGate.Banner.Countdown
import SiteGate.Proofs.Store.Run

/-!
# Countdowns beside a store

Every reload that meets a timed banner arms a countdown for the generation that it begins. A
countdown looks at the banner when it starts, waits, and at each tick does three things of which
each may come long after the one before: it asks whether its generation is still the store's, it
looks at the banner again and counts, and it publishes the count or switches the banner off. In
between the store may have gone on to other generations, and other countdowns may run. A runtime
takes the steps of all of them, and the acts of everybody else, in any order (`Runtime.run`).

What one move does to the generations is said once (`Runtime.grows_step`): the store's generation
never falls, and a countdown that is armed takes the generation that has just begun. So no two
countdowns share a generation, and one that has fallen behind the store stays behind. It has no way
to act any more: its steps move nothing but itself, and the next tick ends it
(`only_newest_countdown_acts`). Three steps with nothing in between are a whole tick
(`Runtime.run_tick`).
-/

set_option autoImplicit false

namespace SiteGate.Store

open Banner (Countdown)
open Config (Layout Settings)

/-! ## Countdowns in steps -/

/-- Where a countdown stands between two of its steps. -/
inductive Stage where
  /-- It has not looked at the banner yet. -/
  | armed
  /-- It waits for its next tick. -/
  | waiting (count : Countdown)
  /-- It has been woken, and found its generation to be the store's. -/
  | confirmed (count : Countdown)
  /-- It has counted, and is about to publish what remains. -/
  | publishing (remaining : Nat) (count : Countdown)
  /-- It has counted to zero, and is about to switch the banner off. -/
  | expiring
  | ended
deriving DecidableEq

/-- A countdown with the generation that it was armed for. -/
structure Timer where
  generation : Nat
  stage : Stage
deriving DecidableEq

/-- A store inside a runtime, with all countdowns that have been armed, in the order in which they
were. Those that have ended stay in the list. -/
structure Runtime where
  scene : Scene
  timers : List Timer

/-- A move of a runtime: somebody's act on the store or its files, or the next step of one of the
countdowns. A countdown that is told to stop is one that takes no more steps. -/
inductive Move where
  | act (a : Act)
  | advance (i : Nat)

/-- What the reload that belongs to an act has come to, if there is one and it succeeds. -/
def Scene.reload? (w : Scene) : Act → Option Reload
  | .edit _ => none
  | .refresh => (w.store.reload w.files).toOption.map Prod.fst
  | .update parent key value =>
    (w.store.update w.files parent key value).result.toOption.map Prod.snd
  | .tick _ _ => none
  | .expire generation => (w.store.expire w.files generation).result.toOption.join

namespace Runtime

/-- The runtime of a store that has read nothing. -/
def initial (layout : Layout) (settings : Settings) (files : Tree) : Runtime :=
  ⟨⟨Store.initial layout settings, files⟩, []⟩

/-- The generations of the countdowns. -/
def generations (r : Runtime) : List Nat := r.timers.map Timer.generation

/-- An act on the store. If it reads a timed banner from the file, a countdown is armed. -/
def perform (r : Runtime) (a : Act) : Runtime :=
  let scene := r.scene.act a
  match r.scene.reload? a with
  | some (.reloaded true) => ⟨scene, r.timers ++ [⟨scene.store.generation, .armed⟩]⟩
  | _ => { r with scene := scene }

/-- The runtime with one of its countdowns at another stage. -/
def become (r : Runtime) (i : Nat) (t : Timer) (stage : Stage) : Runtime :=
  { r with timers := r.timers.set i { t with stage := stage } }

/-- The next step of a countdown. -/
def advance (r : Runtime) (i : Nat) (t : Timer) : Runtime :=
  let store := r.scene.store
  match t.stage with
  | .armed =>
    let count := Countdown.ofBanner store.snapshot.banner
    r.become i t (if count.phase = .active then .waiting count else .ended)
  | .waiting count =>
    r.become i t (if store.generation = t.generation then .confirmed count else .ended)
  | .confirmed count =>
    match count.tick store.snapshot.banner.on with
    | (.running remaining, next) => r.become i t (.publishing remaining next)
    | (.expired, _) => r.become i t .expiring
    | (.cancelled, _) | (.idle, _) => r.become i t .ended
  | .publishing remaining count =>
    (r.become i t (.waiting count)).perform (.tick t.generation remaining)
  | .expiring => (r.become i t .ended).perform (.expire t.generation)
  | .ended => r

/-- What comes of a move. -/
def step (r : Runtime) : Move → Runtime
  | .act a => r.perform a
  | .advance i =>
    match r.timers[i]? with
    | some t => r.advance i t
    | none => r

/-- What comes of moves one after the other. -/
def run (r : Runtime) (moves : List Move) : Runtime := moves.foldl step r

end Runtime

/-! ## Generations -/

variable {s t : Store} {files : Tree} {outcome : Reload}

/-- How many generations begin with what a reload has come to. -/
def begun : Reload → Nat
  | .reloaded _ => 1
  | _ => 0

/-- A reload begins as many generations as what it has come to says. -/
theorem generation_reloadFrom (s : Store) (content : Bytes) (blocked : Option Bytes) :
    (s.reloadFrom content blocked).2.generation =
      s.generation + begun (s.reloadFrom content blocked).1 := by
  unfold reloadFrom
  by_cases hcontent : contentDigest content = s.snapshot.digest
  · by_cases hblocked : Config.blockedDigest blocked = s.blockedDigest
    · rw [if_pos hcontent, if_pos hblocked]
      rfl
    · rw [if_pos hcontent, if_neg hblocked]
      rfl
  · rw [if_neg hcontent]
    rfl

/-- A reload begins a generation if it meets another configuration. -/
theorem generation_reload (h : s.reload files = .ok (outcome, t)) :
    t.generation = s.generation + begun outcome := by
  unfold reload at h
  cases hcontent : files.contentAt s.layout.configFile with
  | error f => simp [hcontent] at h
  | ok content =>
    cases hblocked : Config.blockedContent files s.layout.blockedFile with
    | error f => simp [hcontent, hblocked] at h
    | ok blocked =>
      simp only [hcontent, hblocked, Except.ok.injEq] at h
      have hgeneration := s.generation_reloadFrom content blocked
      rwa [h] at hgeneration

namespace Scene

/-- A reload or an update fails and leaves the store, or the store reads the files that are left. -/
theorem reload?_cases (w : Scene) {a : Act}
    (ha : a = .refresh ∨ ∃ parent key value, a = .update parent key value) :
    (w.reload? a = none ∧ (w.act a).store = w.store) ∨
    ∃ outcome, w.reload? a = some outcome ∧
      w.store.reload (w.act a).files = .ok (outcome, (w.act a).store) := by
  obtain rfl | ⟨parent, key, value, rfl⟩ := ha
  · unfold reload? act
    cases hreload : w.store.reload w.files with
    | error f => exact .inl ⟨rfl, rfl⟩
    | ok r => exact .inr ⟨r.1, rfl, hreload⟩
  · obtain ⟨⟨f, hfailed⟩, hstore⟩ | ⟨found, outcome, hresult, hreload⟩ :=
      update_cases w.store w.files parent key value
    · exact .inl ⟨by simp [reload?, hfailed, Except.toOption], hstore⟩
    · exact .inr ⟨outcome, by simp [reload?, hresult, Except.toOption], hreload⟩

/-- An act without a reload leaves the store or counts the banner down. One with a reload leaves
what that leaves, or switches the banner off after it. -/
theorem act_cases (w : Scene) (a : Act) :
    (w.reload? a = none ∧ ((w.act a).store = w.store ∨
      ∃ generation remaining, (w.act a).store = w.store.setTicks generation remaining)) ∨
    ∃ outcome t, w.reload? a = some outcome ∧
      w.store.reload (w.act a).files = .ok (outcome, t) ∧
      ((w.act a).store = t ∨ (w.act a).store = t.switchOff) := by
  cases a with
  | edit files => exact .inl ⟨rfl, .inl rfl⟩
  | tick generation remaining => exact .inl ⟨rfl, .inr ⟨generation, remaining, rfl⟩⟩
  | refresh =>
    obtain ⟨hnone, hleft⟩ | ⟨outcome, hsome, hreload⟩ := w.reload?_cases (.inl rfl)
    · exact .inl ⟨hnone, .inl hleft⟩
    · exact .inr ⟨outcome, _, hsome, hreload, .inl rfl⟩
  | update parent key value =>
    obtain ⟨hnone, hleft⟩ | ⟨outcome, hsome, hreload⟩ :=
      w.reload?_cases (.inr ⟨parent, key, value, rfl⟩)
    · exact .inl ⟨hnone, .inl hleft⟩
    · exact .inr ⟨outcome, _, hsome, hreload, .inl rfl⟩
  | expire generation =>
    obtain ⟨-, hexpire⟩ | ⟨-, f, -, hexpire⟩ | ⟨-, found, outcome, hresult, hexpire⟩ :=
      w.store.expire_cases w.files generation
    · exact .inl ⟨by simp [reload?, hexpire, Except.toOption], .inl (by simp [act, hexpire])⟩
    · exact .inl ⟨by simp [reload?, hexpire, Except.toOption], .inl (by simp [act, hexpire])⟩
    · obtain ⟨⟨f, hfailed⟩, -⟩ | ⟨found', outcome', hupdate, hreload⟩ :=
        update_cases w.store w.files _ _ _
      · rw [writeOff, hfailed] at hresult
        cases hresult
      · rw [writeOff, hupdate] at hresult
        obtain ⟨-, rfl⟩ := Prod.mk.inj (Except.ok.inj hresult)
        refine .inr ⟨outcome', (w.store.writeOff w.files).store,
          by simp [reload?, hexpire, Except.toOption], ?_, ?_⟩
        · simp only [act, hexpire]
          exact hreload
        · simp only [act, hexpire]
          split
          · exact .inr rfl
          · exact .inl rfl

/-- An act begins a generation if its reload does. -/
theorem generation_act (w : Scene) (a : Act) :
    (w.act a).store.generation = w.store.generation + ((w.reload? a).map begun).getD 0 := by
  obtain ⟨hnone, hleft | ⟨generation, remaining, hleft⟩⟩ |
      ⟨outcome, t, hsome, hreload, hleft | hleft⟩ := w.act_cases a
  · rw [hnone, hleft]
    rfl
  · have hticks : (w.store.setTicks generation remaining).generation = w.store.generation := by
      unfold setTicks
      split <;> rfl
    rw [hnone, hleft, hticks]
    rfl
  · rw [hsome, hleft]
    exact generation_reload hreload
  · have hgeneration := generation_reload hreload
    rw [hsome, hleft]
    exact hgeneration

/-- An expiry and a count for another generation than the store's leave the scene, and reload
nothing. -/
theorem act_of_stale {w : Scene} {generation : Nat} (h : generation ≠ w.store.generation) :
    (∀ remaining, w.act (.tick generation remaining) = w) ∧
      w.act (.expire generation) = w ∧ w.reload? (.expire generation) = none := by
  have hne : ¬ w.store.generation = generation := fun heq => h heq.symm
  refine ⟨fun remaining => ?_, ?_, ?_⟩
  · simp only [act, setTicks, if_neg hne]
  · simp only [act, expire, if_neg hne]
  · simp only [reload?, expire, if_neg hne]
    rfl

end Scene

/-! ## What a move does -/

namespace Runtime

variable {r : Runtime} {i : Nat} {timer : Timer}

/-- Putting a countdown in its own place changes nothing. -/
theorem set_self (h : r.timers[i]? = some timer) : r.timers.set i timer = r.timers := by
  obtain ⟨hlt, hget⟩ := List.getElem?_eq_some_iff.mp h
  rw [← hget, List.set_getElem_self]

/-- A countdown that stays at its stage changes nothing. -/
theorem become_self (h : r.timers[i]? = some timer) : r.become i timer timer.stage = r := by
  unfold become
  rw [set_self h]

/-- A countdown keeps its generation. -/
theorem generations_become (h : r.timers[i]? = some timer) (stage : Stage) :
    (r.become i timer stage).generations = r.generations := by
  have hset := congrArg (List.map Timer.generation) (set_self h)
  unfold generations become
  rw [List.map_set] at hset ⊢
  exact hset

/-- The generations of a runtime after a move: the store's stays or grows, and the countdowns keep
theirs; if one is armed, then for a generation that has just begun. -/
structure Grows (r r' : Runtime) : Prop where
  store : r.scene.store.generation ≤ r'.scene.store.generation
  timers : r'.generations = r.generations ∨
    r.scene.store.generation < r'.scene.store.generation ∧
      r'.generations = r.generations ++ [r'.scene.store.generation]

/-- A runtime grows out of itself. -/
theorem Grows.refl (r : Runtime) : Grows r r := ⟨Nat.le_refl _, .inl rfl⟩

/-- A runtime grows by an act. -/
theorem grows_perform (r : Runtime) (a : Act) : Grows r (r.perform a) := by
  have hgeneration := r.scene.generation_act a
  unfold perform
  split
  · next hreload =>
    rw [hreload] at hgeneration
    have hnext : (r.scene.act a).store.generation = r.scene.store.generation + 1 := hgeneration
    refine ⟨?_, .inr ⟨?_, ?_⟩⟩
    · show r.scene.store.generation ≤ (r.scene.act a).store.generation
      omega
    · show r.scene.store.generation < (r.scene.act a).store.generation
      omega
    · simp [generations]
  · refine ⟨?_, .inl rfl⟩
    show r.scene.store.generation ≤ (r.scene.act a).store.generation
    omega

/-- A runtime grows when a countdown goes to another stage. -/
theorem grows_become (h : r.timers[i]? = some timer) (stage : Stage) :
    Grows r (r.become i timer stage) :=
  ⟨Nat.le_refl _, .inl (generations_become h stage)⟩

/-- A step that sets a countdown's stage and acts does to the generations what the act does. -/
theorem grows_become_perform (h : r.timers[i]? = some timer) (stage : Stage) (a : Act) :
    Grows r ((r.become i timer stage).perform a) := by
  have hgrows := grows_perform (r.become i timer stage) a
  refine ⟨hgrows.store, ?_⟩
  rw [← generations_become h stage]
  exact hgrows.timers

/-- A runtime grows by a step of a countdown. -/
theorem grows_advance (h : r.timers[i]? = some timer) : Grows r (r.advance i timer) := by
  unfold advance
  split
  · exact grows_become h _
  · exact grows_become h _
  · dsimp only
    split
    · exact grows_become h _
    · exact grows_become h _
    · exact grows_become h _
    · exact grows_become h _
  · exact grows_become_perform h _ _
  · exact grows_become_perform h _ _
  · exact .refl r

/-- The move of a countdown that is there is its next step. -/
theorem step_advance (h : r.timers[i]? = some timer) :
    r.step (.advance i) = r.advance i timer := by
  simp only [step, h]

/-- A runtime grows by every move. -/
theorem grows_step (r : Runtime) (m : Move) : Grows r (r.step m) := by
  cases m with
  | act a => exact grows_perform r a
  | advance i =>
    cases h : r.timers[i]? with
    | some timer =>
      rw [step_advance h]
      exact grows_advance h
    | none =>
      simp only [step, h]
      exact .refl r

/-! ## A tick without interruption -/

/-- A countdown that has gone to another stage stands in its place. -/
theorem timers_become (h : r.timers[i]? = some timer) (stage : Stage) :
    (r.become i timer stage).timers[i]? = some { timer with stage := stage } := by
  obtain ⟨hlt, -⟩ := List.getElem?_eq_some_iff.mp h
  exact List.getElem?_set_self hlt

/-- An act leaves the countdowns that are there. -/
theorem timers_perform (h : r.timers[i]? = some timer) (a : Act) :
    (r.perform a).timers[i]? = some timer := by
  obtain ⟨hlt, -⟩ := List.getElem?_eq_some_iff.mp h
  unfold perform
  split
  · exact (List.getElem?_append_left hlt).trans h
  · exact h

/-- Of two stages that a countdown goes to the later one counts. -/
theorem become_become (generation : Nat) (stage first second : Stage) :
    (r.become i ⟨generation, stage⟩ first).become i ⟨generation, first⟩ second =
      r.become i ⟨generation, stage⟩ second := by
  simp [become, List.set_set]

/-- An act and a countdown that goes to another stage may be exchanged. -/
theorem become_perform (h : r.timers[i]? = some timer) (stage : Stage) (a : Act) :
    (r.become i timer stage).perform a = (r.perform a).become i timer stage := by
  obtain ⟨hlt, -⟩ := List.getElem?_eq_some_iff.mp h
  unfold perform become
  dsimp only
  split
  · rw [List.set_append_left i _ hlt]
  · rfl

/-- What a countdown that waits does if nothing comes between the three steps of its tick. -/
def tick (r : Runtime) (i generation : Nat) (count : Countdown) : Runtime :=
  let timer : Timer := ⟨generation, .waiting count⟩
  if r.scene.store.generation = generation then
    match count.tick r.scene.store.snapshot.banner.on with
    | (.running remaining, next) =>
      (r.perform (.tick generation remaining)).become i timer (.waiting next)
    | (.expired, _) => (r.perform (.expire generation)).become i timer .ended
    | (.cancelled, _) | (.idle, _) => r.become i timer .ended
  else r.become i timer .ended

/-- A tick is the next three steps of a countdown that waits, and fewer where it ends before. -/
theorem run_tick {generation : Nat} {count : Countdown}
    (h : r.timers[i]? = some ⟨generation, .waiting count⟩) :
    r.run [.advance i, .advance i, .advance i] = r.tick i generation count := by
  have hended : ∀ {r : Runtime}, r.timers[i]? = some ⟨generation, .ended⟩ →
      r.step (.advance i) = r := by
    intro r hr
    rw [step_advance hr]
    rfl
  have hbecome := timers_become h
  -- The countdown is set to one stage after the other, of which only the last is left; an act in
  -- between may arm another countdown, but behind it in the list.
  unfold run tick
  simp only [List.foldl_cons, List.foldl_nil, step_advance h]
  by_cases hgeneration : r.scene.store.generation = generation
  · have hwoken : r.advance i ⟨generation, .waiting count⟩ =
        r.become i ⟨generation, .waiting count⟩ (.confirmed count) := by
      simp only [advance, if_pos hgeneration]
    rw [if_pos hgeneration, hwoken, step_advance (hbecome (.confirmed count))]
    unfold advance
    dsimp only
    have hscene :
        (r.become i ⟨generation, .waiting count⟩ (.confirmed count)).scene = r.scene := rfl
    rw [hscene]
    cases htick : count.tick r.scene.store.snapshot.banner.on with
    | mk outcome next =>
      cases outcome with
      | running remaining =>
        dsimp only
        rw [become_become, step_advance (hbecome _)]
        dsimp only [advance]
        rw [become_become, become_perform h]
      | expired =>
        dsimp only
        rw [become_become, step_advance (hbecome _)]
        dsimp only [advance]
        rw [become_become, become_perform h]
      | cancelled =>
        dsimp only
        rw [become_become, hended (hbecome .ended)]
      | idle =>
        dsimp only
        rw [become_become, hended (hbecome .ended)]
  · have hwoken : r.advance i ⟨generation, .waiting count⟩ =
        r.become i ⟨generation, .waiting count⟩ .ended := by
      simp only [advance, if_neg hgeneration]
    rw [if_neg hgeneration, hwoken, hended (hbecome .ended), hended (hbecome .ended)]

/-! ## Runs -/

/-- No two countdowns have the same generation, and none is ahead of the store. -/
structure Ordered (r : Runtime) : Prop where
  nodup : r.generations.Nodup
  bounded : ∀ g ∈ r.generations, g ≤ r.scene.store.generation

/-- A runtime that has read nothing has no countdowns. -/
theorem ordered_initial (layout : Layout) (settings : Settings) (files : Tree) :
    (initial layout settings files).Ordered :=
  ⟨List.Pairwise.nil, fun _ hg => nomatch hg⟩

/-- A later generation may begin with a countdown of its own. -/
theorem Ordered.append (h : r.Ordered) {r' : Runtime}
    (hlt : r.scene.store.generation < r'.scene.store.generation)
    (hnew : r'.generations = r.generations ++ [r'.scene.store.generation]) : r'.Ordered := by
  -- The store has moved past every generation that a countdown has.
  have hfresh : r'.scene.store.generation ∉ r.generations := by
    intro hmem
    have hle := h.bounded _ hmem
    omega
  constructor
  · rw [hnew, List.nodup_append]
    refine ⟨h.nodup, List.pairwise_singleton _ _, ?_⟩
    rintro g hg g' hg' rfl
    obtain rfl := List.mem_singleton.mp hg'
    exact hfresh hg
  · intro g hg
    rw [hnew] at hg
    rcases List.mem_append.mp hg with hg | hg
    · exact Nat.le_trans (h.bounded g hg) (Nat.le_of_lt hlt)
    · exact Nat.le_of_eq (List.mem_singleton.mp hg)

/-- A move keeps the countdowns in order. -/
theorem Ordered.step (h : r.Ordered) (m : Move) : (r.step m).Ordered := by
  obtain ⟨hstore, hsame | ⟨hlt, hnew⟩⟩ := grows_step r m
  · constructor
    · rw [hsame]
      exact h.nodup
    · rw [hsame]
      exact fun g hg => Nat.le_trans (h.bounded g hg) hstore
  · exact h.append hlt hnew

/-- A countdown that goes to another stage keeps the countdowns in order. -/
theorem Ordered.become (h : r.Ordered) (hi : r.timers[i]? = some timer) (stage : Stage) :
    (r.become i timer stage).Ordered := by
  constructor
  · rw [generations_become hi]
    exact h.nodup
  · rw [generations_become hi]
    exact h.bounded

/-- Moves one after the other keep the countdowns in order. -/
theorem Ordered.run (h : r.Ordered) (moves : List Move) : (r.run moves).Ordered := by
  induction moves generalizing r with
  | nil => exact h
  | cons m rest ih => exact ih (h.step m)

/-- A run takes the store's generation no way back, and leaves the countdowns theirs. -/
theorem generations_run (r : Runtime) (moves : List Move) :
    r.scene.store.generation ≤ (r.run moves).scene.store.generation ∧
      r.generations <+: (r.run moves).generations := by
  induction moves generalizing r with
  | nil => exact ⟨Nat.le_refl _, List.prefix_rfl⟩
  | cons m rest ih =>
    obtain ⟨hstore, hprefix⟩ := ih (r.step m)
    have hgrows := grows_step r m
    refine ⟨Nat.le_trans hgrows.store hstore, List.IsPrefix.trans ?_ hprefix⟩
    rcases hgrows.timers with hsame | ⟨-, hnew⟩
    · exact hsame ▸ List.prefix_rfl
    · rw [hnew]
      exact List.prefix_append _ _

/-- The next step of a countdown whose generation is not the store's sets that countdown's stage and
nothing else, and ends it where it waits for a tick. -/
theorem advance_of_stale (hi : r.timers[i]? = some timer)
    (h : timer.generation ≠ r.scene.store.generation) :
    ∃ stage, r.advance i timer = r.become i timer stage ∧
      ∀ count, timer.stage = .waiting count → stage = .ended := by
  obtain ⟨htick, hexpire, hreload⟩ := Scene.act_of_stale h
  obtain ⟨generation, stage⟩ := timer
  cases stage with
  | armed => exact ⟨_, rfl, by simp⟩
  | waiting count =>
    refine ⟨.ended, ?_, fun _ _ => rfl⟩
    have hne : ¬ r.scene.store.generation = generation := fun heq => h heq.symm
    simp only [advance, if_neg hne]
  | confirmed count =>
    unfold advance
    dsimp only
    split
    · exact ⟨_, rfl, by simp⟩
    · exact ⟨_, rfl, by simp⟩
    · exact ⟨_, rfl, by simp⟩
    · exact ⟨_, rfl, by simp⟩
  | publishing remaining count =>
    refine ⟨.waiting count, ?_, by simp⟩
    unfold advance perform
    simp [become, htick, Scene.reload?]
  | expiring =>
    refine ⟨.ended, ?_, by simp⟩
    unfold advance perform
    simp [become, hexpire, hreload]
  | ended => exact ⟨.ended, (become_self hi).symm, by simp⟩

/-- A countdown that has fallen behind the store is there for ever, and never catches up. -/
theorem Ordered.stale_run (h : r.Ordered) (hi : r.timers[i]? = some timer)
    (hstale : timer.generation ≠ r.scene.store.generation) (moves : List Move) :
    ∃ stage, (r.run moves).timers[i]? = some ⟨timer.generation, stage⟩ ∧
      timer.generation ≠ (r.run moves).scene.store.generation := by
  obtain ⟨hstore, hprefix⟩ := generations_run r moves
  have hget : r.generations[i]? = some timer.generation := by
    simp [generations, hi]
  have hle := h.bounded _ (List.mem_of_getElem? hget)
  obtain ⟨hlt, hat⟩ := List.getElem?_eq_some_iff.mp hget
  have hlater : (r.run moves).generations[i]? = some timer.generation := by
    obtain ⟨rest, hrest⟩ := hprefix
    rw [← hrest, List.getElem?_append_left hlt, hget]
  obtain ⟨timer', htimer', hgeneration⟩ : ∃ timer', (r.run moves).timers[i]? = some timer' ∧
      timer'.generation = timer.generation := by
    simpa [generations] using hlater
  refine ⟨timer'.stage, ?_, by omega⟩
  rw [htimer', ← hgeneration]

end Runtime

/-- However reloads, updates, changes of the files and the steps of all countdowns follow upon one
another, no two countdowns are armed for one generation. A countdown whose generation is not the
store's stays behind for good; whatever its next step is, that step changes neither the store nor
the files nor any other countdown, and at a tick it is its last. -/
theorem only_newest_countdown_acts (layout : Layout) (settings : Settings) (files : Tree)
    (moves : List Move) :
    let r := (Runtime.initial layout settings files).run moves
    (r.timers.map Timer.generation).Nodup ∧
      ∀ i timer, r.timers[i]? = some timer → timer.generation ≠ r.scene.store.generation →
        (∃ stage,
          r.step (.advance i) = { r with timers := r.timers.set i { timer with stage := stage } } ∧
            ∀ count, timer.stage = .waiting count → stage = .ended) ∧
        ∀ more, ∃ stage, (r.run more).timers[i]? = some ⟨timer.generation, stage⟩ ∧
          timer.generation ≠ (r.run more).scene.store.generation := by
  intro r
  have hordered : r.Ordered := (Runtime.ordered_initial layout settings files).run moves
  refine ⟨hordered.nodup, ?_⟩
  intro i timer hi hstale
  refine ⟨?_, hordered.stale_run hi hstale⟩
  obtain ⟨stage, hstep, hends⟩ := Runtime.advance_of_stale hi hstale
  exact ⟨stage, (Runtime.step_advance hi).trans hstep, hends⟩

/-- A site with a banner that is shown for three seconds. -/
def bannerFiles : Tree :=
  ⟨[(["w".toList], .directory), (["w".toList, "appdata".toList], .directory),
    (["w".toList, "appdata".toList, ".cfg".toList], .directory),
    (["w".toList, "appdata".toList, ".cfg".toList, ".all".toList],
      .file (Text.encode "MessageBanner\ndisplay-mode on\nseconds-to-display 3".toList))]⟩

/-- A countdown that is overtaken after it has found its generation to be the store's counts down,
but does not publish what it has counted. -/
example :
    let r := (Runtime.initial (.ofRoot "w".toList) ⟨1, 1000, false, false⟩ bannerFiles).run
      [.act .refresh, .advance 0, .advance 0,
        .act (.update "MessageBanner".toList "seconds-to-display".toList "5".toList),
        .advance 0, .advance 0]
    r.timers = [⟨1, .waiting ⟨.active, 2⟩⟩, ⟨2, .armed⟩] ∧
      r.scene.store.snapshot.banner.tickCount = 5 := by
  decide +kernel

end SiteGate.Store
