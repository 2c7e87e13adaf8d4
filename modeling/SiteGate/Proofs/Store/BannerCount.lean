import SiteGate.Proofs.Site.OnTime

/-!
# What is left of a banner

The count of a published banner is what is left of its time. A reload that meets another
configuration fills it, the countdown of the generation takes one away at each tick, and expiry
empties it; everything else leaves it. So it is positive just while a timed banner is on, and never
more than the banner's seconds (`MessageBanner.Coherent`), and between two such reloads it never
grows (`banner_count_coherent`).

What carries this is that a countdown knows the count as long as it is the newest: what it has left
is what is published, and while it is about to publish the next count that is one less
(`Stage.Counts`). No other countdown has its generation, and only it counts the banner down or
switches it off.
-/

set_option autoImplicit false

namespace SiteGate

open Banner (Countdown)

/-! ## Coherent banners -/

namespace Config.MessageBanner

/-- The count of a banner is positive just if the banner is timed, and no more than its seconds. -/
structure Coherent (b : MessageBanner) : Prop where
  pos_iff : 0 < b.tickCount ↔ b.isTimed = true
  le : b.tickCount ≤ b.secondsToDisplay

/-- A banner is timed if it is on for some seconds. -/
theorem isTimed_iff {b : MessageBanner} :
    b.isTimed = true ↔ b.on = true ∧ 0 < b.secondsToDisplay := by
  simp [isTimed]

/-- The count of a banner that is not timed is zero. -/
theorem Coherent.tickCount_eq_zero {b : MessageBanner} (h : b.Coherent) (hnot : b.isTimed = false) :
    b.tickCount = 0 := by
  have hpos := h.pos_iff
  rw [hnot] at hpos
  simpa using hpos

/-- A banner is published coherent, as no configuration says what is left of it. -/
theorem coherent_full {b : MessageBanner} (h : b.tickCount = 0) : b.full.Coherent := by
  by_cases htimed : b.isTimed = true
  · have hseconds := (isTimed_iff.mp htimed).2
    have hfull : b.full = { b with tickCount := b.secondsToDisplay } := by simp [full, htimed]
    rw [hfull]
    exact ⟨iff_of_true hseconds htimed, Nat.le_refl _⟩
  · have hfull : b.full = b := by simp [full, htimed]
    rw [hfull]
    exact ⟨iff_of_false (by omega) htimed, by omega⟩

/-- A banner that is on may be counted down, but not to zero. -/
theorem Coherent.count {b : MessageBanner} (h : b.Coherent) (hon : b.on = true) {remaining : Nat}
    (hpos : 0 < remaining) (hle : remaining ≤ b.tickCount) :
    Coherent { b with tickCount := remaining } := by
  have hseconds := h.le
  refine ⟨iff_of_true hpos (isTimed_iff.mpr ⟨hon, ?_⟩), Nat.le_trans hle h.le⟩
  show 0 < b.secondsToDisplay
  omega

/-- A banner that is off has nothing left. -/
theorem coherent_off (b : MessageBanner) : Coherent { b with on := false, tickCount := 0 } :=
  ⟨iff_of_false (Nat.lt_irrefl 0) Bool.false_ne_true, Nat.zero_le _⟩

end Config.MessageBanner

namespace Store

open Config (Layout MessageBanner Settings)

variable {s t : Store} {files : Tree} {outcome : Reload}

/-- A reload leaves the banner, or begins a generation with one that is coherent and whose count is
full. -/
theorem count_of_reload (h : s.reload files = .ok (outcome, t)) :
    (t.generation = s.generation ∧ t.snapshot.banner = s.snapshot.banner) ∨
    (t.generation = s.generation + 1 ∧ outcome = .reloaded t.snapshot.banner.isTimed ∧
      t.snapshot.banner.Coherent ∧ (t.snapshot.banner.isTimed = true →
        t.snapshot.banner.tickCount = t.snapshot.banner.secondsToDisplay)) := by
  obtain ⟨-, hgeneration, hbanner, -⟩ | ⟨houtcome, hgeneration, content, -, -, hbanner⟩ :=
    banner_of_reload h
  · exact .inl ⟨hgeneration, hbanner⟩
  · refine .inr ⟨hgeneration, houtcome, ?_, ?_⟩
    · rw [hbanner]
      exact MessageBanner.coherent_full (Config.tickCount_ofText _)
    · rw [hbanner]
      intro htimed
      have hparsed : (Config.Snapshot.ofContent content).banner.isTimed = true := htimed
      simp [MessageBanner.full, hparsed]

/-- An expiry leaves the store, or it leaves a coherent banner that is off. -/
theorem expire_leaves (hbanner : s.snapshot.banner.Coherent) (files : Tree) (generation : Nat) :
    (s.expire files generation).store = s ∨
    ((s.expire files generation).store.snapshot.banner.on = false ∧
      (s.expire files generation).store.snapshot.banner.Coherent) := by
  obtain ⟨-, hexpire⟩ | ⟨-, f, -, hexpire⟩ | ⟨-, found, outcome, hresult, hexpire⟩ :=
    s.expire_cases files generation
  · exact .inl (by rw [hexpire])
  · exact .inl (by rw [hexpire])
  · rw [hexpire]
    right
    dsimp only
    split
    · exact ⟨rfl, MessageBanner.coherent_off (s.writeOff files).store.snapshot.banner⟩
    · next hoff =>
      refine ⟨Bool.eq_false_iff.mpr hoff, ?_⟩
      obtain ⟨⟨f, hfailed⟩, -⟩ | ⟨_, _, -, hreload⟩ := update_cases s files _ _ _
      · rw [writeOff, hfailed] at hresult
        cases hresult
      · obtain ⟨-, hsame⟩ | ⟨-, -, hcoherent, -⟩ := count_of_reload hreload
        · exact hsame ▸ hbanner
        · exact hcoherent

/-! ## What countdowns know -/

/-- What the stage of the newest countdown says about the banner. -/
def Stage.Counts (b : MessageBanner) : Stage → Prop
  | .armed => b.isTimed = true → b.tickCount = b.secondsToDisplay
  | .waiting count | .confirmed count => b.on = true ∧ count = ⟨.active, b.tickCount⟩
  | .publishing remaining count =>
    b.on = true ∧ 0 < remaining ∧ b.tickCount = remaining + 1 ∧ count = ⟨.active, remaining⟩
  | .expiring | .ended => True

/-- Something that happens to a store at a site: others change its files or ask it for a reload or a
change of a value, and its countdowns take their steps. Where there is no room for countdowns, they
take none. -/
inductive Happening where
  | edit (files : Tree)
  | refresh
  | update (parent key value : Text)
  | advance (i : Nat)

/-- A happening as a move of the runtime. No count is published and no banner is switched off but by
a countdown's step. -/
def Happening.move : Happening → Move
  | .edit files => .act (.edit files)
  | .refresh => .act .refresh
  | .update parent key value => .act (.update parent key value)
  | .advance i => .advance i

namespace Runtime

variable {r r' : Runtime} {i : Nat} {timer : Timer}

/-- The banner that is published. -/
def banner (r : Runtime) : MessageBanner := r.scene.store.snapshot.banner

/-- The banner is coherent, and the newest countdown knows its count. -/
structure Coherent (r : Runtime) : Prop where
  ordered : r.Ordered
  banner : r.banner.Coherent
  counts : ∀ t ∈ r.timers, t.generation = r.scene.store.generation → t.stage.Counts r.banner

/-- A runtime is coherent when nothing has been read. -/
theorem coherent_initial (layout : Layout) (settings : Settings) (files : Tree) :
    (initial layout settings files).Coherent where
  ordered := ordered_initial layout settings files
  banner := MessageBanner.coherent_off (initial layout settings files).banner
  counts := List.forall_mem_nil _

/-- What comes of a coherent runtime is coherent, and unless a generation begins the count does not
grow. -/
structure Counted (r r' : Runtime) : Prop where
  banner : r'.banner.Coherent
  counts : ∀ t ∈ r'.timers, t.generation = r'.scene.store.generation → t.stage.Counts r'.banner
  le : r'.scene.store.generation = r.scene.store.generation →
    r'.banner.tickCount ≤ r.banner.tickCount

/-! ## Acts -/

/-- An act does to the scene of a runtime what it does. -/
theorem scene_perform (r : Runtime) (a : Act) : (r.perform a).scene = r.scene.act a := by
  unfold perform
  split <;> rfl

/-- An act arms no countdown but for a generation that begins. -/
theorem mem_timers_perform {a : Act} {t : Timer} (ht : t ∈ (r.perform a).timers) :
    t ∈ r.timers ∨ r.scene.store.generation < (r.scene.act a).store.generation ∧
      t = ⟨(r.scene.act a).store.generation, .armed⟩ := by
  have hgeneration := r.scene.generation_act a
  unfold perform at ht
  split at ht
  · next hreload =>
    rw [hreload] at hgeneration
    rcases List.mem_append.mp ht with ht | ht
    · exact .inl ht
    · refine .inr ⟨?_, List.mem_singleton.mp ht⟩
      rw [hgeneration]
      exact Nat.lt_succ_self _
  · exact .inl ht

/-- An act that begins no generation may leave a banner of which the newest countdown knows the
count. -/
theorem counted_perform_of_same (r : Runtime) (a : Act) {b : MessageBanner}
    (hgeneration : (r.scene.act a).store.generation = r.scene.store.generation)
    (hbanner : (r.scene.act a).store.snapshot.banner = b) (hcoherent : b.Coherent)
    (hcounts : ∀ t ∈ r.timers, t.generation = r.scene.store.generation → t.stage.Counts b)
    (hle : b.tickCount ≤ r.banner.tickCount) : r.Counted (r.perform a) := by
  have hscene := r.scene_perform a
  have hleft : (r.perform a).banner = b := by rw [Runtime.banner, hscene, hbanner]
  refine ⟨hleft ▸ hcoherent, ?_, fun _ => hleft ▸ hle⟩
  intro t ht hnewest
  rw [hscene, hgeneration] at hnewest
  rw [hleft]
  rcases mem_timers_perform ht with ht | ⟨hlt, -⟩
  · exact hcounts t ht hnewest
  · omega

/-- An act that begins a generation leaves all countdowns behind but the one that it arms. -/
theorem counted_perform_of_next (h : r.Ordered) (a : Act) {b : MessageBanner}
    (hnext : r.scene.store.generation < (r.scene.act a).store.generation)
    (hbanner : (r.scene.act a).store.snapshot.banner = b) (hcoherent : b.Coherent)
    (hfull : b.isTimed = true → b.tickCount = b.secondsToDisplay) : r.Counted (r.perform a) := by
  have hscene := r.scene_perform a
  have hleft : (r.perform a).banner = b := by rw [Runtime.banner, hscene, hbanner]
  refine ⟨hleft ▸ hcoherent, ?_, fun hsame => ?_⟩
  · intro t ht hnewest
    rw [hscene] at hnewest
    rw [hleft]
    rcases mem_timers_perform ht with ht | ⟨-, rfl⟩
    · have hle := h.bounded _ (List.mem_map_of_mem ht)
      omega
    · exact hfull
  · rw [hscene] at hsame
    omega

/-- A reload or an update leaves the banner, or begins a generation with a full one. -/
theorem Coherent.counted_reload (h : r.Coherent) {a : Act}
    (ha : a = .refresh ∨ ∃ parent key value, a = .update parent key value) :
    r.Counted (r.perform a) := by
  have hstays : (r.scene.act a).store.generation = r.scene.store.generation →
      (r.scene.act a).store.snapshot.banner = r.banner → r.Counted (r.perform a) :=
    fun hgeneration hbanner =>
      r.counted_perform_of_same a hgeneration hbanner h.banner h.counts (Nat.le_refl _)
  obtain ⟨-, hleft⟩ | ⟨outcome, -, hreload⟩ := r.scene.reload?_cases ha
  · exact hstays (by rw [hleft]) (by rw [hleft]; rfl)
  · obtain ⟨hgeneration, hbanner⟩ | ⟨hgeneration, -, hcoherent, hfull⟩ := count_of_reload hreload
    · exact hstays hgeneration hbanner
    · exact counted_perform_of_next h.ordered a (by omega) rfl hcoherent hfull

/-! ## Steps of a countdown -/

/-- A countdown that goes to another stage leaves the others, which know what they knew. -/
theorem counts_become (h : r.Ordered) (hi : r.timers[i]? = some timer) {stage : Stage}
    {b : MessageBanner}
    (hstage : timer.generation = r.scene.store.generation → stage.Counts b)
    (hothers : timer.generation ≠ r.scene.store.generation →
      ∀ t ∈ r.timers, t.generation = r.scene.store.generation → t.stage.Counts b) :
    ∀ t ∈ (r.become i timer stage).timers, t.generation = r.scene.store.generation →
      t.stage.Counts b := by
  intro t ht hnewest
  obtain ⟨j, hj⟩ := List.mem_iff_getElem?.mp ht
  by_cases hij : i = j
  · subst hij
    rw [timers_become hi] at hj
    obtain rfl := Option.some.inj hj
    exact hstage hnewest
  · have hj' : r.timers[j]? = some t := (List.getElem?_set_ne hij).symm.trans hj
    refine hothers (fun hsame => hij ?_) t (List.mem_of_getElem? hj') hnewest
    -- Two countdowns of the newest generation are one.
    have hgi : r.generations[i]? = some timer.generation := by simp [generations, hi]
    have hgj : r.generations[j]? = some t.generation := by simp [generations, hj']
    have hlt := (List.getElem?_eq_some_iff.mp hgi).1
    refine (List.getElem?_inj hlt h.nodup).mp ?_
    rw [hgi, hgj, hsame, hnewest]

/-- A coherent runtime that stays as it is is counted. -/
theorem Coherent.counted (h : r.Coherent) : r.Counted r :=
  ⟨h.banner, h.counts, fun _ => Nat.le_refl _⟩

/-- A coherent runtime is counted after one of its countdowns has gone to a stage that knows the
count. -/
theorem Coherent.counted_become (h : r.Coherent) (hi : r.timers[i]? = some timer) {stage : Stage}
    (hstage : timer.generation = r.scene.store.generation → stage.Counts r.banner) :
    r.Counted (r.become i timer stage) :=
  ⟨h.banner, counts_become h.ordered hi hstage fun _ => h.counts, fun _ => Nat.le_refl _⟩

/-- What is counted after a countdown has gone to another stage is counted from before. -/
theorem Counted.of_become {stage : Stage} (h : (r.become i timer stage).Counted r') :
    r.Counted r' :=
  ⟨h.banner, h.counts, h.le⟩

/-- The newest countdown publishes what it has counted. -/
theorem Coherent.counted_publish (h : r.Coherent) {generation remaining : Nat} {count : Countdown}
    (hi : r.timers[i]? = some ⟨generation, .publishing remaining count⟩)
    (hnewest : generation = r.scene.store.generation) :
    r.Counted ((r.become i ⟨generation, .publishing remaining count⟩ (.waiting count)).perform
      (.tick generation remaining)) := by
  obtain ⟨hon, hpos, hcount, rfl⟩ := h.counts _ (List.mem_of_getElem? hi) hnewest
  have hle : remaining ≤ r.banner.tickCount := by omega
  have hstore : r.scene.store.setTicks generation remaining =
      r.scene.store.publish { r.scene.store.snapshot with
        banner := { r.banner with tickCount := remaining } } := by
    unfold setTicks
    rw [if_pos hnewest.symm]
    rfl
  have hcounts : ∀ t ∈ (r.become i ⟨generation, .publishing remaining ⟨.active, remaining⟩⟩
      (.waiting ⟨.active, remaining⟩)).timers, t.generation = r.scene.store.generation →
      t.stage.Counts { r.banner with tickCount := remaining } :=
    counts_become h.ordered hi (fun _ => ⟨hon, rfl⟩) fun hstale => absurd hnewest hstale
  have hgeneration : (r.scene.store.setTicks generation remaining).generation =
      r.scene.store.generation := hstore ▸ rfl
  have hbanner : (r.scene.store.setTicks generation remaining).snapshot.banner =
      { r.banner with tickCount := remaining } := congrArg (·.snapshot.banner) hstore
  exact (counted_perform_of_same (r.become i _ _) (.tick generation remaining) hgeneration hbanner
    (h.banner.count hon hpos hle) hcounts hle).of_become

/-- The newest countdown switches the banner off, or fails to. -/
theorem Coherent.counted_expire (h : r.Coherent) {generation : Nat}
    (hi : r.timers[i]? = some ⟨generation, .expiring⟩)
    (hnewest : generation = r.scene.store.generation) :
    r.Counted ((r.become i ⟨generation, .expiring⟩ .ended).perform (.expire generation)) := by
  have hends : ∀ b : MessageBanner, ∀ t ∈ (r.become i ⟨generation, .expiring⟩ .ended).timers,
      t.generation = r.scene.store.generation → t.stage.Counts b := fun b =>
    counts_become h.ordered hi (fun _ => trivial) fun hstale => absurd hnewest hstale
  have hgrows := r.scene.generation_act (.expire generation)
  obtain hleft | ⟨hoff, hcoherent⟩ := expire_leaves h.banner r.scene.files generation
  · refine (counted_perform_of_same _ _ ?_ ?_ h.banner (hends _) (Nat.le_refl _)).of_become
    · exact congrArg Store.generation hleft
    · exact congrArg (·.snapshot.banner) hleft
  · have hnot : (r.scene.store.expire r.scene.files generation).store.snapshot.banner.isTimed =
        false := by rw [MessageBanner.isTimed, hoff, Bool.false_and]
    have hzero := hcoherent.tickCount_eq_zero hnot
    by_cases hsame : (r.scene.act (.expire generation)).store.generation =
        r.scene.store.generation
    · exact (counted_perform_of_same (r.become i _ _) (.expire generation) hsame rfl hcoherent
        (hends _) (hzero ▸ Nat.zero_le _)).of_become
    · have hnext : r.scene.store.generation <
          (r.scene.act (.expire generation)).store.generation := by omega
      exact (counted_perform_of_next (h.ordered.become hi .ended) (.expire generation) hnext rfl
        hcoherent fun htimed => Bool.noConfusion (hnot.symm.trans htimed)).of_become

/-- A countdown whose generation is the store's takes its next step. -/
theorem Coherent.counted_newest (h : r.Coherent) (hi : r.timers[i]? = some timer)
    (hnewest : timer.generation = r.scene.store.generation) : r.Counted (r.advance i timer) := by
  have hcounts := h.counts timer (List.mem_of_getElem? hi) hnewest
  obtain ⟨generation, stage⟩ := timer
  cases stage with
  | armed =>
    -- It finds the count full, since nothing has been published since the reload that armed it.
    refine h.counted_become hi fun _ => ?_
    by_cases htimed : r.banner.isTimed = true
    · have hon := (MessageBanner.isTimed_iff.mp htimed).1
      have hcount : Countdown.ofBanner r.banner = ⟨.active, r.banner.secondsToDisplay⟩ := by
        simp [Countdown.ofBanner, htimed]
      have hfull : r.banner.tickCount = r.banner.secondsToDisplay := hcounts htimed
      show Stage.Counts r.banner (if (Countdown.ofBanner r.banner).phase = .active then
        .waiting (Countdown.ofBanner r.banner) else .ended)
      rw [hcount, if_pos rfl]
      exact ⟨hon, by rw [hfull]⟩
    · have hcount : Countdown.ofBanner r.banner = ⟨.idle, 0⟩ := by
        simp [Countdown.ofBanner, htimed]
      show Stage.Counts r.banner (if (Countdown.ofBanner r.banner).phase = .active then
        .waiting (Countdown.ofBanner r.banner) else .ended)
      rw [hcount, if_neg (by simp)]
      trivial
  | waiting count =>
    refine h.counted_become hi fun _ => ?_
    rw [if_pos hnewest.symm]
    exact hcounts
  | confirmed count =>
    obtain ⟨hon, rfl⟩ := hcounts
    have hstore : r.scene.store.snapshot.banner.on = true := hon
    obtain ⟨-, -, remaining, hcount, htick⟩ | ⟨-, -, -, htick⟩ | ⟨hnot, -⟩ :=
      Countdown.tick_cases ⟨.active, r.banner.tickCount⟩ true
    · simp only [advance, hstore, htick]
      exact h.counted_become hi fun _ => ⟨hon, Nat.succ_pos _, hcount, rfl⟩
    · simp only [advance, hstore, htick]
      exact h.counted_become hi fun _ => trivial
    · simp at hnot
  | publishing remaining count => exact h.counted_publish hi hnewest
  | expiring => exact h.counted_expire hi hnewest
  | ended => exact h.counted

/-! ## Runs -/

/-- Whatever happens, a coherent runtime goes to a coherent one. -/
theorem Coherent.happening (h : r.Coherent) (x : Happening) :
    r.Counted (r.step x.move) ∧ (r.step x.move).Coherent := by
  suffices hcounted : r.Counted (r.step x.move) from
    ⟨hcounted, h.ordered.step x.move, hcounted.banner, hcounted.counts⟩
  cases x with
  | edit files =>
    exact counted_perform_of_same r (.edit files) rfl rfl h.banner h.counts (Nat.le_refl _)
  | refresh => exact h.counted_reload (.inl rfl)
  | update parent key value => exact h.counted_reload (.inr ⟨parent, key, value, rfl⟩)
  | advance i =>
    cases hi : r.timers[i]? with
    | none =>
      have hstep : r.step (.advance i) = r := by simp only [step, hi]
      rw [show Happening.move (.advance i) = Move.advance i from rfl, hstep]
      exact h.counted
    | some timer =>
      rw [show Happening.move (.advance i) = Move.advance i from rfl, step_advance hi]
      by_cases hnewest : timer.generation = r.scene.store.generation
      · exact h.counted_newest hi hnewest
      · obtain ⟨stage, hstage, -⟩ := advance_of_stale hi hnewest
        rw [hstage]
        exact h.counted_become hi fun hsame => absurd hsame hnewest

/-- What comes of happenings one after the other. -/
def after (r : Runtime) (xs : List Happening) : Runtime := r.run (xs.map Happening.move)

/-- What happens leaves a runtime coherent. -/
theorem Coherent.after (h : r.Coherent) (xs : List Happening) : (r.after xs).Coherent := by
  induction xs generalizing r with
  | nil => exact h
  | cons x rest ih => exact ih (h.happening x).2

/-- As long as no generation begins the count does not grow. -/
theorem Coherent.tickCount_after_le (h : r.Coherent) (xs : List Happening)
    (hsame : (r.after xs).scene.store.generation = r.scene.store.generation) :
    (r.after xs).banner.tickCount ≤ r.banner.tickCount := by
  induction xs generalizing r with
  | nil => exact Nat.le_refl _
  | cons x rest ih =>
    obtain ⟨hcounted, hcoherent⟩ := h.happening x
    have hfirst := (grows_step r x.move).store
    have hrest := (generations_run (r.step x.move) (rest.map Happening.move)).1
    have hlast : ((r.step x.move).after rest).scene.store.generation =
        r.scene.store.generation := hsame
    have hmid : (r.step x.move).scene.store.generation = r.scene.store.generation := by
      unfold Runtime.after at hlast
      omega
    exact Nat.le_trans (ih hcoherent (hlast.trans hmid.symm)) (hcounted.le hmid)

end Runtime

/-- At every moment a published banner has a count just if it is on with seconds to display, and no
more than these, and until a generation begins the count does not grow. Others may change the files,
ask for a reload or change values at any time, and the countdowns go on, fail to switch the banner
off, or are overtaken by a reload at whatever step they are. -/
theorem banner_count_coherent (layout : Layout) (settings : Settings) (files : Tree)
    (xs more : List Happening) :
    let r := (Runtime.initial layout settings files).after xs
    (0 < r.banner.tickCount ↔ r.banner.on = true ∧ 0 < r.banner.secondsToDisplay) ∧
    r.banner.tickCount ≤ r.banner.secondsToDisplay ∧
    ((r.after more).scene.store.generation = r.scene.store.generation →
      (r.after more).banner.tickCount ≤ r.banner.tickCount) := by
  intro r
  have hcoherent : r.Coherent := (Runtime.coherent_initial layout settings files).after xs
  refine ⟨?_, hcoherent.banner.le, hcoherent.tickCount_after_le more⟩
  rw [hcoherent.banner.pos_iff, MessageBanner.isTimed_iff]

end Store

end SiteGate
