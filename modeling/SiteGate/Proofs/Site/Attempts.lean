import SiteGate.Proofs.Files.Directory
import SiteGate.Proofs.Store.Site

/-!
# Operations step by step

An operation of a site takes its steps on files one after the other: it opens a file, reads it, asks
whether there is a file, makes the swap file, fills it, has it put on the disk, and moves it. Each of
them may meet with a mishap that is not in the tree of files, such as a full disk, and a step that
changes files may have done a part of its work by then. What the operation records about the store it
records between these steps, in the order in which it is written here.

Where nothing goes wrong, the steps together are the operation (`Operation.comesTo_perform`).
-/

set_option autoImplicit false

namespace SiteGate

/-- What goes wrong with a step: the cause, and how much of the step has been done by then. -/
structure Mishap where
  cause : FileError
  progress : Nat
deriving DecidableEq

/-- A site while something is done to it, and what goes wrong with the steps on files that come next,
one entry for each step. With the steps after them nothing goes wrong. -/
structure Trial where
  engine : Engine
  mishaps : List (Option Mishap)

/-- Something that is done to a site, step by step. Where it fails, what has been done stays done. -/
abbrev Attempt (α : Type) := EStateM FileFailure Trial α

namespace Attempt

variable {α : Type}

/-! ## Steps -/

/-- Takes what goes wrong with the step that comes next, if anything does. -/
def mishap? : Attempt (Option Mishap) :=
  modifyGet fun t => (t.mishaps.head?.join, { t with mishaps := t.mishaps.tail })

/-- A step that looks at the files, and names `p` when it fails. -/
def look (p : Path) (answer : Tree → Except FileError α) : Attempt α := do
  match ← mishap? with
  | some m => throw ⟨p, m.cause⟩
  | none =>
    match answer (← get).engine.files with
    | .ok a => pure a
    | .error e => throw ⟨p, e⟩

/-- A step that changes the files, and names `p` when it fails. What it comes to when only a part of
it is done is given by `done`; all of it is `size` parts. -/
def change (p : Path) (size : Nat) (done : Nat → Tree → Except FileError Tree) : Attempt Unit := do
  let m? ← mishap?
  let e := (← get).engine
  match done ((m?.map Mishap.progress).getD size) e.files with
  | .error cause => throw ⟨p, (m?.map Mishap.cause).getD cause⟩
  | .ok files =>
    modify fun t => { t with engine := { e with files := files } }
    match m? with
    | some m => throw ⟨p, m.cause⟩
    | none => pure ()

/-- The content of a file: the file is opened, and then read. -/
def contentAt (p : Path) : Attempt Bytes := do
  let node ← look p (·.node p)
  look p fun _ =>
    match node with
    | .file content => .ok content
    | .directory => .error .isADirectory

/-- Whether there is a file. One that cannot be asked about counts as missing. -/
def holds (p : Path) : Attempt Bool := do
  match ← mishap? with
  | some _ => pure false
  | none => return (← get).engine.files.holds p

/-- The content of the list of blocked addresses, if there is one. -/
def blockedContent : Attempt (Option Bytes) := do
  let p := (← get).engine.store.layout.blockedFile
  if ← holds p then
    let content ← contentAt p
    return some content
  else return none

/-- Makes a file, or empties the one that is there. -/
def make (p : Path) : Attempt Unit :=
  change p 1 fun n files => if n = 0 then .ok files else files.write p []

/-- Writes the content into the swap file, from its beginning on. -/
def fill (p : Path) (content : Bytes) : Attempt Unit :=
  change p content.length fun n files => files.write p (content.take n)

/-- Has a file put on the disk, which changes nothing that can be read. -/
def sync (p : Path) : Attempt Unit := change p 0 fun _ files => .ok files

/-- Moves a file to another path, which is named if that fails. -/
def move (source target : Path) : Attempt Unit :=
  change target 1 fun n files => if n = 0 then .ok files else files.rename source target

/-- Replaces the content of the file at `path` by way of the file at `swap`. -/
def replace (path swap : Path) (content : Bytes) : Attempt Unit := do
  make swap
  fill swap content
  sync swap
  move swap path

/-- The content of a configuration after a value has been changed. -/
def written (parent key value : Text) (old : Bytes) : Bytes :=
  Text.encode (Config.updateText (Text.decode old) parent key value).2

/-- Changes a value in the configuration file. The answer says whether its line has been found. -/
def updateFile (parent key value : Text) : Attempt Bool := do
  let layout := (← get).engine.store.layout
  let content ← contentAt layout.configFile
  replace layout.configFile layout.swapFile (written parent key value content)
  return (Config.updateText (Text.decode content) parent key value).1

/-- A step that changes the site without touching a file. -/
def record (f : Engine → Engine) : Attempt Unit :=
  modify fun t => { t with engine := f t.engine }

/-- Publishes another configuration. -/
def publish (next : Config.Snapshot) : Attempt Unit :=
  record fun e => { e with store := e.store.publish next }

/-- Records which list of blocked addresses has been read. -/
def recordDigest (digest : Text) : Attempt Unit :=
  record fun e => { e with store := { e.store with blockedDigest := digest } }

/-- Begins the next generation of the banner, with a countdown if it is timed and whoever reloads is
`inside` a runtime. -/
def beginGeneration (inside timed : Bool) : Attempt Unit := do
  record fun e => { e with store := { e.store with generation := e.store.generation + 1 } }
  record fun e =>
    if timed && inside then
      e.spawn (.armed e.store.generation e.store.settings.tickInterval) e.now
    else e

/-- Reads both files, the list of blocked addresses a second time if it is going to be published. -/
def reload (inside : Bool) : Attempt Reload := do
  let s := (← get).engine.store
  let content ← contentAt s.layout.configFile
  let digest := Config.blockedDigest (← blockedContent)
  if contentDigest content = s.snapshot.digest then
    if digest = s.blockedDigest then return .unchanged
    else
      let addresses := Config.blockedOfContent (← blockedContent)
      -- Nothing can fail from here on.
      recordDigest digest
      publish { s.snapshot with blockedAddresses := addresses }
      return .blockedRefreshed
  else
    let next := s.snapshotOf content (Config.blockedOfContent (← blockedContent))
    -- Nor from here on.
    recordDigest digest
    record fun e => { e with metrics := e.metrics.recordBanner next.banner.on }
    publish next
    beginGeneration inside next.banner.isTimed
    return .reloaded next.banner.isTimed

/-- Reads the files again and counts what has come of it. -/
def refresh (inside : Bool) : Attempt Reload :=
  tryCatch
    (do
      let outcome ← reload inside
      record fun e => { e with metrics := e.metrics.recordReload (.ok outcome) }
      pure outcome)
    fun f => do
      record fun e => { e with metrics := e.metrics.recordReload (.error f) }
      throw f

/-- Changes a value in the configuration file and reads the files again. -/
def update (inside : Bool) (parent key value : Text) : Attempt Bool := do
  let found ← updateFile parent key value
  let _ ← reload inside
  return found

/-- Publishes the banner as off if it is on, and counts it as off. -/
def noteOff (e : Engine) : Engine :=
  { e with
    store := if e.store.snapshot.banner.on then e.store.switchOff else e.store
    metrics := e.metrics.recordBanner false }

/-- Switches off the banner of a generation, for the countdown that is over: it runs inside a
runtime. -/
def expire (generation : Nat) : Attempt Unit := do
  if (← get).engine.store.generation = generation then
    let _ ← update true "MessageBanner".toList "display-mode".toList "off".toList
    record noteOff

/-- A site with other files. -/
def withFiles (e : Engine) (files : Tree) : Engine := { e with files := files }

/-- A site with another file at a place. -/
def filled (e : Engine) (place : Place) (c : Bytes) : Engine :=
  withFiles e (e.files.put place (.file c))

end Attempt

/-- What may be asked of a site, or of its store when a countdown is over, and may fail. -/
inductive Operation where
  | refresh
  | update (parent key value : Text)
  | expire (generation : Nat)

namespace Operation

/-- What an operation comes to where nothing goes wrong. -/
def perform (e : Engine) : Operation → Except FileFailure Unit × Engine
  | .refresh => (e.refresh.1.map fun _ => (), e.refresh.2)
  | .update parent key value =>
    ((e.update parent key value).1.map fun _ => (), (e.update parent key value).2)
  | .expire generation => e.expire generation

/-- An operation step by step. Whether it takes place inside a runtime is asked when it is called. -/
def attempt : Operation → Attempt Unit
  | .refresh => do let _ ← Attempt.refresh (← get).engine.concurrent
  | .update parent key value => do
    let _ ← Attempt.update (← get).engine.concurrent parent key value
  | .expire generation => Attempt.expire generation

/-- The content that an operation writes over a configuration, if it writes any. -/
def written? : Operation → Bytes → Option Bytes
  | .refresh, _ => none
  | .update parent key value, old => some (Attempt.written parent key value old)
  | .expire _, old =>
    some (Attempt.written "MessageBanner".toList "display-mode".toList "off".toList old)

end Operation

/-! ## Where nothing goes wrong -/

namespace Attempt

variable {α β : Type} {x : Attempt α} {f : α → Attempt β} {e e₁ e' : Engine}

/-- A step is followed by the next one, unless it fails. -/
theorem run_bind (x : Attempt α) (f : α → Attempt β) (t : Trial) :
    (x >>= f).run t =
      match x.run t with
      | .ok a t' => (f a).run t'
      | .error e t' => .error e t' := by
  simp only [EStateM.run, Bind.bind, EStateM.bind]
  cases x t <;> rfl

/-- What an attempt comes to where nothing goes wrong. -/
def ComesTo (x : Attempt α) (e : Engine) (r : Except FileFailure α) (e' : Engine) : Prop :=
  x.run ⟨e, []⟩ =
    match r with
    | .ok a => .ok a ⟨e', []⟩
    | .error f => .error f ⟨e', []⟩

namespace ComesTo

/-- A step that succeeds is followed by the next one. -/
theorem bind {a : α} {r : Except FileFailure β} (h : x.ComesTo e (.ok a) e₁)
    (hf : (f a).ComesTo e₁ r e') : (x >>= f).ComesTo e r e' := by
  unfold ComesTo at h ⊢
  rw [run_bind, h]
  exact hf

/-- A step that fails is the last one. -/
theorem bind_error {c : FileFailure} (h : x.ComesTo e (.error c) e') :
    (x >>= f).ComesTo e (.error c) e' := by
  unfold ComesTo at h ⊢
  rw [run_bind, h]

/-- Asking for the site takes no step. -/
theorem get_bind {f : Trial → Attempt β} {r : Except FileFailure β}
    (h : (f ⟨e, []⟩).ComesTo e r e') : (MonadState.get >>= f).ComesTo e r e' := h

/-- An answer takes no step. -/
theorem pure (a : α) (e : Engine) : (Pure.pure a : Attempt α).ComesTo e (.ok a) e := rfl

/-- What is recorded about a site takes no step. -/
theorem record (f : Engine → Engine) (e : Engine) : (Attempt.record f).ComesTo e (.ok ()) (f e) :=
  rfl

/-- What succeeds is not handled. -/
theorem tryCatch {handle : FileFailure → Attempt α} {a : α} (h : x.ComesTo e (.ok a) e') :
    (MonadExcept.tryCatch x handle).ComesTo e (.ok a) e' := by
  unfold ComesTo at h ⊢
  simp only [EStateM.run, MonadExcept.tryCatch, tryCatchThe, MonadExceptOf.tryCatch,
    EStateM.tryCatch] at h ⊢
  rw [h]

/-- What fails is handled. -/
theorem tryCatch_error {handle : FileFailure → Attempt α} {c : FileFailure}
    {r : Except FileFailure α} (h : x.ComesTo e (.error c) e₁)
    (hhandle : (handle c).ComesTo e₁ r e') : (MonadExcept.tryCatch x handle).ComesTo e r e' := by
  unfold ComesTo at h hhandle ⊢
  simp only [EStateM.run, MonadExcept.tryCatch, tryCatchThe, MonadExceptOf.tryCatch,
    EStateM.tryCatch] at h hhandle ⊢
  rw [h]
  exact hhandle

/-- An answer may be dropped. -/
theorem discard {r : Except FileFailure α} (h : x.ComesTo e r e') :
    (x >>= fun _ => Pure.pure () : Attempt Unit).ComesTo e (r.map fun _ => ()) e' := by
  cases r with
  | error c => exact .bind_error h
  | ok a => exact .bind h (.pure () e')

end ComesTo

/-- Where nothing goes wrong, a look at the files finds what is in them. -/
theorem comesTo_look (p : Path) (answer : Tree → Except FileError α) (e : Engine) :
    (look p answer).ComesTo e ((answer e.files).mapError (⟨p, ·⟩)) e := by
  refine .bind (a := none) rfl (.get_bind ?_)
  dsimp only
  cases answer e.files <;> rfl

/-- Where nothing goes wrong, a change of the files is done to its end, or the files do not allow
it. -/
theorem comesTo_change (p : Path) (size : Nat) (part : Nat → Tree → Except FileError Tree)
    (e : Engine) :
    (change p size part).ComesTo e (((part size e.files).mapError (⟨p, ·⟩)).map fun _ => ())
      (withFiles e ((part size e.files).toOption.getD e.files)) := by
  refine .bind (a := none) rfl (.get_bind ?_)
  dsimp only [Option.map_none, Option.getD_none]
  cases part size e.files <;> rfl

/-- Where nothing goes wrong, a file is read as it is. -/
theorem comesTo_contentAt (p : Path) (e : Engine) :
    (contentAt p).ComesTo e (e.files.contentAt p) e := by
  have hopen := comesTo_look p (·.node p) e
  unfold Tree.contentAt Tree.read
  cases hnode : e.files.node p with
  | error cause =>
    rw [hnode] at hopen
    exact .bind_error hopen
  | ok node =>
    rw [hnode] at hopen
    refine .bind hopen ?_
    have hread := comesTo_look p (fun _ => match node with
      | .file content => .ok content
      | .directory => .error .isADirectory) e
    cases node <;> exact hread

/-- Where nothing goes wrong, the list of blocked addresses is read as it is. -/
theorem comesTo_blockedContent (e : Engine) :
    blockedContent.ComesTo e (Config.blockedContent e.files e.store.layout.blockedFile) e := by
  refine .get_bind ?_
  have hasked : (holds e.store.layout.blockedFile).ComesTo e
      (.ok (e.files.holds e.store.layout.blockedFile)) e := rfl
  unfold Config.blockedContent
  refine .bind hasked ?_
  cases e.files.holds e.store.layout.blockedFile with
  | false => exact .pure none e
  | true =>
    have hread := comesTo_contentAt e.store.layout.blockedFile e
    cases hcontent : e.files.contentAt e.store.layout.blockedFile with
    | error f =>
      rw [hcontent] at hread
      exact .bind_error hread
    | ok content =>
      rw [hcontent] at hread
      exact .bind hread (.pure _ e)

/-- Where nothing goes wrong, the steps of replacing a file are the replacement. -/
theorem comesTo_replace (path swap : Path) (content : Bytes) (e : Engine) :
    (replace path swap content).ComesTo e (e.files.replace path swap content).1
      (withFiles e (e.files.replace path swap content).2) := by
  have hmake := comesTo_change swap 1
    (fun n files => if n = 0 then .ok files else files.write swap []) e
  rw [if_neg Nat.one_ne_zero] at hmake
  -- Whether the swap file can be written does not depend on what is written: either it cannot be
  -- made, or it is made empty and filled at one place.
  obtain ⟨cause, hnever⟩ | ⟨place, -, hwrite⟩ := e.files.write_cases swap
  · have hreplace : e.files.replace path swap content = (.error ⟨swap, cause⟩, e.files) := by
      simp only [Tree.replace, Tree.storeAt, hnever]
    rw [hnever] at hmake
    rw [hreplace]
    exact .bind_error hmake
  · rw [(hwrite []).1] at hmake
    have hfill := comesTo_change swap content.length
      (fun n files => files.write swap (content.take n)) (filled e place [])
    rw [List.take_length, show (filled e place []).files.write swap content =
      .ok (e.files.put place (.file content)) from (hwrite []).2 content] at hfill
    have hsync : (sync swap).ComesTo (filled e place content) (.ok ()) (filled e place content) := rfl
    have hmove := comesTo_change path 1
      (fun n files => if n = 0 then .ok files else files.rename swap path) (filled e place content)
    rw [if_neg Nat.one_ne_zero] at hmove
    cases hrename : (filled e place content).files.rename swap path with
    | error cause =>
      have hreplace : e.files.replace path swap content =
          (.error ⟨path, cause⟩, (filled e place content).files) := by
        unfold filled withFiles at hrename ⊢
        simp only [Tree.replace, Tree.storeAt, (hwrite content).1, hrename]
      rw [hrename] at hmove
      rw [hreplace]
      exact .bind hmake (.bind hfill (.bind hsync hmove))
    | ok renamed =>
      have hreplace : e.files.replace path swap content = (.ok (), renamed) := by
        unfold filled withFiles at hrename
        simp only [Tree.replace, Tree.storeAt, (hwrite content).1, hrename]
      rw [hrename] at hmove
      rw [hreplace]
      exact .bind hmake (.bind hfill (.bind hsync hmove))

/-- Where nothing goes wrong, the steps of changing a value in the file are the change. -/
theorem comesTo_updateFile (parent key value : Text) (e : Engine) :
    (updateFile parent key value).ComesTo e
      (Config.updateFile e.files e.store.layout.configFile e.store.layout.swapFile parent key value).1
      (withFiles e (Config.updateFile e.files e.store.layout.configFile e.store.layout.swapFile parent
        key value).2) := by
  refine .get_bind ?_
  have hread := comesTo_contentAt e.store.layout.configFile e
  unfold Config.updateFile
  cases hcontent : e.files.contentAt e.store.layout.configFile with
  | error f =>
    rw [hcontent] at hread
    exact .bind_error hread
  | ok content =>
    rw [hcontent] at hread
    refine .bind hread ?_
    have hreplace := comesTo_replace e.store.layout.configFile e.store.layout.swapFile
      (written parent key value content) e
    dsimp only [written] at hreplace ⊢
    cases hresult : e.files.replace e.store.layout.configFile e.store.layout.swapFile
        (Text.encode (Config.updateText (Text.decode content) parent key value).2) with
    | mk result files =>
      rw [hresult] at hreplace
      cases result with
      | error f => exact .bind_error hreplace
      | ok u => exact .bind hreplace (.pure _ _)

/-- Where nothing goes wrong, the steps of reading the files again are the reload: both readings of
the blocked list find the same one. -/
theorem comesTo_reload (e : Engine) (inside : Bool) :
    (reload inside).ComesTo e ((e.store.reload e.files).map Prod.fst)
      (match e.store.reload e.files with
        | .ok (outcome, s) => Engine.noteReload { e with store := s } inside outcome
        | .error _ => e) := by
  refine .get_bind ?_
  have hconfig := comesTo_contentAt e.store.layout.configFile e
  have hblocked := comesTo_blockedContent e
  unfold Store.reload
  cases hcontent : e.files.contentAt e.store.layout.configFile with
  | error f =>
    rw [hcontent] at hconfig
    exact .bind_error hconfig
  | ok content =>
    rw [hcontent] at hconfig
    refine .bind hconfig ?_
    dsimp only
    cases hlist : Config.blockedContent e.files e.store.layout.blockedFile with
    | error f =>
      rw [hlist] at hblocked
      exact .bind_error hblocked
    | ok blocked =>
      rw [hlist] at hblocked
      refine .bind hblocked ?_
      unfold Store.reloadFrom
      dsimp only
      by_cases hsame : contentDigest content = e.store.snapshot.digest
      · rw [if_pos hsame, if_pos hsame]
        by_cases hsameList : Config.blockedDigest blocked = e.store.blockedDigest
        · rw [if_pos hsameList, if_pos hsameList]
          exact .pure _ _
        · -- The second reading of the list finds what the first one has found.
          rw [if_neg hsameList, if_neg hsameList]
          exact .bind hblocked rfl
      · rw [if_neg hsame, if_neg hsame]
        exact .bind hblocked rfl

/-- Where nothing goes wrong, the steps of a refresh are the refresh. -/
theorem comesTo_refresh (e : Engine) (inside : Bool) :
    (refresh inside).ComesTo e (e.refreshFrom inside).1 (e.refreshFrom inside).2 := by
  have hreload := comesTo_reload e inside
  unfold Engine.refreshFrom
  cases hresult : e.store.reload e.files with
  | error f =>
    rw [hresult] at hreload
    exact .tryCatch_error (.bind_error hreload) rfl
  | ok r =>
    rw [hresult] at hreload
    exact .tryCatch (.bind hreload rfl)

/-- Where nothing goes wrong, the steps of an update are the update. -/
theorem comesTo_update (parent key value : Text) (e : Engine) (inside : Bool) :
    (update inside parent key value).ComesTo e (e.updateFrom inside parent key value).1
      (e.updateFrom inside parent key value).2 := by
  have hwrite := comesTo_updateFile parent key value e
  unfold Engine.updateFrom Store.update
  dsimp only
  cases hresult : Config.updateFile e.files e.store.layout.configFile e.store.layout.swapFile parent
      key value with
  | mk result files =>
    rw [hresult] at hwrite
    cases result with
    | error f => exact .bind_error hwrite
    | ok found =>
      refine .bind hwrite ?_
      have hreload := comesTo_reload (withFiles e files) inside
      dsimp only
      cases hreread : e.store.reload files with
      | error f =>
        rw [show (withFiles e files).store.reload (withFiles e files).files = .error f from hreread]
          at hreload
        exact .bind_error hreload
      | ok r =>
        rw [show (withFiles e files).store.reload (withFiles e files).files = .ok r from hreread]
          at hreload
        exact .bind hreload rfl

/-- It is the same whether a countdown is armed before the banner is published as off or after. -/
theorem noteOff_noteReload (e : Engine) (inside : Bool) (outcome : Reload) :
    noteOff (e.noteReload inside outcome) =
      let off := if e.store.snapshot.banner.on then e.store.switchOff else e.store
      let e' := Engine.noteReload { e with store := off } inside outcome
      { e' with metrics := e'.metrics.recordBanner false } := by
  unfold noteOff
  rw [Engine.store_noteReload]
  cases outcome with
  | unchanged => rfl
  | blockedRefreshed => rfl
  | reloaded timed =>
    unfold Engine.noteReload
    by_cases hroom : (timed && inside) = true
    · simp only [hroom, if_true]
      cases e.store.snapshot.banner.on <;> rfl
    · simp only [hroom]
      cases e.store.snapshot.banner.on <;> rfl

/-- Switching off a banner is an update and what is noted after it. -/
theorem expire_eq_update (e : Engine) :
    e.expire e.store.generation =
      match e.updateFrom true "MessageBanner".toList "display-mode".toList "off".toList with
      | (.error f, e') => (.error f, e')
      | (.ok _, e') => (.ok (), noteOff e') := by
  unfold Engine.expire Engine.updateFrom Store.expire
  rw [if_pos rfl]
  dsimp only
  rcases e.store.update_cases e.files "MessageBanner".toList "display-mode".toList "off".toList with
    ⟨⟨f, hresult⟩, hstore⟩ | ⟨found, outcome, hresult, -⟩
  · rw [hresult]
    dsimp only
    rw [hstore]
  · rw [hresult]
    dsimp only
    rw [noteOff_noteReload]

/-- Where nothing goes wrong, the steps of an expiry are the expiry. -/
theorem comesTo_expire (generation : Nat) (e : Engine) :
    (expire generation).ComesTo e (e.expire generation).1 (e.expire generation).2 := by
  refine .get_bind ?_
  dsimp only
  by_cases hgeneration : e.store.generation = generation
  · subst hgeneration
    rw [if_pos rfl, expire_eq_update]
    have hupdate := comesTo_update "MessageBanner".toList "display-mode".toList "off".toList e true
    cases hresult : e.updateFrom true "MessageBanner".toList "display-mode".toList
        "off".toList with
    | mk result e' =>
      rw [hresult] at hupdate
      cases result with
      | error f => exact .bind_error hupdate
      | ok found => exact .bind hupdate (.record noteOff e')
  · have hexpire : e.expire generation = (.ok (), e) := by
      simp [Engine.expire, Store.expire, hgeneration]
    rw [if_neg hgeneration, hexpire]
    exact .pure () e

end Attempt

/-- Where nothing goes wrong, the steps of an operation are the operation. -/
theorem Operation.comesTo_perform (op : Operation) (e : Engine) :
    op.attempt.ComesTo e (op.perform e).1 (op.perform e).2 := by
  cases op with
  | refresh => exact .get_bind (Attempt.comesTo_refresh e e.concurrent).discard
  | update parent key value =>
    exact .get_bind (Attempt.comesTo_update parent key value e e.concurrent).discard
  | expire generation => exact Attempt.comesTo_expire generation e

end SiteGate
