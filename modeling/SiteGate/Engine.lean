import SiteGate.Banner.Countdown
import SiteGate.Gate.Validation
import SiteGate.Metrics

/-!
# A running site

A site that runs is a store over a tree of files, with a clock and tasks in the background: the
countdowns of its banner, and watchers that reload the store at an interval. Every task has a time
at which it is woken next, and what it does when woken takes no time. The clock moves only when
somebody waits, and then it stops at every time at which a task is due.

A reload that turns on a timed banner arms a countdown for the new generation. A countdown looks at
the banner when it starts, which is as soon as the operation that armed it is over. It ends at the
first tick at which its generation is no longer the store's, at which the banner is off, or at which
the count is over; in the last case it switches the banner off first. Once the site has been told to
stop, every task ends without doing anything more, unless what it waits for takes no time at all.

Whoever reloads does so inside a runtime or outside of one, and a countdown is armed only inside. Tasks
run inside one; others are asked at every call.
-/

set_option autoImplicit false

namespace SiteGate

open Banner (Countdown)

/-- What a task does. -/
inductive Work where
  /-- A countdown that has not looked at the banner yet. -/
  | armed (generation tick : Nat)
  /-- A countdown that counts. -/
  | counting (generation tick : Nat) (count : Countdown)
  /-- A watcher. -/
  | watching (interval : Nat)
deriving DecidableEq

/-- A task: its number, when it is woken next, and what it does. -/
structure Task where
  id : Nat
  due : Nat
  work : Work
deriving DecidableEq

/-- Whether it is a countdown that has not started and whose ticks take no time. -/
def Task.isInstant (t : Task) : Bool :=
  match t.work with
  | .armed _ tick => tick = 0
  | _ => false

/-- How a task has ended. -/
abbrev TaskEnd := Except FileFailure Unit

/-- A running site. Times are in milliseconds. -/
structure Engine where
  files : Tree
  store : Store
  metrics : Metrics
  /-- Whether whoever calls next does so inside a runtime. -/
  concurrent : Bool
  stopped : Bool
  now : Nat
  /-- The tasks that run, those first that have waited for longest. -/
  tasks : List Task
  /-- The tasks that have ended, by number. -/
  ended : List (Nat × TaskEnd)
  /-- The number of the next task. -/
  nextId : Nat

namespace Engine

/-! ## Tasks -/

/-- Adds a task. -/
def spawn (e : Engine) (work : Work) (due : Nat) : Engine :=
  { e with tasks := e.tasks ++ [⟨e.nextId, due, work⟩], nextId := e.nextId + 1 }

/-- Ends a task. -/
def finish (e : Engine) (id : Nat) (how : TaskEnd) : Engine :=
  { e with tasks := e.tasks.filter (·.id ≠ id), ended := e.ended ++ [(id, how)] }

/-- Gives a task other work and another time to be woken. It comes after all tasks that wait for
the same time. -/
def resume (e : Engine) (id due : Nat) (work : Work) : Engine :=
  { e with tasks := e.tasks.filter (·.id ≠ id) ++ [⟨id, due, work⟩] }

/-! ## Waiting -/

/-- The first time that no clock of a machine can show: it counts whole seconds in sixty-three bits.
It has been running for an hour when a site is opened. -/
def horizon : Nat := (UInt64.size / 2 - 60 * 60) * 1000

/-- Thirty years of 365 days. -/
def longWait : Nat := 30 * 365 * 24 * 60 * 60 * 1000

/-- The time that is an interval from now. If there is no such time, it is a long wait from now. -/
def after (e : Engine) (interval : Nat) : Nat :=
  if e.now + interval < horizon then e.now + interval else e.now + longWait

/-! ## Operations on the store -/

/-- Records a reload's banner and arms its countdown, if whoever reloads is `inside` a runtime. -/
def noteReload (e : Engine) (inside : Bool) : Reload → Engine
  | .reloaded timed =>
    let e := { e with metrics := e.metrics.recordBanner e.store.snapshot.banner.on }
    if timed && inside then
      e.spawn (.armed e.store.generation e.store.settings.tickInterval) e.now
    else e
  | _ => e

/-- Reads the files again, `inside` a runtime or outside of one. -/
def refreshFrom (e : Engine) (inside : Bool) : Except FileFailure Reload × Engine :=
  match e.store.reload e.files with
  | .error f => (.error f, { e with metrics := e.metrics.recordReload (.error f) })
  | .ok (outcome, s) =>
    let e := noteReload { e with store := s } inside outcome
    (.ok outcome, { e with metrics := e.metrics.recordReload (.ok outcome) })

/-- Reads the files again for whoever calls. -/
def refresh (e : Engine) : Except FileFailure Reload × Engine := e.refreshFrom e.concurrent

/-- Changes a value in the configuration file and reads the files again, `inside` a runtime or outside
of one. -/
def updateFrom (e : Engine) (inside : Bool) (parent key value : Text) :
    Except FileFailure Bool × Engine :=
  let o := e.store.update e.files parent key value
  let e := { e with files := o.files, store := o.store }
  match o.result with
  | .error f => (.error f, e)
  | .ok (found, outcome) => (.ok found, e.noteReload inside outcome)

/-- Changes a value in the configuration file for whoever calls. -/
def update (e : Engine) (parent key value : Text) : Except FileFailure Bool × Engine :=
  e.updateFrom e.concurrent parent key value

/-- Switches off the banner of a generation, for the countdown that is over. -/
def expire (e : Engine) (generation : Nat) : Except FileFailure Unit × Engine :=
  let o := e.store.expire e.files generation
  match o.result with
  | .error f => (.error f, { e with files := o.files, store := o.store })
  | .ok none => (.ok (), e)
  | .ok (some outcome) =>
    let e := noteReload { e with files := o.files, store := o.store } true outcome
    (.ok (), { e with metrics := e.metrics.recordBanner false })

/-- Asks the gate about a request. -/
def ask (e : Engine) (request : Gate.Request) : Gate.Verdict × Engine :=
  let v := Gate.verdict e.store.snapshot request
  (v, { e with metrics := e.metrics.recordVerdict v })

/-! ## Waking tasks -/

/-- One tick of a countdown. -/
def tick (e : Engine) (id generation period : Nat) (count : Countdown) : Engine :=
  if e.store.generation ≠ generation then e.finish id (.ok ())
  else
    match count.tick e.store.snapshot.banner.on with
    | (.running remaining, next) =>
      { e with store := e.store.setTicks generation remaining }.resume id (e.now + period)
        (.counting generation period next)
    | (.expired, _) =>
      let (how, e) := e.expire generation
      e.finish id how
    | (.cancelled, _) | (.idle, _) => e.finish id (.ok ())

/-- Ticks a countdown up to `n` times without waiting. -/
def tickAtOnce (e : Engine) (id : Nat) : Nat → Engine
  | 0 => e
  | n + 1 =>
    match (e.tasks.find? (·.id = id)).map Task.work with
    | some (.counting generation period count) =>
      tickAtOnce (e.tick id generation period count) id n
    | _ => e

/-- Starts a countdown. One whose ticks take no time is over at once. -/
def start (e : Engine) (id generation period : Nat) : Engine :=
  let count := Countdown.ofBanner e.store.snapshot.banner
  if count.phase ≠ .active then e.finish id (.ok ())
  else
    let e := e.resume id (e.now + period) (.counting generation period count)
    if period = 0 then e.tickAtOnce id count.remaining else e

/-- Wakes a task. Once the site has been told to stop, a task that waits ends; a countdown whose ticks
take no time finds its tick and the signal there together, and takes the tick. -/
def wake (e : Engine) (t : Task) : Engine :=
  if e.stopped && !t.isInstant then e.finish t.id (.ok ())
  else
    match t.work with
    | .armed generation period => e.start t.id generation period
    | .counting generation period count => e.tick t.id generation period count
    | .watching interval =>
      match e.refreshFrom true with
      | (.error f, e) => e.finish t.id (.error f)
      | (.ok _, e) => e.resume t.id (e.after interval) (.watching interval)

/-- Whether a task can do something now: it is due, it has not started, or it has to end. -/
def isReady (e : Engine) (t : Task) : Bool :=
  e.stopped || t.due ≤ e.now ||
    match t.work with
    | .armed _ _ => true
    | _ => false

/-- Wakes the tasks that can do something now, those first that have waited for longest. -/
def wakeReady (e : Engine) : Engine := (e.tasks.filter e.isReady).foldl wake e

/-- Lets everything happen that can happen now: what is due, and the countdowns that it arms. -/
def settle (e : Engine) : Engine := e.wakeReady.wakeReady

/-! ## Time -/

/-- The next time at which a task is due. -/
def nextDue? (e : Engine) : Option Nat := (e.tasks.map Task.due).min?

/-- Lets time pass up to `deadline`, stopping at most `stops` times on the way. -/
def passTo (deadline : Nat) : (stops : Nat) → Engine → Engine
  | 0, e => { e with now := deadline }
  | stops + 1, e =>
    match e.nextDue? with
    | none => { e with now := deadline }
    | some due =>
      if due ≤ deadline then passTo deadline stops { e with now := max e.now due }.settle
      else { e with now := deadline }

/-- Lets a number of milliseconds pass. Every stop on the way is at a later time than the one
before, so there are no more stops than milliseconds. -/
def sleep (e : Engine) (ms : Nat) : Engine := passTo (e.now + ms) ms e

/-- Tells the site to stop. -/
def stop (e : Engine) : Engine := { e with stopped := true }

/-! ## Beginning -/

/-- Starts a watcher; its first look at the files is an interval from now. -/
def watch (e : Engine) (interval : Nat) : Engine := e.spawn (.watching interval) (e.after interval)

/-- Wakes a watcher before its time, which stays as it is. -/
def lookNow (e : Engine) (t : Task) : Engine :=
  match t.work with
  | .watching _ =>
    match e.refreshFrom true with
    | (.error f, e) => e.finish t.id (.error f)
    | (.ok _, e) => e
  | _ => e

/-- The file system tells that a file has changed. If it is one of the two that the store reads, and
events are listened to, the watchers look at them now. -/
def notice (e : Engine) (changed : Path) : Engine :=
  let layout := e.store.layout
  if e.store.settings.watchEvents && [layout.configFile, layout.blockedFile].contains changed then
    e.tasks.foldl lookNow e
  else e

/-- Starts a countdown for a generation. -/
def arm (e : Engine) (generation period : Nat) : Engine := e.spawn (.armed generation period) e.now

/-- How a task stands: it is missing here while it runs. -/
def endOf? (e : Engine) (id : Nat) : Option TaskEnd := e.ended.lookup id

/-- The counters after a store has been opened. -/
def countOpening (m : Metrics) (o : Store.Opening) : Metrics :=
  if o.setUp then m.recordReload (o.result.map Prod.fst) else m

/-- Opens the store under a web root, and with it the site, for whoever calls. -/
def openAt (files : Tree) (metrics : Metrics) (root : Path) (settings : Config.Settings)
    (concurrent : Bool) : Except FileFailure Engine × Tree × Metrics :=
  let o := Store.openAt files root settings
  let metrics := countOpening metrics o
  match o.result with
  | .error f => (.error f, o.files, metrics)
  | .ok (outcome, s) =>
    let e : Engine :=
      { files := o.files
        store := s
        metrics := metrics
        concurrent := concurrent
        stopped := false
        now := 0
        tasks := []
        ended := []
        nextId := 0 }
    let e := e.noteReload concurrent outcome
    (.ok e, e.files, e.metrics)

end Engine

end SiteGate
