import SiteGate.Engine

/-!
# Sites on one machine

Several sites may run at once on the same files. Each acts on the files and the counters as the
others have left them, and their clocks go at the same pace: when time passes, it stops wherever a
task of any site is due.
-/

set_option autoImplicit false

namespace SiteGate

/-- The sites that run on a machine, in the order in which they were opened, and what they share. -/
structure Host where
  files : Tree
  metrics : Metrics
  sites : List Engine

namespace Host

/-- Lets the site with a number act. -/
def act {α : Type} (h : Host) (site : Nat) (f : Engine → α × Engine) : Option (α × Host) :=
  h.sites[site]?.map fun e =>
    let (a, e) := f { e with files := h.files, metrics := h.metrics }
    (a, ⟨e.files, e.metrics, h.sites.set site e⟩)

/-- Lets every site act in its turn. -/
def each (f : Engine → Engine) (h : Host) : Host :=
  (List.range h.sites.length).foldl
    (fun h site => ((h.act site fun e => ((), f e)).map Prod.snd).getD h) h

/-- Opens a site under a web root; its tasks that can do something now do it. -/
def openSite (h : Host) (root : Path) (settings : Config.Settings) (concurrent : Bool) :
    Except FileFailure Unit × Host :=
  match Engine.openAt h.files h.metrics root settings concurrent with
  | (.error f, files, metrics) => (.error f, ⟨files, metrics, h.sites⟩)
  | (.ok e, files, metrics) => (.ok (), each Engine.settle ⟨files, metrics, h.sites ++ [e]⟩)

/-- How long it is until a task of a site is due. -/
def untilDue? (h : Host) : Option Nat :=
  (h.sites.filterMap fun e => e.nextDue?.map (· - e.now)).min?

/-- Lets a number of milliseconds pass. -/
def sleep (ms : Nat) (h : Host) : Host :=
  let pause := max 1 (h.untilDue?.getD ms)
  if pause < ms then sleep (ms - pause) (h.each (·.sleep pause)) else h.each (·.sleep ms)
termination_by ms

end Host

end SiteGate
