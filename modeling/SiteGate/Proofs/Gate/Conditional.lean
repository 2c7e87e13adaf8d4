import Mathlib.Data.List.Infix
import SiteGate.Config.Snapshot.Parser
import SiteGate.Proofs.Gate.Stages
import SiteGate.Proofs.Text.LowercaseStable

/-!
# What a conditional rule guards

A conditional rule is looked up by the lower case of the request's path, and compared with it as it
is written. So a path is guarded if a rule is stored under its lower case: a request that is allowed
there meets a criterion of a rule for that path (`allowed_by_criterion`). A rule that is stored under
a path with upper case is never found, and leaves the path open if no other rule guards it
(`not_allowed_by_criterion`).
-/

set_option autoImplicit false

namespace SiteGate

/-- A text occurs in another one just if that is the text with something before and after it. -/
theorem Text.occursIn_eq_true_iff {α : Type} [BEq α] [LawfulBEq α] {needle hay : List α} :
    Text.occursIn needle hay = true ↔ needle <:+: hay := by
  induction hay with
  | nil => simp [Text.occursIn]
  | cons x rest ih => simp [Text.occursIn, List.infix_cons_iff, ih]

namespace Gate

open Config (ConditionalRule RequestPart Snapshot)

/-- A criterion is met by one part of a request: its bytes stand in the value of a header, it is the
peer's address, or it stands in the query. -/
def Met (part : RequestPart) (request : Request) (criterion : Text) : Prop :=
  match part with
  | .header => ∃ h ∈ request.headers, Text.encode criterion <:+: h.value
  | .ipAddress => criterion = Net.addressPart request.peer
  | .queryString => criterion <:+: request.query

/-- A rule serves a request that meets one of its criteria. -/
theorem serves_eq_true_iff {rule : ConditionalRule} {request : Request} :
    serves rule request = true ↔
      ∃ c ∈ rule.criteria, c ≠ [] ∧ Met rule.part request c := by
  have hmeets : ∀ c, meets rule request c = true ↔ c ≠ [] ∧ Met rule.part request c := by
    intro c
    unfold meets Met
    cases rule.part <;> simp [Text.occursIn_eq_true_iff]
  simp [serves, hmeets]

/-- A rule vouches for a request: it is for the request's path, up to upper and lower case, and the
request meets one of its criteria. -/
def Vouches (rule : ConditionalRule) (request : Request) : Prop :=
  Text.lower rule.urlPath = Text.lower request.path ∧
    ∃ c ∈ rule.criteria, c ≠ [] ∧ Met rule.part request c

/-- A rule of a list is in force if a rule is stored under the lower case of its path. That is the
rule itself if its path is in lower case. -/
def InForce (rules : List ConditionalRule) (rule : ConditionalRule) : Prop :=
  rule ∈ rules ∧ ∃ stored ∈ rules, stored.urlPath = Text.lower rule.urlPath

section

variable {rules : List ConditionalRule} {rule : ConditionalRule} {request : Request}

/-- The rule that guards a path is one of the list, and is stored under the path's lower case. -/
theorem urlPath_of_guardOf? {path : Text} (h : guardOf? rules path = some rule) :
    rule ∈ rules ∧ rule.urlPath = Text.lower path :=
  ⟨List.mem_of_find?_eq_some h, by simpa using List.find?_some h⟩

/-- A rule is found for the path of one in force. -/
theorem InForce.exists_guard (h : InForce rules rule) :
    ∃ found, guardOf? rules rule.urlPath = some found := by
  -- the stored rule answers the lookup, which lowers the path, though another one may come first
  obtain ⟨-, stored, hstored, hpath⟩ := h
  rw [← Option.isSome_iff_exists, guardOf?, List.find?_isSome]
  exact ⟨stored, hstored, by simpa using hpath⟩

/-- Where a rule is found, only a criterion lets a request pass. -/
theorem vouches_of_guard (h : guardOf? rules request.path = some rule)
    (hallowed : (conditionalVerdict rules request).getD .allowed = .allowed) :
    Vouches rule request := by
  have hpath := (urlPath_of_guardOf? h).2
  refine ⟨by rw [hpath, Text.lower_lower], serves_eq_true_iff.mp ?_⟩
  by_contra hnot
  simp [conditionalVerdict, h, hnot] at hallowed

/-- The conditional rules do not refuse a request that is allowed. -/
theorem conditional_of_allowed {s : Snapshot} (h : verdict s request = .allowed) :
    (conditionalVerdict s.urlPaths.conditional request).getD .allowed = .allowed := by
  obtain ⟨-, status, -, hverdict⟩ | ⟨-, rule, -, hverdict⟩ | ⟨-, -, hverdict⟩ :=
    verdict_cases s request
  · rw [hverdict] at h
    cases h
  · rw [hverdict] at h
    cases h
  · rw [← hverdict, h]

/-- A request for exactly the path of a rule in force, if it is allowed, meets a criterion of a rule
for that path with its own header, address or query. -/
theorem allowed_by_criterion {t : Text}
    (hforce : InForce (Snapshot.ofText t).urlPaths.conditional rule)
    (hpath : request.path = rule.urlPath)
    (hallowed : verdict (Snapshot.ofText t) request = .allowed) :
    ∃ other ∈ (Snapshot.ofText t).urlPaths.conditional, Vouches other request := by
  obtain ⟨found, hfound⟩ := hforce.exists_guard
  rw [← hpath] at hfound
  exact ⟨found, (urlPath_of_guardOf? hfound).1,
    vouches_of_guard hfound (conditional_of_allowed hallowed)⟩

end

/-- A configuration with one conditional rule, for visitors whose header says so. -/
def botConfig (path : String) : Text :=
  ["HTTP\n", "allowed-methods GET\n", "URLPaths\n", "conditional-http-service ",
    "[\x7b\"rule-type\":\"header\",", "\"url-path\":\"", path, "\",",
    "\"serve-only-to-criteria\":", "[\"bingbot\"]\x7d]"].flatMap String.toList

/-- The rule of that configuration. -/
def botRule (path : String) : ConditionalRule := ⟨.header, path.toList, ["bingbot".toList], 0⟩

/-- What that configuration says. -/
def botSnapshot (path : String) : Snapshot :=
  { Snapshot.empty with
    allowedMethods := ["GET".toList]
    urlPaths := ⟨[], [], [], [botRule path]⟩ }

/-- What the configuration with a rule for robots says. -/
theorem ofText_botConfig : ∀ path ∈ ["/robots.txt", "/Robots.txt"],
    Snapshot.ofText (botConfig path) = botSnapshot path := by
  decide +kernel

/-- A request for a path, with a header that names the visitor's program. -/
def botRequest (path agent : String) : Request where
  method := "GET".toList
  host := []
  path := path.toList
  query := []
  peer := "203.0.113.7:40000".toList
  headers := [⟨"user-agent".toList, Text.encode agent.toList⟩]

/-- A visitor that the rule names is let in by it. -/
theorem allowed_by_criterion_robots :
    InForce (Snapshot.ofText (botConfig "/robots.txt")).urlPaths.conditional
        (botRule "/robots.txt") ∧
      verdict (Snapshot.ofText (botConfig "/robots.txt"))
        (botRequest "/robots.txt" "bingbot/2.0") = .allowed ∧
      ∃ other ∈ (Snapshot.ofText (botConfig "/robots.txt")).urlPaths.conditional,
        Vouches other (botRequest "/robots.txt" "bingbot/2.0") := by
  have hread := ofText_botConfig "/robots.txt" (by simp)
  have hforce : InForce (Snapshot.ofText (botConfig "/robots.txt")).urlPaths.conditional
      (botRule "/robots.txt") := by
    rw [hread]
    exact ⟨List.mem_singleton_self _, _, List.mem_singleton_self _, by decide +kernel⟩
  have hallowed : verdict (Snapshot.ofText (botConfig "/robots.txt"))
      (botRequest "/robots.txt" "bingbot/2.0") = .allowed := by
    rw [hread]
    decide +kernel
  exact ⟨hforce, hallowed, allowed_by_criterion hforce rfl hallowed⟩

/-- A rule whose path has upper case is accepted and leaves its path open to everybody. -/
theorem not_allowed_by_criterion :
    ¬ ∀ (t : Text), ∀ rule ∈ (Snapshot.ofText t).urlPaths.conditional, ∀ request : Request,
      request.path = rule.urlPath → verdict (Snapshot.ofText t) request = .allowed →
        ∃ other ∈ (Snapshot.ofText t).urlPaths.conditional, Vouches other request := by
  intro h
  have hrobots := h (botConfig "/Robots.txt")
  rw [ofText_botConfig "/Robots.txt" (by simp)] at hrobots
  obtain ⟨other, hother, -, c, hc, -, hmet⟩ := hrobots (botRule "/Robots.txt")
    (List.mem_singleton_self _) (botRequest "/Robots.txt" "curl") rfl (by decide +kernel)
  obtain rfl := List.mem_singleton.mp hother
  obtain rfl := List.mem_singleton.mp hc
  obtain ⟨header, hheader, hinfix⟩ := hmet
  obtain rfl := List.mem_singleton.mp hheader
  exact absurd hinfix (by decide)

end Gate

end SiteGate
