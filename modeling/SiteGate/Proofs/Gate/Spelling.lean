import SiteGate.Proofs.Gate.Pipeline

/-!
# What spelling makes no difference

A request may spell its path and its host in upper or lower case, and name a port behind the host.
The gate goes by the lower case of the path and by the lower case of the host without its port, in
every stage (`verdict_congr`), so no such spelling gets around a rule: the answer is the same, and a
sink is told the same (`spelling_is_no_bypass`).

Nothing else is passed over. Requests whose paths or hosts differ otherwise are told apart by some
snapshot, one with a rule for the path of the first request (`asksForPath`) or one for a site of its
host (`asksForHost`).
-/

set_option autoImplicit false

namespace SiteGate

/-- What holds no separator stands before the first one. -/
theorem Text.before_append {c : Char} {t : Text} (h : c ∉ t) (rest : Text) :
    Text.before c (t ++ rest) = t ++ Text.before c rest := by
  refine List.takeWhile_append_of_pos fun d hd => ?_
  rw [bne_iff_ne]
  rintro rfl
  exact h hd

namespace Gate

open Config (ConditionalRule Snapshot)

/-! ## Hosts without their ports -/

/-- What may stand behind a host: nothing, or a colon and a port. -/
def IsPortSuffix (t : Text) : Prop := t = [] ∨ ∃ port, t = ':' :: port

/-- The host that a request names, with or without a port behind it: a name, which has no colon in
it and does not begin with a bracket, or an address in brackets. What begins with a bracket and does
not close it is neither, and has no port that could be told from it. -/
inductive HostOf : Text → Text → Prop
  | name {bare suffix : Text} (noColon : ':' ∉ bare) (noBracket : ¬ ['['] <+: bare)
      (port : IsPortSuffix suffix) : HostOf bare (bare ++ suffix)
  | bracketed {address suffix : Text} (closed : ']' ∉ address) (port : IsPortSuffix suffix) :
      HostOf ('[' :: address ++ [']']) ('[' :: address ++ [']'] ++ suffix)

/-- Before the colon of a port there is nothing. -/
theorem IsPortSuffix.before_colon {suffix : Text} (h : IsPortSuffix suffix) :
    Text.before ':' suffix = [] := by
  obtain rfl | ⟨port, rfl⟩ := h <;> rfl

/-- The host of a request is what it names without its port. -/
theorem HostOf.hostName_eq {bare host : Text} (h : HostOf bare host) : hostName host = bare := by
  cases h with
  | @name _ suffix noColon noBracket port =>
    have hbegin : ∀ rest, bare ++ suffix ≠ '[' :: rest := by
      intro rest heq
      cases bare with
      | nil => obtain rfl | ⟨p, rfl⟩ := port <;> cases heq
      | cons c more =>
        obtain rfl : c = '[' := (List.cons.inj heq).1
        exact noBracket ⟨more, rfl⟩
    unfold hostName
    split
    · next rest heq => exact absurd heq (hbegin rest)
    · rw [Text.before_append noColon, port.before_colon, List.append_nil]
  | @bracketed address suffix closed port =>
    have hnot : ']' ∉ '[' :: address := by simpa using closed
    have hbefore : Text.before ']' ('[' :: address ++ [']'] ++ suffix) = '[' :: address := by
      rw [List.append_assoc, Text.before_append hnot]
      exact List.append_nil _
    have hmem : ('[' :: address ++ [']'] ++ suffix).contains ']' = true := by simp
    show (if _ then _ else _) = _
    rw [if_pos hmem, hbefore]

/-- Two hosts name the same one, up to upper and lower case and their ports. -/
def SameHost (host host' : Text) : Prop :=
  ∃ bare bare', HostOf bare host ∧ HostOf bare' host' ∧ Text.lower bare = Text.lower bare'

/-- Two requests are alike but for their paths and hosts. -/
structure AlikeBesides (r r' : Request) : Prop where
  method : r.method = r'.method
  query : r.query = r'.query
  peer : r.peer = r'.peer
  headers : r.headers = r'.headers

variable {s : Snapshot} {r r' : Request}

/-! ## One answer -/

/-- The conditional rules decide alike about requests that are alike but for the case of their
paths. -/
theorem conditionalVerdict_congr (rules : List ConditionalRule) (h : AlikeBesides r r')
    (hpath : Text.lower r.path = Text.lower r'.path) :
    conditionalVerdict rules r = conditionalVerdict rules r' := by
  have hguard : guardOf? rules r.path = guardOf? rules r'.path := by rw [guardOf?, hpath, guardOf?]
  have hserves : ∀ rule, serves rule r = serves rule r' := by
    intro rule
    have hmeets : meets rule r = meets rule r' := by
      funext c
      rw [meets, h.query, h.peer, h.headers, meets]
    rw [serves, hmeets, serves]
  rw [conditionalVerdict, hguard, conditionalVerdict]
  simp only [hserves]

/-- Every stage goes by the lower case of the path and of the host without its port. -/
theorem verdict_congr (s : Snapshot) (h : AlikeBesides r r')
    (hpath : Text.lower r.path = Text.lower r'.path)
    (hhost : Text.lower (hostName r.host) = Text.lower (hostName r'.host)) :
    verdict s r = verdict s r' := by
  have hrefuses : refusesHost s r = refusesHost s r' := by rw [refusesHost, hhost, refusesHost]
  rw [verdict, verdict, hrefuses, h.method, hpath, conditionalVerdict_congr _ h hpath]

/-! ## Requests that are told apart -/

/-- A snapshot that refuses the requests for one path, given in lower case. -/
def asksForPath (method lowered : Text) : Snapshot :=
  { Snapshot.empty with
    allowedMethods := [method]
    urlPaths := ⟨[], [], [], [⟨.header, lowered, [], 0⟩]⟩ }

/-- A snapshot that keeps one path from visitors allows all other ones. -/
theorem verdict_asksForPath {method lowered : Text} (hmethod : r.method = method) :
    verdict (asksForPath method lowered) r = .allowed ↔ Text.lower r.path ≠ lowered := by
  have hadmitted : Admitted (asksForPath method lowered) r :=
    ⟨rfl, List.mem_singleton.mpr hmethod, rfl, rfl⟩
  rw [hadmitted.verdict_of_none rfl]
  by_cases hpath : lowered = Text.lower r.path
  · simp [asksForPath, conditionalVerdict, guardOf?, serves, hpath]
  · simp [asksForPath, conditionalVerdict, guardOf?, hpath, Ne.symm hpath]

/-- A snapshot of a site with two hosts, given in lower case. -/
def asksForHost (method hostname alternate : Text) : Snapshot :=
  { Snapshot.empty with
    allowedMethods := [method]
    validateHost := true
    site := ⟨hostname, [alternate], [], 0⟩ }

/-- A snapshot that answers to two names allows the requests that name one of them. -/
theorem verdict_asksForHost {method hostname alternate : Text} (hmethod : r.method = method)
    (hne : hostname ≠ []) :
    verdict (asksForHost method hostname alternate) r = .allowed ↔
      Text.lower (hostName r.host) ∈ [hostname, alternate] := by
  have hrefuses : refusesHost (asksForHost method hostname alternate) r = true ↔
      Text.lower (hostName r.host) ∉ [hostname, alternate] := by
    rw [refusesHost_eq_true_iff]
    simp [Objects, asksForHost, hne]
  by_cases hhost : Text.lower (hostName r.host) ∈ [hostname, alternate]
  · have hadmitted : Admitted (asksForHost method hostname alternate) r :=
      ⟨by rw [Bool.eq_false_iff, ne_eq, hrefuses]; exact not_not.mpr hhost,
        List.mem_singleton.mpr hmethod, rfl, rfl⟩
    exact iff_of_true (hadmitted.verdict_of_none rfl) hhost
  · simp [verdict, hrefuses.mpr hhost, hhost]

/-- A snapshot tells requests apart if their paths or their hosts without ports differ not only in
upper and lower case. -/
theorem lower_eq_of_verdicts (hmethod : r.method = r'.method)
    (h : ∀ s, verdict s r = verdict s r') :
    Text.lower r.path = Text.lower r'.path ∧
      Text.lower (hostName r.host) = Text.lower (hostName r'.host) := by
  constructor
  · by_contra hpath
    have hallowed : verdict (asksForPath r.method (Text.lower r'.path)) r = .allowed :=
      (verdict_asksForPath rfl).mpr hpath
    rw [h] at hallowed
    exact (verdict_asksForPath hmethod.symm).mp hallowed rfl
  · -- the name of the site is too long to be the other host
    have hlonger : '-' :: Text.lower (hostName r'.host) ≠ [] := by simp
    have hallowed : verdict (asksForHost r.method ('-' :: Text.lower (hostName r'.host))
        (Text.lower (hostName r.host))) r = .allowed :=
      (verdict_asksForHost rfl hlonger).mpr (by simp)
    rw [h] at hallowed
    have hhost := (verdict_asksForHost hmethod.symm hlonger).mp hallowed
    simpa [eq_comm] using hhost

/-- Two requests that are alike but for their paths and hosts have the same answer from every
snapshot, and a sink is told the same, if their paths are the same up to upper and lower case and
their hosts up to that and a port. If the paths or the hosts without ports differ otherwise, some
snapshot answers one of them and not the other. -/
theorem spelling_is_no_bypass (h : AlikeBesides r r') :
    (Text.lower r.path = Text.lower r'.path → SameHost r.host r'.host →
      ∀ s, verdict s r = verdict s r' ∧
        ∀ {σ : Type} (redirect : Sink σ), validate redirect s r = validate redirect s r') ∧
    ((∀ s, verdict s r = verdict s r') →
      Text.lower r.path = Text.lower r'.path ∧
        Text.lower (hostName r.host) = Text.lower (hostName r'.host)) := by
  refine ⟨fun hpath hhosts s => ?_, lower_eq_of_verdicts h.method⟩
  obtain ⟨bare, bare', hhost, hhost', hlower⟩ := hhosts
  have hverdict : verdict s r = verdict s r' := by
    refine verdict_congr s h hpath ?_
    rw [hhost.hostName_eq, hhost'.hostName_eq, hlower]
  refine ⟨hverdict, fun redirect => ?_⟩
  rw [validate_eq, validate_eq, hverdict]

/-- A request without a query and headers. -/
def plainRequest (host path : String) : Request where
  method := "GET".toList
  host := host.toList
  path := path.toList
  query := []
  peer := "203.0.113.7:40000".toList
  headers := []

/-- Upper case and a port make no difference. -/
theorem spelling_is_no_bypass_port :
    AlikeBesides (plainRequest "Example.COM:8443" "/Robots.TXT")
        (plainRequest "example.com" "/robots.txt") ∧
      Text.lower "/Robots.TXT".toList = Text.lower "/robots.txt".toList ∧
      SameHost "Example.COM:8443".toList "example.com".toList ∧
      ∀ s, verdict s (plainRequest "Example.COM:8443" "/Robots.TXT") =
        verdict s (plainRequest "example.com" "/robots.txt") := by
  have halike : AlikeBesides (plainRequest "Example.COM:8443" "/Robots.TXT")
      (plainRequest "example.com" "/robots.txt") := ⟨rfl, rfl, rfl, rfl⟩
  have hpath : Text.lower "/Robots.TXT".toList = Text.lower "/robots.txt".toList := by
    decide +kernel
  have hupper : HostOf "Example.COM".toList "Example.COM:8443".toList :=
    .name (by decide) (by decide) (.inr ⟨"8443".toList, rfl⟩)
  have hlower : HostOf "example.com".toList "example.com".toList :=
    .name (by decide) (by decide) (.inl rfl)
  have hhosts : SameHost "Example.COM:8443".toList "example.com".toList :=
    ⟨_, _, hupper, hlower, by decide +kernel⟩
  exact ⟨halike, hpath, hhosts, fun s => ((spelling_is_no_bypass halike).1 hpath hhosts s).1⟩

end Gate

end SiteGate
