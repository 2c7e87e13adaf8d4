import SiteGate.Gate.Search
import SiteGate.Proofs.Gate.Pipeline

/-!
# What the conditional rules look at

The windows of a list are the pieces that stand in it (`mem_windowsFrom_iff`), so the search through
windows finds what occurs, and it comes to an end for whatever is not empty
(`holdsBytes_eq_ok`). The empty criteria are never searched for, so no search stops the program, and
the rules say what they say without windows (`askRules_eq_ok`).

The first rule that guards the path of a request decides by one part of it alone: requests that
agree on their path, up to upper and lower case, and on that part are answered alike
(`conditional_by_part`).
-/

set_option autoImplicit false

namespace SiteGate.Gate

open Config (ConditionalRule RequestPart)

/-! ## Windows -/

section

variable {α : Type} {width : Nat} {hay w : List α}

/-- Only windows without a length stop the program. -/
theorem windows_eq_error_iff {fault : SearchFault} :
    windows width hay = .error fault ↔ width = 0 := by
  cases fault
  by_cases hwidth : width = 0 <;> simp [windows, hwidth]

/-- The windows of a list are its pieces of that width. -/
theorem mem_windowsFrom_iff (hwidth : 0 < width) :
    w ∈ windowsFrom width hay ↔ w.length = width ∧ w <:+: hay := by
  induction hay with
  | nil =>
    simp only [windowsFrom, List.not_mem_nil, false_iff, not_and, List.infix_nil]
    rintro hlength rfl
    exact absurd hlength (by simpa using hwidth.ne)
  | cons x rest ih =>
    by_cases hlong : width ≤ (x :: rest).length
    · have htake : w = (x :: rest).take width ↔ w.length = width ∧ w <+: x :: rest := by
        constructor
        · rintro rfl
          exact ⟨List.length_take_of_le hlong, List.take_prefix _ _⟩
        · rintro ⟨hlength, hw⟩
          rw [← hlength]
          exact List.prefix_iff_eq_take.mp hw
      rw [windowsFrom, if_pos hlong, List.mem_cons, htake, ih, List.infix_cons_iff, and_or_left]
    · rw [windowsFrom, if_neg hlong]
      simp only [List.not_mem_nil, false_iff, not_and]
      intro hlength hw
      exact hlong (hlength ▸ List.IsInfix.length_le hw)

end

/-- A text that is not empty has bytes. -/
theorem encode_ne_nil {t : Text} (h : t ≠ []) : Text.encode t ≠ [] := by
  obtain ⟨c, rest, rfl⟩ := List.exists_cons_of_ne_nil h
  have hchar : 0 < (String.utf8EncodeChar c).length := by
    rw [String.length_utf8EncodeChar]
    exact c.utf8Size_pos
  intro hnil
  rw [Text.encode, List.flatMap_cons, List.append_eq_nil_iff] at hnil
  exact absurd hchar (by simp [hnil.1])

/-- The search finds what occurs, and does not fail for anything that is not empty. -/
theorem holdsBytes_eq_ok (hay : Bytes) {needle : Bytes} (h : needle ≠ []) :
    holdsBytes hay needle = .ok (Text.occursIn needle hay) := by
  have hwidth : 0 < needle.length := List.length_pos_iff.mpr h
  have hfound : (windowsFrom needle.length hay).any (· == needle) = Text.occursIn needle hay := by
    rw [Bool.eq_iff_iff, Text.occursIn_eq_true_iff, List.any_eq_true]
    simp [mem_windowsFrom_iff hwidth]
  rw [← hfound, holdsBytes, windows, if_neg hwidth.ne']
  rfl

/-! ## Asking the rules -/

/-- Trying one element after another comes to what holds of some element, if no try fails. -/
theorem anyM_eq_ok {α ε : Type} {test : α → Except ε Bool} {p : α → Bool} {l : List α}
    (h : ∀ a ∈ l, test a = .ok (p a)) : l.anyM test = .ok (l.any p) := by
  induction l with
  | nil => rfl
  | cons a rest ih =>
    rw [List.anyM_cons, h a (by simp), List.any_cons]
    cases hp : p a with
    | true => rfl
    | false =>
      have hrest := ih fun b hb => h b (List.mem_cons_of_mem a hb)
      simpa [bind, Except.bind] using hrest

/-- The criteria that are searched for are those that are not empty. -/
theorem mem_criteriaOf_iff {rule : ConditionalRule} {c : Text} :
    c ∈ criteriaOf rule ↔ c ∈ rule.criteria ∧ c ≠ [] := by
  simp [criteriaOf]

/-- No search for a criterion of a rule stops the program. -/
theorem headersMeet_eq_ok (rule : ConditionalRule) (request : Request) :
    headersMeet rule request = .ok (request.headers.any fun h =>
      (criteriaOf rule).any fun c => Text.occursIn (Text.encode c) h.value) :=
  anyM_eq_ok fun _ _ => anyM_eq_ok fun _ hc =>
    holdsBytes_eq_ok _ (encode_ne_nil (mem_criteriaOf_iff.mp hc).2)

/-- A rule that is asked serves the requests that it serves. -/
theorem askRule_eq_ok (rule : ConditionalRule) (request : Request) :
    askRule rule request = .ok (serves rule request) := by
  have hserves : ∀ b : Bool,
      (b = true ↔ ∃ c ∈ rule.criteria, c ≠ [] ∧ Met rule.part request c) →
        b = serves rule request := by
    intro b hb
    rw [Bool.eq_iff_iff, hb, serves_eq_true_iff]
  unfold askRule
  cases hpart : rule.part with
  | header =>
    rw [headersMeet_eq_ok]
    refine congrArg Except.ok (hserves _ ?_)
    simp only [List.any_eq_true, mem_criteriaOf_iff, Text.occursIn_eq_true_iff, Met, hpart]
    constructor
    · rintro ⟨h, hh, c, ⟨hc, hne⟩, hstands⟩
      exact ⟨c, hc, hne, h, hh, hstands⟩
    · rintro ⟨c, hc, hne, h, hh, hstands⟩
      exact ⟨h, hh, c, ⟨hc, hne⟩, hstands⟩
  | ipAddress =>
    refine congrArg Except.ok (hserves _ ?_)
    simp [List.any_eq_true, mem_criteriaOf_iff, Met, hpart, and_assoc]
  | queryString =>
    refine congrArg Except.ok (hserves _ ?_)
    simp [List.any_eq_true, mem_criteriaOf_iff, Text.occursIn_eq_true_iff, Met, hpart, and_assoc]

/-- The rules that are asked say what they say. -/
theorem askRules_eq_ok (rules : List ConditionalRule) (request : Request) :
    askRules rules request = .ok (conditionalVerdict rules request) := by
  unfold askRules conditionalVerdict
  cases guardOf? rules request.path with
  | none => rfl
  | some rule =>
    simp only [askRule_eq_ok]
    rfl

/-! ## One part alone -/

/-- Two requests agree on a part: on the values of their headers, on the address of the peer, or on
the query. -/
def Agree (part : RequestPart) (request other : Request) : Prop :=
  match part with
  | .header => request.headers.map (·.value) ⊆ other.headers.map (·.value) ∧
      other.headers.map (·.value) ⊆ request.headers.map (·.value)
  | .ipAddress => Net.addressPart request.peer = Net.addressPart other.peer
  | .queryString => request.query = other.query

variable {rules : List ConditionalRule} {rule : ConditionalRule} {request other : Request}

/-- A criterion is met alike by requests that agree in the part that it is about. -/
theorem met_congr {part : RequestPart} (h : Agree part request other) (c : Text) :
    Met part request c ↔ Met part other c := by
  cases part with
  | header =>
    have hvalues : ∀ r : Request, Met .header r c ↔
        ∃ v ∈ r.headers.map (·.value), Text.encode c <:+: v := by
      intro r
      simp [Met]
    rw [hvalues, hvalues]
    exact ⟨fun ⟨v, hv, hc⟩ => ⟨v, h.1 hv, hc⟩, fun ⟨v, hv, hc⟩ => ⟨v, h.2 hv, hc⟩⟩
  | ipAddress =>
    have haddress : Net.addressPart request.peer = Net.addressPart other.peer := h
    rw [Met, Met, haddress]
  | queryString =>
    have hquery : request.query = other.query := h
    rw [Met, Met, hquery]

/-- A rule serves alike requests that agree in its part. -/
theorem serves_congr (h : Agree rule.part request other) :
    serves rule other = serves rule request := by
  rw [Bool.eq_iff_iff, serves_eq_true_iff, serves_eq_true_iff]
  simp only [met_congr h]

/-- The first rule for a request decides. -/
theorem conditionalVerdict_of_first (h : FirstWith (Guards request) rules rule) :
    conditionalVerdict rules request =
      some (if serves rule request then .allowed else .denied rule.denialStatus) := by
  rw [conditionalVerdict, guardOf?_eq_some_iff.mpr h]
  rfl

/-- No search stops the program. The rules have no say about a request just if none is stored under
the lower case of its path. Otherwise the first one that is decides: it lets the request pass just
if one of its criteria that is not empty is met by the part of the request that the rule looks at,
and refuses it with its own status if not. Requests for the same path, up to upper and lower case,
that agree on this part are answered alike. -/
theorem conditional_by_part (rules : List ConditionalRule) (request : Request) :
    askRules rules request = .ok (conditionalVerdict rules request) ∧
      (conditionalVerdict rules request = none ↔ ∀ rule ∈ rules, ¬ Guards request rule) ∧
      ∀ rule, FirstWith (Guards request) rules rule →
        (∀ c ∈ criteriaOf rule, 0 < (Text.encode c).length) ∧
        (conditionalVerdict rules request = some .allowed ↔
          ∃ c ∈ rule.criteria, c ≠ [] ∧ Met rule.part request c) ∧
        (conditionalVerdict rules request ≠ some .allowed →
          conditionalVerdict rules request = some (.denied rule.denialStatus)) ∧
        ∀ other, Text.lower other.path = Text.lower request.path → Agree rule.part request other →
          conditionalVerdict rules other = conditionalVerdict rules request := by
  refine ⟨askRules_eq_ok rules request, ?_, fun rule hfirst => ?_⟩
  · simp [conditionalVerdict, guardOf?, Guards]
  have hverdict := conditionalVerdict_of_first hfirst
  refine ⟨fun c hc => ?_, ?_, ?_, fun other hpath hagree => ?_⟩
  · exact List.length_pos_iff.mpr (encode_ne_nil (mem_criteriaOf_iff.mp hc).2)
  · rw [hverdict, ← serves_eq_true_iff]
    cases serves rule request <;> simp
  · rw [hverdict]
    cases serves rule request <;> simp
  · have hother : FirstWith (Guards other) rules rule := by
      simpa [Guards, FirstWith, hpath] using hfirst
    rw [hverdict, conditionalVerdict_of_first hother, serves_congr hagree]

end SiteGate.Gate
