import SiteGate.Proofs.CommandLine.Asking
import SiteGate.Proofs.Config.Setup
import SiteGate.Proofs.Http.BlockedList
import SiteGate.Proofs.Http.Guard

/-!
# The check and the guard

The tool and the guard of a running site decide about requests by the same order of checks, each in
its own words: the tool reads the peer's address from its text, and prints a line where the guard
answers. The line is a text for the guard's decision (`verdictText_eq`), and no two decisions have
the same one, since the decision can be read off it (`decisionOf_text`). So the check foretells what
a site that is up to date does with a request (`Tool.check_foretells_guard`).
-/

set_option autoImplicit false

namespace SiteGate

namespace Http

/-! ## The line for a decision -/

/-- What is printed of a decision of the guard. -/
def Guarded.text : Guarded → Text
  | .blocked => "denied 403 (blocked address)".toList
  | .maintenance => "denied 503 (maintenance window)".toList
  | .asked .allowed => "allowed".toList
  | .asked (.redirected location) => "redirect 307 -> ".toList ++ location
  | .asked (.denied status) => "denied ".toList ++ Text.ofNat status

/-- The tool prints the guard's decision. -/
theorem verdictText_eq (s : Config.Snapshot) (r : Incoming) :
    CommandLine.Tool.verdictText s r.view = (guard s r).text := by
  have haddress : Net.addressPart r.view.peer = r.peer.address.toText :=
    Net.addressPart_of_peer (Net.SocketAddress.ofText?_toText r.peer)
  unfold CommandLine.Tool.verdictText guard
  rw [haddress]
  split
  · rfl
  split
  · rfl
  · cases Gate.verdict s r.view <;> rfl

/-- The decision that a line tells of. -/
def decisionOf (line : Text) : Guarded :=
  if line = Guarded.text .blocked then .blocked
  else if line = Guarded.text .maintenance then .maintenance
  else if line.head? = some 'a' then .asked .allowed
  else if line.head? = some 'r' then .asked (.redirected (line.drop 16))
  else .asked (.denied (Nat.ofDigitChars 10 (line.drop 7) 0))

/-- The line of a status has no blank behind its first word. -/
theorem text_denied_ne {line : Text} (hblank : ' ' ∈ line.drop 7) (status : Nat) :
    Guarded.text (.asked (.denied status)) ≠ line := by
  rintro rfl
  exact Text.not_mem_ofNat (by decide) status hblank

/-- Every line tells of the decision that it has been printed for. -/
theorem decisionOf_text (d : Guarded) : decisionOf d.text = d := by
  cases d with
  | blocked => rfl
  | maintenance => rfl
  | asked v =>
    cases v with
    | allowed => rfl
    | redirected location =>
      have hhead : (Guarded.text (.asked (.redirected location))).head? = some 'r' := rfl
      have hne : ∀ line : Text, line.head? ≠ some 'r' →
          Guarded.text (.asked (.redirected location)) ≠ line := by
        rintro line hline rfl
        exact hline hhead
      rw [decisionOf, if_neg (hne _ (by decide)), if_neg (hne _ (by decide)), hhead]
      rfl
    | denied status =>
      rw [decisionOf, if_neg (text_denied_ne (by decide) status),
        if_neg (text_denied_ne (by decide) status)]
      show Guarded.asked (.denied (Nat.ofDigitChars 10 (Nat.toDigits 10 status) 0)) = _
      rw [Nat.ofDigitChars_ten_toDigits]

/-- Different decisions are printed differently. -/
theorem text_injective : Function.Injective Guarded.text :=
  Function.LeftInverse.injective decisionOf_text

end Http

namespace CommandLine.Tool

open Config (Layout)
open Http (Guarded Answer Incoming NoControls isStatus)

/-! ## What the check foretells -/

/-- An outcome of the tool tells what the guard does with a request: a line for each decision, and
just for that decision. The guard sends the gate's statuses as they are. -/
structure Foretells (o : Outcome) (d : Guarded) : Prop where
  code : o.code = 0
  errors : o.errors = []
  blocked : o.output = "denied 403 (blocked address)\n".toList ↔
    d = .blocked ∧ d.answer? = some (.bare 403)
  maintenance : o.output = "denied 503 (maintenance window)\n".toList ↔
    d = .maintenance ∧ d.answer? = some (.text 503 "Down for maintenance")
  allowed : o.output = "allowed\n".toList ↔ d.answer? = none
  redirected : ∀ location, NoControls location →
    (o.output = "redirect 307 -> ".toList ++ location ++ ['\n'] ↔
      d.answer? = some ⟨307, some location, none, []⟩)
  denied : ∀ status, o.output = "denied ".toList ++ Text.ofNat status ++ ['\n'] ↔
    d = .asked (.denied status) ∧ d.answer? = some (.bare status)
  status : ∀ status, d = .asked (.denied status) → isStatus status = true

/-- The line for a decision is printed just for that decision. -/
theorem line_eq_iff (d other : Guarded) : d.text ++ ['\n'] = other.text ++ ['\n'] ↔ d = other := by
  rw [List.append_left_inj, Http.text_injective.eq_iff]

/-- A tool that prints what the guard says foretells it. -/
theorem foretells_done {files : Tree} {s : Config.Snapshot} {r : Incoming} :
    Foretells (.done files ((Http.guard s r).text ++ ['\n'])) (Http.guard s r) where
  code := rfl
  errors := rfl
  blocked := by
    refine (line_eq_iff _ .blocked).trans ⟨fun h => ?_, And.left⟩
    rw [h]
    exact ⟨rfl, rfl⟩
  maintenance := by
    refine (line_eq_iff _ .maintenance).trans ⟨fun h => ?_, And.left⟩
    rw [h]
    exact ⟨rfl, rfl⟩
  allowed := (line_eq_iff _ (.asked .allowed)).trans Http.answer?_eq_none_iff.symm
  redirected := by
    intro location hlocation
    refine (line_eq_iff _ (.asked (.redirected location))).trans
      ⟨fun h => ?_, Http.redirected_of_answer⟩
    rw [h, Guarded.answer?, Http.redirect_of_noControls hlocation]
  denied := by
    intro status
    refine (line_eq_iff _ (.asked (.denied status))).trans ⟨fun h => ⟨h, ?_⟩, And.left⟩
    rw [h, Guarded.answer?, if_pos (Http.isStatus_of_denied (Http.verdict_of_asked h))]
  status := fun _ h => Http.isStatus_of_denied (Http.verdict_of_asked h)

/-! ## The check of a site that is up to date -/

section

variable {files : Tree} {root : Path} {rd : Reading} {validateHost : Bool} {q : Gate.Request}
  {content list : Bytes}

/-- Where both files are there, the check reads what they hold and prints its verdict. -/
theorem checkRequest_eq (h : Describes rd validateHost q)
    (hmade : (Config.makeAll files (Layout.ofRoot root).directories).1 = .ok ())
    (hconfig : files.contentAt (Layout.ofRoot root).configFile = .ok content)
    (hlist : files.contentAt (Layout.ofRoot root).blockedFile = .ok list) :
    ∃ (after : Tree) (s : Store), s.Records content (some list) ∧
      s.settings.validateHost = validateHost ∧
      checkRequest files root rd = .done after (verdictText s.snapshot q ++ ['\n']) := by
  let settings := { Config.Settings.standard with validateHost := rd.has "validate-host" }
  obtain ⟨outcome, s, hopen, -, hsettings, hrecords⟩ :=
    Store.openAt_of_contents settings hmade hconfig hlist
  refine ⟨(Store.openAt files root settings).files, s, hrecords, ?_, ?_⟩
  · rw [hsettings]
    exact h.validateHost
  · have hopened : (Store.openAt files root
        { Config.Settings.standard with validateHost := rd.has "validate-host" }).result =
          .ok (outcome, s) := hopen
    unfold checkRequest withStore
    simp only [hopened, h.headers]
    exact congrArg (fun request => Outcome.done _ (verdictText s.snapshot request ++ ['\n']))
      h.request

/-- The guard decides by what the two files say. -/
theorem guard_of_records {s : Store} {blocked : Option Bytes} (h : s.Records content blocked)
    (r : Incoming) : Http.guard s.snapshot r =
      Http.guard (Store.saidBy s.layout s.settings content blocked) r := by
  -- it does not look at the banner
  have hfields := congrArg (fun t : Config.Snapshot => Http.guard t r) h.fields
  exact hfields

/-- Of the settings the guard regards only whether hosts are checked. -/
theorem guard_congr {s t : Store} {blocked : Option Bytes} (hs : s.Records content blocked)
    (ht : t.Records content blocked) (h : s.settings.validateHost = t.settings.validateHost)
    (r : Incoming) : Http.guard s.snapshot r = Http.guard t.snapshot r := by
  rw [guard_of_records hs, guard_of_records ht, Store.saidBy, Store.saidBy, h]
  rfl

/-- The list of blocked addresses that has been read is the content of its file. -/
theorem contentAt_of_blockedContent {path : Path}
    (h : Config.blockedContent files path = .ok (some list)) :
    files.contentAt path = .ok list := by
  unfold Config.blockedContent at h
  cases hcontent : files.contentAt path with
  | error f => cases hheld : files.holds path <;> simp [hheld, hcontent, Except.map] at h
  | ok c => cases hheld : files.holds path <;> simp_all [Except.map]

end

/-- The check foretells what a site does with a request, if the site is up to date and the check
can make the directories that are missing. -/
theorem check_foretells_guard {w : Store.Scene} {root : Path} {list : Bytes} {words : List Text}
    {r : Incoming} (hcurrent : w.UpToDate) (hroot : w.store.layout = Layout.ofRoot root)
    (hlist : w.blocked = .ok (some list))
    (hmade : (Config.makeAll w.files (Layout.ofRoot root).directories).1 = .ok ())
    (hasks : Asks words root w.store.settings.validateHost r.view) :
    Foretells (run w.files words) (Http.guard w.store.snapshot r) := by
  obtain ⟨content, blocked, hconfig, hblocked, hrecords⟩ := hcurrent
  obtain rfl : blocked = some list := Except.ok.inj (hblocked.symm.trans hlist)
  rw [Store.Scene.config, hroot] at hconfig
  rw [Store.Scene.blocked, hroot] at hlist
  obtain ⟨rd, hread, hdescribes⟩ := hasks
  obtain ⟨after, s, hsame, hsettings, hcheck⟩ :=
    checkRequest_eq hdescribes hmade hconfig (contentAt_of_blockedContent hlist)
  rw [hread.run, hcheck, Http.verdictText_eq, guard_congr hrecords hsame hsettings.symm]
  exact foretells_done

/-- A configuration with a rule that keeps its robots file for one address, and tells all others
that it is gone. -/
def goneConfig : Text :=
  ["HTTP\n", "allowed-methods GET\n", "URLPaths\n", "conditional-http-service ",
    "[\x7b\"rule-type\":\"ip-address\",", "\"url-path\":\"/robots.txt\",",
    "\"serve-only-to-criteria\":[\"10.0.0.1\"],", "\"http-status-code\":410\x7d]"].flatMap
      String.toList

/-- A site with that configuration, as it has been opened. -/
def goneSite? : Option Store.Scene :=
  Store.Scene.opened? (Store.siteFiles goneConfig) "w".toList .standard

/-- A request for the file, from an address of the newer kind. -/
def goneVisit : Incoming where
  method := "GET".toList
  uri := ⟨none, none, "/robots.txt".toList, some "a=1".toList⟩
  headers := [⟨"host".toList, Text.encode "localhost:8085".toList⟩]
  peer := Http.scanner

/-- A command line that asks about that request. -/
def goneWords : List Text :=
  askWords "w".toList false goneVisit.view ["Host: localhost:8085".toList]

/-- The check of that site prints the rule's status, with which the guard answers. -/
theorem check_foretells_guard_gone : ∃ w, goneSite? = some w ∧
    Http.guard w.store.snapshot goneVisit = .asked (.denied 410) ∧
    Foretells (run w.files goneWords) (Http.guard w.store.snapshot goneVisit) ∧
    (run w.files goneWords).output = "denied 410\n".toList := by
  have hopen : goneSite?.any (fun w => decide
      (w.blocked = .ok (some (Text.encode "10.1.1.1 scanner".toList)) ∧
        Http.guard w.store.snapshot goneVisit = .asked (.denied 410))) = true := by
    decide +kernel
  obtain ⟨w, hw, hfacts⟩ := (Option.any_eq_true _ _).mp hopen
  obtain ⟨hlist, hguard⟩ := of_decide_eq_true hfacts
  obtain ⟨hcurrent, hroot, hsettings⟩ := Store.Scene.upToDate_of_opened hw
  have hheaders : ["Host: localhost:8085".toList].mapM header = .ok goneVisit.view.headers := by
    decide +kernel
  have hasks : Asks goneWords "w".toList w.store.settings.validateHost goneVisit.view := by
    rw [hsettings]
    exact asks_askWords (by decide) false hheaders
  have hforetells := check_foretells_guard hcurrent hroot hlist (Store.makeAll_of_opened hw) hasks
  exact ⟨w, hw, hguard, hforetells, (hforetells.denied 410).mpr ⟨hguard, by rw [hguard]; rfl⟩⟩

end CommandLine.Tool

end SiteGate
