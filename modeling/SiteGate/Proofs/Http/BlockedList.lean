import SiteGate.CommandLine.Tool
import SiteGate.Http.Guard
import SiteGate.Proofs.Net.Address
import SiteGate.Proofs.Store.Provenance

/-!
# Who is blocked

An address can be spelled in many ways. The list of blocked addresses keeps the spelling of its
lines, and a peer is looked for in the one spelling that its address is written in. So a peer whose
address a line spells is refused, by the guard and by the tool, just as long as the address stands on
the list as it is written (`listed_refused_iff`); another spelling alone blocks nobody
(`not_listed_refused`). Nobody else is refused (`spelled_of_refused`).
-/

set_option autoImplicit false

namespace SiteGate

namespace CommandLine.Tool

/-- What the tool says about a peer that is blocked. -/
def blockedText : Text := "denied 403 (blocked address)".toList

/-- No status is written like that: a status has digits only. -/
theorem denied_ne_blockedText (status : Nat) :
    "denied ".toList ++ Text.ofNat status ≠ blockedText := by
  intro h
  have hsplit : blockedText = "denied ".toList ++ "403 (blocked address)".toList := by
    decide +kernel
  rw [hsplit] at h
  have hstatus : Text.ofNat status = "403 (blocked address)".toList := List.append_cancel_left h
  refine Text.not_mem_ofNat (by decide : ' '.isDigit = false) status ?_
  rw [hstatus]
  decide

/-- The tool says so of a request just if its peer is blocked. -/
theorem verdictText_eq_blockedText_iff {s : Config.Snapshot} {r : Gate.Request} :
    verdictText s r = blockedText ↔ s.isBlocked (Net.addressPart r.peer) = true := by
  by_cases hblocked : s.isBlocked (Net.addressPart r.peer) = true
  · exact iff_of_true (if_pos hblocked) hblocked
  refine iff_of_false (fun h => ?_) hblocked
  rw [verdictText, if_neg hblocked] at h
  by_cases hmaintenance : s.maintenance = true
  · rw [if_pos hmaintenance] at h
    exact absurd (String.toList_inj.mp h) (by decide)
  rw [if_neg hmaintenance] at h
  cases hverdict : Gate.verdict s r with
  | allowed =>
    rw [hverdict] at h
    exact absurd (String.toList_inj.mp h) (by decide)
  | redirected location =>
    rw [hverdict] at h
    have hhead := congrArg List.head? h
    simp only [List.append_assoc] at hhead
    rw [List.head?_append_of_ne_nil _ (by decide)] at hhead
    exact absurd hhead (by decide +kernel)
  | denied status =>
    rw [hverdict] at h
    exact denied_ne_blockedText status h

end CommandLine.Tool

namespace Http

open CommandLine Net

/-- A list of blocked addresses spells an address: it is what the first word of a line that is no
comment is read as. -/
def Spelled (list : Bytes) (a : Address) : Prop :=
  ∃ token ∈ Config.blockedAddresses (Text.decode list), Address.ofText? token = some a

/-- A peer is refused: the guard answers all its requests with 403, and the tool tells of every
request from it that its address is blocked. -/
structure Refused (s : Store) (peer : SocketAddress) : Prop where
  guard : ∀ r : Incoming, r.peer = peer → (guard s.snapshot r).answer? = some (.bare 403)
  tool : ∀ r : Gate.Request, SocketAddress.ofText? r.peer = some peer →
    Tool.verdictText s.snapshot r = Tool.blockedText

variable {s : Store} {content list : Bytes} {peer : SocketAddress}

/-- A peer is refused just if its address is in the list as it is written. -/
theorem refused_iff (h : s.Records content (some list)) :
    Refused s peer ↔
      peer.address.toText ∈ Config.blockedAddresses (Text.decode list) := by
  have hlist : s.snapshot.blockedAddresses = Config.blockedAddresses (Text.decode list) :=
    congrArg Config.Snapshot.blockedAddresses h.fields
  have hblocked : s.snapshot.isBlocked peer.address.toText = true ↔
      peer.address.toText ∈ Config.blockedAddresses (Text.decode list) := by
    rw [Config.Snapshot.isBlocked, hlist, List.contains_iff_mem]
  rw [← hblocked]
  constructor
  · intro hrefused
    -- what the tool says of a request with the peer's own text gives the list away
    let r : Gate.Request := ⟨[], [], [], [], peer.toText, []⟩
    have hpeer := SocketAddress.ofText?_toText peer
    have htext := hrefused.tool r hpeer
    rwa [Tool.verdictText_eq_blockedText_iff, addressPart_of_peer hpeer] at htext
  · intro hb
    refine ⟨?_, ?_⟩
    · rintro r rfl
      simp [Http.guard, hb, Guarded.answer?]
    · intro r hr
      rwa [Tool.verdictText_eq_blockedText_iff, addressPart_of_peer hr]

/-- Nobody is refused whose address the list does not spell. -/
theorem spelled_of_refused (h : s.Records content (some list)) (hrefused : Refused s peer) :
    Spelled list peer.address :=
  ⟨peer.address.toText, (refused_iff h).mp hrefused, Address.ofText?_toText peer.address⟩

/-- A list refuses every peer whose address it spells, just if it holds every address that it spells
as it is written. -/
theorem listed_refused_iff (content list : Bytes) :
    (∀ (s : Store) (peer : SocketAddress), s.Records content (some list) →
        Spelled list peer.address → Refused s peer) ↔
      ∀ a, Spelled list a → a.toText ∈ Config.blockedAddresses (Text.decode list) := by
  constructor
  · intro h a hspelled
    obtain ⟨peer, rfl⟩ : ∃ peer : SocketAddress, peer.address = a := by
      cases a with
      | v4 x => exact ⟨.v4 x 0, rfl⟩
      | v6 x => exact ⟨.v6 x 0 0, rfl⟩
    let s : Store := (Store.initial (.ofRoot []) .standard).withContents content (some list)
    have hrecords : s.Records content (some list) := .withContents _ content (some list)
    exact (refused_iff hrecords).mp (h s peer hrecords hspelled)
  · intro h s peer hrecords hspelled
    exact (refused_iff hrecords).mpr (h _ hspelled)

/-- A list with an address in capital letters. -/
def capitalsList : Bytes := Text.encode "2001:DB8::1 scanner\n".toList

/-- The peer that the list is about. -/
def scanner : SocketAddress := .v6 ⟨[0x2001, 0xdb8, 0, 0, 0, 0, 0, 1], rfl⟩ 0 40000

/-- That list spells the peer's address and does not refuse the peer. -/
theorem not_listed_refused :
    ¬ ∀ (content list : Bytes) (s : Store) (peer : SocketAddress),
      s.Records content (some list) → Spelled list peer.address → Refused s peer := by
  intro h
  have htokens : Config.blockedAddresses (Text.decode capitalsList) = ["2001:DB8::1".toList] := by
    decide +kernel
  have hspelled : Spelled capitalsList scanner.address :=
    ⟨"2001:DB8::1".toList, by rw [htokens]; exact List.mem_singleton_self _, by decide +kernel⟩
  have hrecords : Store.Records
      ((Store.initial (.ofRoot []) .standard).withContents [] (some capitalsList)) []
        (some capitalsList) :=
    .withContents _ _ _
  have hwritten := (refused_iff hrecords).mp (h _ _ _ _ hrecords hspelled)
  rw [htokens, List.mem_singleton] at hwritten
  exact absurd hwritten (by decide +kernel)

end Http

end SiteGate
