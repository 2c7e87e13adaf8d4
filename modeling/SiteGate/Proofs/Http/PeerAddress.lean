import SiteGate.Proofs.Gate.Conditional
import SiteGate.Proofs.Http.BlockedList

/-!
# One address for every check

The guard looks for a peer in the list of blocked addresses by the peer's address itself. The tool
and the rules about addresses have only a text of the peer, with a port or without one, and take the
address out of it. Since an address is read from what it is written as, with its port and without
it, all of them look for the same text (`peer_seen_alike`).
-/

set_option autoImplicit false

namespace SiteGate.Http

open CommandLine Config Net

/-- A rule about addresses serves a request just if the address of its peer is one of the
criteria. -/
theorem serves_address_iff {rule : ConditionalRule} {request : Gate.Request} {a : Address}
    (hrule : rule.part = .ipAddress) (hpeer : addressPart request.peer = a.toText) :
    Gate.serves rule request = true ↔ a.toText ∈ rule.criteria := by
  rw [Gate.serves_eq_true_iff, hrule]
  constructor
  · rintro ⟨c, hmem, -, hmet⟩
    rw [Gate.Met, hpeer] at hmet
    exact hmet ▸ hmem
  · exact fun hmem => ⟨a.toText, hmem, a.toText_ne_nil, hpeer.symm⟩

/-- The guard turns a peer away just if its address is blocked. -/
theorem guard_eq_blocked_iff {s : Snapshot} {r : Incoming} :
    guard s r = .blocked ↔ s.isBlocked r.peer.address.toText = true := by
  unfold guard
  split
  · next hblocked => exact iff_of_true rfl hblocked
  · next hblocked =>
    refine iff_of_false ?_ hblocked
    split <;> simp

/-- The address in the text of a peer is the address of the peer as it is written, and the address
in the text of an address is that text. So the guard, the tool and the rules about addresses look
for a peer by the same text, whether they have been told of its port or not. -/
theorem peer_seen_alike :
    (∀ peer : SocketAddress, addressPart peer.toText = peer.address.toText) ∧
    (∀ a : Address, addressPart a.toText = a.toText) ∧
    ∀ (s : Snapshot) (r : Incoming) (asked : Gate.Request),
      asked.peer = r.peer.toText ∨ asked.peer = r.peer.address.toText →
      (guard s r = .blocked ↔ s.isBlocked r.peer.address.toText = true) ∧
      (Tool.verdictText s asked = Tool.blockedText ↔
        s.isBlocked r.peer.address.toText = true) ∧
      ∀ rule : ConditionalRule, rule.part = .ipAddress →
        (Gate.serves rule r.view = true ↔ r.peer.address.toText ∈ rule.criteria) ∧
        (Gate.serves rule asked = true ↔ r.peer.address.toText ∈ rule.criteria) := by
  have hpeer : ∀ peer : SocketAddress, addressPart peer.toText = peer.address.toText :=
    fun peer => addressPart_of_peer (SocketAddress.ofText?_toText peer)
  refine ⟨hpeer, addressPart_of_address, fun s r asked hasked => ?_⟩
  have haddress : addressPart asked.peer = r.peer.address.toText := by
    rcases hasked with h | h
    · rw [h, hpeer]
    · rw [h, addressPart_of_address]
  refine ⟨guard_eq_blocked_iff, ?_, fun rule hrule => ⟨?_, ?_⟩⟩
  · rw [Tool.verdictText_eq_blockedText_iff, haddress]
  · exact serves_address_iff hrule (hpeer r.peer)
  · exact serves_address_iff hrule haddress

/-- A peer with a scope, and zero groups that are not written. -/
example : addressPart "[fe80::1%3]:8080".toList = "fe80::1".toList := by decide +kernel

end SiteGate.Http
