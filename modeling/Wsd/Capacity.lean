import Wsd.Pp2.Format
import Wsd.Wscat.Decode
import Wsd.Ws.Backpressure
import Wsd.Ws.Returns
import Wsd.Loops.Sync

namespace wsd

/-- No further byte can be read into the buffer. -/
structure Skb.Full (b : Skb) : Prop where
  rdpos : b.rdpos = 0
  wrpos : b.wrpos = SKB_SIZE

/-- The chains of the table link open clients, whose write positions are unsigned ints. -/
structure Mux.Linked (m : Mux) : Prop where
  chains : ∀ k < HASH_SIZE, ∀ id ∈ m.sk_hash k, m.clients id ≠ none
  wrpos : ∀ id sk, m.clients id = some sk → sk.sendbuf.wrpos < 4294967296

section Full

variable {b : Skb}

theorem Skb.Full.ok (h : b.Full) : b.Ok :=
  ⟨by rw [h.rdpos]; exact Nat.zero_le _, Nat.le_of_eq h.wrpos⟩

theorem Skb.Full.length_readable (h : b.Full) : b.readable.length = SKB_SIZE := by
  rw [Skb.length_readable, h.rdpos, h.wrpos, Nat.sub_zero]

/-- A full buffer starts with two header bytes. -/
theorem Skb.Full.header (h : b.Full) :
    ∃ byte1 byte2 rest, b.readable = byte1 :: byte2 :: rest ∧ rest.length = SKB_SIZE - 2 := by
  have hlen := h.length_readable
  unfold SKB_SIZE at hlen ⊢
  match hread : b.readable with
  | [] | [_] =>
    rw [hread] at hlen
    simp at hlen
  | byte1 :: byte2 :: rest =>
    rw [hread] at hlen
    simp only [List.length_cons] at hlen
    exact ⟨byte1, byte2, rest, rfl, by omega⟩

end Full

section Masked

variable {c : Conn}

end Masked

section Unmasked

variable {no_handshake : Bool} {w : Wssk}

end Unmasked

section Backend

variable {m : Mux} {hash : UInt64} {len : Nat}

end Backend

namespace Sample

/-- A daemon with a client whose backend has sent the given bytes. -/
def attended (bytes : List UInt8) : Mux :=
  { lonely bytes with
    clients := fun id => if id = 0 then some { (upgraded []).sk with hash := 7 } else none
    sk_hash := fun k => if k = 0 then [0] else [] }

end Sample

end wsd
