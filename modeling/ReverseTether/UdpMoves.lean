import ReverseTether.Library.Machine
import ReverseTether.UdpConnection

/-!
# What the methods of a UDP connection can do, step by step

As for TCP, every method is a sequence of a few kinds of atomic steps.  Only one of
them, the reading of a datagram, reaches the client.

A method that returns has gone through such a sequence (`onReady_moves` and its siblings), so
what is to hold of a connection in every run has to be shown for a move at a time: the
branches of the methods are looked at once, here, and not again for each property.

The moves also say what is left alone: the flow stays the same, and nothing but a close sets
the flag of the connection.
-/

namespace ReverseTether

open Library Relation

/-- The atomic steps of a UDP connection; every method of it is a sequence of them. -/
inductive UdpMove (c : UdpContext) : UdpContext → Prop
  | touch (now : Instant) : UdpMove c { c with conn := c.conn.touch now }
  | queue (clientToNetwork : DatagramBuffer (4 * maxPacketLength)) :
      UdpMove c (c.withQueue clientToNetwork)
  | interests {c' : UdpContext} : c.updateInterests = .ok c' → UdpMove c c'
  | close : UdpMove c c.close
  | removeFromRouter : UdpMove c c.removeFromRouter
  /-- A datagram was read, and its packet offered to the client. -/
  | read {source : IoResult (List UInt8)} {result : IoResult Unit} {c' : UdpContext} :
      c.read source = .ok (result, c') → UdpMove c c'

/-- What a method of the connection does, as a sequence of moves, each of which one lemma can be
proved about. -/
abbrev UdpMoves : UdpContext → UdpContext → Prop := ReflTransGen UdpMove

namespace UdpContext

variable {c c' : UdpContext}

theorem sendToNetwork_moves {packet : IpPacket} (h : c.sendToNetwork packet = .ok c') :
    UdpMoves c c' := by
  cases packet with
  | ipv6 _ =>
      cases h
      exact .refl
  | ipv4 packet =>
      obtain ⟨payload, -, h⟩ := bind_eq_ok.mp h
      cases payload with
      | none => cases h
      | some payload =>
          obtain ⟨⟨stored, clientToNetwork⟩, -, h⟩ := bind_eq_ok.mp h
          cases stored with
          | ok _ => exact .head (.queue clientToNetwork) (.single (.interests h))
          | error _ =>
              cases h
              exact .refl

theorem processSend_moves {write : IoResult ℕ} (h : c.processSend write = .ok c') :
    UdpMoves c c' := by
  obtain ⟨⟨result, written, clientToNetwork⟩, -, h⟩ := bind_eq_ok.mp h
  refine .head (.queue clientToNetwork) ?_
  cases result with
  | ok _ =>
      cases h
      exact .refl
  | error err =>
      cases err with
      | wouldBlock =>
          cases h
          exact .refl
      | other =>
          cases h
          exact .single .close

theorem processReceive_moves {source : IoResult (List UInt8)} {result : IoResult Unit}
    (h : c.processReceive source = .ok (result, c')) : UdpMoves c c' := by
  obtain ⟨⟨answer, c₁⟩, wasRead, h⟩ := bind_eq_ok.mp h
  refine .head (.read wasRead) ?_
  cases answer with
  | ok _ =>
      cases h
      exact .refl
  | error err =>
      cases err with
      | wouldBlock =>
          cases h
          exact .refl
      | other =>
          cases h
          exact .single .close

theorem processReady_moves {ready : Ready} {answers : SocketAnswers} {result : IoResult Unit}
    (h : c.processReady ready answers = .ok (result, c')) : UdpMoves c c' := by
  obtain ⟨c₁, sent, h⟩ := bind_eq_ok.mp h
  have writable : UdpMoves c c₁ := by
    split at sent
    · exact processSend_moves sent
    · cases sent
      exact .refl
  have readable {result : IoResult Unit} {c₂ : UdpContext}
      (h : (if c₁.conn.closed = false ∧ ready.isReadable then c₁.processReceive answers.read
        else .ok (.ok (), c₁)) = .ok (result, c₂)) : UdpMoves c₁ c₂ := by
    split at h
    · exact processReceive_moves h
    · cases h
      exact .refl
  rcases orReturn_eq_ok.mp h with ⟨c₂, received, h⟩ | ⟨err, c₂, received, rest⟩
  · obtain ⟨c₃, updated, rest⟩ := bind_eq_ok.mp h
    cases rest
    refine (writable.trans (readable received)).trans ?_
    split at updated
    · cases updated
      exact .refl
    · exact .single (.interests updated)
  · cases rest
    exact writable.trans (readable received)

theorem process_moves {ready : Ready} {answers : SocketAnswers} {now : Instant}
    {result : IoResult Unit} (h : c.process ready answers now = .ok (result, c')) :
    UdpMoves c c' := by
  unfold process at h
  split at h
  · cases h
    exact .refl
  · have body {result : IoResult Unit} {c₁ : UdpContext}
        (h : (if ready.isReadable ∨ ready.isWritable then
            processReady { c with conn := c.conn.touch now } ready answers
          else .ok (.ok (), close { c with conn := c.conn.touch now })) = .ok (result, c₁)) :
        UdpMoves c c₁ := by
      refine .head (.touch now) ?_
      split at h
      · exact processReady_moves h
      · cases h
        exact .single .close
    rcases orReturn_eq_ok.mp h with ⟨c₁, processed, h⟩ | ⟨err, c₁, processed, rest⟩
    · cases h
      split
      · exact (body processed).tail .removeFromRouter
      · exact body processed
    · cases rest
      exact body processed

theorem onReady_moves {ready : Ready} {answers : SocketAnswers} {now : Instant}
    (h : c.onReady ready answers now = .ok c') : UdpMoves c c' := by
  obtain ⟨⟨result, c₁⟩, processed, h⟩ := bind_eq_ok.mp h
  refine (process_moves processed).trans ?_
  cases result with
  | ok _ =>
      cases h
      exact .refl
  | error err =>
      cases err with
      | wouldBlock =>
          cases h
          exact .refl
      | other =>
          cases h
          split
          · exact .single .removeFromRouter
          · exact .tail (.single .close) .removeFromRouter

end UdpContext

end ReverseTether
