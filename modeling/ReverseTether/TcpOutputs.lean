import ReverseTether.OutgoingPackets

/-!
# What a TCP connection does for the client

Of all that a TCP connection does the client notices little: a segment is forged, or bytes of the
host are handed over, now or later.  Everything else touches neither the packetizer nor the packet
that waits, and appends nothing (`Output.quiet`).  Every call is made of these five
(`Returns.outputs`), so what is proved of them holds of each call.

The list is complete: an empty segment, the headers of a data packet that is not built in the
end, bytes of the host that are handed over at once or put aside, and a packet that waited.
For what the client is to receive, and for what the packetizer holds, nothing else needs to be
looked at, however long the method is.

Invariants about the stream of the client are proved of these five steps, and then hold of
each call of a connection and, through the moves of the handlers, of the relay.
-/

namespace ReverseTether

open Library Relation

open TcpConnection (updateHeaders)

/-- It concerns no packet for the client. -/
def TcpAction.IsQuiet : TcpAction → Prop
  | .forged _ _ | .read _ | .handed _ | .deferred _ | .delivered _ => False
  | _ => True

namespace TcpContext

/-- What a piece of a method does with the packets for the client: nothing, or one of the ways in
which a packet is built or handed over. -/
inductive Output (may : TcpWork → Prop) (c c' : TcpContext) : Prop
  | quiet {actions : List TcpAction} :
      c'.conn.networkToClient = c.conn.networkToClient →
      c'.conn.packetForClientLength = c.conn.packetForClientLength → c'.conn.id = c.conn.id →
      c'.conn.trace = c.conn.trace ++ actions → (∀ action ∈ actions, action.IsQuiet) →
      c'.client.appended = c.client.appended → Output may c c'
  /-- The headers of a data packet that is not built after all. -/
  | primed {packetizer : Packetizer} : c.conn.packetForClientLength = none →
      updateHeaders c.conn.networkToClient c.conn.tcb (flagAck ||| flagPsh) = .ok packetizer →
      c' = { c with conn := { c.conn with networkToClient := packetizer } } → Output may c c'
  | forged {flags : UInt16} : flags ∈ relayFlags → c.replyEmptyPacketToClient flags = .ok c' →
      Output may c c'
  /-- Bytes of the host are handed over, or wait. -/
  | received {primed packetizer : Packetizer} {available : List UInt8} {packet : Ipv4Packet} :
      c.conn.packetForClientLength = none →
      updateHeaders c.conn.networkToClient c.conn.tcb (flagAck ||| flagPsh) = .ok primed →
      primed.packetizeRead (.ok available) c.receivable = .ok (.ok (some packet), packetizer) →
      ({ c with conn := { c.conn with networkToClient := packetizer } }.record
        (.read (primed.chunk available c.receivable))).sendDataToClient packet = .ok c' →
      Output may c c'
  /-- The packet that waited was handed over. -/
  | delivered {length : UInt16} {tcb : Tcb} : may .deliver →
      c.conn.packetForClientLength = some length →
      c' = { c with conn := { c.conn with packetForClientLength := none, tcb } }.record
        (.delivered (c.conn.networkToClient.inflate length).raw) → Output may c c'

/-- What a whole method does with the packets for the client. -/
abbrev Outputs (may : TcpWork → Prop) : TcpContext → TcpContext → Prop := ReflTransGen (Output may)

variable {may : TcpWork → Prop} {c c₁ c' : TcpContext}

/-- Nothing is recorded. -/
theorem Output.silent (packetizer : c'.conn.networkToClient = c.conn.networkToClient)
    (waiting : c'.conn.packetForClientLength = c.conn.packetForClientLength)
    (id : c'.conn.id = c.conn.id) (trace : c'.conn.trace = c.conn.trace)
    (appended : c'.client.appended = c.client.appended) : Output may c c' :=
  .quiet packetizer waiting id (trace.trans (List.append_nil _).symm) (by simp) appended

theorem Output.record {action : TcpAction} (quiet : action.IsQuiet) : Output may c (c.record action) :=
  .quiet rfl rfl rfl rfl (fun _ mem => List.mem_singleton.mp mem ▸ quiet) rfl

theorem Output.withTcb (f : Tcb → Tcb) : Output may c (c.withTcb f) := .silent rfl rfl rfl rfl rfl

theorem acknowledge_output {written : List UInt8}
    {clientToNetwork : StreamBuffer (4 * maxPacketLength)} :
    Output may c (c.acknowledge written clientToNetwork) :=
  .quiet rfl rfl rfl rfl (fun _ mem => List.mem_singleton.mp mem ▸ trivial) rfl

theorem countReceivedFin_outputs : Outputs may c c.countReceivedFin :=
  .tail (.single (.withTcb _)) (.record trivial)

/-- A segment is forged, and the state advances. -/
theorem forged_outputs {flags : UInt16} {f : Tcb → Tcb} (mem : flags ∈ relayFlags)
    (forged : c.replyEmptyPacketToClient flags = .ok c₁) : Outputs may c (c₁.withTcb f) :=
  .tail (.single (.forged mem forged)) (.withTcb f)

end TcpContext

open TcpContext

/-- **What a step does for the client.**  There are few ways to make a packet for the client, and
everything else is quiet; this is the list, and what is said about the client's stream is proved
along it. -/
theorem TcpMove.outputs {may : TcpWork → Prop} {c c' : TcpContext} (move : TcpMove may c c') :
    Outputs may c c' := by
  cases move with
  | touch now => exact .single (.silent rfl rfl rfl rfl rfl)
  | interests updated =>
      obtain ⟨-, conn, client, -⟩ := updateInterests_ok updated
      exact .single
        (.silent (by rw [conn]) (by rw [conn]) (by rw [conn]) (by rw [conn]) (by rw [client]))
  | prime _ idle primed => exact .single (.primed idle primed rfl)
  | forge plain forged =>
      refine .single (.forged ?_ forged)
      rcases plain with rfl | rfl <;> decide
  | close =>
      have closed : Output may c (c.record (.closed c.conn.waiting)) := .record trivial
      exact .tail (.single closed) (.silent rfl rfl rfl rfl rfl)
  | removeFromRouter => exact .single (.silent rfl rfl rfl rfl rfl)
  | connect _ _ forged => exact .head (.withTcb _) (forged_outputs (by decide) forged)
  | write _ _ _ _ _ => exact .single acknowledge_output
  | writeLast _ _ _ _ _ _ => exact .head acknowledge_output countReceivedFin_outputs
  | receive _ _ idle updated packetized sent => exact .single (.received idle updated packetized sent)
  | eof _ _ ended =>
      obtain ⟨c₁, forged, rest⟩ := bind_eq_ok.mp ended
      cases rest
      have read : Output may c (c.record .readEof) := .record trivial
      exact .head read (forged_outputs (by decide) forged)
  | answerFin _ forged => exact forged_outputs (by decide) forged
  | closing _ => exact .single (.withTcb _)
  | finAcked _ => exact .single (.withTcb _)
  | deliver allowed waits => exact .single (.delivered allowed waits rfl)

/-- **What a segment that arrives does**, before it is answered: nothing that the client notices.
It moves the control block and buffers the payload. -/
theorem TcpArrival.outputs {may : TcpWork → Prop} {packet : Ipv4Packet} {header : TcpHeaderData}
    {random : UInt32} {c c' : TcpContext} (arrival : TcpArrival packet header random c c') :
    Outputs may c c' := by
  cases arrival with
  | opened _ _ => exact .tail (.single (.withTcb _)) (.record trivial)
  | @expected acked _ _ _ _ ackPart =>
      have client : acked.client = c.client := by
        split at ackPart
        · have kept := TcpContext.handleAck_client ackPart
          exact kept
        · cases ackPart
          rfl
      have heard : Output may c acked := by
        rcases ackPart_ok ackPart with
          ⟨-, -, same⟩ | ⟨same, -⟩ | ⟨payload, clientToNetwork, -, -, same⟩
        all_goals
          exact .silent (by rw [same]; rfl) (by rw [same]; rfl) (by rw [same]; rfl) (by rw [same]; rfl)
            (by rw [client])
      refine .head heard ?_
      split
      · unfold noteFin
        simp only
        split
        · exact .head (.withTcb _) countReceivedFin_outputs
        · exact .single (.withTcb _)
      · exact .refl
  | _ => exact .single (.silent rfl rfl rfl rfl rfl)

/-- **What a call does for the client.**  It is the outputs of its moves, one behind the other. -/
theorem TcpContext.Returns.outputs {c c' : TcpContext} {call : ConnectionCall}
    (returns : c.Returns call c') : Outputs call.works c c' := by
  obtain ⟨c₁, hears, moves⟩ := returns.moves
  have rest : Outputs call.works c₁ c' := by
    clear returns hears
    induction moves with
    | refl => exact .refl
    | tail _ move ih => exact ih.trans move.outputs
  refine .trans ?_ rest
  cases hears with
  | nothing => exact .refl
  | @packet _ answers _ _ _ arrival =>
      have touched {may : TcpWork → Prop} :
          Output may c { c with conn := c.conn.touch answers.now } := .silent rfl rfl rfl rfl rfl
      exact .head touched arrival.outputs

end ReverseTether
