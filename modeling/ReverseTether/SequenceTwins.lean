import ReverseTether.LostControl
import ReverseTether.SequenceShift

/-!
# Two runs with different initial sequence numbers

A run of a connection and another in which the random numbers of the relay, and the numbers
its client acknowledges, are `d` ahead stay in step (`Twins.run_shifts`): what the host is
written, the states, the closes and the segments are the same, but for the sequence numbers.

They do not when the FIN of the relay has the number `2 ^ 32 - 1` in one of them and overflow
checks are on: that run panics (`Twins.run_diverges`).

The two runs take the same steps: the same packets up to the acknowledgement numbers, the same
answers of the sockets, the same clock.  At every step the states are related by `Shifted`,
which says field by field what is ahead by `d`, what is equal, and which numbers are not set
yet.

The difference could show where numbers are compared or added without wrapping.  There is one
such place, the number after the FIN, which the condition of the theorem is about; everywhere
else the code compares differences.
-/

namespace ReverseTether

open Library

/-- The same answer to the caller, and related states.  An error is answered by both or by neither.
-/
abbrev Answered {σ : Type} (R : σ → σ → Prop) (a b : IoResult Unit × σ) : Prop :=
  b.1 = a.1 ∧ R a.2 b.2

/-- The early return of both: where one has an error, so has the other. -/
theorem InStep.orReturn {σ : Type} {R : σ → σ → Prop} {x y : Outcome (IoResult Unit × σ)}
    {f g : σ → Outcome (IoResult Unit × σ)} (first : InStep (Answered R) x y)
    (rest : ∀ a b, x = .ok (.ok (), a) → R a b → InStep (Answered R) (f a) (g b)) :
    InStep (Answered R) (orReturn x f) (orReturn y g) := by
  refine first.bind_eq ?_
  rintro ⟨result, a⟩ ⟨result', b⟩ eq - ⟨rfl, related⟩
  cases result' with
  | ok _ => exact rest a b eq related
  | error err => exact .ok ⟨rfl, related⟩

namespace TcpContext.Shifted

variable {d : UInt32} {c c' : TcpContext}

/-! ## Events of the host -/

/-- The same error of the host closes both; otherwise both answer their SYN. -/
theorem processConnect (shifted : c.Shifted d c') (takeError : IoResult (Option IoError)) :
    InStep (Shifted d) (c.processConnect takeError) (c'.processConnect takeError) := by
  have state := shifted.conn.state
  unfold TcpContext.processConnect
  refine .ite (by rw [state]) (fun _ => .error nofun) fun synSent => ?_
  rw [not_not] at synSent
  have begun : c.conn.tcb.state ≠ .init := by
    rw [synSent]
    exact nofun
  have connects : InStep (Shifted d)
      (do let a ← (c.withTcb fun tcb => { tcb with state := .synReceived }).sendEmptyPacketToClient
            (flagSyn ||| flagAck)
          return a.withTcb fun tcb => { tcb with sequenceNumber := tcb.sequenceNumber + 1 })
      (do let b ← (c'.withTcb fun tcb => { tcb with state := .synReceived }).sendEmptyPacketToClient
            (flagSyn ||| flagAck)
          return b.withTcb fun tcb => { tcb with sequenceNumber := tcb.sequenceNumber + 1 }) := by
    have received : Shifted d (c.withTcb fun tcb => { tcb with state := .synReceived })
        (c'.withTcb fun tcb => { tcb with state := .synReceived }) := by
      refine shifted.withTcb { shifted.conn.tcb with
        state := rfl
        sequenceNumber := fun _ => shifted.numbered begun
        theirAcknowledgementNumber := fun connected => ?_ }
      cases connected
    refine (received.reply (by decide) (shifted.numbered begun)).bind ?_
    rintro a b ⟨replied, same⟩
    refine .ok (replied.withTcb { replied.conn.tcb with sequenceNumber := fun _ => ?_ })
    show b.conn.tcb.sequenceNumber + 1 = a.conn.tcb.sequenceNumber + 1 + d
    rw [replied.numbered (by rw [same]; exact nofun)]
    grind
  split
  · exact shifted.resetAndClose (shifted.numbered begun)
  · exact connects
  · exact connects

/-- Both acknowledge the same bytes: the acknowledgement number is not shifted. -/
theorem acknowledge (shifted : c.Shifted d c') (written : List UInt8)
    (clientToNetwork : StreamBuffer (4 * maxPacketLength)) :
    (c.acknowledge written clientToNetwork).Shifted d
      (c'.acknowledge written clientToNetwork) := by
  refine TcpContext.Shifted.record ?_ (.wrote written)
  refine (shifted.withBuffer clientToNetwork).withTcb { shifted.conn.tcb with
    acknowledgementNumber := ?_ }
  exact congrArg (· + _) shifted.conn.tcb.acknowledgementNumber

/-- **Bytes are written to the host.**  Nothing is there to be written before the first SYN. What
is written is what the client sent, and its numbers are not shifted. -/
theorem processSend (shifted : c.Shifted d c')
    (idle : c.conn.tcb.state = .init → c.conn.clientToNetwork.isEmpty = true)
    (write : IoResult ℕ) :
    InStep (Answered (Shifted d)) (c.processSend write) (c'.processSend write) := by
  unfold TcpContext.processSend
  rw [shifted.conn.clientToNetwork]
  rcases wrote : c.conn.clientToNetwork.writeTo write with ⟨err | written, clientToNetwork⟩
  · cases err with
    | wouldBlock => exact .ok ⟨rfl, shifted⟩
    | other =>
        obtain ⟨-, -, nonempty⟩ := StreamBuffer.writeTo_error_eq wrote
        have begun : c.conn.tcb.state ≠ .init := by
          intro init
          rw [idle init] at nonempty
          cases nonempty
        refine (shifted.reply (by decide) (shifted.numbered begun)).bind ?_
        rintro a b ⟨replied, -⟩
        exact .ok ⟨rfl, replied.close⟩
  · refine .ite Iff.rfl (fun nonempty => ?_) fun _ => .ok ⟨rfl, shifted.close⟩
    have begun : c.conn.tcb.state ≠ .init := by
      intro init
      rw [StreamBuffer.writeTo_of_isEmpty (idle init)] at wrote
      cases wrote
      exact nonempty rfl
    have acknowledged := shifted.acknowledge written clientToNetwork
    have finReceived := acknowledged.conn.tcb.finReceived
    refine .ite (by rw [finReceived]; rfl) (fun _ => ?_) fun _ => ?_
    · refine acknowledged.doHandleFin.bind ?_
      rintro a b handled
      exact .ok ⟨rfl, handled⟩
    · refine (acknowledged.reply (by decide) (acknowledged.numbered begun)).bind ?_
      rintro a b ⟨replied, -⟩
      exact .ok ⟨rfl, replied⟩

/-- What is built while no packet waits. -/
theorem withPacketizer {packetizer packetizer' : Packetizer} (shifted : c.Shifted d c')
    (twin : packetizer.Twin (TcpHeader.Shifted d) packetizer')
    (idle : c.conn.packetForClientLength = none) :
    Shifted d { c with conn := { c.conn with networkToClient := packetizer } }
      { c' with conn := { c'.conn with networkToClient := packetizer' } } := by
  refine ⟨?_, shifted.client, shifted.selector⟩
  obtain ⟨conn', client', selector'⟩ := c'
  obtain ⟨conn, -, -⟩ := shifted
  cases conn with
  | mk tcb _ _ trace =>
      refine .mk tcb twin.alike (fun length waits => ?_) trace
      cases idle.symm.trans waits

/-- **A data packet** is handed to both clients, or waits for both.  The two packets have the same
length and differ in their numbers and checksums, so that there is room for both of them or for
none. -/
theorem sendDataToClient {packet packet' : Ipv4Packet} (shifted : c.Shifted d c')
    (begun : c.conn.tcb.state ≠ .init) (packets : ShiftedPacket d packet packet')
    (twin : c.conn.networkToClient.Twin (TcpHeader.Shifted d) c'.conn.networkToClient)
    (whole : c.conn.networkToClient.payloadIndex ≤ packet.length.toNat) :
    InStep (Shifted d) (c.sendDataToClient packet) (c'.sendDataToClient packet') := by
  unfold TcpContext.sendDataToClient
  rw [shifted.selector]
  refine (shifted.client.sendRawToClient c.selector packets.raw.length).bind ?_
  rintro ⟨sent, client, selector⟩ ⟨sent', client', selector'⟩ ⟨rfl, alike, rfl⟩
  have kept : client.Alike client' := alike
  have offered : Shifted d ⟨c.conn, client, selector'⟩ ⟨c'.conn, client', selector'⟩ :=
    ⟨shifted.conn, kept, rfl⟩
  cases sent' with
  | ok _ =>
      simp only [packets.payload]
      refine .bind_same (fun panic failed => Ipv4Packet.payload_error failed) fun payload _ => ?_
      cases payload with
      | none => exact .error nofun
      | some payload =>
          refine .ok ((offered.withTcb { offered.conn.tcb with
            sequenceNumber := fun _ => ?_ }).record (.handed packets.raw))
          show c'.conn.tcb.sequenceNumber + _ = c.conn.tcb.sequenceNumber + _ + d
          rw [shifted.numbered begun]
          grind
  | error _ =>
      refine .ok (TcpContext.Shifted.record ⟨?_, ?_, rfl⟩ (.deferred packets.raw))
      · show TcpConnection.Shifted d { c.conn with packetForClientLength := some packet.length }
          { c'.conn with packetForClientLength := some packet'.length }
        rw [packets.length]
        obtain ⟨conn', client', selector'⟩ := c'
        obtain ⟨conn, -, -⟩ := shifted
        cases conn with
        | mk tcb alike _ trace =>
            refine .mk tcb alike (fun length waits => ?_) trace
            cases waits
            exact ⟨twin, whole⟩
      · show (client.registerPendingPacketSource c.conn.handle).Alike
          (client'.registerPendingPacketSource c'.conn.handle)
        rw [shifted.conn.handle]
        refine ⟨?_, kept.size⟩
        rw [kept.rest]
        rfl

/-- The socket is at its end. -/
theorem eof (shifted : c.Shifted d c') (connected : c.conn.tcb.state.isConnected = true) :
    InStep (Shifted d) c.eof c'.eof := by
  refine (shifted.reply (by decide) (shifted.numbered (TcpState.ne_init connected))).bind ?_
  rintro a b ⟨replied, same⟩
  rw [← same] at connected
  rw [replied.conn.state]
  exact .ok (replied.countSentFin connected (replied.numbered (TcpState.ne_init connected)))

/-- **Bytes are read from the host**, which is connected.  The window is a difference of numbers
that are shifted together, and so it is the same for both. -/
theorem processReceive (shifted : c.Shifted d c') (connected : c.conn.tcb.state.isConnected = true)
    (read : IoResult (List UInt8)) :
    InStep (Answered (Shifted d)) (c.processReceive read) (c'.processReceive read) := by
  have window := shifted.conn.tcb.remainingClientWindow connected
  have number := shifted.numbered (TcpState.ne_init connected)
  have receivable : c'.receivable = c.receivable := by
    rw [TcpContext.receivable, TcpContext.receivable, window]
  unfold TcpContext.processReceive
  refine .ite (by rw [shifted.conn.packetForClientLength]) (fun _ => .error nofun) fun idle => ?_
  rw [Option.not_isSome_iff_eq_none] at idle
  refine .ite (by rw [window]) (fun _ => .error nofun) fun _ => ?_
  obtain ⟨p, p', updated, updated', primed, index⟩ :=
    shifted.conn.twin.updateHeaders (show flagAck ||| flagPsh ∈ relayFlags by decide) number
      shifted.conn.tcb.acknowledgementNumber
  have bound : p.payloadIndex + c.receivable < 65536 :=
    (Nat.add_le_add (index.trans_le shifted.conn.twin.forTcp.short) c.receivable_le).trans_lt
      (by decide)
  obtain ⟨result, result', q, q', made, made', twin, results⟩ := primed.packetizeRead read bound
  have chunk : p'.chunk (read.toOption.getD []) c.receivable =
      p.chunk (read.toOption.getD []) c.receivable := by
    rw [Packetizer.chunk, Packetizer.chunk, primed.payload]
  rw [updated, updated', ok_bind, ok_bind, receivable, made, made', ok_bind, ok_bind, chunk]
  have after := shifted.withPacketizer twin idle
  rcases results with ⟨err, rfl, rfl⟩ | ⟨rfl, rfl⟩ | ⟨packet, packet', rfl, rfl, packets, whole⟩
  · cases err with
    | wouldBlock => exact .ok ⟨rfl, after⟩
    | other =>
        refine (after.reply (by decide) (after.numbered (TcpState.ne_init connected))).bind ?_
        rintro a b ⟨replied, -⟩
        exact .ok ⟨rfl, replied.close⟩
  · refine (TcpContext.Shifted.eof (after.record .readEof) connected).bind ?_
    rintro a b ended
    exact .ok ⟨rfl, ended⟩
  · have begun := TcpState.ne_init connected
    refine (TcpContext.Shifted.sendDataToClient (after.record (.read _)) begun packets twin
      whole).bind ?_
    rintro a b sent
    exact .ok ⟨rfl, sent⟩

/-- The same bytes are written to the host. -/
theorem processWritable (shifted : c.Shifted d c')
    (idle : c.conn.tcb.state = .init → c.conn.clientToNetwork.isEmpty = true)
    (answers : SocketAnswers) :
    InStep (Answered (Shifted d)) (c.processWritable answers) (c'.processWritable answers) := by
  have state := shifted.conn.state
  unfold TcpContext.processWritable
  refine .ite (by rw [state]) (fun _ => ?_) fun _ => shifted.processSend idle answers.write
  refine (shifted.processConnect answers.takeError).bind ?_
  rintro a b connected
  exact .ok ⟨rfl, connected⟩

/-- The writable half of an event leaves a connected socket connected. -/
theorem processWritable_isConnected {answers : SocketAnswers} {result : IoResult Unit}
    {c₁ : TcpContext} (connected : c.conn.tcb.state.isConnected = true)
    (h : c.processWritable answers = .ok (result, c₁)) : c₁.conn.tcb.state.isConnected = true := by
  unfold TcpContext.processWritable at h
  split at h
  · rename_i synSent
    rw [synSent] at connected
    cases connected
  · rename_i notSynSent
    exact (@processSend_moves (fun _ => True) _ _ _ _ trivial notSynSent h).isConnected connected

/-- **Both halves of the handler stay in step.**  The writable half comes first, and it leaves the
two in step for the readable one. -/
theorem processReady {ready : Ready} (shifted : c.Shifted d c')
    (idle : c.conn.tcb.state = .init → c.conn.clientToNetwork.isEmpty = true)
    (reads : ready.isReadable = true → c.conn.tcb.state.isConnected = true)
    (answers : SocketAnswers) :
    InStep (Answered (Shifted d)) (c.processReady ready answers)
      (c'.processReady ready answers) := by
  have writable : InStep (Answered (Shifted d))
      (if ready.isWritable then c.processWritable answers else .ok (.ok (), c))
      (if ready.isWritable then c'.processWritable answers else .ok (.ok (), c')) :=
    .ite Iff.rfl (fun _ => shifted.processWritable idle answers) fun _ => .ok ⟨rfl, shifted⟩
  refine writable.orReturn fun c₁ c₁' written shifted₁ => ?_
  have closed := shifted₁.conn.closed
  refine InStep.orReturn ?_ fun c₂ c₂' _ shifted₂ => ?_
  · refine .ite (by rw [closed]) (fun readable => ?_) fun _ => .ok ⟨rfl, shifted₁⟩
    refine shifted₁.processReceive ?_ answers.read
    have connected := reads readable.2
    split at written
    · exact processWritable_isConnected connected written
    · cases written
      exact connected
  · have closed := shifted₂.conn.closed
    refine Both.bind (R := Shifted d) ?_ fun a b settled => .ok ⟨rfl, settled⟩
    exact .ite (by rw [closed]) (fun _ => .ok shifted₂) fun _ => shifted₂.updateInterests

/-- A hang-up closes both. -/
theorem processHup (shifted : c.Shifted d c') : InStep (Shifted d) c.processHup c'.processHup := by
  have state := shifted.conn.state
  have replies : InStep (Shifted d)
      (if c.conn.tcb.state = .synSent ∨ c.conn.tcb.state = .synReceived then
        c.sendEmptyPacketToClient flagRst
      else .ok c)
      (if c'.conn.tcb.state = .synSent ∨ c'.conn.tcb.state = .synReceived then
        c'.sendEmptyPacketToClient flagRst
      else .ok c') := by
    refine .ite (by rw [state]) (fun handshake => ?_) fun _ => .ok shifted
    have begun : c.conn.tcb.state ≠ .init := by
      rcases handshake with synSent | synReceived
      · rw [synSent]
        exact nofun
      · rw [synReceived]
        exact nofun
    refine (shifted.reply (by decide) (shifted.numbered begun)).mono ?_
    rintro a b ⟨replied, -⟩
    exact replied
  exact replies.bind fun a b replied => .ok replied.close

/-- **An event**, which is readable only on a connected socket.  An event that is readable before
the socket is connected would read with the numbers of no handshake; the interests exclude it. -/
theorem onReady {ready : Ready} (shifted : c.Shifted d c')
    (idle : c.conn.tcb.state = .init → c.conn.clientToNetwork.isEmpty = true)
    (reads : ready.isReadable = true → c.conn.tcb.state.isConnected = true)
    (answers : SocketAnswers) (now : Instant) :
    InStep (Shifted d) (c.onReady ready answers now) (c'.onReady ready answers now) := by
  have closed := shifted.conn.closed
  have processed : InStep (Answered (Shifted d)) (c.process ready answers now)
      (c'.process ready answers now) := by
    refine .ite (by rw [closed]) (fun _ => .ok ⟨rfl, shifted⟩) fun _ => ?_
    have touched := shifted.touch now
    refine InStep.orReturn ?_ fun a b _ shifted₁ => ?_
    · refine .ite Iff.rfl (fun _ => touched.processReady idle reads answers) fun _ => ?_
      exact touched.processHup.bind fun a b hup => .ok ⟨rfl, hup⟩
    · refine .ok ⟨rfl, ?_⟩
      rw [shifted₁.conn.closed]
      split
      · exact shifted₁.removeFromRouter
      · exact shifted₁
  refine processed.bind ?_
  rintro ⟨result, a⟩ ⟨result', b⟩ ⟨rfl, after⟩
  rcases result' with err | _
  · cases err with
    | wouldBlock => exact .ok after
    | other =>
        refine .ok ?_
        show (if a.conn.closed then a else a.close).removeFromRouter.Shifted d
          (if b.conn.closed then b else b.close).removeFromRouter
        rw [after.conn.closed]
        split
        · exact after.removeFromRouter
        · exact after.close.removeFromRouter
  · exact .ok after

/-! ## The other methods -/

/-- **Both are sent a packet, which acknowledges numbers that are shifted**, and neither compares
the acknowledgement with a number behind the last one.  The clock is set and the interests are
updated in the same way in both. -/
theorem sendToNetwork {packet packet' : Ipv4Packet} {random : UInt32} {overflowChecks : Bool}
    {now : Instant} (shifted : c.Shifted d c') (packets : AckShifted d packet packet')
    (spares : c.conn.SparesFin packet overflowChecks)
    (spares' : c'.conn.SparesFin packet' overflowChecks) :
    InStep (Shifted d) (c.sendToNetwork (.ipv4 packet) random overflowChecks now)
      (c'.sendToNetwork (.ipv4 packet') (random + d) overflowChecks now) := by
  have touched {conn : TcpConnection} {packet : Ipv4Packet}
      (spares : conn.SparesFin packet overflowChecks) :
      (conn.touch now).SparesFin packet overflowChecks :=
    fun checks header number tcp compares => spares checks header number tcp
      ⟨compares.begun, compares.noSyn, compares.expected, compares.noRst, compares.fin⟩
  refine ((shifted.touch now).handlePacket packets (touched spares) (touched spares')).bind ?_
  intro a b handled
  have closed := handled.conn.closed
  exact .ite (by rw [closed]) (fun _ => .ok handled) fun _ => handled.updateInterests

/-- Both expire alike. -/
theorem expire (shifted : c.Shifted d c') : InStep (Shifted d) c.expire c'.expire := by
  have closed := shifted.conn.closed
  have state := shifted.conn.state
  unfold TcpContext.expire
  refine .ite (by rw [closed, state]) (fun handshake => ?_) fun _ => .ok shifted.close
  refine shifted.resetAndClose (shifted.numbered ?_)
  rcases handshake.2 with synSent | synReceived
  · rw [synSent]
    exact nofun
  · rw [synReceived]
    exact nofun

/-- **The waiting packet** is handed over by both.  It is inflated from the headers in the buffer,
which are the shifted ones, and its checksum was made for them. -/
theorem next (shifted : c.Shifted d c') : InStep (Shifted d) c.next c'.next := by
  unfold TcpContext.next
  rw [shifted.conn.packetForClientLength]
  cases waits : c.conn.packetForClientLength with
  | none => exact .error nofun
  | some length =>
      obtain ⟨twin, whole⟩ := shifted.conn.waits waits
      have delivered : ShiftedRaw d (c.conn.networkToClient.inflate length).raw
        (c'.conn.networkToClient.inflate length).raw := twin.inflate whole
      refine TcpContext.Shifted.updateInterests (.record ⟨?_, shifted.client, shifted.selector⟩
        (.delivered delivered))
      have numbered : c.conn.tcb.state ≠ .init → c'.conn.tcb.sequenceNumber + length.toUInt32 =
          c.conn.tcb.sequenceNumber + length.toUInt32 + d := by
        intro begun
        rw [shifted.numbered begun]
        grind
      obtain ⟨conn', client', selector'⟩ := c'
      obtain ⟨conn, -, -⟩ := shifted
      cases conn with
      | mk tcb alike _ trace =>
          exact .mk { tcb with sequenceNumber := numbered } alike nofun trace

end TcpContext.Shifted

/-! ## One run -/

namespace TcpLife

/-- What the poller reports is armed.  The interests of both twins are the same, and so are the
events that they can be given. -/
def Possible (s : TcpLife) (m : Meeting) : Prop :=
  ∀ ready answers now, m.label = .event ready answers now → ready.Within s.armed

/-- The interest that is armed after a step. -/
def armedBy (s : TcpLife) : Label → Ready
  | .poll => s.conn.interests
  | _ => s.armed

/-- A step of the connection. -/
def perform (s : TcpLife) (m : Meeting) : Outcome TcpLife := do
  let c ← s.handle m
  return ⟨c.conn, s.armedBy m.label⟩

/-- A step is one that is possible and returns. -/
theorem metMachine_step_iff {s s' : TcpLife} {m : Meeting} :
    metMachine.step s m s' ↔ s.Possible m ∧ s.perform m = .ok s' := by
  obtain ⟨label, client, selector⟩ := m
  constructor
  · rintro ⟨c, handled, conn, armed⟩
    have interest : s'.armed = s.armedBy label := by
      cases label with
      | event ready answers now => exact armed.2
      | _ => exact armed
    refine ⟨fun ready answers now event => ?_, bind_eq_ok.mpr ⟨c, handled, ?_⟩⟩
    · cases event
      exact armed.1
    · rw [← conn, ← interest]
      rfl
  · rintro ⟨possible, performed⟩
    obtain ⟨c, handled, rest⟩ := bind_eq_ok.mp performed
    cases rest
    refine ⟨c, handled, rfl, ?_⟩
    cases label with
    | event ready answers now => exact ⟨possible ready answers now rfl, rfl⟩
    | _ => rfl

/-- What a step of the connection leads to is reached by it. -/
theorem reachable_perform {s s' : TcpLife} {m : Meeting} (reachable : machine.Reachable s)
    (possible : s.Possible m) (performed : s.perform m = .ok s') : machine.Reachable s' := by
  obtain ⟨t, run⟩ := reachable
  obtain ⟨label, client, selector⟩ := m
  obtain ⟨c, handled, rest⟩ := bind_eq_ok.mp performed
  cases rest
  cases label with
  | packet packet random overflowChecks now => exact ⟨_, run.step (Step.packet handled)⟩
  | poll =>
      cases handled
      exact ⟨_, run.step Step.poll⟩
  | event ready answers now =>
      exact ⟨_, run.step (Step.event (possible ready answers now rfl) handled)⟩
  | expire => exact ⟨_, run.step (Step.expire handled)⟩
  | close =>
      cases handled
      exact ⟨_, run.step Step.close⟩
  | deliver =>
      rw [handle] at handled
      cases waits : s.conn.get with
      | none =>
          rw [waits] at handled
          cases handled
      | some packet =>
          rw [waits] at handled
          obtain ⟨⟨sent, client', selector'⟩, offered, handled⟩ := bind_eq_ok.mp handled
          cases sent with
          | ok _ => exact ⟨_, run.step (Step.deliver waits offered handled)⟩
          | error _ =>
              cases handled
              exact ⟨t, run⟩

/-- Nothing is there to be written before the first SYN. -/
theorem reachable_idle {s : TcpLife} (reachable : machine.Reachable s) :
    s.conn.tcb.state = .init → s.conn.clientToNetwork.isEmpty = true := by
  obtain ⟨t, run⟩ := reachable
  refine run_invariant (fun conn => conn.tcb.state = .init → conn.clientToNetwork.isEmpty = true)
    ?_ ?_ ?_ run (Machine.meets_true t)
  · intro conn fresh _
    obtain ⟨_, _, _, _, rfl⟩ := fresh.eq_initial
    rfl
  · intro s packet random overflowChecks now header c c₁ _ _ same idle arrival
    have idle' : c.conn.tcb.state = .init → c.conn.clientToNetwork.isEmpty = true := by
      rw [same]
      exact idle
    cases arrival with
    | opened _ _ => exact nofun
    | refused _ _ => exact idle'
    | reopened _ _ => exact idle'
    | lateSyn _ _ _ => exact idle'
    | ignored _ _ _ => exact idle'
    | reset _ _ _ _ => exact idle'
    | @expected acked begun _ _ _ ackPart =>
        intro init
        have unanswered : acked.conn.tcb.state = .init := by
          split at init
          · rw [TcpContext.noteFin_state] at init
            exact init
          · exact init
        rcases ackPart_ok ackPart with ⟨-, -, same⟩ | ⟨same, -⟩ | ⟨_, _, -, -, same⟩
        · rw [same] at unanswered
          cases unanswered
        · rw [same] at unanswered
          exact absurd unanswered begun
        · rw [same] at unanswered
          exact absurd unanswered begun
  · intro may c c' _ idle move
    cases move with
    | interests updated =>
        obtain ⟨-, same, -⟩ := TcpContext.updateInterests_ok updated
        rw [same]
        exact idle
    | forge _ forged =>
        obtain ⟨_, _, _, -, -, same⟩ := TcpContext.replyEmptyPacketToClient_ok forged
        rw [same]
        exact idle
    | connect _ _ forged =>
        obtain ⟨_, _, _, -, -, same⟩ := TcpContext.replyEmptyPacketToClient_ok forged
        intro init
        have state := congrArg (·.tcb.state) same
        exact absurd (state.symm.trans init) nofun
    | write _ _ wrote nonempty _ =>
        intro init
        rw [StreamBuffer.writeTo_of_isEmpty (idle init)] at wrote
        cases wrote
        exact absurd rfl nonempty
    | writeLast _ _ wrote nonempty _ _ =>
        intro init
        rw [StreamBuffer.writeTo_of_isEmpty (idle init)] at wrote
        cases wrote
        exact absurd rfl nonempty
    | receive _ _ _ _ _ sent =>
        obtain ⟨_, _, _, -, ⟨_, -, -, same, -⟩ | ⟨-, same, -⟩⟩ :=
          TcpContext.sendDataToClient_ok sent
        · rw [same]
          exact idle
        · rw [same]
          exact idle
    | eof _ _ ended =>
        obtain ⟨c₁, -, rest⟩ := bind_eq_ok.mp ended
        cases rest
        intro init
        change (if _ then _ else _) = TcpState.init at init
        split at init <;> cases init
    | answerFin _ _ => exact nofun
    | closing _ => exact nofun
    | finAcked _ => exact nofun
    | _ => exact idle

/-! ## Two steps -/

/-- The same connection, but for the sequence numbers, and the same interest armed. -/
structure Shifted (d : UInt32) (s s' : TcpLife) : Prop where
  conn : s.conn.Shifted d s'.conn
  armed : s'.armed = s.armed

/-- The same happens, but for the numbers: those of the relay and those the client acknowledges
are `d` ahead. -/
inductive Label.Shifted (d : UInt32) : Label → Label → Prop
  | packet {packet packet' : Ipv4Packet} (random : UInt32) (overflowChecks : Bool)
      (now : Instant) : AckShifted d packet packet' →
      Shifted d (.packet packet random overflowChecks now)
        (.packet packet' (random + d) overflowChecks now)
  | poll : Shifted d .poll .poll
  | event (ready : Ready) (answers : SocketAnswers) (now : Instant) :
      Shifted d (.event ready answers now) (.event ready answers now)
  | expire : Shifted d .expire .expire
  | close : Shifted d .close .close
  | deliver : Shifted d .deliver .deliver

/-- Both twins meet the same, with the acknowledgement number `d` apart and clients that have as
much room. -/
structure Meeting.Shifted (d : UInt32) (m m' : Meeting) : Prop where
  label : m.label.Shifted d m'.label
  client : m.client.Alike m'.client
  selector : m'.selector = m.selector

/-- No acknowledgement number of the step is compared with the number after the last one. -/
def Spares (s : TcpLife) (m : Meeting) : Prop :=
  ∀ packet random overflowChecks now, m.label = .packet packet random overflowChecks now →
    s.conn.SparesFin packet overflowChecks

/-- There is nothing to compare with before the first SYN. -/
theorem Spares.of_init {s : TcpLife} (init : s.conn.tcb.state = .init) (m : Meeting) :
    s.Spares m := fun _ _ _ _ _ _ _ _ _ compares => absurd init compares.begun

/-- **One step** of each.  The packet, the event or the call is the same but for the
acknowledgement, which goes with the numbers of the twin that it is for. -/
theorem Shifted.handle {d : UInt32} {s s' : TcpLife} {m m' : Meeting} (shifted : s.Shifted d s')
    (same : m.Shifted d m') (reachable : machine.Reachable s) (possible : s.Possible m)
    (spares : s.Spares m) (spares' : s'.Spares m') :
    InStep (TcpContext.Shifted d) (s.handle m) (s'.handle m') := by
  obtain ⟨label, client, selector⟩ := m
  obtain ⟨label', client', selector'⟩ := m'
  obtain ⟨happens, alike, rfl⟩ := same
  have meets : TcpContext.Shifted d ⟨s.conn, client, selector'⟩ ⟨s'.conn, client', selector'⟩ :=
    ⟨shifted.conn, alike, rfl⟩
  cases happens with
  | packet random overflowChecks now packets =>
      exact meets.sendToNetwork packets (spares _ _ _ _ rfl) (spares' _ _ _ _ rfl)
  | poll => exact .ok meets
  | event ready answers now =>
      refine meets.onReady (reachable_idle reachable) (fun readable => ?_) answers now
      exact (reachable_readsConnected reachable).armed ((possible ready answers now rfl).1 readable)
  | expire => exact meets.expire
  | close => exact .ok meets.close
  | deliver =>
      unfold TcpLife.handle TcpConnection.get
      simp only [shifted.conn.packetForClientLength]
      cases waits : s.conn.packetForClientLength with
      | none => exact .error nofun
      | some length =>
          obtain ⟨twin, whole⟩ := shifted.conn.waits waits
          have raw := (twin.inflate whole).length
          refine (alike.sendRawToClient selector' raw).bind ?_
          rintro ⟨sent, client, selector⟩ ⟨sent', client', selector'⟩ ⟨rfl, alike, rfl⟩
          have offered : TcpContext.Shifted d ⟨s.conn, client, selector'⟩
              ⟨s'.conn, client', selector'⟩ := ⟨shifted.conn, alike, rfl⟩
          cases sent' with
          | ok _ => exact offered.next
          | error _ => exact .ok offered

/-- **Whatever both meet, they stay in step.**  It is the step of the simulation: from states in
step, both panic in the same way or come to states in step. -/
theorem Shifted.perform {d : UInt32} {s s' : TcpLife} {m m' : Meeting} (shifted : s.Shifted d s')
    (same : m.Shifted d m') (reachable : machine.Reachable s) (possible : s.Possible m)
    (spares : s.Spares m) (spares' : s'.Spares m') :
    InStep (TcpLife.Shifted d) (s.perform m) (s'.perform m') := by
  have armed {label label' : Label} (happens : label.Shifted d label') :
      s'.armedBy label' = s.armedBy label := by
    cases happens with
    | poll => exact shifted.conn.interests
    | _ => exact shifted.armed
  refine (shifted.handle same reachable possible spares spares').bind fun c c' handled => ?_
  exact .ok ⟨handled.conn, armed same.label⟩

end TcpLife

/-! ## Two runs -/

/-- What `Router::create_connection` makes of two first packets that differ in their numbers
only. -/
def TcpConnection.FreshTwins (conn conn' : TcpConnection) : Prop :=
  conn.Fresh ∧ conn'.Fresh ∧
    ∃ selector handle id ipv4Header header header' now selector₁ selector₁',
      create selector handle id ipv4Header (.tcp header) now (.ok ()) =
        .ok (.ok (conn, selector₁)) ∧
      create selector handle id ipv4Header (.tcp header') now (.ok ()) =
        .ok (.ok (conn', selector₁')) ∧
      header.Alike header'

/-- Two new connections are shifted by every distance: neither has a number yet. -/
theorem TcpConnection.FreshTwins.shifted {conn conn' : TcpConnection} (d : UInt32)
    (twins : conn.FreshTwins conn') : conn.Shifted d conn' := by
  obtain ⟨fresh, fresh', selector, handle, id, ipv4Header, header, header', now, _, _, created,
    created', alike⟩ := twins
  have forTcp := fresh.forTcp
  have forTcp' := fresh'.forTcp
  obtain ⟨_, raw, shrinked, packetizer, tcp, cut, shrunk, made, rfl, -⟩ :=
    TcpConnection.create_ok created
  cases tcp
  obtain ⟨_, raw', shrinked', packetizer', tcp', cut', shrunk', made', rfl, -⟩ :=
    TcpConnection.create_ok created'
  cases tcp'
  have fronts : TcpHeader.Alike ⟨raw, header.data⟩ ⟨raw', header'.data⟩ := by
    obtain ⟨-, -, rfl⟩ := readSlice_eq_ok cut
    obtain ⟨-, -, rfl⟩ := readSlice_eq_ok cut'
    exact ⟨alike.raw.take 20, alike.data⟩
  obtain ⟨_, shrunk₁, shrinks⟩ := fronts.shrinkOptions.of_ok shrunk
  cases shrunk₁.symm.trans shrunk'
  obtain ⟨_, made₁, related⟩ := (Packetizer.Related.new ipv4Header shrinks).of_ok made
  cases made₁.symm.trans made'
  have unset : Tcb.Shifted d Tcb.new Tcb.new :=
    { state := rfl
      synSequenceNumber := rfl
      sequenceNumber := fun begun => absurd rfl begun
      acknowledgementNumber := rfl
      theirAcknowledgementNumber := nofun
      finSequenceNumber := rfl
      finReceived := rfl
      clientWindow := rfl }
  exact .mk unset ⟨related, forTcp, forTcp'⟩ nofun .nil

/-- One SYN is like the other. -/
theorem AckShifted.of_syn {packet : Ipv4Packet} {header : TcpHeader} (d : UInt32)
    (tcp : TcpConnection.tcpHeaderOfPacket packet = .ok header) (syn : header.data.isSyn = true) :
    AckShifted d packet packet := by
  refine ⟨?_, rfl⟩
  rw [tcp]
  exact .ok ⟨_, rfl, .inl syn⟩

/-- Two runs, side by side.  One that has panicked stays so. -/
structure Twins where
  first : Outcome TcpLife
  second : Outcome TcpLife

namespace Twins

/-- In the second run the random numbers of the relay, and the numbers its client acknowledges,
are `d` ahead. -/
def machine (d : UInt32) : Machine Twins (TcpLife.Meeting × TcpLife.Meeting) where
  start tw := ∃ conn conn' : TcpConnection, conn.FreshTwins conn' ∧
    tw = ⟨.ok ⟨conn, .empty⟩, .ok ⟨conn', .empty⟩⟩
  step tw m tw' := m.1.Shifted d m.2 ∧ (∀ s, tw.first = .ok s → s.Possible m.1) ∧
    tw' = ⟨do (← tw.first).perform m.1, do (← tw.second).perform m.2⟩

/-- Neither run compares an acknowledgement number with the number after the last one. -/
def Spares (tw : Twins) (m : TcpLife.Meeting × TcpLife.Meeting) : Prop :=
  (∀ s, tw.first = .ok s → s.Spares m.1) ∧ ∀ s, tw.second = .ok s → s.Spares m.2

variable {d : UInt32} {t : List (Twins × (TcpLife.Meeting × TcpLife.Meeting))} {tw : Twins}

/-- The two runs stay in step, and the first is a run of the connection. -/
theorem run_inStep (run : (machine d).Run t tw) (met : Machine.Meets Spares t) :
    InStep (fun s s' => s.Shifted d s' ∧ TcpLife.machine.Reachable s) tw.first tw.second := by
  refine run.invariant (fun tw => InStep (fun s s' => s.Shifted d s' ∧
    TcpLife.machine.Reachable s) tw.first tw.second) ?_ ?_ met
  · rintro tw ⟨conn, conn', twins, rfl⟩
    exact .ok ⟨⟨twins.shifted d, rfl⟩, [], .start ⟨twins.1, rfl⟩⟩
  · rintro tw ⟨m, m'⟩ tw' inStep ⟨spares, spares'⟩ ⟨same, possible, rfl⟩
    refine inStep.bind_eq ?_
    rintro s s' first second ⟨shifted, reachable⟩
    refine (shifted.perform same reachable (possible s first) (spares s first)
      (spares' s' second)).imp_eq fun s₁ s₁' performed _ shifted₁ => ?_
    exact ⟨shifted₁, TcpLife.reachable_perform reachable (possible s first) performed⟩

/-- **The relay does not depend on its initial sequence number**, as long as no acknowledgement
number is compared with the number after the last one: the two runs are the same but for the
sequence numbers, and no addition overflows. -/
theorem run_shifts (run : (machine d).Run t tw) (met : Machine.Meets Spares t) :
    InStep (TcpLife.Shifted d) tw.first tw.second :=
  (run_inStep run met).mono fun _ _ inStep => inStep.1

/-! ### A number at the end -/

/-- A step of the first run is one of both. -/
theorem step_inStep {s s' s₁ : TcpLife} {m m' : TcpLife.Meeting}
    (run : ∃ t, (machine d).Run t ⟨.ok s, .ok s'⟩ ∧ Machine.Meets Spares t) (same : m.Shifted d m')
    (possible : s.Possible m) (spares : s.Spares m) (spares' : s'.Spares m')
    (performed : s.perform m = .ok s₁) :
    ∃ s₁', ∃ t, (machine d).Run t ⟨.ok s₁, .ok s₁'⟩ ∧ Machine.Meets Spares t := by
  obtain ⟨t, run, met⟩ := run
  have guarded : Spares ⟨.ok s, .ok s'⟩ (m, m') := by
    constructor
    · rintro _ ⟨⟩
      exact spares
    · rintro _ ⟨⟩
      exact spares'
  have next : (machine d).step ⟨.ok s, .ok s'⟩ (m, m') ⟨.ok s₁, s'.perform m'⟩ := by
    refine ⟨same, ?_, ?_⟩
    · rintro _ ⟨⟩
      exact possible
    · rw [← performed]
      rfl
  have met₁ := Machine.meets_append.mpr ⟨met, Machine.meets_singleton.mpr guarded⟩
  obtain ⟨s₁', second, -⟩ := (run_inStep (run.step next) met₁).of_ok rfl
  change s'.perform m' = .ok s₁' at second
  rw [second] at next
  exact ⟨s₁', _, run.step next, met₁⟩

/-- **The handshake**, twice: with `random`, and with the number after it. -/
theorem run_handshake (random : UInt32) : ∃ s s',
    (∃ t, (machine 1).Run t ⟨.ok s, .ok s'⟩ ∧ Machine.Meets Spares t) ∧ s.conn.closed = false ∧
      s.conn.tcb.state = .synReceived ∧ s.conn.tcb.sequenceNumber = random + 1 ∧
      s.conn.expectedPacket = 1 ∧ s.conn.clientToNetwork.isEmpty = true := by
  obtain ⟨conn, fresh⟩ := TcpConnection.fresh_exists
  have forTcp := fresh.forTcp
  have start : (machine 1).Run [] ⟨.ok ⟨conn, .empty⟩, .ok ⟨conn, .empty⟩⟩ := by
    refine .start ⟨conn, conn, ⟨fresh, fresh, ?_⟩, rfl⟩
    obtain ⟨_, _, id, ipv4Header, _, selector, selector₁, handle, now, -, -, -, created⟩ := fresh
    obtain ⟨header, _, _, _, rfl, -⟩ := TcpConnection.create_ok created
    exact ⟨selector, handle, id, ipv4Header, header, header, now, selector₁, selector₁, created,
      created, .refl header⟩
  obtain ⟨_, _, _, _, rfl⟩ := fresh.eq_initial
  obtain ⟨client, selector, usable, -⟩ := TcpLife.usable_exists rfl forTcp (.new _)
  -- the SYN
  obtain ⟨c₁, opened, usable₁, -, -, same₁⟩ := @TcpContext.Usable.openWith _
    (segmentPacket 0 0 2 []) (segmentHeader 0 0 2) true usable random 0 rfl rfl (by decide)
  have syn : TcpLife.Meeting.Shifted 1
      ⟨.packet (segmentPacket 0 0 2 []) random true 0, client, selector⟩
      ⟨.packet (segmentPacket 0 0 2 []) (random + 1) true 0, client, selector⟩ :=
    ⟨.packet random true 0 (@AckShifted.of_syn _ (segmentHeader 0 0 2) 1 rfl (by decide)),
      .refl client, rfl⟩
  obtain ⟨s₁', run₁⟩ := step_inStep ⟨[], start, Machine.meets_nil _⟩ syn nofun
    (.of_init rfl _) (.of_init rfl _) (bind_eq_ok.mpr ⟨c₁, opened, rfl⟩)
  -- the poller
  have poll : TcpLife.Meeting.Shifted 1 ⟨.poll, client, selector⟩ ⟨.poll, client, selector⟩ :=
    ⟨.poll, .refl client, rfl⟩
  obtain ⟨s₂', run₂⟩ := step_inStep run₁ poll nofun nofun nofun rfl
  -- the socket is connected
  obtain ⟨c₃, packetizer, raw, connected, usable₃, -, -, same₃⟩ :=
    @TcpContext.Usable.connect c₁ 0 ⟨.ok none, .ok 0, .ok []⟩ usable₁ (by rw [same₁]; rfl) rfl
  have event : TcpLife.Meeting.Shifted 1
      ⟨.event .writable ⟨.ok none, .ok 0, .ok []⟩ 0, c₁.client, c₁.selector⟩
      ⟨.event .writable ⟨.ok none, .ok 0, .ok []⟩ 0, c₁.client, c₁.selector⟩ :=
    ⟨.event _ _ _, .refl c₁.client, rfl⟩
  have armed : Ready.writable.Within c₁.conn.interests := by
    rw [same₁]
    exact Ready.within_refl _
  obtain ⟨s₃', run₃⟩ := step_inStep run₂ event
    (by rintro _ _ _ ⟨⟩; exact armed) nofun nofun (bind_eq_ok.mpr ⟨c₃, connected, rfl⟩)
  rw [same₁] at same₃
  refine ⟨_, s₃', run₃, usable₃.isOpen, ?_, ?_, ?_, ?_⟩
  · exact congrArg (·.tcb.state) same₃
  · exact congrArg (·.tcb.sequenceNumber) same₃
  · exact congrArg (·.expectedPacket) same₃
  · exact congrArg (·.clientToNetwork.isEmpty) same₃

/-- **The last number.**  With overflow checks, the second run panics on the segment that ends
the stream of the client, because the FIN that answers it has the number `2 ^ 32 - 1`; the first
goes on. -/
theorem run_diverges : ∃ t s, (machine 1).Run t ⟨.ok s, .error .overflow⟩ := by
  obtain ⟨s, s', ⟨t, run, met⟩, isOpen, synReceived, number, expected, empty⟩ :=
    run_handshake 0xFFFFFFFD
  obtain ⟨_, ⟨⟩, shifted, -⟩ := (run_inStep run met).of_ok rfl
  have twin := shifted.conn.twin
  have begun : s.conn.tcb.state ≠ .init := by
    rw [synReceived]
    exact nofun
  have synReceived' : s'.conn.tcb.state = .synReceived := shifted.conn.state.trans synReceived
  have number' : s'.conn.tcb.sequenceNumber = 0xFFFFFFFF := by
    rw [shifted.conn.tcb.sequenceNumber begun, number]
    rfl
  obtain ⟨client, selector, usable, -⟩ := TcpLife.usable_exists isOpen twin.forTcp (.new _)
  have usable' : TcpContext.Usable ⟨s'.conn, client, selector⟩ := by
    refine ⟨shifted.conn.closed.trans isOpen, twin.forTcp', usable.clientKnown, ?_⟩
    rw [shifted.conn.handle]
    exact usable.known
  have answered {tcb : Tcb} {header : TcpHeaderData} (synReceived : tcb.state = .synReceived) :
      (tcb.hears header).state = .established := if_pos synReceived
  -- the first run goes on
  obtain ⟨c₁, _, _, usable₁, sends₁, -, -, handled⟩ :=
    @TcpContext.Usable.answerFin ⟨s.conn, client, selector⟩ (segmentPacket 1 0 0x11 [])
      (segmentHeader 1 0 0x11) usable 0 rfl begun (by decide) (by rw [expected]; decide)
      (by decide) (by decide) (by decide) (.inl synReceived) (answered synReceived) empty
  have first : TcpContext.handlePacket ⟨s.conn.touch 0, client, selector⟩
      (segmentPacket 1 0 0x11 []) 0 true = .ok c₁ := by
    rw [handled, number]
    rfl
  obtain ⟨c', sent, -⟩ := TcpContext.Usable.sendToNetwork usable₁ sends₁ first
  -- the second has the last number
  obtain ⟨c₂, _, _, -, -, -, -, handled'⟩ :=
    @TcpContext.Usable.answerFin ⟨s'.conn, client, selector⟩ (segmentPacket 1 1 0x11 [])
      (segmentHeader 1 1 0x11) usable' 0 rfl (by rw [synReceived']; exact nofun) (by decide)
      (by rw [shifted.conn.expectedPacket, expected]; decide) (by decide) (by decide) (by decide)
      (.inl synReceived') (answered synReceived') (by rw [shifted.conn.clientToNetwork, empty])
  have second : TcpContext.handlePacket ⟨s'.conn.touch 0, client, selector⟩
      (segmentPacket 1 1 0x11 []) 1 true = .error .overflow := by
    rw [handled', number']
    rfl
  let m : TcpLife.Meeting := ⟨.packet (segmentPacket 1 0 0x11 []) 0 true 0, client, selector⟩
  let m' : TcpLife.Meeting := ⟨.packet (segmentPacket 1 1 0x11 []) 1 true 0, client, selector⟩
  have fin : m.Shifted 1 m' := by
    refine ⟨.packet 0 true 0 ⟨?_, rfl⟩, .refl client, rfl⟩
    show Both ⊤ _ (.ok (segmentHeader 1 0 0x11)) (.ok (segmentHeader 1 1 0x11))
    exact .ok ⟨1, by decide, .inr (by decide)⟩
  have performed : s.perform m = .ok ⟨c'.conn, s.armed⟩ := bind_eq_ok.mpr ⟨c', sent, rfl⟩
  have panicked : s'.perform m' = .error .overflow :=
    bind_eq_error.mpr (.inl (bind_eq_error.mpr (.inl second)))
  have next : (machine 1).step ⟨.ok s, .ok s'⟩ (m, m')
      ⟨.ok ⟨c'.conn, s.armed⟩, .error .overflow⟩ := by
    refine ⟨fin, fun _ _ => nofun, ?_⟩
    rw [← performed, ← panicked]
    rfl
  exact ⟨_, _, run.step next⟩

/-- **Without the condition the two runs part**: at the end of the numbers the twin that is shifted
panics, and the other goes on.  The FIN has the last number, and the addition of one overflows
where the build checks for it. -/
theorem not_run_shifts : ¬ ∀ (d : UInt32)
    (t : List (Twins × (TcpLife.Meeting × TcpLife.Meeting))) (tw : Twins), (machine d).Run t tw →
      InStep (TcpLife.Shifted d) tw.first tw.second := by
  intro shifts
  obtain ⟨t, s, run⟩ := run_diverges
  cases shifts 1 t _ run

/-- Both twins shake hands, and are still in step. -/
theorem run_shifts_handshake : ∃ t s s', (machine 1).Run t ⟨.ok s, .ok s'⟩ ∧
    InStep (TcpLife.Shifted 1) (.ok s) (.ok s') := by
  obtain ⟨s, s', ⟨t, run, met⟩, -⟩ := run_handshake 0
  exact ⟨t, s, s', run, run_shifts run met⟩

end Twins

end ReverseTether
