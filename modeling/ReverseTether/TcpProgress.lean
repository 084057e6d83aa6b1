import ReverseTether.TcpSegments

/-!
# What a TCP connection can do next

The methods of a connection return.  An open connection with its packetizer, which
the selector knows next to the client, is `Usable`, and stays so.  Each lemma gives
the connection after one packet or one event in terms of the one before, so that
runs can be put together.

None of these lemmas says that something must happen; they say that it can, and to which state
it leads.  Runs that exchange data are built from them: the handshake, bytes of the client
that are written and acknowledged, bytes of the host that are handed over, the two FINs.  With
them a statement about all runs can be shown not to be one about idle runs only.

The clients that receive the segments need room for them, which is the only thing that the
lemmas ask of a client; where the room is missing, the same calls are described by the lemmas
about waiting packets.
-/

namespace ReverseTether

open Library Relation

open TcpConnection (tcpHeaderOfPacket updateHeaders)

/-! ## Usable connections -/

/-- An open connection that can go on: it has its packetizer, and its socket and the
client's are registered. -/
structure TcpContext.Usable (c : TcpContext) : Prop where
  isOpen : c.conn.closed = false
  forTcp : c.conn.networkToClient.ForTcp
  clientKnown : c.selector.registered .client ≠ none
  known : c.selector.registered (.connection c.conn.handle) ≠ none

/-- What a step that only sends does to the rest: the client gets more to write, and nothing is
deregistered. -/
structure TcpContext.Sends (c c' : TcpContext) : Prop where
  client : c.client.SameButOutput c'.client
  selector : c.selector.Keeps c'.selector

theorem TcpContext.Sends.refl (c : TcpContext) : c.Sends c :=
  ⟨.refl c.client, fun _ known => known⟩

theorem TcpContext.Sends.trans {c c₁ c' : TcpContext} (first : c.Sends c₁) (second : c₁.Sends c') :
    c.Sends c' := ⟨first.client.trans second.client, first.selector.trans second.selector⟩

/-- What `update_interests` leaves. -/
def TcpConnection.settled (conn : TcpConnection) : TcpConnection :=
  { conn with interests := conn.wanted }

/-- What an expected segment says of the client; one in the handshake completes it. -/
def Tcb.hears (tcb : Tcb) (header : TcpHeaderData) : Tcb :=
  { tcb with
    clientWindow := header.window
    theirAcknowledgementNumber := header.acknowledgementNumber
    state := if tcb.state = .synReceived then .established else tcb.state }

theorem TcpContext.handleAck_quiet {c : TcpContext} {packet : Ipv4Packet} {header : TcpHeaderData}
    (quiet : c.conn.tcb.state = .synReceived ∨ packet.payload = .ok (some [])) :
    (c.noteWindow header).handleAck packet =
      .ok { c with conn := { c.conn with tcb := c.conn.tcb.hears header } } := by
  by_cases synReceived : c.conn.tcb.state = .synReceived
  · refine (if_pos synReceived).trans ?_
    rw [Tcb.hears, if_pos synReceived]
    rfl
  · have empty := quiet.resolve_left synReceived
    refine (if_neg synReceived).trans (bind_eq_ok.mpr ⟨some [], empty, ?_⟩)
    rw [Tcb.hears, if_neg synReceived]
    rfl

/-- A segment that is expected is treated part after part. -/
theorem TcpContext.handlePacket_expected {c : TcpContext} {packet : Ipv4Packet} {header : TcpHeader}
    {random : UInt32} {overflowChecks : Bool} (tcp : tcpHeaderOfPacket packet = .ok header)
    (notInit : c.conn.tcb.state ≠ .init) (noSyn : header.data.isSyn = false)
    (expected : header.data.sequenceNumber = c.conn.expectedPacket)
    (noRst : header.data.isRst = false) :
    c.handlePacket packet random overflowChecks = (do
      let c ← (if header.data.isAck then (c.noteWindow header.data).handleAck packet
        else .ok (c.noteWindow header.data))
      let c ← (if header.data.isFin then c.handleFin else .ok c)
      match c.conn.tcb.finSequenceNumber with
      | none => return c
      | some finSequenceNumber => do
          let acked ← afterFin overflowChecks finSequenceNumber
          if header.data.acknowledgementNumber = acked then return c.handleFinAck
          else return c) := by
  rw [handlePacket, tcp, ok_bind, if_neg notInit, if_neg (by rw [noSyn]; exact Bool.false_ne_true),
    if_neg (not_not.mpr expected)]
  simp only
  rw [if_neg (by rw [noRst]; exact Bool.false_ne_true)]
  rfl

/-- When a connection wants to read, and nothing else. -/
theorem TcpConnection.wanted_readable {conn : TcpConnection} (state : conn.tcb.state = .established)
    (idle : conn.packetForClientLength = none) (window : 0 < conn.tcb.remainingClientWindow)
    (empty : conn.clientToNetwork.isEmpty = true) : conn.wanted = .readable := by
  have mayRead : conn.mayRead = true := by
    unfold TcpConnection.mayRead
    rw [if_neg (by rw [state]; decide), if_neg (by rw [idle]; decide)]
    exact decide_eq_true window
  unfold TcpConnection.wanted TcpConnection.mayWrite
  rw [if_neg (by rw [state]; decide), mayRead, empty]
  rfl

/-- A connection with bytes for its socket wants to write them. -/
theorem TcpConnection.writable_within_wanted {conn : TcpConnection}
    (waits : conn.clientToNetwork.isEmpty = false) : Ready.writable.Within conn.wanted := by
  have mayWrite : conn.mayWrite = true := by
    rw [TcpConnection.mayWrite, waits]
    rfl
  unfold TcpConnection.wanted
  split
  · exact Ready.within_refl _
  · rw [mayWrite]
    exact ⟨nofun, fun _ => rfl⟩

namespace TcpContext.Usable

variable {c : TcpContext} {random : UInt32} {now : Instant}

/-- A change that neither closes the connection nor touches its packetizer. -/
theorem congr {c' : TcpContext} (usable : c.Usable) (isOpen : c'.conn.closed = c.conn.closed)
    (packetizer : c'.conn.networkToClient = c.conn.networkToClient)
    (handle : c'.conn.handle = c.conn.handle) (sends : c.Sends c') : c'.Usable where
  isOpen := isOpen.trans usable.isOpen
  forTcp := packetizer ▸ usable.forTcp
  clientKnown := sends.selector _ usable.clientKnown
  known := handle ▸ sends.selector _ usable.known

/-- **A segment can always be forged.**  It may not be sent, if the client has no room; the
connection goes on as if it were. -/
theorem reply {flags : UInt16} (usable : c.Usable) (mem : flags ∈ relayFlags) :
    ∃ c' packetizer raw, c.replyEmptyPacketToClient flags = .ok c' ∧ c'.Usable ∧ c.Sends c' ∧
      Segment.ofRaw raw =
        ⟨c.conn.tcb.sequenceNumber, c.conn.tcb.acknowledgementNumber, flags, []⟩ ∧
      c'.conn = { c.conn with networkToClient := packetizer }.record
        (.forged raw c.conn.waiting) := by
  obtain ⟨packet, packetizer, created, tcp', -, -, valid, segment⟩ :=
    usable.forTcp.createEmptyResponsePacket c.conn.tcb mem
  obtain ⟨sent, client, selector, offered, same, keeps, -⟩ :=
    c.client.sendRawToClient_returns packet.raw usable.clientKnown
  refine ⟨⟨{ c.conn with networkToClient := packetizer }.record (.forged packet.raw c.conn.waiting),
    client, selector⟩, packetizer, packet.raw, ?_, ⟨usable.isOpen, tcp', ?_, ?_⟩, ⟨same, keeps⟩,
    segment, rfl⟩
  · exact bind_eq_ok.mpr ⟨_, created, bind_eq_ok.mpr ⟨_, offered, rfl⟩⟩
  · exact keeps _ usable.clientKnown
  · exact keeps _ usable.known

/-- The interests of an open connection can always be brought up to date. -/
theorem settle (usable : c.Usable) :
    ∃ c', c.updateInterests = .ok c' ∧ c'.Usable ∧ c.Sends c' ∧ c'.client = c.client ∧
      c'.conn = c.conn.settled := by
  unfold updateInterests
  rw [if_neg (by rw [usable.isOpen]; exact Bool.false_ne_true)]
  split
  · rw [Selector.reregister_eq_ok.mpr ⟨usable.known, rfl⟩]
    have sends : c.Sends ⟨c.conn.settled, c.client,
        c.selector.register (.connection c.conn.handle) c.conn.wanted⟩ :=
      ⟨.refl c.client, c.selector.keeps_register _ _⟩
    exact ⟨_, rfl, usable.congr rfl rfl rfl sends, sends, rfl, rfl⟩
  · rename_i same
    rw [not_not] at same
    refine ⟨c, rfl, usable, .refl c, rfl, ?_⟩
    rw [TcpConnection.settled, ← same]

/-! ## Packets -/

/-- The end of `send_to_network`, for a packet that leaves the connection open. -/
theorem sendToNetwork {c₁ : TcpContext} {packet : Ipv4Packet} {random : UInt32}
    {overflowChecks : Bool} {now : Instant} (usable : c₁.Usable)
    (sends : TcpContext.Sends { c with conn := c.conn.touch now } c₁)
    (handled : TcpContext.handlePacket { c with conn := c.conn.touch now } packet random
      overflowChecks = .ok c₁) :
    ∃ c', c.sendToNetwork (.ipv4 packet) random overflowChecks now = .ok c' ∧ c'.Usable ∧
      c.Sends c' ∧ c'.client = c₁.client ∧ c'.conn = c₁.conn.settled := by
  obtain ⟨c', updated, usable', sends', client, same⟩ := usable.settle
  refine ⟨c', ?_, usable', ⟨sends.client.trans sends'.client,
    sends.selector.trans sends'.selector⟩, client, same⟩
  refine bind_eq_ok.mpr ⟨c₁, handled, ?_⟩
  rw [if_neg (by rw [usable.isOpen]; exact Bool.false_ne_true)]
  exact updated

/-- The first SYN. -/
theorem openWith {packet : Ipv4Packet} {header : TcpHeader} {overflowChecks : Bool}
    (usable : c.Usable) (random : UInt32) (now : Instant) (init : c.conn.tcb.state = .init)
    (tcp : tcpHeaderOfPacket packet = .ok header) (syn : header.data.isSyn = true) :
    ∃ c', c.sendToNetwork (.ipv4 packet) random overflowChecks now = .ok c' ∧ c'.Usable ∧
      c.Sends c' ∧ c'.client = c.client ∧
      c'.conn = ({ c.conn.touch now with
        tcb := { c.conn.tcb with
          acknowledgementNumber := header.data.sequenceNumber + 1
          synSequenceNumber := header.data.sequenceNumber
          sequenceNumber := random
          clientWindow := header.data.window
          state := .synSent } }.record (.opened random)).settled := by
  let c₁ : TcpContext := (TcpContext.withTcb { c with conn := c.conn.touch now } fun tcb => { tcb with
    acknowledgementNumber := header.data.sequenceNumber + 1
    synSequenceNumber := header.data.sequenceNumber
    sequenceNumber := random
    clientWindow := header.data.window
    state := .synSent }).record (.opened random)
  have sends : TcpContext.Sends { c with conn := c.conn.touch now } c₁ :=
    ⟨.refl c.client, fun _ known => known⟩
  refine @sendToNetwork c c₁ packet random overflowChecks now
    (usable.congr rfl rfl rfl ⟨sends.client, sends.selector⟩) sends ?_
  refine bind_eq_ok.mpr ⟨header, tcp, ?_⟩
  rw [if_pos (show (c.conn.touch now).tcb.state = .init from init)]
  refine bind_eq_ok.mpr ⟨header, tcp, ?_⟩
  rw [if_pos syn]
  rfl

/-- A segment that is expected and neither opens nor ends anything: what the
acknowledgement part makes of the connection is all that it does. -/
theorem accept {acked : TcpContext} {packet : Ipv4Packet} {header : TcpHeader} (usable : acked.Usable)
    (sends : TcpContext.Sends { c with conn := c.conn.touch now } acked)
    (tcp : tcpHeaderOfPacket packet = .ok header) (notInit : c.conn.tcb.state ≠ .init)
    (noSyn : header.data.isSyn = false)
    (expected : header.data.sequenceNumber = c.conn.expectedPacket)
    (noRst : header.data.isRst = false) (isAck : header.data.isAck = true)
    (noFin : header.data.isFin = false) (unsent : acked.conn.tcb.finSequenceNumber = none)
    (handled : (TcpContext.noteWindow { c with conn := c.conn.touch now } header.data).handleAck
      packet = .ok acked) :
    ∃ c', c.sendToNetwork (.ipv4 packet) random false now = .ok c' ∧ c'.Usable ∧ c.Sends c' ∧
      c'.client = acked.client ∧ c'.conn = acked.conn.settled := by
  refine @sendToNetwork c acked packet random false now usable sends ?_
  rw [TcpContext.handlePacket_expected (c := { c with conn := c.conn.touch now }) tcp notInit noSyn
    expected noRst, if_pos isAck, handled, ok_bind, if_neg (by rw [noFin]; exact Bool.false_ne_true), ok_bind]
  simp only [unsent, pure_eq_ok]

/-- An expected segment without payload, or the one that completes the handshake. -/
theorem hear {packet : Ipv4Packet} {header : TcpHeader} (usable : c.Usable)
    (tcp : tcpHeaderOfPacket packet = .ok header) (notInit : c.conn.tcb.state ≠ .init)
    (noSyn : header.data.isSyn = false)
    (expected : header.data.sequenceNumber = c.conn.expectedPacket)
    (noRst : header.data.isRst = false) (isAck : header.data.isAck = true)
    (noFin : header.data.isFin = false) (unsent : c.conn.tcb.finSequenceNumber = none)
    (quiet : c.conn.tcb.state = .synReceived ∨ packet.payload = .ok (some [])) :
    ∃ c', c.sendToNetwork (.ipv4 packet) random false now = .ok c' ∧ c'.Usable ∧ c.Sends c' ∧
      c'.client = c.client ∧
      c'.conn = { c.conn.touch now with tcb := c.conn.tcb.hears header.data }.settled := by
  let acked : TcpContext := { c with conn := { c.conn.touch now with
    tcb := c.conn.tcb.hears header.data } }
  have sends : TcpContext.Sends { c with conn := c.conn.touch now } acked :=
    ⟨.refl c.client, fun _ known => known⟩
  exact @accept c random now acked packet header (usable.congr rfl rfl rfl ⟨.refl c.client,
    fun _ known => known⟩) sends tcp notInit noSyn expected noRst isAck noFin unsent
    (TcpContext.handleAck_quiet quiet)

/-- Bytes that begin where the relay stands are buffered, when there is room. -/
theorem take {packet : Ipv4Packet} {header : TcpHeader} {payload : List UInt8}
    (usable : c.Usable) (random : UInt32) (now : Instant)
    (tcp : tcpHeaderOfPacket packet = .ok header) (carried : packet.payload = .ok (some payload))
    (nonempty : payload ≠ []) (established : c.conn.tcb.state = .established)
    (noSyn : header.data.isSyn = false)
    (expected : header.data.sequenceNumber = c.conn.expectedPacket)
    (noRst : header.data.isRst = false) (isAck : header.data.isAck = true)
    (noFin : header.data.isFin = false) (unsent : c.conn.tcb.finSequenceNumber = none)
    (room : payload.length ≤ c.conn.clientToNetwork.remaining) :
    ∃ c' stored, c.sendToNetwork (.ipv4 packet) random false now = .ok c' ∧ c'.Usable ∧ c.Sends c' ∧
      c'.client = c.client ∧ c.conn.clientToNetwork.readFrom payload = .ok stored ∧
      c'.conn = { c.conn.touch now with
        clientToNetwork := stored
        tcb := c.conn.tcb.hears header.data }.settled := by
  obtain ⟨stored, fits, -⟩ := StreamBuffer.readFrom_ok room
  let acked : TcpContext := { c with conn := { c.conn.touch now with
    clientToNetwork := stored
    tcb := c.conn.tcb.hears header.data } }
  have notSynReceived : ¬ c.conn.tcb.state = .synReceived := by
    rw [established]
    exact nofun
  have handled : (TcpContext.noteWindow { c with conn := c.conn.touch now } header.data).handleAck
      packet = .ok acked := by
    have roomy : ¬ c.conn.clientToNetwork.remaining < payload.length := not_lt.mpr room
    refine (if_neg notSynReceived).trans (bind_eq_ok.mpr ⟨some payload, carried, ?_⟩)
    refine (if_neg nonempty).trans ((if_neg roomy).trans (bind_eq_ok.mpr ⟨stored, fits, ?_⟩))
    show _ = Except.ok { c with conn := { c.conn.touch now with
      clientToNetwork := stored
      tcb := c.conn.tcb.hears header.data } }
    rw [Tcb.hears, if_neg notSynReceived]
    rfl
  obtain ⟨c', sent, usable', sends, client, same⟩ := @accept c random now acked packet header
    (usable.congr rfl rfl rfl ⟨.refl c.client, fun _ known => known⟩)
    ⟨.refl c.client, fun _ known => known⟩ tcp (by rw [established]; exact nofun) noSyn expected
    noRst isAck noFin unsent handled
  exact ⟨c', stored, sent, usable', sends, client, fits, same⟩

/-- The FIN of an expected segment, in an established connection with nothing left to write, is
answered with another, and the segment may acknowledge that one already. -/
theorem answerFin {packet : Ipv4Packet} {header : TcpHeader} (usable : c.Usable) (now : Instant)
    (tcp : tcpHeaderOfPacket packet = .ok header) (notInit : c.conn.tcb.state ≠ .init)
    (noSyn : header.data.isSyn = false)
    (expected : header.data.sequenceNumber = c.conn.expectedPacket)
    (noRst : header.data.isRst = false) (isAck : header.data.isAck = true)
    (isFin : header.data.isFin = true)
    (quiet : c.conn.tcb.state = .synReceived ∨ packet.payload = .ok (some []))
    (established : (c.conn.tcb.hears header.data).state = .established)
    (empty : c.conn.clientToNetwork.isEmpty = true) :
    ∃ c₁ packetizer raw, c₁.Usable ∧ TcpContext.Sends { c with conn := c.conn.touch now } c₁ ∧
      Segment.ofRaw raw = ⟨c.conn.tcb.sequenceNumber, c.conn.tcb.acknowledgementNumber + 1,
        flagFin ||| flagAck, []⟩ ∧
      c₁.conn = { c.conn.touch now with
        networkToClient := packetizer
        trace := c.conn.trace ++ [TcpAction.finHandled, TcpAction.forged raw c.conn.waiting]
        tcb := { c.conn.tcb.hears header.data with
          finReceived := true
          acknowledgementNumber := c.conn.tcb.acknowledgementNumber + 1
          finSequenceNumber := some c.conn.tcb.sequenceNumber
          sequenceNumber := c.conn.tcb.sequenceNumber + 1
          state := .lastAck } } ∧
      ∀ random overflowChecks, TcpContext.handlePacket { c with conn := c.conn.touch now } packet
          random overflowChecks = (do
        let acked ← afterFin overflowChecks c.conn.tcb.sequenceNumber
        if header.data.acknowledgementNumber = acked then return c₁.handleFinAck
        else return c₁) := by
  let acked : TcpContext := { c with conn := { c.conn.touch now with
    tcb := c.conn.tcb.hears header.data } }
  have sends : TcpContext.Sends { c with conn := c.conn.touch now } acked :=
    ⟨.refl c.client, fun _ known => known⟩
  have handled : (TcpContext.noteWindow { c with conn := c.conn.touch now } header.data).handleAck
      packet = .ok acked := TcpContext.handleAck_quiet quiet
  let counted := (acked.withTcb fun tcb => { tcb with finReceived := true }).countReceivedFin
  have usable₁ : counted.Usable := usable.congr rfl rfl rfl ⟨.refl c.client, fun _ known => known⟩
  obtain ⟨c₂, packetizer, raw, forged, usable₂, sends₂, segment, same⟩ :=
    @reply counted (flagFin ||| flagAck) usable₁ (by decide)
  have fin : acked.handleFin = .ok (c₂.countSentFin .lastAck) := by
    refine (if_pos empty).trans ((if_pos established).trans ?_)
    exact bind_eq_ok.mpr ⟨c₂, forged, rfl⟩
  have number : (c₂.countSentFin .lastAck).conn.tcb.finSequenceNumber =
      some acked.conn.tcb.sequenceNumber := by
    rw [TcpContext.conn_countSentFin, same]
    rfl
  refine ⟨c₂.countSentFin .lastAck, packetizer, raw,
    usable₂.congr rfl rfl rfl ⟨.refl c₂.client, fun _ known => known⟩,
    sends.trans ⟨sends₂.client, sends₂.selector⟩, segment, ?_, fun random overflowChecks => ?_⟩
  · rw [TcpContext.conn_countSentFin, same]
    show TcpConnection.mk _ _ _ _ _ _ _ _ _ _ ((acked.conn.trace ++ [_]) ++ [_]) =
      TcpConnection.mk _ _ _ _ _ _ _ _ _ _ (acked.conn.trace ++ [_, _])
    rw [List.append_assoc]
    rfl
  · rw [TcpContext.handlePacket_expected (c := { c with conn := c.conn.touch now }) tcp notInit
      noSyn expected noRst, if_pos isAck, handled, ok_bind, if_pos isFin, fin, ok_bind]
    simp only [number]
    rfl

/-- When it does not acknowledge that FIN, the connection waits for the acknowledgement. -/
theorem finish {packet : Ipv4Packet} {header : TcpHeader} (usable : c.Usable)
    (tcp : tcpHeaderOfPacket packet = .ok header) (notInit : c.conn.tcb.state ≠ .init)
    (noSyn : header.data.isSyn = false)
    (expected : header.data.sequenceNumber = c.conn.expectedPacket)
    (noRst : header.data.isRst = false) (isAck : header.data.isAck = true)
    (isFin : header.data.isFin = true)
    (quiet : c.conn.tcb.state = .synReceived ∨ packet.payload = .ok (some []))
    (established : (c.conn.tcb.hears header.data).state = .established)
    (empty : c.conn.clientToNetwork.isEmpty = true)
    (unacked : header.data.acknowledgementNumber ≠ c.conn.tcb.sequenceNumber + 1) :
    ∃ c' packetizer raw, c.sendToNetwork (.ipv4 packet) random false now = .ok c' ∧ c'.Usable ∧
      c.Sends c' ∧
      Segment.ofRaw raw = ⟨c.conn.tcb.sequenceNumber, c.conn.tcb.acknowledgementNumber + 1,
        flagFin ||| flagAck, []⟩ ∧
      c'.conn = ({ c.conn.touch now with
        networkToClient := packetizer
        trace := c.conn.trace ++ [TcpAction.finHandled, TcpAction.forged raw c.conn.waiting]
        tcb := { c.conn.tcb.hears header.data with
          finReceived := true
          acknowledgementNumber := c.conn.tcb.acknowledgementNumber + 1
          finSequenceNumber := some c.conn.tcb.sequenceNumber
          sequenceNumber := c.conn.tcb.sequenceNumber + 1
          state := .lastAck } }).settled := by
  obtain ⟨c₁, packetizer, raw, usable₁, sends₁, segment, same, handled⟩ :=
    usable.answerFin now tcp notInit noSyn expected noRst isAck isFin quiet established empty
  have compared : TcpContext.handlePacket { c with conn := c.conn.touch now } packet random false =
      .ok c₁ := by
    rw [handled]
    exact if_neg unacked
  obtain ⟨c', sent, usable', sends', -, same'⟩ := sendToNetwork usable₁ sends₁ compared
  exact ⟨c', packetizer, raw, sent, usable', sends', segment, same'.trans (same ▸ rfl)⟩

/-! ## Events -/

/-- The end of an event whose halves went well and left the connection open. -/
theorem onReady {c₁ c₂ : TcpContext} {ready : Ready} {answers : SocketAnswers}
    (isOpen : c.conn.closed = false) (some : ready.isReadable = true ∨ ready.isWritable = true)
    (usable : c₂.Usable)
    (writable : (if ready.isWritable then
        TcpContext.processWritable { c with conn := c.conn.touch now } answers
      else .ok (.ok (), { c with conn := c.conn.touch now })) = .ok (.ok (), c₁))
    (readable : (if c₁.conn.closed = false ∧ ready.isReadable then c₁.processReceive answers.read
      else .ok (.ok (), c₁)) = .ok (.ok (), c₂)) :
    ∃ c', c.onReady ready answers now = .ok c' ∧ c'.Usable ∧ c₂.Sends c' ∧ c'.client = c₂.client ∧
      c'.conn = c₂.conn.settled := by
  obtain ⟨c', updated, usable', sends', client, same⟩ := usable.settle
  refine ⟨c', ?_, usable', sends', client, same⟩
  have ready : TcpContext.processReady { c with conn := c.conn.touch now } ready answers =
      .ok (.ok (), c') := by
    refine orReturn_eq_ok.mpr (.inl ⟨c₁, writable, orReturn_eq_ok.mpr (.inl ⟨c₂, readable, ?_⟩)⟩)
    rw [if_neg (by rw [usable.isOpen]; exact Bool.false_ne_true), updated]
    rfl
  have processed : c.process ‹Ready› answers now = .ok (.ok (), c') := by
    refine (if_neg (by rw [isOpen]; exact Bool.false_ne_true)).trans ?_
    refine orReturn_eq_ok.mpr (.inl ⟨c', (if_pos some).trans ready, ?_⟩)
    rw [if_neg (by rw [usable'.isOpen]; exact Bool.false_ne_true)]
  exact bind_eq_ok.mpr ⟨_, processed, rfl⟩

/-- The socket is connected. -/
theorem connect {answers : SocketAnswers} (usable : c.Usable) (synSent : c.conn.tcb.state = .synSent)
    (noError : answers.takeError = .ok none) :
    ∃ c' packetizer raw, c.onReady .writable answers now = .ok c' ∧ c'.Usable ∧ c.Sends c' ∧
      Segment.ofRaw raw = ⟨c.conn.tcb.sequenceNumber, c.conn.tcb.acknowledgementNumber,
        flagSyn ||| flagAck, []⟩ ∧
      c'.conn = ({ c.conn.touch now with
        networkToClient := packetizer
        trace := c.conn.trace ++ [TcpAction.forged raw c.conn.waiting]
        tcb := { c.conn.tcb with
          state := .synReceived
          sequenceNumber := c.conn.tcb.sequenceNumber + 1 } }).settled := by
  let received := TcpContext.withTcb { c with conn := c.conn.touch now } fun tcb => { tcb with
    state := .synReceived }
  have usable₁ : received.Usable :=
    usable.congr rfl rfl rfl ⟨.refl c.client, fun _ known => known⟩
  obtain ⟨c₂, packetizer, raw, forged, usable₂, sends₂, segment, same⟩ :=
    @reply received (flagSyn ||| flagAck) usable₁ (by decide)
  let counted := c₂.withTcb fun tcb => { tcb with sequenceNumber := tcb.sequenceNumber + 1 }
  have usable₃ : counted.Usable := usable₂.congr rfl rfl rfl ⟨.refl c₂.client, fun _ known => known⟩
  have connected : TcpContext.processWritable { c with conn := c.conn.touch now } answers =
      .ok (.ok (), counted) := by
    refine (if_pos synSent).trans (bind_eq_ok.mpr ⟨counted, ?_, rfl⟩)
    refine (if_neg (not_not.mpr synSent)).trans ?_
    rw [noError]
    exact bind_eq_ok.mpr ⟨c₂, forged, rfl⟩
  obtain ⟨c', handled, usable', sends', -, same'⟩ :=
    @onReady c now counted counted .writable answers usable.isOpen (.inr rfl) usable₃ connected
      (if_neg (fun h => nomatch h.2))
  refine ⟨c', packetizer, raw, handled, usable', ⟨sends₂.client.trans sends'.client,
    sends₂.selector.trans sends'.selector⟩, segment, same'.trans ?_⟩
  show TcpConnection.settled { c₂.conn with tcb := _ } = _
  rw [same]
  rfl

/-- The socket takes bytes that wait for it, and the client is told. -/
theorem write {answers : SocketAnswers} {written : List UInt8}
    {rest : StreamBuffer (4 * maxPacketLength)} (usable : c.Usable)
    (connected : c.conn.tcb.state ≠ .synSent)
    (took : c.conn.clientToNetwork.writeTo answers.write = (.ok written, rest))
    (some : written ≠ []) (noFin : c.conn.tcb.finReceived = false) :
    ∃ c' packetizer raw, c.onReady .writable answers now = .ok c' ∧ c'.Usable ∧ c.Sends c' ∧
      Segment.ofRaw raw = ⟨c.conn.tcb.sequenceNumber,
        c.conn.tcb.acknowledgementNumber + UInt32.ofNat written.length, flagAck, []⟩ ∧
      c'.conn = ({ c.conn.touch now with
        clientToNetwork := rest
        networkToClient := packetizer
        trace := c.conn.trace ++ [TcpAction.wrote written, TcpAction.forged raw c.conn.waiting]
        tcb := { c.conn.tcb with
          acknowledgementNumber :=
            c.conn.tcb.acknowledgementNumber + UInt32.ofNat written.length } }).settled := by
  let taken : TcpContext := TcpContext.acknowledge { c with conn := c.conn.touch now } written rest
  have usable₁ : taken.Usable :=
    usable.congr rfl rfl rfl ⟨.refl c.client, fun _ known => known⟩
  obtain ⟨c₂, packetizer, raw, forged, usable₂, sends₂, segment, same⟩ :=
    @reply taken flagAck usable₁ (by decide)
  have sent : TcpContext.processWritable { c with conn := c.conn.touch now } answers =
      .ok (.ok (), c₂) := by
    have stays : ¬ (taken.conn.tcb.finReceived = true ∧ taken.conn.clientToNetwork.isEmpty = true) :=
      fun both => absurd (noFin.symm.trans both.1) Bool.false_ne_true
    refine (if_neg connected).trans ?_
    have wrote : StreamBuffer.writeTo (TcpConnection.touch c.conn now).clientToNetwork answers.write =
      (.ok written, rest) := took
    unfold TcpContext.processSend
    rw [wrote]
    refine (if_pos some).trans ((if_neg stays).trans ?_)
    exact bind_eq_ok.mpr ⟨c₂, forged, rfl⟩
  obtain ⟨c', handled, usable', sends', -, same'⟩ :=
    @onReady c now c₂ c₂ .writable answers usable.isOpen (.inr rfl) usable₂ sent
      (if_neg (fun h => nomatch h.2))
  refine ⟨c', packetizer, raw, handled, usable', ⟨sends₂.client.trans sends'.client,
    sends₂.selector.trans sends'.selector⟩, segment, same'.trans ?_⟩
  rw [same]
  show TcpConnection.settled { taken.conn with
    networkToClient := packetizer
    trace := (c.conn.trace ++ [TcpAction.wrote written]) ++ [TcpAction.forged raw c.conn.waiting] } = _
  rw [List.append_assoc]
  rfl

/-- Bytes of the host make a packet. -/
theorem packetizeRead {data : List UInt8} (usable : c.Usable) (nonempty : data ≠ [])
    (short : data.length ≤ c.receivable) :
    ∃ primed packetizer packet,
      updateHeaders c.conn.networkToClient c.conn.tcb (flagAck ||| flagPsh) = .ok primed ∧
      primed.packetizeRead (.ok data) c.receivable = .ok (.ok (some packet), packetizer) ∧
      primed.chunk data c.receivable = data ∧ packet.payload = .ok (some data) ∧
      packetizer.payloadIndex = c.conn.networkToClient.payloadIndex ∧
      packet.raw.length = packetizer.payloadIndex + data.length ∧
      packet.length = UInt16.ofNat packet.raw.length := by
  obtain ⟨header, updated, tcp, -, -, -, index⟩ :=
    usable.forTcp.updateHeaders c.conn.tcb (show flagAck ||| flagPsh ∈ relayFlags by decide)
  have bound : Packetizer.payloadIndex _ + c.receivable < 65536 :=
    (Nat.add_le_add tcp.short c.receivable_le).trans_lt (by decide)
  have all := Packetizer.length_payload tcp.wellFormed
  have most := c.receivable_le
  have short80 := tcp.short
  have whole : Packetizer.chunk { c.conn.networkToClient with transportHeader := .tcp header } data
      c.receivable = data := by
    refine List.take_of_length_le (le_min short ?_)
    show data.length ≤ c.conn.networkToClient.payload.length
    change _ + c.conn.networkToClient.payload.length = 65536 at all
    omega
  rcases tcp.wellFormed.packetizeRead bound with ⟨empty, -⟩ | ⟨-, packet, packetizer, read, built⟩
  · exact absurd (whole.symm.trans empty) nonempty
  · rw [whole] at built
    refine ⟨_, packetizer, packet, updated, read, whole, built.payload,
      built.payloadIndex.trans index, ?_, ?_⟩
    · rw [built.length_raw, built.payloadIndex]
    · rw [built.length, built.length_raw]

/-- Bytes of the host are read, and the packet they make is offered to the client. -/
theorem read {answers : SocketAnswers} {data : List UInt8} (usable : c.Usable)
    (idle : c.conn.packetForClientLength = none)
    (window : 0 < c.conn.tcb.remainingClientWindow) (nonempty : data ≠ [])
    (short : data.length ≤ c.receivable) (answer : answers.read = .ok data) :
    ∃ c' packetizer raw, c.onReady .readable answers now = .ok c' ∧ c'.Usable ∧
      packetizer.payloadIndex = c.conn.networkToClient.payloadIndex ∧
      raw.length = packetizer.payloadIndex + data.length ∧
      (packetizer.inflate (UInt16.ofNat raw.length)).raw = raw ∧
      Segment.ofRaw raw = ⟨c.conn.tcb.sequenceNumber, c.conn.tcb.acknowledgementNumber,
        flagAck ||| flagPsh, data⟩ ∧
      ((raw.length ≤ c.client.networkToClient.remaining ∧ c.Sends c' ∧
          c'.conn = ({ c.conn.touch now with
            networkToClient := packetizer
            trace := c.conn.trace ++ [TcpAction.read data, TcpAction.handed raw]
            tcb := { c.conn.tcb with
              sequenceNumber :=
                c.conn.tcb.sequenceNumber + UInt32.ofNat data.length } }).settled) ∨
        (c.client.networkToClient.remaining < raw.length ∧
          c'.client = c.client.registerPendingPacketSource c.conn.handle ∧
          c.selector.Keeps c'.selector ∧
          c'.conn = ({ c.conn.touch now with
            networkToClient := packetizer
            packetForClientLength := some (UInt16.ofNat raw.length)
            trace := c.conn.trace ++ [TcpAction.read data, TcpAction.deferred raw] }).settled)) := by
  obtain ⟨primed, packetizer, packet, updated, packetized, whole, payload, index, length, field⟩ :=
    usable.packetizeRead nonempty short
  obtain ⟨tcp', -, inflated, segment⟩ := TcpContext.packetizeRead_segment usable.forTcp updated packetized
  rw [whole] at segment
  rw [field] at inflated
  obtain ⟨sent, client, selector, offered, same, keeps, room⟩ :=
    c.client.sendRawToClient_returns packet.raw usable.clientKnown
  let c₀ : TcpContext := { c with conn := { c.conn.touch now with networkToClient := packetizer } }
  have finished {c₂ : TcpContext} (usable₂ : c₂.Usable)
      (sentData : (c₀.record (.read data)).sendDataToClient packet = .ok c₂) :
      ∃ c', c.onReady .readable answers now = .ok c' ∧ c'.Usable ∧ c₂.Sends c' ∧
        c'.client = c₂.client ∧ c'.conn = c₂.conn.settled := by
    have received : TcpContext.processReceive { c with conn := c.conn.touch now } answers.read =
        .ok (.ok (), c₂) := by
      refine (if_neg ?_).trans ((if_neg (not_not.mpr window)).trans (bind_eq_ok.mpr ⟨primed, updated,
        bind_eq_ok.mpr ⟨(.ok (some packet), packetizer), ?_, ?_⟩⟩))
      · rw [Option.not_isSome_iff_eq_none]
        exact idle
      · rw [answer]
        exact packetized
      · rw [answer]
        show (do
          let c ← (c₀.record (.read (primed.chunk data c.receivable))).sendDataToClient packet
          return (.ok (), c) : Outcome (IoResult Unit × TcpContext)) = _
        rw [whole]
        exact bind_eq_ok.mpr ⟨c₂, sentData, rfl⟩
    exact @onReady c now { c with conn := c.conn.touch now } c₂ .readable answers usable.isOpen
      (.inl rfl) usable₂ (if_neg Bool.false_ne_true)
      ((if_pos ⟨usable.isOpen, rfl⟩).trans received)
  have tcp₀ : c₀.conn.networkToClient.ForTcp := tcp'
  rcases room with ⟨fits, rfl⟩ | ⟨full, rfl⟩
  · let c₂ : TcpContext := (TcpContext.withTcb { c₀.record (.read data) with client, selector } fun tcb =>
      { tcb with sequenceNumber := tcb.sequenceNumber + UInt32.ofNat data.length }).record
        (.handed packet.raw)
    have sentData : (c₀.record (.read data)).sendDataToClient packet = .ok c₂ := by
      refine bind_eq_ok.mpr ⟨_, offered, bind_eq_ok.mpr ⟨_, payload, rfl⟩⟩
    obtain ⟨c', handled, usable', sends', -, same'⟩ := @finished c₂
      ⟨usable.isOpen, tcp₀, keeps _ usable.clientKnown, keeps _ usable.known⟩ sentData
    refine ⟨c', packetizer, packet.raw, handled, usable', index, length, inflated, segment,
      .inl ⟨fits, ⟨same.trans sends'.client, keeps.trans sends'.selector⟩, same'.trans ?_⟩⟩
    show TcpConnection.settled { c₂.conn with
      trace := (c.conn.trace ++ [TcpAction.read data]) ++ [TcpAction.handed packet.raw] } = _
    rw [List.append_assoc]
    rfl
  · let c₂ : TcpContext := (TcpContext.await { c₀.record (.read data) with client, selector }
      packet.length).record (.deferred packet.raw)
    have sentData : (c₀.record (.read data)).sendDataToClient packet = .ok c₂ :=
      bind_eq_ok.mpr ⟨_, offered, rfl⟩
    have unchanged : client = c.client := by
      obtain ⟨-, -, -, ⟨sent, -⟩ | ⟨-, -, unchanged, -⟩⟩ := Client.sendRawToClient_ok offered
      · cases sent
      · exact unchanged
    obtain ⟨c', handled, usable', sends', client', same'⟩ := @finished c₂
      ⟨usable.isOpen, tcp₀, keeps _ usable.clientKnown, keeps _ usable.known⟩ sentData
    refine ⟨c', packetizer, packet.raw, handled, usable', index, length, inflated, segment,
      .inr ⟨full, ?_, keeps.trans sends'.selector, same'.trans ?_⟩⟩
    · rw [client', ← unchanged]
      rfl
    · show TcpConnection.settled { c₀.conn with
        packetForClientLength := some packet.length
        trace := (c.conn.trace ++ [TcpAction.read data]) ++ [TcpAction.deferred packet.raw] } = _
      rw [List.append_assoc, field]
      rfl

/-- The waiting packet has been handed over. -/
theorem next {length : UInt16} (usable : c.Usable)
    (waiting : c.conn.packetForClientLength = some length) :
    ∃ c', c.next = .ok c' ∧ c'.Usable ∧ c.Sends c' ∧ c'.client = c.client ∧
      c'.conn = ({ c.conn with
        packetForClientLength := none
        trace := c.conn.trace ++ [TcpAction.delivered (c.conn.networkToClient.inflate length).raw]
        tcb := { c.conn.tcb with
          sequenceNumber := c.conn.tcb.sequenceNumber + length.toUInt32 } }).settled := by
  let delivered : TcpContext := { c with conn := { c.conn with
    packetForClientLength := none
    trace := c.conn.trace ++ [TcpAction.delivered (c.conn.networkToClient.inflate length).raw]
    tcb := { c.conn.tcb with
      sequenceNumber := c.conn.tcb.sequenceNumber + length.toUInt32 } } }
  have usable' : delivered.Usable :=
    usable.congr rfl rfl rfl ⟨.refl c.client, fun _ known => known⟩
  obtain ⟨c', updated, usable₁, sends, client, same⟩ := usable'.settle
  refine ⟨c', ?_, usable₁, ⟨sends.client, sends.selector⟩, client, same⟩
  unfold TcpContext.next
  rw [waiting]
  exact updated

end TcpContext.Usable

/-! ## Runs of one connection -/

/-- The bytes of a segment without options, from port 4660 of 10.0.0.2 to port 80 of
10.0.0.1, with a window of 65535. -/
def segmentBytes (sequenceNumber acknowledgementNumber flags : UInt8) (payload : List UInt8) :
    List UInt8 :=
  [0x45, 0, 0, 40 + UInt8.ofNat payload.length, 0, 0, 0, 0, 64, 6, 0, 0, 10, 0, 0, 2, 10, 0, 0, 1] ++
    [0x12, 0x34, 0, 80, 0, 0, 0, sequenceNumber, 0, 0, 0, acknowledgementNumber, 0x50, flags,
      0xFF, 0xFF, 0, 0, 0, 0] ++
    payload

/-- What `parse` makes of them. -/
def segmentPacket (sequenceNumber acknowledgementNumber flags : UInt8) (payload : List UInt8) :
    Ipv4Packet :=
  let raw := segmentBytes sequenceNumber acknowledgementNumber flags payload
  { raw
    ipv4HeaderData := .ofRaw raw
    transportHeaderData := some (.tcp (.ofRaw (raw.drop 20))) }

/-- Their TCP header. -/
def segmentHeader (sequenceNumber acknowledgementNumber flags : UInt8) : TcpHeader :=
  let raw := (segmentBytes sequenceNumber acknowledgementNumber flags []).drop 20
  ⟨raw, .ofRaw raw⟩

/-- The SYN of a flow makes a connection. -/
theorem TcpConnection.fresh_exists : ∃ conn : TcpConnection, conn.Fresh :=
  ⟨_, _, _, _, _, _, ⟨fun _ => some .empty, []⟩, _, 0, 0,
    (rfl : IpPacket.parse (segmentBytes 0 0 2 []) = .ok (.ok (.ipv4 (segmentPacket 0 0 2 [])))),
    rfl, rfl, rfl⟩

/-- The control block of a connection that is established, with the numbers it stands at.  Its
client has acknowledged the SYN and shows its largest window. -/
def Tcb.exchanging (acknowledgementNumber sequenceNumber : UInt32) : Tcb :=
  { Tcb.new with
    state := .established
    acknowledgementNumber
    sequenceNumber
    theirAcknowledgementNumber := 1
    clientWindow := 65535 }

/-- An established connection of which no packet waits, with the bytes it holds for the host and
its record.  It is registered for what it wants. -/
structure TcpConnection.Exchanged (conn : TcpConnection)
    (acknowledgementNumber sequenceNumber : UInt32) (held : List UInt8) (trace : List TcpAction) :
    Prop where
  isOpen : conn.closed = false
  forTcp : conn.networkToClient.ForTcp
  idle : conn.packetForClientLength = none
  tcb : conn.tcb = .exchanging acknowledgementNumber sequenceNumber
  held : conn.clientToNetwork.contents = held
  trace : conn.trace = trace
  interests : conn.interests = conn.wanted

namespace TcpConnection.Exchanged

variable {conn : TcpConnection} {client : Client} {selector : Selector}
  {acknowledgementNumber sequenceNumber : UInt32} {held : List UInt8} {trace : List TcpAction}
  {answers : SocketAnswers} {now : Instant}

theorem established (exchanged : conn.Exchanged acknowledgementNumber sequenceNumber held trace) :
    conn.tcb.state = .established := by
  rw [exchanged.tcb]
  rfl

theorem quiet (exchanged : conn.Exchanged acknowledgementNumber sequenceNumber held trace) :
    conn.waiting = false := by
  rw [TcpConnection.waiting, exchanged.idle]
  rfl

/-- With nothing for its socket it only wants to read. -/
theorem readable (exchanged : conn.Exchanged acknowledgementNumber sequenceNumber [] trace)
    (window : 0 < (Tcb.exchanging acknowledgementNumber sequenceNumber).remainingClientWindow) :
    conn.interests = .readable := by
  rw [exchanged.interests]
  exact wanted_readable exchanged.established exchanged.idle (exchanged.tcb ▸ window)
    ((StreamBuffer.isEmpty_iff _).mpr exchanged.held)

/-- **A byte of the host is handed to the client**, which has room for a packet.  The segment has
the number that the relay stands at, and the next one is one higher. -/
theorem reads {byte : UInt8}
    (exchanged : conn.Exchanged acknowledgementNumber sequenceNumber held trace)
    (usable : (⟨conn, client, selector⟩ : TcpContext).Usable)
    (window : 0 < (Tcb.exchanging acknowledgementNumber sequenceNumber).remainingClientWindow)
    (room : 80 < client.networkToClient.remaining) (answer : answers.read = .ok [byte]) :
    ∃ c raw, TcpContext.onReady ⟨conn, client, selector⟩ .readable answers now = .ok c ∧
      c.conn.handle = conn.handle ∧ c.conn.id = conn.id ∧
      Segment.ofRaw raw = ⟨sequenceNumber, acknowledgementNumber, flagAck ||| flagPsh, [byte]⟩ ∧
      c.conn.Exchanged acknowledgementNumber (sequenceNumber + 1) held
        (trace ++ [TcpAction.read [byte], TcpAction.handed raw]) := by
  rw [← exchanged.tcb] at window
  have receives : [byte].length ≤ TcpContext.receivable ⟨conn, client, selector⟩ :=
    le_min (UInt16.lt_iff_toNat_lt.mp window) (show 1 ≤ maxPayloadLength.toNat by decide)
  obtain ⟨c, packetizer, raw, happened, usable', index, length, -, segment, ⟨-, -, same⟩ | ⟨full, -⟩⟩ :=
    @TcpContext.Usable.read _ now answers [byte] usable exchanged.idle window (List.cons_ne_nil _ _)
      receives answer
  · refine ⟨c, raw, happened, by rw [same]; rfl, by rw [same]; rfl, ?_, usable'.isOpen, usable'.forTcp,
      ?_, ?_, ?_, ?_, ?_⟩
    · rw [segment, exchanged.tcb]
      rfl
    · rw [same]
      exact exchanged.idle
    · rw [same]
      show { conn.tcb with sequenceNumber := conn.tcb.sequenceNumber + 1 } = _
      rw [exchanged.tcb]
      rfl
    · rw [same]
      exact exchanged.held
    · rw [same]
      show conn.trace ++ _ = _
      rw [exchanged.trace]
    · rw [same]
      rfl
  · have short := usable.forTcp.short
    change conn.networkToClient.payloadIndex ≤ 80 at short
    change client.networkToClient.remaining < raw.length at full
    rw [length, index, List.length_singleton] at full
    change _ < conn.networkToClient.payloadIndex + 1 at full
    omega

/-- **The bytes of a segment are buffered**, behind those that the connection holds.  It is the
segment that is expected, with no flag but ACK, and there is room for its payload. -/
theorem takes {packet : Ipv4Packet} {header : TcpHeader} {payload : List UInt8}
    (exchanged : conn.Exchanged acknowledgementNumber sequenceNumber held trace)
    (usable : (⟨conn, client, selector⟩ : TcpContext).Usable) (random : UInt32)
    (tcp : tcpHeaderOfPacket packet = .ok header) (carried : packet.payload = .ok (some payload))
    (nonempty : payload ≠ []) (noSyn : header.data.isSyn = false)
    (expected : header.data.sequenceNumber = acknowledgementNumber + UInt32.ofNat held.length)
    (noRst : header.data.isRst = false) (isAck : header.data.isAck = true)
    (noFin : header.data.isFin = false)
    (heard : (Tcb.exchanging acknowledgementNumber sequenceNumber).hears header.data =
      .exchanging acknowledgementNumber sequenceNumber)
    (room : payload.length ≤ conn.clientToNetwork.remaining) :
    ∃ c, TcpContext.sendToNetwork ⟨conn, client, selector⟩ (.ipv4 packet) random false now = .ok c ∧
      c.Usable ∧ c.conn.handle = conn.handle ∧ c.conn.id = conn.id ∧
      c.conn.Exchanged acknowledgementNumber sequenceNumber (held ++ payload) trace := by
  have here : conn.expectedPacket = acknowledgementNumber + UInt32.ofNat held.length := by
    rw [expectedPacket, ← StreamBuffer.length_contents, exchanged.held, exchanged.tcb]
    rfl
  obtain ⟨c, stored, sent, usable', -, -, reads, same⟩ :=
    @TcpContext.Usable.take _ packet header payload usable random now tcp carried nonempty
      exchanged.established noSyn (expected.trans here.symm) noRst isAck noFin
      (by rw [exchanged.tcb]; rfl) room
  refine ⟨c, sent, usable', by rw [same]; rfl, by rw [same]; rfl, usable'.isOpen, usable'.forTcp, ?_, ?_,
    ?_, ?_, ?_⟩
  · rw [same]
    exact exchanged.idle
  · rw [same]
    show conn.tcb.hears _ = _
    rw [exchanged.tcb, heard]
  · rw [same]
    show stored.contents = _
    rw [StreamBuffer.contents_readFrom reads, ← exchanged.held]
  · rw [same]
    exact exchanged.trace
  · rw [same]
    rfl

/-- **The first byte that the connection holds is written**, and acknowledged.  What is
acknowledged is what the socket took, and the rest is held. -/
theorem writes {byte : UInt8}
    (exchanged : conn.Exchanged acknowledgementNumber sequenceNumber (byte :: held) trace)
    (usable : (⟨conn, client, selector⟩ : TcpContext).Usable) (answer : answers.write = .ok 1) :
    ∃ c ack, TcpContext.onReady ⟨conn, client, selector⟩ .writable answers now = .ok c ∧
      c.conn.handle = conn.handle ∧ c.conn.id = conn.id ∧
      Segment.ofRaw ack = ⟨sequenceNumber, acknowledgementNumber + 1, flagAck, []⟩ ∧
      c.conn.Exchanged (acknowledgementNumber + 1) sequenceNumber held
        (trace ++ [TcpAction.wrote [byte], TcpAction.forged ack false]) := by
  have waits : conn.clientToNetwork.isEmpty = false := by
    rw [StreamBuffer.isEmpty_eq_false_iff, exchanged.held]
    exact List.cons_ne_nil _ _
  obtain ⟨left, wrote, split⟩ := StreamBuffer.writeTo_ok waits 1
  obtain ⟨first, others, offered⟩ := List.exists_cons_of_ne_nil (StreamBuffer.offered_ne_nil waits)
  rw [exchanged.held, offered] at split
  obtain ⟨rfl, rest⟩ := List.cons_eq_cons.mp split
  rw [offered, ← answer] at wrote
  obtain ⟨c, packetizer, ack, happened, usable', -, segment, same⟩ :=
    @TcpContext.Usable.write _ now answers [byte] left usable
      (by rw [exchanged.established]; exact nofun) wrote (List.cons_ne_nil _ _)
      (by rw [exchanged.tcb]; rfl)
  refine ⟨c, ack, happened, by rw [same]; rfl, by rw [same]; rfl, ?_, usable'.isOpen, usable'.forTcp, ?_,
    ?_, ?_, ?_, ?_⟩
  · rw [segment, exchanged.tcb]
    rfl
  · rw [same]
    exact exchanged.idle
  · rw [same]
    show { conn.tcb with acknowledgementNumber := conn.tcb.acknowledgementNumber + 1 } = _
    rw [exchanged.tcb]
    rfl
  · rw [same]
    exact rest.symm
  · rw [same]
    show conn.trace ++ [_, TcpAction.forged ack conn.waiting] = _
    rw [exchanged.trace, exchanged.quiet]
  · rw [same]
    rfl

end TcpConnection.Exchanged

namespace TcpLife

/-- An open connection meets clients with and without room. -/
theorem usable_exists {conn : TcpConnection} (isOpen : conn.closed = false)
    (forTcp : conn.networkToClient.ForTcp) (networkToClient : ClientStream) :
    ∃ client selector, (⟨conn, client, selector⟩ : TcpContext).Usable ∧
      client.networkToClient = networkToClient :=
  ⟨{ Client.create 0 with networkToClient }, ⟨fun _ => some .empty, []⟩,
    ⟨isOpen, forTcp, nofun, nofun⟩, rfl⟩

/-- **The handshake.**  The first SYN of a new connection, the poller, and the event that says that
the socket is connected.  The relay has answered with its own SYN, and waits for the ACK of the
client. -/
theorem run_handshake {conn : TcpConnection} {packet : Ipv4Packet} {header : TcpHeader}
    (fresh : conn.Fresh) (random : UInt32) (tcp : tcpHeaderOfPacket packet = .ok header)
    (syn : header.data.isSyn = true) :
    ∃ t s packetizer raw, machine.Run t s ∧ t.head?.map Prod.fst = some ⟨conn, .empty⟩ ∧
      t.map Prod.snd = [.packet packet random false 0, .poll,
        .event .writable ⟨.ok none, .ok 0, .ok []⟩ 0] ∧
      packetizer.ForTcp ∧ Segment.ofRaw raw = ⟨random, header.data.sequenceNumber + 1,
        flagSyn ||| flagAck, []⟩ ∧
      s.conn = { conn with
        idleSince := 0
        interests := .empty
        networkToClient := packetizer
        trace := [TcpAction.opened random, TcpAction.forged raw false]
        tcb := { Tcb.new with
          state := .synReceived
          synSequenceNumber := header.data.sequenceNumber
          acknowledgementNumber := header.data.sequenceNumber + 1
          sequenceNumber := random + 1
          clientWindow := header.data.window } } := by
  have forTcp := fresh.forTcp
  have start : machine.Run [] ⟨conn, .empty⟩ := .start ⟨fresh, rfl⟩
  obtain ⟨_, _, _, _, rfl⟩ := fresh.eq_initial
  obtain ⟨client, selector, usable, -⟩ := usable_exists rfl forTcp (.new _)
  obtain ⟨c₁, opened, usable₁, -, -, same₁⟩ := usable.openWith random 0 rfl tcp syn
  have run₁ := start.step (Step.packet opened)
  have run₂ := run₁.step Step.poll
  obtain ⟨c₂, packetizer, raw, connected, usable₂, -, segment, same₂⟩ :=
    @TcpContext.Usable.connect c₁ 0 ⟨.ok none, .ok 0, .ok []⟩ usable₁ (by rw [same₁]; rfl) rfl
  have armed : Ready.writable.Within c₁.conn.interests := by
    rw [same₁]
    exact Ready.within_refl _
  have run₃ := run₂.step (Step.event armed connected)
  have forTcp₂ := usable₂.forTcp
  rw [same₁] at same₂ segment
  rw [same₂] at forTcp₂
  exact ⟨_, _, packetizer, raw, run₃, rfl, rfl, forTcp₂, segment, same₂⟩

/-- **An established connection**, which the poller has just looked at.  The three labels of the
handshake and the ACK are named in the statement, so that a witness can say what its packets were.
-/
theorem run_established {conn : TcpConnection} (fresh : conn.Fresh) :
    ∃ t s packetizer raw, machine.Run t s ∧ t.head?.map Prod.fst = some ⟨conn, .empty⟩ ∧
      t.map Prod.snd = [.packet (segmentPacket 0 0 2 []) 0 false 0, .poll,
        .event .writable ⟨.ok none, .ok 0, .ok []⟩ 0, .packet (segmentPacket 1 1 0x10 []) 0 false 0,
        .poll] ∧
      packetizer.ForTcp ∧
      Segment.ofRaw raw = ⟨0, 1, flagSyn ||| flagAck, []⟩ ∧ s.armed = .readable ∧
      s.conn = { conn with
        idleSince := 0
        interests := .readable
        networkToClient := packetizer
        trace := [TcpAction.opened 0, TcpAction.forged raw false]
        tcb := { Tcb.new with
          state := .established
          acknowledgementNumber := 1
          sequenceNumber := 1
          theirAcknowledgementNumber := 1
          clientWindow := 65535 } } := by
  obtain ⟨t, s, packetizer, raw, run, first, labels, forTcp, segment, same⟩ :=
    @run_handshake conn (segmentPacket 0 0 2 []) (segmentHeader 0 0 2) fresh 0 rfl (by decide)
  obtain ⟨_, _, _, _, rfl⟩ := fresh.eq_initial
  have synReceived : s.conn.tcb.state = .synReceived := by rw [same]
  have expected : s.conn.expectedPacket = 1 := by
    rw [same]
    rfl
  obtain ⟨client, selector, usable, -⟩ :=
    @usable_exists s.conn (by rw [same]; rfl) (by rw [same]; exact forTcp) (.new _)
  obtain ⟨c', sent, -, -, -, same'⟩ :=
    @TcpContext.Usable.hear ⟨s.conn, client, selector⟩ 0 0 (segmentPacket 1 1 0x10 [])
      (segmentHeader 1 1 0x10) usable rfl (by rw [synReceived]; exact nofun) (by decide)
      (by rw [expected]; decide) (by decide) (by decide) (by decide) (by rw [same]; rfl)
      (.inl synReceived)
  have heard : s.conn.tcb.hears (segmentHeader 1 1 0x10).data = { Tcb.new with
      state := .established
      acknowledgementNumber := 1
      sequenceNumber := 1
      theirAcknowledgementNumber := 1
      clientWindow := 65535 } := by
    rw [same]
    dsimp only
    decide
  let established : TcpConnection := { s.conn.touch 0 with
    tcb := s.conn.tcb.hears (segmentHeader 1 1 0x10).data }
  have wanted : established.wanted = .readable := by
    refine TcpConnection.wanted_readable ?_ ?_ ?_ ?_
    · exact congrArg Tcb.state heard
    · show s.conn.packetForClientLength = none
      rw [same]
      rfl
    · show 0 < (s.conn.tcb.hears _).remainingClientWindow
      rw [heard]
      decide
    · show s.conn.clientToNetwork.isEmpty = true
      rw [same]
      rfl
  have conn' : c'.conn = { established with interests := established.wanted } := same'
  rw [wanted] at conn'
  refine ⟨_, _, packetizer, raw, (run.step (Step.packet sent)).step .poll, ?_, ?_, forTcp, segment,
    ?_, ?_⟩
  · rw [List.head?_append, List.head?_append, Option.map_or, Option.map_or, first]
    rfl
  · rw [List.map_append, List.map_append, labels]
    rfl
  · show c'.conn.interests = _
    rw [conn']
  · show c'.conn = _
    rw [conn']
    dsimp only [established, TcpConnection.touch]
    rw [heard, same]

/-! ### An exchange of bytes -/

/-- The connection of `run_established` can exchange bytes. -/
theorem run_exchanged {conn : TcpConnection} (fresh : conn.Fresh) :
    ∃ t s synAck, machine.Run t s ∧ t.head?.map Prod.fst = some ⟨conn, .empty⟩ ∧
      t.map Prod.snd = [.packet (segmentPacket 0 0 2 []) 0 false 0, .poll,
        .event .writable ⟨.ok none, .ok 0, .ok []⟩ 0, .packet (segmentPacket 1 1 0x10 []) 0 false 0,
        .poll] ∧
      Segment.ofRaw synAck = ⟨0, 1, flagSyn ||| flagAck, []⟩ ∧ s.armed = .readable ∧
      s.conn.clientToNetwork = .new _ ∧
      s.conn.Exchanged 1 1 [] [TcpAction.opened 0, TcpAction.forged synAck false] := by
  obtain ⟨t, s, packetizer, synAck, run, first, labels, forTcp, answer, armed, same⟩ := run_established fresh
  obtain ⟨_, _, _, _, rfl⟩ := fresh.eq_initial
  have nothing : s.conn.clientToNetwork = .new _ := by
    rw [same]
    rfl
  have held : s.conn.clientToNetwork.contents = [] := by
    rw [nothing]
    exact StreamBuffer.contents_new
  refine ⟨t, s, synAck, run, first, labels, answer, armed, nothing, ?_, ?_, ?_, ?_, held, ?_, ?_⟩
  · rw [same]
    rfl
  · rw [same]
    exact forTcp
  · rw [same]
    rfl
  · rw [same]
    rfl
  · rw [same]
  · have tcb : s.conn.tcb = .exchanging 1 1 := by
      rw [same]
      rfl
    refine Eq.trans (by rw [same]) (TcpConnection.wanted_readable ?_ ?_ ?_ ?_).symm
    · rw [tcb]
      rfl
    · rw [same]
      rfl
    · rw [tcb]
      decide
    · exact (StreamBuffer.isEmpty_iff _).mpr held

/-- **A byte of the host** is read by an established connection, and handed to its client.  The
witnesses about downloads continue from here. -/
theorem run_reads {conn : TcpConnection} (fresh : conn.Fresh) :
    ∃ t s s' synAck raw, machine.Run t s ∧
      Step s (.event .readable ⟨.ok none, .ok 0, .ok [0x61]⟩ 0) s' ∧
      s.conn.trace = [TcpAction.opened 0, TcpAction.forged synAck false] ∧
      Segment.ofRaw synAck = ⟨0, 1, flagSyn ||| flagAck, []⟩ ∧
      Segment.ofRaw raw = ⟨1, 1, flagAck ||| flagPsh, [0x61]⟩ ∧
      s'.conn.Exchanged 1 2 [] [TcpAction.opened 0, TcpAction.forged synAck false,
        TcpAction.read [0x61], TcpAction.handed raw] := by
  obtain ⟨t, s, synAck, run, -, -, answer, armed, -, exchanged⟩ := run_exchanged fresh
  obtain ⟨client, selector, usable, room⟩ :=
    @usable_exists s.conn exchanged.isOpen exchanged.forTcp (.new _)
  obtain ⟨c, raw, read, -, -, segment, exchanged'⟩ :=
    @TcpConnection.Exchanged.reads _ _ _ _ _ _ _ ⟨.ok none, .ok 0, .ok [0x61]⟩ 0 _ exchanged usable
      (by decide) (by rw [room, StreamBuffer.remaining_new]; decide) rfl
  have within : Ready.readable.Within s.armed := armed ▸ Ready.within_refl _
  exact ⟨t, s, _, synAck, raw, run, Step.event within read, exchanged.trace, answer, segment, exchanged'⟩

/-- **A byte of the client**: the first one of a segment is written to the host, and the others
wait.  The witnesses about uploads continue from here; with no other byte in the segment everything
was written. -/
theorem run_writes {conn : TcpConnection} {packet : Ipv4Packet} {byte : UInt8} {rest : List UInt8}
    (fresh : conn.Fresh) (tcp : tcpHeaderOfPacket packet = .ok (segmentHeader 1 1 0x10))
    (carried : packet.payload = .ok (some (byte :: rest))) (short : rest.length < 4 * maxPacketLength) :
    ∃ t s synAck ack, machine.Run t s ∧ t.head?.map Prod.fst = some ⟨conn, .empty⟩ ∧
      t.map Prod.snd = [.packet (segmentPacket 0 0 2 []) 0 false 0, .poll,
        .event .writable ⟨.ok none, .ok 0, .ok []⟩ 0, .packet (segmentPacket 1 1 0x10 []) 0 false 0,
        .poll, .packet packet 0 false 0, .poll, .event .writable ⟨.ok none, .ok 1, .ok []⟩ 0] ∧
      Segment.ofRaw ack = ⟨1, 2, flagAck, []⟩ ∧
      s.conn.Exchanged 2 1 rest [TcpAction.opened 0, TcpAction.forged synAck false,
        TcpAction.wrote [byte], TcpAction.forged ack false] := by
  obtain ⟨t, s, synAck, run, first, labels, -, -, nothing, exchanged⟩ := run_exchanged fresh
  obtain ⟨client, selector, usable, -⟩ :=
    @usable_exists s.conn exchanged.isOpen exchanged.forTcp (.new _)
  obtain ⟨c₁, sent, usable₁, -, -, exchanged₁⟩ :=
    @TcpConnection.Exchanged.takes _ _ _ _ _ _ _ 0 packet _ (byte :: rest) exchanged usable 0 tcp carried
      (List.cons_ne_nil _ _) (by decide) (by decide) (by decide) (by decide) (by decide) (by decide)
      (by rw [nothing, StreamBuffer.remaining_new]; exact short)
  obtain ⟨c₂, ack, written, -, -, segment, exchanged₂⟩ :=
    @TcpConnection.Exchanged.writes _ _ _ _ _ _ _ ⟨.ok none, .ok 1, .ok []⟩ 0 _ exchanged₁ usable₁ rfl
  have armed : Ready.writable.Within c₁.conn.interests := by
    rw [exchanged₁.interests]
    refine TcpConnection.writable_within_wanted ?_
    rw [StreamBuffer.isEmpty_eq_false_iff, exchanged₁.held]
    exact List.cons_ne_nil _ _
  refine ⟨_, _, synAck, ack,
    ((run.step (Step.packet sent)).step Step.poll).step (Step.event armed written), ?_, ?_, segment,
    exchanged₂⟩
  · rw [List.append_assoc, List.append_assoc, List.head?_append, Option.map_or, first]
    rfl
  · simp only [List.map_append, labels]
    rfl

/-- The FIN of the client, behind everything it sent, is answered with another. -/
theorem run_answersFin {t : List (TcpLife × Label)} {s : TcpLife} {packet : Ipv4Packet}
    {header : TcpHeader} {acknowledgementNumber sequenceNumber : UInt32} {trace : List TcpAction}
    (run : machine.Run t s) (exchanged : s.conn.Exchanged acknowledgementNumber sequenceNumber [] trace)
    (tcp : tcpHeaderOfPacket packet = .ok header) (empty : packet.payload = .ok (some []))
    (noSyn : header.data.isSyn = false) (expected : header.data.sequenceNumber = acknowledgementNumber)
    (noRst : header.data.isRst = false) (isAck : header.data.isAck = true)
    (isFin : header.data.isFin = true)
    (unacked : header.data.acknowledgementNumber ≠ sequenceNumber + 1) :
    ∃ s' fin, machine.Run (t ++ [(s, .packet packet 0 false 0)]) s' ∧
      Segment.ofRaw fin = ⟨sequenceNumber, acknowledgementNumber + 1, flagFin ||| flagAck, []⟩ ∧
      s'.conn.trace = trace ++ [TcpAction.finHandled, TcpAction.forged fin false] := by
  obtain ⟨client, selector, usable, -⟩ := @usable_exists s.conn exchanged.isOpen exchanged.forTcp (.new _)
  have state := exchanged.established
  have here : s.conn.expectedPacket = acknowledgementNumber := by
    rw [TcpConnection.expectedPacket, ← StreamBuffer.length_contents, exchanged.held, exchanged.tcb]
    exact UInt32.add_zero _
  obtain ⟨c, packetizer, fin, sent, -, -, segment, same⟩ :=
    @TcpContext.Usable.finish ⟨s.conn, client, selector⟩ 0 0 packet header usable tcp
      (by rw [state]; exact fun init => by cases init) noSyn (expected.trans here.symm) noRst isAck isFin
      (.inr empty) (by rw [Tcb.hears, if_neg (by rw [state]; decide)]; exact state)
      ((StreamBuffer.isEmpty_iff _).mpr exchanged.held) (by rw [exchanged.tcb]; exact unacked)
  refine ⟨_, fin, run.step (Step.packet sent), ?_, ?_⟩
  · rw [segment, exchanged.tcb]
    rfl
  · show c.conn.trace = _
    rw [same]
    show s.conn.trace ++ [_, TcpAction.forged fin s.conn.waiting] = _
    rw [exchanged.quiet, exchanged.trace]

end TcpLife

end ReverseTether
