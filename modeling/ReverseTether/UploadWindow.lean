import ReverseTether.Library.Serial
import ReverseTether.TcpProgress

/-!
# The window the relay advertises

Nothing in the relay sets the window it advertises: the reference header of the packetizer
keeps the one of the client's own SYN.  Nothing ties it to the buffer either.  That the
buffer never overflows follows from what is acknowledged: the bytes the host socket took,
which are those that have left the buffer.

`ClientLink` carries the client along: the segments with the ACK flag go to it in order, and
each is heard or lost.  A client that sends no byte beyond the highest acknowledgement it
heard and the window of that segment (`RespectsWindow`) never finds the buffer full
(`ClientLink.run_hasRoom`).

The invariant is `Advertises`, about all the acknowledgements the client may still go by:
none of them is further behind than the window allows for what is buffered.  A FIN may be
sent at the edge of the window, and is counted again behind bytes that follow it, which is
the one number the window is exceeded by.
-/

namespace ReverseTether

open Library Relation

open TcpConnection (updateHeaders createEmptyResponsePacket tcpHeaderOfPacket)

/-! ## The header of a segment -/

/-- The TCP header a receiver finds in the bytes of a packet. -/
def relayHeader (raw : List UInt8) : TcpHeaderData := .ofRaw (raw.drop (ipv4HeaderLength raw))

namespace Packetizer

variable {p p' : Packetizer} {data : TcpHeaderData}

/-- The TCP header the packets are built from. -/
def tcpData (p : Packetizer) : Option TcpHeaderData :=
  match p.transportHeader.data with
  | .tcp data => some data
  | .udp _ => none

/-- Only a packetizer with a TCP header has TCP data. -/
theorem tcpData_eq_some : p.tcpData = some data ↔
    ∃ header, p.transportHeader = .tcp header ∧ header.data = data := by
  constructor
  · intro isTcp
    unfold tcpData at isTcp
    cases h : p.transportHeader with
    | tcp header =>
        rw [h] at isTcp
        exact ⟨header, rfl, Option.some.inj isTcp⟩
    | udp _ =>
        rw [h] at isTcp
        cases isTcp
  · rintro ⟨header, isTcp, rfl⟩
    rw [tcpData, isTcp]
    rfl

/-- **The TCP header is found behind the two headers of a packet**, whatever payload follows.  So
what the client hears of the window can be read from the packets, with no reference to the state of
the relay. -/
theorem WellFormed.relayHeader_append (wf : p.WellFormed) (reference : p.tcpData = some data)
    (rest : List UInt8) :
    relayHeader (p.ipv4Header.raw ++ p.transportHeader.raw ++ rest) = data := by
  obtain ⟨header, isTcp, rfl⟩ := tcpData_eq_some.mp reference
  have transport : header.WellFormed := by
    have := wf.transport
    rwa [isTcp] at this
  have long := transport.long
  rw [relayHeader, List.append_assoc, wf.ipv4.ipv4HeaderLength_append, List.drop_left, isTcp]
  show TcpHeaderData.ofRaw (header.raw ++ rest) = header.data
  rw [TcpHeaderData.ofRaw_append (by omega), transport.mirrors]

/-- The packet that is built has the reference header. -/
theorem Built.relayHeader {payload : List UInt8} {packet : Ipv4Packet}
    (built : p.Built p' payload packet) (reference : p.tcpData = some data) :
    p'.tcpData = some data ∧ relayHeader packet.raw = data := by
  have same : p'.tcpData = some data := by
    rw [tcpData, built.transportData]
    exact reference
  refine ⟨same, ?_⟩
  rw [built.raw]
  exact built.wellFormed.relayHeader_append same payload

/-- The packet that is in the buffer has it too. -/
theorem WellFormed.relayHeader_inflate (wf : p.WellFormed) (reference : p.tcpData = some data)
    {length : UInt16} (long : p.payloadIndex ≤ length.toNat) :
    relayHeader (p.inflate length).raw = data := by
  obtain ⟨n, total⟩ := Nat.exists_eq_add_of_le long
  show relayHeader (p.buffer.take length.toNat) = data
  rw [total, take_buffer]
  exact wf.relayHeader_append reference _

/-- Setting the header of a segment leaves the window alone. -/
theorem tcpData_updateHeaders {tcb : Tcb} {flags : UInt16} (reference : p.tcpData = some data)
    (updated : updateHeaders p tcb flags = .ok p') :
    p'.tcpData = some { data with
      sequenceNumber := tcb.sequenceNumber
      acknowledgementNumber := tcb.acknowledgementNumber
      flags } := by
  obtain ⟨header, isTcp, rfl⟩ := tcpData_eq_some.mp reference
  unfold updateHeaders at updated
  rw [isTcp] at updated
  obtain ⟨_, known, updated⟩ := bind_eq_ok.mp updated
  cases known
  obtain ⟨h₁, sequenceNumber, updated⟩ := bind_eq_ok.mp updated
  obtain ⟨h₂, acknowledgementNumber, updated⟩ := bind_eq_ok.mp updated
  obtain ⟨h₃, flagged, updated⟩ := bind_eq_ok.mp updated
  cases updated
  obtain ⟨_, -, rest⟩ := bind_eq_ok.mp sequenceNumber
  cases rest
  obtain ⟨_, -, rest⟩ := bind_eq_ok.mp acknowledgementNumber
  cases rest
  obtain ⟨_, -, flagged⟩ := bind_eq_ok.mp flagged
  obtain ⟨_, -, rest⟩ := bind_eq_ok.mp flagged
  cases rest
  rfl

end Packetizer

/-! ## What is acknowledged -/

/-- The relay has sent no SYN yet.  The client has no acknowledgement to go by, and sends nothing
but its SYN. -/
def TcpState.Unanswered (state : TcpState) : Prop := state = .init ∨ state = .synSent

/-- The header, if it has the ACK flag. -/
def TcpHeaderData.acknowledging (header : TcpHeaderData) : List TcpHeaderData :=
  if header.isAck then [header] else []

/-- The right edge of the window. -/
def TcpHeaderData.edge (header : TcpHeaderData) : UInt32 :=
  header.acknowledgementNumber + header.window.toUInt32

/-- The segment with the ACK flag sent to the client in this action. -/
def TcpAction.acknowledgements : TcpAction → List TcpHeaderData
  | .forged raw _ => (relayHeader raw).acknowledging
  | .handed raw => (relayHeader raw).acknowledging
  | .delivered raw => (relayHeader raw).acknowledging
  | _ => []

/-- The segments with the ACK flag sent to the client, in order. -/
def acknowledgements (trace : List TcpAction) : List TcpHeaderData :=
  trace.flatMap TcpAction.acknowledgements

@[simp] theorem acknowledgements_nil : acknowledgements [] = [] := rfl

@[simp] theorem acknowledgements_append (trace : List TcpAction) (action : TcpAction) :
    acknowledgements (trace ++ [action]) = acknowledgements trace ++ action.acknowledgements := by
  simp [acknowledgements]

/-- What the waiting packet will acknowledge. -/
def TcpConnection.awaited (conn : TcpConnection) : List TcpHeaderData :=
  if conn.waiting then conn.networkToClient.tcpData.toList.flatMap TcpHeaderData.acknowledging
  else []

/-- The bytes buffered, and the FIN that waits behind them. -/
def TcpConnection.held (conn : TcpConnection) : ℕ :=
  conn.clientToNetwork.contents.length +
    (conn.tcb.finReceived && !conn.clientToNetwork.isEmpty).toNat

/-- What the client may go by, where the relay has acknowledged up to `acknowledged` and holds
`held` numbers more. -/
structure WithinWindow (window : UInt16) (acknowledged : UInt32) (held : ℕ)
    (known : List TcpHeaderData) : Prop where
  windows : ∀ x ∈ known, x.window = window
  inside : held ≤ window.toNat + 1
  room : ∀ x ∈ known, behind acknowledged x.acknowledgementNumber + held ≤ window.toNat + 1
  sorted : known.Pairwise fun x y =>
    behind acknowledged y.acknowledgementNumber ≤ behind acknowledged x.acknowledgementNumber

namespace WithinWindow

variable {window : UInt16} {acknowledged : UInt32} {held held' : ℕ}
  {known known' : List TcpHeaderData} {header : TcpHeaderData}

/-- A client that has heard nothing goes by nothing. -/
theorem nothing (inside : held ≤ window.toNat + 1) : WithinWindow window acknowledged held [] :=
  ⟨nofun, inside, nofun, .nil⟩

/-- What the client has not heard, or no longer has to hear, is no bound on it. -/
theorem sublist (within : WithinWindow window acknowledged held known)
    (fewer : known'.Sublist known) : WithinWindow window acknowledged held known' :=
  ⟨fun x mem => within.windows x (fewer.subset mem), within.inside,
    fun x mem => within.room x (fewer.subset mem), within.sorted.sublist fewer⟩

/-- The relay acknowledges what it has. -/
theorem acknowledge (within : WithinWindow window acknowledged held known)
    (number : header.acknowledgementNumber = acknowledged) (same : header.window = window) :
    WithinWindow window acknowledged held (known ++ header.acknowledging) := by
  unfold TcpHeaderData.acknowledging
  split
  · have near : behind acknowledged header.acknowledgementNumber = 0 := by
      rw [number, behind_self]
    refine ⟨?_, within.inside, ?_, List.pairwise_append.mpr ⟨within.sorted, ?_, ?_⟩⟩
    · exact List.forall_mem_append.mpr ⟨within.windows, List.forall_mem_singleton.mpr same⟩
    · refine List.forall_mem_append.mpr ⟨within.room, List.forall_mem_singleton.mpr ?_⟩
      rw [near, Nat.zero_add]
      exact within.inside
    · exact List.pairwise_singleton _ _
    · intro x _
      refine List.forall_mem_singleton.mpr ?_
      rw [near]
      exact Nat.zero_le _
  · rwa [List.append_nil]

/-- What is acknowledged leaves the buffer. -/
theorem advance (within : WithinWindow window acknowledged held known) {count : ℕ}
    (left : held' + count ≤ held) :
    WithinWindow window (acknowledged + UInt32.ofNat count) held' known := by
  have small := window.toNat_lt
  have far {x : TcpHeaderData} (mem : x ∈ known) :
      behind (acknowledged + UInt32.ofNat count) x.acknowledgementNumber =
        behind acknowledged x.acknowledgementNumber + count := by
    have room := within.room x mem
    exact behind_add (by omega)
  have inside := within.inside
  refine ⟨within.windows, by omega, fun x mem => ?_, ?_⟩
  · have room := within.room x mem
    rw [far mem]
    omega
  · refine within.sorted.imp_of_mem fun memX memY closer => ?_
    rw [far memX, far memY]
    omega

/-- More can be held as long as there is room behind what is furthest behind. -/
theorem hold (within : WithinWindow window acknowledged held (header :: known))
    (room : behind acknowledged header.acknowledgementNumber + held' ≤ window.toNat + 1) :
    WithinWindow window acknowledged held' (header :: known) := by
  refine ⟨within.windows, by omega, fun x mem => ?_, within.sorted⟩
  rcases List.mem_cons.mp mem with rfl | mem
  · exact room
  · have closer := List.rel_of_pairwise_cons within.sorted mem
    omega

end WithinWindow

/-- **The invariant.**  `front` is what the client may go by apart from what waits. -/
structure Advertises (window : UInt16) (front : List TcpHeaderData) (conn : TcpConnection) :
    Prop where
  forTcp : conn.networkToClient.ForTcp
  reference : ∃ data, conn.networkToClient.tcpData = some data ∧ data.window = window
  whole : ∀ length, conn.packetForClientLength = some length →
    conn.networkToClient.payloadIndex ≤ length.toNat
  within : WithinWindow window conn.tcb.acknowledgementNumber conn.held (front ++ conn.awaited)

namespace Advertises

variable {window : UInt16} {front : List TcpHeaderData}

/-- The invariant depends on this much of a connection. -/
theorem congr {conn conn' : TcpConnection} (inv : Advertises window front conn)
    (networkToClient : conn'.networkToClient = conn.networkToClient)
    (length : conn'.packetForClientLength = conn.packetForClientLength)
    (clientToNetwork : conn'.clientToNetwork = conn.clientToNetwork)
    (acknowledged : conn'.tcb.acknowledgementNumber = conn.tcb.acknowledgementNumber)
    (finReceived : conn'.tcb.finReceived = conn.tcb.finReceived) :
    Advertises window front conn' := by
  have held : conn'.held = conn.held := by
    rw [TcpConnection.held, clientToNetwork, finReceived]
    rfl
  have awaited : conn'.awaited = conn.awaited := by
    rw [TcpConnection.awaited, TcpConnection.waiting, length, networkToClient]
    rfl
  refine ⟨networkToClient ▸ inv.forTcp, networkToClient ▸ inv.reference, ?_, ?_⟩
  · rw [networkToClient, length]
    exact inv.whole
  · rw [acknowledged, held, awaited]
    exact inv.within

/-- **A forged segment** acknowledges what there is, and so does a packet that waits.  So the list
of what the client may go by grows with every segment, and its last member is never ahead of the
connection. -/
theorem reply {c c' : TcpContext} {flags : UInt16} (inv : Advertises window front c.conn)
    (mem : flags ∈ relayFlags) (forged : c.replyEmptyPacketToClient flags = .ok c') :
    ∃ header : TcpHeaderData, header.flags = flags ∧
      acknowledgements c'.conn.trace = acknowledgements c.conn.trace ++ header.acknowledging ∧
      Advertises window (front ++ header.acknowledging) c'.conn := by
  obtain ⟨packet, packetizer, -, created, -, same⟩ := TcpContext.replyEmptyPacketToClient_ok forged
  obtain ⟨data, reference, kept⟩ := inv.reference
  -- the reference header is set, and completed for no payload
  obtain ⟨primed, updated, empty⟩ := bind_eq_ok.mp created
  obtain ⟨_, updated', tcp, -, -, -, index⟩ := inv.forTcp.updateHeaders c.conn.tcb mem
  rw [updated] at updated'
  cases updated'
  obtain ⟨packet', packetizer', empty', built⟩ :=
    tcp.wellFormed.packetizeEmptyPayload tcp.payloadIndex_lt
  rw [empty] at empty'
  cases empty'
  obtain ⟨reference', read⟩ :=
    built.relayHeader (Packetizer.tcpData_updateHeaders reference updated)
  set header : TcpHeaderData := { data with
    sequenceNumber := c.conn.tcb.sequenceNumber
    acknowledgementNumber := c.conn.tcb.acknowledgementNumber
    flags } with hheader
  refine ⟨header, rfl, ?_, ?_⟩
  · rw [same]
    show acknowledgements (c.conn.trace ++ [_]) = _
    rw [acknowledgements_append, TcpAction.acknowledgements, read]
  · rw [same]
    have sent : WithinWindow window c.conn.tcb.acknowledgementNumber c.conn.held
        (front ++ header.acknowledging) :=
      (inv.within.sublist (List.sublist_append_left _ _)).acknowledge rfl kept
    refine ⟨tcp.built built, ⟨header, reference', kept⟩, fun length waits => ?_, ?_⟩
    · show packetizer.payloadIndex ≤ _
      rw [built.payloadIndex, index]
      exact inv.whole length waits
    · show WithinWindow window c.conn.tcb.acknowledgementNumber c.conn.held
        (front ++ header.acknowledging ++ TcpConnection.awaited { c.conn with
          networkToClient := packetizer })
      rw [TcpConnection.awaited]
      split
      · show WithinWindow _ _ _ (_ ++ packetizer.tcpData.toList.flatMap _)
        rw [reference']
        show WithinWindow _ _ _ (_ ++ (header.acknowledging ++ []))
        rw [List.append_nil]
        exact sent.acknowledge rfl kept
      · rw [List.append_nil]
        exact sent

/-- No packet waits, and nothing is awaited. -/
theorem awaited_of_idle {conn : TcpConnection} (idle : conn.packetForClientLength = none) :
    conn.awaited = [] := by
  rw [TcpConnection.awaited, TcpConnection.waiting, idle]
  rfl

/-- Without a waiting packet, what the client may go by is what was sent. -/
theorem within_of_idle {conn : TcpConnection} (idle : conn.packetForClientLength = none) :
    WithinWindow window conn.tcb.acknowledgementNumber conn.held (front ++ conn.awaited) ↔
      WithinWindow window conn.tcb.acknowledgementNumber conn.held front := by
  rw [awaited_of_idle idle, List.append_nil]

/-- A step that acknowledges nothing more. -/
theorem silent {c c' : TcpContext} (inv : Advertises window front c'.conn)
    (trace : acknowledgements c'.conn.trace = acknowledgements c.conn.trace) :
    ∃ new, acknowledgements c'.conn.trace = acknowledgements c.conn.trace ++ new ∧
      Advertises window (front ++ new) c'.conn :=
  ⟨[], by rw [trace, List.append_nil], by rwa [List.append_nil]⟩

/-- With an empty buffer nothing is held, not even a FIN: it waits only behind bytes. -/
theorem held_of_isEmpty {conn : TcpConnection} (empty : conn.clientToNetwork.isEmpty = true) :
    conn.held = 0 := by
  rw [TcpConnection.held, (StreamBuffer.isEmpty_iff _).mp empty, empty, Bool.not_true,
    Bool.and_false]
  rfl

/-- The socket took bytes. -/
theorem written {c : TcpContext} (inv : Advertises window front c.conn) {answer : IoResult ℕ}
    {written : List UInt8} {clientToNetwork : StreamBuffer (4 * maxPacketLength)}
    (wrote : c.conn.clientToNetwork.writeTo answer = (.ok written, clientToNetwork))
    (nonempty : written ≠ []) :
    Advertises window front (c.acknowledge written clientToNetwork).conn ∧
      (c.conn.tcb.finReceived = true → clientToNetwork.isEmpty = true →
        Advertises window front
          (c.acknowledge written clientToNetwork).countReceivedFin.conn) := by
  have contents := StreamBuffer.contents_writeTo wrote
  have lengths := congrArg List.length contents
  rw [List.length_append] at lengths
  have before : c.conn.clientToNetwork.isEmpty = false := by
    rw [StreamBuffer.isEmpty_eq_false_iff, contents]
    exact List.append_ne_nil_of_left_ne_nil nonempty _
  constructor
  · refine ⟨inv.forTcp, inv.reference, inv.whole, inv.within.advance ?_⟩
    show clientToNetwork.contents.length +
      (c.conn.tcb.finReceived && !clientToNetwork.isEmpty).toNat + written.length ≤ c.conn.held
    have fewer : (c.conn.tcb.finReceived && !clientToNetwork.isEmpty).toNat ≤
        (c.conn.tcb.finReceived && !false).toNat := by
      cases c.conn.tcb.finReceived <;> cases clientToNetwork.isEmpty <;> decide
    rw [TcpConnection.held, before]
    omega
  · intro received empty
    have none := congrArg List.length ((StreamBuffer.isEmpty_iff _).mp empty)
    rw [List.length_nil] at none
    have all : 0 + (written.length + 1) ≤ c.conn.held := by
      rw [TcpConnection.held, received, before]
      show _ ≤ _ + 1
      omega
    have fin := inv.within.advance all
    rw [UInt32.ofNat_add, ← UInt32.add_assoc] at fin
    refine ⟨inv.forTcp, inv.reference, inv.whole, ?_⟩
    rw [held_of_isEmpty]
    · exact fin
    · exact empty

/-- A data packet acknowledges what there is, when it reaches the client. -/
theorem receive {c c' : TcpContext} {primed packetizer : Packetizer} {available : List UInt8}
    {packet : Ipv4Packet} (inv : Advertises window front c.conn)
    (idle : c.conn.packetForClientLength = none)
    (updated : updateHeaders c.conn.networkToClient c.conn.tcb (flagAck ||| flagPsh) = .ok primed)
    (packetized : primed.packetizeRead (.ok available) c.receivable =
      .ok (.ok (some packet), packetizer))
    (sent : ({ c with conn := { c.conn with networkToClient := packetizer } }.record
      (.read (primed.chunk available c.receivable))).sendDataToClient packet = .ok c') :
    ∃ new, acknowledgements c'.conn.trace = acknowledgements c.conn.trace ++ new ∧
      Advertises window (front ++ new) c'.conn := by
  obtain ⟨data, reference, kept⟩ := inv.reference
  obtain ⟨tcp, built, -, -⟩ := TcpContext.packetizeRead_segment inv.forTcp updated packetized
  obtain ⟨reference', read⟩ :=
    built.relayHeader (Packetizer.tcpData_updateHeaders reference updated)
  set header : TcpHeaderData := { data with
    sequenceNumber := c.conn.tcb.sequenceNumber
    acknowledgementNumber := c.conn.tcb.acknowledgementNumber
    flags := flagAck ||| flagPsh } with hheader
  have known : WithinWindow window c.conn.tcb.acknowledgementNumber c.conn.held
      (front ++ header.acknowledging) := ((within_of_idle idle).mp inv.within).acknowledge rfl kept
  obtain ⟨_, _, _, -, ⟨_, -, -, same, -⟩ | ⟨-, same, -⟩⟩ := TcpContext.sendDataToClient_ok sent
  · refine ⟨header.acknowledging, ?_, ?_⟩
    · rw [same]
      show acknowledgements (c.conn.trace ++ [_] ++ [_]) = _
      rw [acknowledgements_append, acknowledgements_append]
      show acknowledgements c.conn.trace ++ [] ++ (relayHeader packet.raw).acknowledging = _
      rw [read, List.append_nil]
    · rw [same]
      refine ⟨tcp, ⟨header, reference', kept⟩, fun length waits => ?_, ?_⟩
      · exact absurd (idle.symm.trans waits) nofun
      · refine (within_of_idle ?_).mpr known
        exact idle
  · -- it waits, and is what the client may go by behind everything else
    refine ⟨[], ?_, ?_⟩
    · rw [same]
      show acknowledgements (c.conn.trace ++ [_] ++ [_]) = _
      rw [acknowledgements_append, acknowledgements_append]
      exact congrArg (· ++ _) (List.append_nil _)
    · rw [same, List.append_nil]
      refine ⟨tcp, ⟨header, reference', kept⟩, fun length waits => ?_, ?_⟩
      · cases waits
        show packetizer.payloadIndex ≤ packet.length.toNat
        rw [built.length, UInt16.toNat_ofNat', Nat.mod_eq_of_lt built.fits, built.payloadIndex]
        exact Nat.le_add_right _ _
      · show WithinWindow window c.conn.tcb.acknowledgementNumber c.conn.held
          (front ++ packetizer.tcpData.toList.flatMap TcpHeaderData.acknowledging)
        rw [reference']
        show WithinWindow _ _ _ (front ++ (header.acknowledging ++ []))
        rw [List.append_nil]
        exact known

/-- **Every move keeps the window.**  A move that sends a segment acknowledges the number the
connection stands at; one that takes bytes for the host out of the buffer only leaves more room. -/
theorem move {may : TcpWork → Prop} {c c' : TcpContext} (inv : Advertises window front c.conn)
    (h : TcpMove may c c') :
    ∃ new, acknowledgements c'.conn.trace = acknowledgements c.conn.trace ++ new ∧
      Advertises window (front ++ new) c'.conn := by
  cases h with
  | touch now => exact silent (c := c) (inv.congr rfl rfl rfl rfl rfl) rfl
  | interests updated =>
      obtain ⟨-, same, -⟩ := TcpContext.updateInterests_ok updated
      refine silent ?_ ?_ <;> rw [same]
      exact inv.congr rfl rfl rfl rfl rfl
  | prime _ idle updated =>
      obtain ⟨data, reference, kept⟩ := inv.reference
      obtain ⟨_, updated', tcp, -⟩ :=
        inv.forTcp.updateHeaders c.conn.tcb (show flagAck ||| flagPsh ∈ relayFlags by decide)
      rw [updated] at updated'
      cases updated'
      refine silent (c := c) ⟨tcp, ⟨_, Packetizer.tcpData_updateHeaders reference updated, kept⟩,
        fun length waits => (by cases idle.symm.trans waits), ?_⟩ rfl
      refine (within_of_idle ?_).mpr ((within_of_idle idle).mp inv.within)
      exact idle
  | forge plain forged =>
      obtain ⟨header, -, sent, inv'⟩ := inv.reply (by rcases plain with rfl | rfl <;> decide) forged
      exact ⟨_, sent, inv'⟩
  | close =>
      refine silent (c := c) (inv.congr rfl rfl rfl rfl rfl) ?_
      exact (acknowledgements_append _ _).trans (List.append_nil _)
  | removeFromRouter => exact silent (c := c) inv rfl
  | connect _ _ forged =>
      have opening : Advertises window front
          (c.withTcb fun tcb => { tcb with state := .synReceived }).conn :=
        inv.congr rfl rfl rfl rfl rfl
      obtain ⟨header, -, sent, inv'⟩ := opening.reply (by decide) forged
      exact ⟨_, sent, inv'.congr rfl rfl rfl rfl rfl⟩
  | write _ _ wrote nonempty _ =>
      refine silent (c := c) (inv.written wrote nonempty).1 ?_
      exact (acknowledgements_append _ _).trans (List.append_nil _)
  | writeLast _ _ wrote nonempty received empty =>
      refine silent (c := c) ((inv.written wrote nonempty).2 received empty) ?_
      show acknowledgements (c.conn.trace ++ [_] ++ [_]) = _
      rw [acknowledgements_append, acknowledgements_append]
      exact (List.append_nil _).trans (List.append_nil _)
  | receive _ _ idle updated packetized sent => exact inv.receive idle updated packetized sent
  | eof _ _ ended =>
      obtain ⟨c₁, forged, rest⟩ := bind_eq_ok.mp ended
      cases rest
      have found : Advertises window front (c.record .readEof).conn :=
        inv.congr rfl rfl rfl rfl rfl
      obtain ⟨header, -, sent, inv'⟩ := found.reply (by decide) forged
      refine ⟨header.acknowledging, sent.trans ?_, inv'.congr rfl rfl rfl rfl rfl⟩
      exact congrArg (· ++ _) ((acknowledgements_append _ _).trans (List.append_nil _))
  | answerFin _ forged =>
      obtain ⟨header, -, sent, inv'⟩ := inv.reply (by decide) forged
      exact ⟨_, sent, inv'.congr rfl rfl rfl rfl rfl⟩
  | closing _ => exact silent (c := c) (inv.congr rfl rfl rfl rfl rfl) rfl
  | finAcked _ => exact silent (c := c) (inv.congr rfl rfl rfl rfl rfl) rfl
  | @deliver length _ waits =>
      obtain ⟨data, reference, kept⟩ := inv.reference
      have read := inv.forTcp.wellFormed.relayHeader_inflate reference (inv.whole length waits)
      have awaited : c.conn.awaited = data.acknowledging := by
        rw [TcpConnection.awaited, TcpConnection.waiting, waits, reference]
        exact List.append_nil _
      refine ⟨data.acknowledging, ?_, inv.forTcp, ⟨data, reference, kept⟩, fun _ none => (by cases none), ?_⟩
      · show acknowledgements (c.conn.trace ++ [_]) = _
        rw [acknowledgements_append, TcpAction.acknowledgements, read]
      · have before := inv.within
        rw [awaited] at before
        exact (within_of_idle rfl).mpr before

/-- The same for a sequence of moves. -/
theorem moves {may : TcpWork → Prop} {c c' : TcpContext} (inv : Advertises window front c.conn)
    (h : TcpMoves may c c') :
    ∃ new, acknowledgements c'.conn.trace = acknowledgements c.conn.trace ++ new ∧
      Advertises window (front ++ new) c'.conn := by
  induction h with
  | refl => exact silent inv rfl
  | tail _ last ih =>
      obtain ⟨new, sent, inv'⟩ := ih
      obtain ⟨new', sent', inv''⟩ := inv'.move last
      refine ⟨new ++ new', ?_, ?_⟩
      · rw [sent', sent, List.append_assoc]
      · rwa [← List.append_assoc]

end Advertises

/-! ## A client that keeps to the window -/

/-- No byte of a segment with `length` bytes is beyond the window of `highest`, and no FIN
beyond its edge. -/
structure InsideWindow (highest : Option TcpHeaderData) (header : TcpHeaderData) (length : ℕ) :
    Prop where
  bytes : ∀ i < length, ∃ heard, highest = some heard ∧
    Precedes (header.sequenceNumber + UInt32.ofNat i) heard.edge
  fin : header.isFin = true → ∃ heard, highest = some heard ∧
    Precedes (header.sequenceNumber + UInt32.ofNat length) (heard.edge + 1)

namespace Advertises

variable {window : UInt16} {highest : Option TcpHeaderData} {rest : List TcpHeaderData}

/-- **A segment that keeps to the window** and begins where the relay stands ends inside it.  The
end is counted from the acknowledgement that the client has heard last, and the connection has not
freed less since. -/
theorem fits {conn : TcpConnection} {header : TcpHeaderData} {length : ℕ}
    (inv : Advertises window (highest.toList ++ rest) conn)
    (keeps : InsideWindow highest header length)
    (expected : header.sequenceNumber = conn.expectedPacket)
    (occupied : 0 < length ∨ header.isFin = true) :
    ∃ heard, highest = some heard ∧
      behind conn.tcb.acknowledgementNumber heard.acknowledgementNumber +
        conn.clientToNetwork.contents.length + length ≤ window.toNat := by
  have small := window.toNat_lt
  -- the segment as a stretch behind the acknowledgement that was heard
  have place {heard : TcpHeaderData} (is : highest = some heard) :
      behind conn.tcb.acknowledgementNumber heard.acknowledgementNumber +
          conn.clientToNetwork.contents.length ≤ window.toNat + 1 ∧
        heard.edge = heard.acknowledgementNumber + UInt32.ofNat window.toNat ∧
        ∀ i, header.sequenceNumber + UInt32.ofNat i = heard.acknowledgementNumber +
          UInt32.ofNat (behind conn.tcb.acknowledgementNumber heard.acknowledgementNumber +
            conn.clientToNetwork.contents.length + i) := by
    have mem : heard ∈ highest.toList ++ rest ++ conn.awaited := by
      rw [is]
      exact List.mem_append_left _ (List.mem_append_left _ (List.mem_singleton_self _))
    have room := inv.within.room heard mem
    rw [TcpConnection.held] at room
    refine ⟨by omega, ?_, fun i => ?_⟩
    · rw [TcpHeaderData.edge, inv.within.windows heard mem, ← UInt16.toNat_toUInt32,
        UInt32.ofNat_toNat]
    · rw [UInt32.ofNat_add, UInt32.ofNat_add, ← UInt32.add_assoc, ← UInt32.add_assoc, add_behind,
        expected, TcpConnection.expectedPacket, StreamBuffer.length_contents]
  have bytes (nonempty : 0 < length) : ∃ heard, highest = some heard ∧
      behind conn.tcb.acknowledgementNumber heard.acknowledgementNumber +
        conn.clientToNetwork.contents.length + length ≤ window.toNat := by
    obtain ⟨heard, is, -⟩ := keeps.bytes 0 nonempty
    obtain ⟨near, edge, number⟩ := place is
    refine ⟨heard, is, @add_length_le heard.acknowledgementNumber _ _ _ near (by omega) nonempty
      fun i inside => ?_⟩
    obtain ⟨heard', is', precedes⟩ := keeps.bytes i inside
    rw [is] at is'
    cases is'
    rw [number, edge] at precedes
    exact precedes
  rcases occupied with nonempty | isFin
  · exact bytes nonempty
  · obtain ⟨heard, is, precedes⟩ := keeps.fin isFin
    obtain ⟨near, edge, number⟩ := place is
    have inside : behind conn.tcb.acknowledgementNumber heard.acknowledgementNumber +
        conn.clientToNetwork.contents.length + length ≤ window.toNat + 1 := by
      rcases Nat.eq_zero_or_pos length with none | nonempty
      · rw [none]
        exact near
      · obtain ⟨heard', is', fits⟩ := bytes nonempty
        rw [is] at is'
        cases is'
        exact Nat.le_succ_of_le fits
    have limit : heard.edge + 1 =
        heard.acknowledgementNumber + UInt32.ofNat (window.toNat + 1) := by
      rw [edge, UInt32.add_assoc, UInt32.ofNat_add]
      rfl
    rw [number, limit, precedes_iff (by omega) (by omega)] at precedes
    exact ⟨heard, is, Nat.le_of_lt_succ precedes⟩

/-- More is held, behind what the client heard. -/
theorem hold {conn conn' : TcpConnection} {heard : TcpHeaderData}
    (inv : Advertises window (highest.toList ++ rest) conn) (is : highest = some heard)
    (room : behind conn.tcb.acknowledgementNumber heard.acknowledgementNumber + conn'.held ≤
      window.toNat + 1)
    (networkToClient : conn'.networkToClient = conn.networkToClient)
    (length : conn'.packetForClientLength = conn.packetForClientLength)
    (acknowledged : conn'.tcb.acknowledgementNumber = conn.tcb.acknowledgementNumber) :
    Advertises window (highest.toList ++ rest) conn' := by
  have awaited : conn'.awaited = conn.awaited := by
    rw [TcpConnection.awaited, TcpConnection.waiting, length, networkToClient]
    rfl
  refine ⟨networkToClient ▸ inv.forTcp, networkToClient ▸ inv.reference, ?_, ?_⟩
  · rw [networkToClient, length]
    exact inv.whole
  · have before := inv.within
    rw [is] at before ⊢
    rw [acknowledged, awaited]
    exact before.hold room

/-- The FIN takes one number behind the bytes. -/
theorem held_le (conn : TcpConnection) : conn.held ≤ conn.clientToNetwork.contents.length + 1 :=
  Nat.add_le_add_left (Bool.toNat_le _) _

/-- The FIN is noted. -/
theorem noteFin {c : TcpContext} {heard : TcpHeaderData}
    (inv : Advertises window (highest.toList ++ rest) c.conn) (is : highest = some heard)
    (room : behind c.conn.tcb.acknowledgementNumber heard.acknowledgementNumber +
      c.conn.clientToNetwork.contents.length ≤ window.toNat) :
    acknowledgements c.noteFin.conn.trace = acknowledgements c.conn.trace ∧
      Advertises window (highest.toList ++ rest) c.noteFin.conn := by
  rcases c.noteFin_ok with ⟨empty, same⟩ | ⟨nonempty, same⟩
  · rw [same]
    refine ⟨(acknowledgements_append _ _).trans (List.append_nil _), inv.forTcp, inv.reference,
      inv.whole, ?_⟩
    -- the FIN is held, and acknowledged at once
    have before := inv.within
    rw [is] at before ⊢
    have fin := @WithinWindow.hold _ _ _ 1 _ _ before (by omega)
    have acknowledged := @WithinWindow.advance _ _ _ 0 _ fin 1 le_rfl
    rw [held_of_isEmpty]
    · exact acknowledged
    · exact empty
  · rw [same]
    refine ⟨rfl, inv.hold is ?_ rfl rfl rfl⟩
    have most := held_le { c.conn with tcb := { c.conn.tcb with finReceived := true } }
    change _ ≤ c.conn.clientToNetwork.contents.length + 1 at most
    omega

/-- The acknowledgement part of an expected segment. -/
theorem ackPart {packet : Ipv4Packet} {header : TcpHeaderData} {payload : List UInt8}
    {c c' : TcpContext} (inv : Advertises window (highest.toList ++ rest) c.conn)
    (keeps : InsideWindow highest header payload.length)
    (expected : header.sequenceNumber = c.conn.expectedPacket)
    (carried : packet.payload = .ok (some payload))
    (acked : (if header.isAck then (c.noteWindow header).handleAck packet
      else .ok (c.noteWindow header)) = .ok c') :
    acknowledgements c'.conn.trace = acknowledgements c.conn.trace ∧
      Advertises window (highest.toList ++ rest) c'.conn ∧
      c'.conn.tcb.acknowledgementNumber = c.conn.tcb.acknowledgementNumber ∧
      c'.conn.clientToNetwork.contents.length ≤
        c.conn.clientToNetwork.contents.length + payload.length := by
  rcases ackPart_ok acked with ⟨-, -, same⟩ | ⟨same, -⟩ |
    ⟨payload', clientToNetwork, carried', stored, same⟩
  · rw [same]
    exact ⟨rfl, inv.congr rfl rfl rfl rfl rfl, rfl, Nat.le_add_right _ _⟩
  · rw [same]
    exact ⟨rfl, inv.congr rfl rfl rfl rfl rfl, rfl, Nat.le_add_right _ _⟩
  · rw [carried] at carried'
    cases carried'
    have contents := congrArg List.length (StreamBuffer.contents_readFrom stored)
    rw [List.length_append] at contents
    rw [same]
    refine ⟨rfl, ?_, rfl, contents.le⟩
    rcases Nat.eq_zero_or_pos payload.length with none | nonempty
    · have same : clientToNetwork.contents = c.conn.clientToNetwork.contents := by
        rw [StreamBuffer.contents_readFrom stored, List.eq_nil_of_length_eq_zero none,
          List.append_nil]
      have held : TcpConnection.held { (c.noteWindow header).conn with clientToNetwork } =
          c.conn.held := by
        have empty : clientToNetwork.isEmpty = c.conn.clientToNetwork.isEmpty := by
          rw [Bool.eq_iff_iff, StreamBuffer.isEmpty_iff, StreamBuffer.isEmpty_iff, same]
        rw [TcpConnection.held, same, empty]
        rfl
      refine ⟨inv.forTcp, inv.reference, inv.whole, ?_⟩
      rw [held]
      exact inv.within
    · obtain ⟨heard, is, fits⟩ := inv.fits keeps expected (.inl nonempty)
      refine inv.hold is ?_ rfl rfl rfl
      have most := held_le { (c.noteWindow header).conn with clientToNetwork }
      change _ ≤ clientToNetwork.contents.length + 1 at most
      omega

/-- **Every arrival** of a segment that keeps to the window.  Before the SYN is answered there is
nothing to go by.  The invariant is about what the connection has told the client, and a segment of
the client tells nothing, so only the room has to be looked at. -/
theorem arrival {packet : Ipv4Packet} {header : TcpHeaderData} {random : UInt32}
    {payload : List UInt8} {c c' : TcpContext}
    (inv : Advertises window (highest.toList ++ rest) c.conn)
    (unanswered : c.conn.tcb.state.Unanswered → highest.toList ++ rest ++ c.conn.awaited = [])
    (carried : packet.payload = .ok (some payload))
    (keeps : header.isSyn = false → InsideWindow highest header payload.length)
    (h : TcpArrival packet header random c c') :
    acknowledgements c'.conn.trace = acknowledgements c.conn.trace ∧
      Advertises window (highest.toList ++ rest) c'.conn := by
  have restart {conn' : TcpConnection} (early : c.conn.tcb.state.Unanswered)
      (networkToClient : conn'.networkToClient = c.conn.networkToClient)
      (length : conn'.packetForClientLength = c.conn.packetForClientLength)
      (held : conn'.held = c.conn.held) : Advertises window (highest.toList ++ rest) conn' := by
    have awaited : conn'.awaited = c.conn.awaited := by
      rw [TcpConnection.awaited, TcpConnection.waiting, length, networkToClient]
      rfl
    refine ⟨networkToClient ▸ inv.forTcp, networkToClient ▸ inv.reference, ?_, ?_⟩
    · rw [networkToClient, length]
      exact inv.whole
    · rw [awaited, unanswered early, held]
      exact .nothing inv.within.inside
  cases h with
  | opened init _ =>
      exact ⟨(acknowledgements_append _ _).trans (List.append_nil _),
        restart (.inl init) rfl rfl rfl⟩
  | refused _ _ => exact ⟨rfl, inv.congr rfl rfl rfl rfl rfl⟩
  | reopened synSent _ => exact ⟨rfl, restart (.inr synSent) rfl rfl rfl⟩
  | lateSyn _ _ _ => exact ⟨rfl, inv⟩
  | ignored _ _ _ => exact ⟨rfl, inv⟩
  | reset _ _ _ _ => exact ⟨rfl, inv.congr rfl rfl rfl rfl rfl⟩
  | expected _ noSyn expected _ ackPart =>
      obtain ⟨silent, inv', acknowledged, length⟩ :=
        inv.ackPart (keeps noSyn) expected carried ackPart
      split
      · rename_i isFin
        obtain ⟨heard, is, fits⟩ := inv.fits (keeps noSyn) expected (.inr isFin)
        obtain ⟨silent', inv''⟩ := inv'.noteFin is (by rw [acknowledged]; omega)
        exact ⟨silent'.trans silent, inv''⟩
      · exact ⟨silent, inv'⟩

end Advertises

/-! ## Before the SYN is answered -/

/-- Nothing is acknowledged before the SYN is answered, and nothing waits to be sent. -/
def TcpConnection.Quiet (conn : TcpConnection) : Prop :=
  conn.tcb.state.Unanswered → acknowledgements conn.trace = [] ∧
    conn.packetForClientLength = none ∧
    (conn.tcb.state = .init → conn.clientToNetwork.isEmpty = true)

/-- The answer to the SYN is final. -/
theorem TcpMove.answered {may : TcpWork → Prop} {c c' : TcpContext}
    (answered : ¬ c.conn.tcb.state.Unanswered) (h : TcpMove may c c') :
    ¬ c'.conn.tcb.state.Unanswered := by
  cases h with
  | interests updated =>
      obtain ⟨-, same, -⟩ := TcpContext.updateInterests_ok updated
      rw [same]
      exact answered
  | forge _ forged =>
      obtain ⟨_, _, _, -, -, same⟩ := TcpContext.replyEmptyPacketToClient_ok forged
      rw [same]
      exact answered
  | connect _ synSent _ => exact absurd (.inr synSent) answered
  | receive _ _ _ _ _ sent =>
      obtain ⟨_, _, _, -, ⟨_, -, -, same, -⟩ | ⟨-, same, -⟩⟩ := TcpContext.sendDataToClient_ok sent
      · rw [same]
        exact answered
      · rw [same]
        exact answered
  | eof _ _ ended =>
      obtain ⟨_, -, rest⟩ := bind_eq_ok.mp ended
      cases rest
      show ¬ TcpState.Unanswered (if _ then _ else _)
      split <;> rintro (_ | _) <;> contradiction
  | answerFin _ _ => rintro (_ | _) <;> contradiction
  | closing _ => rintro (_ | _) <;> contradiction
  | finAcked _ => rintro (_ | _) <;> contradiction
  | _ => exact answered

/-- A connection that has answered its SYN does not come back before it. -/
theorem TcpMoves.answered {may : TcpWork → Prop} {c c' : TcpContext}
    (answered : ¬ c.conn.tcb.state.Unanswered) (h : TcpMoves may c c') :
    ¬ c'.conn.tcb.state.Unanswered := by
  induction h with
  | refl => exact answered
  | tail _ last ih => exact last.answered ih

/-- Neither does a packet of the client bring it back. -/
theorem TcpArrival.answered {packet : Ipv4Packet} {header : TcpHeaderData} {random : UInt32}
    {c c' : TcpContext} (answered : ¬ c.conn.tcb.state.Unanswered)
    (h : TcpArrival packet header random c c') : ¬ c'.conn.tcb.state.Unanswered := by
  cases h with
  | opened init _ => exact absurd (.inl init) answered
  | expected _ _ _ _ ackPart =>
      have acked {c₁ : TcpContext}
          (h : (if header.isAck then (c.noteWindow header).handleAck packet
            else .ok (c.noteWindow header)) = .ok c₁) : ¬ c₁.conn.tcb.state.Unanswered := by
        rcases ackPart_ok h with ⟨-, -, same⟩ | ⟨same, -⟩ | ⟨_, _, -, -, same⟩
        · rw [same]
          rintro (_ | _) <;> contradiction
        · rw [same]
          exact answered
        · rw [same]
          exact answered
      split
      · rw [TcpContext.noteFin_state]
        exact acked ackPart
      · exact acked ackPart
  | _ => exact answered

namespace TcpConnection.Quiet

variable {window : UInt16} {front : List TcpHeaderData} {c c' : TcpContext}

/-- Behind the answer to the SYN nothing is asked for. -/
theorem of_answered {conn : TcpConnection} (answered : ¬ conn.tcb.state.Unanswered) : conn.Quiet :=
  fun unanswered => absurd unanswered answered

theorem congr {conn conn' : TcpConnection} (quiet : conn.Quiet)
    (state : conn'.tcb.state = conn.tcb.state)
    (trace : acknowledgements conn'.trace = acknowledgements conn.trace)
    (length : conn'.packetForClientLength = conn.packetForClientLength)
    (clientToNetwork : conn'.clientToNetwork = conn.clientToNetwork) : conn'.Quiet := by
  intro unanswered
  rw [state] at unanswered ⊢
  rw [trace, length, clientToNetwork]
  exact quiet unanswered

/-- Closing acknowledges nothing. -/
theorem close (quiet : c.conn.Quiet) : c.close.conn.Quiet :=
  quiet.congr rfl ((acknowledgements_append _ _).trans (List.append_nil _)) rfl rfl

/-- Registering the interests acknowledges nothing. -/
theorem interests (quiet : c.conn.Quiet) (updated : c.updateInterests = .ok c') :
    c'.conn.Quiet := by
  obtain ⟨-, same, -⟩ := TcpContext.updateInterests_ok updated
  rw [same]
  exact quiet.congr rfl rfl rfl rfl

/-- A RST acknowledges nothing. -/
theorem reset (inv : Advertises window front c.conn) (quiet : c.conn.Quiet)
    (forged : c.replyEmptyPacketToClient flagRst = .ok c') : c'.conn.Quiet := by
  obtain ⟨header, flags, trace, -⟩ := inv.reply (by decide) forged
  have none : header.acknowledging = [] := by
    rw [TcpHeaderData.acknowledging, TcpHeaderData.isAck, flags]
    exact if_neg (by decide)
  rw [none, List.append_nil] at trace
  obtain ⟨_, _, _, -, -, same⟩ := TcpContext.replyEmptyPacketToClient_ok forged
  rw [same] at trace ⊢
  exact quiet.congr rfl trace rfl rfl

/-- A FIN is only noted. -/
theorem handleFin (quiet : c.conn.Quiet) (unanswered : c.conn.tcb.state.Unanswered)
    (h : c.handleFin = .ok c') : c'.conn.Quiet := by
  unfold TcpContext.handleFin at h
  simp only at h
  split at h
  · unfold TcpContext.doHandleFin at h
    simp only at h
    change (if c.conn.tcb.state = .established then _ else
      if c.conn.tcb.state = .finWait1 then _ else if c.conn.tcb.state = .finWait2 then _ else _) =
        Except.ok c' at h
    rw [if_neg, if_neg, if_neg] at h
    · cases h
      exact quiet.congr rfl ((acknowledgements_append _ _).trans (List.append_nil _)) rfl rfl
    all_goals
      rcases unanswered with init | synSent
      · rw [init]
        exact nofun
      · rw [synSent]
        exact nofun
  · cases h
    exact quiet.congr rfl rfl rfl rfl

/-- The acknowledgement of a FIN ends these states or leaves the connection as it is. -/
theorem handleFinAck (quiet : c.conn.Quiet) : c.handleFinAck.conn.Quiet := by
  unfold TcpContext.handleFinAck
  split
  · exact quiet.close
  · split
    · exact of_answered (by rintro (_ | _) <;> contradiction)
    · exact quiet

/-- A packet of the client is not acknowledged before the SYN is answered. -/
theorem handlePacket {packet : Ipv4Packet} {random : UInt32} {overflowChecks : Bool}
    (inv : Advertises window front c.conn) (quiet : c.conn.Quiet)
    (unanswered : c.conn.tcb.state.Unanswered)
    (h : c.handlePacket packet random overflowChecks = .ok c') : c'.conn.Quiet := by
  obtain ⟨header, tcp, h⟩ := bind_eq_ok.mp h
  simp only at h
  obtain ⟨silent, idle, empty⟩ := quiet unanswered
  split at h
  · obtain ⟨header', tcp', h⟩ := bind_eq_ok.mp h
    rw [tcp] at tcp'
    cases tcp'
    split at h
    · cases h
      refine fun _ => ⟨?_, idle, nofun⟩
      exact (acknowledgements_append _ _).trans ((List.append_nil _).trans silent)
    · obtain ⟨c₁, forged, rest⟩ := bind_eq_ok.mp h
      cases rest
      refine TcpConnection.Quiet.close (@reset window front _ _ ?_ ?_ forged)
      · exact inv.congr rfl rfl rfl rfl rfl
      · exact quiet.congr rfl rfl rfl rfl
  · rename_i later
    split at h
    · obtain ⟨header', -, h⟩ := bind_eq_ok.mp h
      simp only at h
      split at h
      · cases h
        exact quiet.congr rfl rfl rfl rfl
      · split at h
        · obtain ⟨c₁, forged, rest⟩ := bind_eq_ok.mp h
          cases rest
          exact (reset inv quiet forged).close
        · cases h
          exact quiet
    · split at h
      · cases h
        exact quiet
      · split at h
        · cases h
          exact TcpConnection.Quiet.close (quiet.congr rfl rfl rfl rfl)
        · obtain ⟨acked, ackPart, h⟩ := bind_eq_ok.mp h
          obtain ⟨c₂, finPart, h⟩ := bind_eq_ok.mp h
          have quiet₁ : acked.conn.Quiet ∧ acked.conn.tcb.state.Unanswered := by
            rcases ackPart_ok ackPart with ⟨synReceived, -⟩ | ⟨same, -⟩ | ⟨_, _, -, -, same⟩
            · rw [synReceived] at unanswered
              rcases unanswered with _ | _ <;> contradiction
            · rw [same]
              exact ⟨quiet.congr rfl rfl rfl rfl, unanswered⟩
            · rw [same]
              exact ⟨fun _ => ⟨silent, idle, fun init => absurd init later⟩, unanswered⟩
          have quiet₂ : c₂.conn.Quiet := by
            split at finPart
            · exact quiet₁.1.handleFin quiet₁.2 finPart
            · cases finPart
              exact quiet₁.1
          split at h
          · cases h
            exact quiet₂
          · obtain ⟨number, -, h⟩ := bind_eq_ok.mp h
            split at h
            · cases h
              exact quiet₂.handleFinAck
            · cases h
              exact quiet₂

/-- **A packet of the client does not break the silence** before the SYN is answered, unless it
leads out of these states.  In them the connection has promised nothing, and a segment of the
client makes it promise nothing. -/
theorem sendToNetwork {packet : Ipv4Packet} {random : UInt32} {overflowChecks : Bool}
    {now : Instant} (inv : Advertises window front c.conn) (quiet : c.conn.Quiet)
    (unanswered : c.conn.tcb.state.Unanswered)
    (h : c.sendToNetwork (.ipv4 packet) random overflowChecks now = .ok c') : c'.conn.Quiet := by
  obtain ⟨c₁, handled, h⟩ := bind_eq_ok.mp h
  have quiet₁ : c₁.conn.Quiet := handlePacket (c := { c with conn := c.conn.touch now })
    (inv.congr rfl rfl rfl rfl rfl) (quiet.congr rfl rfl rfl rfl) unanswered handled
  split at h
  · cases h
    exact quiet₁
  · exact quiet₁.interests h

/-- The first event connects the socket, or gives it up. -/
theorem processWritable {answers : SocketAnswers} {result : IoResult Unit}
    (inv : Advertises window front c.conn) (quiet : c.conn.Quiet)
    (unanswered : c.conn.tcb.state.Unanswered)
    (h : c.processWritable answers = .ok (result, c')) : c'.conn.Quiet := by
  unfold TcpContext.processWritable at h
  split at h
  · obtain ⟨c₁, connected, rest⟩ := bind_eq_ok.mp h
    cases rest
    unfold TcpContext.processConnect at connected
    split at connected
    · cases connected
    · split at connected
      · obtain ⟨c₂, forged, rest⟩ := bind_eq_ok.mp connected
        cases rest
        exact (reset inv quiet forged).close
      all_goals
        obtain ⟨c₂, forged, rest⟩ := bind_eq_ok.mp connected
        cases rest
        obtain ⟨_, _, _, -, -, same⟩ := TcpContext.replyEmptyPacketToClient_ok forged
        refine of_answered ?_
        show ¬ c₂.conn.tcb.state.Unanswered
        rw [same]
        rintro (_ | _) <;> contradiction
  · rename_i notSynSent
    have init : c.conn.tcb.state = .init := unanswered.resolve_right notSynSent
    obtain ⟨-, -, empty⟩ := quiet unanswered
    unfold TcpContext.processSend at h
    rw [StreamBuffer.writeTo_of_isEmpty (empty init)] at h
    cases h
    exact quiet.close

/-- Neither does an event of the socket that has nothing to read: the connection completes, or the
buffer, which is empty, is written. -/
theorem onReady {ready : Ready} {answers : SocketAnswers} {now : Instant}
    (inv : Advertises window front c.conn) (quiet : c.conn.Quiet)
    (unanswered : c.conn.tcb.state.Unanswered) (unreadable : ready.isReadable = false)
    (h : c.onReady ready answers now = .ok c') : c'.conn.Quiet := by
  set touched : TcpContext := { c with conn := c.conn.touch now } with htouched
  have invT : Advertises window front touched.conn := inv.congr rfl rfl rfl rfl rfl
  have quietT : touched.conn.Quiet := quiet.congr rfl rfl rfl rfl
  have writable {result : IoResult Unit} {c₁ : TcpContext}
      (h : (if ready.isWritable then touched.processWritable answers else .ok (.ok (), touched)) =
        .ok (result, c₁)) : c₁.conn.Quiet := by
    split at h
    · exact processWritable invT quietT unanswered h
    · cases h
      exact quietT
  have readied {result : IoResult Unit} {c₁ : TcpContext}
      (h : touched.processReady ready answers = .ok (result, c₁)) : c₁.conn.Quiet := by
    rcases orReturn_eq_ok.mp h with ⟨c₂, sent, h⟩ | ⟨err, c₂, sent, rest⟩
    · rw [unreadable, if_neg (by rintro ⟨-, readable⟩; cases readable)] at h
      rcases orReturn_eq_ok.mp h with ⟨c₃, received, h⟩ | ⟨err, c₃, received, rest⟩
      · cases received
        obtain ⟨c₄, updated, rest⟩ := bind_eq_ok.mp h
        cases rest
        split at updated
        · cases updated
          exact writable sent
        · exact (writable sent).interests updated
      · cases received
    · cases rest
      exact writable sent
  have hup {c₁ : TcpContext} (h : touched.processHup = .ok c₁) : c₁.conn.Quiet := by
    obtain ⟨c₂, replied, rest⟩ := bind_eq_ok.mp h
    cases rest
    split at replied
    · exact (reset invT quietT replied).close
    · cases replied
      exact quietT.close
  obtain ⟨⟨result, c₁⟩, processed, h⟩ := bind_eq_ok.mp h
  have quiet₁ : c₁.conn.Quiet := by
    unfold TcpContext.process at processed
    split at processed
    · cases processed
      exact quiet
    · have body {result : IoResult Unit} {c₂ : TcpContext}
          (h : (if ready.isReadable ∨ ready.isWritable then touched.processReady ready answers
            else do return (.ok (), ← touched.processHup)) = .ok (result, c₂)) :
          c₂.conn.Quiet := by
        split at h
        · exact readied h
        · obtain ⟨c₃, hungUp, rest⟩ := bind_eq_ok.mp h
          cases rest
          exact hup hungUp
      rcases orReturn_eq_ok.mp processed with ⟨c₂, happened, rest⟩ | ⟨err, c₂, happened, rest⟩
      · cases rest
        have quiet₂ : c₂.conn.Quiet := body happened
        split
        · exact quiet₂
        · exact quiet₂
      · cases rest
        exact body happened
  cases result with
  | ok _ =>
      cases h
      exact quiet₁
  | error err =>
      cases err with
      | wouldBlock =>
          cases h
          exact quiet₁
      | other =>
          cases h
          show TcpConnection.Quiet (if _ then _ else _ : TcpContext).conn
          split
          · exact quiet₁
          · exact quiet₁.close

/-- The connection that expires answers its SYN with a RST, and is closed. -/
theorem expire (inv : Advertises window front c.conn) (quiet : c.conn.Quiet)
    (h : c.expire = .ok c') : c'.conn.Quiet := by
  unfold TcpContext.expire at h
  split at h
  · obtain ⟨c₁, forged, rest⟩ := bind_eq_ok.mp h
    cases rest
    exact (reset inv quiet forged).close
  · cases h
    exact quiet.close

end TcpConnection.Quiet

/-! ## Step by step -/

namespace TcpLife

variable {window : UInt16} {s s' : TcpLife} {l : Label}

/-- No step before the SYN is answered acknowledges anything. -/
theorem step_quiet {front : List TcpHeaderData} (inv : Advertises window front s.conn)
    (reads : s.ReadsConnected) (quiet : s.conn.Quiet) (step : Step s l s') : s'.conn.Quiet := by
  by_cases unanswered : s.conn.tcb.state.Unanswered
  · cases step with
    | packet sent =>
        exact @TcpConnection.Quiet.sendToNetwork window front _ _ _ _ _ _ inv quiet unanswered sent
    | poll => exact quiet
    | @event ready _ _ _ _ _ within happened =>
        have unreadable : ready.isReadable = false := by
          rw [← Bool.not_eq_true]
          intro readable
          have connected := reads.armed (within.1 readable)
          rcases unanswered with init | synSent
          · rw [init] at connected
            cases connected
          · rw [synSent] at connected
            cases connected
        exact @TcpConnection.Quiet.onReady window front _ _ _ _ _ inv quiet unanswered unreadable
          happened
    | expire expired => exact @TcpConnection.Quiet.expire window front _ _ inv quiet expired
    | @close client selector =>
        exact TcpConnection.Quiet.close (c := ⟨s.conn, client, selector⟩) quiet
    | deliver waiting _ _ =>
        obtain ⟨-, idle, -⟩ := quiet unanswered
        rw [TcpConnection.get, idle] at waiting
        cases waiting
  · refine .of_answered ?_
    cases step with
    | packet sent =>
        obtain ⟨header, c₁, -, arrived, answers⟩ :=
          @TcpContext.sendToNetwork_moves (fun _ => False) _ _ _ _ _ _ sent
        exact answers.answered (arrived.answered unanswered)
    | poll => exact unanswered
    | event _ happened =>
        exact @TcpMoves.answered (fun _ => True) _ _ unanswered
          (TcpContext.onReady_moves (fun _ => trivial) (fun _ => trivial) happened)
    | expire expired =>
        exact @TcpMoves.answered (fun _ => True) _ _ unanswered (TcpContext.expire_moves expired)
    | close => exact unanswered
    | deliver _ _ advanced =>
        exact @TcpMoves.answered (fun _ => True) _ _ unanswered
          (TcpContext.next_moves trivial advanced)

/-- The packets of a client that keeps to the window of `highest`. -/
def KeepsWindow (highest : Option TcpHeaderData) : Label → Prop
  | .packet packet _ _ _ => ∀ header, tcpHeaderOfPacket packet = .ok header →
      ∃ payload, packet.payload = .ok (some payload) ∧
        (header.data.isSyn = false → InsideWindow highest header.data payload.length)
  | _ => True

/-- **What a step acknowledges is behind what the client may go by.**  The client may have heard
any of the segments, and goes by the latest that it has heard; what is promised in it is kept by
all later states. -/
theorem step_advertises {highest : Option TcpHeaderData} {rest : List TcpHeaderData}
    (inv : Advertises window (highest.toList ++ rest) s.conn)
    (unanswered : s.conn.tcb.state.Unanswered → highest.toList ++ rest ++ s.conn.awaited = [])
    (keeps : KeepsWindow highest l) (step : Step s l s') :
    ∃ new, acknowledgements s'.conn.trace = acknowledgements s.conn.trace ++ new ∧
      Advertises window (highest.toList ++ rest ++ new) s'.conn := by
  cases step with
  | packet sent =>
      obtain ⟨header, c₁, tcp, arrived, answers⟩ :=
        @TcpContext.sendToNetwork_moves (fun _ => False) _ _ _ _ _ _ sent
      obtain ⟨payload, carried, keeps⟩ := keeps header tcp
      obtain ⟨silent, inv'⟩ := Advertises.arrival (inv.congr rfl rfl rfl rfl rfl) unanswered carried
        keeps arrived
      obtain ⟨new, trace, inv''⟩ := inv'.moves answers
      rw [silent] at trace
      exact ⟨new, trace, inv''⟩
  | poll => exact ⟨[], (List.append_nil _).symm, by rwa [List.append_nil]⟩
  | event _ happened =>
      exact @Advertises.moves _ _ (fun _ => True) _ _ inv
        (TcpContext.onReady_moves (fun _ => trivial) (fun _ => trivial) happened)
  | expire expired =>
      exact @Advertises.moves _ _ (fun _ => True) _ _ inv (TcpContext.expire_moves expired)
  | @close client selector =>
      exact @Advertises.move _ _ (fun _ => True) ⟨s.conn, client, selector⟩ _ inv (.close _)
  | deliver _ _ advanced =>
      exact @Advertises.moves _ _ (fun _ => True) _ _ inv (TcpContext.next_moves trivial advanced)

end TcpLife

/-! ## A connection and its client -/

/-- `TcpConnection.Fresh`, for a first packet with the TCP header `syn`.  The window of that header
is the one that all segments advertise. -/
def TcpConnection.CreatedFrom (conn : TcpConnection) (syn : TcpHeaderData) : Prop :=
  ∃ raw packet id ipv4Header header selector selector' handle now,
    IpPacket.parse raw = .ok (.ok (.ipv4 packet)) ∧
    ConnectionId.fromPacket (.ipv4 packet) = some id ∧
    packet.headers = .ok (ipv4Header, some (.tcp header)) ∧ header.data = syn ∧
    TcpConnection.create selector handle id ipv4Header (.tcp header) now (.ok ()) =
      .ok (.ok (conn, selector'))

namespace TcpConnection.CreatedFrom

variable {conn : TcpConnection} {syn : TcpHeaderData}

/-- A connection created from a SYN is a new one. -/
theorem fresh (created : conn.CreatedFrom syn) : conn.Fresh := by
  obtain ⟨raw, packet, id, ipv4Header, header, selector, selector', handle, now, parsed, flow,
    headers, -, created⟩ := created
  exact ⟨raw, packet, id, ipv4Header, _, selector, selector', handle, now, parsed, flow, headers,
    created⟩

/-- **The window of the reference header** is the one of the first packet.  It is the window of the
client's SYN, copied into the header that all segments are made from; the relay never writes
another one there. -/
theorem reference (created : conn.CreatedFrom syn) :
    ∃ data, conn.networkToClient.tcpData = some data ∧ data.window = syn.window := by
  obtain ⟨_, _, _, _, header, _, _, _, _, -, -, -, rfl, created⟩ := created
  obtain ⟨_, shrinkedRaw, shrinked, packetizer, same, -, shrunk, made, rfl, -⟩ :=
    TcpConnection.create_ok created
  cases same
  obtain ⟨_, -, shrunk⟩ := bind_eq_ok.mp shrunk
  obtain ⟨_, -, rest⟩ := bind_eq_ok.mp shrunk
  cases rest
  unfold Packetizer.new at made
  split at made
  · cases made
  · obtain ⟨_, -, made⟩ := bind_eq_ok.mp made
    obtain ⟨_, swapped, rest⟩ := bind_eq_ok.mp made
    cases rest
    obtain ⟨swappedHeader, ports, rest⟩ := bind_eq_ok.mp swapped
    cases rest
    obtain ⟨_, -, same⟩ := bind_eq_ok.mp ports
    refine ⟨swappedHeader.data, rfl, ?_⟩
    cases same
    rfl

end TcpConnection.CreatedFrom

/-- A connection, and what its client has heard of it: segments may be lost on the way, but they do
not overtake each other. -/
structure ClientLink where
  /-- The header of the packet the connection was created from. -/
  syn : TcpHeaderData
  life : TcpLife
  /-- How many of the segments with the ACK flag the client has heard or lost. -/
  passed : ℕ
  /-- Of those heard, the one with the highest acknowledgement number. -/
  highest : Option TcpHeaderData

namespace ClientLink

/-- A step of the connection, or the end of the journey of one of its segments. -/
inductive Label
  | relay (label : TcpLife.Label)
  /-- The next segment reaches the client. -/
  | hear
  /-- The next segment is lost: there was no room for it. -/
  | lose

/-- Of two segments the one that acknowledges more, in the order of the wrapping numbers. -/
def higher (highest : Option TcpHeaderData) (segment : TcpHeaderData) : TcpHeaderData :=
  match highest with
  | none => segment
  | some heard =>
      if Precedes segment.acknowledgementNumber heard.acknowledgementNumber then heard else segment

/-- The client hears the segments in the order in which the relay offered them, or misses them. -/
inductive Step : ClientLink → Label → ClientLink → Prop
  | relay {s : ClientLink} {label : TcpLife.Label} {life : TcpLife} :
      TcpLife.Step s.life label life → Step s (.relay label) { s with life }
  | hear {s : ClientLink} {segment : TcpHeaderData} :
      (acknowledgements s.life.conn.trace)[s.passed]? = some segment →
      Step s .hear { s with passed := s.passed + 1, highest := some (higher s.highest segment) }
  | lose {s : ClientLink} {segment : TcpHeaderData} :
      (acknowledgements s.life.conn.trace)[s.passed]? = some segment →
      Step s .lose { s with passed := s.passed + 1 }

/-- The connection was just created from the SYN, and its client has heard nothing. -/
def machine : Machine ClientLink Label where
  start s := s.life.conn.CreatedFrom s.syn ∧ s.life.armed = .empty ∧ s.passed = 0 ∧ s.highest = none
  step := Step

/-- The client never sends a byte beyond the highest acknowledgement number it received and
the window of that segment. -/
def RespectsWindow (s : ClientLink) : Label → Prop
  | .relay label => TcpLife.KeepsWindow s.highest label
  | _ => True

/-- The segments that the client has still to hear. -/
def unheard (s : ClientLink) : List TcpHeaderData :=
  (acknowledgements s.life.conn.trace).drop s.passed

/-- What ties the connection to its client: every segment carries the window of the SYN, and what
the client has heard, or will hear, never acknowledges more than the connection does. -/
structure Consistent (s : ClientLink) : Prop where
  reads : s.life.ReadsConnected
  quiet : s.life.conn.Quiet
  passed : s.passed ≤ (acknowledgements s.life.conn.trace).length
  heard : s.highest ≠ none → 0 < s.passed
  windows : ∀ segment ∈ acknowledgements s.life.conn.trace, segment.window = s.syn.window
  advertises : Advertises s.syn.window (s.highest.toList ++ s.unheard) s.life.conn

namespace Consistent

variable {s s' : ClientLink} {l : Label}

/-- **A new connection and its client agree**: no segment was sent, and nothing is held.  There is
nothing yet that the client could go by. -/
theorem of_start (start : machine.start s) : s.Consistent := by
  obtain ⟨created, armed, passed, highest⟩ := start
  have forTcp := created.fresh.forTcp
  have reference := created.reference
  obtain ⟨_, _, _, _, _, _, _, _, _, -, -, -, create⟩ := created.fresh
  obtain ⟨_, _, _, _, -, -, -, -, initial, -⟩ := TcpConnection.create_ok create
  have trace : acknowledgements s.life.conn.trace = [] := by
    rw [initial]
    rfl
  have idle : s.life.conn.packetForClientLength = none := by
    rw [initial]
    rfl
  have empty : s.life.conn.clientToNetwork.isEmpty = true := by
    rw [initial, StreamBuffer.isEmpty_iff]
    exact StreamBuffer.contents_new
  refine ⟨⟨?_, ?_⟩, fun _ => ⟨trace, idle, fun _ => empty⟩, ?_, ?_, ?_, forTcp, reference, ?_, ?_⟩
  · rw [initial]
    exact nofun
  · rw [armed]
    exact nofun
  · rw [passed]
    exact Nat.zero_le _
  · rw [highest]
    exact fun some => absurd rfl some
  · rw [trace]
    exact nofun
  · rw [idle]
    exact nofun
  · rw [Advertises.awaited_of_idle idle, highest, unheard, trace, Advertises.held_of_isEmpty empty]
    show WithinWindow _ _ _ (List.drop _ [] ++ [])
    rw [List.drop_nil]
    exact .nothing (Nat.zero_le _)

/-- There is nothing to go by before the SYN is answered. -/
theorem unanswered (consistent : s.Consistent) (early : s.life.conn.tcb.state.Unanswered) :
    s.highest.toList ++ s.unheard ++ s.life.conn.awaited = [] := by
  obtain ⟨trace, idle, -⟩ := consistent.quiet early
  have none : s.highest = none := by
    by_contra some
    have passed := consistent.passed
    have heard := consistent.heard some
    rw [trace, List.length_nil] at passed
    omega
  rw [none, unheard, trace, Advertises.awaited_of_idle idle, List.drop_nil]
  rfl

/-- In order, what is heard is the highest. -/
theorem higher_eq (consistent : s.Consistent) {segment : TcpHeaderData}
    (next : (acknowledgements s.life.conn.trace)[s.passed]? = some segment) :
    s.unheard = segment :: (acknowledgements s.life.conn.trace).drop (s.passed + 1) ∧
      higher s.highest segment = segment := by
  obtain ⟨inside, is⟩ := List.getElem?_eq_some_iff.mp next
  have split : s.unheard = segment :: (acknowledgements s.life.conn.trace).drop (s.passed + 1) := by
    rw [unheard, List.drop_eq_getElem_cons inside, is]
  refine ⟨split, ?_⟩
  cases h : s.highest with
  | none => rfl
  | some heard =>
      have within := consistent.advertises.within
      have small := s.syn.window.toNat_lt
      rw [h, split] at within
      have closer := List.rel_of_pairwise_cons within.sorted
        (List.mem_append_left _ List.mem_cons_self)
      have room := within.room heard List.mem_cons_self
      exact if_neg (not_precedes closer (by omega))

/-- **Every step keeps connection and client consistent.**  A step of the relay appends the segments
it sends to those the client has still to hear; a segment that is heard, or lost, is the next of
them. -/
theorem step (consistent : s.Consistent) (respects : RespectsWindow s l) (step : Step s l s') :
    s'.Consistent := by
  cases step with
  | @relay label life happened =>
      obtain ⟨new, trace, inv⟩ := TcpLife.step_advertises consistent.advertises
        consistent.unanswered respects happened
      have passed := consistent.passed
      refine ⟨consistent.reads.step happened, TcpLife.step_quiet consistent.advertises
        consistent.reads consistent.quiet happened, ?_, consistent.heard, ?_, ?_⟩
      · show s.passed ≤ (acknowledgements life.conn.trace).length
        rw [trace, List.length_append]
        omega
      · show ∀ segment ∈ acknowledgements life.conn.trace, segment.window = s.syn.window
        rw [trace]
        refine List.forall_mem_append.mpr ⟨consistent.windows, fun segment mem => ?_⟩
        exact inv.within.windows segment (List.mem_append_left _ (List.mem_append_right _ mem))
      · show Advertises s.syn.window
          (s.highest.toList ++ (acknowledgements life.conn.trace).drop s.passed) life.conn
        rw [trace, List.drop_append_of_le_length passed, ← List.append_assoc]
        exact inv
  | hear next =>
      obtain ⟨split, highest⟩ := consistent.higher_eq next
      obtain ⟨inside, -⟩ := List.getElem?_eq_some_iff.mp next
      refine ⟨consistent.reads, consistent.quiet, inside, fun _ => Nat.succ_pos _,
        consistent.windows, ?_⟩
      have before := consistent.advertises
      rw [split] at before
      refine ⟨before.forTcp, before.reference, before.whole, before.within.sublist ?_⟩
      rw [highest]
      exact (List.sublist_append_right _ _).append_right _
  | lose next =>
      obtain ⟨split, -⟩ := consistent.higher_eq next
      obtain ⟨inside, -⟩ := List.getElem?_eq_some_iff.mp next
      refine ⟨consistent.reads, consistent.quiet, inside, fun _ => Nat.succ_pos _,
        consistent.windows, ?_⟩
      have before := consistent.advertises
      rw [split] at before
      refine ⟨before.forTcp, before.reference, before.whole, before.within.sublist ?_⟩
      exact ((List.sublist_cons_self _ _).append_left _).append_right _

end Consistent

/-- The same over a run in which the client keeps to the window. -/
theorem consistent_of_run {t : List (ClientLink × Label)} {s : ClientLink}
    (run : machine.Run t s) (respects : Machine.Meets RespectsWindow t) : s.Consistent :=
  run.invariant Consistent (fun _ start => .of_start start)
    (fun _ _ _ consistent guarded step => consistent.step guarded step) respects

/-- **The buffer for the host never overflows.**  With a client that never sends a byte
beyond the window it was shown, which is the one of its own first packet, every data packet
that begins where the relay stands finds the room it needs. -/
theorem run_hasRoom {t : List (ClientLink × Label)} {s : ClientLink} (run : machine.Run t s)
    (respects : Machine.Meets RespectsWindow t) :
    (∀ segment ∈ acknowledgements s.life.conn.trace, segment.window = s.syn.window) ∧
      ∀ (s : ClientLink) packet random overflowChecks now header payload,
        (s, Label.relay (.packet packet random overflowChecks now)) ∈ t →
        tcpHeaderOfPacket packet = .ok header → packet.payload = .ok (some payload) →
        header.data.isSyn = false → header.data.sequenceNumber = s.life.conn.expectedPacket →
        payload ≠ [] →
        s.life.conn.clientToNetwork.size + payload.length ≤ 65535 ∧ 65535 ≤ 4 * maxPacketLength ∧
          ¬ s.life.conn.clientToNetwork.remaining < payload.length := by
  refine ⟨(consistent_of_run run respects).windows, ?_⟩
  intro s packet random overflowChecks now header payload mem tcp carried noSyn expected nonempty
  obtain ⟨t₁, t₂, rfl, before⟩ := run.of_mem mem
  rw [Machine.meets_append] at respects
  have consistent := consistent_of_run before respects.1
  obtain ⟨payload', carried', inside⟩ := respects.2 _ List.mem_cons_self header tcp
  rw [carried] at carried'
  cases carried'
  obtain ⟨heard, -, fits⟩ := consistent.advertises.fits (inside noSyn) expected
    (.inl (List.length_pos_of_ne_nil nonempty))
  have small := s.syn.window.toNat_lt
  have capacity : 4 * maxPacketLength = 262144 := rfl
  have length := s.life.conn.clientToNetwork.length_contents
  have remaining := s.life.conn.clientToNetwork.remaining_eq
  change _ + s.life.conn.clientToNetwork.contents.length + _ ≤ s.syn.window.toNat at fits
  exact ⟨by omega, by omega, by omega⟩

/-- A run of the connection, of which the client hears nothing. -/
theorem run_relay {conn : TcpConnection} {syn : TcpHeaderData} (created : conn.CreatedFrom syn)
    {t : List (TcpLife × TcpLife.Label)} {life : TcpLife} (run : TcpLife.machine.Run t life)
    (first : t.head?.map Prod.fst = some ⟨conn, .empty⟩) :
    machine.Run (t.map fun p => (⟨syn, p.1, 0, none⟩, .relay p.2)) ⟨syn, life, 0, none⟩ := by
  induction run with
  | start _ => cases first
  | @step t s s' l run happened ih =>
      have before : machine.Run (t.map fun p => (⟨syn, p.1, 0, none⟩, .relay p.2))
          ⟨syn, s, 0, none⟩ := by
        cases t with
        | nil =>
            cases first
            exact .start ⟨created, rfl, rfl, rfl⟩
        | cons p t => exact ih first
      rw [List.map_append]
      exact before.step (.relay happened)

/-- The client hears the SYN of the relay, and sends one byte. -/
theorem run_hasRoom_byte : ∃ t s s₀, machine.Run t s ∧
    (s₀, Label.relay (.packet (segmentPacket 1 1 0x10 [0x61]) 0 false 0)) ∈ t ∧
    s₀.life.conn.clientToNetwork.size + 1 ≤ 65535 := by
  obtain ⟨conn, created⟩ : ∃ conn : TcpConnection, conn.CreatedFrom (segmentHeader 0 0 2).data :=
    ⟨_, _, _, _, _, _, ⟨fun _ => some .empty, []⟩, _, 0, 0,
      (rfl : IpPacket.parse (segmentBytes 0 0 2 []) = .ok (.ok (.ipv4 (segmentPacket 0 0 2 [])))),
      rfl, rfl, rfl, rfl⟩
  obtain ⟨t, life, packetizer, raw, run, first, labels, forTcp, segment, -, same⟩ :=
    TcpLife.run_established created.fresh
  have run₁ := run_relay created run first
  have respects₁ : Machine.Meets RespectsWindow (t.map fun p =>
      ((⟨(segmentHeader 0 0 2).data, p.1, 0, none⟩ : ClientLink), Label.relay p.2)) := by
    rintro _ mem
    obtain ⟨p, taken, rfl⟩ := List.mem_map.mp mem
    have label := List.mem_map_of_mem (f := Prod.snd) taken
    rw [labels] at label
    simp only [List.mem_cons, List.not_mem_nil, or_false] at label
    show TcpLife.KeepsWindow none p.2
    rcases label with label | label | label | label | label <;> rw [label]
    · rintro header ⟨⟩
      exact ⟨[], rfl, fun noSyn => by cases noSyn⟩
    · trivial
    · trivial
    · rintro header ⟨⟩
      exact ⟨[], rfl, fun _ => ⟨nofun, fun fin => by cases fin⟩⟩
    · trivial
  -- the SYN of the relay acknowledges the one of the client, and shows its window
  have answer : acknowledgements life.conn.trace = [relayHeader raw] := by
    have acked : (relayHeader raw).isAck = true := by
      have flags : (Segment.ofRaw raw).flags = flagSyn ||| flagAck := by rw [segment]
      show decide ((Segment.ofRaw raw).flags &&& flagAck ≠ 0) = true
      rw [flags]
      decide
    rw [same]
    show [] ++ ((relayHeader raw).acknowledging ++ []) = _
    rw [TcpHeaderData.acknowledging, if_pos acked]
    rfl
  have number : (relayHeader raw).acknowledgementNumber = 1 :=
    congrArg Segment.acknowledgementNumber segment
  have window : (relayHeader raw).window = 65535 := by
    refine (run_hasRoom run₁ respects₁).1 (relayHeader raw) ?_
    rw [answer]
    exact List.mem_singleton_self _
  let s₁ : ClientLink := ⟨(segmentHeader 0 0 2).data, life, 0, none⟩
  let s₂ : ClientLink := ⟨(segmentHeader 0 0 2).data, life, 1, some (relayHeader raw)⟩
  have heard : Step s₁ .hear s₂ := Step.hear (s := s₁) (by rw [answer]; rfl)
  -- one byte, at the place of the next
  obtain ⟨_, _, _, _, _, _, _, _, _, -, -, -, create⟩ := created.fresh
  obtain ⟨_, _, _, _, -, -, -, -, initial, -⟩ := TcpConnection.create_ok create
  have empty : life.conn.clientToNetwork = .new _ := by
    rw [same, initial]
    rfl
  have expected : life.conn.expectedPacket = 1 := by
    have acknowledged : life.conn.tcb.acknowledgementNumber = 1 := by rw [same]
    rw [TcpConnection.expectedPacket, acknowledged, empty, ← StreamBuffer.length_contents,
      StreamBuffer.contents_new]
    rfl
  have established : life.conn.tcb.state = .established := by rw [same]
  obtain ⟨client, selector, usable, -⟩ := @TcpLife.usable_exists life.conn
    (by rw [same, initial]; rfl) (by rw [same]; exact forTcp) (.new _)
  obtain ⟨c', -, sent, -⟩ := @TcpContext.Usable.take ⟨life.conn, client, selector⟩
    (segmentPacket 1 1 0x10 [0x61]) (segmentHeader 1 1 0x10) [0x61] usable 0 0 rfl rfl (List.cons_ne_nil _ _) established
    (by decide) (by rw [expected]; decide) (by decide) (by decide) (by decide) (by rw [same]; rfl)
    (by rw [empty, StreamBuffer.remaining_new]; decide)
  have run₃ := (run₁.step heard).step (Step.relay (TcpLife.Step.packet sent))
  have byte : RespectsWindow s₂ (.relay (.packet (segmentPacket 1 1 0x10 [0x61]) 0 false 0)) := by
    rintro header ⟨⟩
    refine ⟨[0x61], rfl, fun _ => ⟨fun i inside => ⟨_, rfl, ?_⟩, fun fin => by cases fin⟩⟩
    obtain rfl := Nat.lt_one_iff.mp inside
    rw [TcpHeaderData.edge, number, window]
    decide
  have hears : RespectsWindow s₁ .hear := trivial
  have respects₃ := Machine.meets_append.mpr ⟨Machine.meets_append.mpr
    ⟨respects₁, Machine.meets_singleton.mpr hears⟩, Machine.meets_singleton.mpr byte⟩
  obtain ⟨-, room⟩ := run_hasRoom run₃ respects₃
  refine ⟨_, _, s₂, run₃, List.mem_append_right _ (List.mem_singleton_self _), ?_⟩
  exact (room s₂ _ _ _ _ (segmentHeader 1 1 0x10) [0x61]
    (List.mem_append_right _ (List.mem_singleton_self _)) rfl rfl (by decide)
    (by show _ = life.conn.expectedPacket; rw [expected]; decide) (List.cons_ne_nil _ _)).1

end ClientLink

end ReverseTether
