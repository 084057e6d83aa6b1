import ReverseTether.Connection
import ReverseTether.TcpMoves

/-!
# The life of a connection

Each method of each kind of connection is followed once, from an open connection:
it serves the client, and deregisters its socket once if it closes.  One method
does not: an IPv6 connection whose socket refuses the payload of a packet marks
itself closed and keeps its registration (`Ipv6Context.sendToNetwork_acts`).

`ConnectionContext.onReady_reacts` is what an event does: nothing to a closed
connection, and an open one that closes removes itself from the router.

The selector forgets the socket when the connection closes, and once only: a second
deregistration would be an error of the poller, and a socket that stays registered would bring
events to a connection that is gone.  `Proceeds` is this, with what the call may do to the
client beside it.

The methods are looked at in the order in which they call one another, so that each proof uses
what is known of the methods below it.  The exception above is a finding of its own: the
connection is marked and its token is left in the selector, where the next event finds it
closed.
-/

namespace ReverseTether

/-! ## TCP -/

namespace TcpContext

variable {c c₁ c' : TcpContext}

/-- What it does as a connection.  The three kinds have contexts of their own, and the rules are
about the common one. -/
abbrev Proceeds (c c' : TcpContext) : Prop := c.asConnection.Proceeds c'.asConnection

theorem withTcb_proceeds (c : TcpContext) (f : Tcb → Tcb) : c.Proceeds (c.withTcb f) :=
  .of_conn rfl rfl rfl

/-- To close an open connection sets its flag and takes its socket out of the selector, and does
nothing else. -/
theorem close_proceeds (isOpen : c.conn.closed = false) : c.Proceeds c.close :=
  .of_close rfl rfl isOpen rfl

/-- A forged segment goes to the client, if there is room for it, and leaves the control block as
it is. -/
theorem reply_proceeds {flags : UInt16} (h : c.replyEmptyPacketToClient flags = .ok c') :
    c.Proceeds c' ∧ c'.conn.closed = c.conn.closed ∧ c'.conn.tcb = c.conn.tcb := by
  obtain ⟨packet, packetizer, sent, -, offered, same⟩ := replyEmptyPacketToClient_ok h
  have selector := (Client.sendRawToClient_ok offered).2.1
  have proceeds : c.Proceeds ⟨{ c.conn with networkToClient := packetizer }.record
      (.forged packet.raw c.conn.waiting), c'.client, c'.selector⟩ :=
    .of_send rfl rfl rfl (.of_sendRawToClient offered) selector
  rw [← same] at proceeds
  exact ⟨proceeds, by rw [same]; rfl, by rw [same]; rfl⟩

/-- A RST and the close behind it, as the methods do it in many places. -/
theorem replyAndClose_proceeds {flags : UInt16} (isOpen : c.conn.closed = false)
    (h : (do let c ← c.replyEmptyPacketToClient flags; return c.close) = Except.ok c') :
    c.Proceeds c' ∧ c'.conn.closed = true := by
  obtain ⟨c₁, forged, rest⟩ := bind_eq_ok.mp h
  cases rest
  obtain ⟨proceeds, closed, -⟩ := reply_proceeds forged
  exact ⟨proceeds.trans (close_proceeds (closed.trans isOpen)), rfl⟩

/-- The interests of an open connection are brought up to date, and it stays open. -/
theorem updateInterests_proceeds (h : c.updateInterests = .ok c') :
    c.Proceeds c' ∧ c'.conn.closed = false := by
  obtain ⟨isOpen, conn, client, selector, -⟩ := updateInterests_ok h
  have proceeds : c.Proceeds ⟨{ c.conn with interests := c.conn.wanted }, c.client, c'.selector⟩ :=
    .of_interests rfl rfl isOpen rfl selector
  rw [← conn, ← client] at proceeds
  exact ⟨proceeds, by rw [conn]; exact isOpen⟩

/-- The answer to a FIN closes a connection only in a state that the rest of the
packet leaves alone. -/
theorem doHandleFin_proceeds (isOpen : c.conn.closed = false) (h : c.doHandleFin = .ok c') :
    c.Proceeds c' ∧ (c'.conn.closed = true → c'.conn.tcb.state = .finWait2) := by
  have counted : c.Proceeds c.countReceivedFin := .of_conn rfl rfl rfl
  unfold doHandleFin at h
  simp only at h
  split at h
  · obtain ⟨c₁, forged, rest⟩ := bind_eq_ok.mp h
    cases rest
    obtain ⟨proceeds, closed, -⟩ := reply_proceeds forged
    refine ⟨(counted.trans proceeds).trans (.of_conn rfl rfl rfl), fun isClosed => ?_⟩
    exact absurd ((closed.trans isOpen).symm.trans isClosed) (by decide)
  · split at h
    · obtain ⟨c₁, forged, rest⟩ := bind_eq_ok.mp h
      cases rest
      obtain ⟨proceeds, closed, -⟩ := reply_proceeds forged
      refine ⟨(counted.trans proceeds).trans (.of_conn rfl rfl rfl), fun isClosed => ?_⟩
      exact absurd ((closed.trans isOpen).symm.trans isClosed) (by decide)
    · split at h
      · rename_i finWait2
        obtain ⟨c₁, forged, rest⟩ := bind_eq_ok.mp h
        cases rest
        obtain ⟨proceeds, closed, tcb⟩ := reply_proceeds forged
        refine ⟨(counted.trans proceeds).trans (close_proceeds (closed.trans isOpen)), fun _ => ?_⟩
        show c₁.conn.tcb.state = .finWait2
        rw [tcb]
        exact finWait2
      · cases h
        exact ⟨counted, fun isClosed => absurd (isOpen.symm.trans isClosed) (by decide)⟩

/-- A FIN of the client closes the connection only when the host has sent its own before, and the
client has acknowledged that. -/
theorem handleFin_proceeds (isOpen : c.conn.closed = false) (h : c.handleFin = .ok c') :
    c.Proceeds c' ∧ (c'.conn.closed = true → c'.conn.tcb.state = .finWait2) := by
  have noted := withTcb_proceeds c fun tcb => { tcb with finReceived := true }
  unfold handleFin at h
  simp only at h
  split at h
  · obtain ⟨proceeds, finWait2⟩ := doHandleFin_proceeds
      (c := c.withTcb fun tcb => { tcb with finReceived := true }) isOpen h
    exact ⟨noted.trans proceeds, finWait2⟩
  · cases h
    exact ⟨noted, fun isClosed => absurd (isOpen.symm.trans isClosed) (by decide)⟩

/-- The acknowledgement of the FIN closes the connection in the last two states; one that the FIN
in the same packet has closed is in neither of them. -/
theorem handleFinAck_proceeds (c : TcpContext)
    (closing : c.conn.closed = true → c.conn.tcb.state = .finWait2) : c.Proceeds c.handleFinAck := by
  unfold handleFinAck
  split
  · rename_i last
    refine close_proceeds ?_
    cases closed : c.conn.closed with
    | false => rfl
    | true =>
        rw [closing closed] at last
        exact absurd last (by decide)
  · split
    · exact .of_conn rfl rfl rfl
    · exact .refl _

/-- Data are buffered or dropped, and the connection stays as open as it was. -/
theorem handleAck_proceeds {packet : Ipv4Packet} (h : c.handleAck packet = .ok c') :
    c.Proceeds c' ∧ c'.conn.closed = c.conn.closed := by
  unfold handleAck at h
  split at h
  · cases h
    exact ⟨.of_conn rfl rfl rfl, rfl⟩
  · obtain ⟨payload, -, h⟩ := bind_eq_ok.mp h
    cases payload with
    | none => cases h
    | some payload =>
        simp only at h
        split at h
        · cases h
          exact ⟨.refl _, rfl⟩
        · split at h
          · cases h
            exact ⟨.refl _, rfl⟩
          · obtain ⟨clientToNetwork, -, rest⟩ := bind_eq_ok.mp h
            cases rest
            exact ⟨.of_conn rfl rfl rfl, rfl⟩

/-- The first packet opens the flow, or is answered by a RST and a close. -/
theorem handleFirstPacket_proceeds {packet : Ipv4Packet} {random : UInt32}
    (isOpen : c.conn.closed = false) (h : c.handleFirstPacket packet random = .ok c') :
    c.Proceeds c' := by
  obtain ⟨header, -, h⟩ := bind_eq_ok.mp h
  simp only at h
  split at h
  · cases h
    exact .of_conn rfl rfl rfl
  · refine (withTcb_proceeds c _).trans (replyAndClose_proceeds ?_ h).1
    exact isOpen

/-- A repeated SYN is ignored or taken for the first one, and another one resets the connection. -/
theorem handleDuplicateSyn_proceeds {packet : Ipv4Packet} (isOpen : c.conn.closed = false)
    (h : c.handleDuplicateSyn packet = .ok c') : c.Proceeds c' := by
  obtain ⟨header, -, h⟩ := bind_eq_ok.mp h
  simp only at h
  split at h
  · cases h
    exact .of_conn rfl rfl rfl
  · split at h
    · exact (replyAndClose_proceeds isOpen h).1
    · cases h
      exact .refl _

/-- A packet of the flow closes the connection in one place at most, whatever flags it has. -/
theorem handlePacket_proceeds {packet : Ipv4Packet} {random : UInt32} {overflowChecks : Bool}
    (isOpen : c.conn.closed = false)
    (h : c.handlePacket packet random overflowChecks = .ok c') : c.Proceeds c' := by
  obtain ⟨header, -, h⟩ := bind_eq_ok.mp h
  simp only at h
  split at h
  · exact handleFirstPacket_proceeds isOpen h
  split at h
  · exact handleDuplicateSyn_proceeds isOpen h
  split at h
  · cases h
    exact .refl _
  have heard : c.Proceeds (c.noteWindow header.data) := withTcb_proceeds c _
  split at h
  · cases h
    exact heard.trans (close_proceeds isOpen)
  obtain ⟨c₁, ackPart, h⟩ := bind_eq_ok.mp h
  obtain ⟨c₂, finPart, h⟩ := bind_eq_ok.mp h
  have acked : (c.noteWindow header.data).Proceeds c₁ ∧ c₁.conn.closed = false := by
    split at ackPart
    · obtain ⟨proceeds, closed⟩ := handleAck_proceeds ackPart
      exact ⟨proceeds, closed.trans isOpen⟩
    · cases ackPart
      exact ⟨.refl _, isOpen⟩
  have finished : c₁.Proceeds c₂ ∧ (c₂.conn.closed = true → c₂.conn.tcb.state = .finWait2) := by
    split at finPart
    · exact handleFin_proceeds acked.2 finPart
    · cases finPart
      exact ⟨.refl _, fun isClosed => absurd (acked.2.symm.trans isClosed) (by decide)⟩
  refine (heard.trans acked.1).trans (finished.1.trans ?_)
  split at h
  · cases h
    exact .refl _
  · obtain ⟨number, -, h⟩ := bind_eq_ok.mp h
    split at h
    · cases h
      exact handleFinAck_proceeds c₂ finished.2
    · cases h
      exact .refl _

/-- A packet closes an open connection at most once, the update of the interests behind it
included. -/
theorem sendToNetwork_proceeds {packet : IpPacket} {random : UInt32} {overflowChecks : Bool}
    {now : Instant} (isOpen : c.conn.closed = false)
    (h : c.sendToNetwork packet random overflowChecks now = .ok c') : c.Proceeds c' := by
  cases packet with
  | ipv6 _ =>
      cases h
      exact .refl _
  | ipv4 packet =>
      obtain ⟨c₁, handled, h⟩ := bind_eq_ok.mp h
      have touched : c.Proceeds { c with conn := c.conn.touch now } := .of_conn rfl rfl rfl
      refine touched.trans ((handlePacket_proceeds
        (c := { c with conn := c.conn.touch now }) isOpen handled).trans ?_)
      split at h
      · cases h
        exact .refl _
      · exact (updateInterests_proceeds h).1

/-! ### Events -/

/-- The end of the connect answers the client, with a SYN+ACK or with a RST and a close. -/
theorem processConnect_proceeds {takeError : IoResult (Option IoError)}
    (isOpen : c.conn.closed = false) (h : c.processConnect takeError = .ok c') : c.Proceeds c' := by
  unfold processConnect at h
  split at h
  · cases h
  split at h
  · exact (replyAndClose_proceeds isOpen h).1
  all_goals
    obtain ⟨c₁, forged, rest⟩ := bind_eq_ok.mp h
    cases rest
    exact ((withTcb_proceeds c _).trans (reply_proceeds forged).1).trans (withTcb_proceeds c₁ _)

/-- A method that reports a spurious event leaves the connection open. -/
theorem processSend_proceeds {write : IoResult ℕ} {result : IoResult Unit}
    (isOpen : c.conn.closed = false) (h : c.processSend write = .ok (result, c')) :
    c.Proceeds c' ∧ (c'.conn.closed = true → result = .ok ()) := by
  unfold processSend at h
  split at h
  · rename_i written clientToNetwork _
    have acknowledged : c.Proceeds (c.acknowledge written clientToNetwork) := .of_conn rfl rfl rfl
    split at h
    · simp only at h
      split at h
      · obtain ⟨c₁, handled, rest⟩ := bind_eq_ok.mp h
        cases rest
        have handled' := doHandleFin_proceeds (c := c.acknowledge written clientToNetwork) isOpen handled
        exact ⟨acknowledged.trans handled'.1, fun _ => rfl⟩
      · obtain ⟨c₁, forged, rest⟩ := bind_eq_ok.mp h
        cases rest
        exact ⟨acknowledged.trans (reply_proceeds forged).1, fun _ => rfl⟩
    · cases h
      exact ⟨close_proceeds isOpen, fun _ => rfl⟩
  · cases h
    exact ⟨.refl _, fun closed => absurd (isOpen.symm.trans closed) (by decide)⟩
  · obtain ⟨c₁, forged, rest⟩ := bind_eq_ok.mp h
    cases rest
    obtain ⟨proceeds, closed, -⟩ := reply_proceeds forged
    exact ⟨proceeds.trans (close_proceeds (closed.trans isOpen)), fun _ => rfl⟩

/-- A data packet is appended as a whole or put aside, and the connection stays open. -/
theorem sendDataToClient_proceeds {packet : Ipv4Packet} (h : c.sendDataToClient packet = .ok c') :
    c.Proceeds c' := by
  obtain ⟨sent, client, selector, offered, kind⟩ := sendDataToClient_ok h
  have serves := Client.Serves.of_sendRawToClient offered
  have same := (Client.sendRawToClient_ok offered).2.1
  rcases kind with ⟨payload, -, -, conn, rfl, rfl⟩ | ⟨-, conn, client', rfl⟩
  · have proceeds : c.Proceeds ⟨{ c.conn with tcb := { c.conn.tcb with
        sequenceNumber := c.conn.tcb.sequenceNumber + UInt32.ofNat payload.length } }.record
          (.handed packet.raw), c'.client, c'.selector⟩ := .of_send rfl rfl rfl serves same
    rwa [← conn] at proceeds
  · have proceeds : c.Proceeds ⟨{ c.conn with packetForClientLength := some packet.length }.record
        (.deferred packet.raw), client.registerPendingPacketSource c.conn.handle, c'.selector⟩ :=
      .of_send rfl rfl rfl (serves.trans (.registerPendingPacketSource client _)) same
    rwa [← conn, ← client'] at proceeds

theorem eof_proceeds (h : c.eof = .ok c') : c.Proceeds c' := by
  obtain ⟨c₁, forged, rest⟩ := bind_eq_ok.mp h
  cases rest
  exact (reply_proceeds forged).1.trans (.of_conn rfl rfl rfl)

/-- What is read from the host goes to the client; an error resets and closes the connection, and
is not reported further. -/
theorem processReceive_proceeds {read : IoResult (List UInt8)} {result : IoResult Unit}
    (isOpen : c.conn.closed = false) (h : c.processReceive read = .ok (result, c')) :
    c.Proceeds c' ∧ (c'.conn.closed = true → result = .ok ()) := by
  unfold processReceive at h
  split at h
  · cases h
  split at h
  · cases h
  obtain ⟨primed, -, h⟩ := bind_eq_ok.mp h
  obtain ⟨⟨outcome, packetizer⟩, -, h⟩ := bind_eq_ok.mp h
  have built : c.Proceeds { c with conn := { c.conn with networkToClient := packetizer } } :=
    .of_conn rfl rfl rfl
  cases outcome with
  | ok packet =>
      cases packet with
      | some packet =>
          obtain ⟨c₁, sent, rest⟩ := bind_eq_ok.mp h
          cases rest
          refine ⟨built.trans (.trans ?_ (sendDataToClient_proceeds sent)), fun _ => rfl⟩
          exact .of_conn rfl rfl rfl
      | none =>
          obtain ⟨c₁, ended, rest⟩ := bind_eq_ok.mp h
          cases rest
          refine ⟨built.trans (.trans ?_ (eof_proceeds ended)), fun _ => rfl⟩
          exact .of_conn rfl rfl rfl
  | error err =>
      cases err with
      | wouldBlock =>
          cases h
          exact ⟨built, fun closed => absurd (isOpen.symm.trans closed) (by decide)⟩
      | other =>
          obtain ⟨c₁, forged, rest⟩ := bind_eq_ok.mp h
          cases rest
          obtain ⟨proceeds, closed, -⟩ := reply_proceeds forged
          exact ⟨built.trans (proceeds.trans (close_proceeds (closed.trans isOpen))), fun _ => rfl⟩

/-- The writable half of an event closes the connection only where it has dealt with the error
itself. -/
theorem processWritable_proceeds {answers : SocketAnswers} {result : IoResult Unit}
    (isOpen : c.conn.closed = false) (h : c.processWritable answers = .ok (result, c')) :
    c.Proceeds c' ∧ (c'.conn.closed = true → result = .ok ()) := by
  unfold processWritable at h
  split at h
  · obtain ⟨c₁, connected, rest⟩ := bind_eq_ok.mp h
    cases rest
    exact ⟨processConnect_proceeds isOpen connected, fun _ => rfl⟩
  · exact processSend_proceeds isOpen h

/-- An event of an open connection: the readable half is skipped when the writable one has closed
it. -/
theorem processReady_proceeds {ready : Ready} {answers : SocketAnswers} {result : IoResult Unit}
    (isOpen : c.conn.closed = false) (h : c.processReady ready answers = .ok (result, c')) :
    c.Proceeds c' ∧ (c'.conn.closed = true → result = .ok ()) := by
  have writable {result : IoResult Unit} {c₁ : TcpContext}
      (h : (if ready.isWritable then c.processWritable answers else .ok (.ok (), c)) =
        .ok (result, c₁)) : c.Proceeds c₁ ∧ (c₁.conn.closed = true → result = .ok ()) := by
    split at h
    · exact processWritable_proceeds isOpen h
    · cases h
      exact ⟨.refl _, fun _ => rfl⟩
  have readable {result : IoResult Unit} {c₁ c₂ : TcpContext}
      (h : (if c₁.conn.closed = false ∧ ready.isReadable then c₁.processReceive answers.read
        else .ok (.ok (), c₁)) = .ok (result, c₂)) :
      c₁.Proceeds c₂ ∧ (c₂.conn.closed = true → result = .ok ()) := by
    split at h
    · rename_i both
      exact processReceive_proceeds both.1 h
    · cases h
      exact ⟨.refl _, fun _ => rfl⟩
  rcases orReturn_eq_ok.mp h with ⟨c₁, sent, h⟩ | ⟨err, c₁, sent, rest⟩
  · rcases orReturn_eq_ok.mp h with ⟨c₂, received, h⟩ | ⟨err, c₂, received, rest⟩
    · obtain ⟨c₃, updated, rest⟩ := bind_eq_ok.mp h
      cases rest
      refine ⟨((writable sent).1.trans (readable received).1).trans ?_, fun _ => rfl⟩
      split at updated
      · cases updated
        exact .refl _
      · exact (updateInterests_proceeds updated).1
    · cases rest
      exact ⟨(writable sent).1.trans (readable received).1, (readable received).2⟩
  · cases rest
    exact writable sent

/-- A hang-up always closes the connection. -/
theorem processHup_proceeds (isOpen : c.conn.closed = false) (h : c.processHup = .ok c') :
    c.Proceeds c' ∧ c'.conn.closed = true := by
  obtain ⟨c₁, replied, rest⟩ := bind_eq_ok.mp h
  cases rest
  split at replied
  · obtain ⟨proceeds, closed, -⟩ := reply_proceeds replied
    exact ⟨proceeds.trans (close_proceeds (closed.trans isOpen)), rfl⟩
  · cases replied
    exact ⟨close_proceeds isOpen, rfl⟩

/-- A connection that expires is closed, and its client is sent a RST during the handshake. -/
theorem expire_proceeds (isOpen : c.conn.closed = false) (h : c.expire = .ok c') :
    c.Proceeds c' ∧ c'.conn.closed = true := by
  unfold expire at h
  split at h
  · exact replyAndClose_proceeds isOpen h
  · cases h
    exact ⟨close_proceeds isOpen, rfl⟩

theorem asConnection_removeIfClosed (c : TcpContext) :
    (if c.conn.closed then c.removeFromRouter else c).asConnection =
      c.asConnection.removeIfClosed := by
  show _ = if c.conn.closed then _ else _
  split <;> rfl

/-- What `process` comes to: the event was dealt with, or it reports an error and leaves the
connection open. -/
theorem process_proceeds {ready : Ready} {answers : SocketAnswers} {now : Instant}
    {result : IoResult Unit} (isOpen : c.conn.closed = false)
    (h : c.process ready answers now = .ok (result, c')) :
    (result = .ok () ∧ c.asConnection.Reacts (ready = .empty) c'.asConnection) ∨
      (ready ≠ .empty ∧ c.Proceeds c' ∧ c'.conn.closed = false) := by
  unfold process at h
  rw [if_neg (by rw [isOpen]; exact Bool.false_ne_true)] at h
  have touched : c.Proceeds { c with conn := c.conn.touch now } := .of_conn rfl rfl rfl
  have body {result : IoResult Unit} {c₁ : TcpContext}
      (h : (if ready.isReadable ∨ ready.isWritable then
          processReady { c with conn := c.conn.touch now } ready answers
        else do return (.ok (), ← processHup { c with conn := c.conn.touch now })) =
        .ok (result, c₁)) :
      c.Proceeds c₁ ∧ (c₁.conn.closed = true → result = .ok ()) ∧
        (ready = .empty → c₁.conn.closed = true ∧ result = .ok ()) := by
    split at h
    · rename_i flagged
      obtain ⟨proceeds, kept⟩ := processReady_proceeds
        (c := { c with conn := c.conn.touch now }) isOpen h
      refine ⟨touched.trans proceeds, kept, fun hup => ?_⟩
      rw [hup] at flagged
      exact absurd flagged (by decide)
    · obtain ⟨c₂, hup, rest⟩ := bind_eq_ok.mp h
      cases rest
      obtain ⟨proceeds, closed⟩ := processHup_proceeds
        (c := { c with conn := c.conn.touch now }) isOpen hup
      exact ⟨touched.trans proceeds, fun _ => rfl, fun _ => ⟨closed, rfl⟩⟩
  rcases orReturn_eq_ok.mp h with ⟨c₁, processed, rest⟩ | ⟨err, c₁, processed, rest⟩
  · obtain ⟨proceeds, -, hup⟩ := body processed
    cases rest
    exact .inl ⟨rfl, c₁.asConnection, proceeds, fun empty => (hup empty).1,
      asConnection_removeIfClosed c₁⟩
  · obtain ⟨proceeds, kept, hup⟩ := body processed
    cases rest
    refine .inr ⟨fun empty => ?_, proceeds, ?_⟩
    · cases (hup empty).2
    · cases closed : c'.conn.closed with
      | false => rfl
      | true => cases kept closed

/-- What an event does to an open TCP connection: it goes on, or it is closed and removed, as it
always is by a hang-up. -/
theorem onReady_reacts {ready : Ready} {answers : SocketAnswers} {now : Instant}
    (isOpen : c.conn.closed = false) (h : c.onReady ready answers now = .ok c') :
    c.asConnection.Reacts (ready = .empty) c'.asConnection := by
  obtain ⟨⟨result, c₁⟩, processed, h⟩ := bind_eq_ok.mp h
  rcases process_proceeds isOpen processed with ⟨rfl, reacts⟩ | ⟨flagged, proceeds, stays⟩
  · cases h
    exact reacts
  · cases result with
    | ok _ =>
        cases h
        exact proceeds.reacts_open stays flagged
    | error err =>
        cases err with
        | wouldBlock =>
            cases h
            exact proceeds.reacts_open stays flagged
        | other =>
            cases h
            rw [if_neg (by rw [stays]; exact Bool.false_ne_true)]
            exact (proceeds.trans (close_proceeds stays)).reacts_closed rfl

/-- A closed connection does nothing on an event, and what it holds stays as it is. -/
theorem onReady_closed {ready : Ready} {answers : SocketAnswers} {now : Instant}
    (closed : c.conn.closed = true) (h : c.onReady ready answers now = .ok c') : c' = c := by
  obtain ⟨⟨result, c₁⟩, processed, h⟩ := bind_eq_ok.mp h
  unfold process at processed
  rw [if_pos closed] at processed
  cases processed
  cases h
  rfl

end TcpContext

/-! ## UDP -/

namespace UdpContext

variable {c c₁ c' : UdpContext}

/-- What it does as a connection.  The three kinds have contexts of their own, and the rules are
about the common one. -/
abbrev Proceeds (c c' : UdpContext) : Prop := c.asConnection.Proceeds c'.asConnection

theorem close_proceeds (isOpen : c.conn.closed = false) : c.Proceeds c.close :=
  .of_close rfl rfl isOpen rfl

theorem updateInterests_proceeds (isOpen : c.conn.closed = false) (h : c.updateInterests = .ok c') :
    c.Proceeds c' ∧ c'.conn.closed = false := by
  unfold updateInterests at h
  split at h
  · obtain ⟨selector, reregistered, rest⟩ := bind_eq_ok.mp h
    obtain ⟨-, rfl⟩ := Selector.reregister_eq_ok.mp reregistered
    cases rest
    refine ⟨.of_interests rfl rfl isOpen rfl ⟨fun other ne => ?_, rfl⟩, isOpen⟩
    exact (Selector.registered_register _ _ _ _).trans (if_neg ne)
  · cases h
    exact ⟨.refl _, isOpen⟩

/-- A datagram of the client is queued or dropped, and the connection stays open. -/
theorem sendToNetwork_proceeds {packet : IpPacket} (isOpen : c.conn.closed = false)
    (h : c.sendToNetwork packet = .ok c') : c.Proceeds c' := by
  cases packet with
  | ipv6 _ =>
      cases h
      exact .refl _
  | ipv4 packet =>
      obtain ⟨payload, -, h⟩ := bind_eq_ok.mp h
      cases payload with
      | none => cases h
      | some payload =>
          obtain ⟨⟨stored, clientToNetwork⟩, -, h⟩ := bind_eq_ok.mp h
          cases stored with
          | ok _ =>
              have queued : c.Proceeds (c.withQueue clientToNetwork) := .of_conn rfl rfl rfl
              have updated := updateInterests_proceeds (c := c.withQueue clientToNetwork) isOpen h
              exact queued.trans updated.1
          | error _ =>
              cases h
              exact .refl _

/-- The oldest datagram is offered to the socket; an error other than `WouldBlock` closes the
connection. -/
theorem processSend_proceeds {write : IoResult ℕ} (isOpen : c.conn.closed = false)
    (h : c.processSend write = .ok c') : c.Proceeds c' := by
  obtain ⟨⟨result, written, clientToNetwork⟩, -, h⟩ := bind_eq_ok.mp h
  have queued : c.Proceeds (c.withQueue clientToNetwork) := .of_conn rfl rfl rfl
  cases result with
  | ok _ =>
      cases h
      exact queued
  | error err =>
      cases err with
      | wouldBlock =>
          cases h
          exact queued
      | other =>
          cases h
          exact queued.trans (close_proceeds isOpen)

/-- A datagram of the host is appended as a packet or dropped, and the connection stays as open as
it was. -/
theorem read_proceeds {source : IoResult (List UInt8)} {result : IoResult Unit}
    (h : c.read source = .ok (result, c')) : c.Proceeds c' ∧ c'.conn.closed = c.conn.closed := by
  obtain ⟨⟨packet, networkToClient⟩, -, h⟩ := bind_eq_ok.mp h
  cases packet with
  | error _ =>
      cases h
      exact ⟨.of_conn rfl rfl rfl, rfl⟩
  | ok packet =>
      obtain ⟨⟨sent, client, selector⟩, offered, rest⟩ := bind_eq_ok.mp h
      cases rest
      exact ⟨.of_send rfl rfl rfl (.of_sendRawToClient offered)
        (Client.sendRawToClient_ok offered).2.1, rfl⟩

/-- A read that fails closes the connection, and is not reported further. -/
theorem processReceive_proceeds {source : IoResult (List UInt8)} {result : IoResult Unit}
    (isOpen : c.conn.closed = false) (h : c.processReceive source = .ok (result, c')) :
    c.Proceeds c' ∧ (c'.conn.closed = true → result = .ok ()) := by
  obtain ⟨⟨answer, c₁⟩, wasRead, h⟩ := bind_eq_ok.mp h
  obtain ⟨proceeds, closed⟩ := read_proceeds wasRead
  cases answer with
  | ok _ =>
      cases h
      exact ⟨proceeds, fun _ => rfl⟩
  | error err =>
      cases err with
      | wouldBlock =>
          cases h
          refine ⟨proceeds, fun isClosed => ?_⟩
          exact absurd ((closed.trans isOpen).symm.trans isClosed) (by decide)
      | other =>
          cases h
          exact ⟨proceeds.trans (close_proceeds (closed.trans isOpen)), fun _ => rfl⟩

/-- An event of an open connection: the readable half is skipped when the writable one has closed
it. -/
theorem processReady_proceeds {ready : Ready} {answers : SocketAnswers} {result : IoResult Unit}
    (isOpen : c.conn.closed = false) (h : c.processReady ready answers = .ok (result, c')) :
    c.Proceeds c' ∧ (c'.conn.closed = true → result = .ok ()) := by
  obtain ⟨c₁, sent, h⟩ := bind_eq_ok.mp h
  have writable : c.Proceeds c₁ := by
    split at sent
    · exact processSend_proceeds isOpen sent
    · cases sent
      exact .refl _
  have readable {result : IoResult Unit} {c₂ : UdpContext}
      (h : (if c₁.conn.closed = false ∧ ready.isReadable then c₁.processReceive answers.read
        else .ok (.ok (), c₁)) = .ok (result, c₂)) :
      c₁.Proceeds c₂ ∧ (c₂.conn.closed = true → result = .ok ()) := by
    split at h
    · rename_i both
      exact processReceive_proceeds both.1 h
    · cases h
      exact ⟨.refl _, fun _ => rfl⟩
  rcases orReturn_eq_ok.mp h with ⟨c₂, received, h⟩ | ⟨err, c₂, received, rest⟩
  · obtain ⟨c₃, updated, rest⟩ := bind_eq_ok.mp h
    cases rest
    refine ⟨(writable.trans (readable received).1).trans ?_, fun _ => rfl⟩
    split at updated
    · cases updated
      exact .refl _
    · rename_i isOpen₂
      exact (updateInterests_proceeds (by rwa [Bool.not_eq_true] at isOpen₂) updated).1
  · cases rest
    exact ⟨writable.trans (readable received).1, (readable received).2⟩

theorem asConnection_removeIfClosed (c : UdpContext) :
    (if c.conn.closed then c.removeFromRouter else c).asConnection =
      c.asConnection.removeIfClosed := by
  show _ = if c.conn.closed then _ else _
  split <;> rfl

/-- What `process` comes to: the event was dealt with, or it reports an error and leaves the
connection open. -/
theorem process_proceeds {ready : Ready} {answers : SocketAnswers} {now : Instant}
    {result : IoResult Unit} (isOpen : c.conn.closed = false)
    (h : c.process ready answers now = .ok (result, c')) :
    (result = .ok () ∧ c.asConnection.Reacts (ready = .empty) c'.asConnection) ∨
      (ready ≠ .empty ∧ c.Proceeds c' ∧ c'.conn.closed = false) := by
  unfold process at h
  rw [if_neg (by rw [isOpen]; exact Bool.false_ne_true)] at h
  have touched : c.Proceeds { c with conn := c.conn.touch now } := .of_conn rfl rfl rfl
  have body {result : IoResult Unit} {c₁ : UdpContext}
      (h : (if ready.isReadable ∨ ready.isWritable then
          processReady { c with conn := c.conn.touch now } ready answers
        else .ok (.ok (), close { c with conn := c.conn.touch now })) = .ok (result, c₁)) :
      c.Proceeds c₁ ∧ (c₁.conn.closed = true → result = .ok ()) ∧
        (ready = .empty → c₁.conn.closed = true ∧ result = .ok ()) := by
    split at h
    · rename_i flagged
      obtain ⟨proceeds, kept⟩ := processReady_proceeds
        (c := { c with conn := c.conn.touch now }) isOpen h
      refine ⟨touched.trans proceeds, kept, fun hup => ?_⟩
      rw [hup] at flagged
      exact absurd flagged (by decide)
    · cases h
      exact ⟨touched.trans (close_proceeds isOpen), fun _ => rfl, fun _ => ⟨rfl, rfl⟩⟩
  rcases orReturn_eq_ok.mp h with ⟨c₁, processed, rest⟩ | ⟨err, c₁, processed, rest⟩
  · obtain ⟨proceeds, -, hup⟩ := body processed
    cases rest
    exact .inl ⟨rfl, c₁.asConnection, proceeds, fun empty => (hup empty).1,
      asConnection_removeIfClosed c₁⟩
  · obtain ⟨proceeds, kept, hup⟩ := body processed
    cases rest
    refine .inr ⟨fun empty => ?_, proceeds, ?_⟩
    · cases (hup empty).2
    · cases closed : c'.conn.closed with
      | false => rfl
      | true => cases kept closed

/-- What an event does to an open UDP connection: it goes on, or it is closed and removed, as it
always is by a hang-up. -/
theorem onReady_reacts {ready : Ready} {answers : SocketAnswers} {now : Instant}
    (isOpen : c.conn.closed = false) (h : c.onReady ready answers now = .ok c') :
    c.asConnection.Reacts (ready = .empty) c'.asConnection := by
  obtain ⟨⟨result, c₁⟩, processed, h⟩ := bind_eq_ok.mp h
  rcases process_proceeds isOpen processed with ⟨rfl, reacts⟩ | ⟨flagged, proceeds, stays⟩
  · cases h
    exact reacts
  · cases result with
    | ok _ =>
        cases h
        exact proceeds.reacts_open stays flagged
    | error err =>
        cases err with
        | wouldBlock =>
            cases h
            exact proceeds.reacts_open stays flagged
        | other =>
            cases h
            rw [if_neg (by rw [stays]; exact Bool.false_ne_true)]
            exact (proceeds.trans (close_proceeds stays)).reacts_closed rfl

/-- A closed connection does nothing on an event, and what it holds stays as it is. -/
theorem onReady_closed {ready : Ready} {answers : SocketAnswers} {now : Instant}
    (closed : c.conn.closed = true) (h : c.onReady ready answers now = .ok c') : c' = c := by
  obtain ⟨⟨result, c₁⟩, processed, h⟩ := bind_eq_ok.mp h
  unfold process at processed
  rw [if_pos closed] at processed
  cases processed
  cases h
  rfl

end UdpContext

/-! ## IPv6 -/

/-- The socket refuses the payload of an IPv6 packet: there is one, and the write fails with more
than that it would block. -/
def PacketAnswers.Refuse (answers : PacketAnswers) (packet : IpPacket) : Prop :=
  ∃ ipv6 payload, packet = .ipv6 ipv6 ∧ ipv6.payload = .ok payload ∧ payload.getD [] ≠ [] ∧
    answers.write = .error .other

namespace Ipv6Context

variable {c c₁ c' : Ipv6Context}

/-- What it does as a connection.  The three kinds have contexts of their own, and the rules are
about the common one. -/
abbrev Proceeds (c c' : Ipv6Context) : Prop := c.asConnection.Proceeds c'.asConnection

/-- Of an open connection `close` does two things: it sets the flag and deregisters the socket. -/
theorem close_of_open (isOpen : c.conn.closed = false) :
    c.close = { c.markClosed with
      selector := (c.selector.deregister (.connection c.conn.handle)).2 } :=
  if_neg (by rw [isOpen]; exact Bool.false_ne_true)

/-- To close an open connection is to close it once. -/
theorem close_proceeds (isOpen : c.conn.closed = false) :
    c.Proceeds c.close ∧ c.close.conn.closed = true := by
  rw [close_of_open isOpen]
  exact ⟨.of_close rfl rfl isOpen rfl, rfl⟩

/-- **A refused payload marks the connection closed, and nothing more.**  The host socket of an
IPv6 flow is written to at once, and an error of it closes the flow; the route is removed by the
caller. -/
theorem sendToNetwork_acts {packet : IpPacket} {answers : PacketAnswers}
    (h : c.sendToNetwork packet answers.write answers.now = .ok c') :
    c.asConnection.Acts c'.asConnection ∧ (answers.Refuse packet ∨ c.Proceeds c') := by
  cases packet with
  | ipv4 _ =>
      cases h
      exact ⟨.refl _, .inr (.refl _)⟩
  | ipv6 packet =>
      obtain ⟨payload, carried, ⟨rfl, -⟩ | ⟨n, -, -, rfl⟩ | ⟨some, refused, rfl⟩⟩ :=
        sendToNetwork_ok h
      · have proceeds : c.Proceeds (c.touch answers.now) := .of_conn rfl rfl rfl
        exact ⟨proceeds.toActs, .inr proceeds⟩
      · have proceeds : c.Proceeds ((c.touch answers.now).record (.wrote ((payload.getD []).take n))) :=
          .of_conn rfl rfl rfl
        exact ⟨proceeds.toActs, .inr proceeds⟩
      · exact ⟨⟨rfl, rfl, .refl _, fun _ _ => rfl⟩, .inl ⟨packet, payload, rfl, carried, some, refused⟩⟩

/-- No event closes the connection for a hang-up. -/
theorem onReady_reacts {ready : Ready} {source : IoResult (List UInt8)} {now : Instant}
    (isOpen : c.conn.closed = false) (h : c.onReady ready source now = .ok c') :
    c.asConnection.Reacts False c'.asConnection := by
  cases onReady_ok h with
  | ignored _ => exact (ConnectionContext.Proceeds.refl _).reacts_open isOpen id
  | ended _ _ _ => exact (close_proceeds isOpen).1.reacts_closed (close_proceeds isOpen).2
  | received _ _ _ _ offered _ =>
      have same := (Client.sendRawToClient_ok offered).2.1
      exact ConnectionContext.Proceeds.reacts_open
        (.of_send rfl rfl rfl (.of_sendRawToClient offered) same) isOpen id

/-- A closed connection does nothing on an event, and what it holds stays as it is. -/
theorem onReady_closed {ready : Ready} {source : IoResult (List UInt8)} {now : Instant}
    (closed : c.conn.closed = true) (h : c.onReady ready source now = .ok c') : c' = c := by
  cases onReady_ok h with
  | ignored _ => rfl
  | ended isOpen _ _ => exact absurd (isOpen.symm.trans closed) (by decide)
  | received isOpen _ _ _ _ _ => exact absurd (isOpen.symm.trans closed) (by decide)

end Ipv6Context

/-! ## Every kind -/

/-- The socket refuses the payload that the call brings.  It is the one call that closes a
connection without deregistering it. -/
def ConnectionCall.Refused (call : ConnectionCall) : Prop :=
  ∃ packet answers, call = .packet packet answers ∧ answers.Refuse packet

/-- The call returns, by the rules unless a payload is refused.  This is what the router sees of a
call, whatever kind of connection it is made to. -/
structure ConnectionContext.Executes (call : ConnectionCall) (c c' : ConnectionContext) : Prop
    extends ConnectionContext.Acts c c' where
  rules : call.Refused ∨ c.Proceeds c'
  returns : c.Returns call c'

/-- A call that proceeds by the rules and returns is one that the router may make. -/
theorem ConnectionContext.Proceeds.executes {call : ConnectionCall} {c c' : ConnectionContext}
    (proceeds : c.Proceeds c') (returns : c.Returns call c') : c.Executes call c' :=
  ⟨proceeds.toActs, .inr proceeds, returns⟩

/-- The kinds that close on an event with neither readiness. -/
def Connection.closesOnHup : Connection → Bool
  | .tcp _ | .udp _ => true
  | .ipv6 _ => false

namespace ConnectionContext

variable {c c' : ConnectionContext}

/-- Every kind of connection closes once, and is closed behind it. -/
theorem close_proceeds (isOpen : c.conn.isClosed = false) :
    c.Proceeds c.close ∧ c.close.conn.isClosed = true := by
  obtain ⟨conn, client, selector⟩ := c
  cases conn with
  | tcp conn => exact ⟨TcpContext.close_proceeds (c := ⟨conn, client, selector⟩) isOpen, rfl⟩
  | udp conn => exact ⟨UdpContext.close_proceeds (c := ⟨conn, client, selector⟩) isOpen, rfl⟩
  | ipv6 conn => exact Ipv6Context.close_proceeds (c := ⟨conn, client, selector⟩) isOpen

/-- Every kind of connection that expires is closed behind it. -/
theorem expire_proceeds (isOpen : c.conn.isClosed = false) (h : c.expire = .ok c') :
    c.Proceeds c' ∧ c'.conn.isClosed = true := by
  obtain ⟨conn, client, selector⟩ := c
  cases conn with
  | tcp conn =>
      obtain ⟨c₁, expired, rest⟩ := bind_eq_ok.mp h
      cases rest
      exact TcpContext.expire_proceeds isOpen expired
  | udp conn =>
      cases h
      exact close_proceeds isOpen
  | ipv6 conn =>
      cases h
      exact close_proceeds isOpen

/-- **A packet is treated by the rules, unless a socket refuses an IPv6 payload.** -/
theorem sendToNetwork_acts {packet : IpPacket} {answers : PacketAnswers}
    (isOpen : c.conn.isClosed = false) (h : c.sendToNetwork packet answers = .ok c') :
    c.Acts c' ∧ (answers.Refuse packet ∨ c.Proceeds c') := by
  obtain ⟨conn, client, selector⟩ := c
  cases conn with
  | tcp conn =>
      obtain ⟨c₁, sent, rest⟩ := bind_eq_ok.mp h
      cases rest
      have proceeds := TcpContext.sendToNetwork_proceeds isOpen sent
      exact ⟨proceeds.toActs, .inr proceeds⟩
  | udp conn =>
      obtain ⟨c₁, sent, rest⟩ := bind_eq_ok.mp h
      cases rest
      have proceeds := UdpContext.sendToNetwork_proceeds isOpen sent
      exact ⟨proceeds.toActs, .inr proceeds⟩
  | ipv6 conn =>
      obtain ⟨c₁, sent, rest⟩ := bind_eq_ok.mp h
      cases rest
      exact Ipv6Context.sendToNetwork_acts sent

/-- **What an event does to an open connection.**  It stays in the router as long as it is open,
and is removed as soon as the event has closed it, which a hangup always does. -/
theorem onReady_reacts {ready : Ready} {answers : SocketAnswers} {now : Instant}
    (isOpen : c.conn.isClosed = false) (h : c.onReady ready answers now = .ok c') :
    c.Reacts (ready = .empty ∧ c.conn.closesOnHup = true) c' := by
  obtain ⟨conn, client, selector⟩ := c
  cases conn with
  | tcp conn =>
      obtain ⟨c₁, handled, rest⟩ := bind_eq_ok.mp h
      cases rest
      obtain ⟨c₂, proceeds, hup, eq⟩ := TcpContext.onReady_reacts isOpen handled
      exact ⟨c₂, proceeds, fun empty => hup empty.1, eq⟩
  | udp conn =>
      obtain ⟨c₁, handled, rest⟩ := bind_eq_ok.mp h
      cases rest
      obtain ⟨c₂, proceeds, hup, eq⟩ := UdpContext.onReady_reacts isOpen handled
      exact ⟨c₂, proceeds, fun empty => hup empty.1, eq⟩
  | ipv6 conn =>
      obtain ⟨c₁, handled, rest⟩ := bind_eq_ok.mp h
      cases rest
      obtain ⟨c₂, proceeds, -, eq⟩ := Ipv6Context.onReady_reacts isOpen handled
      exact ⟨c₂, proceeds, fun empty => absurd empty.2 Bool.false_ne_true, eq⟩

/-- An event of a connection that has closed changes nothing. -/
theorem onReady_closed {ready : Ready} {answers : SocketAnswers} {now : Instant}
    (closed : c.conn.isClosed = true) (h : c.onReady ready answers now = .ok c') : c' = c := by
  obtain ⟨conn, client, selector⟩ := c
  cases conn with
  | tcp conn =>
      obtain ⟨c₁, handled, rest⟩ := bind_eq_ok.mp h
      cases rest
      rw [TcpContext.onReady_closed closed handled]
      rfl
  | udp conn =>
      obtain ⟨c₁, handled, rest⟩ := bind_eq_ok.mp h
      cases rest
      rw [UdpContext.onReady_closed closed handled]
      rfl
  | ipv6 conn =>
      obtain ⟨c₁, handled, rest⟩ := bind_eq_ok.mp h
      cases rest
      rw [Ipv6Context.onReady_closed closed handled]
      rfl

end ConnectionContext

end ReverseTether
