import ReverseTether.ConnectionCalls
import ReverseTether.Routes

/-!
# What the sockets are registered for

A connection notes what it has registered its socket for, and so does the client; the
poller knows nothing else.  A call keeps the two the same, and leaves a client whose
interests were up to date so (`ConnectionContext.Registers`).

What is shown for one call is carried to the relay by the moves of its handlers
(`Relay.run_noted`, `Relay.run_watched`): in every state of a run each open connection is
registered under the interests that it has noted, and an open client as well.

That is what makes the readiness of an event mean something.  The poller reports no more than
it was asked for, so an event that finds a connection or a client ready in some way says that
it had noted this interest when the poller last looked.
-/

namespace ReverseTether

open Library Relation

/-- What the connection has noted that its socket is registered for. -/
def Connection.interests : Connection → Ready
  | .tcp conn => conn.interests
  | .udp conn => conn.interests
  | .ipv6 _ => .readable

/-- The socket of an open connection is registered for what was noted.  The connection keeps a copy
of its interests, and the selector has the registration; the two are changed together. -/
def ConnectionContext.Noted (c : ConnectionContext) : Prop :=
  c.conn.isClosed = false →
    c.selector.registered (.connection c.conn.handle) = some c.conn.interests

/-- What a call keeps about registrations: its own is as the connection has noted it, and that of
the client is, too, and up to date if it was. -/
structure ConnectionContext.Registers (c c' : ConnectionContext) : Prop where
  own : c.Noted → c'.Noted
  client : c.selector.registered .client = some c.client.interests →
    c'.selector.registered .client = some c'.client.interests
  settled : c.client.interests = c.client.wanted → c'.client.interests = c'.client.wanted

/-- A client that was up to date is so after a packet was offered to it. -/
theorem Client.sendRawToClient_settled {client client' : Client} {selector selector' : Selector}
    {raw : List UInt8} {sent : IoResult Unit} (settled : client.interests = client.wanted)
    (h : client.sendRawToClient selector raw = .ok (sent, client', selector')) :
    client'.interests = client'.wanted := by
  unfold sendRawToClient at h
  split at h
  · obtain ⟨networkToClient, -, h⟩ := bind_eq_ok.mp h
    obtain ⟨⟨client₁, selector₁⟩, updated, rest⟩ := bind_eq_ok.mp h
    cases rest
    obtain ⟨-, stream, -, -, interests, -⟩ := updateInterests_ok updated
    rw [interests, wanted, wanted, stream]
  · cases h
    exact settled

namespace ConnectionContext.Registers

variable {c c₁ c' : ConnectionContext}

theorem refl (c : ConnectionContext) : c.Registers c := ⟨id, id, id⟩

theorem trans (first : c.Registers c₁) (second : c₁.Registers c') : c.Registers c' where
  own noted := second.own (first.own noted)
  client known := second.client (first.client known)
  settled same := second.settled (first.settled same)

/-- Only the connection has changed, and neither its life nor what it notes. -/
theorem of_conn {conn : Connection} (handle : conn.handle = c.conn.handle)
    (closed : conn.isClosed = c.conn.isClosed) (interests : conn.interests = c.conn.interests) :
    c.Registers { c with conn } where
  own noted isOpen := by
    show c.selector.registered (.connection conn.handle) = some conn.interests
    rw [handle, interests]
    exact noted (closed.symm.trans isOpen)
  client := id
  settled := id

/-- The connection has been closed. -/
theorem of_close {conn : Connection} {selector : Selector} (closed : conn.isClosed = true)
    (kept : selector.registered .client = c.selector.registered .client) :
    c.Registers ⟨conn, c.client, selector⟩ where
  own _ isOpen := absurd (closed.symm.trans isOpen) (by simp)
  client := kept.trans
  settled := id

/-- A packet was offered to the client. -/
theorem of_send {conn : Connection} {client : Client} {selector : Selector} {raw : List UInt8}
    {sent : IoResult Unit} (handle : conn.handle = c.conn.handle)
    (closed : conn.isClosed = c.conn.isClosed) (interests : conn.interests = c.conn.interests)
    (offered : c.client.sendRawToClient c.selector raw = .ok (sent, client, selector)) :
    c.Registers ⟨conn, client, selector⟩ := by
  obtain ⟨-, same, registered, -⟩ := Client.sendRawToClient_ok offered
  refine ⟨fun noted isOpen => ?_, registered, fun settled => ?_⟩
  · show selector.registered (.connection conn.handle) = some conn.interests
    rw [same.registered _ (by simp), handle, interests]
    exact noted (closed.symm.trans isOpen)
  · exact Client.sendRawToClient_settled settled offered

/-- The interests of the connection have been brought up to date. -/
theorem of_interests {conn : Connection} {selector : Selector}
    (handle : conn.handle = c.conn.handle) (closed : conn.isClosed = c.conn.isClosed)
    (same : c.selector.SameBut (.connection c.conn.handle) selector)
    (known : c.selector.registered (.connection c.conn.handle) = some c.conn.interests →
      selector.registered (.connection c.conn.handle) = some conn.interests) :
    c.Registers ⟨conn, c.client, selector⟩ where
  own noted isOpen := by
    show selector.registered (.connection conn.handle) = some conn.interests
    rw [handle]
    exact known (noted (closed.symm.trans isOpen))
  client := (same.registered _ (by simp)).trans
  settled := id

/-- Another client, which differs in what it does not register. -/
theorem of_client {client : Client} (interests : client.interests = c.client.interests)
    (stream : client.networkToClient = c.client.networkToClient) :
    c.Registers { c with client } where
  own := id
  client known := by
    show c.selector.registered .client = some client.interests
    rw [interests]
    exact known
  settled same := by
    show client.interests = client.wanted
    rw [interests, same, Client.wanted, Client.wanted, stream]

end ConnectionContext.Registers

/-! ## TCP -/

namespace TcpContext

variable {c c' : TcpContext}

/-- A closed connection gives its registration back. -/
theorem close_registers (c : TcpContext) : c.asConnection.Registers c.close.asConnection :=
  .of_close rfl <| by
    rw [TcpContext.close, Selector.registered_deregister, if_neg (by simp)]
    rfl

/-- A forged segment registers nothing. -/
theorem reply_registers {flags : UInt16} (h : c.replyEmptyPacketToClient flags = .ok c') :
    c.asConnection.Registers c'.asConnection := by
  obtain ⟨packet, packetizer, sent, -, offered, same⟩ := replyEmptyPacketToClient_ok h
  show c.asConnection.Registers ⟨.tcp c'.conn, c'.client, c'.selector⟩
  rw [same]
  exact .of_send rfl rfl rfl offered

/-- Neither does a data packet; it registers the client. -/
theorem sendDataToClient_registers {packet : Ipv4Packet} (h : c.sendDataToClient packet = .ok c') :
    c.asConnection.Registers c'.asConnection := by
  obtain ⟨sent, client, selector, offered, ⟨payload, -, -, conn, rfl, rfl⟩ |
    ⟨-, conn, client', rfl⟩⟩ := sendDataToClient_ok h
  · show c.asConnection.Registers ⟨.tcp c'.conn, c'.client, c'.selector⟩
    rw [conn]
    exact .of_send rfl rfl rfl offered
  · have sends : c.asConnection.Registers ⟨.tcp c'.conn, client, c'.selector⟩ := by
      rw [conn]
      exact .of_send rfl rfl rfl offered
    refine sends.trans ?_
    show ConnectionContext.Registers _ ⟨.tcp c'.conn, c'.client, c'.selector⟩
    rw [client']
    exact .of_client rfl rfl

end TcpContext

/-- **Every move of a TCP connection leaves its registration in order.**  What is noted in the
connection is what the selector was last told, as both are written in one place. -/
theorem TcpMove.registers {may : TcpWork → Prop} {c c' : TcpContext} (move : TcpMove may c c') :
    c.asConnection.Registers c'.asConnection := by
  cases move with
  | interests updated =>
      obtain ⟨-, conn, client, same, known⟩ := TcpContext.updateInterests_ok updated
      show c.asConnection.Registers ⟨.tcp c'.conn, c'.client, c'.selector⟩
      rw [client, conn]
      exact .of_interests rfl rfl same known
  | forge _ forged => exact TcpContext.reply_registers forged
  | close => exact c.close_registers
  | removeFromRouter => exact .of_client rfl rfl
  | connect _ _ forged =>
      have changed : c.asConnection.Registers
          (c.withTcb fun tcb => { tcb with state := .synReceived }).asConnection := .of_conn rfl rfl rfl
      exact (changed.trans (TcpContext.reply_registers forged)).trans (.of_conn rfl rfl rfl)
  | receive _ _ _ _ _ sent =>
      refine .trans ?_ (TcpContext.sendDataToClient_registers sent)
      exact .of_conn rfl rfl rfl
  | eof _ _ ended =>
      obtain ⟨c₁, forged, rest⟩ := bind_eq_ok.mp ended
      cases rest
      have found : c.asConnection.Registers (c.record .readEof).asConnection := .of_conn rfl rfl rfl
      exact (found.trans (TcpContext.reply_registers forged)).trans (.of_conn rfl rfl rfl)
  | answerFin _ forged => exact (TcpContext.reply_registers forged).trans (.of_conn rfl rfl rfl)
  | _ => exact .of_conn rfl rfl rfl

/-- The same for a sequence of moves. -/
theorem TcpMoves.registers {may : TcpWork → Prop} {c c' : TcpContext} (moves : TcpMoves may c c') :
    c.asConnection.Registers c'.asConnection := by
  induction moves with
  | refl => exact .refl _
  | tail _ move ih => exact ih.trans move.registers

/-- An acknowledgement registers nothing by itself. -/
theorem TcpContext.handleAck_registers {c c' : TcpContext} {packet : Ipv4Packet}
    (h : c.handleAck packet = .ok c') : c.asConnection.Registers c'.asConnection := by
  unfold handleAck at h
  split at h
  · cases h
    exact .of_conn rfl rfl rfl
  · obtain ⟨payload, -, h⟩ := bind_eq_ok.mp h
    cases payload with
    | none => cases h
    | some payload =>
        simp only at h
        split at h
        · cases h
          exact .refl _
        · split at h
          · cases h
            exact .refl _
          · obtain ⟨clientToNetwork, -, rest⟩ := bind_eq_ok.mp h
            cases rest
            exact .of_conn rfl rfl rfl

/-- What a packet brings concerns no registration. -/
theorem TcpArrival.registers {packet : Ipv4Packet} {header : TcpHeaderData} {random : UInt32}
    {c c' : TcpContext} (arrival : TcpArrival packet header random c c') :
    c.asConnection.Registers c'.asConnection := by
  cases arrival with
  | @expected acked _ _ _ _ ackPart =>
      have heard : c.asConnection.Registers (c.noteWindow header).asConnection := .of_conn rfl rfl rfl
      have answered : (c.noteWindow header).asConnection.Registers acked.asConnection := by
        split at ackPart
        · exact TcpContext.handleAck_registers ackPart
        · cases ackPart
          exact .refl _
      refine (heard.trans answered).trans ?_
      split
      · unfold TcpContext.noteFin
        simp only
        split <;> exact .of_conn rfl rfl rfl
      · exact .refl _
  | _ => exact .of_conn rfl rfl rfl

/-- **Every method of a TCP connection does.**  It follows from the moves by transitivity, as
registering is a relation between the state before and after. -/
theorem TcpContext.Returns.registers {c c' : TcpContext} {call : ConnectionCall}
    (returns : c.Returns call c') : c.asConnection.Registers c'.asConnection := by
  obtain ⟨c₁, hears, moves⟩ := returns.moves
  refine .trans ?_ moves.registers
  cases hears with
  | nothing => exact .refl _
  | packet _ arrival =>
      refine .trans ?_ arrival.registers
      exact .of_conn rfl rfl rfl

/-! ## The other kinds -/

/-- **Every move of a UDP connection does.** -/
theorem UdpMove.registers {c c' : UdpContext} (move : UdpMove c c') :
    c.asConnection.Registers c'.asConnection := by
  cases move with
  | interests updated =>
      unfold UdpContext.updateInterests at updated
      split at updated
      · obtain ⟨selector, reregistered, rest⟩ := bind_eq_ok.mp updated
        obtain ⟨-, rfl⟩ := Selector.reregister_eq_ok.mp reregistered
        cases rest
        refine .of_interests rfl rfl ⟨fun other ne => ?_, rfl⟩ fun _ => ?_
        · exact (Selector.registered_register _ _ _ _).trans (if_neg ne)
        · exact (Selector.registered_register _ _ _ _).trans (if_pos rfl)
      · cases updated
        exact .refl _
  | close =>
      exact .of_close rfl ((Selector.registered_deregister _ _ _).trans (if_neg (by simp)))
  | removeFromRouter => exact .of_client rfl rfl
  | read wasRead =>
      obtain ⟨⟨packet, networkToClient⟩, -, h⟩ := bind_eq_ok.mp wasRead
      cases packet with
      | error _ =>
          cases h
          exact .of_conn rfl rfl rfl
      | ok packet =>
          obtain ⟨⟨sent, client, selector⟩, offered, rest⟩ := bind_eq_ok.mp h
          cases rest
          exact .of_send rfl rfl rfl offered
  | _ => exact .of_conn rfl rfl rfl

/-- The same for a sequence of moves. -/
theorem UdpMoves.registers {c c' : UdpContext} (moves : UdpMoves c c') :
    c.asConnection.Registers c'.asConnection := by
  induction moves with
  | refl => exact .refl _
  | tail _ move ih => exact ih.trans move.registers

/-- A closed IPv6 connection gives its registration back. -/
theorem Ipv6Context.close_registers (c : Ipv6Context) :
    c.asConnection.Registers c.close.asConnection := by
  unfold close
  split
  · exact .refl _
  · exact .of_close rfl ((Selector.registered_deregister _ _ _).trans (if_neg (by simp)))

/-- **Every method of an IPv6 connection does.** -/
theorem Ipv6Context.Returns.registers {c c' : Ipv6Context} {call : ConnectionCall}
    (returns : c.Returns call c') : c.asConnection.Registers c'.asConnection := by
  cases call with
  | packet packet answers =>
      cases packet with
      | ipv4 _ =>
          cases returns
          exact .refl _
      | ipv6 packet =>
          obtain ⟨_, -, ⟨rfl, -⟩ | ⟨_, -, -, rfl⟩ | ⟨-, -, rfl⟩⟩ :=
            Ipv6Context.sendToNetwork_ok returns
          · exact .of_conn rfl rfl rfl
          · exact .of_conn rfl rfl rfl
          · exact .of_close rfl rfl
  | event ready answers now =>
      cases Ipv6Context.onReady_ok returns with
      | ignored _ => exact .refl _
      | ended _ _ _ => exact c.close_registers.trans (.of_client rfl rfl)
      | received _ _ _ _ offered _ => exact .of_send rfl rfl rfl offered
  | close =>
      cases returns
      exact c.close_registers
  | expire =>
      cases returns
      exact c.close_registers
  | next => exact returns.elim

/-! ## Every kind -/

/-- **A call keeps the registrations.**  A connection that closes is deregistered, and one that is
removed from the router was closed before. -/
theorem ConnectionContext.Executes.registers {c f : ConnectionContext} {call : ConnectionCall}
    (executes : c.Executes call f) : c.Registers f := by
  obtain ⟨conn, client, selector⟩ := c
  have returns := executes.returns
  suffices h : ∃ connections, ∃ c' : ConnectionContext, f.SameButRoutes c' ∧
      ConnectionContext.Registers ⟨conn, { client with connections }, selector⟩ c' by
    obtain ⟨connections, c', same, registers⟩ := h
    have before : ConnectionContext.Registers ⟨conn, client, selector⟩
        ⟨conn, { client with connections }, selector⟩ := .of_client rfl rfl
    have after : ConnectionContext.Registers c' (c'.withRoutes f.client.connections) :=
      .of_client rfl rfl
    have back : c'.withRoutes f.client.connections = f := by
      have eq := congrArg (fun f' : ConnectionContext => f'.withRoutes f.client.connections) same.eq
      exact eq.symm
    exact (before.trans registers).trans (back ▸ after)
  cases conn with
  | tcp conn =>
      obtain ⟨connections, c', returns, same⟩ := returns.tcp
      exact ⟨connections, _, same, returns.registers⟩
  | udp conn =>
      obtain ⟨connections, c', returns, same⟩ := returns.udp
      exact ⟨connections, _, same, returns.moves.registers⟩
  | ipv6 conn =>
      obtain ⟨connections, c', returns, same⟩ := returns.ipv6
      exact ⟨connections, _, same, returns.registers⟩

namespace ClientContext

variable {c c' : ClientContext}

/-- Every open connection has its socket registered for what it has noted.  So an event that is
polled is one that the connection has asked for. -/
def Noted (c : ClientContext) : Prop :=
  ∀ (handle : Handle) conn, c.created[handle]? = some conn → (c.enter conn).Noted

/-- The sockets of connections stay registered as they are. -/
theorem Noted.congr (noted : c.Noted) (created : c'.created = c.created)
    (kept : ∀ handle, c'.selector.registered (.connection handle) =
      c.selector.registered (.connection handle)) : c'.Noted := by
  intro handle conn place isOpen
  show c'.selector.registered (.connection conn.handle) = some conn.interests
  rw [kept]
  exact noted handle conn (created ▸ place) isOpen

/-- What a connection does keeps the notes of the router right. -/
theorem Noted.acts (noted : c.Noted) (routed : c.Routed) {handle : Handle} {conn : Connection}
    {call : ConnectionCall} {f : ConnectionContext} (place : c.created[handle]? = some conn)
    (executes : (c.enter conn).Executes call f) : (c.leave f.removeIfClosed).Noted := by
  intro other conn₁ place₁
  rw [routed.leave_created place executes.toActs] at place₁
  have selector : (c.leave f.removeIfClosed).selector = f.selector := f.removeIfClosed_selector
  by_cases eq : other = handle
  · subst eq
    rw [List.getElem?_set_self (List.getElem?_eq_some_iff.mp place).1] at place₁
    cases place₁
    intro isOpen
    rw [enter, selector]
    exact executes.registers.own (noted _ _ place) isOpen
  · rw [List.getElem?_set_ne (Ne.symm eq)] at place₁
    have there : conn₁.handle ≠ (c.enter conn).conn.handle := by
      rw [routed.places _ _ place₁]
      exact fun same => eq (same.trans (routed.places _ _ place))
    intro isOpen
    rw [enter, selector]
    show f.selector.registered (.connection conn₁.handle) = some conn₁.interests
    rw [executes.others _ there]
    exact noted _ _ place₁ isOpen

/-- A new connection is registered for what it notes. -/
theorem Noted.insert (noted : c.Noted) (routed : c.Routed) {id : ConnectionId} {conn : Connection}
    {selector : Selector} {packet : IpPacket} {answers : PacketAnswers}
    (created : Router.createConnection c id packet answers = .ok (.ok (conn, selector))) :
    (Router.insert c id conn selector).Noted := by
  have registered : conn.handle = c.created.length ∧
      selector = c.selector.register (.connection c.created.length) conn.interests := by
    cases Router.createConnection_creates created with
    | tcp _ _ created =>
        obtain ⟨_, _, _, packetizer, -, -, -, -, conn, selector⟩ := TcpConnection.create_ok created
        rw [conn]
        exact ⟨rfl, selector⟩
    | udp _ _ created =>
        obtain ⟨packetizer, -, created⟩ := bind_eq_ok.mp created
        cases created
        exact ⟨rfl, rfl⟩
    | ipv6 created =>
        obtain ⟨handle, -, -, registered⟩ := Ipv6Connection.create_ok created
        exact ⟨handle, registered⟩
  obtain ⟨handle, rfl⟩ := registered
  intro other conn₁ place isOpen
  have place : (c.created ++ [conn])[other]? = some conn₁ := place
  show (c.selector.register _ _).registered (.connection conn₁.handle) = some conn₁.interests
  rw [List.getElem?_append] at place
  rw [Selector.registered_register]
  split at place
  · rename_i inside
    have there : conn₁.handle = other := routed.places _ _ place
    rw [if_neg fun same => by
      rw [Source.connection.inj same] at there
      exact absurd (there ▸ inside) (lt_irrefl _)]
    exact noted _ _ place isOpen
  · rw [List.getElem?_singleton] at place
    split at place
    · cases place
      rw [if_pos (congrArg Source.connection handle)]
    · cases place

end ClientContext

/-- **Every move keeps them right.**  The other connections are left alone by a call, and a new one
is registered when it is created. -/
theorem ClientMove.noted {may : ConnectionCall → Prop} {reads : Prop} {c c' : ClientContext}
    (routed : c.Routed) (noted : c.Noted) (move : ClientMove may reads c c') : c'.Noted := by
  cases move with
  | acts place _ _ executes => exact noted.acts routed place executes
  | opens _ _ new created executes =>
      exact (noted.insert routed created).acts (Router.insert_routed routed new created)
        (Router.insert_place _ _ _ _) executes
  | serves _ same _ _ => exact noted.congr rfl fun _ => same.registered _ (by simp)
  | receives _ _ => exact noted.congr rfl fun _ => rfl
  | sendsId _ _ => exact noted.congr rfl fun _ => rfl
  | writes _ _ => exact noted.congr rfl fun _ => rfl
  | closes =>
      exact noted.congr rfl fun _ =>
        (Selector.registered_deregister _ _ _).trans (if_neg (by simp))

/-- **In every run each open connection is registered for what it has noted.**  An event that is
polled has therefore interests that the connection knows of, which is where the statements about
polled events begin. -/
theorem Relay.run_noted {t : List (Relay × Label)} {s : Relay} (run : machine.Run t s) : s.Noted := by
  refine (run.invariant (fun s => s.Routed ∧ s.Noted) ?_ ?_ (Machine.meets_true t)).2
  · rintro _ ⟨id, rfl⟩
    refine ⟨create_routed id, fun handle conn place => ?_⟩
    cases place
  · rintro s label s' ⟨routed, noted⟩ - step
    refine ⟨Step.routed routed step, ?_⟩
    rcases Step.moves routed step with ⟨moves, -⟩ | rfl | ⟨connections, -, rfl⟩
    · exact ClientMoves.invariant (fun _ _ routed noted move => move.noted routed noted) routed
        noted moves
    · exact noted.congr rfl fun _ => rfl
    · exact noted.congr rfl fun _ => rfl

/-! ## The socket of the client -/

/-- The socket of an open client is registered for what the client has noted. -/
def ClientContext.Watched (c : ClientContext) : Prop :=
  c.client.closed = false → c.selector.registered .client = some c.client.interests

/-- What a connection does leaves the socket of the client watched. -/
theorem ClientContext.Watched.acts {c : ClientContext} (watched : c.Watched) {conn : Connection}
    {call : ConnectionCall} {f : ConnectionContext} (executes : (c.enter conn).Executes call f) :
    (c.leave f.removeIfClosed).Watched := by
  intro isOpen
  have interests : f.removeIfClosed.client.interests = f.client.interests := by
    unfold ConnectionContext.removeIfClosed
    split <;> rfl
  have closed : f.removeIfClosed.client.closed = f.client.closed := by
    unfold ConnectionContext.removeIfClosed
    split <;> rfl
  show f.removeIfClosed.selector.registered .client = some f.removeIfClosed.client.interests
  rw [ConnectionContext.removeIfClosed_selector, interests]
  refine executes.registers.client (watched ?_)
  exact executes.client.closed.symm.trans (closed.symm.trans isOpen)

/-- **Every move leaves it watched.**  The interests of the client change with its stream, and the
selector is told at the end of the call that changes it. -/
theorem ClientMove.watched {may : ConnectionCall → Prop} {reads : Prop} {c c' : ClientContext}
    (watched : c.Watched) (move : ClientMove may reads c c') : c'.Watched := by
  cases move with
  | acts _ _ _ executes => exact watched.acts executes
  | @opens id conn selector packet answers f _ _ _ created executes =>
      obtain ⟨-, -, -, interest, rfl⟩ := Router.createConnection_ok created
      refine ClientContext.Watched.acts (fun isOpen => ?_) executes
      exact (Selector.registered_register _ _ _ _).trans ((if_neg nofun).trans (watched isOpen))
  | serves serves _ _ kept => exact fun isOpen => kept (watched (serves.closed.symm.trans isOpen))
  | receives _ _ => exact watched
  | sendsId _ _ => exact watched
  | writes _ _ => exact watched
  | closes => exact nofun

/-- **In every run an open client is registered for what it has noted.**  A client with something
to be sent is thus polled for writing, and its stream is emptied in the end. -/
theorem Relay.run_watched {t : List (Relay × Label)} {s : Relay} (run : machine.Run t s) :
    s.Watched := by
  refine (run.invariant (fun s => s.Routed ∧ s.Watched) ?_ ?_ (Machine.meets_true t)).2
  · rintro _ ⟨id, rfl⟩
    exact ⟨create_routed id, fun _ => rfl⟩
  · rintro s label s' ⟨routed, watched⟩ - step
    refine ⟨Step.routed routed step, ?_⟩
    rcases Step.moves routed step with ⟨moves, -⟩ | rfl | ⟨connections, -, rfl⟩
    · exact ClientMoves.invariant (fun _ _ _ watched move => move.watched watched) routed watched moves
    · exact watched
    · exact watched

end ReverseTether
