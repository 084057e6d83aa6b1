import ReverseTether.ClientOutput
import ReverseTether.ConnectionCalls

/-!
# The packets that wait for the client

A data packet that the client has no room for waits in its TCP connection, and the
client lists the connection among its pending sources, to pull the packet later.

The list and the connections always agree: each connection with a waiting packet is
listed once, and no other.  What the code does not keep is that the connections of the
list are open.  A connection may be closed in many places while its packet waits, none
of which looks at the list, and the packet is then pulled from a closed connection.

To pull a packet is to ask the connection for it, to offer it to the client, and to tell the
connection that it was taken.  The three happen in one loop over the list, which is emptied
first and filled again with those that the client still has no room for; a connection that has
nothing to give is a panic of the loop.

`ClientContext.Tracks` is the agreement, with a second list for those that the loop has still
to come to.  It is kept by every move, and by the loop itself from one source to the next.
-/

namespace ReverseTether

open Library Relation

/-! ## What a step of a TCP connection does to the waiting packet -/

/-- The waiting packet is not concerned: it waits on, or none waits, and the list of the client
stays. -/
structure TcpContext.Quiet (c c' : TcpContext) : Prop where
  handle : c'.conn.handle = c.conn.handle
  closed : c'.conn.closed = c.conn.closed
  waiting : c'.conn.waiting = c.conn.waiting
  pending : c'.client.pendingPacketSources = c.client.pendingPacketSources
  record : .closed true ∈ c'.conn.trace ↔ .closed true ∈ c.conn.trace

/-- The part of a step that concerns the waiting packet: whether one begins to wait, is delivered,
or is lost with its connection. -/
inductive TcpContext.Waits (c c' : TcpContext) : Prop
  | quiet : c.Quiet c' → Waits c c'
  | closes : c'.conn.handle = c.conn.handle → c'.conn.closed = true →
      c'.conn.waiting = c.conn.waiting →
      c'.client.pendingPacketSources = c.client.pendingPacketSources →
      (.closed true ∈ c'.conn.trace ↔ .closed true ∈ c.conn.trace ∨ c.conn.waiting = true) →
      Waits c c'
  /-- A packet waits from now on, and the connection is listed. -/
  | waits : c'.conn.handle = c.conn.handle → c.conn.closed = false → c'.conn.closed = false →
      c.conn.waiting = false → c'.conn.waiting = true →
      c'.client.pendingPacketSources = c.client.pendingPacketSources ++ [c.conn.handle] →
      (.closed true ∈ c'.conn.trace ↔ .closed true ∈ c.conn.trace) → Waits c c'

namespace TcpContext

variable {c c₁ c' : TcpContext}

/-- Something else is recorded. -/
theorem mem_record {trace : List TcpAction} {action : TcpAction} (other : action ≠ .closed true) :
    .closed true ∈ trace ++ [action] ↔ .closed true ∈ trace := by
  rw [List.mem_append, List.mem_singleton]
  exact or_iff_left other.symm

theorem Quiet.trans (first : c.Quiet c₁) (second : c₁.Quiet c') : c.Quiet c' where
  handle := second.handle.trans first.handle
  closed := second.closed.trans first.closed
  waiting := second.waiting.trans first.waiting
  pending := second.pending.trans first.pending
  record := second.record.trans first.record

theorem reply_quiet {flags : UInt16} (h : c.replyEmptyPacketToClient flags = .ok c') :
    c.Quiet c' := by
  obtain ⟨packet, packetizer, sent, -, offered, same⟩ := replyEmptyPacketToClient_ok h
  have pending := (Client.sendRawToClient_ok offered).1.pendingPacketSources
  refine ⟨by rw [same]; rfl, by rw [same]; rfl, by rw [same]; rfl, pending, ?_⟩
  rw [same]
  exact mem_record nofun

theorem withTcb_quiet (c : TcpContext) (f : Tcb → Tcb) : c.Quiet (c.withTcb f) :=
  ⟨rfl, rfl, rfl, rfl, Iff.rfl⟩

theorem record_quiet (c : TcpContext) {action : TcpAction} (other : action ≠ .closed true) :
    c.Quiet (c.record action) := ⟨rfl, rfl, rfl, rfl, mem_record other⟩

theorem acknowledge_quiet (c : TcpContext) (written : List UInt8)
    (clientToNetwork : StreamBuffer (4 * maxPacketLength)) :
    c.Quiet (c.acknowledge written clientToNetwork) := ⟨rfl, rfl, rfl, rfl, mem_record nofun⟩

/-- Bytes of the host become a packet, which is handed over, or waits. -/
theorem sendDataToClient_waits {packet : Ipv4Packet} (isOpen : c.conn.closed = false)
    (idle : c.conn.waiting = false) (h : c.sendDataToClient packet = .ok c') : c.Waits c' := by
  obtain ⟨sent, client, selector, offered, kind⟩ := sendDataToClient_ok h
  have pending := (Client.sendRawToClient_ok offered).1.pendingPacketSources
  rcases kind with ⟨payload, -, -, conn, rfl, -⟩ | ⟨-, conn, client', -⟩
  · refine .quiet ⟨by rw [conn]; rfl, by rw [conn]; rfl, by rw [conn]; rfl, pending, ?_⟩
    rw [conn]
    exact mem_record nofun
  · refine .waits (by rw [conn]; rfl) isOpen (by rw [conn]; exact isOpen) idle (by rw [conn]; rfl)
      ?_ ?_
    · rw [client', ← pending]
      rfl
    · rw [conn]
      exact mem_record nofun

end TcpContext

theorem TcpContext.Waits.of_quiet {c c₁ c' : TcpContext} (first : c.Quiet c₁)
    (second : c₁.Waits c') : c.Waits c' := by
  cases second with
  | quiet second => exact .quiet (first.trans second)
  | closes handle closed waiting pending record =>
      refine .closes (handle.trans first.handle) closed (waiting.trans first.waiting)
        (pending.trans first.pending) ?_
      rw [record, first.record, first.waiting]
  | waits handle isOpen isOpen' idle waiting pending record =>
      refine .waits (handle.trans first.handle) (first.closed.symm.trans isOpen) isOpen'
        (first.waiting.symm.trans idle) waiting ?_ (record.trans first.record)
      rw [pending, first.pending, first.handle]

/-- **What a step does to the waiting packet**, unless it hands it over.  A packet comes to wait,
and the connection is listed for it; or the connection is closed, with a packet or without; or
nothing changes for the list. -/
theorem TcpMove.waits {may : TcpWork → Prop} {c c' : TcpContext} (kept : ¬ may .deliver)
    (move : TcpMove may c c') : c.Waits c' := by
  cases move with
  | interests updated =>
      obtain ⟨-, conn, client, -⟩ := TcpContext.updateInterests_ok updated
      exact .quiet ⟨by rw [conn], by rw [conn], by rw [conn]; rfl, by rw [client], by rw [conn]⟩
  | forge _ forged => exact .quiet (TcpContext.reply_quiet forged)
  | close =>
      refine .closes rfl rfl rfl rfl ?_
      show .closed true ∈ c.conn.trace ++ [.closed c.conn.waiting] ↔ _
      rw [List.mem_append, List.mem_singleton]
      exact or_congr_right ⟨fun same => (TcpAction.closed.inj same).symm, fun waits => by rw [waits]⟩
  | @connect c₁ _ _ forged =>
      have quiet := (c.withTcb_quiet _).trans (TcpContext.reply_quiet forged)
      exact .quiet (quiet.trans (c₁.withTcb_quiet _))
  | write _ _ _ _ _ => exact .quiet (c.acknowledge_quiet _ _)
  | @writeLast _ written clientToNetwork _ _ _ _ _ _ =>
      have counted : (c.acknowledge written clientToNetwork).Quiet
          (c.acknowledge written clientToNetwork).countReceivedFin :=
        ⟨rfl, rfl, rfl, rfl, TcpContext.mem_record nofun⟩
      exact .quiet ((c.acknowledge_quiet _ _).trans counted)
  | receive _ isOpen idle _ _ sent =>
      refine .of_quiet ?_ (TcpContext.sendDataToClient_waits ?_ ?_ sent)
      · exact ⟨rfl, rfl, rfl, rfl, TcpContext.mem_record nofun⟩
      · exact isOpen
      · show c.conn.packetForClientLength.isSome = false
        rw [idle]
        rfl
  | eof _ _ ended =>
      obtain ⟨c₁, forged, rest⟩ := bind_eq_ok.mp ended
      cases rest
      have read := c.record_quiet (show TcpAction.readEof ≠ .closed true from nofun)
      have found := read.trans (TcpContext.reply_quiet forged)
      exact .quiet (found.trans (c₁.withTcb_quiet _))
  | @answerFin c₁ _ forged =>
      exact .quiet ((TcpContext.reply_quiet forged).trans (c₁.withTcb_quiet _))
  | deliver delivers _ => exact absurd delivers kept
  | _ => exact .quiet ⟨rfl, rfl, rfl, rfl, Iff.rfl⟩

theorem TcpContext.Quiet.of_handleAck {c c' : TcpContext} {packet : Ipv4Packet}
    (h : c.handleAck packet = .ok c') : c.Quiet c' := by
  unfold TcpContext.handleAck at h
  split at h
  · cases h
    exact c.withTcb_quiet _
  · obtain ⟨payload, -, h⟩ := bind_eq_ok.mp h
    cases payload with
    | none => cases h
    | some payload =>
        simp only at h
        split at h
        · cases h
          exact ⟨rfl, rfl, rfl, rfl, Iff.rfl⟩
        · split at h
          · cases h
            exact ⟨rfl, rfl, rfl, rfl, Iff.rfl⟩
          · obtain ⟨clientToNetwork, -, rest⟩ := bind_eq_ok.mp h
            cases rest
            exact ⟨rfl, rfl, rfl, rfl, Iff.rfl⟩

theorem TcpContext.noteFin_unconcerned (c : TcpContext) : c.Quiet c.noteFin := by
  have noted := c.withTcb_quiet fun tcb => { tcb with finReceived := true }
  unfold noteFin
  simp only
  split
  · exact noted.trans ⟨rfl, rfl, rfl, rfl, mem_record nofun⟩
  · exact noted

/-- What a packet brings does not concern the waiting packet, before it is answered. -/
theorem TcpArrival.quiet {packet : Ipv4Packet} {header : TcpHeaderData} {random : UInt32}
    {c c' : TcpContext} (arrival : TcpArrival packet header random c c') : c.Quiet c' := by
  cases arrival with
  | opened _ _ => exact (c.withTcb_quiet _).trans (TcpContext.record_quiet _ nofun)
  | @expected acked _ _ _ _ ackPart =>
      have heard : c.Quiet (c.noteWindow header) := c.withTcb_quiet _
      have answered : (c.noteWindow header).Quiet acked := by
        split at ackPart
        · exact .of_handleAck ackPart
        · cases ackPart
          exact ⟨rfl, rfl, rfl, rfl, Iff.rfl⟩
      refine (heard.trans answered).trans ?_
      split
      · exact acked.noteFin_unconcerned
      · exact ⟨rfl, rfl, rfl, rfl, Iff.rfl⟩
  | _ => exact ⟨rfl, rfl, rfl, rfl, Iff.rfl⟩

theorem TcpContext.Hears.quiet {c c' : TcpContext} {call : ConnectionCall}
    (hears : c.Hears call c') : c.Quiet c' := by
  cases hears with
  | nothing => exact ⟨rfl, rfl, rfl, rfl, Iff.rfl⟩
  | @packet _ answers _ _ _ arrival =>
      have touched : c.Quiet { c with conn := c.conn.touch answers.now } :=
        ⟨rfl, rfl, rfl, rfl, Iff.rfl⟩
      exact touched.trans arrival.quiet

/-! ## What a call does to it -/

/-- A packet waits in the connection. -/
def Connection.waiting : Connection → Bool
  | .tcp conn => conn.waiting
  | _ => false

/-- The connection was closed while a packet waited. -/
def Connection.ClosedWaiting : Connection → Prop
  | .tcp conn => .closed true ∈ conn.trace
  | _ => False

/-- A connection with nothing to hand over goes on so, or is listed. -/
inductive ConnectionContext.Defers (c c' : ConnectionContext) : Prop
  | keeps : c'.conn.waiting = c.conn.waiting →
      c'.client.pendingPacketSources = c.client.pendingPacketSources → Defers c c'
  | waits : c.conn.waiting = false → c'.conn.waiting = true →
      c'.client.pendingPacketSources = c.client.pendingPacketSources ++ [c.conn.handle] →
      Defers c c'

/-- What is recorded of a connection is what became of it: it is closed, and the packet
still waits. -/
def Connection.Sound (conn : Connection) : Prop :=
  conn.ClosedWaiting ↔ conn.isClosed = true ∧ conn.waiting = true

theorem TcpMoves.waits {may : TcpWork → Prop} {c c' : TcpContext} (kept : ¬ may .deliver)
    (sound : c.asConnection.conn.Sound) (moves : TcpMoves may c c') :
    c'.conn.handle = c.conn.handle ∧ c.asConnection.Defers c'.asConnection ∧
      c'.asConnection.conn.Sound := by
  induction moves with
  | refl => exact ⟨rfl, .keeps rfl rfl, sound⟩
  | @tail c₁ c' _ move ih =>
      obtain ⟨handle₁, defers, sound₁⟩ := ih
      change .closed true ∈ c₁.conn.trace ↔ c₁.conn.closed = true ∧ c₁.conn.waiting = true at sound₁
      show _ ∧ _ ∧ (.closed true ∈ c'.conn.trace ↔ c'.conn.closed = true ∧ c'.conn.waiting = true)
      have on (waiting : c'.conn.waiting = c₁.conn.waiting)
          (pending : c'.client.pendingPacketSources = c₁.client.pendingPacketSources) :
          c.asConnection.Defers c'.asConnection := by
        cases defers with
        | keeps waiting₁ pending₁ =>
            exact .keeps (waiting.trans waiting₁) (pending.trans pending₁)
        | waits idle waiting₁ pending₁ =>
            exact .waits idle (waiting.trans waiting₁) (pending.trans pending₁)
      cases move.waits kept with
      | quiet quiet =>
          refine ⟨quiet.handle.trans handle₁, on quiet.waiting quiet.pending, ?_⟩
          rw [quiet.record, quiet.closed, quiet.waiting]
          exact sound₁
      | closes handle closed waiting pending record =>
          refine ⟨handle.trans handle₁, on waiting pending, ?_⟩
          rw [record, closed, waiting, sound₁]
          constructor
          · rintro (⟨-, waits⟩ | waits)
            · exact ⟨rfl, waits⟩
            · exact ⟨rfl, waits⟩
          · exact fun both => .inr both.2
      | waits handle isOpen isOpen' idle waiting pending record =>
          refine ⟨handle.trans handle₁, ?_, ?_⟩
          · cases defers with
            | keeps waiting₁ pending₁ =>
                refine .waits (waiting₁.symm.trans idle) waiting ?_
                show c'.client.pendingPacketSources = _ ++ [c.conn.handle]
                rw [pending, handle₁]
                exact congrArg (· ++ [c.conn.handle]) pending₁
            | waits _ waiting₁ _ => exact absurd (idle.symm.trans waiting₁) Bool.false_ne_true
          · rw [record, sound₁, isOpen, isOpen']
            constructor
            · rintro ⟨⟨⟩, -⟩
            · rintro ⟨⟨⟩, -⟩

/-- A connection that has no packets to hand over. -/
theorem UdpMoves.pending {c c' : UdpContext} (moves : UdpMoves c c') :
    c'.client.pendingPacketSources = c.client.pendingPacketSources := by
  induction moves with
  | refl => rfl
  | @tail c₁ c' _ move ih =>
      refine .trans ?_ ih
      cases move with
      | interests updated =>
          unfold UdpContext.updateInterests at updated
          split at updated
          · obtain ⟨_, -, rest⟩ := bind_eq_ok.mp updated
            cases rest
            rfl
          · cases updated
            rfl
      | read wasRead =>
          obtain ⟨⟨packet, networkToClient⟩, -, h⟩ := bind_eq_ok.mp wasRead
          cases packet with
          | error _ =>
              cases h
              rfl
          | ok packet =>
              obtain ⟨⟨sent, client, selector⟩, offered, rest⟩ := bind_eq_ok.mp h
              cases rest
              exact (Client.sendRawToClient_ok offered).1.pendingPacketSources
      | _ => rfl

theorem Ipv6Context.Returns.pending {c c' : Ipv6Context} {call : ConnectionCall}
    (returns : c.Returns call c') :
    c'.client.pendingPacketSources = c.client.pendingPacketSources := by
  have closed : c.close.client = c.client := by
    unfold Ipv6Context.close
    split <;> rfl
  cases call with
  | packet packet answers =>
      cases packet with
      | ipv4 _ =>
          cases returns
          rfl
      | ipv6 packet =>
          obtain ⟨_, -, ⟨rfl, -⟩ | ⟨_, -, -, rfl⟩ | ⟨-, -, rfl⟩⟩ :=
            Ipv6Context.sendToNetwork_ok returns <;> rfl
  | event ready answers now =>
      cases Ipv6Context.onReady_ok returns with
      | ignored _ => rfl
      | ended _ _ _ =>
          show c.close.client.pendingPacketSources = _
          rw [closed]
      | received _ _ _ _ offered _ =>
          exact (Client.sendRawToClient_ok offered).1.pendingPacketSources
  | close =>
      cases returns
      rw [closed]
  | expire =>
      cases returns
      rw [closed]
  | next => exact returns.elim

/-- **What a call does to the waiting packet**, unless it hands it over.  Only a TCP connection
over IPv4 ever defers a packet, and it is listed in the moment it does. -/
theorem ConnectionContext.Executes.defers {c f : ConnectionContext} {call : ConnectionCall}
    (kept : call ≠ .next) (sound : c.conn.Sound) (executes : c.Executes call f) :
    c.Defers f ∧ f.conn.Sound := by
  obtain ⟨conn, client, selector⟩ := c
  have returns := executes.returns
  suffices h : ∃ c' : ConnectionContext, f.SameButRoutes c' ∧
      ConnectionContext.Defers ⟨conn, client, selector⟩ c' ∧ c'.conn.Sound by
    obtain ⟨c', same, defers, sound'⟩ := h
    rw [same.conn]
    refine ⟨?_, sound'⟩
    cases defers with
    | keeps waiting pending =>
        exact .keeps (same.conn ▸ waiting) (same.pendingPacketSources.trans pending)
    | waits idle waiting pending =>
        exact .waits idle (same.conn ▸ waiting) (same.pendingPacketSources.trans pending)
  cases conn with
  | tcp conn =>
      obtain ⟨connections, c', returns, same⟩ := returns.tcp
      obtain ⟨c₁, hears, moves⟩ := returns.moves
      have quiet := hears.quiet
      have sound₁ : c₁.asConnection.conn.Sound := by
        change _ ↔ _ at sound
        show .closed true ∈ c₁.conn.trace ↔ c₁.conn.closed = true ∧ c₁.conn.waiting = true
        rw [quiet.record, quiet.closed, quiet.waiting]
        exact sound
      have undelivered : ¬ call.works .deliver := by
        cases call with
        | next => exact absurd rfl kept
        | _ => exact id
      obtain ⟨-, defers, sound'⟩ := moves.waits undelivered sound₁
      refine ⟨_, same, ?_, sound'⟩
      cases defers with
      | keeps waiting pending =>
          exact .keeps (waiting.trans quiet.waiting) (pending.trans quiet.pending)
      | waits idle waiting pending =>
          refine .waits (quiet.waiting.symm.trans idle) waiting (pending.trans ?_)
          show c₁.client.pendingPacketSources ++ [c₁.conn.handle] = _
          rw [quiet.pending, quiet.handle]
          rfl
  | udp conn =>
      obtain ⟨connections, c', returns, same⟩ := returns.udp
      exact ⟨_, same, .keeps rfl returns.moves.pending, iff_of_false id fun both => nomatch both.2⟩
  | ipv6 conn =>
      obtain ⟨connections, c', returns, same⟩ := returns.ipv6
      exact ⟨_, same, .keeps rfl returns.pending, iff_of_false id fun both => nomatch both.2⟩

/-! ## The list of the client -/

/-- The connections with a waiting packet are those of the list, once each, together with
those that are left to be pulled. -/
structure ClientContext.Tracks (c : ClientContext) (left : List Handle) : Prop where
  once : (left ++ c.client.pendingPacketSources).Nodup
  listed : ∀ handle : Handle, handle ∈ left ++ c.client.pendingPacketSources ↔
    ∃ conn, c.created[handle]? = some conn ∧ conn.waiting = true
  sound : ∀ (handle : Handle) conn, c.created[handle]? = some conn → conn.Sound

namespace ClientContext.Tracks

variable {c c' : ClientContext} {left left' : List Handle}

/-- What is tracked stays the same. -/
theorem congr (tracks : c.Tracks left) (created : c'.created = c.created)
    (pending : c'.client.pendingPacketSources = c.client.pendingPacketSources) :
    c'.Tracks left where
  once := pending ▸ tracks.once
  listed := by
    rw [created, pending]
    exact tracks.listed
  sound := created ▸ tracks.sound

/-- One connection changes. -/
theorem update (tracks : c.Tracks left) {handle : Handle} {conn conn' : Connection}
    (place : c.created[handle]? = some conn) (created : c'.created = c.created.set handle conn')
    (sound : conn'.Sound) (once : (left' ++ c'.client.pendingPacketSources).Nodup)
    (here : handle ∈ left' ++ c'.client.pendingPacketSources ↔ conn'.waiting = true)
    (others : ∀ other, other ≠ handle → (other ∈ left' ++ c'.client.pendingPacketSources ↔
      other ∈ left ++ c.client.pendingPacketSources)) : c'.Tracks left' := by
  have inside := (List.getElem?_eq_some_iff.mp place).1
  have at_handle : c'.created[handle]? = some conn' := by
    rw [created, List.getElem?_set_self inside]
  have elsewhere {other : Handle} (ne : other ≠ handle) : c'.created[other]? = c.created[other]? := by
    rw [created, List.getElem?_set_ne ne.symm]
  refine ⟨once, fun other => ?_, fun other conn₁ place₁ => ?_⟩
  · by_cases eq : other = handle
    · subst eq
      rw [here, at_handle]
      constructor
      · intro waits
        exact ⟨conn', rfl, waits⟩
      · rintro ⟨_, ⟨⟩, waits⟩
        exact waits
    · rw [others other eq, tracks.listed, elsewhere eq]
  · by_cases eq : other = handle
    · subst eq
      rw [at_handle] at place₁
      cases place₁
      exact sound
    · exact tracks.sound other conn₁ (elsewhere eq ▸ place₁)

/-- A connection is called, and does not hand over its packet. -/
theorem acts (tracks : c.Tracks left) (routed : c.Routed) {handle : Handle} {conn : Connection}
    {call : ConnectionCall} {f : ConnectionContext} (place : c.created[handle]? = some conn)
    (kept : call ≠ .next) (executes : (c.enter conn).Executes call f) :
    (c.leave f.removeIfClosed).Tracks left := by
  obtain ⟨defers, sound⟩ := executes.defers kept (tracks.sound _ _ place)
  have pending : (c.leave f.removeIfClosed).client.pendingPacketSources =
      f.client.pendingPacketSources :=
    (ConnectionContext.SameButRoutes.of_removeIfClosed rfl).pendingPacketSources.symm
  have listed : handle ∈ left ++ c.client.pendingPacketSources ↔ conn.waiting = true := by
    rw [tracks.listed, place]
    constructor
    · rintro ⟨_, ⟨⟩, waits⟩
      exact waits
    · intro waits
      exact ⟨conn, rfl, waits⟩
  have here : conn.handle = handle := routed.places _ _ place
  cases defers with
  | keeps waiting same =>
      have all : (c.leave f.removeIfClosed).client.pendingPacketSources =
          c.client.pendingPacketSources := pending.trans same
      refine tracks.update place (routed.leave_created place executes.toActs) sound ?_ ?_ ?_
      · rw [all]
        exact tracks.once
      · rw [all, listed, waiting]
        exact Iff.rfl
      · intro other _
        rw [all]
  | waits idle waiting grown =>
      have all : (c.leave f.removeIfClosed).client.pendingPacketSources =
          c.client.pendingPacketSources ++ [handle] := by
        rw [pending, grown]
        exact congrArg (fun source => c.client.pendingPacketSources ++ [source]) here
      have new : handle ∉ left ++ c.client.pendingPacketSources := by
        rw [listed]
        exact fun waits => Bool.false_ne_true (idle.symm.trans waits)
      refine tracks.update place (routed.leave_created place executes.toActs) sound ?_ ?_ ?_
      · rw [all, ← List.append_assoc, List.nodup_append]
        refine ⟨tracks.once, List.nodup_singleton _, ?_⟩
        rintro other mem _ last rfl
        rw [List.mem_singleton.mp last] at mem
        exact new mem
      · rw [all, ← List.append_assoc, List.mem_append]
        exact iff_of_true (.inr List.mem_cons_self) waiting
      · intro other ne
        rw [all, ← List.append_assoc, List.mem_append, List.mem_singleton]
        exact or_iff_left ne

/-- A connection is created, with nothing to hand over. -/
theorem insert (tracks : c.Tracks left) {id : ConnectionId} {conn : Connection}
    {selector : Selector} {packet : IpPacket} {answers : PacketAnswers}
    (created : Router.createConnection c id packet answers = .ok (.ok (conn, selector))) :
    (Router.insert c id conn selector).Tracks left := by
  have fresh : conn.waiting = false ∧ conn.Sound := by
    cases Router.createConnection_creates created with
    | tcp _ _ created =>
        obtain ⟨_, _, _, packetizer, -, -, -, -, conn, selector⟩ := TcpConnection.create_ok created
        rw [conn]
        exact ⟨rfl, iff_of_false List.not_mem_nil fun both => nomatch both.2⟩
    | udp _ _ _ => exact ⟨rfl, iff_of_false nofun fun both => nomatch both.2⟩
    | ipv6 _ => exact ⟨rfl, iff_of_false nofun fun both => nomatch both.2⟩
  have appended : (Router.insert c id conn selector).created = c.created ++ [conn] := rfl
  refine ⟨tracks.once, fun handle => ?_, fun handle conn' place => ?_⟩
  · refine (tracks.listed handle).trans ?_
    rw [appended]
    constructor
    · rintro ⟨conn', place, waits⟩
      exact ⟨conn', List.getElem?_append_left (List.getElem?_eq_some_iff.mp place).1 ▸ place, waits⟩
    · rintro ⟨conn', place, waits⟩
      rw [List.getElem?_append] at place
      split at place
      · exact ⟨conn', place, waits⟩
      · rw [List.getElem?_singleton] at place
        split at place
        · cases place
          exact absurd (fresh.1.symm.trans waits) Bool.false_ne_true
        · cases place
  · rw [appended, List.getElem?_append] at place
    split at place
    · exact tracks.sound _ _ place
    · rw [List.getElem?_singleton] at place
      split at place
      · cases place
        exact fresh.2
      · cases place

end ClientContext.Tracks

/-- **What every step keeps**, when nothing is pulled.  A call changes one connection, and the list
by at most that one; the routes and the input do not matter. -/
theorem ClientMove.tracks {may : ConnectionCall → Prop} {reads : Prop} {c c' : ClientContext}
    {left : List Handle} (kept : ¬ may .next) (routed : c.Routed) (tracks : c.Tracks left)
    (move : ClientMove may reads c c') : c'.Tracks left := by
  have other {call : ConnectionCall} (allowed : may call) : call ≠ .next := by
    rintro rfl
    exact kept allowed
  cases move with
  | acts place _ allowed executes => exact tracks.acts routed place (other allowed) executes
  | opens allowed _ new created executes =>
      exact (tracks.insert created).acts (Router.insert_routed routed new created)
        (Router.insert_place _ _ _ _) (other allowed) executes
  | serves _ _ sends _ =>
      rcases sends with ⟨-, pending⟩ | ⟨pulls, -⟩
      · exact tracks.congr rfl pending
      · exact absurd pulls kept
  | receives _ _ => exact tracks.congr rfl rfl
  | sendsId _ _ => exact tracks.congr rfl rfl
  | writes _ _ => exact tracks.congr rfl rfl
  | closes => exact tracks.congr rfl rfl

/-! ## Pulling -/

/-- No connection was closed while its packet waited.  The record of a closing says whether one
did. -/
def ClientContext.KeepsWaiting (c : ClientContext) : Prop :=
  ∀ (handle : Handle) conn, c.created[handle]? = some conn → ¬ conn.ClosedWaiting

/-- What becomes of a connection whose packet was pulled. -/
theorem TcpContext.next_ok {c c' : TcpContext} (h : c.next = .ok c') :
    c.conn.closed = false ∧ c'.conn.closed = false ∧ c'.conn.handle = c.conn.handle ∧
      c'.conn.waiting = false ∧ c'.client = c.client ∧
      (.closed true ∈ c'.conn.trace ↔ .closed true ∈ c.conn.trace) := by
  unfold next at h
  split at h
  · cases h
  · obtain ⟨isOpen, conn, client, -⟩ := updateInterests_ok h
    refine ⟨isOpen, by rw [conn]; exact isOpen, by rw [conn]; rfl, by rw [conn]; rfl, client, ?_⟩
    rw [conn]
    exact mem_record nofun

/-- The packet of an open connection is pulled, and its socket is registered. -/
theorem TcpContext.next_error {c : TcpContext} {panic : Panic} (waits : c.conn.waiting = true)
    (isOpen : c.conn.closed = false) (h : c.next = .error panic) : panic = .cannotRegister := by
  unfold next at h
  split at h
  · rename_i idle
    rw [TcpConnection.waiting, idle] at waits
    cases waits
  · unfold updateInterests at h
    rw [if_neg (by rw [Bool.not_eq_true]; exact isOpen)] at h
    split at h
    · rcases bind_eq_error.mp h with missing | ⟨_, -, rest⟩
      · exact Selector.reregister_error missing
      · cases rest
    · cases h

namespace ClientContext

variable {c c' : ClientContext} {left : List Handle} {source : Handle}

/-- A source that is listed has a packet. -/
theorem Tracks.packet_waits (tracks : c.Tracks (source :: left)) :
    ∃ conn packet, c.created[source]? = some (.tcp conn) ∧ conn.waiting = true ∧
      conn.get = some packet := by
  obtain ⟨conn, place, waits⟩ := (tracks.listed source).mp List.mem_cons_self
  cases conn with
  | tcp conn =>
      obtain ⟨length, waiting⟩ := Option.isSome_iff_exists.mp waits
      exact ⟨conn, _, place, waits, congrArg (Option.map _) waiting⟩
  | udp _ => cases waits
  | ipv6 _ => cases waits

theorem pull_tracks (routed : c.Routed) (tracks : c.Tracks (source :: left))
    (h : c.pull source = .ok c') :
    c'.Tracks left ∧ (c.KeepsWaiting → c'.KeepsWaiting) := by
  obtain ⟨conn, packet, place, waits, got⟩ := tracks.packet_waits
  have once := tracks.once
  rw [List.cons_append, List.nodup_cons] at once
  have others (other : Handle) (ne : other ≠ source) :
      other ∈ left ++ c.client.pendingPacketSources ↔
        other ∈ source :: left ++ c.client.pendingPacketSources := by
    rw [List.cons_append, List.mem_cons]
    exact (or_iff_right ne).symm
  simp only [pull, place, got] at h
  obtain ⟨⟨sent, client, selector⟩, offered, h⟩ := bind_eq_ok.mp h
  have pending := (Client.sendRawToClient_ok offered).1.pendingPacketSources
  have delivers {f : TcpContext} (next : TcpContext.next ⟨conn, client, selector⟩ = .ok f) :
      (c.leave f.asConnection).Tracks left ∧
        (c.KeepsWaiting → (c.leave f.asConnection).KeepsWaiting) := by
    obtain ⟨isOpen, isOpen', handle, idle, client', record⟩ := TcpContext.next_ok next
    have here : f.conn.handle = source := handle.trans (routed.places _ _ place)
    have created : (c.leave f.asConnection).created = c.created.set source (.tcp f.conn) := by
      rw [← here]
      rfl
    have pending' : (c.leave f.asConnection).client.pendingPacketSources =
        c.client.pendingPacketSources := by
      rw [← pending]
      exact congrArg Client.pendingPacketSources client'
    have unrecorded : .closed true ∉ f.conn.trace := by
      rw [record]
      intro mem
      exact absurd (isOpen.symm.trans ((tracks.sound _ _ place).mp mem).1) Bool.false_ne_true
    constructor
    · refine tracks.update place created ?_ ?_ ?_ ?_
      · exact iff_of_false unrecorded fun both => absurd (idle.symm.trans both.2) Bool.false_ne_true
      · rw [pending']
        exact once.2
      · rw [pending']
        exact iff_of_false once.1 fun waits => absurd (idle.symm.trans waits) Bool.false_ne_true
      · intro other ne
        rw [pending']
        exact others other ne
    · intro keeps other conn₁ place₁
      rw [created] at place₁
      by_cases eq : other = source
      · subst eq
        rw [List.getElem?_set_self (List.getElem?_eq_some_iff.mp place).1] at place₁
        cases place₁
        exact unrecorded
      · rw [List.getElem?_set_ne (Ne.symm eq)] at place₁
        exact keeps _ _ place₁
  have again : ({ c with client := client.registerPendingPacketSource source, selector } :
      ClientContext).Tracks left := by
    have pending' : (client.registerPendingPacketSource source).pendingPacketSources =
        c.client.pendingPacketSources ++ [source] := by
      rw [← pending]
      rfl
    have same : c.created = c.created.set source (.tcp conn) := by
      obtain ⟨inside, at_source⟩ := List.getElem?_eq_some_iff.mp place
      rw [← at_source, List.set_getElem_self]
    refine tracks.update place same (tracks.sound _ _ place) ?_ ?_ ?_
    · show (left ++ (client.registerPendingPacketSource source).pendingPacketSources).Nodup
      rw [pending', ← List.append_assoc]
      refine List.nodup_append.mpr ⟨once.2, List.nodup_singleton _, ?_⟩
      rintro other mem _ last rfl
      rw [List.mem_singleton.mp last] at mem
      exact once.1 mem
    · show source ∈ left ++ (client.registerPendingPacketSource source).pendingPacketSources ↔ _
      rw [pending', ← List.append_assoc, List.mem_append]
      exact iff_of_true (.inr List.mem_cons_self) waits
    · intro other ne
      show other ∈ left ++ (client.registerPendingPacketSource source).pendingPacketSources ↔ _
      rw [pending', ← others other ne, ← List.append_assoc, List.mem_append, List.mem_singleton]
      exact or_iff_left ne
  cases sent with
  | ok _ =>
      obtain ⟨f, next, rest⟩ := bind_eq_ok.mp h
      cases rest
      exact delivers next
  | error err =>
      cases err with
      | wouldBlock =>
          cases h
          exact ⟨again, id⟩
      | other =>
          obtain ⟨f, next, rest⟩ := bind_eq_ok.mp h
          cases rest
          exact delivers next

/-- A source that is listed and open can be pulled. -/
theorem pull_error {panic : Panic} (tracks : c.Tracks (source :: left)) (keeps : c.KeepsWaiting)
    (h : c.pull source = .error panic) : panic = .cannotRegister := by
  obtain ⟨conn, packet, place, waits, got⟩ := tracks.packet_waits
  have isOpen : conn.closed = false := by
    cases closed : conn.closed with
    | false => rfl
    | true => exact absurd ((tracks.sound _ _ place).mpr ⟨closed, waits⟩) (keeps _ _ place)
  simp only [pull, place, got] at h
  rcases bind_eq_error.mp h with missing | ⟨⟨sent, client, selector⟩, -, h⟩
  · exact Client.sendRawToClient_error missing
  have advances {panic : Panic} (h : (do
      let f ← TcpContext.next ⟨conn, client, selector⟩
      return c.leave f.asConnection : Outcome ClientContext) = .error panic) :
      panic = .cannotRegister := by
    rcases bind_eq_error.mp h with stuck | ⟨_, -, rest⟩
    · exact TcpContext.next_error (c := ⟨conn, client, selector⟩) waits isOpen stuck
    · cases rest
  cases sent with
  | ok _ => exact advances h
  | error err =>
      cases err with
      | wouldBlock => cases h
      | other => exact advances h

/-- The sources of a list are pulled one after the other. -/
theorem foldlM_pull {sources : List Handle} (routed : c.Routed) (tracks : c.Tracks sources) :
    (∀ c', sources.foldlM pull c = .ok c' → c'.Tracks []) ∧
      (c.KeepsWaiting → ∀ panic, sources.foldlM pull c = .error panic → panic = .cannotRegister) := by
  induction sources generalizing c with
  | nil =>
      constructor
      · rintro c' ⟨⟩
        exact tracks
      · rintro - panic ⟨⟩
  | cons source sources ih =>
      rw [List.foldlM_cons]
      constructor
      · intro c' h
        obtain ⟨c₁, pulled, rest⟩ := bind_eq_ok.mp h
        have moves : ClientMoves (fun _ => True) False c c₁ := pull_moves trivial pulled
        exact (ih (moves.routed routed) (pull_tracks routed tracks pulled).1).1 c' rest
      · intro keeps panic h
        rcases bind_eq_error.mp h with stuck | ⟨c₁, pulled, rest⟩
        · exact pull_error tracks keeps stuck
        · have moves : ClientMoves (fun _ => True) False c c₁ := pull_moves trivial pulled
          obtain ⟨tracks₁, keeps₁⟩ := pull_tracks routed tracks pulled
          exact (ih (moves.routed routed) tracks₁).2 (keeps₁ keeps) panic rest

/-- **The pending sources are pulled**, and those that still have a packet are listed again.  The
list is taken away first and filled again during the walk, in the same order. -/
theorem processPending_tracks (routed : c.Routed) (tracks : c.Tracks []) :
    (∀ c', c.processPending = .ok c' → c'.Tracks []) ∧
      (c.KeepsWaiting → ∀ panic, c.processPending = .error panic → panic = .cannotRegister) := by
  have emptied : ({ c with client := { c.client with pendingPacketSources := [] } } :
      ClientContext).Tracks c.client.pendingPacketSources :=
    ⟨(List.append_nil _).symm ▸ tracks.once,
      fun handle => (List.append_nil _).symm ▸ tracks.listed handle, tracks.sound⟩
  exact foldlM_pull (routed.congr rfl rfl) emptied

theorem processSend_tracks {write : IoResult ℕ} {result : IoResult Unit} (routed : c.Routed)
    (tracks : c.Tracks []) (h : c.processSend write = .ok (result, c')) : c'.Tracks [] := by
  have closes {c c' : ClientContext} (routed : c.Routed) (tracks : c.Tracks [])
      (h : c.close = .ok c') : c'.Tracks [] := by
    have moves : ClientMoves (fun call => call = .close) False c c' := close_moves rfl routed h
    exact ClientMoves.invariant (fun _ _ routed tracks move => move.tracks nofun routed tracks)
      routed tracks moves
  unfold processSend at h
  split at h
  · obtain ⟨⟨answer, c₁⟩, sent, h⟩ := bind_eq_ok.mp h
    have moves : ClientMoves (fun _ => False) False c c₁ := sendId_moves sent
    have tracks₁ : c₁.Tracks [] := ClientMoves.invariant
      (fun _ _ routed tracks move => move.tracks nofun routed tracks) routed tracks moves
    cases answer with
    | ok _ =>
        cases h
        exact tracks₁
    | error err =>
        cases err with
        | wouldBlock =>
            cases h
            exact tracks₁
        | other =>
            obtain ⟨c₂, closed, rest⟩ := bind_eq_ok.mp h
            cases rest
            exact closes (moves.routed routed) tracks₁ closed
  · rename_i done
    have moves : ClientMoves (fun _ => False) False c (c.write write).2 :=
      write_moves (by rwa [Bool.not_eq_true] at done)
    have tracks₁ : (c.write write).2.Tracks [] := ClientMoves.invariant
      (fun _ _ routed tracks move => move.tracks nofun routed tracks) routed tracks moves
    have routed₁ := moves.routed routed
    split at h
    · rename_i c₁ wrote
      rw [wrote] at tracks₁ routed₁
      obtain ⟨c₂, pulled, rest⟩ := bind_eq_ok.mp h
      cases rest
      exact (processPending_tracks routed₁ tracks₁).1 _ pulled
    · rename_i c₁ wrote
      rw [wrote] at tracks₁ routed₁
      obtain ⟨c₂, closed, rest⟩ := bind_eq_ok.mp h
      cases rest
      exact closes routed₁ tracks₁ closed

end ClientContext

end ReverseTether
