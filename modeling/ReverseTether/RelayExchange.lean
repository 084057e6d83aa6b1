import ReverseTether.Replies

/-!
# A client that exchanges

What is proved of runs is mostly about what is carried: a datagram to a host and the answer to it,
the bytes of a stream in both directions, and the packets that bring them to the client.  This
module has a client to which all of this happens.  It sends a datagram and opens a TCP flow, sends
a byte on it, and takes all that is sent to it; the host of either flow answers with a byte
(`exchange`).

The events of the client are put together without the loop that polls them (`Goes`), so the same
client stands in a run of the loop (`SoloRun.goes`), behind its tunnel, and next to other clients.

The steps are evaluated one after the other, each by the lemma that says what the relay does
in such a state, so that what the sockets get is computed and not only shown to exist.  The
lists that come out are short enough to be read.
-/

namespace ReverseTether

open Library

/-! ## The client takes what waits for it -/

namespace ClientContext

variable {c c' : ClientContext}

/-- An event that does not ask for the other half takes nothing. -/
theorem taken_writable (c : ClientContext) (answers : EventAnswers) : c.taken .writable answers = [] := by
  refine if_neg ?_
  have unasked : Ready.writable.isReadable = false := rfl
  rw [comesToRead, unasked, Bool.and_false, Bool.false_and]
  exact Bool.false_ne_true

/-- Behind a byte that the client takes nothing is offered, when nothing waits. -/
theorem AtRest.sends {answers : EventAnswers} (rest : c.AtRest)
    (some : c.client.networkToClient.isEmpty = false) (none : c.client.pendingPacketSources = [])
    (write : answers.socket.write = .ok 1) :
    ∃ c', c.onReady .writable answers = .ok c' ∧ c'.AtRest ∧ c'.created = c.created ∧
      c'.client.appended = c.client.appended ∧ c'.client.pendingPacketSources = [] ∧
      c'.client.networkToClient.contents.length + 1 = c.client.networkToClient.contents.length := by
  obtain ⟨taken, networkToClient, wrote, more⟩ := StreamBuffer.writeTo_one some
  let client : Client := { c.client with networkToClient, pendingPacketSources := [] }
  have known : c.selector.registered .client ≠ Option.none := by
    rw [rest.registered]
    exact Option.some_ne_none _
  obtain ⟨client', selector, updated, -⟩ := client.updateInterests_returns known
  obtain ⟨same, stream, appended, -, interests, kept⟩ := Client.updateInterests_ok updated
  let sent : ClientContext := { c with client, received := c.received ++ taken }
  let left : ClientContext := { sent with client := client', selector }
  have closed : client'.closed = false := same.closed.trans rest.settled.1
  have wrote : c.processSend answers.socket.write = .ok (.ok (), sent) := by
    have pending : ClientContext.processPending { c with
        client := { c.client with networkToClient }
        received := c.received ++ taken } = .ok sent := by
      unfold processPending
      rw [none]
      rfl
    unfold processSend
    rw [rest.identified, write, ClientContext.write, wrote]
    exact bind_eq_ok.mpr ⟨sent, pending, rfl⟩
  have processed : c.process .writable answers = .ok (.ok (), left) := by
    refine (if_neg (by rw [rest.settled.1]; exact Bool.false_ne_true)).trans ?_
    refine orReturn_eq_ok.mpr (.inl ⟨sent, (if_pos rfl).trans wrote, ?_⟩)
    refine orReturn_eq_ok.mpr (.inl ⟨sent, if_neg (by rintro ⟨-, ⟨⟩⟩), ?_⟩)
    have isOpen : ¬ sent.client.closed = true := by
      rw [show sent.client.closed = false from rest.settled.1]
      exact Bool.false_ne_true
    rw [if_neg isOpen]
    refine bind_eq_ok.mpr ⟨left, bind_eq_ok.mpr ⟨_, updated, rfl⟩, rfl⟩
  refine ⟨left, bind_eq_ok.mpr ⟨_, processed, rfl⟩, ⟨⟨⟨closed, ?_⟩, ?_, ?_⟩, ?_⟩, rfl, appended,
    same.pendingPacketSources, ?_⟩
  · show client'.interests = client'.wanted
    rw [interests, Client.wanted, Client.wanted, stream]
  · have identified := rest.identified
    unfold Client.mustSendId at identified ⊢
    rw [show left.client.pendingIdBytes = c.client.pendingIdBytes from same.pendingIdBytes]
    exact identified
  · exact kept (by show c.selector.registered .client = _; rw [rest.registered])
  · show client'.clientToNetwork.peek = []
    rw [same.clientToNetwork]
    exact rest.input
  · have before := c.client.networkToClient.remaining_eq
    have after := networkToClient.remaining_eq
    have held : c.client.networkToClient.contents.length ≤ _ :=
      c.client.networkToClient.length_contents ▸ c.client.networkToClient.size_le
    have held' : networkToClient.contents.length ≤ _ :=
      networkToClient.length_contents ▸ networkToClient.size_le
    show client'.networkToClient.contents.length + 1 = _
    rw [stream]
    show networkToClient.contents.length + 1 = _
    omega

/-- **The client takes all that waits for it.**  It takes one byte an event, which is the least
that a socket can take; the induction is on what is left. -/
theorem AtRest.flushes (rest : c.AtRest) (none : c.client.pendingPacketSources = []) :
    ∃ c', c.Goes [] c' ∧ c'.AtRest ∧ c'.created = c.created ∧
      c'.client.appended = c.client.appended ∧ c'.client.networkToClient.contents = [] := by
  induction left : c.client.networkToClient.contents.length generalizing c with
  | zero => exact ⟨c, .refl, rest, rfl, rfl, List.length_eq_zero_iff.mp left⟩
  | succ n ih =>
      let answers : EventAnswers :=
        ⟨⟨.ok Option.none, .ok 1, .ok []⟩, 0, fun _ => ⟨0, false, 0, .ok (), .ok 0⟩⟩
      have some : c.client.networkToClient.isEmpty = false := by
        rw [StreamBuffer.isEmpty_eq_false_iff]
        exact List.ne_nil_of_length_eq_add_one left
      have within : Ready.writable.Within c.client.interests := by
        rw [rest.settled.2, Client.wanted, some]
        decide
      obtain ⟨c₁, handled, rest₁, created₁, appended₁, none₁, less⟩ :=
        @AtRest.sends c answers rest some none rfl
      have goes : c.Goes ([] ++ c.takenBy .client .writable answers) c₁ :=
        Goes.refl.event rest.registered within (by decide) handled rest₁.settled.1
      rw [takenBy, taken_writable] at goes
      obtain ⟨c₂, goes₂, rest₂, created₂, appended₂, contents₂⟩ := ih rest₁ none₁ (by omega)
      exact ⟨c₂, goes.trans goes₂, rest₂, created₂.trans created₁, appended₂.trans appended₁, contents₂⟩

/-- A client gets its id. -/
theorem Goes.identified (id : UInt32) : (create id).Goes [] (.identified id) :=
  @Goes.event (create id) [] _ _ .client .writable .writable
    ⟨⟨.ok none, .ok 4, .ok []⟩, 0, fun _ => ⟨0, false, 0, .ok (), .ok 0⟩⟩ .refl rfl
    (Ready.within_refl _) (by decide) (onReady_sendsId id _ rfl) rfl

end ClientContext

namespace Relay

variable {t : List (Relay × Label)} {s : Relay}

/-- **The loop polls the events**, each in a batch of its own.  The client knows nothing of the
loop, so the same events can be polled behind any run that leaves it where they begin. -/
theorem SoloRun.goes {bytes : List UInt8} {c : ClientContext} (run : SoloRun t s) (idle : s.batch = [])
    (goes : s.toClientContext.Goes bytes c) :
    ∃ t', SoloRun t' { s with toClientContext := c } ∧ allTaken t' = allTaken t ++ bytes := by
  obtain ⟨c₀, batch, released⟩ := s
  cases idle
  induction goes with
  | refl => exact ⟨t, run, (List.append_nil _).symm⟩
  | @event bytes c₁ c₂ source ready interest answers _ known within one handled _ ih =>
      obtain ⟨t', run', taken⟩ := ih
      refine ⟨_, run'.event rfl known within one handled, ?_⟩
      have none : Relay.taken ⟨c₁, [], released⟩ (.poll [(source, ready)]) = [] := rfl
      have same : Relay.taken ⟨c₁, [(source, ready)], released⟩ (.handle answers) =
          c₁.takenBy source ready answers := by
        cases source <;> rfl
      rw [allTaken_append, allTaken_append, none, same, taken, List.append_nil, List.append_assoc]

/-- All that waits for the client is sent to it. -/
theorem run_flushes (run : SoloRun t s) (idle : s.batch = []) (rest : s.AtRest)
    (none : s.client.pendingPacketSources = []) :
    ∃ t' s', SoloRun t' s' ∧ s'.batch = [] ∧ s'.AtRest ∧ s.toClientContext.Goes [] s'.toClientContext ∧
      s'.created = s.created ∧ s'.client.appended = s.client.appended ∧
      s'.client.networkToClient.contents = [] := by
  obtain ⟨c, goes, rest', created, appended, contents⟩ := rest.flushes none
  obtain ⟨t', run', -⟩ := run.goes idle goes
  exact ⟨t', _, run', idle, rest', goes, created, appended, contents⟩

/-- A TCP flow of which nothing waits, next to a UDP flow. -/
theorem none_pending {udp : UdpConnection} {tcp : TcpConnection} (run : machine.Run t s)
    (created : s.created = [.udp udp, .tcp tcp]) (idle : tcp.packetForClientLength = none) :
    s.client.pendingPacketSources = [] := by
  refine List.eq_nil_iff_forall_not_mem.mpr fun handle mem => ?_
  obtain ⟨conn, place, waits⟩ := ((run_tracks run).listed_iff handle).mp mem
  obtain ⟨-, rfl⟩ := place_of_created created place
  rw [idle] at waits
  cases waits

/-! ## What its socket gets -/

/-- **The socket of the client gets its id and then the accepted packets, whole and in
order.**  A packet is accepted when `send_raw_to_client` returns `Ok`; one that is
rejected leaves the client as it was. -/
theorem run_received (run : machine.Run t s) :
    s.received <+: u32Bytes s.client.id ++ s.client.appended.flatten ∧
      ∀ raw sent client selector,
        s.client.sendRawToClient s.selector raw = .ok (sent, client, selector) →
          (sent = .ok () ∧ client.appended = s.client.appended ++ [raw]) ∨
            (sent = .error .wouldBlock ∧ client = s.client) := by
  constructor
  · rw [← (run_streams run).stream, List.append_assoc]
    exact List.prefix_append _ _
  · intro raw sent client selector h
    obtain ⟨-, -, -, ⟨accepted, -, -, appended⟩ | ⟨rejected, -, same, -⟩⟩ :=
      Client.sendRawToClient_ok h
    · exact .inl ⟨accepted, appended⟩
    · exact .inr ⟨rejected, same⟩

/-- Behind a reply of which one byte was sent, another is appended; a third would be. -/
theorem run_received_behind : ∃ t s first second client selector, machine.Run t s ∧
    s.client.appended = [first, second] ∧ s.received.length = 5 ∧ 5 < (u32Bytes 0 ++ first).length ∧
    s.received <+: u32Bytes s.client.id ++ s.client.appended.flatten ∧
    s.client.sendRawToClient s.selector first = .ok (.ok (), client, selector) ∧
    client.appended = [first, second, first] := by
  obtain ⟨t₀, s₀, run₀, idle₀, rest₀, reads₀, -, -, -, -, empty₀, appended₀, _, created₀, -⟩ := run_udpFlow
  have room₀ := s₀.client.networkToClient.remaining_eq
  rw [empty₀, List.length_nil, Nat.sub_zero] at room₀
  have large : 16 * maxPacketLength = 1048576 := rfl
  obtain ⟨t₁, s₁, _, _, first, _, run₁, idle₁, rest₁, -, reads₁, -, created₁, -, -, length₁, appended₁, room₁⟩ :=
    @run_reads t₀ s₀ 0 28 run₀ idle₀ rest₀ reads₀ [0x61] (by decide) (by rw [room₀]; decide)
  replace length₁ : first.raw.length = 29 := length₁
  rw [created₀] at created₁
  rw [appended₀, List.nil_append] at appended₁
  rw [List.length_singleton] at room₁
  -- a byte of it is sent
  have none₁ : s₁.client.pendingPacketSources = [] := by
    refine List.eq_nil_iff_forall_not_mem.mpr fun handle mem => ?_
    obtain ⟨conn, place, -⟩ := ((run_tracks run₁.run).listed_iff handle).mp mem
    obtain ⟨-, same⟩ := place_of_only created₁ place
    cases same
  have held₁ := s₁.client.networkToClient.remaining_eq
  let answers : EventAnswers :=
    ⟨⟨.ok none, .ok 1, .ok []⟩, 0, fun _ => ⟨0, false, 0, .ok (), .ok 0⟩⟩
  have some₁ : s₁.client.networkToClient.isEmpty = false := by
    rw [StreamBuffer.isEmpty_eq_false_iff, ← List.length_pos_iff_ne_nil]
    omega
  have within₁ : Ready.writable.Within s₁.client.interests := by
    rw [rest₁.settled.2, Client.wanted, some₁]
    decide
  obtain ⟨c₂, handled₂, rest₂, created₂, appended₂, -, less₂⟩ :=
    @ClientContext.AtRest.sends s₁.toClientContext answers rest₁ some₁ none₁ rfl
  obtain ⟨t₂, run₂, -⟩ := run₁.goes idle₁
    (.event .refl rest₁.registered within₁ (by decide) handled₂ rest₂.settled.1)
  have held₂ := c₂.client.networkToClient.remaining_eq
  -- the second reply
  have reads₂ : Reads { s₁ with toClientContext := c₂ } 0 28 := by
    obtain ⟨conn, place, reads⟩ := reads₁
    exact ⟨conn, created₂ ▸ place, reads⟩
  obtain ⟨t₃, s₃, _, _, second, _, run₃, -, rest₃, -, -, -, -, -, -, length₃, appended₃, room₃⟩ :=
    @run_reads t₂ { s₁ with toClientContext := c₂ } 0 28 run₂ idle₁ rest₂ reads₂ [0x62] (by decide) (by
      show 28 + 1 ≤ c₂.client.networkToClient.remaining
      omega)
  replace appended₃ : s₃.client.appended = [first.raw, second.raw] := by
    rw [appended₃]
    show c₂.client.appended ++ [second.raw] = _
    rw [appended₂, appended₁]
    rfl
  replace length₃ : second.raw.length = 29 := length₃
  replace room₃ : s₃.client.networkToClient.remaining + 29 = c₂.client.networkToClient.remaining := room₃
  have held₃ := s₃.client.networkToClient.remaining_eq
  have stream := congrArg List.length (run_streams run₃.run).stream
  have idSent : s₃.client.pendingIdBytes = 0 := by simpa [Client.mustSendId] using rest₃.identified
  rw [appended₃, idSent, List.drop_of_length_le (by rw [length_u32Bytes])] at stream
  simp only [List.length_append, List.length_nil, List.flatten_cons, List.flatten_nil, length_u32Bytes] at stream
  have received : s₃.received.length = 5 := by omega
  -- the third
  obtain ⟨sent, client, selector, sends, -, -, fits⟩ := s₃.client.sendRawToClient_returns first.raw
    (show s₃.selector.registered .client ≠ none by rw [rest₃.registered]; exact Option.some_ne_none _)
  obtain ⟨prefixed, attempts⟩ := run_received run₃.run
  have accepted : sent = .ok () := by
    rcases fits with ⟨-, accepted⟩ | ⟨full, -⟩
    · exact accepted
    · omega
  cases accepted
  rcases attempts _ _ _ _ sends with ⟨-, appended⟩ | ⟨rejected, -⟩
  · exact ⟨t₃, s₃, first.raw, second.raw, client, selector, run₃.run, appended₃, received,
      by rw [List.length_append, length_u32Bytes, length₁]; decide, prefixed, sends, by rw [appended, appended₃]; rfl⟩
  · cases rejected

end Relay

/-! ## The exchange -/

/-- What the client sends: a datagram, the handshake of a TCP flow, and a byte on it. -/
def exchangePackets : List (List UInt8) :=
  [Relay.datagramBytes4, segmentBytes 0 0 2 [], segmentBytes 1 1 0x10 [], segmentBytes 1 1 0x18 [0x62]]

namespace ClientContext

/-- The client has got a reply on its UDP flow, a byte has gone each way on its TCP flow, and it has
taken all that it was sent. -/
structure Exchanged (c : ClientContext) (udp : UdpConnection) (tcp : TcpConnection) : Prop where
  rest : c.AtRest
  created : c.created = [.udp udp, .tcp tcp]
  udpId : udp.id = Relay.datagramId4
  tcpId : tcp.id = Relay.segmentId
  exchanged : ∃ synAck raw ack, Segment.ofRaw synAck = ⟨0, 1, flagSyn ||| flagAck, []⟩ ∧
    tcp.Exchanged 2 2 [] [TcpAction.opened 0, TcpAction.forged synAck false, TcpAction.read [0x61],
      TcpAction.handed raw, TcpAction.wrote [0x62], TcpAction.forged ack false]
  replied : [0x61] ∈ c.client.appended.filterMap (payloadOf Relay.datagramId4)
  sent : c.client.networkToClient.contents = []

namespace Exchanged

variable {c : ClientContext} {udp : UdpConnection} {tcp : TcpConnection}

theorem place_udp (exchanged : c.Exchanged udp tcp) : c.created[0]? = some (.udp udp) := by
  rw [exchanged.created]
  rfl

theorem place_tcp (exchanged : c.Exchanged udp tcp) : c.created[1]? = some (.tcp tcp) := by
  rw [exchanged.created]
  rfl

/-- The two flows are told apart by their protocol. -/
theorem other (exchanged : c.Exchanged udp tcp) : udp.id ≠ tcp.id := by
  rw [exchanged.udpId, exchanged.tcpId]
  decide

end Exchanged

end ClientContext

namespace Relay

variable {t : List (Relay × Label)} {s : Relay}

/-- The connection of `run_established` can exchange bytes. -/
theorem run_exchanging (run : SoloRun t s) (idle : s.batch = []) (rest : s.AtRest)
    (unknown : s.connectionOf segmentId = none) :
    ∃ t' s' tcp synAck, SoloRun t' s' ∧ s'.batch = [] ∧ s'.AtRest ∧
      s.Onward (segmentBytes 0 0 2 [] ++ segmentBytes 1 1 0x10 []) s'.toClientContext ∧
      s'.created = s.created ++ [.tcp tcp] ∧ tcp.id = segmentId ∧
      Segment.ofRaw synAck = ⟨0, 1, flagSyn ||| flagAck, []⟩ ∧
      tcp.Exchanged 1 1 [] [TcpAction.opened 0, TcpAction.forged synAck false] := by
  obtain ⟨t', s', tcp, run', idle', rest', onward, created, forTcp, p, synAck, answer, rfl⟩ :=
    run_established run idle rest unknown
  have held : (StreamBuffer.new (4 * maxPacketLength)).contents = [] := StreamBuffer.contents_new
  refine ⟨t', s', _, synAck, run', idle', rest', onward, created, rfl, answer, rfl, forTcp, rfl, rfl, held, rfl, ?_⟩
  refine (TcpConnection.wanted_readable rfl rfl ?_ ((StreamBuffer.isEmpty_iff _).mpr held)).symm
  show 0 < (Tcb.exchanging 1 1).remainingClientWindow
  decide

/-- A byte of the host is read from the socket of an open flow and handed to the client. -/
theorem run_readsByte {acknowledgementNumber sequenceNumber : UInt32} {trace : List TcpAction}
    {handle : Handle} {conn : TcpConnection} (run : SoloRun t s) (idle : s.batch = [])
    (rest : s.AtRest) (place : s.created[handle]? = some (.tcp conn))
    (exchanged : conn.Exchanged acknowledgementNumber sequenceNumber [] trace)
    (window : 0 < (Tcb.exchanging acknowledgementNumber sequenceNumber).remainingClientWindow)
    (room : 80 < s.client.networkToClient.remaining) (byte : UInt8) :
    ∃ t' s' conn' raw, SoloRun t' s' ∧ s'.batch = [] ∧ s'.AtRest ∧ s.Onward [] s'.toClientContext ∧
      s'.created = s.created.set handle (.tcp conn') ∧ conn'.id = conn.id ∧
      conn'.Exchanged acknowledgementNumber (sequenceNumber + 1) []
        (trace ++ [TcpAction.read [byte], TcpAction.handed raw]) := by
  let answers : EventAnswers :=
    ⟨⟨.ok none, .ok 0, .ok [byte]⟩, 0, fun _ => ⟨0, false, 0, .ok (), .ok 0⟩⟩
  have within : Ready.readable.Within conn.interests := by
    rw [exchanged.readable window]
    exact Ready.within_refl _
  have usable := usable run rest place exchanged.isOpen exchanged.forTcp s.client
  obtain ⟨c, raw, happened, handle', id, -, exchanged'⟩ :=
    @TcpConnection.Exchanged.reads _ _ _ _ _ _ _ answers.socket 0 _ exchanged usable window room rfl
  obtain ⟨t', s', run', idle', rest', onward, created, -⟩ :=
    run_tcp run idle rest place exchanged.isOpen within (by decide) happened handle'
  exact ⟨t', s', c.conn, raw, run', idle', rest', onward, created, id, exchanged'⟩

/-- A byte of the client arrives in a segment of its flow, and is held for the socket. -/
theorem run_takesByte {trace : List TcpAction} {handle : Handle} {conn : TcpConnection}
    (run : SoloRun t s) (idle : s.batch = []) (rest : s.AtRest)
    (place : s.created[handle]? = some (.tcp conn)) (flow : conn.id = segmentId)
    (exchanged : conn.Exchanged 1 2 [] trace) :
    ∃ t' s' conn', SoloRun t' s' ∧ s'.batch = [] ∧ s'.AtRest ∧
      s.Onward (segmentBytes 1 1 0x18 [0x62]) s'.toClientContext ∧
      s'.created = s.created.set handle (.tcp conn') ∧ conn'.id = conn.id ∧
      conn'.Exchanged 1 2 [0x62] trace := by
  have front : packets.front (segmentBytes 1 1 0x18 [0x62]) =
      .item (.routed (.ipv4 (segmentPacket 1 1 0x18 [0x62]))) (segmentBytes 1 1 0x18 [0x62]).length :=
    rfl
  have usable := usable run rest place exchanged.isOpen exchanged.forTcp
  have roomy : [(0x62 : UInt8)].length ≤ conn.clientToNetwork.remaining := by
    rw [conn.clientToNetwork.remaining_eq, exchanged.held]
    decide
  obtain ⟨t', s', conn', run', idle', rest', onward, ⟨-, id, exchanged'⟩, created⟩ := @run_segment t s
    (fun tcp => tcp.handle = conn.handle ∧ tcp.id = conn.id ∧ tcp.Exchanged 1 2 [0x62] trace)
    _ _ ⟨0, false, 0, .ok (), .ok 0⟩ handle conn run idle rest (by decide) front (by rw [flow]; rfl)
    rfl place exchanged.isOpen
    (fun client => by
      obtain ⟨c, sent, -, handle, id, exchanged⟩ :=
        @TcpConnection.Exchanged.takes _ _ _ _ _ _ _ 0 (segmentPacket 1 1 0x18 [0x62])
          (segmentHeader 1 1 0x18) [0x62] exchanged (usable client) 0 rfl rfl (List.cons_ne_nil _ _)
          (by decide) (by decide) (by decide) (by decide) (by decide) (by decide) roomy
      exact ⟨c, sent, handle, id, exchanged⟩)
    (fun tcp holds => ⟨holds.1, holds.2.2.isOpen⟩)
  exact ⟨t', s', conn', run', idle', rest', onward, created, id, exchanged'⟩

/-- The socket of the host takes a byte that was held for it. -/
theorem run_writesByte {acknowledgementNumber sequenceNumber : UInt32} {byte : UInt8}
    {held : List UInt8} {trace : List TcpAction} {handle : Handle} {conn : TcpConnection}
    (run : SoloRun t s) (idle : s.batch = []) (rest : s.AtRest)
    (place : s.created[handle]? = some (.tcp conn))
    (exchanged : conn.Exchanged acknowledgementNumber sequenceNumber (byte :: held) trace) :
    ∃ t' s' conn' ack, SoloRun t' s' ∧ s'.batch = [] ∧ s'.AtRest ∧ s.Onward [] s'.toClientContext ∧
      s'.created = s.created.set handle (.tcp conn') ∧ conn'.id = conn.id ∧
      conn'.Exchanged (acknowledgementNumber + 1) sequenceNumber held
        (trace ++ [TcpAction.wrote [byte], TcpAction.forged ack false]) := by
  let answers : EventAnswers :=
    ⟨⟨.ok none, .ok 1, .ok []⟩, 0, fun _ => ⟨0, false, 0, .ok (), .ok 0⟩⟩
  have within : Ready.writable.Within conn.interests := by
    rw [exchanged.interests]
    refine TcpConnection.writable_within_wanted ?_
    rw [StreamBuffer.isEmpty_eq_false_iff, exchanged.held]
    exact List.cons_ne_nil _ _
  have usable := usable run rest place exchanged.isOpen exchanged.forTcp s.client
  obtain ⟨c, ack, happened, handle', id, -, exchanged'⟩ :=
    @TcpConnection.Exchanged.writes _ _ _ _ _ _ _ answers.socket 0 _ exchanged usable rfl
  obtain ⟨t', s', run', idle', rest', onward, created, -⟩ :=
    run_tcp run idle rest place exchanged.isOpen within (by decide) happened handle'
  exact ⟨t', s', c.conn, ack, run', idle', rest', onward, created, id, exchanged'⟩

/-- **A byte goes each way** on an open flow, next to whatever other flows there are.  The host is
read first, then the client's segment arrives, and then it is written; the number of either side
goes up by one. -/
theorem run_bytes {trace : List TcpAction} {handle : Handle} {conn : TcpConnection}
    (run : SoloRun t s) (idle : s.batch = []) (rest : s.AtRest)
    (place : s.created[handle]? = some (.tcp conn)) (flow : conn.id = segmentId)
    (exchanged : conn.Exchanged 1 1 [] trace) (room : 80 < s.client.networkToClient.remaining) :
    ∃ t' s' conn' raw ack, SoloRun t' s' ∧ s'.batch = [] ∧ s'.AtRest ∧
      s.Onward (segmentBytes 1 1 0x18 [0x62]) s'.toClientContext ∧
      s'.created = s.created.set handle (.tcp conn') ∧ conn'.id = conn.id ∧
      conn'.Exchanged 2 2 [] (trace ++ [TcpAction.read [0x61], TcpAction.handed raw,
        TcpAction.wrote [0x62], TcpAction.forged ack false]) := by
  have known := (List.getElem?_eq_some_iff.mp place).1
  obtain ⟨t₁, s₁, conn₁, raw, run₁, idle₁, rest₁, onward₁, created₁, id₁, exchanged₁⟩ :=
    run_readsByte run idle rest place exchanged (by decide) room 0x61
  have place₁ : s₁.created[handle]? = some (.tcp conn₁) := by
    rw [created₁, List.getElem?_set_self known]
  obtain ⟨t₂, s₂, conn₂, run₂, idle₂, rest₂, onward₂, created₂, id₂, exchanged₂⟩ :=
    run_takesByte run₁ idle₁ rest₁ place₁ (id₁.trans flow) exchanged₁
  rw [created₁, List.set_set] at created₂
  have place₂ : s₂.created[handle]? = some (.tcp conn₂) := by
    rw [created₂, List.getElem?_set_self known]
  obtain ⟨t₃, s₃, conn₃, ack, run₃, idle₃, rest₃, onward₃, created₃, id₃, exchanged₃⟩ :=
    run_writesByte run₂ idle₂ rest₂ place₂ exchanged₂
  rw [created₂, List.set_set] at created₃
  rw [List.append_assoc] at exchanged₃
  exact ⟨t₃, s₃, conn₃, raw, ack, run₃, idle₃, rest₃, (onward₁.trans onward₂).trans onward₃, created₃,
    id₃.trans (id₂.trans id₁), exchanged₃⟩

/-- **The exchange.**  A datagram and its reply, the handshake of a TCP flow, a byte of the host
and a byte of the client; and the client has taken from its socket all that it was sent. -/
theorem exchange : ∃ c udp tcp, (ClientContext.identified 0).Goes exchangePackets.flatten c ∧
    c.Exchanged udp tcp := by
  obtain ⟨t₀, s₀, run₀, idle₀, rest₀, ⟨udp, place₀, reads₀⟩, -, unknown, -, onward₀, -, -, _, created₀, id₀⟩ :=
    run_udpFlow
  rw [created₀] at place₀
  cases place₀
  -- the handshake, which the client takes
  obtain ⟨t₁, s₁, tcp₁, synAck, run₁, idle₁, rest₁, onward₁, created₁, tcpId₁, answer, exchanged₁⟩ :=
    run_exchanging run₀ idle₀ rest₀ unknown
  rw [created₀] at created₁
  obtain ⟨t₂, s₂, run₂, idle₂, rest₂, goes₂, created₂, -, empty₂⟩ :=
    run_flushes run₁ idle₁ rest₁ (none_pending run₁.run created₁ exchanged₁.idle)
  rw [created₁] at created₂
  have room₂ := s₂.client.networkToClient.remaining_eq
  rw [empty₂, List.length_nil, Nat.sub_zero] at room₂
  -- the reply to the datagram
  have reads₂ : s₂.Reads 0 28 := ⟨udp, by rw [created₂]; rfl, reads₀⟩
  obtain ⟨t₃, s₃, udp₂, udp₃, packet, p, run₃, idle₃, rest₃, onward₃, -, place₂, created₃, udpId₃, packetized,
      -, appended₃, room₃⟩ :=
    @run_reads t₂ s₂ 0 28 run₂ idle₂ rest₂ reads₂ [0x61] (by decide) (by rw [room₂]; decide)
  rw [created₂] at place₂ created₃
  cases place₂
  have faces : udp.Faces := (run_facing run₂.run).faces 0 (.udp udp) (by rw [created₂]; rfl)
  have payload : payloadOf udp.id packet.raw = some [0x61] := by
    have all := Packetizer.length_payload faces.wellFormed
    rw [reads₀.2.2.2] at all
    rw [faces.faces.payloadOf_packetize faces.wellFormed packetized]
    refine congrArg some (List.take_of_length_le ?_)
    rw [List.length_singleton]
    omega
  -- the two bytes of the TCP flow
  have place₃ : s₃.created[1]? = some (.tcp tcp₁) := by
    rw [created₃]
    rfl
  have room₃ : 80 < s₃.client.networkToClient.remaining := by
    have large : 16 * maxPacketLength = 1048576 := rfl
    rw [List.length_singleton] at room₃
    omega
  obtain ⟨t₄, s₄, tcp₄, raw, ack, run₄, idle₄, rest₄, onward₄, created₄, tcpId₄, exchanged₄⟩ :=
    run_bytes run₃ idle₃ rest₃ place₃ tcpId₁ exchanged₁ room₃
  rw [created₃] at created₄
  have created₄ : s₄.created = [.udp udp₃, .tcp tcp₄] := created₄
  -- the client takes it all
  obtain ⟨t₅, s₅, run₅, idle₅, rest₅, goes₅, created₅, appended₅, empty₅⟩ :=
    run_flushes run₄ idle₄ rest₄ (none_pending run₄.run created₄ exchanged₄.idle)
  have goes := ((((onward₀.goes.trans onward₁.goes).trans goes₂).trans onward₃.goes).trans
    onward₄.goes).trans goes₅
  refine ⟨s₅.toClientContext, udp₃, tcp₄, goes, rest₅, created₅.trans created₄, udpId₃.trans id₀,
    tcpId₄.trans tcpId₁, ⟨synAck, raw, ack, answer, exchanged₄⟩, ?_, empty₅⟩
  have there : packet.raw ∈ s₅.client.appended := by
    rw [appended₅]
    refine onward₄.appended.subset ?_
    rw [appended₃]
    exact List.mem_append_right _ (List.mem_singleton_self _)
  rw [← id₀]
  exact List.mem_filterMap.mpr ⟨packet.raw, there, payload⟩

/-- No packet has waited. -/
theorem unforged_of_exchanged {udp : UdpConnection} {tcp : TcpConnection}
    (exchanged : s.toClientContext.Exchanged udp tcp) : s.Unforged := by
  intro handle conn place forged mem
  obtain ⟨-, rfl⟩ := place_of_created exchanged.created place
  obtain ⟨synAck, raw, ack, -, same⟩ := exchanged.exchanged
  rw [same.trace] at mem
  simp at mem

/-- **The exchange, as a run of the loop.**  It is the inhabitant of the statements about the whole
relay: each of their conditions holds of it, and each of their lists has something in it. -/
theorem run_exchange : ∃ t s udp tcp, machine.Run t s ∧ s.toClientContext.Exchanged udp tcp ∧
    allTaken t = exchangePackets.flatten := by
  obtain ⟨c, udp, tcp, goes, exchanged⟩ := exchange
  have start : SoloRun [] (create 0) := ⟨.start ⟨0, rfl⟩, Machine.meets_nil _⟩
  obtain ⟨t, run, taken⟩ := start.goes rfl ((ClientContext.Goes.identified 0).trans goes)
  exact ⟨t, _, udp, tcp, run.run, exchanged, taken⟩

/-- What the relay decides on. -/
theorem decode_exchange : packets.decode exchangePackets.flatten =
    ⟨[.routed (.ipv4 datagramPacket4), .routed (.ipv4 (segmentPacket 0 0 2 [])),
      .routed (.ipv4 (segmentPacket 1 1 0x10 [])), .routed (.ipv4 (segmentPacket 1 1 0x18 [0x62]))], [],
      false⟩ := by
  have cons {raw rest : List UInt8} {verdict : Verdict} (front : packets.front raw = .item verdict raw.length) :
      packets.decode (raw ++ rest) = ⟨verdict :: (packets.decode rest).items, (packets.decode rest).rest,
        (packets.decode rest).stopped⟩ := by
    rw [Framing.decode_of_item (packets.item_append front rest), List.drop_left]
  have nothing : packets.decode [] = ⟨[], [], false⟩ :=
    Framing.decode_of_incomplete (show packets.front [] = .incomplete from rfl)
  rw [exchangePackets, List.flatten_cons, List.flatten_cons, List.flatten_cons, List.flatten_cons,
    List.flatten_nil, cons datagram4_front, @cons (segmentBytes 0 0 2 []) _ (.routed (.ipv4 (segmentPacket 0 0 2 []))) rfl,
    @cons (segmentBytes 1 1 0x10 []) _ (.routed (.ipv4 (segmentPacket 1 1 0x10 []))) rfl,
    @cons (segmentBytes 1 1 0x18 [0x62]) _ (.routed (.ipv4 (segmentPacket 1 1 0x18 [0x62]))) rfl, nothing]

end Relay

end ReverseTether
