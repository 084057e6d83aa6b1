import ReverseTether.ForwardedReplies
import ReverseTether.Link
import ReverseTether.Refusals
import ReverseTether.TunnelBudget

/-!
# What the link can do next

What an app does on its own, it does in a link (`run_turns`), and so does a client that is given
the bytes of the app (`run_serves`): runs of the link are put together from both.  In one of them
a datagram goes from the tun device to its connection in the relay (`run_delivers`).  In the other
the app refuses a packet and sends those of the exchange, and all that its client is sent is written
to the tun device (`run_exchange`).

A run of the link interleaves steps of the app and of the relay, and the bytes of one are
there for the other in a later step at the earliest.  So a run in which something goes there
and back is put together from four pieces: a turn of the app, a round of the relay that reads,
a round that writes, and another turn of the app.

These runs are what makes the statements about all runs of a link more than statements about
idle ones, and each of them is given down to the bytes.
-/

namespace ReverseTether

open Library

/-- A valid packet is one that the app takes. -/
theorem ValidPacket.fits {raw : List UInt8} (valid : ValidPacket raw) :
    IsPacket raw ∧ raw ≠ [] ∧ raw.length ≤ MAX_PACKET := by
  have long := valid.long
  have total := valid.totalLength
  have small := (getU16 raw 2).toNat_lt
  have size : MAX_PACKET = 65535 := rfl
  have inside : ipv4HeaderLength raw ≤ raw.length := by
    rcases valid.transport with ⟨-, fits, -⟩ | ⟨-, fits, -⟩
    · omega
    · omega
  exact ⟨.inl ⟨valid.version, long, inside, total⟩, List.length_pos_iff.mp (by omega), by omega⟩

namespace Tunnel

variable {ipv6Mode : Ipv6Mode} {b b' b₁ : Tunnel} {raw : List UInt8}

/-! ## What an app does on its own -/

/-- Iterations of the loop lead from a tunnel to another.  The socket gives `got` and takes `sent`;
nothing is said of what is at the other end. -/
inductive Goes (b : Tunnel) : List UInt8 → List UInt8 → Tunnel → Prop
  | refl : Goes b [] [] b
  | turn {got sent more gone : List UInt8} {b₁ : Tunnel} {turn : Turn} : Goes b got sent b₁ →
      b₁.running = true → (b₁.afterTurn turn).received = b₁.received ++ more →
      (b₁.afterTurn turn).taken = b₁.taken ++ gone →
      Goes b (got ++ more) (sent ++ gone) (b₁.afterTurn turn)

theorem Goes.trans {got got' sent sent' : List UInt8} (first : b.Goes got sent b₁)
    (second : b₁.Goes got' sent' b') : b.Goes (got ++ got') (sent ++ sent') b' := by
  induction second with
  | refl =>
      rw [List.append_nil, List.append_nil]
      exact first
  | turn _ running received taken ih =>
      rw [← List.append_assoc, ← List.append_assoc]
      exact ih.turn running received taken

/-- One iteration whose end is known. -/
theorem Goes.single {turn : Turn} {got sent : List UInt8} (running : b.running = true)
    (after : b.afterTurn turn = b') (received : b'.received = b.received ++ got)
    (taken : b'.taken = b.taken ++ sent) : b.Goes got sent b' := by
  subst after
  exact Goes.refl.turn running received taken

/-- Nothing is on its way through the app, in either direction.  What the app is given next is
handled by itself, which is how the witnesses are put together. -/
structure Idle (b : Tunnel) : Prop where
  running : b.running = true
  clean : b.error = none
  outbound : b.outbound = []
  offset : b.sendOffset = 0
  incoming : b.incoming = []
  packets : b.packets = []
  queued : b.queuedBytes = 0

theorem idle_start (ipv6Mode : Ipv6Mode) : (start ipv6Mode).Idle := ⟨rfl, rfl, rfl, rfl, rfl, rfl, rfl⟩

/-- An iteration in which the socket takes what there is. -/
def sendTurn (most : ℕ) : Turn where
  stopping := false
  poll := .ok (⟨false, false, false, false, false⟩, ⟨false, true, false, false, false⟩)
  stoppingBehindPoll := false
  read := .error .eagain
  send := .ok most
  recv := .error .eagain
  write := .error .eagain

/-- An iteration in which the socket gives `bytes`. -/
def recvTurn (bytes : List UInt8) : Turn where
  stopping := false
  poll := .ok (⟨false, false, false, false, false⟩, ⟨true, false, false, false, false⟩)
  stoppingBehindPoll := false
  read := .error .eagain
  send := .error .eagain
  recv := .ok bytes
  write := .error .eagain

/-- An iteration in which the tun device takes `count` bytes of a packet. -/
def writeTurn (count : ℕ) : Turn where
  stopping := false
  poll := .ok (⟨false, true, false, false, false⟩, ⟨false, false, false, false, false⟩)
  stoppingBehindPoll := false
  read := .error .eagain
  send := .error .eagain
  recv := .error .eagain
  write := .ok count

/-- What is read becomes of the tunnel, as long as it asks for packets. -/
theorem afterTurn_readTurn (polls : b.tunPollIn = true) (some : raw ≠ []) (fits : raw.length ≤ MAX_PACKET) :
    b.afterTurn (readTurn raw) = b.takePacket raw := by
  have nonempty : 0 < raw.length := List.length_pos_iff.mpr some
  have whole : raw.take MAX_PACKET = raw := List.take_of_length_le fits
  have iterated : b.iterate (readTurn raw) = .ok (b.takePacket raw) := by
    simp [iterate, readTurn, serve, beforeWrite, when, Events.reported, readTun, whole, nonempty, polls,
      bind, Except.bind]
  rw [afterTurn, iterated]

/-- What is to be sent is taken whole. -/
theorem afterTurn_sendTurn (none : b.sendOffset = 0) (some : 0 < b.outbound.length) :
    b.afterTurn (sendTurn b.outbound.length) = { b with
      taken := b.taken ++ b.outbound
      outbound := []
      sendOffset := 0 } := by
  have iterated : b.iterate (sendTurn b.outbound.length) = .ok { b with
      taken := b.taken ++ b.outbound
      outbound := []
      sendOffset := 0 } := by
    simp [iterate, sendTurn, serve, beforeWrite, when, Events.reported, sendSocket, none, some,
      socketPollOut, took, clearSent, bind, Except.bind]
  rw [afterTurn, iterated]

/-- The packet at the front is written. -/
theorem afterTurn_writeTurn {packet : QueuedPacket} {rest : List QueuedPacket}
    (queue : b.packets = packet :: rest) :
    b.afterTurn (writeTurn packet.size) = { b with
      rxBytes := b.rxBytes + UInt64.ofNat packet.size
      rxPackets := b.rxPackets + 1
      queuedBytes := b.queuedBytes - packet.size
      packets := rest
      written := b.written ++ [packet] } := by
  have polls : b.tunPollOut = true := by
    rw [tunPollOut, queue]
    rfl
  have iterated : b.iterate (writeTurn packet.size) = .ok { b with
      rxBytes := b.rxBytes + UInt64.ofNat packet.size
      rxPackets := b.rxPackets + 1
      queuedBytes := b.queuedBytes - packet.size
      packets := rest
      written := b.written ++ [packet] } := by
    simp [iterate, writeTurn, serve, beforeWrite, when, Events.reported, writeTun, queue, polls,
      bind, Except.bind]
  rw [afterTurn, iterated]

/-- An idle tunnel asks for packets, on both sides. -/
theorem Idle.polls (idle : b.Idle) : b.tunPollIn = true ∧ b.socketPollIn = true := by
  have size : MAX_QUEUE = 1048576 ∧ MAX_PACKET = 65535 := ⟨rfl, rfl⟩
  have outbound := idle.outbound
  have incoming := idle.incoming
  have queued := idle.queued
  refine ⟨decide_eq_true ?_, decide_eq_true ?_⟩
  · rw [outbound, List.length_nil]
    omega
  · rw [queued, incoming, List.length_nil]
    omega

/-- A packet that the socket gives whole is queued. -/
theorem afterTurn_recvTurn (idle : b.Idle) (packet : IsPacket raw) (some : raw ≠ [])
    (fits : raw.length ≤ MAX_PACKET) :
    b.afterTurn (recvTurn raw) = { (b.feed raw).enqueue [raw] with incoming := [] } := by
  have polls := idle.polls.2
  have received := @recvSocket_packet b idle.clean raw some fits (by rw [idle.incoming]; exact packet)
  rw [idle.incoming, List.nil_append] at received
  have iterated : b.iterate (recvTurn raw) = .ok { (b.feed raw).enqueue [raw] with incoming := [] } := by
    simp only [iterate, recvTurn, serve, Events.reported, beforeWrite, Bool.false_and, Bool.true_and, polls,
      Bool.or_false, Bool.false_eq_true, if_false]
    show (b.recvSocket (.ok raw) >>= fun b => .ok b) = _
    rw [received]
    rfl
  rw [afterTurn, iterated]

namespace Idle

/-- **A packet is forwarded**, and the socket takes it.  The first turn reads it from the tun
device, and the second sends it in one piece. -/
theorem forwards (idle : b.Idle) (forwarded : Tunnel.forwards b.ipv6Mode raw = true)
    (fits : raw.length ≤ MAX_PACKET) :
    ∃ b', b.Goes [] raw b' ∧ b'.Idle ∧ b'.ipv6Mode = b.ipv6Mode ∧ b'.read = b.read ++ [raw] ∧
      b'.written = b.written := by
  obtain ⟨wellFormed, proxied⟩ := forwards_iff.mp forwarded
  have some : 0 < raw.length := by
    rcases isWellFormedIpPacket_iff.mp wellFormed with ⟨-, long, header, -⟩ | ⟨-, total⟩
    · omega
    · omega
  let reading : Tunnel := { b with
    read := b.read ++ [raw]
    outbound := raw
    txPackets := b.txPackets + 1
    txBytes := b.txBytes + UInt64.ofNat raw.length }
  have taken : b.takePacket raw = reading := by
    unfold takePacket
    refine (if_neg (not_not.mpr wellFormed)).trans ((if_neg proxied).trans ?_)
    simp [forward, noteRead, compact, reading, idle.outbound, idle.offset]
  have read : b.afterTurn (readTurn raw) = reading :=
    (afterTurn_readTurn idle.polls.1 (List.length_pos_iff.mp some) fits).trans taken
  have sent := @afterTurn_sendTurn reading idle.offset some
  have goes := (Goes.single idle.running read (List.append_nil _).symm (List.append_nil _).symm).trans
    (Goes.single idle.running sent (List.append_nil _).symm rfl)
  exact ⟨_, goes, ⟨idle.running, idle.clean, rfl, rfl, idle.incoming, idle.packets, idle.queued⟩, rfl, rfl,
    rfl⟩

/-- Packets are forwarded one after the other. -/
theorem forwardsAll {packets : List (List UInt8)} (idle : b.Idle)
    (each : ∀ raw ∈ packets, Tunnel.forwards b.ipv6Mode raw = true ∧ raw.length ≤ MAX_PACKET) :
    ∃ b', b.Goes [] packets.flatten b' ∧ b'.Idle ∧ b'.ipv6Mode = b.ipv6Mode ∧
      b'.read = b.read ++ packets ∧ b'.written = b.written := by
  induction packets generalizing b with
  | nil => exact ⟨b, .refl, idle, rfl, (List.append_nil _).symm, rfl⟩
  | cons raw packets ih =>
      obtain ⟨forwarded, fits⟩ := each raw List.mem_cons_self
      obtain ⟨b₁, goes₁, idle₁, mode₁, read₁, written₁⟩ := idle.forwards forwarded fits
      obtain ⟨b', goes, idle', mode', read', written'⟩ := ih idle₁ fun raw mem =>
        mode₁ ▸ each raw (List.mem_cons_of_mem _ mem)
      refine ⟨b', goes₁.trans goes, idle', mode'.trans mode₁, ?_, written'.trans written₁⟩
      rw [read', read₁, List.append_assoc]
      rfl

/-- **A packet is refused**, and the refusal is written. -/
theorem refuses (idle : b.Idle) (blackhole : b.ipv6Mode = .blackhole) :
    ∃ b' reply, b.Goes [] [] b' ∧ b'.Idle ∧ b'.ipv6Mode = b.ipv6Mode ∧
      b'.read = b.read ++ [barePacket] ∧ b'.written = b.written ++ [.reply reply] := by
  obtain ⟨reply, -, refused⟩ := takePacket_barePacket blackhole (by
    have size : MAX_QUEUE = 1048576 ∧ MAX_PACKET = 65535 := ⟨rfl, rfl⟩
    rw [idle.queued]
    omega)
  have read := (afterTurn_readTurn idle.polls.1 (show barePacket ≠ [] by decide) (by decide)).trans refused
  rw [idle.queued, idle.packets] at read
  have written := @afterTurn_writeTurn { (b.noteRead barePacket).countDropped with
    queuedBytes := 0 + reply.length
    packets := [] ++ [.reply reply] } (.reply reply) [] rfl
  have goes := (Goes.single idle.running read (List.append_nil _).symm (List.append_nil _).symm).trans
    (Goes.single idle.running written (List.append_nil _).symm (List.append_nil _).symm)
  refine ⟨_, reply, goes, ⟨idle.running, idle.clean, idle.outbound, idle.offset, idle.incoming, rfl, ?_⟩, rfl,
    rfl, rfl⟩
  show 0 + reply.length - reply.length = 0
  omega

/-- **A packet comes from the socket**, and it is written.  The first turn takes it from the socket
in one piece, and the second writes it to the tun device; a packet that comes in pieces is not
needed here. -/
theorem receives (idle : b.Idle) (packet : IsPacket raw) (some : raw ≠ []) (fits : raw.length ≤ MAX_PACKET) :
    ∃ b', b.Goes raw [] b' ∧ b'.Idle ∧ b'.read = b.read ∧ b'.written = b.written ++ [.framed raw] := by
  have received := afterTurn_recvTurn idle packet some fits
  have written := @afterTurn_writeTurn { (b.feed raw).enqueue [raw] with incoming := [] } (.framed raw) [] (by
    show b.packets ++ [raw].map QueuedPacket.framed = _
    rw [idle.packets]
    rfl)
  have goes := (Goes.single idle.running received rfl (List.append_nil _).symm).trans
    (Goes.single idle.running written (List.append_nil _).symm (List.append_nil _).symm)
  rw [List.append_nil] at goes
  refine ⟨_, goes, ⟨idle.running, idle.clean, idle.outbound, idle.offset, rfl, rfl, ?_⟩, rfl, rfl⟩
  show b.queuedBytes + (raw.length + 0) - raw.length = 0
  rw [idle.queued]
  omega

/-- Packets come one after the other. -/
theorem receivesAll {packets : List (List UInt8)} (idle : b.Idle)
    (each : ∀ raw ∈ packets, IsPacket raw ∧ raw ≠ [] ∧ raw.length ≤ MAX_PACKET) :
    ∃ b', b.Goes packets.flatten [] b' ∧ b'.Idle ∧ b'.read = b.read ∧
      b'.written = b.written ++ packets.map .framed := by
  induction packets generalizing b with
  | nil => exact ⟨b, .refl, idle, rfl, (List.append_nil _).symm⟩
  | cons raw packets ih =>
      obtain ⟨packet, some, fits⟩ := each raw List.mem_cons_self
      obtain ⟨b₁, goes₁, idle₁, read₁, written₁⟩ := idle.receives packet some fits
      obtain ⟨b', goes, idle', read', written'⟩ := ih idle₁ fun raw mem => each raw (List.mem_cons_of_mem _ mem)
      refine ⟨b', goes₁.trans goes, idle', read'.trans read₁, ?_⟩
      rw [written', written₁, List.append_assoc]
      rfl

end Idle

end Tunnel

namespace Relay

variable {t : List (Relay × Label)} {s : Relay} {udp : UdpConnection} {tcp : TcpConnection}

/-- Behind its id, the client has got the packets of the exchange, and nothing else. -/
theorem gave_of_exchanged {id : UInt32} {gave : List UInt8} (run : machine.Run t s)
    (exchanged : s.toClientContext.Exchanged udp tcp) (received : s.received = u32Bytes id ++ gave) :
    gave = s.client.appended.flatten := by
  have stream := (run_streams run).stream
  have identified : s.client.pendingIdBytes = 0 :=
    Nat.eq_zero_of_not_pos (of_decide_eq_false exchanged.rest.identified)
  rw [identified, exchanged.sent, received, List.append_nil, List.drop_of_length_le (length_u32Bytes _).le,
    List.append_nil] at stream
  exact (List.append_inj stream ((length_u32Bytes _).trans (length_u32Bytes _).symm)).2

/-- The app takes the packets of the exchange. -/
theorem fits_of_exchanged (run : machine.Run t s) (exchanged : s.toClientContext.Exchanged udp tcp) :
    ∀ raw ∈ s.client.appended, IsPacket raw ∧ raw ≠ [] ∧ raw.length ≤ MAX_PACKET := by
  intro raw mem
  have delivers := (run_deliversPackets_iff run (.of_created exchanged.created)).mpr
    (unforged_of_exchanged exchanged)
  exact (delivers.valid raw mem).fits

end Relay

namespace Link

variable {ipv6Mode : Ipv6Mode} {l : Link} {t : List (Link × Label)}

/-! ## Both ends, and what goes over -/

/-- **The app does in the link what it does on its own.**  The socket between the two is a stream
in either direction, so what the app sends is behind what was there, and what it gets is the front.
-/
theorem run_turns {clientId : UInt32} {b : Tunnel} {got sent rest : List UInt8}
    (run : (machine ipv6Mode).Run t l) (greeted : l.greeting.result = some (.ok clientId))
    (goes : l.tunnel.Goes got sent b) (front : l.down = got ++ rest) :
    ∃ t', (machine ipv6Mode).Run t' { l with tunnel := b, down := rest, up := l.up ++ sent } := by
  obtain ⟨greeting, tunnel, relay, up, down⟩ := l
  dsimp only at greeted goes front ⊢
  induction goes generalizing rest with
  | refl =>
      rw [List.nil_append] at front
      subst front
      rw [List.append_nil]
      exact ⟨t, run⟩
  | @turn got sent more gone b₁ turn _ running received taken ih =>
      rw [List.append_assoc] at front
      obtain ⟨t', run'⟩ := ih front
      have step := @Step.turn ⟨greeting, b₁, relay, up ++ sent, more ++ rest⟩ clientId turn more rest gone
        greeted running rfl received taken
      rw [← List.append_assoc]
      exact ⟨_, run'.step step⟩

/-- **So does its client**, with the bytes that the app sent.  The relay polls the events of the
exchange one by one, and what is written to the client goes behind what was on its way to the app.
-/
theorem run_serves {c : ClientContext} {bytes rest : List UInt8} (run : (machine ipv6Mode).Run t l)
    (idle : l.relay.batch = []) (goes : l.relay.toClientContext.Goes bytes c) (front : l.up = bytes ++ rest) :
    ∃ t' gave, (machine ipv6Mode).Run t'
        { l with relay := { l.relay with toClientContext := c }, up := rest, down := l.down ++ gave } ∧
      c.received = l.relay.received ++ gave := by
  obtain ⟨greeting, tunnel, ⟨c₀, batch, released⟩, up, down⟩ := l
  dsimp only at idle goes front ⊢
  subst idle
  induction goes generalizing rest with
  | refl =>
      rw [List.nil_append] at front
      subst front
      exact ⟨t, [], by rw [List.append_nil]; exact run, (List.append_nil _).symm⟩
  | @event bytes c₁ c₂ source ready interest answers _ known within one handled isOpen ih =>
      rw [List.append_assoc] at front
      obtain ⟨t₁, gave, run₁, received⟩ := ih front
      let polled : Relay := ⟨c₁, [(source, ready)], released⟩
      have polls : Relay.Step ⟨c₁, [], released⟩ (.poll [(source, ready)]) polled := by
        refine .poll rfl fun event mem => ?_
        rw [List.mem_singleton.mp mem]
        exact ⟨interest, known, within⟩
      have handles : polled.Step (.handle answers) ⟨c₂, [], released⟩ := .handle rfl handled
      have took : polled.taken (.handle answers) = c₁.takenBy source ready answers := by
        cases source <;> rfl
      have run₂ := run₁.step (@Step.relay ⟨greeting, tunnel, ⟨c₁, [], released⟩, _, down ++ gave⟩ _ polled
        (c₁.takenBy source ready answers ++ rest) [] polls rfl (List.append_nil _).symm)
      have routed : polled.Routed := Relay.run_routed (run_linked run₂).relays
      obtain ⟨more, given⟩ := Relay.Step.received routed handles
      have run₃ := run₂.step (@Step.relay ⟨greeting, tunnel, polled, _, down ++ gave ++ []⟩ _ _ rest more
        handles (by rw [took]) given.symm)
      have same : down ++ gave ++ [] ++ more = down ++ (gave ++ more) := by
        rw [List.append_nil, List.append_assoc]
      refine ⟨_, gave ++ more, by rw [← same]; exact run₃, ?_⟩
      rw [← List.append_assoc, ← received]
      exact given.symm

/-- The app has read its id. -/
theorem run_greets (ipv6Mode : Ipv6Mode) (id : UInt32) : ∃ t, (machine ipv6Mode).Run t
    ⟨⟨u32Bytes id, some (.ok id)⟩, .start ipv6Mode,
      { Relay.create id with toClientContext := .identified id }, [], []⟩ := by
  have start : (machine ipv6Mode).Run [] ⟨.start, .start ipv6Mode, .create id, [], []⟩ :=
    .start ⟨rfl, rfl, ⟨id, rfl⟩, rfl, rfl⟩
  obtain ⟨t, gave, run, given⟩ := run_serves start rfl (ClientContext.Goes.identified id) rfl
  have gave : gave = u32Bytes id := given.symm
  subst gave
  let identified : Relay := { Relay.create id with toClientContext := .identified id }
  let round : Greeting.Round := ⟨.ok (u32Bytes id), .ok ()⟩
  have greeted : Greeting.start.round round = ⟨u32Bytes id, some (.ok id)⟩ := by
    show (⟨u32Bytes id, some (.ok (getU32 (u32Bytes id) 0))⟩ : Greeting) = _
    rw [getU32_u32Bytes]
  have step := @Step.greet ⟨.start, .start ipv6Mode, identified, [], u32Bytes id⟩ round (u32Bytes id) []
    rfl (List.append_nil _).symm (by rw [greeted]; rfl)
  rw [greeted] at step
  exact ⟨_, run.step step⟩

/-! ## One packet -/

/-- **A packet gets through**: the app has read its id and one packet from the tun device, and the
relay routes it.  Each part makes a step: the handshake, a turn of the app, and an event of the
client in the relay.  The routing is a parameter, so that the lemma serves every kind of packet. -/
theorem run_delivers {raw : List UInt8} {packet : IpPacket} {answers : PacketAnswers}
    (forwarded : Tunnel.forwards ipv6Mode raw = true) (short : raw.length ≤ MAX_PACKET)
    (front : packets.front raw = .item (.routed packet) raw.length)
    (routes : ∀ buffer, ∃ c', Router.sendToNetwork ((ClientContext.identified 0).withInput buffer)
      packet answers = .ok c') :
    ∃ t l buffer c' buffer', (machine ipv6Mode).Run t l ∧ l.tunnel.read = [raw] ∧
      l.greeting.result = some (.ok 0) ∧
      Router.sendToNetwork ((ClientContext.identified 0).withInput buffer) packet answers = .ok c' ∧
      l.relay.toClientContext = c'.withInput buffer' := by
  obtain ⟨t, run⟩ := run_greets ipv6Mode 0
  have fits : raw.length ≤ maxIpPacketLength := short.trans (by decide)
  -- the app reads a packet and sends it
  obtain ⟨b, goes, -, -, read, -⟩ := (Tunnel.idle_start ipv6Mode).forwards forwarded short
  obtain ⟨t₁, run₁⟩ := @run_turns _ _ _ 0 _ _ _ [] run rfl goes rfl
  -- the relay routes it
  let event : EventAnswers := ⟨⟨.ok none, .ok 0, .ok raw⟩, 0, fun _ => answers⟩
  have routed : (ClientContext.identified 0).Routed := Relay.run_routed (run_linked run₁).relays
  have rest : (ClientContext.identified 0).AtRest := ⟨⟨⟨rfl, rfl⟩, rfl, rfl⟩, rfl⟩
  obtain ⟨buffer, buffer', c', routes, -, -, onward⟩ :=
    rest.receives routed fits front (show event.socket.read = .ok raw from rfl) routes
  obtain ⟨t₂, gave, run₂, -⟩ := @run_serves _ _ _ _ _ [] run₁ rfl onward.goes (List.append_nil _).symm
  exact ⟨t₂, _, buffer, c', buffer', run₂, read, rfl, routes, rfl⟩

/-- **A datagram gets through**, and a connection waits to write it.  It is the shortest run in
which the ends have something to say to each other. -/
theorem run_udp : ∃ t l conn, (machine .off).Run t l ∧ l.tunnel.read = [Relay.datagramBytes4] ∧
    l.greeting.result = some (.ok 0) ∧ l.relay.created = [.udp conn] := by
  let answers : PacketAnswers := ⟨0, false, 0, .ok (), .ok 0⟩
  have parsed : IpPacket.parse Relay.datagramBytes4 = .ok (.ok (.ipv4 Relay.datagramPacket4)) := rfl
  obtain ⟨ipv4Header, transportHeader, p, headers, made, -, -⟩ := Packetizer.new_reverses_udp parsed rfl
  obtain ⟨queue, read, stored, -, -⟩ := Relay.datagram4_read
  let before (buffer : IpPacketBuffer) : ClientContext := (ClientContext.identified 0).withInput buffer
  let opened (buffer : IpPacketBuffer) : UdpContext :=
    ⟨.initial 0 Relay.datagramId4 p 0, (before buffer).client.insertConnection Relay.datagramId4 0,
      (before buffer).selector.register (.connection 0) .readable⟩
  have known (buffer : IpPacketBuffer) :
      (opened buffer).selector.registered (.connection (opened buffer).conn.handle) ≠ none := by
    refine ne_of_eq_of_ne ((Selector.registered_register _ _ _ _).trans (if_pos rfl)) ?_
    exact Option.some_ne_none _
  have queued (buffer : IpPacketBuffer) := Relay.datagram4_queued (c := opened buffer) read stored rfl
    (known buffer)
  have routes (buffer : IpPacketBuffer) := Relay.queued_sendToNetwork (c := before buffer) answers headers
    made rfl rfl rfl rfl rfl (queued buffer) rfl
  obtain ⟨t, l, buffer, c', buffer', run, came, greeted, sent, left⟩ :=
    @run_delivers .off Relay.datagramBytes4 _ _ (by decide) (by decide) Relay.datagram4_front
      fun buffer => ⟨_, routes buffer⟩
  cases sent.symm.trans (routes buffer)
  have created : l.relay.created = [.udp { (opened buffer).conn with
      clientToNetwork := queue
      interests := Ready.readable.union .writable }] := by
    rw [left]
    rfl
  exact ⟨t, l, _, run, came, greeted, created⟩

/-- **A datagram of IPv6 gets through** if it is proxied, and its socket takes it.  In the other
modes the app does not forward it. -/
theorem run_udp6 : ∃ t l conn, (machine .proxy).Run t l ∧ l.tunnel.read = [Relay.datagramBytes6] ∧
    l.relay.created = [.ipv6 conn] ∧ conn.trace = [.wrote [0x61]] := by
  let answers : PacketAnswers := ⟨0, false, 0, .ok (), .ok 1⟩
  obtain ⟨p, opens⟩ := Relay.datagram_opens
  let conn : Ipv6Connection := ⟨0, Relay.datagramId6, .udp, p, false, 0, []⟩
  have routes (buffer : IpPacketBuffer) :=
    (opens ((ClientContext.identified 0).withInput buffer) answers rfl rfl).trans
      (Router.deliver_taken rfl Relay.datagram_payload (List.cons_ne_nil _ _) rfl)
  obtain ⟨t, l, buffer, c', buffer', run, came, -, sent, left⟩ :=
    @run_delivers .proxy Relay.datagramBytes6 _ _ (by decide) (by decide) Relay.datagram_front
      fun buffer => ⟨_, routes buffer⟩
  cases sent.symm.trans (routes buffer)
  refine ⟨t, l, (conn.touch 0).record (.wrote [0x61]), run, came, ?_, rfl⟩
  rw [left]
  rfl

/-! ## The exchange -/

/-- **The exchange goes through the link.**  The app refuses a packet of IPv6 first, and all that
its client is sent in the exchange is written to the tun device. -/
theorem run_exchange : ∃ t l udp tcp reply, (machine .blackhole).Run t l ∧
    l.relay.toClientContext.Exchanged udp tcp ∧ l.greeting.result = some (.ok 0) ∧
    l.tunnel.read = barePacket :: exchangePackets ∧
    l.tunnel.written = .reply reply :: l.relay.client.appended.map .framed ∧ l.tunnel.Idle ∧ l.up = [] := by
  obtain ⟨t₀, run₀⟩ := run_greets .blackhole 0
  obtain ⟨c, udp, tcp, serves, exchanged⟩ := Relay.exchange
  have idle := Tunnel.idle_start .blackhole
  -- the app reads its packets
  obtain ⟨b₁, reply, goes₁, idle₁, mode₁, read₁, written₁⟩ := idle.refuses rfl
  obtain ⟨b₂, goes₂, idle₂, -, read₂, written₂⟩ := @Tunnel.Idle.forwardsAll b₁ exchangePackets idle₁ (by
    rw [mode₁]
    decide)
  obtain ⟨t₁, run₁⟩ := @run_turns _ _ _ 0 _ _ _ [] run₀ rfl (goes₁.trans goes₂) rfl
  -- its client exchanges
  obtain ⟨t₂, gave, run₂, received⟩ := @run_serves _ _ _ _ _ [] run₁ rfl serves (List.append_nil _).symm
  have relays := (run_linked run₂).relays
  have gave : gave = c.client.appended.flatten := @Relay.gave_of_exchanged _ ⟨c, [], []⟩ _ _ _ _ relays exchanged
    received
  -- the app writes what it was sent
  obtain ⟨b₃, goes₃, idle₃, read₃, written₃⟩ := idle₂.receivesAll (Relay.fits_of_exchanged relays exchanged)
  obtain ⟨t₃, run₃⟩ := @run_turns _ _ _ 0 _ _ _ [] run₂ rfl goes₃ (by
    rw [gave, List.append_nil]
    rfl)
  refine ⟨t₃, _, udp, tcp, reply, run₃, exchanged, rfl, ?_, ?_, idle₃, rfl⟩
  · show b₃.read = _
    rw [read₃, read₂, read₁]
    rfl
  · show b₃.written = _
    rw [written₃, written₂, written₁]
    rfl

end Link

end ReverseTether
