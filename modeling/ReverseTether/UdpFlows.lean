import ReverseTether.DatagramQueue
import ReverseTether.RelayFlows
import ReverseTether.RoundTrip
import ReverseTether.SpuriousEvents

/-!
# The datagrams of a UDP flow

The payloads of the packets of a flow are queued for its socket.  A payload may be lost: the queue
may be full, the ring may forget what it stores when its positions meet, and the socket may fail.
But that is all that can happen to it.  `run_datagrams` says so of every UDP connection of the
relay: what its socket is offered, followed by what waits, is a part of the payloads of its flow,
in their order, each whole and at most once.

There is no bound on how much is lost, and none can be given, since the host may never take a
datagram.  What is excluded is everything that an application would see as corruption: a
datagram with bytes of another, one that comes twice, two in the wrong order.

The ring forgets what it stores in one situation only, which has a module of its own; here it
is one of the ways in which datagrams are lost, and the statement does not depend on which of
them it was.
-/

namespace ReverseTether

open Library

/-! ## The queue, and nothing else -/

/-- The datagram that a packet carries. -/
def IpPacket.datagram? : IpPacket → Option (List UInt8)
  | .ipv4 packet => packet.payload.toOption.join
  | .ipv6 _ => none

theorem Ipv4Packet.payload_slice {packet : Ipv4Packet} {d : List UInt8}
    (carried : packet.payload = .ok (some d)) : ∃ i, d = slice packet.raw i packet.raw.length := by
  unfold payload at carried
  split at carried
  · obtain ⟨payload, read, rest⟩ := bind_eq_ok.mp carried
    cases rest
    exact ⟨_, (readSlice_eq_ok read).2.2⟩
  · cases carried

/-- No datagram of a packet is longer than the length field of its block can say. -/
theorem IpPacket.datagram_lt {packet : IpPacket} {raw d : List UInt8}
    (parsed : IpPacket.parse raw = .ok (.ok packet)) (carried : packet.datagram? = some d) :
    d.length < 65536 := by
  cases packet with
  | ipv6 _ => cases carried
  | ipv4 packet =>
      have read := parse_ipv4_iff.mp parsed
      have total := (getU16 raw 2).toNat_lt
      have short : packet.raw.length < 65536 := by
        rw [read.bytes, List.length_take]
        omega
      cases payload : packet.payload with
      | error _ =>
          rw [datagram?, payload] at carried
          cases carried
      | ok payload' =>
          rw [datagram?, payload] at carried
          have carried : payload' = some d := carried
          rw [carried] at payload
          obtain ⟨i, cut⟩ := Ipv4Packet.payload_slice payload
          rw [cut, length_slice]
          omega

namespace UdpContext

variable {c c' : UdpContext}

/-- The oldest datagram is offered, and gone from the queue whatever the socket answers. -/
theorem processSend_queue {write : IoResult ℕ} (h : c.processSend write = .ok c') :
    ∃ result d, c.conn.clientToNetwork.writeTo write = .ok (result, d, c'.conn.clientToNetwork) := by
  obtain ⟨⟨result, d, clientToNetwork⟩, written, h⟩ := bind_eq_ok.mp h
  refine ⟨result, d, written.trans ?_⟩
  cases result with
  | ok _ =>
      cases h
      rfl
  | error err =>
      cases err with
      | wouldBlock =>
          cases h
          rfl
      | other =>
          cases h
          rfl

/-- What the halves of an event do to the queue: only a writable one takes a datagram, the oldest.
-/
def Queues (c : UdpContext) (ready : Ready) (write : IoResult ℕ) (c' : UdpContext) : Prop :=
  if ready.isWritable then
    ∃ result d, c.conn.clientToNetwork.writeTo write = .ok (result, d, c'.conn.clientToNetwork)
  else c'.conn.clientToNetwork = c.conn.clientToNetwork

/-- **An event offers one datagram if the socket is writable, and does nothing else to the queue.**
The socket may refuse the datagram, which is gone then; the readable half looks at the other
direction. -/
theorem onReady_queues {ready : Ready} {answers : SocketAnswers} {now : Instant}
    (isOpen : c.conn.closed = false) (h : c.onReady ready answers now = .ok c') :
    c.Queues ready answers.write c' := by
  by_cases some : ready.isReadable = true ∨ ready.isWritable = true
  · obtain ⟨f, half, same⟩ := onReady_queue isOpen some h
    unfold Queues
    rw [same]
    unfold writableHalf at half
    split at half
    · rename_i writable
      rw [if_pos writable]
      exact @processSend_queue { c with conn := c.conn.touch now } _ _ half
    · rename_i unwritable
      cases half
      rw [if_neg unwritable]
      rfl
  · -- error or hup
    unfold onReady process at h
    rw [if_neg (by rw [isOpen]; exact Bool.false_ne_true)] at h
    simp only [if_neg some] at h
    cases h
    exact (if_neg fun writable => some (.inr writable)).mpr rfl

/-- A packet is queued or dropped. -/
theorem sendToNetwork_queue {packet : IpPacket} (h : c.sendToNetwork packet = .ok c') :
    c'.conn.clientToNetwork = c.conn.clientToNetwork ∨
      ∃ d, packet.datagram? = some d ∧
        c.conn.clientToNetwork.readFrom d = .ok (.ok (), c'.conn.clientToNetwork) := by
  cases packet with
  | ipv6 _ =>
      cases h
      exact .inl rfl
  | ipv4 packet =>
      obtain ⟨payload, carried, h⟩ := bind_eq_ok.mp h
      cases payload with
      | none => cases h
      | some d =>
          obtain ⟨⟨stored, clientToNetwork⟩, queued, h⟩ := bind_eq_ok.mp h
          cases stored with
          | ok _ =>
              refine .inr ⟨d, ?_, ?_⟩
              · rw [IpPacket.datagram?, carried]
                rfl
              · rw [updateInterests_queue h]
                exact queued
          | error _ =>
              cases h
              exact .inl rfl

end UdpContext

/-! ## The queue of a flow -/

namespace DatagramBuffer.Holds

variable {capacity : ℕ} {b b' : DatagramBuffer capacity} {ds : List (List UInt8)} {d : List UInt8}

/-- What is stored comes last, unless the positions meet: then all is forgotten. -/
theorem accept (holds : Holds b ds) (short : d.length < 65536)
    (stored : b.readFrom d = .ok (.ok (), b')) : Holds b' (ds ++ [d]) ∨ Holds b' [] := by
  cases space : b.hasEnoughSpaceFor d.length with
  | false =>
      rw [readFrom_full short.le space] at stored
      cases stored
  | true =>
      by_cases apart : b.KeepsApart d.length
      · obtain ⟨b₁, eq, holds', -⟩ := holds.readFrom short space apart
        rw [eq] at stored
        cases stored
        exact .inl holds'
      · rw [KeepsApart, not_not] at apart
        obtain ⟨tailZero, past⟩ := apart
        obtain ⟨b₁, eq, -, tail, head⟩ := readFrom_ok short.le holds.head_lt space
        rw [eq] at stored
        cases stored
        have past : capacity + 1 ≤ b.head + 2 + d.length := past
        rw [if_pos past] at head
        refine .inr (.straight ?_ ?_ ?_)
        · rw [tail, tailZero, head]
        · rw [head]
          exact Nat.succ_pos _
        · rw [tail, tailZero, head]
          exact .nil 0

/-- What is offered is the oldest. -/
theorem offer (holds : Holds b ds) {write : IoResult ℕ} {result : IoResult Unit}
    (written : b.writeTo write = .ok (result, d, b')) : ∃ rest, ds = d :: rest ∧ Holds b' rest := by
  cases ds with
  | nil =>
      have empty : b.isEmpty = true := holds.isEmpty_iff.mpr rfl
      rw [DatagramBuffer.writeTo, if_pos empty] at written
      cases written
  | cons first rest =>
      obtain ⟨_, _, eq, holds', -⟩ := holds.writeTo write
      rw [eq] at written
      cases written
      exact ⟨rest, rfl, holds'⟩

end DatagramBuffer.Holds

/-- The datagram that an event offers to the socket. -/
def Connection.offers (ready : Ready) (write : IoResult ℕ) : Connection → Option (List UInt8)
  | .udp conn =>
      if ready.isWritable then
        (conn.clientToNetwork.writeTo write).toOption.map fun written => written.2.1
      else none
  | _ => none

namespace Flow

variable {s s' : Flow} {own : List (Flow × Label)} {conn : UdpConnection}

/-- The datagram that a step offers to the socket. -/
def offers (s : Flow) : Label → Option (List UInt8)
  | .call (.event ready answers _) => s.conn.offers ready answers.write
  | _ => none

/-- The datagrams that the socket was offered, in their order. -/
def offered (own : List (Flow × Label)) : List (List UInt8) := own.filterMap fun p => p.1.offers p.2

/-- The datagrams that the packets of the flow carried. -/
def datagrams (own : List (Flow × Label)) : List (List UInt8) :=
  (packetsOf own).filterMap IpPacket.datagram?

theorem offered_append (own : List (Flow × Label)) (s : Flow) (label : Label) :
    offered (own ++ [(s, label)]) = offered own ++ (s.offers label).toList := by
  rw [offered, List.filterMap_append]
  cases h : s.offers label <;> simp [offered, h]

theorem datagrams_append (own : List (Flow × Label)) (s : Flow) (label : Label) :
    datagrams (own ++ [(s, label)]) = datagrams own ++ (label.packet?.bind IpPacket.datagram?).toList := by
  rw [datagrams, packetsOf_append, List.filterMap_append]
  refine congrArg (_ ++ ·) ?_
  cases h : label.packet? with
  | none => simp [packetsOf, h]
  | some packet => cases carried : packet.datagram? <;> simp [packetsOf, h, carried]

/-- The queue holds a part of what was accepted and not offered yet. -/
def Queued (own : List (Flow × Label)) (conn : UdpConnection) : Prop :=
  ∃ queued, conn.clientToNetwork.Holds queued ∧ (offered own ++ queued).Sublist (datagrams own)

/-- A step that offers nothing and stores nothing. -/
theorem Queued.rests {label : Label} {before : UdpConnection} (queued : Queued own before)
    (same : conn.clientToNetwork = before.clientToNetwork) (silent : s.offers label = none) :
    Queued (own ++ [(s, label)]) conn := by
  obtain ⟨waits, holds, part⟩ := queued
  refine ⟨waits, same ▸ holds, ?_⟩
  rw [offered_append, datagrams_append, silent, Option.toList_none, List.append_nil]
  exact part.trans (List.sublist_append_left _ _)

/-- **A step moves the queue by one datagram**, or loses what it holds.  A packet stores its
datagram at the end, an event takes the first one, and a reset of `head` on `tail` makes the queue
look empty. -/
theorem Queued.step {before : UdpConnection} {armed armed' : Ready} {label : Label}
    (queued : Queued own before) (step : Step ⟨.udp before, armed⟩ label ⟨.udp conn, armed'⟩) :
    Queued (own ++ [(⟨.udp before, armed⟩, label)]) conn := by
  generalize is : (⟨.udp conn, armed'⟩ : Flow) = s' at step
  cases step with
  | poll =>
      cases is
      exact queued.rests rfl rfl
  | @call call client selector f isOpen fits executes =>
      obtain ⟨connections, c', returns, same⟩ := executes.returns.udp
      have ends : f.conn = .udp c'.conn := same.conn
      rw [ends] at is
      cases is
      cases call with
      | packet packet answers =>
          rcases UdpContext.sendToNetwork_queue (show UdpContext.sendToNetwork _ _ = _ from returns)
            with same | ⟨d, carried, stored⟩
          · exact queued.rests same rfl
          · obtain ⟨waits, holds, part⟩ := queued
            obtain ⟨raw, parsed⟩ := fits.2.2
            have grown : datagrams (own ++ [(⟨.udp before, armed⟩, .call (.packet packet answers))]) =
                datagrams own ++ [d] := by
              rw [datagrams_append, Label.packet?, Option.bind_some, carried]
              rfl
            have silent : offers ⟨.udp before, armed⟩ (.call (.packet packet answers)) = none := rfl
            rw [Queued, grown, offered_append, silent, Option.toList_none, List.append_nil]
            rcases holds.accept (IpPacket.datagram_lt parsed carried) stored with holds' | holds'
            · refine ⟨waits ++ [d], holds', ?_⟩
              rw [← List.append_assoc]
              exact part.append (List.Sublist.refl _)
            · refine ⟨[], holds', ?_⟩
              rw [List.append_nil]
              exact ((List.sublist_append_left _ _).trans part).trans (List.sublist_append_left _ _)
      | event ready answers now =>
          have queues := UdpContext.onReady_queues isOpen
            (show UdpContext.onReady _ ready answers now = _ from returns)
          unfold UdpContext.Queues at queues
          split at queues
          · rename_i writable
            obtain ⟨result, d, written⟩ := queues
            have written : before.clientToNetwork.writeTo answers.write =
                .ok (result, d, c'.conn.clientToNetwork) := written
            obtain ⟨waits, holds, part⟩ := queued
            obtain ⟨rest, rfl, holds'⟩ := holds.offer written
            refine ⟨rest, holds', ?_⟩
            have one : offers ⟨.udp before, armed⟩ (.call (.event ready answers now)) = some d := by
              refine (if_pos writable).trans ?_
              rw [written]
              rfl
            have none : (Label.call (.event ready answers now)).packet? = none := rfl
            rw [offered_append, datagrams_append, one, none, List.append_assoc, Option.bind_none,
              Option.toList_none, List.append_nil]
            exact part
          · rename_i unwritable
            exact queued.rests queues (if_neg unwritable)
      | close =>
          cases returns
          exact queued.rests rfl rfl
      | expire =>
          cases returns
          exact queued.rests rfl rfl
      | next => exact returns.elim

/-- A connection stays of its kind. -/
theorem Step.udp {label : Label} (step : Step s label s') (udp : s'.conn = .udp conn) :
    ∃ before, s.conn = .udp before := by
  cases step with
  | poll => exact ⟨conn, udp⟩
  | @call call client selector f isOpen _ executes =>
      have returns := executes.returns
      cases kind : s.conn with
      | udp before => exact ⟨before, rfl⟩
      | tcp _ =>
          rw [kind] at returns
          obtain ⟨_, _, -, same⟩ := returns.tcp
          exact absurd (same.conn.symm.trans udp) (by simp [TcpContext.asConnection])
      | ipv6 _ =>
          rw [kind] at returns
          obtain ⟨_, _, -, same⟩ := returns.ipv6
          exact absurd (same.conn.symm.trans udp) (by simp [Ipv6Context.asConnection])

/-- **No datagram is made up, changed, repeated or overtaken.**  Some may be lost; those that were
offered to the host, and those that are still queued, are in the order in which they came. -/
theorem run_queued (run : machine.Run own s) (udp : s.conn = .udp conn) : Queued own conn := by
  induction run generalizing conn with
  | @start s starts =>
      obtain ⟨⟨c, id, packet, answers, selector, -, -, -, created⟩, -⟩ := starts
      rw [udp] at created
      cases Router.createConnection_creates created with
      | udp _ _ made =>
          obtain ⟨packetizer, -, rest⟩ := bind_eq_ok.mp made
          cases rest
          exact ⟨[], .new, List.Sublist.refl _⟩
  | @step own s s' label run step ih =>
      obtain ⟨before, kind⟩ := Step.udp step udp
      have queued := ih kind
      obtain ⟨_, armed⟩ := s
      obtain ⟨_, armed'⟩ := s'
      cases kind
      cases udp
      exact queued.step step

end Flow

namespace Relay

variable {t : List (Relay × Label)} {s : Relay} {handle : Handle} {conn : UdpConnection}

/-- **The datagrams of a UDP connection of the relay**, in any run and whatever its other
connections do: what its socket was offered, followed by what its ring holds, is a part of the
payloads that its flow brought. -/
theorem run_datagrams (run : machine.Run t s) (place : s.created[handle]? = some (.udp conn)) :
    ∃ own armed queued, Machine.Aligned (fun s : Relay => handle < s.created.length)
        (fun s label block => ∀ q ∈ block, Shows s label q.2) t own ∧
      Given handle t ⟨.udp conn, armed⟩ own ∧ conn.clientToNetwork.Holds queued ∧
      (Flow.offered own ++ queued).Sublist (Flow.datagrams own) := by
  obtain ⟨own, ⟨conn', armed⟩, runs, ⟨place', -⟩, aligned, given⟩ :=
    (tracksFlow handle).run run (List.getElem?_eq_some_iff.mp place).1
  cases place'.symm.trans place
  obtain ⟨queued, holds, part⟩ := Flow.run_queued runs rfl
  exact ⟨own, armed, queued, aligned, given, holds, part⟩

/-- After the first datagram of a flow. -/
theorem run_datagrams_udpFlow : ∃ t s conn armed own queued, machine.Run t s ∧
    s.created[0]? = some (.udp conn) ∧ Given 0 t ⟨.udp conn, armed⟩ own ∧
      conn.clientToNetwork.Holds queued ∧
      (Flow.offered own ++ queued).Sublist (Flow.datagrams own) := by
  obtain ⟨t, s, run, -, -, ⟨conn, place, -⟩, -⟩ := run_udpFlow
  obtain ⟨own, armed, queued, -, given, holds, part⟩ := run_datagrams run.run place
  exact ⟨t, s, conn, armed, own, queued, run.run, place, given, holds, part⟩

end Relay

end ReverseTether
