import ReverseTether.Download

/-!
# The FIN of the relay

The relay sends its FIN when the host socket is at its end, or in answer to the
client's.  `FinLast` is what a receiver needs of it: there is one at most, it comes
after every byte read from the host, and no data follows.

Nothing in the code makes the FIN wait for a packet that waits, a delivery leaves
the wrong sequence number behind, and a readable event of the batch in which the
FIN was sent is still dispatched.  `Orderly` excludes these three.

The history of a connection has the FINs that were forged, the bytes that were read and the
packets that were handed over, in one order, and `FinLast` is a condition on that order.
Packets that wait are the difficulty: they are built before the FIN, and may reach the client
after it.

The three exclusions are about single steps, in terms of what is there before them.
`run_sends_after_fin` shows that the third one is not there for the sake of the proof: behind
the handshake a FIN arrives, and a readable event that was polled before it is dispatched
after it.
-/

namespace ReverseTether

open Library Relation

open TcpConnection (updateHeaders)

/-- The condition on what a connection does, given what it did before: a FIN is sent
only while no packet waits and none was delivered, and once it is sent the host
socket gives neither bytes nor its end. -/
def Orderly (before : List TcpAction) : TcpAction → Prop
  | .forged raw waiting => (TcpAction.forged raw waiting).fin ≠ none →
      waiting = false ∧ ∀ action ∈ before, ¬ action.IsDelivery
  | .read _ | .readEof => sentFins before = []
  | _ => True

/-- At most one FIN is sent, with the sequence number after every byte read from the
host, and no data segment follows it. -/
structure FinLast (conn : TcpConnection) : Prop where
  atMostOnce : (sentFins conn.trace).length ≤ 1
  placed : ∀ fin ∈ sentFins conn.trace, ∀ isn, .opened isn ∈ conn.trace →
    fin.sequenceNumber = isn + 1 + UInt32.ofNat (hostRead conn.trace).length
  last : Each (fun before action => action.segment ≠ none → sentFins before = []) conn.trace

/-- The invariant behind the place of the FIN: the next number the relay sends is behind every byte
that was read, until the FIN takes it. -/
structure Terminates (conn : TcpConnection) : Prop where
  forTcp : conn.networkToClient.ForTcp
  untouched : conn.tcb.state = .init → (∀ isn, .opened isn ∉ conn.trace) ∧
    hostRead conn.trace = [] ∧ conn.packetForClientLength = none
  unread : conn.tcb.state = .synSent → hostRead conn.trace = [] ∧
    conn.packetForClientLength = none ∧ ∀ isn, .opened isn ∈ conn.trace →
      conn.tcb.sequenceNumber = isn
  /-- The next number is after every byte read. -/
  number : conn.tcb.state ≠ .init → conn.tcb.state ≠ .synSent → sentFins conn.trace = [] →
    (∀ action ∈ conn.trace, ¬ action.IsDelivery) → conn.packetForClientLength = none →
    ∀ isn, .opened isn ∈ conn.trace →
      conn.tcb.sequenceNumber = isn + 1 + UInt32.ofNat (hostRead conn.trace).length
  ended : sentFins conn.trace ≠ [] → conn.packetForClientLength = none ∧
    conn.tcb.state.isClosed = true ∧ ∃ fin, sentFins conn.trace = [fin] ∧
      ∀ isn, .opened isn ∈ conn.trace →
        fin.sequenceNumber = isn + 1 + UInt32.ofNat (hostRead conn.trace).length
  last : Each (fun before action => action.segment ≠ none → sentFins before = []) conn.trace

namespace Terminates

theorem finLast {conn : TcpConnection} (inv : Terminates conn) : FinLast conn := by
  refine ⟨?_, ?_, inv.last⟩
  · by_cases none : sentFins conn.trace = []
    · rw [none]
      exact Nat.zero_le _
    · obtain ⟨-, -, fin, single, -⟩ := inv.ended none
      rw [single]
      exact le_rfl
  · rintro fin mem isn opened
    obtain ⟨-, -, fin', single, placed⟩ := inv.ended (List.ne_nil_of_mem mem)
    rw [single, List.mem_singleton] at mem
    rw [mem]
    exact placed isn opened

theorem of_fresh {conn : TcpConnection} (fresh : conn.Fresh) : Terminates conn := by
  have forTcp := fresh.forTcp
  obtain ⟨_, _, _, _, rfl⟩ := fresh.eq_initial
  exact ⟨forTcp, fun _ => ⟨fun _ => List.not_mem_nil, rfl, rfl⟩, nofun, nofun,
    fun sent => absurd rfl sent, each_nil _⟩

/-- The invariant depends on this much of a connection. -/
theorem congr {conn conn' : TcpConnection} (inv : Terminates conn)
    (forTcp : conn'.networkToClient.ForTcp)
    (packet : conn'.packetForClientLength = conn.packetForClientLength)
    (trace : conn'.trace = conn.trace)
    (sequenceNumber : conn'.tcb.sequenceNumber = conn.tcb.sequenceNumber)
    (state : conn'.tcb.state = conn.tcb.state ∨
      (conn.tcb.state ≠ .init ∧ conn.tcb.state ≠ .synSent) ∧
        (conn'.tcb.state ≠ .init ∧ conn'.tcb.state ≠ .synSent) ∧
        (conn.tcb.state.isClosed = true → conn'.tcb.state.isClosed = true)) : Terminates conn' where
  forTcp := forTcp
  untouched init := by
    rw [trace, packet]
    rcases state with same | ⟨-, past, -⟩
    · exact inv.untouched (same ▸ init)
    · exact absurd init past.1
  unread synSent := by
    rw [trace, packet, sequenceNumber]
    rcases state with same | ⟨-, past, -⟩
    · exact inv.unread (same ▸ synSent)
    · exact absurd synSent past.2
  number notInit notSynSent := by
    rw [trace, packet, sequenceNumber]
    rcases state with same | ⟨past, -, -⟩
    · exact inv.number (same ▸ notInit) (same ▸ notSynSent)
    · exact inv.number past.1 past.2
  ended sent := by
    rw [trace] at sent ⊢
    rw [packet]
    obtain ⟨idle, closed, only⟩ := inv.ended sent
    rcases state with same | ⟨-, -, closed'⟩
    · exact ⟨idle, same ▸ closed, only⟩
    · exact ⟨idle, closed' closed, only⟩
  last := by
    rw [trace]
    exact inv.last

/-- An action that moves no data and sends no FIN. -/
theorem record {conn : TcpConnection} (inv : Terminates conn) (action : TcpAction)
    (noRead : action.received = []) (noSegment : action.segment = none) (noFin : action.fin = none)
    (notOpened : ∀ isn, action ≠ .opened isn) : Terminates (conn.record action) := by
  have opened {isn : UInt32} : .opened isn ∈ conn.trace ++ [action] ↔ .opened isn ∈ conn.trace := by
    rw [List.mem_append, List.mem_singleton]
    exact or_iff_left fun new => notOpened isn new.symm
  have read : hostRead (conn.trace ++ [action]) = hostRead conn.trace := by
    rw [hostRead_append, noRead, List.append_nil]
  have fins : sentFins (conn.trace ++ [action]) = sentFins conn.trace := by
    rw [sentFins_append, noFin]
    exact List.append_nil _
  constructor
  · exact inv.forTcp
  · simp only [TcpConnection.record, opened, read]
    exact inv.untouched
  · simp only [TcpConnection.record, opened, read]
    exact inv.unread
  · simp only [TcpConnection.record, opened, read, fins]
    intro notInit notSynSent none undelivered
    exact inv.number notInit notSynSent none fun a mem => undelivered a (List.mem_append_left _ mem)
  · simp only [TcpConnection.record, opened, read, fins]
    exact inv.ended
  · exact each_append.mpr ⟨inv.last, fun data => absurd noSegment data⟩

/-- A forged segment without FIN. -/
theorem reply {c c' : TcpContext} {flags : UInt16} (inv : Terminates c.conn)
    (mem : flags ∈ relayFlags) (noFin : flags &&& flagFin = 0)
    (forged : c.replyEmptyPacketToClient flags = .ok c') : Terminates c'.conn := by
  obtain ⟨packetizer, raw, forTcp, -, -, segment, same⟩ :=
    TcpContext.replyEmptyPacketToClient_segment inv.forTcp mem forged
  have rebuilt : Terminates { c.conn with networkToClient := packetizer } :=
    inv.congr forTcp rfl rfl rfl (.inl rfl)
  rw [same]
  refine rebuilt.record _ rfl rfl ?_ nofun
  rw [TcpAction.fin, segment, if_neg (not_not.mpr noFin)]

/-- **The FIN.**  It is the first, and nothing waits.  Its number is the one behind the last byte
that was sent, since a waiting packet would still have bytes below it. -/
theorem sendFin {c c' : TcpContext} {state : TcpState} (inv : Terminates c.conn)
    (past : c.conn.tcb.state ≠ .init ∧ c.conn.tcb.state ≠ .synSent)
    (first : sentFins c.conn.trace = [])
    (forged : c.replyEmptyPacketToClient (flagFin ||| flagAck) = .ok c')
    (orderly : Each Orderly c'.conn.trace) (closed : state.isClosed = true) :
    Terminates (c'.countSentFin state).conn := by
  obtain ⟨packetizer, raw, forTcp, -, -, segment, same⟩ :=
    TcpContext.replyEmptyPacketToClient_segment inv.forTcp
      (show flagFin ||| flagAck ∈ relayFlags by decide) forged
  have isFin : (TcpAction.forged raw c.conn.waiting).fin = some (Segment.ofRaw raw) := by
    rw [TcpAction.fin, segment]
    exact if_pos (show (flagFin ||| flagAck) &&& flagFin ≠ 0 by decide)
  have trace : c'.conn.trace = c.conn.trace ++ [.forged raw c.conn.waiting] := by
    rw [same]
    rfl
  rw [trace] at orderly
  obtain ⟨alone, undelivered⟩ :=
    (each_append.mp orderly).2 (by rw [isFin]; exact Option.some_ne_none _)
  have idle : c.conn.packetForClientLength = none := by
    rwa [TcpConnection.waiting, Option.isSome_eq_false_iff, Option.isNone_iff_eq_none] at alone
  have opened {isn : UInt32} (mem : .opened isn ∈ c.conn.trace ++ [.forged raw c.conn.waiting]) :
      .opened isn ∈ c.conn.trace := by
    simpa using mem
  have fins : sentFins (c.conn.trace ++ [.forged raw c.conn.waiting]) = [Segment.ofRaw raw] := by
    rw [sentFins_append, isFin, first]
    rfl
  have read : hostRead (c.conn.trace ++ [.forged raw c.conn.waiting]) = hostRead c.conn.trace := by
    rw [hostRead_append]
    exact List.append_nil _
  have notInit : state ≠ .init := by
    rintro rfl
    cases closed
  have notSynSent : state ≠ .synSent := by
    rintro rfl
    cases closed
  rw [TcpContext.conn_countSentFin, same]
  constructor
  · exact forTcp
  · exact fun init => absurd init notInit
  · exact fun synSent => absurd synSent notSynSent
  · intro _ _ none
    change sentFins (c.conn.trace ++ [.forged raw c.conn.waiting]) = [] at none
    rw [fins] at none
    cases none
  · intro _
    refine ⟨idle, closed, Segment.ofRaw raw, fins, fun isn mem => ?_⟩
    show _ = isn + 1 + UInt32.ofNat (hostRead (c.conn.trace ++ [_])).length
    rw [read, segment]
    exact inv.number past.1 past.2 first undelivered idle isn (opened mem)
  · exact each_append.mpr ⟨inv.last, fun data => absurd rfl data⟩

/-- Bytes are read: their segment is handed over, or waits. -/
theorem receive {c c' : TcpContext} {primed packetizer : Packetizer} {available : List UInt8}
    {packet : Ipv4Packet} (inv : Terminates c.conn) (connected : c.conn.tcb.state.isConnected = true)
    (idle : c.conn.packetForClientLength = none)
    (updated : updateHeaders c.conn.networkToClient c.conn.tcb (flagAck ||| flagPsh) = .ok primed)
    (packetized : primed.packetizeRead (.ok available) c.receivable =
      .ok (.ok (some packet), packetizer))
    (sent : ({ c with conn := { c.conn with networkToClient := packetizer } }.record
      (.read (primed.chunk available c.receivable))).sendDataToClient packet = .ok c')
    (orderly : Each Orderly c'.conn.trace) : Terminates c'.conn := by
  obtain ⟨forTcp, built, -, -⟩ := TcpContext.packetizeRead_segment inv.forTcp updated packetized
  have payload := built.payload
  set data := primed.chunk available c.receivable
  have notInit : c.conn.tcb.state ≠ .init := by
    rintro init
    rw [init] at connected
    cases connected
  have notSynSent : c.conn.tcb.state ≠ .synSent := by
    rintro synSent
    rw [synSent] at connected
    cases connected
  -- the last two actions, whichever the second is
  have trace {action : TcpAction} (noRead : action.received = []) (noFin : action.fin = none)
      (orderly : Each Orderly (c.conn.trace ++ [.read data] ++ [action])) :
      sentFins (c.conn.trace ++ [.read data] ++ [action]) = [] ∧
        hostRead (c.conn.trace ++ [.read data] ++ [action]) = hostRead c.conn.trace ++ data ∧
        Each (fun before action => action.segment ≠ none → sentFins before = [])
          (c.conn.trace ++ [.read data] ++ [action]) := by
    have none : sentFins c.conn.trace = [] := (each_append.mp (each_append.mp orderly).1).2
    have before : sentFins (c.conn.trace ++ [.read data]) = [] := by
      rw [sentFins_append, none]
      rfl
    refine ⟨?_, ?_, ?_⟩
    · rw [sentFins_append, before, noFin]
      rfl
    · rw [hostRead_append, hostRead_append, noRead]
      exact List.append_nil _
    · exact each_append.mpr ⟨each_append.mpr ⟨inv.last, fun data => absurd rfl data⟩,
        fun _ => before⟩
  obtain ⟨_, _, _, -, ⟨payload', -, carried, same, -⟩ | ⟨-, same, -⟩⟩ :=
    TcpContext.sendDataToClient_ok sent
  · rw [payload] at carried
    cases carried
    rw [same] at orderly ⊢
    obtain ⟨none, read, last⟩ := trace rfl rfl orderly
    have noFin : sentFins c.conn.trace = [] := (each_append.mp (each_append.mp orderly).1).2
    refine ⟨forTcp, fun init => absurd init notInit, fun synSent => absurd synSent notSynSent, ?_,
      fun sent => absurd none sent, last⟩
    intro _ _ _ undelivered _ isn mem
    have earlier := inv.number notInit notSynSent noFin
      (fun a mem => undelivered a (List.mem_append_left _ (List.mem_append_left _ mem))) idle isn
      (by simpa [TcpConnection.record, TcpContext.record] using mem)
    dsimp only [TcpConnection.record, TcpContext.record]
    rw [read, List.length_append, UInt32.ofNat_add, earlier, UInt32.add_assoc]
  · rw [same] at orderly ⊢
    obtain ⟨none, read, last⟩ := trace rfl rfl orderly
    constructor
    · exact forTcp
    · exact fun init => absurd init notInit
    · exact fun synSent => absurd synSent notSynSent
    · intro _ _ _ _ waits
      cases waits
    · exact fun sent => absurd none sent
    · exact last

/-- The waiting packet is handed over: no FIN was sent yet. -/
theorem deliver {conn : TcpConnection} (inv : Terminates conn) {length : UInt16}
    (waiting : conn.packetForClientLength = some length) (sequenceNumber : UInt32) :
    Terminates ({ conn with
      packetForClientLength := none
      tcb := { conn.tcb with sequenceNumber } }.record
        (.delivered (conn.networkToClient.inflate length).raw)) := by
  have noFin : sentFins conn.trace = [] := by
    by_contra sent
    exact absurd ((inv.ended sent).1.symm.trans waiting) nofun
  have none : sentFins (conn.trace ++ [.delivered (conn.networkToClient.inflate length).raw]) = [] := by
    rw [sentFins_append, noFin]
    rfl
  refine ⟨inv.forTcp, fun init => ?_, fun synSent => ?_, fun _ _ _ undelivered => ?_,
    fun sent => absurd none sent, each_append.mpr ⟨inv.last, fun _ => noFin⟩⟩
  · exact absurd ((inv.untouched init).2.2.symm.trans waiting) nofun
  · exact absurd ((inv.unread synSent).2.1.symm.trans waiting) nofun
  · exact absurd trivial (undelivered _ (List.mem_append_right _ (List.mem_singleton_self _)))

theorem move {may : TcpWork → Prop} {c c' : TcpContext}
    (connected : may .read → c.conn.tcb.state.isConnected = true) (inv : Terminates c.conn)
    (orderly : Each Orderly c'.conn.trace) (h : TcpMove may c c') : Terminates c'.conn := by
  cases h with
  | touch now => exact inv.congr inv.forTcp rfl rfl rfl (.inl rfl)
  | interests updated =>
      obtain ⟨-, same, -⟩ := TcpContext.updateInterests_ok updated
      rw [same]
      exact inv.congr inv.forTcp rfl rfl rfl (.inl rfl)
  | prime _ idle updated =>
      obtain ⟨header, updated', forTcp, -⟩ := inv.forTcp.updateHeaders c.conn.tcb
        (show flagAck ||| flagPsh ∈ relayFlags by decide)
      rw [updated] at updated'
      cases updated'
      exact inv.congr forTcp rfl rfl rfl (.inl rfl)
  | forge plain forged =>
      rcases plain with rfl | rfl
      · exact inv.reply (by decide) (by decide) forged
      · exact inv.reply (by decide) (by decide) forged
  | close =>
      have closed : Terminates { c.conn with closed := true } :=
        inv.congr inv.forTcp rfl rfl rfl (.inl rfl)
      exact closed.record _ rfl rfl rfl (by simp)
  | removeFromRouter => exact inv
  | @connect c₁ _ synSent forged =>
      obtain ⟨read, idle, number⟩ := inv.unread synSent
      obtain ⟨packetizer, raw, forTcp, -, -, segment, same⟩ :=
        @TcpContext.replyEmptyPacketToClient_segment
          (c.withTcb fun tcb => { tcb with state := .synReceived }) c₁ _ inv.forTcp
          (show flagSyn ||| flagAck ∈ relayFlags by decide) forged
      have none : sentFins c.conn.trace = [] := by
        by_contra sent
        have closed := (inv.ended sent).2.1
        rw [synSent] at closed
        cases closed
      have counted : Terminates { c.conn with
          networkToClient := packetizer
          tcb := { c.conn.tcb with
            state := .synReceived
            sequenceNumber := c.conn.tcb.sequenceNumber + 1 } } := by
        refine ⟨forTcp, by simp, by simp, fun _ _ _ _ _ isn mem => ?_,
          fun sent => absurd none sent, inv.last⟩
        show c.conn.tcb.sequenceNumber + 1 = _
        rw [number isn mem, read]
        exact (UInt32.add_zero _).symm
      show Terminates { c₁.conn with tcb := { c₁.conn.tcb with
        sequenceNumber := c₁.conn.tcb.sequenceNumber + 1 } }
      rw [same]
      refine counted.record (.forged raw c.conn.waiting) rfl rfl ?_ (by simp)
      rw [TcpAction.fin, segment]
      exact if_neg (show ¬ (flagSyn ||| flagAck) &&& flagFin ≠ 0 by decide)
  | @write answer written clientToNetwork _ _ _ _ _ =>
      have taken : Terminates { c.conn with
          clientToNetwork
          tcb := { c.conn.tcb with acknowledgementNumber :=
            c.conn.tcb.acknowledgementNumber + UInt32.ofNat written.length } } :=
        inv.congr inv.forTcp rfl rfl rfl (.inl rfl)
      exact taken.record (.wrote written) rfl rfl rfl (by simp)
  | @writeLast answer written clientToNetwork _ _ _ _ _ _ =>
      have taken : Terminates { c.conn with
          clientToNetwork
          tcb := { c.conn.tcb with acknowledgementNumber :=
            c.conn.tcb.acknowledgementNumber + UInt32.ofNat written.length } } :=
        inv.congr inv.forTcp rfl rfl rfl (.inl rfl)
      have acknowledged := taken.record (.wrote written) rfl rfl rfl (by simp)
      have counted : Terminates ((c.acknowledge written clientToNetwork).withTcb fun tcb =>
          { tcb with acknowledgementNumber := tcb.acknowledgementNumber + 1 }).conn :=
        acknowledged.congr inv.forTcp rfl rfl rfl (.inl rfl)
      exact counted.record .finHandled rfl rfl rfl (by simp)
  | receive reading _ idle updated packetized sent =>
      exact inv.receive (connected reading) idle updated packetized sent orderly
  | eof reading idle ended =>
      obtain ⟨c₁, forged, rest⟩ := bind_eq_ok.mp ended
      cases rest
      have orderly : Each Orderly c₁.conn.trace := orderly
      have found : Terminates (c.record .readEof).conn := inv.record _ rfl rfl rfl (by simp)
      have earlier := orderly.of_prefix (TcpContext.replyEmptyPacketToClient_prefix forged)
      have none : sentFins c.conn.trace = [] := (each_append.mp earlier).2
      refine found.sendFin ?_ ?_ forged orderly ?_
      · have := connected reading
        show c.conn.tcb.state ≠ .init ∧ c.conn.tcb.state ≠ .synSent
        constructor <;> rintro state <;> rw [state] at this <;> cases this
      · show sentFins (c.conn.trace ++ [.readEof]) = []
        rw [sentFins_append, none]
        rfl
      · split <;> rfl
  | @answerFin c₁ established forged =>
      have none : sentFins c.conn.trace = [] := by
        by_contra sent
        have closed := (inv.ended sent).2.1
        rw [established] at closed
        cases closed
      refine inv.sendFin ?_ none forged orderly rfl
      rw [established]
      simp
  | closing finWait1 =>
      exact inv.congr inv.forTcp rfl rfl rfl
        (.inr ⟨by rw [finWait1]; simp, ⟨by rintro ⟨⟩, by rintro ⟨⟩⟩, fun _ => rfl⟩)
  | finAcked finWait1 =>
      exact inv.congr inv.forTcp rfl rfl rfl
        (.inr ⟨by rw [finWait1]; simp, ⟨by rintro ⟨⟩, by rintro ⟨⟩⟩, fun _ => rfl⟩)
  | deliver _ waiting => exact inv.deliver waiting _

/-- Every arrival, whatever the packet. -/
theorem arrival {packet : Ipv4Packet} {header : TcpHeaderData} {random : UInt32}
    {c c' : TcpContext} (inv : Terminates c.conn) (h : TcpArrival packet header random c c') :
    Terminates c'.conn := by
  cases h with
  | opened init syn =>
      obtain ⟨unopened, read, idle⟩ := inv.untouched init
      have none : sentFins c.conn.trace = [] := by
        by_contra sent
        have closed := (inv.ended sent).2.1
        rw [init] at closed
        cases closed
      have none' : sentFins (c.conn.trace ++ [.opened random]) = [] := by
        rw [sentFins_append, none]
        rfl
      have read' : hostRead (c.conn.trace ++ [.opened random]) = [] := by
        rw [hostRead_append, read]
        rfl
      refine ⟨inv.forTcp, nofun, fun _ => ⟨read', idle, fun isn mem => ?_⟩,
        fun _ notSynSent => absurd rfl notSynSent, fun sent => absurd none' sent,
        each_append.mpr ⟨inv.last, fun data => absurd rfl data⟩⟩
      rcases List.mem_append.mp mem with mem | mem
      · exact absurd mem (unopened isn)
      · cases List.mem_singleton.mp mem
        rfl
  | refused init _ =>
      exact ⟨inv.forTcp, inv.untouched, fun synSent => absurd (init.symm.trans synSent) nofun,
        fun notInit => absurd init notInit, inv.ended, inv.last⟩
  | reopened _ _ => exact inv.congr inv.forTcp rfl rfl rfl (.inl rfl)
  | lateSyn _ _ _ => exact inv
  | ignored _ _ _ => exact inv
  | reset _ _ _ _ => exact inv.congr inv.forTcp rfl rfl rfl (.inl rfl)
  | @expected acked notInit noSyn _ _ ackPart =>
      have after : Terminates acked.conn := by
        rcases ackPart_ok ackPart with ⟨synReceived, -, same⟩ | ⟨same, -⟩ | ⟨_, _, -, -, same⟩
        · rw [same]
          refine inv.congr inv.forTcp rfl rfl rfl (.inr ⟨?_, ⟨nofun, nofun⟩, ?_⟩)
          · rw [synReceived]
            exact ⟨nofun, nofun⟩
          · rw [synReceived]
            nofun
        · rw [same]
          exact inv.congr inv.forTcp rfl rfl rfl (.inl rfl)
        · rw [same]
          exact inv.congr inv.forTcp rfl rfl rfl (.inl rfl)
      split
      · rcases acked.noteFin_ok with ⟨-, same⟩ | ⟨-, same⟩
        · have noted : Terminates { acked.conn with tcb := { acked.conn.tcb with
              finReceived := true
              acknowledgementNumber := acked.conn.tcb.acknowledgementNumber + 1 } } :=
            after.congr after.forTcp rfl rfl rfl (.inl rfl)
          rw [same]
          exact noted.record .finHandled rfl rfl rfl nofun
        · rw [same]
          exact after.congr after.forTcp rfl rfl rfl (.inl rfl)
      · exact after

end Terminates

namespace TcpLife

/-- **One FIN, after every byte, and nothing after it**, in every run whose
connection is orderly. -/
theorem run_finLast {t : List (TcpLife × Label)} {s : TcpLife} (run : machine.Run t s)
    (orderly : Each Orderly s.conn.trace) : FinLast s.conn := by
  suffices inv : Terminates s.conn from inv.finLast
  refine run_invariant (fun conn => Each Orderly conn.trace → Terminates conn)
    (fun conn fresh _ => .of_fresh fresh) ?_ ?_ run (Machine.meets_true t) orderly
  · rintro s packet random overflowChecks now header c c₁ - - same inv arrived orderly
    have earlier := orderly.of_prefix arrived.trace_prefix
    have touched : Terminates c.conn := by
      rw [same] at earlier ⊢
      have inv := inv earlier
      exact inv.congr inv.forTcp rfl rfl rfl (.inl rfl)
    exact touched.arrival arrived
  · rintro may c c' connected inv move orderly
    exact (inv (orderly.of_prefix move.trace_prefix)).move connected orderly move

/-- One byte is read and handed over, and the FIN goes behind it. -/
theorem run_finLast_byte :
    ∃ t s fin, machine.Run t s ∧ hostRead s.conn.trace = [0x61] ∧ sentFins s.conn.trace = [fin] ∧
      fin.sequenceNumber = 2 ∧ FinLast s.conn := by
  obtain ⟨conn, fresh⟩ := TcpConnection.fresh_exists
  obtain ⟨t, s₀, s₁, synAck, raw, run₀, reads, -, answer, -, exchanged⟩ := run_reads fresh
  obtain ⟨s, fin, run, segment, trace⟩ := @run_answersFin _ s₁ (segmentPacket 1 2 0x11 [])
    (segmentHeader 1 2 0x11) 1 2 _ (run₀.step reads) exchanged rfl rfl (by decide) (by decide) (by decide)
    (by decide) (by decide) (by decide)
  have noFin : (TcpAction.forged synAck false).fin = none := by
    rw [TcpAction.fin, answer]
    rfl
  have isFin : (TcpAction.forged fin false).fin = some (Segment.ofRaw fin) := by
    rw [TcpAction.fin, segment]
    rfl
  have before : sentFins [TcpAction.opened 0, TcpAction.forged synAck false] = [] :=
    List.filterMap_cons_none noFin
  have sent : sentFins s.conn.trace = [Segment.ofRaw fin] := by
    rw [trace]
    simp only [sentFins, List.cons_append, List.nil_append, List.filterMap_cons, noFin, isFin]
    rfl
  refine ⟨_, s, _, run, by rw [trace]; rfl, sent, by rw [segment], run_finLast run ?_⟩
  rw [trace]
  simp only [List.cons_append, List.nil_append, each_cons, each_nil]
  refine ⟨trivial, fun some => absurd noFin some, before, trivial, trivial, fun _ => ⟨rfl, ?_⟩, trivial⟩
  intro action mem
  simp only [List.mem_cons, List.not_mem_nil, or_false] at mem
  rcases mem with rfl | rfl | rfl | rfl | rfl <;> exact id

/-- **Data after the FIN.**  The FIN of the client is answered while a readable event of the same
batch is still to be dispatched.  The event was polled while the connection was established, and
`process_receive` asks for the state no more. -/
theorem run_sends_after_fin :
    ∃ t s, machine.Run t s ∧
      t.map Prod.snd = [.packet (segmentPacket 0 0 2 []) 0 false 0, .poll,
        .event .writable ⟨.ok none, .ok 0, .ok []⟩ 0, .packet (segmentPacket 1 1 0x10 []) 0 false 0,
        .poll, .packet (segmentPacket 1 1 0x11 []) 0 false 0,
        .event .readable ⟨.ok none, .ok 0, .ok [0x61]⟩ 0] ∧
      ¬ FinLast s.conn := by
  obtain ⟨conn, fresh⟩ := TcpConnection.fresh_exists
  obtain ⟨t, s, packetizer, synAck, run, -, labels, forTcp, -, armed, same⟩ :=
    run_established fresh
  obtain ⟨_, _, _, _, rfl⟩ := fresh.eq_initial
  have tcb : s.conn.tcb = { Tcb.new with
      state := .established
      acknowledgementNumber := 1
      sequenceNumber := 1
      theirAcknowledgementNumber := 1
      clientWindow := 65535 } := by rw [same]
  have idle : s.conn.packetForClientLength = none := by
    rw [same]
    rfl
  have empty : s.conn.clientToNetwork.isEmpty = true := by
    rw [same]
    rfl
  have expected : s.conn.expectedPacket = 1 := by
    rw [same]
    rfl
  have trace : s.conn.trace = [TcpAction.opened 0, TcpAction.forged synAck false] := by rw [same]
  obtain ⟨client, selector, usable, -⟩ :=
    @usable_exists s.conn (by rw [same]; rfl) (by rw [same]; exact forTcp) (.new _)
  -- the FIN of the client
  obtain ⟨c₁, packetizer₁, fin, sent, usable₁, -, segment, same₁⟩ :=
    @TcpContext.Usable.finish ⟨s.conn, client, selector⟩ 0 0 (segmentPacket 1 1 0x11 [])
      (segmentHeader 1 1 0x11) usable rfl (by rw [tcb]; exact fun init => by cases init) (by decide)
      (by rw [expected]; decide) (by decide) (by decide) (by decide) (.inr rfl)
      (by rw [tcb]; decide) empty (by rw [tcb]; decide)
  have tcb₁ : c₁.conn.tcb = { Tcb.new with
      state := .lastAck
      acknowledgementNumber := 2
      sequenceNumber := 2
      theirAcknowledgementNumber := 1
      finSequenceNumber := some 1
      finReceived := true
      clientWindow := 65535 } := by
    rw [same₁]
    show Tcb.mk _ _ _ _ _ _ _ _ = _
    rw [tcb]
    decide
  have trace₁ : c₁.conn.trace = [TcpAction.opened 0, TcpAction.forged synAck false,
      TcpAction.finHandled, TcpAction.forged fin s.conn.waiting] := by
    rw [same₁]
    show s.conn.trace ++ _ = _
    rw [trace]
    rfl
  -- the stale event
  obtain ⟨client', selector', usable', room⟩ :=
    @usable_exists c₁.conn usable₁.isOpen usable₁.forTcp (.new _)
  obtain ⟨c₂, packetizer₂, raw, read, -, index, length, -, -, ⟨-, -, same₂⟩ | ⟨full, -⟩⟩ :=
    @TcpContext.Usable.read ⟨c₁.conn, client', selector'⟩ 0 ⟨.ok none, .ok 0, .ok [0x61]⟩ [0x61] usable'
      (by rw [same₁]; exact idle) (by rw [tcb₁]; decide) (List.cons_ne_nil _ _)
      (by rw [TcpContext.receivable, tcb₁]; decide) rfl
  · have within : Ready.readable.Within s.armed := armed ▸ Ready.within_refl _
    refine ⟨_, _, (run.step (Step.packet sent)).step (Step.event within read), ?_, fun finLast => ?_⟩
    · rw [List.map_append, List.map_append, labels]
      rfl
    · have trace₂ : c₂.conn.trace = (c₁.conn.trace ++ [TcpAction.read [0x61]]) ++
          TcpAction.handed raw :: [] := by
        rw [same₂, List.append_assoc]
        rfl
      have noFin := finLast.last _ _ _ trace₂ fun none => by cases none
      rw [sentFins_append, trace₁, List.append_eq_nil_iff] at noFin
      have isFin : (TcpAction.forged fin s.conn.waiting).fin = some (Segment.ofRaw fin) := by
        refine if_pos ?_
        rw [segment]
        exact (by decide : (flagFin ||| flagAck) &&& flagFin ≠ 0)
      have mem : Segment.ofRaw fin ∈ sentFins [TcpAction.opened 0, TcpAction.forged synAck false,
          TcpAction.finHandled, TcpAction.forged fin s.conn.waiting] :=
        List.mem_filterMap.mpr ⟨_, by simp, isFin⟩
      rw [noFin.1] at mem
      cases mem
  · have short := usable₁.forTcp.short
    change packetizer₂.payloadIndex = c₁.conn.networkToClient.payloadIndex at index
    change client'.networkToClient.remaining < raw.length at full
    rw [room, StreamBuffer.remaining_new, length, index, List.length_singleton] at full
    have most : 16 * maxPacketLength = 1048576 := rfl
    omega

end TcpLife

end ReverseTether
