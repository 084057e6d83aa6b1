import ReverseTether.TcpProgress

/-!
# From the host socket to the client

The bytes read from the host socket go to the client in data segments, directly or
after a wait.  `Tiles` says that the segments lie next to each other in the
sequence space, from the number after the SYN on.

Three things break the tiling.  A waiting packet is rebuilt from the packetizer, so
an empty segment forged meanwhile takes its place; its delivery advances the
sequence number by the length of the whole packet; and nothing forbids to read the
host once the FIN is sent.  `Undisturbed` says that none of them is met by what
follows.

The condition is stated over the history of the connection in the terms of the code: what is
forged while a packet waits, what is delivered, and what is read behind the FIN.
`run_leaves_gap` is a run in which it is violated, and with it the tiling.

The numbers are those of the segments and not of the control block.  A segment is placed by
its sequence number relative to that of the SYN, and its payload is compared with the bytes
read at that offset, so the statement is the one that the receiver of the stream relies on.
-/

namespace ReverseTether

open Library Relation

open TcpConnection (updateHeaders)

/-- The bytes some segments carry. -/
def carriedBytes (segments : List Segment) : List UInt8 := segments.flatMap Segment.payload

@[simp] theorem carriedBytes_nil : carriedBytes [] = [] := rfl

@[simp] theorem carriedBytes_append (segments : List Segment) (segment : Segment) :
    carriedBytes (segments ++ [segment]) = carriedBytes segments ++ segment.payload := by
  simp [carriedBytes]

/-- The segments carry the bytes `read`, from the first on, and each byte at its
place: the byte of index `k` has the sequence number `isn + 1 + k`. -/
structure Tiles (isn : UInt32) (read : List UInt8) (segments : List Segment) : Prop where
  placed : Each (fun before segment =>
    segment.sequenceNumber = isn + 1 + UInt32.ofNat (carriedBytes before).length) segments
  carried : carriedBytes segments <+: read

theorem Tiles.append {isn : UInt32} {read : List UInt8} {segments : List Segment}
    {segment : Segment} (tiles : Tiles isn read segments)
    (number : segment.sequenceNumber = isn + 1 + UInt32.ofNat (carriedBytes segments).length)
    (carried : carriedBytes segments ++ segment.payload <+: read) :
    Tiles isn read (segments ++ [segment]) where
  placed := each_append.mpr ⟨tiles.placed, number⟩
  carried := by
    rw [carriedBytes_append]
    exact carried

theorem Tiles.mono {isn : UInt32} {read read' : List UInt8} {segments : List Segment}
    (tiles : Tiles isn read segments) (longer : read <+: read') : Tiles isn read' segments :=
  ⟨tiles.placed, tiles.carried.trans longer⟩

/-- A packet that waited was handed over. -/
def TcpAction.IsDelivery : TcpAction → Prop
  | .delivered _ => True
  | _ => False

/-- The condition on what a connection does, given what it did before: no empty
segment is forged while a packet waits, and no byte is read from the host once a
waiting packet was delivered or a FIN was sent. -/
def Undisturbed (before : List TcpAction) : TcpAction → Prop
  | .forged _ waiting => waiting = false
  | .read _ => (∀ action ∈ before, ¬ action.IsDelivery) ∧ sentFins before = []
  | _ => True

/-- The data segments tile the sequence space from the number after the SYN on, and
what is missing of the bytes read is in the packet that waits. -/
def DownloadTiles (conn : TcpConnection) : Prop :=
  ∀ isn, .opened isn ∈ conn.trace →
    Tiles isn (hostRead conn.trace) (dataSegments conn.trace) ∧
      (conn.packetForClientLength = none →
        carriedBytes (dataSegments conn.trace) = hostRead conn.trace)

/-- The invariant behind `DownloadTiles`: it also says what the connection is before the socket is
connected, and what the packetizer keeps for a packet that waits. -/
structure Downloads (conn : TcpConnection) : Prop where
  forTcp : conn.networkToClient.ForTcp
  /-- Nothing has happened before the first SYN. -/
  untouched : conn.tcb.state = .init → (∀ isn, .opened isn ∉ conn.trace) ∧
    hostRead conn.trace = [] ∧ dataSegments conn.trace = [] ∧ conn.packetForClientLength = none
  /-- Nothing is read before the socket is connected. -/
  unread : conn.tcb.state = .synSent → hostRead conn.trace = [] ∧
    dataSegments conn.trace = [] ∧ conn.packetForClientLength = none ∧
    ∀ isn, .opened isn ∈ conn.trace → conn.tcb.sequenceNumber = isn
  tiles : ∀ isn, .opened isn ∈ conn.trace →
    Tiles isn (hostRead conn.trace) (dataSegments conn.trace)
  /-- The next segment continues the tiling. -/
  number : conn.tcb.state ≠ .init → conn.tcb.state ≠ .synSent →
    (∀ action ∈ conn.trace, ¬ action.IsDelivery) → sentFins conn.trace = [] →
    ∀ isn, .opened isn ∈ conn.trace → conn.tcb.sequenceNumber =
      isn + 1 + UInt32.ofNat (carriedBytes (dataSegments conn.trace)).length
  idle : conn.packetForClientLength = none →
    carriedBytes (dataSegments conn.trace) = hostRead conn.trace
  /-- The packet that waits is the next one. -/
  waits : ∀ length, conn.packetForClientLength = some length →
    carriedBytes (dataSegments conn.trace) ++
        (Segment.ofRaw (conn.networkToClient.inflate length).raw).payload = hostRead conn.trace ∧
      ∀ isn, .opened isn ∈ conn.trace →
        (Segment.ofRaw (conn.networkToClient.inflate length).raw).sequenceNumber =
          isn + 1 + UInt32.ofNat (carriedBytes (dataSegments conn.trace)).length

namespace Downloads

theorem of_fresh {conn : TcpConnection} (fresh : conn.Fresh) : Downloads conn := by
  have forTcp := fresh.forTcp
  obtain ⟨_, _, _, _, rfl⟩ := fresh.eq_initial
  exact ⟨forTcp, fun _ => ⟨fun _ => List.not_mem_nil, rfl, rfl, rfl⟩, nofun, nofun, nofun,
    fun _ => rfl, nofun⟩

/-- The invariant depends on this much of a connection.  The sequence number is
free once a FIN was sent, and the packetizer while nothing waits. -/
theorem congr {conn conn' : TcpConnection} (inv : Downloads conn)
    (forTcp : conn'.networkToClient.ForTcp)
    (packet : conn'.packetForClientLength = conn.packetForClientLength)
    (kept : conn'.networkToClient = conn.networkToClient ∨ conn.packetForClientLength = none)
    (trace : conn'.trace = conn.trace)
    (number : conn'.tcb.state = conn.tcb.state ∧ conn'.tcb.sequenceNumber = conn.tcb.sequenceNumber ∨
      (conn.tcb.state ≠ .init ∧ conn.tcb.state ≠ .synSent) ∧
        (conn'.tcb.state ≠ .init ∧ conn'.tcb.state ≠ .synSent) ∧
        (conn'.tcb.sequenceNumber = conn.tcb.sequenceNumber ∨ sentFins conn.trace ≠ [])) :
    Downloads conn' where
  forTcp := forTcp
  untouched init := by
    rw [trace, packet]
    rcases number with ⟨state, -⟩ | ⟨-, past, -⟩
    · exact inv.untouched (state ▸ init)
    · exact absurd init past.1
  unread synSent := by
    rw [trace, packet]
    rcases number with ⟨state, same⟩ | ⟨-, past, -⟩
    · rw [same]
      exact inv.unread (state ▸ synSent)
    · exact absurd synSent past.2
  tiles := by
    rw [trace]
    exact inv.tiles
  number notInit notSynSent := by
    rw [trace]
    rcases number with ⟨state, same⟩ | ⟨past, -, same | sent⟩
    · rw [same]
      exact inv.number (state ▸ notInit) (state ▸ notSynSent)
    · rw [same]
      exact inv.number past.1 past.2
    · exact fun _ none => absurd none sent
  idle := by
    rw [trace, packet]
    exact inv.idle
  waits length waiting := by
    rw [trace]
    rw [packet] at waiting
    rcases kept with same | idle
    · rw [same]
      exact inv.waits length waiting
    · rw [idle] at waiting
      cases waiting

/-- An action that moves no data. -/
theorem record {conn : TcpConnection} (inv : Downloads conn) (action : TcpAction)
    (noRead : action.received = []) (noSegment : action.segment = none)
    (notOpened : ∀ isn, action ≠ .opened isn) : Downloads (conn.record action) := by
  have opened {isn : UInt32} : .opened isn ∈ conn.trace ++ [action] ↔ .opened isn ∈ conn.trace := by
    rw [List.mem_append, List.mem_singleton]
    exact or_iff_left fun new => notOpened isn new.symm
  have read : hostRead (conn.trace ++ [action]) = hostRead conn.trace := by
    rw [hostRead_append, noRead, List.append_nil]
  have segments : dataSegments (conn.trace ++ [action]) = dataSegments conn.trace := by
    rw [dataSegments_append, noSegment]
    exact List.append_nil _
  constructor
  · exact inv.forTcp
  · simp only [TcpConnection.record, opened, read, segments]
    exact inv.untouched
  · simp only [TcpConnection.record, opened, read, segments]
    exact inv.unread
  · simp only [TcpConnection.record, opened, read, segments]
    exact inv.tiles
  · simp only [TcpConnection.record, opened, segments]
    intro notInit notSynSent undelivered none
    refine inv.number notInit notSynSent (fun a mem => undelivered a (List.mem_append_left _ mem)) ?_
    rw [sentFins_append] at none
    exact (List.append_eq_nil_iff.mp none).1
  · simp only [TcpConnection.record, read, segments]
    exact inv.idle
  · simp only [TcpConnection.record, opened, read, segments]
    exact inv.waits

theorem reply {c c' : TcpContext} {flags : UInt16} (inv : Downloads c.conn)
    (mem : flags ∈ relayFlags) (undisturbed : Each Undisturbed c'.conn.trace)
    (forged : c.replyEmptyPacketToClient flags = .ok c') :
    Downloads c'.conn ∧ c.conn.packetForClientLength = none ∧
      c'.conn.tcb = c.conn.tcb ∧ (flags &&& flagFin ≠ 0 → sentFins c'.conn.trace ≠ []) := by
  obtain ⟨packetizer, raw, forTcp, -, -, segment, same⟩ :=
    TcpContext.replyEmptyPacketToClient_segment inv.forTcp mem forged
  rw [same] at undisturbed ⊢
  have alone : c.conn.waiting = false := (each_append.mp undisturbed).2
  have idle : c.conn.packetForClientLength = none := by
    rwa [TcpConnection.waiting, Option.isSome_eq_false_iff, Option.isNone_iff_eq_none] at alone
  have rebuilt : Downloads { c.conn with networkToClient := packetizer } :=
    inv.congr forTcp rfl (.inr idle) rfl (.inl ⟨rfl, rfl⟩)
  refine ⟨rebuilt.record _ rfl rfl (fun _ same => by cases same), idle, rfl, fun fin => ?_⟩
  show sentFins (c.conn.trace ++ [.forged raw c.conn.waiting]) ≠ []
  rw [sentFins_append, TcpAction.fin, segment, if_pos fin]
  exact List.append_ne_nil_of_right_ne_nil _ (List.cons_ne_nil _ _)

/-- Bytes are read: their segment is handed over, or waits. -/
theorem receive {c c' : TcpContext} {primed packetizer : Packetizer} {available : List UInt8}
    {packet : Ipv4Packet} (inv : Downloads c.conn) (connected : c.conn.tcb.state.isConnected = true)
    (idle : c.conn.packetForClientLength = none)
    (updated : updateHeaders c.conn.networkToClient c.conn.tcb (flagAck ||| flagPsh) = .ok primed)
    (packetized : primed.packetizeRead (.ok available) c.receivable =
      .ok (.ok (some packet), packetizer))
    (sent : ({ c with conn := { c.conn with networkToClient := packetizer } }.record
      (.read (primed.chunk available c.receivable))).sendDataToClient packet = .ok c')
    (undisturbed : Each Undisturbed c'.conn.trace) : Downloads c'.conn := by
  obtain ⟨forTcp, built, inflated, segment⟩ :=
    TcpContext.packetizeRead_segment inv.forTcp updated packetized
  have payload := built.payload
  set data := primed.chunk available c.receivable
  have notInit : c.conn.tcb.state ≠ .init := by
    rintro init
    rw [init] at connected
    cases connected
  have notSynSent : c.conn.tcb.state ≠ .synSent := by
    rintro synSent
    rw [synSent] at connected
    cases connected
  have all := inv.idle idle
  have grown : hostRead c.conn.trace <+: hostRead c.conn.trace ++ data := List.prefix_append _ _
  obtain ⟨_, _, _, -, ⟨payload', -, carried, same, -⟩ | ⟨-, same, -⟩⟩ :=
    TcpContext.sendDataToClient_ok sent
  · rw [payload] at carried
    cases carried
    rw [same] at undisturbed ⊢
    obtain ⟨undelivered, noFin⟩ := (each_append.mp (each_append.mp undisturbed).1).2
    have number := inv.number notInit notSynSent undelivered noFin
    have read : hostRead (c.conn.trace ++ [.read data] ++ [.handed packet.raw]) =
        hostRead c.conn.trace ++ data := by
      rw [hostRead_append, hostRead_append]
      exact List.append_nil _
    have segments : dataSegments (c.conn.trace ++ [.read data] ++ [.handed packet.raw]) =
        dataSegments c.conn.trace ++ [Segment.ofRaw packet.raw] := by
      rw [dataSegments_append, dataSegments_append]
      exact congrArg (· ++ _) (List.append_nil _)
    have opened {isn : UInt32} (mem : .opened isn ∈ c.conn.trace ++ [.read data] ++
        [.handed packet.raw]) : .opened isn ∈ c.conn.trace := by
      simpa using mem
    constructor
    · exact forTcp
    · exact fun init => absurd init notInit
    · exact fun synSent => absurd synSent notSynSent
    · intro isn mem
      dsimp only [TcpConnection.record, TcpContext.record]
      rw [read, segments]
      refine ((inv.tiles isn (opened mem)).mono grown).append ?_ ?_
      · rw [segment]
        exact number isn (opened mem)
      · rw [segment, all]
    · intro _ _ _ _ isn mem
      dsimp only [TcpConnection.record, TcpContext.record]
      rw [segments, carriedBytes_append, List.length_append, segment, UInt32.ofNat_add,
        number isn (opened mem), UInt32.add_assoc]
    · intro _
      dsimp only [TcpConnection.record, TcpContext.record]
      rw [read, segments, carriedBytes_append, segment, all]
    · intro length waiting
      exact absurd (idle.symm.trans waiting) nofun
  · rw [same] at undisturbed ⊢
    obtain ⟨undelivered, noFin⟩ := (each_append.mp (each_append.mp undisturbed).1).2
    have number := inv.number notInit notSynSent undelivered noFin
    have read : hostRead (c.conn.trace ++ [.read data] ++ [.deferred packet.raw]) =
        hostRead c.conn.trace ++ data := by
      rw [hostRead_append, hostRead_append]
      exact List.append_nil _
    have segments : dataSegments (c.conn.trace ++ [.read data] ++ [.deferred packet.raw]) =
        dataSegments c.conn.trace := by
      rw [dataSegments_append, dataSegments_append]
      exact (List.append_nil _).trans (List.append_nil _)
    have opened {isn : UInt32} (mem : .opened isn ∈ c.conn.trace ++ [.read data] ++
        [.deferred packet.raw]) : .opened isn ∈ c.conn.trace := by
      simpa using mem
    constructor
    · exact forTcp
    · exact fun init => absurd init notInit
    · exact fun synSent => absurd synSent notSynSent
    · intro isn mem
      dsimp only [TcpConnection.record, TcpContext.record]
      rw [read, segments]
      exact (inv.tiles isn (opened mem)).mono grown
    · intro _ _ _ _ isn mem
      dsimp only [TcpConnection.record, TcpContext.record]
      rw [segments]
      exact number isn (opened mem)
    · nofun
    · intro length waiting
      cases waiting
      dsimp only [TcpConnection.record, TcpContext.record]
      rw [inflated, read, segments, segment, all]
      exact ⟨rfl, fun isn mem => all ▸ number isn (opened mem)⟩

/-- The waiting packet is handed over: it is the next segment. -/
theorem deliver {conn : TcpConnection} (inv : Downloads conn) {length : UInt16}
    (waiting : conn.packetForClientLength = some length) (sequenceNumber : UInt32) :
    Downloads ({ conn with
      packetForClientLength := none
      tcb := { conn.tcb with sequenceNumber } }.record
        (.delivered (conn.networkToClient.inflate length).raw)) := by
  obtain ⟨next, number⟩ := inv.waits length waiting
  set segment := Segment.ofRaw (conn.networkToClient.inflate length).raw with hsegment
  have notInit : conn.tcb.state ≠ .init := fun init =>
    absurd ((inv.untouched init).2.2.2.symm.trans waiting) nofun
  have notSynSent : conn.tcb.state ≠ .synSent := fun synSent =>
    absurd ((inv.unread synSent).2.2.1.symm.trans waiting) nofun
  have read : hostRead (conn.trace ++ [.delivered (conn.networkToClient.inflate length).raw]) =
      hostRead conn.trace := by
    rw [hostRead_append]
    exact List.append_nil _
  have segments : dataSegments (conn.trace ++
      [.delivered (conn.networkToClient.inflate length).raw]) =
      dataSegments conn.trace ++ [segment] := dataSegments_append _ _
  have opened {isn : UInt32} (mem : .opened isn ∈ conn.trace ++
      [.delivered (conn.networkToClient.inflate length).raw]) : .opened isn ∈ conn.trace := by
    simpa using mem
  constructor
  · exact inv.forTcp
  · exact fun init => absurd init notInit
  · exact fun synSent => absurd synSent notSynSent
  · intro isn mem
    dsimp only [TcpConnection.record]
    rw [read, segments]
    exact (inv.tiles isn (opened mem)).append (number isn (opened mem)) (next ▸ List.prefix_refl _)
  · intro _ _ undelivered
    exact absurd trivial (undelivered _ (List.mem_append_right _ (List.mem_singleton_self _)))
  · intro _
    dsimp only [TcpConnection.record]
    rw [read, segments, carriedBytes_append, next]
  · nofun

theorem move {may : TcpWork → Prop} {c c' : TcpContext}
    (connected : may .read → c.conn.tcb.state.isConnected = true) (inv : Downloads c.conn)
    (undisturbed : Each Undisturbed c'.conn.trace) (h : TcpMove may c c') :
    Downloads c'.conn := by
  cases h with
  | touch now => exact inv.congr inv.forTcp rfl (.inl rfl) rfl (.inl ⟨rfl, rfl⟩)
  | interests updated =>
      obtain ⟨-, same, -⟩ := TcpContext.updateInterests_ok updated
      rw [same]
      exact inv.congr inv.forTcp rfl (.inl rfl) rfl (.inl ⟨rfl, rfl⟩)
  | @prime packetizer _ idle updated =>
      obtain ⟨header, updated', forTcp, -⟩ := inv.forTcp.updateHeaders c.conn.tcb
        (show flagAck ||| flagPsh ∈ relayFlags by decide)
      rw [updated] at updated'
      cases updated'
      exact inv.congr forTcp rfl (.inr idle) rfl (.inl ⟨rfl, rfl⟩)
  | forge plain forged =>
      refine (inv.reply ?_ undisturbed forged).1
      rcases plain with rfl | rfl <;> decide
  | close =>
      have closed : Downloads { c.conn with closed := true } :=
        inv.congr inv.forTcp rfl (.inl rfl) rfl (.inl ⟨rfl, rfl⟩)
      exact closed.record _ rfl rfl nofun
  | removeFromRouter => exact inv
  | @connect c₁ _ synSent forged =>
      obtain ⟨read, segments, idle, number⟩ := inv.unread synSent
      obtain ⟨packetizer, raw, forTcp, -, -, -, same⟩ :=
        @TcpContext.replyEmptyPacketToClient_segment
          (c.withTcb fun tcb => { tcb with state := .synReceived }) c₁ _ inv.forTcp
          (show flagSyn ||| flagAck ∈ relayFlags by decide) forged
      have counted : Downloads { c.conn with
          networkToClient := packetizer
          tcb := { c.conn.tcb with
            state := .synReceived
            sequenceNumber := c.conn.tcb.sequenceNumber + 1 } } := by
        refine ⟨forTcp, nofun, nofun, inv.tiles, fun _ _ _ _ isn mem => ?_, inv.idle,
          fun length waiting => absurd (idle.symm.trans waiting) nofun⟩
        show c.conn.tcb.sequenceNumber + 1 = _
        rw [segments, number isn mem]
        exact (UInt32.add_zero _).symm
      show Downloads { c₁.conn with tcb := { c₁.conn.tcb with
        sequenceNumber := c₁.conn.tcb.sequenceNumber + 1 } }
      rw [same]
      exact counted.record (.forged raw c.conn.waiting) rfl rfl nofun
  | @write answer written clientToNetwork _ _ _ _ _ =>
      have taken : Downloads { c.conn with
          clientToNetwork
          tcb := { c.conn.tcb with acknowledgementNumber :=
            c.conn.tcb.acknowledgementNumber + UInt32.ofNat written.length } } :=
        inv.congr inv.forTcp rfl (.inl rfl) rfl (.inl ⟨rfl, rfl⟩)
      exact taken.record (.wrote written) rfl rfl nofun
  | @writeLast answer written clientToNetwork _ _ _ _ _ _ =>
      have taken : Downloads { c.conn with
          clientToNetwork
          tcb := { c.conn.tcb with acknowledgementNumber :=
            c.conn.tcb.acknowledgementNumber + UInt32.ofNat written.length } } :=
        inv.congr inv.forTcp rfl (.inl rfl) rfl (.inl ⟨rfl, rfl⟩)
      have acknowledged := taken.record (.wrote written) rfl rfl nofun
      have counted : Downloads ((c.acknowledge written clientToNetwork).withTcb fun tcb =>
          { tcb with acknowledgementNumber := tcb.acknowledgementNumber + 1 }).conn :=
        acknowledged.congr inv.forTcp rfl (.inl rfl) rfl (.inl ⟨rfl, rfl⟩)
      exact counted.record .finHandled rfl rfl nofun
  | receive reading _ idle updated packetized sent =>
      exact inv.receive (connected reading) idle updated packetized sent undisturbed
  | eof reading idle ended =>
      obtain ⟨c₁, forged, rest⟩ := bind_eq_ok.mp ended
      cases rest
      have found : Downloads (c.record .readEof).conn := inv.record _ rfl rfl nofun
      have undisturbed : Each Undisturbed c₁.conn.trace := undisturbed
      obtain ⟨replied, -, tcb, sent⟩ :=
        found.reply (show flagFin ||| flagAck ∈ relayFlags by decide) undisturbed forged
      have past : c₁.conn.tcb.state ≠ .init ∧ c₁.conn.tcb.state ≠ .synSent := by
        have := connected reading
        rw [tcb]
        show c.conn.tcb.state ≠ .init ∧ c.conn.tcb.state ≠ .synSent
        constructor <;> rintro state <;> rw [state] at this <;> cases this
      refine replied.congr replied.forTcp rfl (.inl rfl) rfl (.inr ⟨past, ?_, .inr (sent (by decide))⟩)
      show (if _ then _ else _) ≠ _ ∧ (if _ then _ else _) ≠ _
      split <;> exact ⟨nofun, nofun⟩
  | @answerFin c₁ established forged =>
      have undisturbed : Each Undisturbed c₁.conn.trace := undisturbed
      obtain ⟨replied, -, tcb, sent⟩ :=
        inv.reply (show flagFin ||| flagAck ∈ relayFlags by decide) undisturbed forged
      have past : c₁.conn.tcb.state ≠ .init ∧ c₁.conn.tcb.state ≠ .synSent := by
        rw [tcb, established]
        exact ⟨nofun, nofun⟩
      exact replied.congr replied.forTcp rfl (.inl rfl) rfl
        (.inr ⟨past, ⟨nofun, nofun⟩, .inr (sent (by decide))⟩)
  | closing finWait1 =>
      exact inv.congr inv.forTcp rfl (.inl rfl) rfl
        (.inr ⟨by rw [finWait1]; exact ⟨nofun, nofun⟩, ⟨nofun, nofun⟩, .inl rfl⟩)
  | finAcked finWait1 =>
      exact inv.congr inv.forTcp rfl (.inl rfl) rfl
        (.inr ⟨by rw [finWait1]; exact ⟨nofun, nofun⟩, ⟨nofun, nofun⟩, .inl rfl⟩)
  | deliver _ waiting => exact inv.deliver waiting _

/-- Every arrival, whatever the packet. -/
theorem arrival {packet : Ipv4Packet} {header : TcpHeaderData} {random : UInt32}
    {c c' : TcpContext} (inv : Downloads c.conn) (h : TcpArrival packet header random c c') :
    Downloads c'.conn := by
  cases h with
  | opened init syn =>
      obtain ⟨unopened, read, segments, idle⟩ := inv.untouched init
      have number {isn : UInt32} (mem : .opened isn ∈ c.conn.trace ++ [.opened random]) :
          random = isn := by
        rcases List.mem_append.mp mem with mem | mem
        · exact absurd mem (unopened isn)
        · cases List.mem_singleton.mp mem
          rfl
      have read' : hostRead (c.conn.trace ++ [.opened random]) = [] := by
        rw [hostRead_append, read]
        rfl
      have segments' : dataSegments (c.conn.trace ++ [.opened random]) = [] := by
        rw [dataSegments_append, segments]
        rfl
      refine ⟨inv.forTcp, nofun, fun _ => ⟨read', segments', idle, fun isn mem => number mem⟩,
        fun isn mem => ?_, fun _ notSynSent => absurd rfl notSynSent, fun _ => ?_,
        fun length waiting => absurd (idle.symm.trans waiting) nofun⟩
      · show Tiles isn (hostRead (c.conn.trace ++ [.opened random]))
          (dataSegments (c.conn.trace ++ [.opened random]))
        rw [read', segments']
        exact ⟨each_nil _, List.nil_prefix⟩
      · show carriedBytes (dataSegments (c.conn.trace ++ [.opened random])) =
          hostRead (c.conn.trace ++ [.opened random])
        rw [read', segments']
        rfl
  | refused init _ =>
      exact ⟨inv.forTcp, inv.untouched, fun synSent => absurd (init.symm.trans synSent) nofun,
        inv.tiles, fun notInit => absurd init notInit, inv.idle, inv.waits⟩
  | reopened _ _ => exact inv.congr inv.forTcp rfl (.inl rfl) rfl (.inl ⟨rfl, rfl⟩)
  | lateSyn _ _ _ => exact inv
  | ignored _ _ _ => exact inv
  | reset _ _ _ _ => exact inv.congr inv.forTcp rfl (.inl rfl) rfl (.inl ⟨rfl, rfl⟩)
  | @expected acked notInit noSyn _ _ ackPart =>
      have after : Downloads acked.conn := by
        rcases ackPart_ok ackPart with ⟨synReceived, -, same⟩ | ⟨same, -⟩ | ⟨_, _, -, -, same⟩
        · rw [same]
          refine inv.congr inv.forTcp rfl (.inl rfl) rfl
            (.inr ⟨?_, ⟨nofun, nofun⟩, .inl rfl⟩)
          rw [synReceived]
          exact ⟨nofun, nofun⟩
        · rw [same]
          exact inv.congr inv.forTcp rfl (.inl rfl) rfl (.inl ⟨rfl, rfl⟩)
        · rw [same]
          exact inv.congr inv.forTcp rfl (.inl rfl) rfl (.inl ⟨rfl, rfl⟩)
      split
      · rcases acked.noteFin_ok with ⟨-, same⟩ | ⟨-, same⟩
        · have noted : Downloads { acked.conn with tcb := { acked.conn.tcb with
              finReceived := true
              acknowledgementNumber := acked.conn.tcb.acknowledgementNumber + 1 } } :=
            after.congr after.forTcp rfl (.inl rfl) rfl (.inl ⟨rfl, rfl⟩)
          rw [same]
          exact noted.record .finHandled rfl rfl nofun
        · rw [same]
          exact after.congr after.forTcp rfl (.inl rfl) rfl (.inl ⟨rfl, rfl⟩)
      · exact after

end Downloads

namespace TcpLife

/-- **The data segments tile the sequence space**, in every run whose connection is
undisturbed: each byte read from the host is carried at its own sequence number, and
once nothing waits all of them are. -/
theorem run_downloadTiles {t : List (TcpLife × Label)} {s : TcpLife} (run : machine.Run t s)
    (undisturbed : Each Undisturbed s.conn.trace) : DownloadTiles s.conn := by
  have inv : Downloads s.conn := by
    refine run_invariant (fun conn => Each Undisturbed conn.trace → Downloads conn)
      (fun conn fresh _ => .of_fresh fresh) ?_ ?_ run
      (Machine.meets_true t) undisturbed
    · rintro s packet random overflowChecks now header c c₁ - - same inv arrived undisturbed
      have earlier := undisturbed.of_prefix arrived.trace_prefix
      have touched : Downloads c.conn := by
        rw [same] at earlier ⊢
        have inv := inv earlier
        exact inv.congr inv.forTcp rfl (.inl rfl) rfl (.inl ⟨rfl, rfl⟩)
      exact touched.arrival arrived
    · rintro may c c' connected inv move undisturbed
      exact (inv (undisturbed.of_prefix move.trace_prefix)).move connected undisturbed move
  exact fun isn opened => ⟨inv.tiles isn opened, inv.idle⟩

/-- The window after a packet of `length` bytes was counted instead of its payload. -/
theorem remainingClientWindow_after {tcb : Tcb} {length : UInt16} (short : length.toNat ≤ 81)
    (their : tcb.theirAcknowledgementNumber = 1) (window : tcb.clientWindow = 65535)
    (number : tcb.sequenceNumber = 1 + length.toUInt32) :
    tcb.remainingClientWindow.toNat = 65535 - length.toNat := by
  have number' : tcb.sequenceNumber.toNat = 1 + length.toNat := by
    rw [number, UInt32.toNat_add, UInt16.toNat_toUInt32]
    show (1 + length.toNat) % 2 ^ 32 = _
    omega
  have remaining : (1 + (65535 : UInt16).toUInt32 - tcb.sequenceNumber).toNat = 65535 - length.toNat := by
    rw [UInt32.toNat_sub, number']
    show (2 ^ 32 - (1 + length.toNat) + 65536) % 2 ^ 32 = _
    omega
  unfold Tcb.remainingClientWindow
  rw [their, window]
  simp only
  rw [if_pos]
  · rw [UInt32.toNat_toUInt16, remaining]
    omega
  · rw [UInt32.le_iff_toNat_le, remaining]
    exact Nat.sub_le _ _

/-- One byte is read, and carried by the segment that was handed over. -/
theorem run_downloadTiles_byte :
    ∃ t s, machine.Run t s ∧ hostRead s.conn.trace = [0x61] ∧
      dataSegments s.conn.trace = [⟨1, 1, flagAck ||| flagPsh, [0x61]⟩] ∧ DownloadTiles s.conn := by
  obtain ⟨conn, fresh⟩ := TcpConnection.fresh_exists
  obtain ⟨t, s₁, s, synAck, raw, run₁, reads, -, answer, segment, exchanged⟩ := run_reads fresh
  have run := run₁.step reads
  have trace := exchanged.trace
  have noFin : (TcpAction.forged synAck false).fin = none := by
    rw [TcpAction.fin, answer]
    rfl
  have fins : sentFins [TcpAction.opened 0, TcpAction.forged synAck false] = [] :=
    List.filterMap_cons_none noFin
  refine ⟨_, s, run, by rw [trace]; rfl, ?_, run_downloadTiles run ?_⟩
  · rw [trace, ← segment]
    rfl
  · rw [trace]
    simp only [each_cons, each_nil]
    refine ⟨trivial, rfl, ⟨fun action mem => ?_, fins⟩, trivial, trivial⟩
    simp only [List.mem_cons, List.not_mem_nil, or_false] at mem
    rcases mem with rfl | rfl <;> exact id

/-- **A gap after a packet that waited.**  The buffer of the client is full when the
first byte of the host is read, and has room when the second is: the sequence number
was advanced by the length of the first packet, headers and all. -/
theorem run_leaves_gap :
    ∃ t s, machine.Run t s ∧
      t.map Prod.snd = [.packet (segmentPacket 0 0 2 []) 0 false 0, .poll,
        .event .writable ⟨.ok none, .ok 0, .ok []⟩ 0, .packet (segmentPacket 1 1 0x10 []) 0 false 0,
        .poll, .event .readable ⟨.ok none, .ok 0, .ok [0x61]⟩ 0, .deliver,
        .event .readable ⟨.ok none, .ok 0, .ok [0x62]⟩ 0] ∧
      ¬ DownloadTiles s.conn := by
  obtain ⟨conn, fresh⟩ := TcpConnection.fresh_exists
  obtain ⟨t, s, packetizer, synAck, run, -, labels, forTcp, -, armed, same⟩ :=
    run_established fresh
  obtain ⟨_, _, _, _, rfl⟩ := fresh.eq_initial
  have tcb : s.conn.tcb = { Tcb.new with
      state := .established
      acknowledgementNumber := 1
      sequenceNumber := 1
      theirAcknowledgementNumber := 1
      clientWindow := 65535 } := by rw [same]
  have idle : s.conn.packetForClientLength = none := by
    rw [same]
    rfl
  have trace : s.conn.trace = [TcpAction.opened 0, TcpAction.forged synAck false] := by rw [same]
  have within : Ready.readable.Within s.armed := armed ▸ Ready.within_refl _
  -- the first byte finds the buffer full
  obtain ⟨full, noSpace⟩ := StreamBuffer.exists_full (16 * maxPacketLength)
  obtain ⟨client, selector, usable, noRoom⟩ :=
    @usable_exists s.conn (by rw [same]; rfl) (by rw [same]; exact forTcp) full
  obtain ⟨c₁, packetizer₁, first, read, usable₁, index₁, length₁, inflated₁, segment₁,
      ⟨fits, -⟩ | ⟨-, -, -, same₁⟩⟩ :=
    @TcpContext.Usable.read ⟨s.conn, client, selector⟩ 0 ⟨.ok none, .ok 0, .ok [0x61]⟩ [0x61] usable
      idle (by rw [tcb]; decide) (List.cons_ne_nil _ _) (by rw [TcpContext.receivable, tcb]; decide) rfl
  · change first.length ≤ client.networkToClient.remaining at fits
    rw [noRoom, noSpace, length₁, List.length_singleton] at fits
    omega
  have run₁ := run.step (Step.event within read)
  -- it is delivered
  obtain ⟨client', selector', usable', room⟩ :=
    @usable_exists c₁.conn usable₁.isOpen usable₁.forTcp (.new _)
  have waiting : c₁.conn.packetForClientLength = some (UInt16.ofNat first.length) := by
    rw [same₁]
    rfl
  have packetizer : c₁.conn.networkToClient = packetizer₁ := by
    rw [same₁]
    rfl
  have short := usable₁.forTcp.short
  rw [packetizer] at short
  obtain ⟨sent, client₂, selector₂, offered, same, keeps, ⟨-, rfl⟩ | ⟨noRoom', -⟩⟩ :=
    client'.sendRawToClient_returns (packetizer₁.inflate (UInt16.ofNat first.length)).raw usable'.clientKnown
  swap
  · rw [inflated₁, room, StreamBuffer.remaining_new, length₁, List.length_singleton] at noRoom'
    have most : 16 * maxPacketLength = 1048576 := rfl
    omega
  obtain ⟨c₂, delivered, usable₂, -, -, same₂⟩ :=
    @TcpContext.Usable.next ⟨c₁.conn, client₂, selector₂⟩ _
      ⟨usable₁.isOpen, usable₁.forTcp, keeps _ usable'.clientKnown, keeps _ usable'.known⟩ waiting
  have run₂ := run₁.step (Step.deliver (congrArg (Option.map _) waiting)
    (by rw [packetizer]; exact offered) delivered)
  have small : (UInt16.ofNat first.length).toNat ≤ 81 := by
    rw [UInt16.toNat_ofNat', length₁, List.length_singleton]
    omega
  have remaining : c₂.conn.tcb.remainingClientWindow.toNat =
      65535 - (UInt16.ofNat first.length).toNat := by
    refine remainingClientWindow_after small ?_ ?_ ?_
    · rw [same₂]
      show c₁.conn.tcb.theirAcknowledgementNumber = 1
      rw [same₁]
      show s.conn.tcb.theirAcknowledgementNumber = 1
      rw [tcb]
    · rw [same₂]
      show c₁.conn.tcb.clientWindow = 65535
      rw [same₁]
      show s.conn.tcb.clientWindow = 65535
      rw [tcb]
    · rw [same₂]
      show c₁.conn.tcb.sequenceNumber + _ = _
      rw [same₁]
      show s.conn.tcb.sequenceNumber + _ = _
      rw [tcb]
  -- the second byte is numbered after it
  obtain ⟨client₃, selector₃, usable₃, room₃⟩ :=
    @usable_exists c₂.conn usable₂.isOpen usable₂.forTcp (.new _)
  have window : 0 < c₂.conn.tcb.remainingClientWindow := by
    rw [UInt16.lt_iff_toNat_lt, remaining]
    show 0 < _
    omega
  have receivable : 1 ≤ TcpContext.receivable ⟨c₂.conn, client₃, selector₃⟩ := by
    rw [TcpContext.receivable, remaining]
    refine le_min ?_ (by decide)
    omega
  have idle₂ : c₂.conn.packetForClientLength = none := by
    rw [same₂]
    rfl
  obtain ⟨c₃, packetizer₃, second, read₃, usable₄, index₃, length₃, -, segment₃,
      ⟨-, -, same₃⟩ | ⟨noRoom₃, -⟩⟩ :=
    @TcpContext.Usable.read ⟨c₂.conn, client₃, selector₃⟩ 0 ⟨.ok none, .ok 0, .ok [0x62]⟩ [0x62]
      usable₃ idle₂ window (List.cons_ne_nil _ _) receivable rfl
  swap
  · have short₂ := usable₂.forTcp.short
    change packetizer₃.payloadIndex = c₂.conn.networkToClient.payloadIndex at index₃
    change client₃.networkToClient.remaining < second.length at noRoom₃
    rw [room₃, StreamBuffer.remaining_new, length₃, index₃, List.length_singleton] at noRoom₃
    have most : 16 * maxPacketLength = 1048576 := rfl
    omega
  refine ⟨_, _, run₂.step (Step.event within read₃), ?_, fun tiles => ?_⟩
  · simp only [List.map_append, labels]
    rfl
  have trace₃ : c₃.conn.trace = [TcpAction.opened 0, TcpAction.forged synAck false,
      TcpAction.read [0x61], TcpAction.deferred first, TcpAction.delivered first,
      TcpAction.read [0x62], TcpAction.handed second] := by
    rw [same₃]
    show c₂.conn.trace ++ _ = _
    rw [same₂]
    show (c₁.conn.trace ++ [TcpAction.delivered (c₁.conn.networkToClient.inflate _).raw]) ++ _ = _
    rw [packetizer, inflated₁, same₁]
    show ((s.conn.trace ++ _) ++ _) ++ _ = _
    rw [trace]
    rfl
  have placed := (tiles 0 (by rw [trace₃]; exact List.mem_cons_self)).1.placed
  rw [trace₃] at placed
  have gap : (Segment.ofRaw second).sequenceNumber =
      0 + 1 + UInt32.ofNat (carriedBytes [Segment.ofRaw first]).length :=
    placed [Segment.ofRaw first] _ [] rfl
  rw [segment₃, carriedBytes, List.flatMap_singleton, segment₁, List.length_singleton] at gap
  change c₂.conn.tcb.sequenceNumber = _ at gap
  rw [same₂] at gap
  change c₁.conn.tcb.sequenceNumber + _ = _ at gap
  rw [same₁] at gap
  change s.conn.tcb.sequenceNumber + _ = _ at gap
  rw [tcb] at gap
  have whole : (UInt16.ofNat first.length).toUInt32 = 1 := (UInt32.add_right_inj 1).mp gap
  have field := congrArg UInt32.toNat whole
  rw [UInt16.toNat_toUInt32, UInt16.toNat_ofNat', length₁, List.length_singleton] at field
  change _ % 2 ^ 16 = 1 at field
  have headers : 0 < packetizer₁.payloadIndex := by
    have long := (packetizer ▸ usable₁.forTcp.wellFormed.ipv4.long :
      20 ≤ packetizer₁.ipv4Header.raw.length)
    unfold Packetizer.payloadIndex Packetizer.transportIndex
    omega
  omega

end TcpLife

end ReverseTether
