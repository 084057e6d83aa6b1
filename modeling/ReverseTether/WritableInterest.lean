import ReverseTether.PolledEvents

/-!
# The interest in writing

A TCP connection waits for its socket to become writable while it connects or has data of
the client, a UDP connection while it has a datagram.  `update_interests` says so at the end
of each event, and a read that would block skips it: `process` returns the error before.
The interest is stale then if the writable half has sent the last of the data
(`Relay.Strands`), and the next writable event finds nothing to send.

Within one batch two more things matter.  An event finds what was there at the poll only if
it is the only one of its socket, and the queue of a UDP connection looks empty again when a
datagram brings its head around to its tail (`Relay.Overtakes`).

The three conditions are the three ways in which an event and the interest can part, and the
statement covers both kinds of sockets that have one; an IPv6 connection never registers for
writing.  What a spurious event of this kind leads to is looked at elsewhere, and it is not
always harmless.  `Relay.Overtakes` looks at the queue that the event of the client leaves;
`EarlierPackets` says from which datagrams it comes to look so.
-/

namespace ReverseTether

open Library Relation

/-! ## The writable half of an event -/

/-- The socket takes all that is to be sent, or nothing is while it connects. -/
def TcpConnection.Empties (conn : TcpConnection) (write : IoResult ℕ) : Prop :=
  if conn.tcb.state = .synSent then conn.clientToNetwork.isEmpty = true
  else (conn.clientToNetwork.writeTo write).2.isEmpty = true

/-- The datagram that is sent, or dropped, is the last one.  The queue is empty behind it, and so
the interest in writing should go. -/
def UdpConnection.Empties (conn : UdpConnection) (write : IoResult ℕ) : Prop :=
  ∃ result datagram queue, conn.clientToNetwork.writeTo write = .ok (result, datagram, queue) ∧
    result ≠ .error .other ∧ queue.isEmpty = true

/-- The write leaves nothing for the host, so that the connection is not writable any more. -/
def Connection.Empties : Connection → IoResult ℕ → Prop
  | .tcp conn, write => conn.Empties write
  | .udp conn, write => conn.Empties write
  | .ipv6 _, _ => False

namespace TcpContext

variable {c c₁ c' f : TcpContext}

/-- The queue and what is noted of it stay, and no connection is begun. -/
structure SameQueue (c c' : TcpContext) : Prop where
  interests : c'.conn.interests = c.conn.interests
  queue : c'.conn.clientToNetwork = c.conn.clientToNetwork
  begun : c.conn.tcb.state ≠ .synSent → c'.conn.tcb.state ≠ .synSent

theorem SameQueue.trans (first : c.SameQueue c₁) (second : c₁.SameQueue c') : c.SameQueue c' where
  interests := second.interests.trans first.interests
  queue := second.queue.trans first.queue
  begun := second.begun ∘ first.begun

theorem reply_sameQueue {flags : UInt16} (h : c.replyEmptyPacketToClient flags = .ok c') :
    c.SameQueue c' := by
  obtain ⟨packet, packetizer, sent, -, offered, same⟩ := replyEmptyPacketToClient_ok h
  exact ⟨by rw [same]; rfl, by rw [same]; rfl, by rw [same]; exact id⟩

theorem doHandleFin_sameQueue (h : c.doHandleFin = .ok c') : c.SameQueue c' := by
  have counted : c.SameQueue c.countReceivedFin := ⟨rfl, rfl, id⟩
  unfold doHandleFin at h
  simp only at h
  split at h
  · obtain ⟨c₁, forged, rest⟩ := bind_eq_ok.mp h
    cases rest
    refine (counted.trans (reply_sameQueue forged)).trans ⟨rfl, rfl, fun _ => ?_⟩
    rw [conn_countSentFin]
    simp
  · split at h
    · obtain ⟨c₁, forged, rest⟩ := bind_eq_ok.mp h
      cases rest
      exact (counted.trans (reply_sameQueue forged)).trans ⟨rfl, rfl, fun _ => by simp [withTcb]⟩
    · split at h
      · obtain ⟨c₁, forged, rest⟩ := bind_eq_ok.mp h
        cases rest
        exact (counted.trans (reply_sameQueue forged)).trans ⟨rfl, rfl, id⟩
      · cases h
        exact counted

/-- **What the writable half leaves to be sent.**  The half itself does not update the interests;
that is done at the end of the event, if the other half gets there. -/
theorem writableHalf_open {ready : Ready} {answers : SocketAnswers}
    (h : c.writableHalf ready answers = .ok (.ok (), f)) (writable : ready.isWritable = true)
    (isOpen : f.conn.closed = false) :
    f.conn.interests = c.conn.interests ∧
      (¬ c.conn.Empties answers.write → f.conn.wanted.isWritable = true) := by
  rw [writableHalf, if_pos writable] at h
  unfold processWritable at h
  split at h
  · rename_i synSent
    obtain ⟨c₁, connected, rest⟩ := bind_eq_ok.mp h
    cases rest
    unfold processConnect at connected
    rw [if_neg (not_not.mpr synSent)] at connected
    split at connected
    · obtain ⟨c₂, -, closed⟩ := bind_eq_ok.mp connected
      cases closed
      cases isOpen
    all_goals
      obtain ⟨c₂, forged, rest⟩ := bind_eq_ok.mp connected
      cases rest
      have same := reply_sameQueue forged
      refine ⟨same.interests, fun more => ?_⟩
      rw [TcpConnection.Empties, if_pos synSent, Bool.not_eq_true] at more
      refine (TcpConnection.wanted_isWritable _).mpr (.inr ?_)
      show c₂.conn.clientToNetwork.isEmpty = false
      rw [same.queue]
      exact more
  · rename_i notSynSent
    have left {c₁ : TcpContext} {written : List UInt8}
        {clientToNetwork : StreamBuffer (4 * maxPacketLength)}
        (wrote : c.conn.clientToNetwork.writeTo answers.write = (.ok written, clientToNetwork))
        (same : (c.acknowledge written clientToNetwork).SameQueue c₁) :
        c₁.conn.interests = c.conn.interests ∧
          (¬ c.conn.Empties answers.write → c₁.conn.wanted.isWritable = true) := by
      refine ⟨same.interests, fun more => ?_⟩
      rw [TcpConnection.Empties, if_neg notSynSent, wrote, Bool.not_eq_true] at more
      refine (TcpConnection.wanted_isWritable _).mpr (.inr ?_)
      rw [same.queue]
      exact more
    unfold processSend at h
    split at h
    · rename_i written clientToNetwork wrote
      split at h
      · simp only at h
        split at h
        · obtain ⟨c₁, handled, rest⟩ := bind_eq_ok.mp h
          cases rest
          exact left wrote (doHandleFin_sameQueue handled)
        · obtain ⟨c₁, forged, rest⟩ := bind_eq_ok.mp h
          cases rest
          exact left wrote (reply_sameQueue forged)
      · cases h
        cases isOpen
    · cases h
    · obtain ⟨c₁, -, rest⟩ := bind_eq_ok.mp h
      cases rest
      cases isOpen

end TcpContext

/-- What the writable half leaves to be sent. -/
theorem UdpContext.writableHalf_open {c f : UdpContext} {ready : Ready} {answers : SocketAnswers}
    (h : c.writableHalf ready answers = .ok f) (writable : ready.isWritable = true)
    (isOpen : f.conn.closed = false) :
    f.conn.interests = c.conn.interests ∧
      (¬ c.conn.Empties answers.write → f.conn.wanted.isWritable = true) := by
  rw [writableHalf, if_pos writable] at h
  obtain ⟨⟨result, datagram, queue⟩, popped, h⟩ := bind_eq_ok.mp h
  have left (only : result ≠ .error .other) :
      (c.withQueue queue).conn.interests = c.conn.interests ∧
        (¬ c.conn.Empties answers.write → (c.withQueue queue).conn.wanted.isWritable = true) := by
    refine ⟨rfl, fun more => (UdpConnection.wanted_isWritable _).mpr ?_⟩
    show queue.isEmpty = false
    rw [← Bool.not_eq_true]
    intro empty
    exact more ⟨result, datagram, queue, popped, only, empty⟩
  cases result with
  | ok _ =>
      cases h
      exact left (by simp)
  | error err =>
      cases err with
      | wouldBlock =>
          cases h
          exact left (by simp)
      | other =>
          cases h
          cases isOpen

/-- A queue that is not empty panics of its layout at most. -/
theorem DatagramBuffer.writeTo_panics {capacity : ℕ} {b : DatagramBuffer capacity}
    {write : IoResult ℕ} {panic : Panic} (stored : b.isEmpty = false)
    (h : b.writeTo write = .error panic) : panic = .outOfBounds := by
  rw [writeTo, if_neg (by rw [stored]; exact Bool.false_ne_true)] at h
  rcases bind_eq_error.mp h with stuck | ⟨⟨length, b₁⟩, -, h⟩
  · rcases bind_eq_error.mp stuck with stuck | ⟨length, -, rest⟩
    · unfold readU16 at stuck
      split at stuck
      · cases stuck
      · exact (Except.error.inj stuck).symm
    · cases rest
  · rcases bind_eq_error.mp h with stuck | ⟨source, -, rest⟩
    · unfold readSlice at stuck
      split at stuck
      · cases stuck
      · exact (Except.error.inj stuck).symm
    · cases write with
      | error _ => cases rest
      | ok n =>
          simp only at rest
          split at rest
          · cases rest
          · cases rest

/-! ## Every call -/

/-- The interest in writing is up to date: the connection is registered for it exactly while it has
something to send. -/
def Connection.WritesNoted (conn : Connection) : Prop :=
  conn.interests.isWritable = conn.wanted.isWritable

theorem ConnectionContext.Executes.event_writesNoted {c f : ConnectionContext} {ready : Ready}
    {answers : SocketAnswers} {now : Instant} (wasOpen : c.conn.isClosed = false)
    (noted : c.conn.WritesNoted) (expected : ready.isWritable = true → c.conn.wanted.isWritable = true)
    (unstranded : ready.isWritable = true → ready.isReadable = true →
      answers.read = .error .wouldBlock → ¬ c.conn.Empties answers.write)
    (executes : c.Executes (.event ready answers now) f) (isOpen : f.conn.isClosed = false) :
    f.conn.WritesNoted := by
  obtain ⟨conn, client, selector⟩ := c
  have returns := executes.returns
  cases conn with
  | tcp conn =>
      obtain ⟨connections, c', returns, same⟩ := returns.tcp
      rw [same.conn] at isOpen ⊢
      cases TcpContext.onReady_leaves wasOpen returns with
      | closed closed => exact absurd (isOpen.symm.trans closed) Bool.false_ne_true
      | current current => exact congrArg Ready.isWritable current
      | sendBlocks _ => exact noted
      | @receiveBlocks f primed half stillOpen readable blocked _ _ =>
          show f.conn.interests.isWritable = f.conn.wanted.isWritable
          cases writable : ready.isWritable with
          | false =>
              rw [TcpContext.writableHalf, if_neg (by rw [writable]; exact Bool.false_ne_true)] at half
              cases half
              exact noted
          | true =>
              obtain ⟨interests, more⟩ := TcpContext.writableHalf_open half writable stillOpen
              rw [interests, more (unstranded writable readable blocked)]
              exact noted.trans (expected writable)
  | udp conn =>
      obtain ⟨connections, c', returns, same⟩ := returns.udp
      rw [same.conn] at isOpen ⊢
      cases UdpContext.onReady_leaves wasOpen returns with
      | closed closed => exact absurd (isOpen.symm.trans closed) Bool.false_ne_true
      | current current => exact congrArg Ready.isWritable current
      | receiveBlocks half stillOpen readable blocked =>
          show c'.conn.interests.isWritable = c'.conn.wanted.isWritable
          cases writable : ready.isWritable with
          | false =>
              rw [UdpContext.writableHalf, if_neg (by rw [writable]; exact Bool.false_ne_true)] at half
              cases half
              exact noted
          | true =>
              obtain ⟨interests, more⟩ := UdpContext.writableHalf_open half writable stillOpen
              rw [interests, more (unstranded writable readable blocked)]
              exact noted.trans (expected writable)
  | ipv6 conn =>
      obtain ⟨connections, c', returns, same⟩ := returns.ipv6
      rw [same.conn]
      rfl

/-! ## Every run -/

/-- The sockets of open connections are registered for writing as their state calls for. -/
structure ClientContext.WritesRegistered (c : ClientContext) : Prop where
  tcp : ∀ (handle : Handle) conn, c.created[handle]? = some (.tcp conn) → conn.closed = false →
    ∃ interest, c.selector.registered (.connection handle) = some interest ∧
      (interest.isWritable = true ↔
        conn.tcb.state = .synSent ∨ conn.clientToNetwork.isEmpty = false)
  udp : ∀ (handle : Handle) conn, c.created[handle]? = some (.udp conn) → conn.closed = false →
    ∃ interest, c.selector.registered (.connection handle) = some interest ∧
      (interest.isWritable = true ↔ conn.clientToNetwork.isEmpty = false)

namespace Relay

variable {s s' : Relay} {label : Label} {t : List (Relay × Label)}

/-- A writable event that is handled finds something to send: the write of no bytes, after
which `process_send` closes the connection, is an answer of the socket itself, and
`write_to` is not called while empty. -/
structure FindsOutgoing (s : Relay) : Prop where
  tcp : ∀ (handle : Handle) ready batch conn, s.batch = (.connection handle, ready) :: batch →
    ready.isWritable = true → s.created[handle]? = some (.tcp conn) → conn.closed = false →
    conn.tcb.state ≠ .synSent → conn.clientToNetwork.isEmpty = false ∧
      ∀ write queue, conn.clientToNetwork.writeTo write = (.ok [], queue) → write = .ok 0
  udp : ∀ (handle : Handle) ready batch conn, s.batch = (.connection handle, ready) :: batch →
    ready.isWritable = true → s.created[handle]? = some (.udp conn) → conn.closed = false →
    conn.clientToNetwork.isEmpty = false ∧
      ∀ write, conn.clientToNetwork.writeTo write ≠ .error .datagramBufferEmpty

/-- The handled event sends the last data of a connection, whose read would block then. -/
def Strands (s : Relay) : Label → Prop
  | .handle answers => ∃ (handle : Handle) (ready : Ready) (batch : List (Source × Ready))
      (conn : Connection),
      s.batch = (.connection handle, ready) :: batch ∧ s.created[handle]? = some conn ∧
      conn.isClosed = false ∧ ready.isWritable = true ∧ ready.isReadable = true ∧
      answers.socket.read = .error .wouldBlock ∧ conn.Empties answers.socket.write
  | _ => False

/-- An event of the client makes the queue of a UDP connection look empty, while a writable
event of the connection waits in the batch. -/
def Overtakes (s : Relay) : Label → Prop
  | .handle answers => ∃ ready batch c, s.batch = (.client, ready) :: batch ∧
      s.onReady ready answers = .ok c ∧ ∃ (handle : Handle) (ready' : Ready)
        (conn conn' : UdpConnection),
        (.connection handle, ready') ∈ batch ∧ ready'.isWritable = true ∧
        s.created[handle]? = some (.udp conn) ∧ conn.clientToNetwork.isEmpty = false ∧
        c.created[handle]? = some (.udp conn') ∧ conn'.closed = false ∧
        conn'.clientToNetwork.isEmpty = true
  | _ => False

/-- What keeps the interest in writing right in a step: a poll gives each socket one event, no
stored bytes are stranded, and no event is overtaken by one of the client. -/
structure KeepsWriting (s : Relay) (label : Label) : Prop where
  once : PollsOnce label
  unstranded : ¬ s.Strands label
  behind : ¬ s.Overtakes label

/-- A writable event expects something to be sent.  It was polled for such a one, and the question
is what it finds when its turn comes. -/
def WritesExpected (conn : Connection) (ready : Ready) : Prop :=
  ready.isWritable = true → conn.wanted.isWritable = true

/-- Only a queue that is overtaken disappoints an event in the batch. -/
theorem sparesBatch_of_behind (routed : s.Routed) (behind : ¬ s.Overtakes label) :
    s.SparesBatch WritesExpected label := by
  cases label with
  | handle answers =>
      intro ready batch c next handled handle ready' conn conn' waits place isOpen expected place'
        isOpen' writable
      obtain ⟨conn₁, place₁, keeps⟩ := ClientContext.onReady_keeps routed handled place
      cases place'.symm.trans place₁
      have outgoing := expected writable
      cases conn with
      | tcp conn =>
          cases conn' with
          | tcp conn' => exact TcpConnection.Keeps.outgoing keeps outgoing
          | udp _ => exact keeps.elim
          | ipv6 _ => exact keeps.elim
      | udp conn =>
          cases conn' with
          | tcp _ => exact keeps.elim
          | udp conn' =>
              refine (UdpConnection.wanted_isWritable _).mpr ?_
              rw [← Bool.not_eq_true]
              intro empty
              exact behind ⟨ready, batch, c, next, handled, handle, ready', conn, conn', waits,
                writable, place, (UdpConnection.wanted_isWritable _).mp outgoing, place', isOpen',
                empty⟩
          | ipv6 _ => exact keeps.elim
      | ipv6 conn => exact absurd outgoing Bool.false_ne_true
  | poll _ => trivial
  | reap _ => trivial
  | release => trivial
  | rehash _ => trivial

theorem run_writesNoted (run : machine.Run t s) (met : Machine.Meets KeepsWriting t) :
    (∀ (handle : Handle) conn, s.created[handle]? = some conn → conn.isClosed = false →
      conn.WritesNoted) ∧ s.Batched WritesExpected := by
  refine run_noted_batched (fun conn current => congrArg Ready.isWritable current) ?_
    (fun s label met => met.once) (fun s label routed met => sparesBatch_of_behind routed met.behind)
    ?_ run met
  · intro conn ready noted within writable
    rw [← noted]
    exact within.2 writable
  · intro s handle ready batch conn answers f met next place wasOpen noted expected executes isOpen
    have expected : ready.isWritable = true → (s.enter conn).conn.wanted.isWritable = true := expected
    refine executes.event_writesNoted wasOpen noted expected ?_ isOpen
    intro writable readable blocked empties
    exact met.unstranded ⟨handle, ready, batch, conn, next, place, wasOpen, writable, readable,
      blocked, empties⟩

/-- **The interest in writing in every run.**  At every poll it is what the state of the
connection calls for, and a writable event finds something to send, as long as no event
strands a connection, no queue is overtaken and each socket has one event in a batch. -/
theorem run_writesRegistered (run : machine.Run t s) (met : Machine.Meets KeepsWriting t) :
    (s.batch = [] → s.WritesRegistered) ∧ s.FindsOutgoing := by
  obtain ⟨noted, batched⟩ := run_writesNoted run met
  have registered {handle : Handle} {conn : Connection} (place : s.created[handle]? = some conn)
      (isOpen : conn.isClosed = false) :
      s.selector.registered (.connection handle) = some conn.interests := by
    rw [← (run_routed run).places _ _ place]
    exact run_noted run handle conn place isOpen
  have expected {handle : Handle} {ready : Ready} {batch : List (Source × Ready)}
      {conn : Connection} (next : s.batch = (.connection handle, ready) :: batch)
      (writable : ready.isWritable = true) (place : s.created[handle]? = some conn)
      (isOpen : conn.isClosed = false) : conn.wanted.isWritable = true := by
    refine batched.expected handle ready conn ?_ place isOpen writable
    rw [next]
    exact List.mem_cons_self
  refine ⟨fun _ => ⟨fun handle conn place isOpen => ?_, fun handle conn place isOpen => ?_⟩,
    fun handle ready batch conn next writable place isOpen notSynSent => ?_,
    fun handle ready batch conn next writable place isOpen => ?_⟩
  · refine ⟨_, registered place isOpen, ?_⟩
    rw [noted handle _ place isOpen]
    exact TcpConnection.wanted_isWritable conn
  · refine ⟨_, registered place isOpen, ?_⟩
    rw [noted handle _ place isOpen]
    exact UdpConnection.wanted_isWritable conn
  · have stored : conn.clientToNetwork.isEmpty = false :=
      ((TcpConnection.wanted_isWritable conn).mp (expected next writable place isOpen)).resolve_left
        notSynSent
    refine ⟨stored, fun write queue wrote => ?_⟩
    cases write with
    | error err => cases (StreamBuffer.writeTo_error stored err).symm.trans wrote
    | ok n =>
        obtain ⟨queue', wrote', -⟩ := StreamBuffer.writeTo_ok stored n
        have nothing := Except.ok.inj (congrArg Prod.fst (wrote'.symm.trans wrote))
        rw [(List.take_eq_nil_iff.mp nothing).resolve_right (StreamBuffer.offered_ne_nil stored)]
  · have stored : conn.clientToNetwork.isEmpty = false :=
      (UdpConnection.wanted_isWritable conn).mp (expected next writable place isOpen)
    refine ⟨stored, fun write panics => ?_⟩
    cases DatagramBuffer.writeTo_panics stored panics

/-- A datagram waits, and the socket is writable. -/
theorem run_writesRegistered_queued : ∃ t s conn, machine.Run t s ∧
    s.batch = [(.connection 0, .writable)] ∧ s.created[0]? = some (.udp conn) ∧
    conn.closed = false ∧ (s.batch = [] → s.WritesRegistered) ∧ s.FindsOutgoing := by
  obtain ⟨t, s, conn, run, before, idle, place, isOpen, -, -, -, -, registered⟩ := run_queued
  have polled : Step s (.poll [(.connection 0, .writable)])
      { s with batch := [(.connection 0, .writable)] } := by
    refine .poll idle fun event mem => ?_
    rw [List.mem_singleton.mp mem]
    exact ⟨_, registered, by decide⟩
  have met : Machine.Meets KeepsWriting (t ++ [(s, .poll [(.connection 0, .writable)])]) := by
    rw [Machine.meets_append, Machine.meets_singleton]
    refine ⟨?_, List.nodup_singleton _, fun stranded => stranded, fun overtaken => overtaken⟩
    rintro ⟨s, label⟩ mem
    obtain ⟨created, polls⟩ := before _ mem
    have created : s.created = [] := created
    cases label with
    | poll events =>
        obtain ⟨event, rfl⟩ := polls events rfl
        exact ⟨List.nodup_singleton _, fun stranded => stranded, fun overtaken => overtaken⟩
    | handle answers =>
        refine ⟨trivial, ?_, ?_⟩
        · rintro ⟨handle, ready, batch, conn, -, place, -⟩
          rw [created] at place
          cases place
        · rintro ⟨ready, batch, c, -, -, handle, ready', conn, conn', -, -, place, -⟩
          rw [created] at place
          cases place
    | reap _ => exact ⟨trivial, fun stranded => stranded, fun overtaken => overtaken⟩
    | release => exact ⟨trivial, fun stranded => stranded, fun overtaken => overtaken⟩
    | rehash _ => exact ⟨trivial, fun stranded => stranded, fun overtaken => overtaken⟩
  have run' := run.step polled
  exact ⟨_, _, conn, run', rfl, place, isOpen, run_writesRegistered run' met⟩

/-- The datagram is sent, and a read in the same event would block: the connection stays
registered for writing. -/
theorem not_run_writesRegistered : ¬ ∀ t s, machine.Run t s →
    (s.batch = [] → s.WritesRegistered) ∧ s.FindsOutgoing := by
  intro all
  obtain ⟨t, s, conn, run, -, idle, place, isOpen, here, stored, tail, blocks, registered⟩ :=
    run_queued
  let ready : Ready := ⟨true, true⟩
  let answers : EventAnswers :=
    ⟨⟨.ok none, .ok 1, .error .wouldBlock⟩, 0, fun _ => ⟨0, false, 0, .ok (), .ok 0⟩⟩
  obtain ⟨result, queue, popped, -, head', tail', took⟩ :=
    DatagramBuffer.writeTo_block stored blocks (.ok 1)
  have done : result = .ok () := took 1 rfl le_rfl
  subst done
  have sent : queue.isEmpty = true := by
    have last : conn.clientToNetwork.tail + 2 + [(0x61 : UInt8)].length =
        conn.clientToNetwork.head := by
      cases blocks with
      | cons _ _ _ _ _ rest => exact rest.eq_of_nil
    rw [DatagramBuffer.isEmpty, decide_eq_true_iff, head', tail', last, ← last, tail]
    rfl
  let touched : UdpContext := ⟨conn.touch 0, s.client, s.selector⟩
  have half : touched.writableHalf ready answers.socket = .ok (touched.withQueue queue) :=
    bind_eq_ok.mpr ⟨_, popped, rfl⟩
  have happened : UdpContext.onReady ⟨conn, s.client, s.selector⟩ ready answers.socket 0 =
      .ok (touched.withQueue queue) :=
    UdpContext.onReady_readBlocks isOpen half isOpen rfl rfl
  have handled : s.dispatch (.connection 0) ready answers =
      .ok (s.leave (touched.withQueue queue).asConnection) := by
    simp only [ClientContext.dispatch, place]
    exact bind_eq_ok.mpr ⟨_, bind_eq_ok.mpr ⟨_, happened, rfl⟩, rfl⟩
  have run' := run_event run idle registered (by decide) handled
  have place' := @ClientContext.leave_place s.toClientContext
    (touched.withQueue queue).asConnection 0 _ place here
  obtain ⟨interest, same, iff⟩ := ((all _ _ run').1 rfl).udp 0 _ place' isOpen
  cases registered.symm.trans same
  exact absurd (sent.symm.trans (iff.mp rfl)) (by decide)

end Relay

end ReverseTether
