import ReverseTether.ClientWindow
import ReverseTether.PolledEvents
import ReverseTether.RelayProgress

/-!
# What a readable event finds

`process_receive` asserts that no packet waits and that the window of the client is open.
Nothing in `process` asks for it: `may_read` is asked when the interests are updated, and an
event that was polled is handled all the same.  That no packet waits is safe
(`TcpConnection.Keeps`), since only events defer packets.  The window is not, in two ways:
a packet of the client that is handled earlier in the batch closes it
(`Relay.ClosesWindow`), or the writable half of the event itself sends a FIN that fills it
(`Relay.FillsWindow`).

The batch is what separates the poll from the handler.  Events are polled together and handled
one after the other, and an earlier one of them may change what a later one was asked for
under; nothing in the loop asks again, so an assertion about the state at the time of the poll
may fail at the time of the event.

The theorem is about the two assertions together, and its conditions are about the events that
break the second one.  `not_run_receives` is the first of the two ways, with a client that
lowers its window in the same batch in which the host sends.  `EarlierPackets` says the first
of them again by the packets of the client and the state before they are handled.
-/

namespace ReverseTether

open Library Relation

/-! ## The window -/

/-- What a readable event expects of its connection: it is connected, no packet waits, and the
client has room for a byte. -/
structure TcpConnection.Readable (conn : TcpConnection) : Prop where
  connected : conn.tcb.state.isConnected = true
  idle : conn.packetForClientLength = none
  window : 0 < conn.tcb.remainingClientWindow

/-- The FIN of the client is answered with another once `write` has taken all its data. -/
def TcpConnection.AnswersFin (conn : TcpConnection) (write : IoResult ℕ) : Prop :=
  conn.tcb.state = .established ∧ conn.tcb.finReceived = true ∧
    (conn.clientToNetwork.writeTo write).2.isEmpty = true

theorem TcpConnection.readable_of_wanted {conn : TcpConnection}
    (wanted : conn.wanted.isReadable = true) : conn.Readable := by
  unfold TcpConnection.wanted at wanted
  split at wanted
  · cases wanted
  · unfold mayRead at wanted
    split at wanted
    · cases wanted
    · rename_i connected
      rw [Bool.or_eq_true, not_or, Bool.not_eq_true', Bool.not_eq_false] at connected
      split at wanted
      · cases wanted
      · rename_i idle
        exact ⟨connected.1, Option.not_isSome_iff_eq_none.mp idle, of_decide_eq_true wanted⟩

/-- A FIN takes one byte of the window. -/
theorem Tcb.remainingClientWindow_countSentFin {tcb tcb' : Tcb}
    (sent : tcb'.sequenceNumber = tcb.sequenceNumber + 1)
    (acked : tcb'.theirAcknowledgementNumber = tcb.theirAcknowledgementNumber)
    (window : tcb'.clientWindow = tcb.clientWindow) (room : 0 < tcb.remainingClientWindow) :
    tcb'.remainingClientWindow.toNat = tcb.remainingClientWindow.toNat - 1 := by
  have before := tcb.toNat_remainingClientWindow
  have small := tcb.clientWindow.toNat_lt
  have room : 0 < tcb.remainingClientWindow.toNat := UInt16.lt_iff_toNat_lt.mp room
  have flight : tcb'.inFlight = tcb.inFlight + 1 := by
    have ack := tcb.theirAcknowledgementNumber.toNat_lt
    have next := tcb.sequenceNumber.toNat_lt
    have short : tcb.inFlight + 1 < 2 ^ 32 := by omega
    simp only [inFlight, sent, acked, UInt32.toNat_sub, UInt32.toNat_add, UInt32.toNat_one] at short ⊢
    omega
  rw [toNat_remainingClientWindow, flight, window]
  omega

namespace TcpContext

variable {c c₁ c' f : TcpContext}

/-- The window and a waiting packet stay, and the state stays connected.  Most pieces of a handler
are of this kind; those that are not are the FIN and the packets of the client. -/
structure SameWindow (c c' : TcpContext) : Prop where
  connected : c.conn.tcb.state.isConnected = true → c'.conn.tcb.state.isConnected = true
  idle : c'.conn.packetForClientLength = c.conn.packetForClientLength
  window : c'.conn.tcb.remainingClientWindow = c.conn.tcb.remainingClientWindow

theorem SameWindow.trans (first : c.SameWindow c₁) (second : c₁.SameWindow c') :
    c.SameWindow c' where
  connected := second.connected ∘ first.connected
  idle := second.idle.trans first.idle
  window := second.window.trans first.window

theorem SameWindow.readable (same : c.SameWindow c') (readable : c.conn.Readable) :
    c'.conn.Readable :=
  ⟨same.connected readable.connected, same.idle.trans readable.idle, same.window ▸ readable.window⟩

theorem reply_sameWindow {flags : UInt16} (h : c.replyEmptyPacketToClient flags = .ok c') :
    c.SameWindow c' ∧ c'.conn.tcb = c.conn.tcb := by
  obtain ⟨packet, packetizer, sent, -, offered, same⟩ := replyEmptyPacketToClient_ok h
  rw [same]
  exact ⟨⟨by rw [same]; exact id, by rw [same]; rfl, by rw [same]; rfl⟩, rfl⟩

/-- What is left of the window when a FIN of the client is handled. -/
theorem doHandleFin_window (h : c.doHandleFin = .ok c') (readable : c.conn.Readable) :
    c'.conn.tcb.state.isConnected = true ∧ c'.conn.packetForClientLength = none ∧
      (c.conn.tcb.state = .established ∧ c.conn.tcb.remainingClientWindow = 1 ∨
        0 < c'.conn.tcb.remainingClientWindow) := by
  have counted : c.SameWindow c.countReceivedFin := ⟨id, rfl, rfl⟩
  have kept {c₁ : TcpContext} (same : c.countReceivedFin.SameWindow c₁) :
      c₁.conn.tcb.state.isConnected = true ∧ c₁.conn.packetForClientLength = none ∧
        (c.conn.tcb.state = .established ∧ c.conn.tcb.remainingClientWindow = 1 ∨
          0 < c₁.conn.tcb.remainingClientWindow) := by
    obtain ⟨connected, idle, window⟩ := (counted.trans same).readable readable
    exact ⟨connected, idle, .inr window⟩
  unfold doHandleFin at h
  simp only at h
  split at h
  · -- the FIN that answers is a byte of the window
    rename_i established
    obtain ⟨c₁, forged, rest⟩ := bind_eq_ok.mp h
    cases rest
    obtain ⟨same, tcb⟩ := reply_sameWindow forged
    obtain ⟨connected, idle, window⟩ := (counted.trans same).readable readable
    rw [conn_countSentFin]
    refine ⟨rfl, idle, ?_⟩
    by_cases last : c.conn.tcb.remainingClientWindow = 1
    · exact .inl ⟨established, last⟩
    · refine .inr (UInt16.lt_iff_toNat_lt.mpr ?_)
      let sent : Tcb := { c₁.conn.tcb with
        finSequenceNumber := some c₁.conn.tcb.sequenceNumber
        sequenceNumber := c₁.conn.tcb.sequenceNumber + 1
        state := .lastAck }
      have left : sent.remainingClientWindow.toNat = c₁.conn.tcb.remainingClientWindow.toNat - 1 :=
        Tcb.remainingClientWindow_countSentFin rfl rfl rfl window
      refine lt_of_lt_of_eq ?_ left.symm
      have whole : c₁.conn.tcb.remainingClientWindow.toNat = c.conn.tcb.remainingClientWindow.toNat :=
        congrArg UInt16.toNat (counted.trans same).window
      have some := UInt16.lt_iff_toNat_lt.mp readable.window
      have more : c.conn.tcb.remainingClientWindow.toNat ≠ 1 := fun one =>
        last (UInt16.toNat_inj.mp one)
      rw [UInt16.toNat_zero] at some
      rw [whole, UInt16.toNat_zero]
      omega
  · split at h
    · obtain ⟨c₁, forged, rest⟩ := bind_eq_ok.mp h
      cases rest
      obtain ⟨same, -⟩ := reply_sameWindow forged
      exact kept (same.trans ⟨fun _ => rfl, rfl, rfl⟩)
    · split at h
      · obtain ⟨c₁, forged, rest⟩ := bind_eq_ok.mp h
        cases rest
        obtain ⟨same, -⟩ := reply_sameWindow forged
        exact kept (same.trans ⟨id, rfl, rfl⟩)
      · cases h
        exact kept ⟨id, rfl, rfl⟩

/-- **What the writable half leaves to the readable one.**  Only a FIN that fills the window is in
the way.  The state stays connected and nothing comes to wait, so of the two assertions the one
about the packet cannot fail here. -/
theorem writableHalf_window {ready : Ready} {answers : SocketAnswers}
    (h : c.writableHalf ready answers = .ok (.ok (), f)) (readable : c.conn.Readable) :
    f.conn.tcb.state.isConnected = true ∧ f.conn.packetForClientLength = none ∧
      (ready.isWritable = true ∧ c.conn.AnswersFin answers.write ∧
          c.conn.tcb.remainingClientWindow = 1 ∨
        0 < f.conn.tcb.remainingClientWindow) := by
  have kept (same : c.SameWindow f) : f.conn.tcb.state.isConnected = true ∧
      f.conn.packetForClientLength = none ∧
        (ready.isWritable = true ∧ c.conn.AnswersFin answers.write ∧
            c.conn.tcb.remainingClientWindow = 1 ∨
          0 < f.conn.tcb.remainingClientWindow) := by
    obtain ⟨connected, idle, window⟩ := same.readable readable
    exact ⟨connected, idle, .inr window⟩
  unfold writableHalf at h
  split at h
  · rename_i writable
    unfold processWritable at h
    split at h
    · rename_i synSent
      have connected := readable.connected
      rw [synSent] at connected
      cases connected
    · unfold processSend at h
      split at h
      · rename_i written clientToNetwork wrote
        have acknowledged : c.SameWindow (c.acknowledge written clientToNetwork) := ⟨id, rfl, rfl⟩
        split at h
        · simp only at h
          split at h
          · rename_i pending
            obtain ⟨c₁, handled, rest⟩ := bind_eq_ok.mp h
            cases rest
            obtain ⟨connected, idle, window⟩ :=
              doHandleFin_window handled (acknowledged.readable readable)
            refine ⟨connected, idle, window.imp_left ?_⟩
            rintro ⟨established, last⟩
            refine ⟨writable, ⟨established, pending.1, ?_⟩, last⟩
            rw [wrote]
            exact pending.2
          · obtain ⟨c₁, forged, rest⟩ := bind_eq_ok.mp h
            cases rest
            exact kept (acknowledged.trans (reply_sameWindow forged).1)
        · cases h
          exact kept ⟨id, rfl, rfl⟩
      · cases h
      · obtain ⟨c₁, forged, rest⟩ := bind_eq_ok.mp h
        cases rest
        exact kept ((reply_sameWindow forged).1.trans ⟨id, rfl, rfl⟩)
  · cases h
    exact kept ⟨id, rfl, rfl⟩

/-- **`process` enters `process_receive`**, in the state `f`: the event is readable, and the writable
half has neither failed nor closed the connection. -/
structure EntersReceive (c : TcpContext) (ready : Ready) (answers : SocketAnswers) (now : Instant)
    (f : TcpContext) : Prop where
  wasOpen : c.conn.closed = false
  readable : ready.isReadable = true
  half : TcpContext.writableHalf { c with conn := c.conn.touch now } ready answers = .ok (.ok (), f)
  isOpen : f.conn.closed = false

/-- A panic there is one of the whole handler. -/
theorem EntersReceive.panics {ready : Ready} {answers : SocketAnswers} {now : Instant}
    {panic : Panic} (enters : c.EntersReceive ready answers now f)
    (panics : f.processReceive answers.read = .error panic) :
    c.onReady ready answers now = .error panic := by
  have both : TcpContext.processReady { c with conn := c.conn.touch now } ready answers =
      .error panic := by
    refine bind_eq_error.mpr (.inr ⟨_, enters.half, ?_⟩)
    refine bind_eq_error.mpr (.inl ?_)
    rw [if_pos ⟨enters.isOpen, enters.readable⟩]
    exact panics
  refine bind_eq_error.mpr (.inl ?_)
  rw [process, if_neg (by rw [enters.wasOpen]; exact Bool.false_ne_true)]
  refine bind_eq_error.mpr (.inl ?_)
  rw [if_pos (.inl enters.readable)]
  exact both

end TcpContext

/-! ## Every run -/

/-- An open connection that is registered for reading can be read.  It is what the update of the
interests leaves behind. -/
def Connection.ReadsNoted (conn : Connection) : Prop :=
  conn.interests.isReadable = true → ∀ tcp, conn = .tcp tcp → tcp.Readable

theorem Connection.readsNoted_of_current {conn : Connection} (current : conn.interests = conn.wanted) :
    conn.ReadsNoted := by
  rintro readable tcp rfl
  rw [current] at readable
  exact TcpConnection.readable_of_wanted readable

/-- A readable event expects a connection that can be read.  It was polled for such a one, and the
question is what it finds when its turn comes. -/
def ReadsExpected (conn : Connection) (ready : Ready) : Prop :=
  ready.isReadable = true → ∀ tcp, conn = .tcp tcp → tcp.Readable

/-- A read that would block has found both assertions true. -/
theorem ConnectionContext.Executes.event_readsNoted {c f : ConnectionContext} {ready : Ready}
    {answers : SocketAnswers} {now : Instant} (wasOpen : c.conn.isClosed = false)
    (noted : c.conn.ReadsNoted) (expected : ReadsExpected c.conn ready)
    (executes : c.Executes (.event ready answers now) f) (isOpen : f.conn.isClosed = false) :
    f.conn.ReadsNoted := by
  obtain ⟨conn, client, selector⟩ := c
  have returns := executes.returns
  cases conn with
  | tcp conn =>
      obtain ⟨connections, c', returns, same⟩ := returns.tcp
      rw [same.conn] at isOpen ⊢
      cases TcpContext.onReady_leaves wasOpen returns with
      | closed closed => exact absurd (isOpen.symm.trans closed) Bool.false_ne_true
      | current current => exact Connection.readsNoted_of_current current
      | sendBlocks _ =>
          rintro readable tcp ⟨⟩
          have before : conn.Readable := noted readable conn rfl
          exact ⟨before.connected, before.idle, before.window⟩
      | receiveBlocks half _ readable _ idle window =>
          rintro - tcp ⟨⟩
          have before : conn.Readable := expected readable conn rfl
          exact ⟨(TcpContext.writableHalf_window half ⟨before.connected, before.idle,
            before.window⟩).1, idle, window⟩
  | udp conn =>
      obtain ⟨connections, c', returns, same⟩ := returns.udp
      rw [same.conn]
      rintro - tcp ⟨⟩
  | ipv6 conn =>
      obtain ⟨connections, c', returns, same⟩ := returns.ipv6
      rw [same.conn]
      rintro - tcp ⟨⟩

namespace Relay

variable {s s' : Relay} {label : Label} {t : List (Relay × Label)}

/-- An event of the client closes the window of an open connection, while a readable event of
it waits in the batch. -/
def ClosesWindow (s : Relay) : Label → Prop
  | .handle answers => ∃ ready batch c, s.batch = (.client, ready) :: batch ∧
      s.onReady ready answers = .ok c ∧ ∃ (handle : Handle) (ready' : Ready)
        (conn conn' : TcpConnection),
        (.connection handle, ready') ∈ batch ∧ ready'.isReadable = true ∧
        s.created[handle]? = some (.tcp conn) ∧ 0 < conn.tcb.remainingClientWindow ∧
        c.created[handle]? = some (.tcp conn') ∧ conn'.closed = false ∧
        ¬ 0 < conn'.tcb.remainingClientWindow
  | _ => False

/-- The handled event is readable, and its writable half answers the FIN of the client when
the window has one byte left. -/
def FillsWindow (s : Relay) : Label → Prop
  | .handle answers => ∃ (handle : Handle) (ready : Ready) (batch : List (Source × Ready))
      (conn : TcpConnection),
      s.batch = (.connection handle, ready) :: batch ∧ s.created[handle]? = some (.tcp conn) ∧
      ready.isReadable = true ∧ ready.isWritable = true ∧ conn.AnswersFin answers.socket.write ∧
      conn.tcb.remainingClientWindow = 1
  | _ => False

/-- What keeps windows open for the reads that were polled: one event for each socket, and no
packet behind the poll that closes a window or fills it. -/
structure KeepsWindow (s : Relay) (label : Label) : Prop where
  once : PollsOnce label
  unclosed : ¬ s.ClosesWindow label
  unfilled : ¬ s.FillsWindow label

/-- The handler of the event at hand enters `process_receive`, in the state `f`. -/
def EntersReceive (s : Relay) (answers : EventAnswers) (f : TcpContext) : Prop :=
  ∃ (handle : Handle) (ready : Ready) (batch : List (Source × Ready)) (conn : TcpConnection),
    s.batch = (.connection handle, ready) :: batch ∧ s.created[handle]? = some (.tcp conn) ∧
    TcpContext.EntersReceive ⟨conn, s.client, s.selector⟩ ready answers.socket answers.now f

/-- A panic of `process_receive` is one of the relay. -/
theorem EntersReceive.panics {answers : EventAnswers} {f : TcpContext} {panic : Panic}
    (enters : s.EntersReceive answers f)
    (panics : f.processReceive answers.socket.read = .error panic) :
    ∃ source ready batch, s.batch = (source, ready) :: batch ∧
      s.dispatch source ready answers = .error panic := by
  obtain ⟨handle, ready, batch, conn, next, place, enters⟩ := enters
  refine ⟨_, ready, batch, next, ?_⟩
  simp only [ClientContext.dispatch, place]
  exact bind_eq_error.mpr (.inl (bind_eq_error.mpr (.inl (enters.panics panics))))

theorem sparesBatch_of_unclosed (routed : s.Routed) (unclosed : ¬ s.ClosesWindow label) :
    s.SparesBatch ReadsExpected label := by
  cases label with
  | handle answers =>
      rintro ready batch c next handled handle ready' conn conn' waits place isOpen expected place'
        isOpen' readable tcp rfl
      obtain ⟨conn₁, place₁, keeps⟩ := ClientContext.onReady_keeps routed handled place
      cases place'.symm.trans place₁
      cases conn with
      | tcp conn =>
          have before := expected readable conn rfl
          have keeps : conn.Keeps tcp := keeps
          refine ⟨keeps.connected before.connected, keeps.idle before.idle, ?_⟩
          by_contra shut
          exact unclosed ⟨ready, batch, c, next, handled, handle, ready', conn, tcp, waits, readable,
            place, before.window, place', isOpen', shut⟩
      | udp _ => exact keeps.elim
      | ipv6 _ => exact keeps.elim
  | poll _ => trivial
  | reap _ => trivial
  | release => trivial
  | rehash _ => trivial

theorem run_readsNoted (run : machine.Run t s) (met : Machine.Meets KeepsWindow t) :
    (∀ (handle : Handle) conn, s.created[handle]? = some conn → conn.isClosed = false →
      conn.ReadsNoted) ∧ s.Batched ReadsExpected :=
  run_noted_batched (fun _ => Connection.readsNoted_of_current)
    (fun _ _ noted within readable => noted (within.1 readable)) (fun _ _ met => met.once)
    (fun _ _ routed met => sparesBatch_of_unclosed routed met.unclosed)
    (fun _ _ _ _ _ _ _ _ _ _ wasOpen noted expected executes isOpen =>
      executes.event_readsNoted wasOpen noted expected isOpen) run met

/-- **The assertions of `process_receive` in every run.**  No packet waits and the window is
open where it is entered, as long as no event of the client closes the window behind a
readable event, no FIN fills it within one, and each socket has one event in a batch. -/
theorem run_receives (run : machine.Run t s) (met : Machine.Meets KeepsWindow t)
    {answers : EventAnswers} (now : KeepsWindow s (.handle answers)) {f : TcpContext}
    (enters : s.EntersReceive answers f) :
    f.conn.packetForClientLength = none ∧ 0 < f.conn.tcb.remainingClientWindow := by
  obtain ⟨handle, ready, batch, conn, next, place, enters⟩ := enters
  have mem : (.connection handle, ready) ∈ s.batch := by
    rw [next]
    exact List.mem_cons_self
  obtain ⟨connected, idle, window⟩ := (run_readsNoted run met).2.expected handle ready _ mem place
    enters.wasOpen enters.readable conn rfl
  obtain ⟨-, idle, filled | window⟩ :=
    TcpContext.writableHalf_window enters.half ⟨connected, idle, window⟩
  · obtain ⟨writable, answersFin, last⟩ := filled
    exact absurd ⟨handle, ready, batch, conn, next, place, enters.readable, writable, answersFin,
      last⟩ now.unfilled
  · exact ⟨idle, window⟩

theorem keepsWindow_of_solo (solo : Solo s label) : KeepsWindow s label := by
  cases label with
  | poll events =>
      obtain ⟨event, rfl⟩ := solo
      exact ⟨List.nodup_singleton _, id, id⟩
  | handle answers =>
      obtain ⟨source, ready, alone, one⟩ := solo
      refine ⟨trivial, ?_, ?_⟩
      · rintro ⟨ready', batch, c, next, -, handle, ready'', conn, conn', waits, -⟩
        cases alone.symm.trans next
        cases waits
      · rintro ⟨handle, ready', batch, conn, next, -, readable, writable, -⟩
        cases alone.symm.trans next
        exact one ⟨readable, writable⟩
  | reap _ => exact ⟨trivial, id, id⟩
  | release => exact ⟨trivial, id, id⟩
  | rehash _ => exact ⟨trivial, id, id⟩

/-- A flow that is established and can be read. -/
theorem run_readable : ∃ t s conn, SoloRun t s ∧ s.batch = [] ∧ s.AtRest ∧
    s.created[0]? = some (.tcp conn) ∧ conn.closed = false ∧ conn.networkToClient.ForTcp ∧
    conn.interests = .readable ∧ conn.id = segmentId ∧ conn.expectedPacket = 1 ∧
    conn.tcb = { Tcb.new with
      state := .established
      acknowledgementNumber := 1
      sequenceNumber := 1
      theirAcknowledgementNumber := 1
      clientWindow := 65535 } := by
  obtain ⟨t, s, run, idle, rest, identified⟩ := run_identified 0
  have created : s.created = [] := congrArg ClientContext.created identified
  have unknown : s.connectionOf segmentId = none := by
    rw [identified]
    rfl
  obtain ⟨t₁, s₁, conn, run₁, idle₁, rest₁, -, created₁, forTcp, p, synAck, -, same⟩ :=
    run_established run idle rest unknown
  rw [created] at created₁
  refine ⟨t₁, s₁, conn, run₁, idle₁, rest₁, by rw [created₁]; rfl, ?_, forTcp, ?_, ?_, ?_, ?_⟩
  all_goals
    subst same
    rfl

/-- The polled sockets of that flow. -/
theorem run_registered_readable {conn : TcpConnection} (run : SoloRun t s)
    (place : s.created[0]? = some (.tcp conn)) (isOpen : conn.closed = false)
    (interests : conn.interests = .readable) :
    s.selector.registered (.connection 0) = some .readable := by
  have noted : s.selector.registered (.connection conn.handle) = some conn.interests :=
    run_noted run.run _ _ place isOpen
  have here : conn.handle = 0 := (run_routed run.run).places _ _ place
  rw [here, interests] at noted
  exact noted

/-- The event of the connection comes alone. -/
theorem run_receives_alone : ∃ t s answers f, machine.Run t s ∧ s.EntersReceive answers f ∧
    f.conn.packetForClientLength = none ∧ 0 < f.conn.tcb.remainingClientWindow := by
  obtain ⟨t, s, conn, run, idle, -, place, isOpen, -, interests, -⟩ := run_readable
  let event : Source × Ready := (.connection 0, .readable)
  let answers : EventAnswers :=
    ⟨⟨.ok none, .ok 0, .ok []⟩, 0, fun _ => ⟨0, false, 0, .ok (), .ok 0⟩⟩
  have polled : Step s (.poll [event]) { s with batch := [event] } := by
    refine .poll idle fun event mem => ?_
    rw [List.mem_singleton.mp mem]
    exact ⟨_, run_registered_readable run place isOpen interests, Ready.within_refl _⟩
  have run' := run.run.step polled
  have met : Machine.Meets KeepsWindow (t ++ [(s, .poll [event])]) := by
    rw [Machine.meets_append, Machine.meets_singleton]
    exact ⟨fun p mem => keepsWindow_of_solo (run.solo p mem), keepsWindow_of_solo ⟨event, rfl⟩⟩
  have now : KeepsWindow { s with batch := [event] } (.handle answers) :=
    keepsWindow_of_solo ⟨_, _, rfl, by decide⟩
  have enters : EntersReceive { s with batch := [event] } answers
      ⟨conn.touch 0, s.client, s.selector⟩ :=
    ⟨0, .readable, [], conn, rfl, place, isOpen, rfl, rfl, isOpen⟩
  exact ⟨_, _, answers, _, run', enters, run_receives run' met now enters⟩

/-- The bytes of an ACK of the flow of `segmentBytes` that closes the window. -/
def closingBytes : List UInt8 := ((segmentBytes 1 1 0x10 []).set 34 0).set 35 0

/-- What `parse` makes of them. -/
def closingPacket : Ipv4Packet where
  raw := closingBytes
  ipv4HeaderData := .ofRaw closingBytes
  transportHeaderData := some (.tcp (.ofRaw (closingBytes.drop 20)))

/-- Their TCP header. -/
def closingHeader : TcpHeader := ⟨closingBytes.drop 20, .ofRaw (closingBytes.drop 20)⟩

/-- The client and the host have something to read in one batch, and what the client sent
closes the window. -/
theorem not_run_receives : ¬ ∀ t s answers f, machine.Run t s → s.EntersReceive answers f →
    f.conn.packetForClientLength = none ∧ 0 < f.conn.tcb.remainingClientWindow := by
  intro all
  obtain ⟨t, s, conn, run, idle, rest, place, isOpen, forTcp, interests, flow, expected, tcb⟩ :=
    run_readable
  let events : List (Source × Ready) := [(.client, .readable), (.connection 0, .readable)]
  have polled : Step s (.poll events) { s with batch := events } := by
    refine .poll idle fun event mem => ?_
    rcases List.mem_pair.mp mem with rfl | rfl
    · exact ⟨_, rest.registered, rest.settled.2 ▸ s.client.readable_within_wanted⟩
    · exact ⟨_, run_registered_readable run place isOpen interests, Ready.within_refl _⟩
  -- the packet is taken
  let answer : PacketAnswers := ⟨0, false, 0, .ok (), .ok 0⟩
  let answers : EventAnswers := ⟨⟨.ok none, .ok 0, .ok closingBytes⟩, 0, fun _ => answer⟩
  let heard : TcpConnection := { conn.touch 0 with tcb := conn.tcb.hears closingHeader.data }
  have sends := @sendToNetwork_segment s (· = heard.settled) closingPacket answer 0 conn
    (run_routed run.run) (by rw [flow]; rfl) rfl place isOpen
    (fun client => by
      obtain ⟨c, sent, -, -, -, same⟩ := @TcpContext.Usable.hear ⟨conn, client, s.selector⟩ 0 0
        closingPacket closingHeader (usable run rest place isOpen forTcp client) rfl
        (by rw [tcb]; rintro ⟨⟩) (by decide) (by rw [expected]; rfl) (by decide)
        (by decide) (by decide) (by rw [tcb]; rfl) (.inr (by decide))
      exact ⟨c, sent, same⟩)
    (by rintro _ rfl; exact ⟨rfl, isOpen⟩)
  have front : packets.front closingBytes =
      .item (.routed (.ipv4 closingPacket)) closingBytes.length := rfl
  have read : answers.socket.read = .ok closingBytes := rfl
  obtain ⟨buffer, buffer', c, sent, handled, -⟩ := rest.receives (run_routed run.run) (by decide)
    front read fun buffer => ⟨_, (sends buffer).choose_spec.1⟩
  obtain ⟨c', sent', _, rfl, created⟩ := sends buffer
  cases sent.symm.trans sent'
  have ran : Step { s with batch := events } (.handle answers)
      { s with
        toClientContext := c.withInput buffer'
        batch := [(.connection 0, .readable)] } := .handle rfl handled
  have place' : c.created[0]? = some (.tcp heard.settled) := by
    rw [created]
    exact List.getElem?_set_self (List.getElem?_eq_some_iff.mp place).1
  have run' := (run.run.step polled).step ran
  -- the read of the host comes next
  have window := (all _ _ answers ⟨heard.settled.touch 0, (c.withInput buffer').client,
    (c.withInput buffer').selector⟩ run' ⟨0, .readable, [], heard.settled, rfl, place', isOpen, rfl,
    rfl, isOpen⟩).2
  have shut : ¬ 0 < (conn.tcb.hears closingHeader.data).remainingClientWindow := by
    rw [tcb]
    decide
  exact shut window

end Relay

end ReverseTether
