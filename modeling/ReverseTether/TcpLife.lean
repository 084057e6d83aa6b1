import ReverseTether.Library.History
import ReverseTether.TcpMoves

/-!
# The life of a TCP connection

A connection is created from the first packet of its flow.  From then on packets
of the client, readiness events, the reaper and the deliveries of its waiting
packet come in any order, and each finds the client and the selector in any
state: whatever the other connections did to them.

What the poller promises is that an event is ready for nothing but what the
connection was registered for when it was last polled.  `armed` is that interest.

The streams the connection joins are read off its trace.

The machine is an over-approximation of what happens to a connection in the relay: the client
may be in any state that the types allow, with any room in its buffer.  What holds of every
run of it holds in the relay, and what fails in one of its runs has to be shown in the relay
again, with a client that can be there.

The history is what the invariants speak about.  A connection appends to it what it does and
never reads it, so that two connections with different histories and the same record behave
alike.
-/

namespace ReverseTether

open Library Relation

/-! ## Reading the trace -/

namespace TcpAction

/-- The bytes the host socket took in this action. -/
def written : TcpAction → List UInt8
  | .wrote data => data
  | _ => []

/-- The bytes read from the host socket in this action. -/
def received : TcpAction → List UInt8
  | .read data => data
  | _ => []

/-- The data segment that reached the client in this action. -/
def segment : TcpAction → Option Segment
  | .handed raw => some (Segment.ofRaw raw)
  | .delivered raw => some (Segment.ofRaw raw)
  | _ => none

/-- The FIN sent in this action. -/
def fin : TcpAction → Option Segment
  | .forged raw _ => if (Segment.ofRaw raw).flags &&& flagFin ≠ 0 then some (Segment.ofRaw raw) else none
  | _ => none

end TcpAction

/-- All the bytes the host socket took. -/
def hostWritten (trace : List TcpAction) : List UInt8 := trace.flatMap TcpAction.written

/-- All the bytes read from the host socket. -/
def hostRead (trace : List TcpAction) : List UInt8 := trace.flatMap TcpAction.received

/-- The data segments that reached the client, in order. -/
def dataSegments (trace : List TcpAction) : List Segment := trace.filterMap TcpAction.segment

/-- The FINs sent, in order. -/
def sentFins (trace : List TcpAction) : List Segment := trace.filterMap TcpAction.fin

@[simp] theorem hostWritten_nil : hostWritten [] = [] := rfl

@[simp] theorem hostRead_nil : hostRead [] = [] := rfl

@[simp] theorem dataSegments_nil : dataSegments [] = [] := rfl

@[simp] theorem sentFins_nil : sentFins [] = [] := rfl

@[simp] theorem hostWritten_append (trace : List TcpAction) (action : TcpAction) :
    hostWritten (trace ++ [action]) = hostWritten trace ++ action.written := by
  simp [hostWritten]

@[simp] theorem hostRead_append (trace : List TcpAction) (action : TcpAction) :
    hostRead (trace ++ [action]) = hostRead trace ++ action.received := by
  simp [hostRead]

@[simp] theorem dataSegments_append (trace : List TcpAction) (action : TcpAction) :
    dataSegments (trace ++ [action]) = dataSegments trace ++ action.segment.toList := by
  rw [dataSegments, List.filterMap_append]
  cases h : action.segment <;> simp [dataSegments, h]

@[simp] theorem sentFins_append (trace : List TcpAction) (action : TcpAction) :
    sentFins (trace ++ [action]) = sentFins trace ++ action.fin.toList := by
  rw [sentFins, List.filterMap_append]
  cases h : action.fin <;> simp [sentFins, h]

/-! ## The machine -/

/-- A connection, and the interest it had when the poller last looked. -/
structure TcpLife where
  conn : TcpConnection
  armed : Ready

/-- What `Router::create_connection` makes of the first packet of a flow: a connection before its
first step, with the headers of that packet. -/
def TcpConnection.Fresh (conn : TcpConnection) : Prop :=
  ∃ raw packet id ipv4Header transportHeader selector selector' handle now,
    IpPacket.parse raw = .ok (.ok (.ipv4 packet)) ∧
    ConnectionId.fromPacket (.ipv4 packet) = some id ∧
    packet.headers = .ok (ipv4Header, some transportHeader) ∧
    TcpConnection.create selector handle id ipv4Header transportHeader now (.ok ()) =
      .ok (.ok (conn, selector'))

theorem TcpConnection.Fresh.eq_initial {conn : TcpConnection} (fresh : conn.Fresh) :
    ∃ handle id packetizer now, conn = initial handle id packetizer now := by
  obtain ⟨_, _, _, _, _, _, _, handle, now, -, -, -, created⟩ := fresh
  obtain ⟨_, _, _, packetizer, -, -, -, -, same, -⟩ := create_ok created
  exact ⟨handle, _, packetizer, now, same⟩

namespace TcpLife

/-- What reaches a TCP connection from outside: the client, the poller, the reaper, and the end of
the client. -/
inductive Label
  /-- A packet of the client. -/
  | packet (packet : Ipv4Packet) (random : UInt32) (overflowChecks : Bool) (now : Instant)
  /-- The poller looks at the interests. -/
  | poll
  /-- A readiness event. -/
  | event (ready : Ready) (answers : SocketAnswers) (now : Instant)
  /-- The reaper finds the connection expired. -/
  | expire
  /-- The client is closed, and its router cleared. -/
  | close
  /-- `Client::process_pending` hands over the waiting packet. -/
  | deliver

/-- The client and the selector are those of the moment: another connection may have used them
since the last step. -/
inductive Step : TcpLife → Label → TcpLife → Prop
  | packet {s : TcpLife} {packet : Ipv4Packet} {random : UInt32} {overflowChecks : Bool}
      {now : Instant} {client : Client} {selector : Selector} {c : TcpContext} :
      TcpContext.sendToNetwork ⟨s.conn, client, selector⟩ (.ipv4 packet) random overflowChecks
        now = .ok c →
      Step s (.packet packet random overflowChecks now) ⟨c.conn, s.armed⟩
  | poll {s : TcpLife} : Step s .poll ⟨s.conn, s.conn.interests⟩
  | event {s : TcpLife} {ready : Ready} {answers : SocketAnswers} {now : Instant}
      {client : Client} {selector : Selector} {c : TcpContext} :
      ready.Within s.armed →
      TcpContext.onReady ⟨s.conn, client, selector⟩ ready answers now = .ok c →
      Step s (.event ready answers now) ⟨c.conn, s.armed⟩
  | expire {s : TcpLife} {client : Client} {selector : Selector} {c : TcpContext} :
      TcpContext.expire ⟨s.conn, client, selector⟩ = .ok c → Step s .expire ⟨c.conn, s.armed⟩
  | close {s : TcpLife} {client : Client} {selector : Selector} :
      Step s .close ⟨(TcpContext.close ⟨s.conn, client, selector⟩).conn, s.armed⟩
  | deliver {s : TcpLife} {packet : Ipv4Packet} {client client' : Client}
      {selector selector' : Selector} {c : TcpContext} :
      s.conn.get = some packet →
      client.sendToClient selector packet = .ok (.ok (), client', selector') →
      TcpContext.next ⟨s.conn, client', selector'⟩ = .ok c → Step s .deliver ⟨c.conn, s.armed⟩

/-- The life of a TCP connection, from the SYN that made the router create it. -/
def machine : Machine TcpLife Label where
  start s := s.conn.Fresh ∧ s.armed = .empty
  step := Step

end TcpLife

/-! ## Only a connected socket is read -/

namespace TcpMove

variable {may : TcpWork → Prop} {c c' : TcpContext}

/-- A connection that is connected stays so. -/
theorem isConnected (move : TcpMove may c c') (connected : c.conn.tcb.state.isConnected) :
    c'.conn.tcb.state.isConnected := by
  cases move with
  | touch now => exact connected
  | interests updated =>
      obtain ⟨-, same, -⟩ := TcpContext.updateInterests_ok updated
      rw [same]
      exact connected
  | prime _ _ _ => exact connected
  | forge _ forged =>
      obtain ⟨_, _, _, -, -, same⟩ := TcpContext.replyEmptyPacketToClient_ok forged
      rw [same]
      exact connected
  | close => exact connected
  | removeFromRouter => exact connected
  | connect _ synSent _ =>
      rw [synSent] at connected
      cases connected
  | write _ _ _ _ _ => exact connected
  | writeLast _ _ _ _ _ _ => exact connected
  | receive _ _ _ _ _ sent =>
      obtain ⟨_, _, _, -, ⟨_, -, -, same, -⟩ | ⟨-, same, -⟩⟩ := TcpContext.sendDataToClient_ok sent
      · rw [same]
        exact connected
      · rw [same]
        exact connected
  | eof _ _ ended =>
      obtain ⟨c₁, -, rest⟩ := bind_eq_ok.mp ended
      cases rest
      show TcpState.isConnected (if _ then _ else _)
      split <;> rfl
  | answerFin _ _ => rfl
  | closing _ => rfl
  | finAcked _ => rfl
  | deliver _ _ => exact connected

/-- An interest in reading is the interest of a connected socket. -/
theorem interestConnected (move : TcpMove may c c')
    (sound : c.conn.interests.isReadable = true → c.conn.tcb.state.isConnected) :
    c'.conn.interests.isReadable = true → c'.conn.tcb.state.isConnected := by
  intro readable
  by_cases same : c'.conn.interests = c.conn.interests
  · exact move.isConnected (sound (same ▸ readable))
  · cases move with
    | interests updated =>
        obtain ⟨-, same, -⟩ := TcpContext.updateInterests_ok updated
        rw [same] at readable ⊢
        change c.conn.wanted.isReadable = true at readable
        unfold TcpConnection.wanted at readable
        split at readable
        · cases readable
        · change c.conn.mayRead = true at readable
          unfold TcpConnection.mayRead at readable
          split at readable
          · cases readable
          · rename_i usable
            simp only [Bool.or_eq_true, Bool.not_eq_true'] at usable
            show c.conn.tcb.state.isConnected = true
            cases h : c.conn.tcb.state.isConnected with
            | true => rfl
            | false => exact absurd (.inl h) usable
    | forge _ forged =>
        obtain ⟨_, _, _, -, -, changed⟩ := TcpContext.replyEmptyPacketToClient_ok forged
        exact absurd (congrArg TcpConnection.interests changed) same
    | connect _ _ forged =>
        obtain ⟨_, _, _, -, -, changed⟩ := TcpContext.replyEmptyPacketToClient_ok forged
        exact absurd (congrArg TcpConnection.interests changed) same
    | answerFin _ forged =>
        obtain ⟨_, _, _, -, -, changed⟩ := TcpContext.replyEmptyPacketToClient_ok forged
        exact absurd (congrArg TcpConnection.interests changed) same
    | eof _ _ ended =>
        obtain ⟨_, forged, rest⟩ := bind_eq_ok.mp ended
        cases rest
        obtain ⟨_, _, _, -, -, changed⟩ := TcpContext.replyEmptyPacketToClient_ok forged
        exact absurd (congrArg TcpConnection.interests changed) same
    | receive _ _ _ _ _ sent =>
        obtain ⟨_, _, _, -, ⟨_, -, -, changed, -⟩ | ⟨-, changed, -⟩⟩ :=
          TcpContext.sendDataToClient_ok sent
        · exact absurd (congrArg TcpConnection.interests changed) same
        · exact absurd (congrArg TcpConnection.interests changed) same
    | _ => exact absurd rfl same

/-- The trace only grows. -/
theorem trace_prefix (move : TcpMove may c c') : c.conn.trace <+: c'.conn.trace := by
  cases move with
  | interests updated =>
      obtain ⟨-, same, -⟩ := TcpContext.updateInterests_ok updated
      rw [same]
  | forge _ forged => exact TcpContext.replyEmptyPacketToClient_prefix forged
  | close => exact List.prefix_append _ _
  | @connect c₁ _ _ forged =>
      show _ <+: c₁.conn.trace
      have grown := TcpContext.replyEmptyPacketToClient_prefix forged
      exact grown
  | write _ _ _ _ _ => exact List.prefix_append _ _
  | writeLast _ _ _ _ _ _ =>
      exact (List.prefix_append _ _).trans (List.prefix_append _ _)
  | receive _ _ _ _ _ sent =>
      obtain ⟨_, _, _, -, ⟨_, -, -, same, -⟩ | ⟨-, same, -⟩⟩ := TcpContext.sendDataToClient_ok sent
      · rw [same]
        exact (List.prefix_append _ _).trans (List.prefix_append _ _)
      · rw [same]
        exact (List.prefix_append _ _).trans (List.prefix_append _ _)
  | eof _ _ ended =>
      obtain ⟨_, forged, rest⟩ := bind_eq_ok.mp ended
      cases rest
      have grown := TcpContext.replyEmptyPacketToClient_prefix forged
      exact (List.prefix_append _ _).trans grown
  | @answerFin c₁ _ forged =>
      show _ <+: c₁.conn.trace
      exact TcpContext.replyEmptyPacketToClient_prefix forged
  | deliver _ _ => exact List.prefix_append _ _
  | _ => exact List.prefix_refl _

end TcpMove

/-- A connection that is connected stays so. -/
theorem TcpMoves.isConnected {may : TcpWork → Prop} {c c' : TcpContext}
    (moves : TcpMoves may c c') (connected : c.conn.tcb.state.isConnected = true) :
    c'.conn.tcb.state.isConnected = true := by
  induction moves with
  | refl => exact connected
  | tail _ last ih => exact last.isConnected ih

/-- Arrivals neither disconnect a connection nor change its interests. -/
theorem TcpArrival.isConnected {packet : Ipv4Packet} {header : TcpHeaderData} {random : UInt32}
    {c c' : TcpContext} (arrival : TcpArrival packet header random c c') :
    c'.conn.interests = c.conn.interests ∧
      (c.conn.tcb.state.isConnected = true → c'.conn.tcb.state.isConnected = true) := by
  have acked {c₁ : TcpContext}
      (h : (if header.isAck then (c.noteWindow header).handleAck packet
        else .ok (c.noteWindow header)) = .ok c₁) :
      c₁.conn.interests = c.conn.interests ∧
        (c.conn.tcb.state.isConnected = true → c₁.conn.tcb.state.isConnected = true) := by
    rcases ackPart_ok h with ⟨-, -, same⟩ | ⟨same, -⟩ | ⟨_, _, -, -, same⟩
    · rw [same]
      exact ⟨rfl, fun _ => rfl⟩
    · rw [same]
      exact ⟨rfl, id⟩
    · rw [same]
      exact ⟨rfl, id⟩
  cases arrival with
  | opened init _ => exact ⟨rfl, fun connected => by rw [init] at connected; cases connected⟩
  | refused _ _ => exact ⟨rfl, id⟩
  | reopened _ _ => exact ⟨rfl, id⟩
  | lateSyn _ _ _ => exact ⟨rfl, id⟩
  | ignored _ _ _ => exact ⟨rfl, id⟩
  | reset _ _ _ _ => exact ⟨rfl, id⟩
  | expected _ _ _ _ ackPart =>
      split
      · rw [TcpContext.noteFin_interests, TcpContext.noteFin_state]
        exact acked ackPart
      · exact acked ackPart

theorem TcpArrival.trace_prefix {packet : Ipv4Packet} {header : TcpHeaderData} {random : UInt32}
    {c c' : TcpContext} (arrival : TcpArrival packet header random c c') :
    c.conn.trace <+: c'.conn.trace := by
  have acked {c₁ : TcpContext}
      (h : (if header.isAck then (c.noteWindow header).handleAck packet
        else .ok (c.noteWindow header)) = .ok c₁) : c₁.conn.trace = c.conn.trace := by
    rcases ackPart_ok h with ⟨-, -, same⟩ | ⟨same, -⟩ | ⟨_, _, -, -, same⟩ <;> rw [same] <;> rfl
  cases arrival with
  | opened _ _ => exact List.prefix_append _ _
  | expected _ _ _ _ ackPart =>
      rw [← acked ackPart]
      split
      · rcases TcpContext.noteFin_ok _ with ⟨-, same⟩ | ⟨-, same⟩
        · rw [same]
          exact List.prefix_append _ _
        · rw [same]
      · exact List.prefix_refl _
  | _ => exact List.prefix_refl _

namespace TcpLife

/-- The record grows with every step. -/
theorem Step.trace_prefix {s s' : TcpLife} {label : Label} (step : Step s label s') :
    s.conn.trace <+: s'.conn.trace := by
  have moves {may : TcpWork → Prop} {c c' : TcpContext} (moves : TcpMoves may c c') :
      c.conn.trace <+: c'.conn.trace := by
    induction moves with
    | refl => exact List.prefix_refl _
    | tail _ last ih => exact ih.trans last.trace_prefix
  cases step with
  | packet sent =>
      obtain ⟨header, c₁, -, arrival, answers⟩ :=
        @TcpContext.sendToNetwork_moves (fun _ => False) _ _ _ _ _ _ sent
      exact arrival.trace_prefix.trans (moves answers)
  | poll => exact List.prefix_refl _
  | event _ happened =>
      exact @moves (fun _ => True) _ _ (TcpContext.onReady_moves (fun _ => trivial) (fun _ => trivial)
        happened)
  | expire expired => exact @moves (fun _ => True) _ _ (TcpContext.expire_moves expired)
  | close => exact List.prefix_append _ _
  | deliver _ _ advanced =>
      exact @moves (fun _ => True) _ _ (TcpContext.next_moves trivial advanced)

/-- What was done up to a step stays on record. -/
theorem run_trace_prefix {t : List (TcpLife × Label)} {s : TcpLife} (run : machine.Run t s)
    {p : TcpLife × Label} (mem : p ∈ t) : p.1.conn.trace <+: s.conn.trace := by
  induction run with
  | start _ => cases mem
  | step run step ih =>
      rcases List.mem_append.mp mem with before | last
      · exact (ih before).trans step.trace_prefix
      · rw [List.mem_singleton.mp last]
        exact step.trace_prefix

/-- Only a connected socket is read, now or by what was polled before. -/
structure ReadsConnected (s : TcpLife) : Prop where
  interests : s.conn.interests.isReadable = true → s.conn.tcb.state.isConnected = true
  armed : s.armed.isReadable = true → s.conn.tcb.state.isConnected = true

theorem ReadsConnected.moves {may : TcpWork → Prop} {c c' : TcpContext} {armed : Ready}
    (reads : ReadsConnected ⟨c.conn, armed⟩) (h : TcpMoves may c c') :
    ReadsConnected ⟨c'.conn, armed⟩ := by
  induction h with
  | refl => exact reads
  | tail _ last ih =>
      refine ⟨last.interestConnected ih.interests, fun readable => ?_⟩
      exact last.isConnected (ih.armed readable)

theorem ReadsConnected.step {s s' : TcpLife} {l : Label} (reads : s.ReadsConnected)
    (step : Step s l s') : s'.ReadsConnected := by
  cases step with
  | packet sent =>
      obtain ⟨header, c₁, -, arrived, answers⟩ :=
        @TcpContext.sendToNetwork_moves (fun _ => False) _ _ _ _ _ _ sent
      obtain ⟨interests, connected⟩ := arrived.isConnected
      refine ReadsConnected.moves ⟨fun readable => connected (reads.interests ?_),
        fun readable => connected (reads.armed readable)⟩ answers
      rw [interests] at readable
      exact readable
  | poll => exact ⟨reads.interests, reads.interests⟩
  | event _ happened =>
      exact @ReadsConnected.moves (fun _ => True) _ _ _ reads
        (TcpContext.onReady_moves (fun _ => trivial) (fun _ => trivial) happened)
  | expire expired =>
      exact @ReadsConnected.moves (fun _ => True) _ _ _ reads (TcpContext.expire_moves expired)
  | close => exact ⟨reads.interests, reads.armed⟩
  | deliver _ _ advanced =>
      exact @ReadsConnected.moves (fun _ => True) _ _ _ reads
        (TcpContext.next_moves trivial advanced)

theorem readsConnected_of_start {s : TcpLife} (start : machine.start s) : s.ReadsConnected := by
  obtain ⟨conn, armed⟩ := s
  obtain ⟨fresh, rfl⟩ := start
  obtain ⟨_, _, _, _, rfl⟩ := fresh.eq_initial
  exact ⟨nofun, nofun⟩

theorem reachable_readsConnected {s : TcpLife} (reachable : machine.Reachable s) :
    s.ReadsConnected := by
  obtain ⟨t, run⟩ := reachable
  exact run.invariant ReadsConnected (fun _ start => readsConnected_of_start start)
    (fun _ _ _ reads _ step => reads.step step) (Machine.meets_true t)

/-- **The invariant rule for a connection.**  What holds of a new connection and is
preserved by every arrival that meets the guard and by every move holds in every
state of a run whose steps meet the guard.  The host socket is read only while it
is connected. -/
theorem run_invariant (P : TcpConnection → Prop) {guard : TcpLife → Label → Prop}
    (fresh : ∀ conn : TcpConnection, conn.Fresh → P conn)
    (arrival : ∀ (s : TcpLife) (packet : Ipv4Packet) (random : UInt32) (overflowChecks : Bool)
      (now : Instant) (header : TcpHeader) (c c₁ : TcpContext),
      guard s (.packet packet random overflowChecks now) →
      TcpConnection.tcpHeaderOfPacket packet = .ok header → c.conn = s.conn.touch now →
      P s.conn → TcpArrival packet header.data random c c₁ → P c₁.conn)
    (move : ∀ (may : TcpWork → Prop) (c c' : TcpContext),
      (may .read → c.conn.tcb.state.isConnected = true) →
      P c.conn → TcpMove may c c' → P c'.conn)
    {t : List (TcpLife × Label)} {s : TcpLife} (run : machine.Run t s)
    (met : Machine.Meets guard t) : P s.conn := by
  have moves {may : TcpWork → Prop} {c c' : TcpContext}
      (allowed : may .read → c.conn.tcb.state.isConnected = true) (holds : P c.conn)
      (h : TcpMoves may c c') : P c'.conn := by
    induction h with
    | refl => exact holds
    | tail before last ih =>
        exact move _ _ _ (fun reads => TcpMoves.isConnected before (allowed reads)) ih last
  suffices both : P s.conn ∧ s.ReadsConnected from both.1
  refine run.invariant (fun s => P s.conn ∧ s.ReadsConnected) ?_ ?_ met
  · intro s start
    exact ⟨fresh _ start.1, readsConnected_of_start start⟩
  · rintro s l s' ⟨holds, reads⟩ guarded step
    refine ⟨?_, reads.step step⟩
    cases step with
    | @packet packet random overflowChecks now client selector c' sent =>
        obtain ⟨header, c₁, tcp, arrived, answers⟩ :=
          @TcpContext.sendToNetwork_moves (fun _ => False) _ _ _ _ _ _ sent
        exact moves nofun
          (arrival s packet random overflowChecks now header _ c₁ guarded tcp rfl holds arrived)
          answers
    | poll => exact holds
    | @event ready answers now client selector c' within happened =>
        -- it reads only if the event is readable
        let may : TcpWork → Prop
          | .read => s.armed.isReadable = true
          | .write => True
          | .deliver => False
        exact @moves may ⟨s.conn, client, selector⟩ _ reads.armed holds
          (TcpContext.onReady_moves within.1 (fun _ => trivial) happened)
    | @expire client selector c' expired =>
        exact @moves (fun _ => False) ⟨s.conn, client, selector⟩ _ nofun holds
          (TcpContext.expire_moves expired)
    | @close client selector =>
        exact @moves (fun _ => False) ⟨s.conn, client, selector⟩ _ nofun holds
          (.single (.close _))
    | @deliver packet client client' selector selector' c' _ _ advanced =>
        exact @moves (· = .deliver) ⟨s.conn, client', selector'⟩ _ nofun holds
          (TcpContext.next_moves rfl advanced)

end TcpLife

end ReverseTether
