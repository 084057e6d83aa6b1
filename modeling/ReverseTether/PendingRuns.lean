import ReverseTether.PendingSources
import ReverseTether.RelayProgress

/-!
# The pending sources in every run

In every run the list of the client and the waiting packets agree.  A connection of the
list is closed exactly when it was closed while its packet waited: `close` does not look
at the list, and `process_pending` pulls the packet all the same.  `next` then hands it
over, and asserts that the connection is open.

A connection that is closed like that is not rare: the host resets it, or its RST from the
client arrives, while the app has not made room.  So the condition is the weakest one, and it
is about the closing event, which is the one that leaves the list as it is.

The invariant ties the list to the waiting packets (`ClientContext.Tracks`), and it is kept by
every move of a handler; what `process_pending` does to the list, while it is going through
it, is the one case in which both change at once.
-/

namespace ReverseTether

open Library Relation

namespace ClientContext

/-- The list of pending sources is right, and pulling them does not panic: each connection
with a waiting packet is listed once, and all that are listed are open. -/
structure ListsWaiting (c : ClientContext) : Prop where
  once : c.client.pendingPacketSources.Nodup
  listed : ∀ handle : Handle, handle ∈ c.client.pendingPacketSources ↔
    ∃ conn, c.created[handle]? = some (.tcp conn) ∧ conn.packetForClientLength.isSome = true
  opened : ∀ handle ∈ c.client.pendingPacketSources,
    ∃ conn, c.created[handle]? = some (.tcp conn) ∧ conn.closed = false
  /-- The writable half of an event of the client pulls them. -/
  pulls : ∀ write panic, c.processSend write = .error panic →
    panic ≠ .noPendingPacket ∧ panic ≠ .connectionClosed

variable {c c' : ClientContext}

/-- Where packets wait. -/
theorem Tracks.listed_iff (tracks : c.Tracks []) (handle : Handle) :
    handle ∈ c.client.pendingPacketSources ↔
      ∃ conn, c.created[handle]? = some (.tcp conn) ∧ conn.packetForClientLength.isSome = true := by
  refine (tracks.listed handle).trans ?_
  constructor
  · rintro ⟨conn, place, waits⟩
    cases conn with
    | tcp conn => exact ⟨conn, place, waits⟩
    | udp _ => cases waits
    | ipv6 _ => cases waits
  · rintro ⟨conn, place, waits⟩
    exact ⟨_, place, waits⟩

/-- What a writable event panics of, as long as no connection was closed while its packet
waited. -/
theorem Tracks.processSend_error (tracks : c.Tracks []) (routed : c.Routed) (keeps : c.KeepsWaiting)
    {write : IoResult ℕ} {panic : Panic} (h : c.processSend write = .error panic) :
    panic = .cannotRegister := by
  have closes {c : ClientContext} {panic : Panic} (h : c.close = .error panic) :
      panic = .cannotRegister := by
    unfold close at h
    simp only at h
    split at h
    · cases h
    · exact (Except.error.inj h).symm
  have ended {c : ClientContext} {panic : Panic}
      (h : (do return (Except.ok (), ← c.close) : Outcome (IoResult Unit × ClientContext)) =
        .error panic) : panic = .cannotRegister := by
    rcases bind_eq_error.mp h with stuck | ⟨_, -, rest⟩
    · exact closes stuck
    · cases rest
  unfold processSend at h
  split at h
  · rename_i must
    rcases bind_eq_error.mp h with stuck | ⟨⟨answer, c₁⟩, -, h⟩
    · -- bytes of the id are left
      unfold sendId at stuck
      rw [if_pos must] at stuck
      cases write <;> cases stuck
    · cases answer with
      | ok _ => cases h
      | error err =>
          cases err with
          | wouldBlock => cases h
          | other => exact ended h
  · rename_i done
    split at h
    · rename_i c₁ wrote
      rcases bind_eq_error.mp h with stuck | ⟨_, -, rest⟩
      · have tracks₁ : c₁.Tracks [] ∧ c₁.Routed ∧ c₁.KeepsWaiting := by
          unfold ClientContext.write at wrote
          split at wrote
          · cases wrote
            exact ⟨tracks.congr rfl rfl, routed.congr rfl rfl, keeps⟩
          · cases wrote
        exact (processPending_tracks tracks₁.2.1 tracks₁.1).2 tracks₁.2.2 _ stuck
      · cases rest
    · exact ended h

/-- **The list is right exactly when no connection was closed while its packet waited.**  The list
is right for open connections in every state, by the invariant; a closed one is never taken off it.
-/
theorem Tracks.listsWaiting_iff (tracks : c.Tracks []) (routed : c.Routed) :
    c.ListsWaiting ↔ c.KeepsWaiting := by
  constructor
  · intro lists handle conn place closedWaiting
    obtain ⟨closed, waits⟩ := (tracks.sound _ _ place).mp closedWaiting
    have listed : handle ∈ c.client.pendingPacketSources :=
      (tracks.listed handle).mpr ⟨conn, place, waits⟩
    obtain ⟨conn', place', isOpen⟩ := lists.opened handle listed
    cases place.symm.trans place'
    exact absurd (isOpen.symm.trans closed) Bool.false_ne_true
  · intro keeps
    refine ⟨tracks.once, tracks.listed_iff, fun handle mem => ?_, fun write panic h => ?_⟩
    · obtain ⟨conn, place, waits⟩ := (tracks.listed_iff handle).mp mem
      refine ⟨conn, place, ?_⟩
      cases closed : conn.closed with
      | false => rfl
      | true => exact absurd ((tracks.sound _ _ place).mpr ⟨closed, waits⟩) (keeps _ _ place)
    · rw [tracks.processSend_error routed keeps h]
      exact ⟨by simp, by simp⟩

end ClientContext

/-- The host socket of a connection that is connected hangs up. -/
theorem TcpContext.onReady_hup {c : TcpContext} {answers : SocketAnswers} {now : Instant}
    (isOpen : c.conn.closed = false) (notSynSent : c.conn.tcb.state ≠ .synSent)
    (notSynReceived : c.conn.tcb.state ≠ .synReceived) :
    c.onReady .empty answers now =
      .ok (close { c with conn := c.conn.touch now }).removeFromRouter := by
  have hup : processHup { c with conn := c.conn.touch now } =
      .ok (close { c with conn := c.conn.touch now }) := by
    refine bind_eq_ok.mpr ⟨_, if_neg ?_, rfl⟩
    rintro (synSent | synReceived)
    · exact notSynSent synSent
    · exact notSynReceived synReceived
  have processed : c.process .empty answers now =
      .ok (.ok (), (close { c with conn := c.conn.touch now }).removeFromRouter) := by
    refine (if_neg (by rw [isOpen]; exact Bool.false_ne_true)).trans ?_
    refine orReturn_eq_ok.mpr (.inl ⟨close { c with conn := c.conn.touch now }, ?_, rfl⟩)
    refine (if_neg (by decide)).trans ?_
    exact bind_eq_ok.mpr ⟨_, hup, rfl⟩
  exact bind_eq_ok.mpr ⟨_, processed, rfl⟩

namespace Relay

variable {s s' : Relay} {label : Label} {t : List (Relay × Label)}

/-- **Every step keeps the list**, also one that closes connections.  The invariant speaks of
listed connections and not of open ones, which is why closing does not break it. -/
theorem Step.tracks (routed : s.Routed) (tracks : s.Tracks []) (step : Step s label s') :
    s'.Tracks [] := by
  have kept {reads : Prop} {c c' : ClientContext} (routed : c.Routed) (tracks : c.Tracks [])
      (moves : ClientMoves (fun call => call ≠ .next) reads c c') : c'.Tracks [] :=
    ClientMoves.invariant (fun _ _ routed tracks move => move.tracks (fun h => h rfl) routed tracks)
      routed tracks moves
  cases step with
  | poll _ _ => exact tracks
  | reap cleaned =>
      have moves : ClientMoves (fun call => call ≠ .next) False s.toClientContext _ :=
        Router.cleanExpiredConnections_moves (by simp) routed cleaned
      exact kept routed tracks moves
  | @handle source ready batch answers c next handled =>
      cases source with
      | client =>
          -- the writable half pulls the sources, and then nothing does
          obtain ⟨c₁, wrote, moves⟩ : ∃ c₁, (c₁ = s.toClientContext ∨
              ∃ sent, s.processSend answers.socket.write = .ok (sent, c₁)) ∧
              ClientMoves (fun call => call ≠ .next) True c₁ c :=
            ClientContext.onReady_moves (by simp) (by simp) routed handled
          rcases wrote with rfl | ⟨sent, wrote⟩
          · exact kept routed tracks moves
          · have first : ClientMoves (fun _ => True) False s.toClientContext c₁ :=
              ClientContext.processSend_moves trivial trivial routed wrote
            exact kept (first.routed routed) (ClientContext.processSend_tracks routed tracks wrote)
              moves
      | connection handle =>
          have moves : ClientMoves (fun call => call ≠ .next) True s.toClientContext c :=
            ClientContext.dispatch_moves (fun _ => by simp) (by simp) routed handled
          exact kept routed tracks moves
  | release _ => exact tracks.congr rfl rfl
  | rehash _ => exact tracks.congr rfl rfl

theorem run_tracks (run : machine.Run t s) : s.Tracks [] := by
  refine (run.invariant (fun s => s.Routed ∧ s.Tracks []) ?_ ?_ (Machine.meets_true t)).2
  · rintro _ ⟨id, rfl⟩
    exact ⟨create_routed id, List.nodup_nil, fun handle => by simp [create, ClientContext.create,
      Client.create], fun handle conn place => by cases place⟩
  · rintro s label s' ⟨routed, tracks⟩ - step
    exact ⟨Step.routed routed step, Step.tracks routed tracks step⟩

/-- **The pending sources in every run.**  Each connection with a waiting packet is listed
once, and only open ones, and to pull them does not panic, exactly when no connection was
closed while its packet waited. -/
theorem run_listsWaiting_iff (run : machine.Run t s) : s.ListsWaiting ↔ s.KeepsWaiting :=
  (run_tracks run).listsWaiting_iff (run_routed run)

/-- A packet of an established TCP flow waits, as a UDP flow has filled the buffer of the
client. -/
structure HoldsBack (s : Relay) (conn : TcpConnection) (raw : List UInt8) : Prop where
  created : ∃ udp, s.created = [.udp udp, .tcp conn]
  room : s.client.networkToClient.remaining ≤ 28
  isOpen : conn.closed = false
  forTcp : conn.networkToClient.ForTcp
  id : conn.id = segmentId
  waits : conn.packetForClientLength.isSome = true
  empty : conn.clientToNetwork.isEmpty = true
  tcb : conn.tcb = { Tcb.new with
    state := .established
    acknowledgementNumber := 1
    sequenceNumber := 1
    theirAcknowledgementNumber := 1
    clientWindow := 65535 }
  trace : ∃ synAck, conn.trace =
    [TcpAction.opened 0, TcpAction.forged synAck false, TcpAction.read [0x61], TcpAction.deferred raw]

namespace HoldsBack

variable {conn : TcpConnection} {raw : List UInt8}

theorem place (holds : s.HoldsBack conn raw) : s.created[1]? = some (.tcp conn) := by
  obtain ⟨udp, created⟩ := holds.created
  rw [created]
  rfl

theorem established (holds : s.HoldsBack conn raw) : conn.tcb.state = .established :=
  congrArg Tcb.state holds.tcb

end HoldsBack

/-- A datagram of the host fills the buffer before a byte of another socket is read. -/
theorem run_waits : ∃ t s conn raw, SoloRun t s ∧ s.batch = [] ∧ s.AtRest ∧ s.HoldsBack conn raw := by
  obtain ⟨t₀, s₀, run₀, idle₀, rest₀, ⟨udp, place₀, reads₀⟩, one, unknown, -⟩ := run_udpFlow
  obtain ⟨t₁, s₁, conn₁, run₁, idle₁, rest₁, -, created₁, forTcp, p, synAck, -, same₁⟩ :=
    run_established run₀ idle₀ rest₀ unknown
  have reads₁ : s₁.Reads 0 28 := by
    refine ⟨udp, ?_, reads₀⟩
    rw [created₁, List.getElem?_append_left (by omega)]
    exact place₀
  obtain ⟨t₂, s₂, run₂, idle₂, rest₂, ⟨udp₂, udpPlace, -⟩, kept, full⟩ :=
    run_fills (by decide) run₁ idle₁ rest₁ reads₁
  have place₂ : s₂.created[1]? = some (.tcp conn₁) := by
    rw [kept 1 (by decide), created₁, ← one]
    exact List.getElem?_concat_length
  have created₂ : s₂.created = [.udp udp₂, .tcp conn₁] := by
    have last : s₂.created[2]? = none := by
      rw [kept 2 (by decide), created₁, List.getElem?_eq_none_iff, List.length_append, one,
        List.length_singleton]
    refine List.ext_getElem? fun handle => ?_
    rcases handle with _ | _ | handle
    · exact udpPlace
    · exact place₂
    · refine List.getElem?_eq_none_iff.mpr ?_
      exact (List.getElem?_eq_none_iff.mp last).trans (Nat.le_add_left _ _)
  -- one byte of the host is read
  let answers : EventAnswers :=
    ⟨⟨.ok none, .ok 0, .ok [0x61]⟩, 0, fun _ => ⟨0, false, 0, .ok (), .ok 0⟩⟩
  have isOpen : conn₁.closed = false := by
    rw [same₁]
    rfl
  have tcb : conn₁.tcb = { Tcb.new with
      state := .established
      acknowledgementNumber := 1
      sequenceNumber := 1
      theirAcknowledgementNumber := 1
      clientWindow := 65535 } := by rw [same₁]
  obtain ⟨c, packetizer, raw, happened, usable', index, length, -, -, ⟨fits, -⟩ |
      ⟨-, client, -, conn⟩⟩ :=
    @TcpContext.Usable.read ⟨conn₁, s₂.client, s₂.selector⟩ 0 answers.socket [0x61]
      (usable run₂ rest₂ place₂ isOpen forTcp s₂.client) (by rw [same₁]; rfl) (by rw [tcb]; decide)
      (List.cons_ne_nil _ _) (by rw [TcpContext.receivable, tcb]; decide) rfl
  · have long := forTcp.wellFormed.ipv4.long
    have bounds := forTcp.wellFormed.transport.length_bounds
    have room : raw.length ≤ s₂.client.networkToClient.remaining := fits
    rw [length, index, List.length_singleton] at room
    change conn₁.networkToClient.ipv4Header.raw.length +
      conn₁.networkToClient.transportHeader.raw.length + 1 ≤ _ at room
    omega
  · have within : Ready.readable.Within conn₁.interests := by
      rw [same₁]
      exact Ready.within_refl _
    obtain ⟨t₃, s₃, run₃, idle₃, rest₃, -, created₃, client₃⟩ :=
      run_tcp run₂ idle₂ rest₂ place₂ isOpen within (by decide) happened (by rw [conn]; rfl)
    refine ⟨t₃, s₃, c.conn, raw, run₃, idle₃, rest₃, ⟨udp₂, ?_⟩, ?_, usable'.isOpen, usable'.forTcp,
      ?_, ?_, ?_, ?_, synAck, ?_⟩
    · rw [created₃, created₂]
      rfl
    · rw [client₃, client]
      exact full
    · rw [conn, same₁]
      rfl
    · rw [conn]
      rfl
    · rw [conn, same₁]
      rfl
    · rw [conn]
      exact tcb
    · rw [conn, same₁]
      rfl

/-- The list is right while the packet waits. -/
theorem run_listsWaiting_iff_waits : ∃ t s, machine.Run t s ∧
    s.client.pendingPacketSources ≠ [] ∧ (s.ListsWaiting ↔ s.KeepsWaiting) := by
  obtain ⟨t, s, conn, raw, run, -, -, holds⟩ := run_waits
  have iff := run_listsWaiting_iff run.run
  refine ⟨t, s, run.run, fun none => ?_, iff⟩
  have listed := ((run_tracks run.run).listed_iff 1).mpr ⟨conn, holds.place, holds.waits⟩
  rw [none] at listed
  exact absurd listed List.not_mem_nil

/-- The socket of the host hangs up on a connection whose packet waits: it is closed, and
still listed. -/
theorem not_run_listsWaiting : ¬ ∀ t s, machine.Run t s → s.ListsWaiting := by
  intro all
  obtain ⟨t, s, conn, raw, run, idle, rest, holds⟩ := run_waits
  have place := holds.place
  let answers : EventAnswers :=
    ⟨⟨.ok none, .ok 0, .ok []⟩, 0, fun _ => ⟨0, false, 0, .ok (), .ok 0⟩⟩
  let c : TcpContext := ⟨conn, s.client, s.selector⟩
  have happened : c.onReady .empty answers.socket answers.now =
      .ok (TcpContext.close { c with conn := conn.touch 0 }).removeFromRouter :=
    TcpContext.onReady_hup holds.isOpen (by rw [holds.established]; decide)
      (by rw [holds.established]; decide)
  have within : Ready.empty.Within conn.interests := ⟨by simp [Ready.empty], by simp [Ready.empty]⟩
  obtain ⟨t', s', run', -, -, -, created, -⟩ :=
    run_tcp run idle rest place holds.isOpen within (by decide) happened rfl
  have place' : s'.created[1]? =
      some (.tcp (TcpContext.close { c with conn := conn.touch 0 }).removeFromRouter.conn) := by
    rw [created]
    exact List.getElem?_set_self (List.getElem?_eq_some_iff.mp place).1
  have lists := all t' s' run'.run
  obtain ⟨conn', there, isOpen'⟩ := lists.opened 1 ((lists.listed 1).mpr ⟨_, place', holds.waits⟩)
  cases place'.symm.trans there
  cases isOpen'

end Relay

end ReverseTether
