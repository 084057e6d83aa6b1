import ReverseTether.PendingRuns

/-!
# Pulling a waiting packet

A writable event of the client takes bytes out of the stream, and then offers what each
pending source holds.  So a packet that waits alone is in the stream once the client has
taken the bytes that were missing, as its connection holds it by then.

`process_pending` goes through the list of sources once, in its order, and each of them is
pulled while the earlier ones are in the stream already.  A source whose packet still does not
fit stays in the list, and waits for the next event.

`run_pulls` puts the two halves together along a run: as the app reads on, the buffer of the
client becomes empty enough, and the event at which this happens is the one at which the
packet is delivered.  It is the packet that the connection holds at that time, which need not
be the one that was refused.
-/

namespace ReverseTether

open Library

/-- A front of the buffer is as long as asked for. -/
theorem Packetizer.WellFormed.length_inflate {p : Packetizer} (wf : p.WellFormed)
    (length : UInt16) : (p.inflate length).raw.length = length.toNat := by
  have small := length.toNat_lt
  have whole : p.buffer.length = 65536 := wf.length
  show (p.buffer.take length.toNat).length = _
  rw [List.length_take, whole]
  omega

/-- The destination takes one byte. -/
theorem StreamBuffer.writeTo_one {capacity : ℕ} {b : StreamBuffer capacity}
    (nonempty : b.isEmpty = false) :
    ∃ taken b', b.writeTo (.ok 1) = (.ok taken, b') ∧ b'.remaining = b.remaining + 1 := by
  obtain ⟨b', wrote, split⟩ := writeTo_ok nonempty 1
  have some := List.length_pos_iff.mpr (offered_ne_nil nonempty)
  have lengths := congrArg List.length split
  rw [List.length_append, List.length_take, Nat.min_eq_left some] at lengths
  have before := b.remaining_eq
  have after := b'.remaining_eq
  have held : b.contents.length ≤ capacity := b.length_contents ▸ b.size_le
  exact ⟨_, b', wrote, by omega⟩

namespace ClientContext

variable {c : ClientContext} {handle : Handle} {conn : TcpConnection} {length : UInt16}

/-- What waits is offered as it is now: it goes on waiting, or it is handed over. -/
theorem pull_returns (settled : c.Settled) (place : c.created[handle]? = some (.tcp conn))
    (here : conn.handle = handle) (waits : conn.packetForClientLength = some length)
    (usable : (⟨conn, c.client, c.selector⟩ : TcpContext).Usable) :
    (c.client.networkToClient.remaining < (conn.networkToClient.inflate length).raw.length ∧
        c.pull handle = .ok { c with client := c.client.registerPendingPacketSource handle }) ∨
      ((conn.networkToClient.inflate length).raw.length ≤ c.client.networkToClient.remaining ∧
        ∃ c' conn', c.pull handle = .ok c' ∧ c'.Settled ∧
          c'.client.appended = c.client.appended ++ [(conn.networkToClient.inflate length).raw] ∧
          c'.created = c.created.set handle (.tcp conn')) := by
  have got : conn.get = some (conn.networkToClient.inflate length) := by
    rw [TcpConnection.get, waits]
    rfl
  obtain ⟨sent, client, selector, offered, same, keeps, room⟩ :=
    c.client.sendRawToClient_returns (conn.networkToClient.inflate length).raw usable.clientKnown
  have sends : c.client.sendToClient c.selector (conn.networkToClient.inflate length) =
      .ok (sent, client, selector) := offered
  obtain ⟨-, -, -, outcome⟩ := Client.sendRawToClient_ok offered
  rcases room with ⟨fits, rfl⟩ | ⟨full, rfl⟩
  · obtain ⟨-, -, -, appended⟩ | ⟨wrong, -⟩ := outcome
    · obtain ⟨f, next, -, -, client', conn'⟩ :=
        (usable.congr rfl rfl rfl ⟨same, keeps⟩ : (⟨conn, client, selector⟩ : TcpContext).Usable).next waits
      refine .inr ⟨fits, c.leave f.asConnection, f.conn, ?_, ⟨?_, ?_⟩, ?_, ?_⟩
      · unfold pull
        simp only [place, got, sends, ok_bind]
        exact bind_eq_ok.mpr ⟨f, next, rfl⟩
      · show f.client.closed = false
        rw [client']
        exact same.closed.trans settled.1
      · show f.client.interests = f.client.wanted
        rw [client']
        exact Client.sendRawToClient_settled settled.2 offered
      · show f.client.appended = _
        rw [client']
        exact appended
      · show c.created.set f.conn.handle (.tcp f.conn) = _
        rw [conn', ← here]
        rfl
    · cases wrong
  · obtain ⟨wrong, -⟩ | ⟨-, -, same', selector'⟩ := outcome
    · cases wrong
    · refine .inl ⟨full, ?_⟩
      unfold pull
      simp only [place, got, sends, ok_bind]
      rw [same', selector']
      rfl

/-- The buffer is much larger than a packet. -/
theorem some_of_remaining {client : Client} (full : client.networkToClient.remaining ≤ length.toNat) :
    client.networkToClient.isEmpty = false := by
  refine (StreamBuffer.isEmpty_eq_false_iff _).mpr fun none => ?_
  have remaining := client.networkToClient.remaining_eq
  have small := length.toNat_lt
  have large : maxPacketLength = 65536 := rfl
  rw [none, List.length_nil] at remaining
  omega

/-- The client takes one byte, and then the packet that waits is offered. -/
theorem AtRest.pulls {answers : EventAnswers} (rest : c.AtRest)
    (place : c.created[handle]? = some (.tcp conn)) (here : conn.handle = handle)
    (waits : conn.packetForClientLength = some length)
    (usable : ∀ client, (⟨conn, client, c.selector⟩ : TcpContext).Usable)
    (only : c.client.pendingPacketSources = [handle])
    (full : c.client.networkToClient.remaining < length.toNat) (write : answers.socket.write = .ok 1) :
    ∃ c', c.onReady .writable answers = .ok c' ∧
      ((c.client.networkToClient.remaining + 1 < length.toNat ∧ c'.AtRest ∧
          c'.created = c.created ∧ c'.client.pendingPacketSources = [handle] ∧
          c'.client.networkToClient.remaining = c.client.networkToClient.remaining + 1) ∨
        ((conn.networkToClient.inflate length).raw ∈ c'.client.appended ∧
          ∃ conn', c'.created = c.created.set handle (.tcp conn'))) := by
  obtain ⟨taken, networkToClient, wrote, more⟩ := StreamBuffer.writeTo_one (some_of_remaining full.le)
  let c₁ : ClientContext := { c with
    client := { c.client with networkToClient, pendingPacketSources := [] }
    received := c.received ++ taken }
  have some₁ : networkToClient.isEmpty = false :=
    @some_of_remaining length c₁.client (more.trans_le full)
  have settled : c₁.Settled := by
    refine ⟨rest.settled.1, rest.settled.2.trans ?_⟩
    rw [Client.wanted, Client.wanted, some_of_remaining full.le]
    show _ = if networkToClient.isEmpty then _ else _
    rw [some₁]
  have ends {c₂ : ClientContext} (pulled : c₁.pull handle = .ok c₂) (settled : c₂.Settled) :
      c.onReady .writable answers = .ok c₂ := by
    have pending : ClientContext.processPending { c with
        client := { c.client with networkToClient }
        received := c.received ++ taken } = .ok c₂ := by
      unfold processPending
      rw [only]
      exact bind_eq_ok.mpr ⟨c₂, pulled, rfl⟩
    have sent : c.processSend answers.socket.write = .ok (.ok (), c₂) := by
      unfold processSend
      rw [rest.identified, write, ClientContext.write, wrote]
      exact bind_eq_ok.mpr ⟨c₂, pending, rfl⟩
    have processed : c.process .writable answers = .ok (.ok (), c₂) := by
      refine (if_neg (by rw [rest.settled.1]; exact Bool.false_ne_true)).trans ?_
      refine orReturn_eq_ok.mpr (.inl ⟨c₂, (if_pos rfl).trans sent, ?_⟩)
      refine orReturn_eq_ok.mpr (.inl ⟨c₂, if_neg (by rintro ⟨-, ⟨⟩⟩), ?_⟩)
      rw [if_neg (by rw [settled.1]; exact Bool.false_ne_true), updateInterests_settled settled]
      rfl
    exact bind_eq_ok.mpr ⟨_, processed, rfl⟩
  rcases pull_returns settled place here waits (usable c₁.client) with ⟨less, pulled⟩ |
    ⟨-, c₂, conn', pulled, settled', appended, created⟩
  · refine ⟨_, ends pulled settled, .inl ⟨?_, ⟨⟨settled, ?_, ?_⟩, rest.input⟩, rfl, rfl, more⟩⟩
    · rw [(usable c.client).forTcp.wellFormed.length_inflate] at less
      exact more ▸ less
    · exact rest.identified
    · exact rest.registered
  · refine ⟨c₂, ends pulled settled', .inr ⟨?_, conn', created⟩⟩
    rw [appended]
    exact List.mem_append_right _ (List.mem_singleton_self _)

end ClientContext
namespace Relay

variable {s : Relay} {t : List (Relay × Label)} {handle : Handle} {conn : TcpConnection}
  {length : UInt16}

/-- A packet waits alone, for a client that is at rest and has too little room. -/
structure WaitsAlone (s : Relay) (handle : Handle) (conn : TcpConnection) (length : UInt16) :
    Prop where
  idle : s.batch = []
  rest : s.AtRest
  place : s.created[handle]? = some (.tcp conn)
  isOpen : conn.closed = false
  forTcp : conn.networkToClient.ForTcp
  waits : conn.packetForClientLength = some length
  only : s.client.pendingPacketSources = [handle]
  full : s.client.networkToClient.remaining < length.toNat

/-- The client takes one byte: the packet waits on, or it is in the stream. -/
theorem run_pull (run : SoloRun t s) (alone : s.WaitsAlone handle conn length) :
    ∃ t' s', SoloRun t' s' ∧
      ((s'.WaitsAlone handle conn length ∧ s'.created = s.created ∧
          s'.client.networkToClient.remaining = s.client.networkToClient.remaining + 1) ∨
        ((conn.networkToClient.inflate length).raw ∈ s'.client.appended ∧
          ∃ conn', s'.created = s.created.set handle (.tcp conn'))) := by
  let answers : EventAnswers :=
    ⟨⟨.ok none, .ok 1, .ok []⟩, 0, fun _ => ⟨0, false, 0, .ok (), .ok 0⟩⟩
  have rest := alone.rest
  have here : conn.handle = handle := (run_routed run.run).places _ _ alone.place
  obtain ⟨c, handled, outcome⟩ := @ClientContext.AtRest.pulls _ _ _ _ answers rest alone.place here
    alone.waits (usable run rest alone.place alone.isOpen alone.forTcp) alone.only alone.full rfl
  have within : Ready.writable.Within s.client.interests := by
    rw [rest.settled.2, Client.wanted, ClientContext.some_of_remaining alone.full.le]
    decide
  refine ⟨_, _, run.event alone.idle rest.registered within (by decide) handled, ?_⟩
  rcases outcome with ⟨less, rest', created, only, more⟩ | handed
  · refine .inl ⟨⟨rfl, rest', ?_, alone.isOpen, alone.forTcp, alone.waits, only, ?_⟩, created, more⟩
    · exact created ▸ alone.place
    · exact more.trans_lt less
  · exact .inr handed

/-- **The client takes its bytes until the packet that waits fits.**  Each writable event sends a
byte and offers the packet again; that it is offered until it fits is the retry of the source, and
the number of events is the number of bytes that are in the way. -/
theorem run_pulls (run : SoloRun t s) (alone : s.WaitsAlone handle conn length) :
    ∃ t' s' conn', SoloRun t' s' ∧
      (conn.networkToClient.inflate length).raw ∈ s'.client.appended ∧
      s'.created = s.created.set handle (.tcp conn') := by
  induction left : length.toNat - s.client.networkToClient.remaining generalizing t s with
  | zero => exact absurd left (Nat.sub_ne_zero_of_lt alone.full)
  | succ n ih =>
      obtain ⟨t', s', run', ⟨alone', created, more⟩ | ⟨handed, conn', created⟩⟩ := run_pull run alone
      · obtain ⟨t'', s'', conn', run'', handed, created'⟩ := ih run' alone' (by omega)
        exact ⟨t'', s'', conn', run'', handed, created'.trans (created ▸ rfl)⟩
      · exact ⟨t', s', conn', run', handed, created⟩

end Relay

end ReverseTether
