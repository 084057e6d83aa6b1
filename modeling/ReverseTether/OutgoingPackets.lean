import ReverseTether.ClientOutput
import ReverseTether.PulledPackets
import ReverseTether.Tunnel

/-!
# The packets in the stream to the client

Whatever a connection appends to the stream of its client has just been built, for the
payload that was read or for none, and is a valid packet.  A TCP packet that the client
rejects is not copied: it waits as a front of the buffer it was built in, and a segment
without payload that is forged meanwhile is built there as well.  So the packet that is
pulled later is the one that was built only if none was (`TcpConnection.Unforged`).

The connection records what it defers and what it delivers, and the invariant compares the
two records (`TcpConnection.Stores`): what was delivered, and what waits, is what was
deferred.

What the app makes of the stream is the other half of the statement: valid packets are found
again by their lengths, whatever the pieces they come in, and the last one may be incomplete.
A packet that is spoilt takes those behind it along, since the next length is then read from
the wrong place.
-/

namespace ReverseTether

open Library Relation

/-! ## What the app makes of the stream -/

/-- The app cuts a valid packet off as one. -/
theorem ValidPacket.appJudge {raw : List UInt8} (valid : ValidPacket raw) :
    appJudge raw = some (some raw.length) := by
  have long := valid.long
  have whole : ipv4HeaderLength raw ≤ raw.length := by
    rcases valid.transport with ⟨-, fits, -⟩ | ⟨-, fits, -⟩
    · omega
    · omega
  refine appJudge_eq_item.mpr ⟨by omega, ?_, by omega, le_rfl⟩
  have total := valid.totalLength
  rw [ipPacketLength_ipv4 valid.version, if_neg (by omega), if_neg ?_, total]
  rintro (short | short)
  · exact absurd long (not_le.mpr short)
  · rw [total] at short
    exact absurd whole (not_le.mpr short)

/-- **The stream of valid packets is split into them.**  It is the reader of the app that splits
it, so validity here is what the app asks of a packet and not what the relay means by one. -/
theorem receivePackets_flatten {packets : List (List UInt8)}
    (valid : ∀ raw ∈ packets, ValidPacket raw) :
    receivePackets packets.flatten = (packets, [], false) := by
  obtain ⟨cut, left⟩ := appRule.cut_flatten_append (fun raw mem => (valid raw mem).appJudge) []
  rw [List.append_nil] at cut left
  have none (n : ℕ) : appRule.judge [] ≠ some (some n) := by
    rw [appRule.judge_nil]
    simp
  obtain ⟨cut_nil, left_nil⟩ := LengthRule.cut_of_not_item none
  rw [Tunnel.receivePackets_eq, cut, left, cut_nil, left_nil, List.append_nil, appRule.judge_nil]
  rfl

/-! ## The record of a connection -/

/-- The packet that was rejected, as it was built. -/
def TcpAction.deferred? : TcpAction → Option (List UInt8)
  | .deferred raw => some raw
  | _ => none

/-- The packet that was pulled, as it was handed over. -/
def TcpAction.delivered? : TcpAction → Option (List UInt8)
  | .delivered raw => some raw
  | _ => none

/-- It concerns no packet that waits. -/
def TcpAction.IsPlain : TcpAction → Prop
  | .deferred _ | .delivered _ => False
  | .forged _ waiting => waiting = false
  | _ => True

/-- A plain action rejects no packet. -/
theorem TcpAction.IsPlain.deferred?_eq {action : TcpAction} (plain : action.IsPlain) :
    action.deferred? = none := by
  cases action with
  | deferred _ => exact plain.elim
  | _ => rfl

/-- A plain action hands over no packet. -/
theorem TcpAction.IsPlain.delivered?_eq {action : TcpAction} (plain : action.IsPlain) :
    action.delivered? = none := by
  cases action with
  | delivered _ => exact plain.elim
  | _ => rfl

namespace TcpConnection

variable {conn conn' : TcpConnection}

/-- The packets that were rejected, as they were built. -/
def deferredPackets (conn : TcpConnection) : List (List UInt8) :=
  conn.trace.filterMap TcpAction.deferred?

/-- The packets that were pulled, as they were handed over. -/
def deliveredPackets (conn : TcpConnection) : List (List UInt8) :=
  conn.trace.filterMap TcpAction.delivered?

/-- The packet that waits, as `get` gives it. -/
def waitingPacket (conn : TcpConnection) : List (List UInt8) :=
  (conn.get.map Ipv4Packet.raw).toList

/-- No segment was forged while a packet waited.  It is the condition under which a deferred packet
is delivered as it was built, since both are in the buffer of one packetizer. -/
def Unforged (conn : TcpConnection) : Prop := ∀ raw, .forged raw true ∉ conn.trace

/-- No packet waits. -/
theorem waitingPacket_of_idle (idle : conn.packetForClientLength = none) :
    conn.waitingPacket = [] := by
  rw [waitingPacket, get, idle]
  rfl

/-- The packet that waits is the buffer, inflated to the length that was kept. -/
theorem waitingPacket_of_waits {length : UInt16} (waits : conn.packetForClientLength = some length) :
    conn.waitingPacket = [(conn.networkToClient.inflate length).raw] := by
  rw [waitingPacket, get, waits]
  rfl

/-- What is recorded next spoils nothing. -/
theorem unforged_append {actions : List TcpAction} (trace : conn'.trace = conn.trace ++ actions)
    (plain : ∀ raw, .forged raw true ∉ actions) : conn'.Unforged ↔ conn.Unforged := by
  refine forall_congr' fun raw => not_congr ?_
  rw [trace, List.mem_append]
  exact or_iff_left (plain raw)

/-- What a connection keeps for the client: what waits has a payload and was deferred as a valid
packet, and it is delivered as it was, as long as nothing was forged over it. -/
structure Stores (conn : TcpConnection) : Prop where
  forTcp : conn.networkToClient.ForTcp
  /-- What waits has a payload. -/
  long : ∀ length, conn.packetForClientLength = some length →
    conn.networkToClient.payloadIndex < length.toNat
  valid : ∀ raw ∈ conn.deferredPackets, ValidPacket raw
  /-- What waits was deferred, or is no packet any more. -/
  waits : ∀ raw ∈ conn.waitingPacket, raw ∈ conn.deferredPackets ∨ ¬ ValidPacket raw
  order : conn.Unforged ↔ conn.deferredPackets = conn.deliveredPackets ++ conn.waitingPacket

/-- Actions that concern no packet that waits are recorded. -/
theorem Stores.of_same {actions : List TcpAction} (stores : conn.Stores)
    (packetizer : conn'.networkToClient = conn.networkToClient)
    (waiting : conn'.packetForClientLength = conn.packetForClientLength)
    (trace : conn'.trace = conn.trace ++ actions) (plain : ∀ action ∈ actions, action.IsPlain) :
    conn'.Stores := by
  have deferred : conn'.deferredPackets = conn.deferredPackets := by
    rw [deferredPackets, deferredPackets, trace, List.filterMap_append,
      List.filterMap_eq_nil_iff.mpr fun action mem => (plain action mem).deferred?_eq,
      List.append_nil]
  have delivered : conn'.deliveredPackets = conn.deliveredPackets := by
    rw [deliveredPackets, deliveredPackets, trace, List.filterMap_append,
      List.filterMap_eq_nil_iff.mpr fun action mem => (plain action mem).delivered?_eq,
      List.append_nil]
  have waits : conn'.waitingPacket = conn.waitingPacket := by
    rw [waitingPacket, waitingPacket, get, get, packetizer, waiting]
  have unforged : conn'.Unforged ↔ conn.Unforged :=
    unforged_append trace fun raw mem => Bool.false_ne_true (plain _ mem).symm
  refine ⟨packetizer ▸ stores.forTcp, ?_, deferred ▸ stores.valid, ?_, ?_⟩
  · rw [packetizer, waiting]
    exact stores.long
  · rw [waits, deferred]
    exact stores.waits
  · rw [unforged, deferred, delivered, waits]
    exact stores.order

/-- A connection with no packet that waits may change its buffer. -/
theorem Stores.withPacketizer (stores : conn.Stores) (idle : conn.packetForClientLength = none)
    {packetizer : Packetizer} (forTcp : packetizer.ForTcp) :
    Stores { conn with networkToClient := packetizer } := by
  have none : waitingPacket { conn with networkToClient := packetizer } = [] :=
    waitingPacket_of_idle idle
  refine ⟨forTcp, fun length waits => ?_, stores.valid, fun raw mem => ?_, ?_⟩
  · cases idle.symm.trans waits
  · rw [none] at mem
    exact absurd mem List.not_mem_nil
  · have order := stores.order
    rw [waitingPacket_of_idle idle] at order
    rw [none]
    exact order

/-- The only packet that was rejected waits, and a segment was forged in its buffer. -/
theorem Stores.not_valid {raw : List UInt8} {length : UInt16} (stores : conn.Stores)
    (waits : conn.packetForClientLength = some length) (deferred : conn.deferredPackets = [raw])
    (delivered : conn.deliveredPackets = []) (forged : ¬ conn.Unforged) :
    ¬ ValidPacket (conn.networkToClient.inflate length).raw := by
  have waiting := waitingPacket_of_waits waits
  rcases stores.waits _ (waiting ▸ List.mem_singleton_self _) with mem | invalid
  · rw [deferred, List.mem_singleton] at mem
    refine absurd (stores.order.mpr ?_) forged
    rw [deferred, delivered, waiting, mem]
    rfl
  · exact invalid

end TcpConnection

/-- A packet that was read has a payload. -/
theorem Packetizer.packetizeRead_nonempty {p p' : Packetizer} {available : List UInt8}
    {maxChunkSize : ℕ} {packet : Ipv4Packet}
    (h : p.packetizeRead (.ok available) maxChunkSize = .ok (.ok (some packet), p')) :
    p.chunk available maxChunkSize ≠ [] := by
  unfold packetizeRead at h
  simp only at h
  split at h
  · rename_i some
    exact List.length_pos_iff.mp some
  · cases h

/-- **A forged segment is at the front of the buffer**, and with more bytes it is no packet.  Its
total length says where it ends, and the length that is asked for at the delivery is that of the
packet that waited. -/
theorem Packetizer.ForTcp.not_valid_forged {p p' : Packetizer} {tcb : Tcb} {flags : UInt16}
    {packet : Ipv4Packet} {length : UInt16} (tcp : p.ForTcp) (mem : flags ∈ relayFlags)
    (created : TcpConnection.createEmptyResponsePacket p tcb flags = .ok (packet, p'))
    (long : p.payloadIndex < length.toNat) : ¬ ValidPacket (p'.inflate length).raw := by
  obtain ⟨header, updated, tcp', -, -, -, index⟩ := tcp.updateHeaders tcb mem
  obtain ⟨packet', p'', empty, built⟩ := tcp'.wellFormed.packetizeEmptyPayload tcp'.payloadIndex_lt
  rw [TcpConnection.createEmptyResponsePacket, updated, ok_bind, empty] at created
  cases created
  have total := built.valid.totalLength
  have bounds := built.wellFormed.transport.length_bounds
  have shorter : packet.raw.length = p.payloadIndex := built.length_raw.trans index
  have front : packet.raw <+: (p'.inflate length).raw := by
    have raw : packet.raw = p'.buffer.take p.payloadIndex := by
      rw [built.inflated, index]
      show p'.buffer.take (UInt16.ofNat (p.payloadIndex + 0)).toNat = _
      rw [UInt16.toNat_ofNat', Nat.add_zero, Nat.mod_eq_of_lt tcp.payloadIndex_lt]
    rw [raw]
    exact List.take_prefix_take_left long.le
  obtain ⟨rest, front⟩ := front
  intro valid
  have total' := valid.totalLength
  have least := built.valid.long
  have most : ipv4HeaderLength packet.raw ≤ packet.raw.length := by
    rcases built.valid.transport with ⟨-, fits, -⟩ | ⟨-, fits, -⟩
    · omega
    · omega
  rw [built.wellFormed.length_inflate, ← front, getU16_append_left (by omega), total, shorter] at total'
  omega

/-! ## What a connection appends -/

/-- Valid packets were appended to the stream.  Nothing that was there is touched. -/
def Client.Appends (client client' : Client) : Prop :=
  ∃ blocks, client'.appended = client.appended ++ blocks ∧ ∀ raw ∈ blocks, ValidPacket raw

namespace Client.Appends

variable {client client₁ client' : Client}

/-- A client whose stream did not grow was appended nothing to. -/
theorem of_same (same : client'.appended = client.appended) : client.Appends client' :=
  ⟨[], by rw [same, List.append_nil], by simp⟩

theorem trans (first : client.Appends client₁) (second : client₁.Appends client') :
    client.Appends client' := by
  obtain ⟨blocks, appended, valid⟩ := first
  obtain ⟨blocks', appended', valid'⟩ := second
  refine ⟨blocks ++ blocks', by rw [appended', appended, List.append_assoc], fun raw mem => ?_⟩
  exact (List.mem_append.mp mem).elim (valid raw) (valid' raw)

/-- **A valid packet is appended whole, or not at all.**  The stream of the client holds packets
and never a part of one. -/
theorem of_send {selector selector' : Selector} {packet : Ipv4Packet} {sent : IoResult Unit}
    (valid : ValidPacket packet.raw)
    (offered : client.sendToClient selector packet = .ok (sent, client', selector')) :
    client.Appends client' := by
  obtain ⟨-, -, -, ⟨-, -, -, appended⟩ | ⟨-, -, rfl, -⟩⟩ := Client.sendRawToClient_ok offered
  · refine ⟨[packet.raw], appended, fun raw mem => ?_⟩
    rw [List.mem_singleton.mp mem]
    exact valid
  · exact of_same rfl

/-- With valid packets appended, all of them are valid. -/
theorem valid (appends : client.Appends client') (before : ∀ raw ∈ client.appended, ValidPacket raw) :
    ∀ raw ∈ client'.appended, ValidPacket raw := by
  obtain ⟨blocks, appended, valid⟩ := appends
  rw [appended]
  intro raw mem
  exact (List.mem_append.mp mem).elim (before raw) (valid raw)

end Client.Appends

/-- What a connection keeps and what it appends: as long as it stores its packet properly, all it
hands over is valid. -/
def TcpContext.Hands (c c' : TcpContext) : Prop :=
  c.conn.Stores → c'.conn.Stores ∧ c.client.Appends c'.client

namespace TcpContext

variable {c c₁ c' : TcpContext}

theorem Hands.trans (first : c.Hands c₁) (second : c₁.Hands c') : c.Hands c' := by
  intro stores
  obtain ⟨stores₁, appends₁⟩ := first stores
  obtain ⟨stores', appends'⟩ := second stores₁
  exact ⟨stores', appends₁.trans appends'⟩

/-- A move that records plain actions and leaves the packetizer alone. -/
theorem Hands.of_same {actions : List TcpAction}
    (packetizer : c'.conn.networkToClient = c.conn.networkToClient)
    (waiting : c'.conn.packetForClientLength = c.conn.packetForClientLength)
    (trace : c'.conn.trace = c.conn.trace ++ actions) (plain : ∀ action ∈ actions, action.IsPlain)
    (appended : c'.client.appended = c.client.appended) : c.Hands c' :=
  fun stores => ⟨stores.of_same packetizer waiting trace plain, .of_same appended⟩

/-- Nothing is recorded. -/
theorem Hands.of_silent (packetizer : c'.conn.networkToClient = c.conn.networkToClient)
    (waiting : c'.conn.packetForClientLength = c.conn.packetForClientLength)
    (trace : c'.conn.trace = c.conn.trace) (appended : c'.client.appended = c.client.appended) :
    c.Hands c' :=
  .of_same packetizer waiting (trace.trans (List.append_nil _).symm) (by simp) appended

/-- A forged segment is valid, and spoils a packet that waits. -/
theorem reply_hands {flags : UInt16} (mem : flags ∈ relayFlags)
    (h : c.replyEmptyPacketToClient flags = .ok c') : c.Hands c' := by
  intro stores
  obtain ⟨packet, packetizer, sent, created, offered, same⟩ := replyEmptyPacketToClient_ok h
  obtain ⟨packet', packetizer', created', forTcp, index, -, valid, -⟩ :=
    stores.forTcp.createEmptyResponsePacket c.conn.tcb mem
  cases created.symm.trans created'
  refine ⟨?_, .of_send valid offered⟩
  have trace : c'.conn.trace = c.conn.trace ++ [.forged packet.raw c.conn.waiting] := by
    rw [same]
    rfl
  cases waiting : c.conn.packetForClientLength with
  | none =>
      refine (stores.withPacketizer waiting forTcp).of_same (by rw [same]; rfl) (by rw [same]; rfl)
        trace ?_
      intro action mem
      rw [List.mem_singleton.mp mem]
      show c.conn.waiting = false
      rw [TcpConnection.waiting, waiting]
      rfl
  | some length =>
      have long := stores.long length waiting
      have deferred : c'.conn.deferredPackets = c.conn.deferredPackets := by
        rw [same]
        exact List.filterMap_append.trans (List.append_nil _)
      have waits : c'.conn.waitingPacket = [(packetizer.inflate length).raw] := by
        rw [same]
        exact TcpConnection.waitingPacket_of_waits waiting
      -- the headers of the segment are those of what waits
      have invalid : ¬ ValidPacket (packetizer.inflate length).raw :=
        stores.forTcp.not_valid_forged mem created long
      refine ⟨?_, fun length' waits' => ?_, deferred ▸ stores.valid, fun raw mem => .inr ?_, ?_⟩
      · rw [same]
        exact forTcp
      · rw [same] at waits' ⊢
        cases waiting.symm.trans waits'
        exact lt_of_eq_of_lt index long
      · rw [waits, List.mem_singleton] at mem
        exact mem ▸ invalid
      · refine iff_of_false (fun unforged => ?_) fun order => ?_
        · have spoilt : c.conn.waiting = true := by
            rw [TcpConnection.waiting, waiting]
            rfl
          refine unforged packet.raw ?_
          rw [trace, spoilt]
          exact List.mem_append_right _ (List.mem_singleton_self _)
        · -- what was deferred is valid
          refine invalid (stores.valid _ ?_)
          rw [← deferred, order, waits]
          exact List.mem_append_right _ (List.mem_singleton_self _)

/-- Changing the control block hands over nothing. -/
theorem withTcb_hands (c : TcpContext) (f : Tcb → Tcb) : c.Hands (c.withTcb f) :=
  .of_silent rfl rfl rfl rfl

/-- Something that concerns no packet is recorded. -/
theorem record_hands (c : TcpContext) {action : TcpAction} (plain : action.IsPlain) :
    c.Hands (c.record action) := by
  refine .of_same rfl rfl rfl ?_ rfl
  intro action' mem
  rw [List.mem_singleton.mp mem]
  exact plain

/-- Acknowledging bytes hands over nothing by itself. -/
theorem acknowledge_hands (c : TcpContext) (written : List UInt8)
    (clientToNetwork : StreamBuffer (4 * maxPacketLength)) :
    c.Hands (c.acknowledge written clientToNetwork) := by
  have noted : c.Hands (withTcb { c with conn := { c.conn with clientToNetwork } } fun tcb =>
      { tcb with acknowledgementNumber := tcb.acknowledgementNumber + UInt32.ofNat written.length }) :=
    .of_silent rfl rfl rfl rfl
  exact noted.trans (record_hands _ trivial)

/-- Neither does counting a FIN. -/
theorem countReceivedFin_hands (c : TcpContext) : c.Hands c.countReceivedFin :=
  (c.withTcb_hands _).trans (record_hands _ trivial)

/-- Bytes of the host become a packet, which is valid, and is recorded as it was built. -/
theorem sendDataToClient_hands {packetizer : Packetizer} {packet : Ipv4Packet}
    (idle : c.conn.packetForClientLength = none) (forTcp : packetizer.ForTcp)
    (valid : ValidPacket packet.raw)
    (inflated : (packetizer.inflate packet.length).raw = packet.raw)
    (long : packetizer.payloadIndex < packet.length.toNat)
    (h : sendDataToClient { c with conn := { c.conn with networkToClient := packetizer } } packet =
      .ok c') : c.Hands c' := by
  intro stores
  obtain ⟨sent, client, selector, offered, kind⟩ := sendDataToClient_ok h
  have appends : c.client.Appends client := .of_send valid offered
  have built := stores.withPacketizer idle forTcp
  rcases kind with ⟨payload, -, -, conn, rfl, -⟩ | ⟨-, conn, client', -⟩
  · refine ⟨?_, appends⟩
    rw [conn]
    refine built.of_same rfl rfl (show _ = _ ++ [TcpAction.handed packet.raw] from rfl) ?_
    intro action mem
    rw [List.mem_singleton.mp mem]
    trivial
  · refine ⟨?_, ?_⟩
    · have deferred : c'.conn.deferredPackets = c.conn.deferredPackets ++ [packet.raw] := by
        rw [conn]
        exact List.filterMap_append
      have delivered : c'.conn.deliveredPackets = c.conn.deliveredPackets := by
        rw [conn]
        exact List.filterMap_append.trans (List.append_nil _)
      have waits : c'.conn.waitingPacket = [packet.raw] := by
        rw [conn]
        exact congrArg (fun raw => [raw]) inflated
      have unforged : c'.conn.Unforged ↔ c.conn.Unforged := by
        have trace : c'.conn.trace = c.conn.trace ++ [.deferred packet.raw] := by
          rw [conn]
          rfl
        exact TcpConnection.unforged_append trace fun raw mem => by simp at mem
      refine ⟨by rw [conn]; exact forTcp, fun length waits => ?_, fun raw mem => ?_,
        fun raw mem => .inl ?_, ?_⟩
      · rw [conn] at waits ⊢
        cases waits
        exact long
      · rw [deferred, List.mem_append, List.mem_singleton] at mem
        rcases mem with mem | rfl
        · exact stores.valid raw mem
        · exact valid
      · rw [deferred]
        rw [waits] at mem
        exact List.mem_append_right _ mem
      · have order := stores.order
        rw [TcpConnection.waitingPacket_of_idle idle, List.append_nil] at order
        rw [unforged, deferred, delivered, waits, List.append_left_inj]
        exact order
    · rw [client']
      exact appends

end TcpContext

/-- **What a step hands over is valid**, and the records stay in order.  The moves that build a
packet take it from well-formed headers, and the move that delivers one takes what is in the
buffer; whether that is still the packet that was deferred is the condition. -/
theorem TcpMove.hands {may : TcpWork → Prop} {c c' : TcpContext} (move : TcpMove may c c') :
    c.Hands c' := by
  cases move with
  | touch now => exact .of_silent rfl rfl rfl rfl
  | interests updated =>
      obtain ⟨-, conn, client, -⟩ := TcpContext.updateInterests_ok updated
      exact .of_silent (by rw [conn]) (by rw [conn]) (by rw [conn]) (by rw [client])
  | prime _ idle primed =>
      intro stores
      obtain ⟨header, primed', forTcp, -⟩ :=
        stores.forTcp.updateHeaders c.conn.tcb (show flagAck ||| flagPsh ∈ relayFlags by decide)
      cases primed.symm.trans primed'
      exact ⟨stores.withPacketizer idle forTcp, .of_same rfl⟩
  | forge plain forged =>
      refine TcpContext.reply_hands ?_ forged
      rcases plain with rfl | rfl <;> decide
  | close =>
      have closed : c.Hands (c.record (.closed c.conn.waiting)) := c.record_hands trivial
      exact closed.trans (.of_silent rfl rfl rfl rfl)
  | removeFromRouter => exact .of_silent rfl rfl rfl rfl
  | @connect c₁ _ _ forged =>
      exact ((c.withTcb_hands _).trans (TcpContext.reply_hands (by decide) forged)).trans
        (c₁.withTcb_hands _)
  | write _ _ _ _ _ => exact c.acknowledge_hands _ _
  | writeLast _ _ _ _ _ _ =>
      exact (c.acknowledge_hands _ _).trans (TcpContext.countReceivedFin_hands _)
  | @receive _ primed packetizer available packet _ _ idle updated packetized sent =>
      intro stores
      obtain ⟨forTcp, built, inflated, -⟩ :=
        TcpContext.packetizeRead_segment stores.forTcp updated packetized
      have read : c.Hands (c.record (.read (primed.chunk available c.receivable))) :=
        c.record_hands trivial
      have long : packetizer.payloadIndex < packet.length.toNat := by
        have some := List.length_pos_iff.mpr (Packetizer.packetizeRead_nonempty packetized)
        rw [built.length, UInt16.toNat_ofNat', Nat.mod_eq_of_lt built.fits, built.payloadIndex]
        omega
      exact read.trans (TcpContext.sendDataToClient_hands idle forTcp built.valid inflated long sent)
        stores
  | eof _ _ ended =>
      obtain ⟨c₁, forged, rest⟩ := bind_eq_ok.mp ended
      cases rest
      have read : c.Hands (c.record .readEof) := c.record_hands trivial
      exact (read.trans (TcpContext.reply_hands (by decide) forged)).trans (c₁.withTcb_hands _)
  | @answerFin c₁ _ forged =>
      exact (TcpContext.reply_hands (by decide) forged).trans (c₁.withTcb_hands _)
  | closing _ => exact c.withTcb_hands _
  | finAcked _ => exact c.withTcb_hands _
  | @deliver length _ waits =>
      intro stores
      let raw := (c.conn.networkToClient.inflate length).raw
      have deferred : (c.conn.trace ++ [TcpAction.delivered raw]).filterMap TcpAction.deferred? =
          c.conn.deferredPackets := List.filterMap_append.trans (List.append_nil _)
      have delivered : (c.conn.trace ++ [TcpAction.delivered raw]).filterMap TcpAction.delivered? =
          c.conn.deliveredPackets ++ [raw] := List.filterMap_append
      refine ⟨⟨stores.forTcp, (fun length waits => by cases waits),
        fun raw mem => stores.valid raw (deferred ▸ mem), (fun raw mem => by cases mem), ?_⟩,
        .of_same rfl⟩
      have order := stores.order
      rw [TcpConnection.waitingPacket_of_waits waits] at order
      refine (TcpConnection.unforged_append rfl fun raw mem => by simp at mem).trans (order.trans ?_)
      refine Iff.of_eq (congr (congrArg Eq deferred.symm) ?_)
      exact delivered.symm.trans (List.append_nil _).symm

/-- **What a TCP connection hands over is valid**, over a sequence of moves.  It is the induction
over the moves; the order of the records is what `Each` speaks about. -/
theorem TcpMoves.hands {may : TcpWork → Prop} {c c' : TcpContext} (moves : TcpMoves may c c') :
    c.Hands c' := by
  induction moves with
  | refl => exact .of_silent rfl rfl rfl rfl
  | tail _ move ih => exact ih.trans move.hands

/-- What a segment brings hands nothing over, before it is answered. -/
theorem TcpArrival.hands {packet : Ipv4Packet} {header : TcpHeaderData} {random : UInt32}
    {c c' : TcpContext} (arrival : TcpArrival packet header random c c') : c.Hands c' := by
  cases arrival with
  | opened _ _ => exact (c.withTcb_hands _).trans (TcpContext.record_hands _ trivial)
  | @expected acked _ _ _ _ ackPart =>
      have client : acked.client = c.client := by
        split at ackPart
        · have kept := TcpContext.handleAck_client ackPart
          exact kept
        · cases ackPart
          rfl
      have heard : c.Hands acked := by
        rcases ackPart_ok ackPart with ⟨-, -, same⟩ | ⟨same, -⟩ | ⟨payload, clientToNetwork, -, -, same⟩
        · exact .of_silent (by rw [same]; rfl) (by rw [same]; rfl) (by rw [same]; rfl) (by rw [client])
        · exact .of_silent (by rw [same]; rfl) (by rw [same]; rfl) (by rw [same]; rfl) (by rw [client])
        · exact .of_silent (by rw [same]; rfl) (by rw [same]; rfl) (by rw [same]; rfl) (by rw [client])
      refine heard.trans ?_
      split
      · unfold TcpContext.noteFin
        simp only
        split
        · exact (acked.withTcb_hands _).trans (TcpContext.countReceivedFin_hands _)
        · exact acked.withTcb_hands _
      · exact .of_silent rfl rfl rfl rfl
  | _ => exact .of_silent rfl rfl rfl rfl

/-- **What a call of a TCP connection hands over is valid.**  A call is a header that is heard and
a sequence of moves, and hearing hands over nothing. -/
theorem TcpContext.Returns.hands {c c' : TcpContext} {call : ConnectionCall}
    (returns : c.Returns call c') : c.Hands c' := by
  obtain ⟨c₁, hears, moves⟩ := returns.moves
  refine .trans ?_ moves.hands
  cases hears with
  | nothing => exact .of_silent rfl rfl rfl rfl
  | @packet _ answers _ _ _ arrival =>
      have touched : c.Hands { c with conn := c.conn.touch answers.now } := .of_silent rfl rfl rfl rfl
      exact touched.trans arrival.hands

/-- The record of a TCP connection grows. -/
theorem TcpContext.Returns.trace_prefix {c c' : TcpContext} {call : ConnectionCall}
    (returns : c.Returns call c') : c.conn.trace <+: c'.conn.trace := by
  obtain ⟨c₁, hears, moves⟩ := returns.moves
  have heard : c.conn.trace <+: c₁.conn.trace := by
    cases hears with
    | nothing => exact List.prefix_refl _
    | packet _ arrival => exact arrival.trace_prefix
  refine heard.trans ?_
  clear returns
  induction moves with
  | refl => exact List.prefix_refl _
  | tail _ move ih => exact ih.trans move.trace_prefix

/-! ### Datagrams -/

/-- A datagram makes a valid packet, or there is an overflow. -/
theorem Packetizer.WellFormed.packetize_ok {p p' : Packetizer} {datagram : List UInt8}
    {result : IoResult Ipv4Packet} (wf : p.WellFormed)
    (h : p.packetize (.ok datagram) = .ok (result, p')) :
    ∃ packet, result = .ok packet ∧ p'.WellFormed ∧ ValidPacket packet.raw := by
  obtain ⟨⟨packet, p₁⟩, built, rest⟩ := bind_eq_ok.mp h
  cases rest
  obtain ⟨wf', front⟩ := wf.receive (List.length_take_le p.payload.length datagram)
  have all := Packetizer.length_payload wf
  have length := List.length_take_le p.payload.length datagram
  by_cases fits : p.payloadIndex + (datagram.take p.payload.length).length < 65536
  · obtain ⟨packet', p₂, built', made⟩ := wf'.build_take (show p.payloadIndex + _ < _ from fits) front
    cases built.symm.trans built'
    exact ⟨packet, rfl, made.wellFormed, made.valid⟩
  · have bounds := wf.transport.length_bounds
    have small : (UInt16.ofNat (datagram.take p.payload.length).length).toNat =
        (datagram.take p.payload.length).length := by
      rw [payloadIndex] at all
      rw [UInt16.toNat_ofNat', Nat.mod_eq_of_lt (by omega)]
    have full : 65536 ≤ (p.receive (datagram.take p.payload.length)).payloadIndex +
        (datagram.take p.payload.length).length := not_lt.mp fits
    rw [Packetizer.build, small, if_pos full] at built
    cases built

/-- **What a UDP connection hands over is valid.**  A UDP connection keeps no packet back: it is
appended or lost, so that no condition is needed. -/
theorem UdpMove.hands {c c' : UdpContext} (move : UdpMove c c')
    (wf : c.conn.networkToClient.WellFormed) :
    c'.conn.networkToClient.WellFormed ∧ c.client.Appends c'.client := by
  cases move with
  | interests updated =>
      unfold UdpContext.updateInterests at updated
      split at updated
      · obtain ⟨_, -, rest⟩ := bind_eq_ok.mp updated
        cases rest
        exact ⟨wf, .of_same rfl⟩
      · cases updated
        exact ⟨wf, .of_same rfl⟩
  | @read source result c' wasRead =>
      obtain ⟨⟨packet, networkToClient⟩, packetized, h⟩ := bind_eq_ok.mp wasRead
      cases source with
      | error err =>
          cases packetized
          cases h
          exact ⟨wf, .of_same rfl⟩
      | ok datagram =>
          obtain ⟨packet', rfl, wf', valid⟩ := wf.packetize_ok packetized
          obtain ⟨⟨sent, client, selector⟩, offered, rest⟩ := bind_eq_ok.mp h
          cases rest
          exact ⟨wf', .of_send valid offered⟩
  | _ => exact ⟨wf, .of_same rfl⟩

/-- **What a UDP connection hands over is valid**, over a sequence of moves.  The packetizer stays
well formed, which the next packet asks for. -/
theorem UdpMoves.hands {c c' : UdpContext} (moves : UdpMoves c c')
    (wf : c.conn.networkToClient.WellFormed) :
    c'.conn.networkToClient.WellFormed ∧ c.client.Appends c'.client := by
  induction moves with
  | refl => exact ⟨wf, .of_same rfl⟩
  | tail _ move ih =>
      obtain ⟨wf₁, appends₁⟩ := ih
      obtain ⟨wf', appends'⟩ := move.hands wf₁
      exact ⟨wf', appends₁.trans appends'⟩

/-! ## New connections -/

/-- What comes to the router was parsed. -/
theorem parse_of_arrivals {buffer : IpPacketBuffer} {packet : IpPacket}
    (mem : packet ∈ arrivals buffer) : ∃ raw, IpPacket.parse raw = .ok (.ok packet) := by
  obtain ⟨verdict, listed, routed⟩ := List.mem_filterMap.mp mem
  cases verdict with
  | dropped _ => cases routed
  | closed _ => cases routed
  | routed arrived =>
      cases routed
      obtain ⟨raw, front⟩ := Framing.front_of_mem listed
      change frontVerdict raw = _ ∨ ∃ n, frontVerdict raw = _ at front
      unfold frontVerdict at front
      split at front
      · rcases front with front | ⟨n, front⟩
        · cases front
        · cases front
      · rcases front with front | ⟨n, front⟩
        · cases front
        · cases front
      · rename_i length known
        refine ⟨raw.take length, ?_⟩
        obtain ⟨result, parsed⟩ := IpPacket.parse_returns (raw.take length)
        rw [parsed] at front ⊢
        cases result with
        | ok packet' =>
            rcases front with front | ⟨n, front⟩
            · cases front
            · cases front
              rfl
        | error reason =>
            cases reason with
            | unsupported _ =>
                rcases front with front | ⟨n, front⟩
                · cases front
                · cases front
            | malformed _ =>
                rcases front with front | ⟨n, front⟩
                · cases front
                · cases front

/-- A packet that a step is the cause of came from the front of the input. -/
theorem Relay.Causes.parsed {s : Relay} {label : Label} {packet : IpPacket} {answers : PacketAnswers}
    (caused : s.Causes label (.packet packet answers)) :
    ∃ raw, IpPacket.parse raw = .ok (.ok packet) := by
  cases caused with
  | client _ caused =>
      cases caused with
      | packet brings => exact parse_of_arrivals (List.mem_of_getElem? brings.2.2)

/-- What a connection keeps for the client. -/
def Connection.Stores : Connection → Prop
  | .tcp conn => conn.Stores
  | .udp conn => conn.networkToClient.WellFormed
  | .ipv6 _ => True

/-- A connection over IPv4, which forged no segment while a packet waited. -/
def Connection.Unspoilt : Connection → Prop
  | .tcp conn => conn.Unforged
  | .udp _ => True
  | .ipv6 _ => False

/-- A new TCP connection has nothing that waits. -/
theorem TcpConnection.Fresh.stores {conn : TcpConnection} (fresh : conn.Fresh) : conn.Stores := by
  have forTcp := fresh.forTcp
  obtain ⟨handle, id, packetizer, now, rfl⟩ := fresh.eq_initial
  refine ⟨forTcp, fun length waits => ?_, fun raw mem => ?_, fun raw mem => ?_,
    iff_of_true (fun raw mem => ?_) rfl⟩
  · cases waits
  · cases mem
  · cases mem
  · cases mem

/-- **A new connection over IPv4 keeps its packets**: the packetizer was made from the headers of
the packet that opened it. -/
theorem Router.createConnection_stores {c : ClientContext} {id : ConnectionId} {packet : IpPacket}
    {answers : PacketAnswers} {conn : Connection} {selector : Selector} {raw : List UInt8}
    (parsed : IpPacket.parse raw = .ok (.ok packet)) (flow : ConnectionId.fromPacket packet = some id)
    (created : createConnection c id packet answers = .ok (.ok (conn, selector))) : conn.Stores := by
  cases createConnection_creates created with
  | tcp _ headers made =>
      exact TcpConnection.Fresh.stores ⟨_, _, _, _, _, _, _, _, _, parsed, flow, headers, made⟩
  | @udp packet ipv4Header transportHeader conn _ protocol headers made =>
      obtain ⟨transport, known, same⟩ := Option.map_eq_some_iff.mp flow
      have udp : packet.ipv4HeaderData.protocol = .udp := by
        rw [← protocol, ← same]
        rfl
      obtain ⟨_, _, fresh, headers', new, reverses, -⟩ := Packetizer.new_reverses_udp parsed udp
      cases headers.symm.trans headers'
      obtain ⟨packetizer, new', rest⟩ := bind_eq_ok.mp made
      cases new.symm.trans new'
      cases rest
      exact reverses.wellFormed
  | ipv6 _ => trivial

/-! ## Every move -/

/-- **What a call hands over is valid**, if the connection is one over IPv4.  An IPv6 connection
has a packetizer of its own, whose packets are looked at in another module. -/
theorem ConnectionContext.Executes.hands {c f : ConnectionContext} {call : ConnectionCall}
    (executes : c.Executes call f) (stores : c.conn.Stores) :
    f.conn.Stores ∧ (f.conn.Unspoilt → c.conn.Unspoilt ∧ c.client.Appends f.client) := by
  obtain ⟨conn, client, selector⟩ := c
  have returns := executes.returns
  cases conn with
  | tcp conn =>
      obtain ⟨connections, c', returns, same⟩ := returns.tcp
      obtain ⟨stores', appends⟩ := returns.hands stores
      rw [same.conn]
      refine ⟨stores', fun unforged => ⟨fun raw mem => ?_, ?_⟩⟩
      · exact unforged raw (returns.trace_prefix.subset mem)
      · obtain ⟨blocks, appended, valid⟩ := appends
        exact ⟨blocks, same.appended.trans appended, valid⟩
  | udp conn =>
      obtain ⟨connections, c', returns, same⟩ := returns.udp
      obtain ⟨stores', appends⟩ := (UdpContext.Returns.moves returns).hands stores
      rw [same.conn]
      refine ⟨stores', fun _ => ⟨trivial, ?_⟩⟩
      obtain ⟨blocks, appended, valid⟩ := appends
      exact ⟨blocks, same.appended.trans appended, valid⟩
  | ipv6 conn =>
      obtain ⟨connections, c', returns, same⟩ := returns.ipv6
      rw [same.conn]
      exact ⟨trivial, False.elim⟩

/-- Every connection keeps its packets, and if none spoilt one, valid packets are all that the
client got. -/
structure ClientContext.Framed (c : ClientContext) : Prop where
  stores : ∀ (handle : Handle) conn, c.created[handle]? = some conn → conn.Stores
  valid : (∀ (handle : Handle) conn, c.created[handle]? = some conn → conn.Unspoilt) →
    ∀ raw ∈ c.client.appended, ValidPacket raw

namespace ClientContext.Framed

variable {c c' : ClientContext}

theorem congr (framed : c.Framed) (created : c'.created = c.created)
    (appended : c'.client.appended = c.client.appended) : c'.Framed :=
  ⟨created ▸ framed.stores, by rw [created, appended]; exact framed.valid⟩

/-- A connection of the client is called. -/
theorem acts (framed : c.Framed) (routed : c.Routed) {handle : Handle} {conn : Connection}
    {call : ConnectionCall} {f : ConnectionContext} (place : c.created[handle]? = some conn)
    (executes : (c.enter conn).Executes call f) : (c.leave f.removeIfClosed).Framed := by
  obtain ⟨stores, hands⟩ := executes.hands (framed.stores handle conn place)
  have inside := (List.getElem?_eq_some_iff.mp place).1
  have created : (c.leave f.removeIfClosed).created = c.created.set handle f.conn :=
    routed.leave_created place executes.toActs
  have appended : (c.leave f.removeIfClosed).client.appended = f.client.appended := by
    show f.removeIfClosed.client.appended = _
    unfold ConnectionContext.removeIfClosed
    split <;> rfl
  refine ⟨fun other conn' place' => ?_, fun unspoilt => ?_⟩
  · rw [created, List.getElem?_set] at place'
    split at place'
    · cases place'
      exact stores
    · exact framed.stores other conn' place'
  · obtain ⟨before, appends⟩ := hands (unspoilt handle f.conn (by
      rw [created]
      exact List.getElem?_set_self inside))
    rw [appended]
    refine appends.valid (framed.valid fun other conn' place' => ?_)
    by_cases same : handle = other
    · subst same
      cases place.symm.trans place'
      exact before
    · refine unspoilt other conn' ?_
      rw [created, List.getElem?_set_ne same]
      exact place'

/-- A flow is opened. -/
theorem insert (framed : c.Framed) {id : ConnectionId} {conn : Connection} {selector : Selector}
    (stores : conn.Stores) : (Router.insert c id conn selector).Framed := by
  have created : (Router.insert c id conn selector).created = c.created ++ [conn] := rfl
  refine ⟨fun handle conn' place => ?_, fun unspoilt => framed.valid fun handle conn' place => ?_⟩
  · rw [created, List.getElem?_append] at place
    split at place
    · exact framed.stores handle conn' place
    · rw [List.getElem?_singleton] at place
      split at place
      · cases place
        exact stores
      · cases place
  · refine unspoilt handle conn' ?_
    rw [created, List.getElem?_append_left (List.getElem?_eq_some_iff.mp place).1]
    exact place

end ClientContext.Framed

/-- **What every move hands over is valid**, also what is pulled.  What is pulled comes from a
connection that has kept it, and an unspoilt one has kept it as it was. -/
theorem ClientMove.framed {may : ConnectionCall → Prop} {reads : Prop} {c c' : ClientContext}
    (parsed : ∀ packet answers, may (.packet packet answers) →
      ∃ raw, IpPacket.parse raw = .ok (.ok packet))
    (routed : c.Routed) (framed : c.Framed) (move : ClientMove may reads c c') : c'.Framed := by
  cases move with
  | acts place _ _ executes => exact framed.acts routed place executes
  | @opens id conn selector packet answers f allowed flow new created executes =>
      obtain ⟨raw, parsed⟩ := parsed _ _ allowed
      have inserted : (Router.insert c id conn selector).Framed :=
        framed.insert (Router.createConnection_stores parsed flow created)
      exact inserted.acts (Router.insert_routed routed new created) (Router.insert_place _ _ _ _)
        executes
  | @serves client selector _ _ sends _ =>
      rcases sends with ⟨appended, -⟩ | ⟨-, appended | ⟨handle, conn, packet, place, got, appended⟩⟩
      · exact framed.congr rfl appended
      · exact framed.congr rfl appended
      · refine ⟨framed.stores, fun unspoilt raw mem => ?_⟩
        have mem : raw ∈ client.appended := mem
        rw [appended, List.mem_append, List.mem_singleton] at mem
        rcases mem with mem | rfl
        · exact framed.valid unspoilt raw mem
        · -- what waits was deferred
          have stores : conn.Stores := framed.stores handle _ place
          have unforged : conn.Unforged := unspoilt handle _ place
          refine stores.valid _ ?_
          rw [stores.order.mp unforged, TcpConnection.waitingPacket, got]
          exact List.mem_append_right _ (List.mem_singleton_self _)
  | receives _ _ => exact framed.congr rfl rfl
  | sendsId _ _ => exact framed.congr rfl rfl
  | writes _ _ => exact framed.congr rfl rfl
  | closes => exact framed.congr rfl rfl

namespace Relay

variable {s s' : Relay} {label : Label} {t : List (Relay × Label)}

/-- Every connection of the client, open or not, is one over IPv4. -/
def OnlyIpv4 (s : Relay) : Prop :=
  ∀ (handle : Handle) conn, s.created[handle]? = some conn → ∀ ipv6, conn ≠ .ipv6 ipv6

/-- No TCP connection of the client forged a segment while a packet waited. -/
def Unforged (s : Relay) : Prop :=
  ∀ (handle : Handle) conn, s.created[handle]? = some (.tcp conn) → conn.Unforged

/-- What the client gets is framed: behind its id, the stream is made of whole packets, and each
packet that had to wait comes out as it was built. -/
structure DeliversPackets (s : Relay) : Prop where
  /-- Every block that was appended is one complete packet. -/
  valid : ∀ raw ∈ s.client.appended, ValidPacket raw
  /-- Behind the id, the stream is these blocks, and the app splits it into them. -/
  framing : s.received ++ (u32Bytes s.client.id).drop (4 - s.client.pendingIdBytes) ++
      s.client.networkToClient.contents = u32Bytes s.client.id ++ s.client.appended.flatten ∧
    receivePackets s.client.appended.flatten = (s.client.appended, [], false)
  /-- The packets that were pulled are those that were rejected, as they were built, and the
  last one may still wait. -/
  delivered : ∀ (handle : Handle) conn, s.created[handle]? = some (.tcp conn) →
    conn.deferredPackets = conn.deliveredPackets ++ conn.waitingPacket

/-- In every run the client is framed. -/
theorem run_framed (run : machine.Run t s) : s.Framed := by
  refine (run.invariant (fun s => s.Routed ∧ s.Framed) ?_ ?_ (Machine.meets_true t)).2
  · rintro _ ⟨id, rfl⟩
    refine ⟨create_routed id, ⟨fun handle conn place => ?_, fun _ raw mem => ?_⟩⟩
    · cases place
    · cases mem
  · rintro s label s' ⟨routed, framed⟩ - step
    refine ⟨Step.routed routed step, ?_⟩
    rcases Step.moves routed step with ⟨moves, -⟩ | rfl | ⟨connections, -, rfl⟩
    · exact ClientMoves.invariant
        (fun _ _ routed framed move => move.framed (fun _ _ => Causes.parsed) routed framed) routed
        framed moves
    · exact framed.congr rfl rfl
    · exact framed.congr rfl rfl

/-- **The packets in every run.**  Over IPv4, the stream to the client consists of valid
packets, which the app splits it into, and deferred packets are delivered as they were
built, exactly as long as no segment is forged while a packet waits. -/
theorem run_deliversPackets_iff (run : machine.Run t s) (only : s.OnlyIpv4) :
    s.DeliversPackets ↔ s.Unforged := by
  have framed := run_framed run
  constructor
  · intro delivers handle conn place
    have stores : conn.Stores := framed.stores handle _ place
    exact stores.order.mpr (delivers.delivered handle conn place)
  · intro unforged
    have valid : ∀ raw ∈ s.client.appended, ValidPacket raw := by
      refine framed.valid fun handle conn place => ?_
      cases conn with
      | tcp conn => exact unforged handle conn place
      | udp conn => trivial
      | ipv6 conn => exact absurd rfl (only handle _ place conn)
    refine ⟨valid, ⟨(run_streams run).stream, receivePackets_flatten valid⟩,
      fun handle conn place => ?_⟩
    have stores : conn.Stores := framed.stores handle _ place
    exact stores.order.mp (unforged handle conn place)

/-- One TCP flow next to a UDP flow is all there is. -/
theorem place_of_created {udp : UdpConnection} {conn conn' : TcpConnection} {handle : Handle}
    (created : s.created = [.udp udp, .tcp conn]) (place : s.created[handle]? = some (.tcp conn')) :
    handle = 1 ∧ conn' = conn := by
  rw [created] at place
  rcases handle with _ | _ | handle
  · cases place
  · cases place
    exact ⟨rfl, rfl⟩
  · cases place

/-- A UDP connection and a TCP connection over IPv4 are all there are. -/
theorem OnlyIpv4.of_created {udp : UdpConnection} {conn : TcpConnection}
    (created : s.created = [.udp udp, .tcp conn]) : s.OnlyIpv4 := by
  intro handle other place ipv6
  rw [created] at place
  rcases handle with _ | _ | handle
  · cases place
    simp
  · cases place
    simp
  · cases place

/-- A packet waits behind a stream that is full. -/
theorem run_deliversPackets_waits : ∃ t s conn raw, machine.Run t s ∧ s.HoldsBack conn raw ∧
    s.DeliversPackets := by
  obtain ⟨t, s, conn, raw, run, -, -, holds⟩ := run_waits
  obtain ⟨udp, created⟩ := holds.created
  obtain ⟨synAck, trace⟩ := holds.trace
  refine ⟨t, s, conn, raw, run.run, holds,
    (run_deliversPackets_iff run.run (.of_created created)).mpr fun handle conn' place forged mem => ?_⟩
  obtain ⟨-, rfl⟩ := place_of_created created place
  rw [trace] at mem
  simp at mem

/-! ## A packet that is spoilt -/

/-- The TCP flow is the only pending source. -/
theorem pendingPacketSources_of_created {udp : UdpConnection} {conn : TcpConnection}
    (run : machine.Run t s) (created : s.created = [.udp udp, .tcp conn])
    (waits : conn.packetForClientLength.isSome = true) : s.client.pendingPacketSources = [1] := by
  have tracks := run_tracks run
  refine List.perm_singleton.mp ((List.perm_ext_iff_of_nodup tracks.once (List.nodup_singleton 1)).mpr
    fun handle => (tracks.listed_iff handle).trans ?_)
  rw [List.mem_singleton]
  constructor
  · rintro ⟨conn', place, -⟩
    exact (place_of_created created place).1
  · rintro rfl
    exact ⟨conn, by rw [created]; rfl, waits⟩

/-- The client sends a FIN while the packet waits, and the answer does not fit either. -/
theorem run_finWaits : ∃ t s udp conn raw forged, SoloRun t s ∧ s.batch = [] ∧ s.AtRest ∧
    s.created = [.udp udp, .tcp conn] ∧ s.client.networkToClient.remaining ≤ 28 ∧
    conn.closed = false ∧ conn.networkToClient.ForTcp ∧ conn.packetForClientLength.isSome = true ∧
    ∃ synAck, conn.trace = [TcpAction.opened 0, TcpAction.forged synAck false,
      TcpAction.read [0x61], TcpAction.deferred raw, TcpAction.finHandled,
      TcpAction.forged forged true] := by
  obtain ⟨t, s, conn, raw, run, idle, rest, holds⟩ := run_waits
  have expected : (segmentHeader 1 1 0x11).data.sequenceNumber = conn.expectedPacket := by
    have size := conn.clientToNetwork.length_contents
    rw [(StreamBuffer.isEmpty_iff _).mp holds.empty] at size
    rw [TcpConnection.expectedPacket, ← size, holds.tcb]
    rfl
  have spoils : conn.waiting = true := holds.waits
  let answers : PacketAnswers := ⟨0, false, 0, .ok (), .ok 0⟩
  have front : packets.front (segmentBytes 1 1 0x11 []) =
      .item (.routed (.ipv4 (segmentPacket 1 1 0x11 []))) (segmentBytes 1 1 0x11 []).length := rfl
  obtain ⟨t', s', conn', run', idle', rest', onward, ⟨-, isOpen, forTcp, waits, forged, trace⟩,
      created⟩ := @run_segment t s
    (fun conn' => conn'.handle = conn.handle ∧ conn'.closed = false ∧ conn'.networkToClient.ForTcp ∧
      conn'.packetForClientLength.isSome = true ∧
      ∃ forged, conn'.trace = conn.trace ++ [TcpAction.finHandled, TcpAction.forged forged true])
    _ _ answers 1 conn run idle rest (by decide) front (by rw [holds.id]; rfl) rfl holds.place
    holds.isOpen
    (fun client => by
      obtain ⟨c, packetizer, forged, sent, usable', -, -, conn'⟩ :=
        @TcpContext.Usable.finish ⟨conn, client, s.selector⟩ 0 0 (segmentPacket 1 1 0x11 [])
          (segmentHeader 1 1 0x11) (usable run rest holds.place holds.isOpen holds.forTcp client) rfl
          (by rw [holds.established]; rintro ⟨⟩) (by decide) expected (by decide) (by decide)
          (by decide) (.inr rfl) (by rw [holds.tcb]; decide) holds.empty (by rw [holds.tcb]; decide)
      refine ⟨c, sent, ?_, usable'.isOpen, usable'.forTcp, ?_, forged, ?_⟩
      · rw [conn']
        rfl
      · rw [conn']
        exact holds.waits
      · rw [conn', ← spoils]
        rfl)
    (fun conn' holds' => ⟨holds'.1, holds'.2.1⟩)
  obtain ⟨udp, created₀⟩ := holds.created
  obtain ⟨synAck, trace₀⟩ := holds.trace
  refine ⟨t', s', udp, conn', raw, forged, run', idle', rest', ?_, ?_, isOpen, forTcp, waits, synAck, ?_⟩
  · rw [created, created₀]
    rfl
  · have before := s.client.networkToClient.remaining_eq
    have after := s'.client.networkToClient.remaining_eq
    have more := onward.output.length_le
    have room := holds.room
    omega
  · rw [trace, trace₀]
    rfl

/-- **The answer has spoilt what waits.**  Behind a full stream a packet was deferred, and the FIN
of the client was answered; the answer has its headers in the same buffer, with another total
length. -/
theorem run_spoils : ∃ t s conn length, SoloRun t s ∧ s.WaitsAlone 1 conn length ∧ s.OnlyIpv4 ∧
    ¬ ValidPacket (conn.networkToClient.inflate length).raw := by
  obtain ⟨t, s, udp, conn, raw, forged, run, idle, rest, created, room, isOpen, forTcp, waiting, synAck,
    trace⟩ := run_finWaits
  obtain ⟨length, waits⟩ := Option.isSome_iff_exists.mp waiting
  have place : s.created[1]? = some (.tcp conn) := by
    rw [created]
    rfl
  have stores : conn.Stores := (run_framed run.run).stores 1 _ place
  refine ⟨t, s, conn, length, run, ⟨idle, rest, place, isOpen, forTcp, waits,
    pendingPacketSources_of_created run.run created waiting, ?_⟩, .of_created created,
    @TcpConnection.Stores.not_valid _ raw _ stores waits ?_ ?_ fun unforged => ?_⟩
  · have long : conn.networkToClient.ipv4Header.raw.length +
        conn.networkToClient.transportHeader.raw.length < length.toNat := stores.long length waits
    have least := forTcp.wellFormed.ipv4.long
    have bounds := forTcp.wellFormed.transport.length_bounds
    omega
  · rw [TcpConnection.deferredPackets, trace]
    rfl
  · rw [TcpConnection.deliveredPackets, trace]
    rfl
  · refine absurd ?_ (unforged forged)
    rw [trace]
    simp

/-- The packet of the host is pulled behind the headers of the FIN. -/
theorem not_run_deliversPackets : ¬ ∀ t s, machine.Run t s → s.OnlyIpv4 →
    ∀ raw ∈ s.client.appended, ValidPacket raw := by
  intro all
  obtain ⟨t, s, conn, length, run, alone, only, invalid⟩ := run_spoils
  obtain ⟨t', s', conn', run', handed, created⟩ := run_pulls run alone
  refine invalid (all t' s' run'.run (fun handle other place => ?_) _ handed)
  rw [created, List.getElem?_set] at place
  split at place
  · split at place
    · cases place
      simp
    · cases place
  · exact only handle other place

end Relay

end ReverseTether
