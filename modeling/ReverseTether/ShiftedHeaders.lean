import ReverseTether.HeaderRewriting
import ReverseTether.Library.Lockstep
import ReverseTether.TcpSegments

/-!
# Headers with shifted sequence numbers

Two packetizers of a TCP connection whose sequence numbers differ by `d` build the same
packets, but for the sequence number and the checksum over it (`ShiftedRaw`).  The two
templates may also differ in the numbers that the first packet of the client had
(`TcpHeader.Alike`): `update_headers` writes over them before anything is built.

The relation says nothing of what is in the place of the checksum: it depends on all the rest,
and each of the two packets has the one that is right for it.  Everywhere else the bytes are
equal, and the second sequence number is `d` ahead of the first.

From the headers the relation goes up to the packetizer, and from there to the three ways in
which a connection builds a packet: an empty segment, the chunk of a read, and the packet that
waits and is rebuilt from its length.
-/

namespace ReverseTether

open Library

open TcpConnection (updateHeaders)

/-! ## The TCP header -/

/-- What is swapped is the same in both. -/
theorem swapRanges_sameBut {places : List ℕ} {raw raw' : List UInt8} {i n : ℕ}
    (same : SameBut places raw raw') (apart : ∀ k ∈ places, k < i ∨ i + 2 * n ≤ k) :
    Both ⊤ (SameBut places) (swapRanges raw i n) (swapRanges raw' i n) := by
  have second : slice raw (i + n) (i + 2 * n) = slice raw' (i + n) (i + 2 * n) := by
    refine SameBut.slice same fun k member => ?_
    have := apart k member
    omega
  have first : slice raw i (i + n) = slice raw' i (i + n) := by
    refine SameBut.slice same fun k member => ?_
    have := apart k member
    omega
  rw [swapRanges, swapRanges, ← same.1, ← second, ← first]
  split
  · rename_i fits
    have room : i + (slice raw (i + n) (i + 2 * n)).length ≤ raw.length := by
      rw [length_slice]
      omega
    have moved := SameBut.splice same room
    refine .ok ((SameBut.splice moved ?_).mono ?_)
    · rw [length_splice room, length_slice]
      omega
    · exact List.Subset.trans (List.filter_subset_self _) (List.filter_subset_self _)
  · exact .error trivial

namespace TcpHeader

/-- The bytes of the sequence number and of the checksum. -/
def shiftedPlaces : List ℕ := [4, 5, 6, 7, 16, 17]

/-- And of the acknowledgement number. -/
def numberPlaces : List ℕ := [4, 5, 6, 7, 8, 9, 10, 11, 16, 17]

/-- The two headers are the same but for their numbers, which the relay writes anew for every
segment. -/
structure Alike (h h' : TcpHeader) : Prop where
  raw : SameBut numberPlaces h.raw h'.raw
  data : h'.data = { h.data with
    sequenceNumber := h'.data.sequenceNumber
    acknowledgementNumber := h'.data.acknowledgementNumber }

/-- The sequence number of the second header is `d` ahead, and with it the checksum; the rest is
the same. -/
structure Shifted (d : UInt32) (h h' : TcpHeader) : Prop where
  raw : SameBut shiftedPlaces h.raw h'.raw
  data : h'.data = { h.data with sequenceNumber := h.data.sequenceNumber + d }

variable {d : UInt32} {h h' : TcpHeader}

theorem Alike.refl (h : TcpHeader) : h.Alike h := ⟨.refl _ _, rfl⟩

theorem Shifted.alike (shifted : h.Shifted d h') : h.Alike h' := by
  refine ⟨shifted.raw.mono (by decide), ?_⟩
  rw [shifted.data]

/-- **Setting the numbers and the flags** leaves only the shift between the headers.  The three
setters write in different places, and all that was there before is the same in both. -/
theorem Alike.setNumbers (alike : h.Alike h') (d sequenceNumber acknowledgementNumber : UInt32)
    (flags : UInt16) :
    Both ⊤ (Shifted d)
      (do let h ← h.setSequenceNumber sequenceNumber
          let h ← h.setAcknowledgementNumber acknowledgementNumber
          h.setFlags flags)
      (do let h ← h'.setSequenceNumber (sequenceNumber + d)
          let h ← h.setAcknowledgementNumber acknowledgementNumber
          h.setFlags flags) := by
  obtain ⟨raw, data⟩ := alike
  have sequenced : Both ⊤ (fun k k' : TcpHeader => SameBut numberPlaces k.raw k'.raw ∧
      k'.data = { k.data with
        sequenceNumber := k.data.sequenceNumber + d
        acknowledgementNumber := k'.data.acknowledgementNumber })
      (h.setSequenceNumber sequenceNumber) (h'.setSequenceNumber (sequenceNumber + d)) := by
    rw [setSequenceNumber, setSequenceNumber, writeU32, writeU32, ← raw.1]
    split
    · rename_i fits
      refine .ok ⟨SameBut.splice_within raw rfl fits ?_, ?_⟩
      · show List.range' 4 4 ⊆ numberPlaces
        decide
      · rw [data]
    · exact .error trivial
  refine sequenced.bind ?_
  rintro k k' ⟨raw, data⟩
  have acknowledged : Both ⊤ (Shifted d) (k.setAcknowledgementNumber acknowledgementNumber)
      (k'.setAcknowledgementNumber acknowledgementNumber) := by
    rw [setAcknowledgementNumber, setAcknowledgementNumber, writeU32, writeU32, ← raw.1]
    split
    · rename_i fits
      refine .ok ⟨?_, ?_⟩
      · -- the same number is written over the two
        have left : SameBut (numberPlaces.filter fun k => k < 8 ∨ 8 + 4 ≤ k)
            (putU32 k.raw 8 acknowledgementNumber) (putU32 k'.raw 8 acknowledgementNumber) :=
          SameBut.splice raw fits
        exact left.mono (by decide)
      · rw [data]
    · exact .error trivial
  refine acknowledged.bind ?_
  rintro k k' ⟨raw, data⟩
  rw [setFlags, setFlags, readU16_sameBut raw (by decide) (by decide)]
  refine .bind_same (fun _ _ => trivial) fun dataOffsetAndFlags _ => ?_
  rw [writeU16, writeU16, ← raw.1]
  split
  · rename_i fits
    refine .ok ⟨(putU16_sameBut raw fits _).mono (by decide), ?_⟩
    rw [data]
  · exact .error trivial

theorem Shifted.setChecksum (shifted : h.Shifted d h') (checksum checksum' : UInt16) :
    Both ⊤ (Shifted d) (h.setChecksum checksum) (h'.setChecksum checksum') := by
  rw [TcpHeader.setChecksum, TcpHeader.setChecksum, writeU16, writeU16, ← shifted.raw.1]
  split
  · rename_i fits
    refine .ok ⟨SameBut.splice_within shifted.raw rfl fits ?_, shifted.data⟩
    show List.range' 16 2 ⊆ shiftedPlaces
    decide
  · exact .error trivial

theorem Shifted.updateChecksum (shifted : h.Shifted d h') (ipv4 : Ipv4HeaderData)
    (payload : List UInt8) :
    Both ⊤ (Shifted d) (h.updateChecksum ipv4 payload) (h'.updateChecksum ipv4 payload) := by
  have length : h'.data.headerLength = h.data.headerLength := by rw [shifted.data]
  unfold TcpHeader.updateChecksum
  simp only [length]
  refine .ite Iff.rfl (fun _ => .error trivial) fun _ => ?_
  refine (shifted.setChecksum 0 0).bind fun k k' reset => ?_
  rw [← reset.raw.1]
  exact .ite Iff.rfl (fun _ => .error trivial) fun _ => reset.setChecksum _ _

/-! ### The reference header -/

theorem Alike.shrinkOptions (alike : h.Alike h') :
    Both ⊤ Alike h.shrinkOptions h'.shrinkOptions := by
  obtain ⟨raw, data⟩ := alike
  unfold TcpHeader.shrinkOptions setDataOffset
  rw [readU16_sameBut raw (by decide) (by decide)]
  refine .bind_same (fun _ _ => trivial) fun dataOffsetAndFlags _ => ?_
  rw [writeU16, writeU16, ← raw.1]
  split
  · rename_i fits
    refine .ok ⟨(putU16_sameBut raw fits _).mono (by decide), ?_⟩
    rw [data]
  · exact .error trivial

theorem Alike.swapSourceAndDestination (alike : h.Alike h') :
    Both ⊤ Alike h.swapSourceAndDestination h'.swapSourceAndDestination := by
  obtain ⟨raw, data⟩ := alike
  refine (swapRanges_sameBut raw (by decide)).bind fun swapped swapped' same => ?_
  refine .ok ⟨same, ?_⟩
  rw [data]

end TcpHeader

/-! ## The packetizer -/

namespace Packetizer

/-- Two packetizers with related TCP headers, and the same otherwise.  The IPv4 header and the
payload have no numbers in them. -/
structure Related (R : TcpHeader → TcpHeader → Prop) (p p' : Packetizer) : Prop where
  ipv4Header : p'.ipv4Header = p.ipv4Header
  payload : p'.payload = p.payload
  transportHeader : ∃ h h', p.transportHeader = .tcp h ∧ p'.transportHeader = .tcp h' ∧ R h h'

variable {d : UInt32} {p p' : Packetizer}

namespace Related

theorem mono {R S : TcpHeader → TcpHeader → Prop} (related : Related R p p')
    (weaker : ∀ h h', R h h' → S h h') : Related S p p' := by
  obtain ⟨h, h', tcp, tcp', relates⟩ := related.transportHeader
  exact ⟨related.ipv4Header, related.payload, h, h', tcp, tcp', weaker _ _ relates⟩

/-- Packetizers of the same flow. -/
theorem new {h h' : TcpHeader} (ipv4Header : Ipv4Header) (alike : h.Alike h') :
    Both ⊤ (Related TcpHeader.Alike) (Packetizer.new ipv4Header (.tcp h))
      (Packetizer.new ipv4Header (.tcp h')) := by
  have length : h'.raw.length = h.raw.length := alike.raw.1.symm
  have headerLength : h'.data.headerLength = h.data.headerLength := by rw [alike.data]
  refine .ite (by simp only [TransportHeader.raw, TransportHeader.headerLength, length,
    headerLength]) (fun _ => .error trivial) fun _ => ?_
  refine .bind_same (fun _ _ => trivial) fun swapped _ => ?_
  simp only [TransportHeader.swapSourceAndDestination, bind_assoc, pure_bind]
  refine alike.swapSourceAndDestination.bind fun k k' swapped => ?_
  refine .ok ⟨rfl, ?_, k, k', rfl, rfl, swapped⟩
  simp only [TransportHeader.raw, swapped.raw.1]

theorem updateHeaders {tcb tcb' : Tcb} (related : Related TcpHeader.Alike p p')
    (sequenceNumber : tcb'.sequenceNumber = tcb.sequenceNumber + d)
    (acknowledgementNumber : tcb'.acknowledgementNumber = tcb.acknowledgementNumber)
    (flags : UInt16) :
    Both ⊤ (Related (TcpHeader.Shifted d)) (TcpConnection.updateHeaders p tcb flags)
      (TcpConnection.updateHeaders p' tcb' flags) := by
  obtain ⟨h, h', tcp, tcp', alike⟩ := related.transportHeader
  have headers := alike.setNumbers d tcb.sequenceNumber tcb.acknowledgementNumber flags
  rw [TcpConnection.updateHeaders, TcpConnection.updateHeaders, tcp, tcp', sequenceNumber,
    acknowledgementNumber]
  simp only [TcpConnection.tcpHeaderOfTransport, ok_bind, ← bind_assoc] at headers ⊢
  refine headers.bind fun k k' shifted => ?_
  exact .ok ⟨related.ipv4Header, related.payload, k, k', rfl, rfl, shifted⟩

theorem receive (related : Related (TcpHeader.Shifted d) p p') (data : List UInt8) :
    Related (TcpHeader.Shifted d) (p.receive data) (p'.receive data) := by
  refine ⟨related.ipv4Header, ?_, related.transportHeader⟩
  show splice p'.payload 0 data = splice p.payload 0 data
  rw [related.payload]

theorem payloadIndex (related : Related (TcpHeader.Shifted d) p p') :
    p'.payloadIndex = p.payloadIndex := by
  obtain ⟨h, h', tcp, tcp', shifted⟩ := related.transportHeader
  rw [Packetizer.payloadIndex, Packetizer.payloadIndex, transportIndex, transportIndex,
    related.ipv4Header, tcp, tcp']
  exact congrArg _ shifted.raw.1.symm

/-- **The same payload is built alike.**  The length and the addresses are the same, so only the
sums differ, and the two packets stand in the relation that their numbers stand in. -/
theorem build (related : Related (TcpHeader.Shifted d) p p') (payloadLength : UInt16) :
    Both ⊤ (fun made made' => Related (TcpHeader.Shifted d) made.2 made'.2 ∧
        ∃ length, made.1 = made.2.inflate length ∧ made'.1 = made'.2.inflate length)
      (p.build payloadLength) (p'.build payloadLength) := by
  have index := related.payloadIndex
  obtain ⟨h, h', tcp, tcp', shifted⟩ := related.transportHeader
  unfold Packetizer.build
  rw [index, related.ipv4Header, related.payload, tcp, tcp']
  refine .ite Iff.rfl (fun _ => .error trivial) fun _ => ?_
  refine .bind_same (fun _ _ => trivial) fun ipv4Header _ => ?_
  simp only [TransportHeader.setPayloadLength, ok_bind]
  refine .bind_same (fun _ _ => trivial) fun ipv4Header _ => ?_
  refine .bind_same (fun _ _ => trivial) fun payload _ => ?_
  have summed : Both ⊤ (fun t t' : TransportHeader => ∃ k k', t = .tcp k ∧ t' = .tcp k' ∧
      TcpHeader.Shifted d k k')
      (TransportHeader.updateChecksum ipv4Header.data payload (.tcp h))
      (TransportHeader.updateChecksum ipv4Header.data payload (.tcp h')) :=
    (shifted.updateChecksum _ _).bind fun k k' summed => .ok ⟨k, k', rfl, rfl, summed⟩
  refine summed.bind fun t t' made => ?_
  refine .ok ⟨⟨rfl, rfl, made⟩, _, rfl, rfl⟩

end Related

/-- Two packetizers of TCP connections with related TCP headers, each well formed by itself. -/
structure Twin (R : TcpHeader → TcpHeader → Prop) (p p' : Packetizer) : Prop extends
    Related R p p' where
  forTcp : p.ForTcp
  forTcp' : p'.ForTcp

end Packetizer

/-! ## The packets -/

/-- The packets differ in the sequence number, which is `d` ahead in the second, and in the
checksum. -/
structure ShiftedRaw (d : UInt32) (raw raw' : List UInt8) : Prop where
  same : SameBut (TcpHeader.shiftedPlaces.map (ipv4HeaderLength raw + ·)) raw raw'
  sequenceNumber : (Segment.ofRaw raw').sequenceNumber = (Segment.ofRaw raw).sequenceNumber + d

/-- What two packetizers have made of the same payload: segments that differ in the sequence number
and the checksum. -/
structure ShiftedPacket (d : UInt32) (packet packet' : Ipv4Packet) : Prop where
  raw : ShiftedRaw d packet.raw packet'.raw
  length : packet'.length = packet.length
  payload : packet'.payload = packet.payload

theorem ShiftedRaw.length {d : UInt32} {raw raw' : List UInt8} (shifted : ShiftedRaw d raw raw') :
    raw'.length = raw.length := shifted.same.1.symm

namespace Packetizer.Twin

variable {d : UInt32} {p p' : Packetizer}

theorem alike (twin : Twin (TcpHeader.Shifted d) p p') : Twin TcpHeader.Alike p p' where
  toRelated := twin.toRelated.mono fun _ _ shifted => shifted.alike
  forTcp := twin.forTcp
  forTcp' := twin.forTcp'

/-- The headers of the two, in front of the same payload. -/
theorem shiftedRaw (twin : Twin (TcpHeader.Shifted d) p p') (data : List UInt8) :
    ShiftedRaw d (p.ipv4Header.raw ++ p.transportHeader.raw ++ data)
      (p'.ipv4Header.raw ++ p'.transportHeader.raw ++ data) := by
  obtain ⟨h, h', tcp, tcp', shifted⟩ := twin.transportHeader
  have wf : h.WellFormed := by
    have := twin.forTcp.wellFormed.transport
    rwa [tcp] at this
  have wf' : h'.WellFormed := by
    have := twin.forTcp'.wellFormed.transport
    rwa [tcp'] at this
  have ipv4 := twin.forTcp.wellFormed.ipv4
  have number {k : TcpHeader} (wf : k.WellFormed) :
      (Segment.ofRaw (p.ipv4Header.raw ++ k.raw ++ data)).sequenceNumber =
        k.data.sequenceNumber := by
    have long := wf.long
    show (TcpHeaderData.ofRaw ((p.ipv4Header.raw ++ k.raw ++ data).drop
      (ipv4HeaderLength (p.ipv4Header.raw ++ k.raw ++ data)))).sequenceNumber = _
    rw [List.append_assoc, ipv4.ipv4HeaderLength_append, List.drop_left,
      TcpHeaderData.ofRaw_append (by omega), wf.mirrors]
  rw [tcp, tcp', twin.ipv4Header]
  constructor
  · rw [List.append_assoc p.ipv4Header.raw, ipv4.ipv4HeaderLength_append, ← List.append_assoc]
    exact SameBut.append shifted.raw _ _
  · show (Segment.ofRaw (p.ipv4Header.raw ++ h'.raw ++ data)).sequenceNumber = _
    rw [number wf', shifted.data]
    exact congrArg (· + d) (number wf).symm

/-- The packets that are in the two buffers. -/
theorem inflate (twin : Twin (TcpHeader.Shifted d) p p') {length : UInt16}
    (whole : p.payloadIndex ≤ length.toNat) :
    ShiftedRaw d (p.inflate length).raw (p'.inflate length).raw := by
  obtain ⟨n, total⟩ := Nat.exists_eq_add_of_le whole
  have raw : (p.inflate length).raw =
      p.ipv4Header.raw ++ p.transportHeader.raw ++ p.payload.take n := by
    show p.buffer.take length.toNat = _
    rw [total, take_buffer]
  have raw' : (p'.inflate length).raw =
      p'.ipv4Header.raw ++ p'.transportHeader.raw ++ p.payload.take n := by
    show p'.buffer.take length.toNat = _
    rw [total, ← twin.toRelated.payloadIndex, take_buffer, twin.payload]
  rw [raw, raw']
  exact twin.shiftedRaw _

theorem updateHeaders {tcb tcb' : Tcb} {flags : UInt16} (twin : Twin TcpHeader.Alike p p')
    (mem : flags ∈ relayFlags) (sequenceNumber : tcb'.sequenceNumber = tcb.sequenceNumber + d)
    (acknowledgementNumber : tcb'.acknowledgementNumber = tcb.acknowledgementNumber) :
    ∃ q q', TcpConnection.updateHeaders p tcb flags = .ok q ∧
      TcpConnection.updateHeaders p' tcb' flags = .ok q' ∧
      Twin (TcpHeader.Shifted d) q q' ∧ q.payloadIndex = p.payloadIndex := by
  obtain ⟨_, updated, forTcp, -, -, -, index⟩ := twin.forTcp.updateHeaders tcb mem
  obtain ⟨_, updated', related⟩ :=
    (twin.toRelated.updateHeaders sequenceNumber acknowledgementNumber flags).of_ok updated
  obtain ⟨_, made', forTcp', -⟩ := twin.forTcp'.updateHeaders tcb' mem
  rw [updated'] at made'
  cases made'
  exact ⟨_, _, updated, updated', ⟨related, forTcp, forTcp'⟩, index⟩

/-- Both have completed their headers for `data`. -/
theorem built {q q' : Packetizer} {data : List UInt8} {packet packet' : Ipv4Packet}
    (twin : Twin (TcpHeader.Shifted d) p p') (related : Related (TcpHeader.Shifted d) q q')
    (built : p.Built q data packet) (built' : p'.Built q' data packet') :
    Twin (TcpHeader.Shifted d) q q' ∧ ShiftedPacket d packet packet' ∧
      q.payloadIndex ≤ packet.length.toNat := by
  have made : Twin (TcpHeader.Shifted d) q q' :=
    ⟨related, twin.forTcp.built built, twin.forTcp'.built built'⟩
  refine ⟨made, ⟨?_, ?_, ?_⟩, ?_⟩
  · rw [built.raw, built'.raw]
    exact made.shiftedRaw data
  · rw [built.length, built'.length, twin.toRelated.payloadIndex]
  · rw [built.payload, built'.payload]
  · have fits := built.fits
    rw [built.length, built.payloadIndex, UInt16.toNat_ofNat', Nat.mod_eq_of_lt fits]
    exact Nat.le_add_right _ _

/-- **Empty segments** of the two.  Both are built with the same flags and no payload, from control
blocks that differ by the shift. -/
theorem createEmptyResponsePacket {tcb tcb' : Tcb} {flags : UInt16}
    (twin : Twin TcpHeader.Alike p p') (mem : flags ∈ relayFlags)
    (sequenceNumber : tcb'.sequenceNumber = tcb.sequenceNumber + d)
    (acknowledgementNumber : tcb'.acknowledgementNumber = tcb.acknowledgementNumber) :
    ∃ packet packet' q q',
      TcpConnection.createEmptyResponsePacket p tcb flags = .ok (packet, q) ∧
      TcpConnection.createEmptyResponsePacket p' tcb' flags = .ok (packet', q') ∧
      Twin (TcpHeader.Shifted d) q q' ∧ ShiftedPacket d packet packet' ∧
      q.payloadIndex = p.payloadIndex := by
  obtain ⟨q, q', updated, updated', primed, index⟩ :=
    twin.updateHeaders mem sequenceNumber acknowledgementNumber
  obtain ⟨packet, r, empty, built⟩ :=
    primed.forTcp.wellFormed.packetizeEmptyPayload primed.forTcp.payloadIndex_lt
  obtain ⟨⟨packet', r'⟩, made', related, -⟩ := (primed.toRelated.build 0).of_ok empty
  obtain ⟨_, _, empty', built'⟩ :=
    primed.forTcp'.wellFormed.packetizeEmptyPayload primed.forTcp'.payloadIndex_lt
  rw [packetizeEmptyPayload, made'] at empty'
  cases empty'
  obtain ⟨after, packets, -⟩ := primed.built related built built'
  refine ⟨packet, packet', r, r', ?_, ?_, after, packets, built.payloadIndex.trans index⟩
  · rw [TcpConnection.createEmptyResponsePacket, updated, ok_bind, empty]
  · rw [TcpConnection.createEmptyResponsePacket, updated', ok_bind, packetizeEmptyPayload, made']

/-- **Data packets** of the two: the same front of the bytes that are there is read, and it
is at the end or built into shifted packets. -/
theorem packetizeRead (twin : Twin (TcpHeader.Shifted d) p p') (read : IoResult (List UInt8))
    {most : ℕ} (bound : p.payloadIndex + most < 65536) :
    ∃ result result' q q', p.packetizeRead read most = .ok (result, q) ∧
      p'.packetizeRead read most = .ok (result', q') ∧ Twin (TcpHeader.Shifted d) q q' ∧
      ((∃ err, result = .error err ∧ result' = .error err) ∨
        (result = .ok none ∧ result' = .ok none) ∨
        ∃ packet packet', result = .ok (some packet) ∧ result' = .ok (some packet') ∧
          ShiftedPacket d packet packet' ∧ q.payloadIndex ≤ packet.length.toNat) := by
  cases read with
  | error err => exact ⟨_, _, p, p', rfl, rfl, twin, .inl ⟨err, rfl, rfl⟩⟩
  | ok available =>
      have chunk : p'.chunk available most = p.chunk available most := by
        rw [Packetizer.chunk, Packetizer.chunk, twin.payload]
      have bound' : p'.payloadIndex + most < 65536 := by
        rw [twin.toRelated.payloadIndex]
        exact bound
      have reads := @WellFormed.packetizeRead p twin.forTcp.wellFormed available most bound
      have reads' := @WellFormed.packetizeRead p' twin.forTcp'.wellFormed available most bound'
      rcases reads with ⟨ended, eof⟩ | ⟨some, packet, q, read, built⟩
      · rcases reads' with ⟨-, eof'⟩ | ⟨some', -⟩
        · exact ⟨_, _, p, p', eof, eof', twin, .inr (.inl ⟨rfl, rfl⟩)⟩
        · exact absurd (chunk.trans ended) some'
      · rcases reads' with ⟨ended', -⟩ | ⟨-, packet', q', read', built'⟩
        · exact absurd (chunk.symm.trans ended') some
        · have both : Both ⊤ (fun made made' => Related (TcpHeader.Shifted d) made.2 made'.2)
              (p.packetizeRead (.ok available) most) (p'.packetizeRead (.ok available) most) := by
            rw [Packetizer.packetizeRead, Packetizer.packetizeRead]
            simp only [chunk]
            refine .ite Iff.rfl (fun _ => ?_) fun _ => .ok twin.toRelated
            refine ((twin.toRelated.receive _).build _).bind ?_
            rintro ⟨packet, q⟩ ⟨packet', q'⟩ ⟨related, -⟩
            exact .ok related
          obtain ⟨_, made', related⟩ := both.of_ok read
          rw [read'] at made'
          cases made'
          rw [chunk] at built'
          obtain ⟨after, packets, whole⟩ := twin.built related built built'
          exact ⟨_, _, q, q', read, read', after,
            .inr (.inr ⟨packet, packet', rfl, rfl, packets, whole⟩)⟩

end Packetizer.Twin

end ReverseTether
