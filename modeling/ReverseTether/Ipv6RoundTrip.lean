import ReverseTether.RoundTrip

/-!
# From payloads to IPv6 packets and back

The IPv6 counterpart of `RoundTrip`.  Every payload that the buffer has room for
fits the length fields, so no call of an `Ipv6Packetizer` fails, and what is
checked of a packet is the sum over the pseudo header.

The source adds that sum up in a `u32`.  `checksumTerms` lists what it adds, in its
order, and `buildU32` is `build` with every addition checked; it is `build` itself
(`buildU32_eq`).

The packetizer is a template for the packets of one flow, in which the length, the payload and
the checksum are rewritten for each of them.  `Reverses` says that the template answers the
reference packet: the endpoints are swapped, and everything that a receiver needs is in place,
whatever was built before.

A UDP packet over IPv6 must have a checksum, and one that comes out as zero is written as
`0xffff`; a TCP packet has no such exception.  Both sum over the pseudo header with the length
of the payload, which is part of what changes from packet to packet.
-/

namespace ReverseTether

open Library

/-- `sum += term` for a `u32`, over a list of terms. -/
def sumU32 (terms : List ℕ) : Outcome ℕ :=
  terms.foldlM (fun sum term => if 2 ^ 32 ≤ sum + term then .error .overflow else .ok (sum + term)) 0

theorem sumU32_eq {terms : List ℕ} (small : terms.sum < 2 ^ 32) : sumU32 terms = .ok terms.sum := by
  have general : ∀ (terms : List ℕ) (start : ℕ), start + terms.sum < 2 ^ 32 →
      terms.foldlM (fun sum term =>
        if 2 ^ 32 ≤ sum + term then (.error .overflow : Outcome ℕ) else .ok (sum + term)) start =
        .ok (start + terms.sum) := by
    intro terms
    induction terms with
    | nil => intro start _; rfl
    | cons term terms ih =>
        intro start small
        rw [List.sum_cons] at small
        rw [List.foldlM_cons, if_neg (by omega), ok_bind, ih _ (by omega), List.sum_cons,
          Nat.add_assoc]
  have total := general terms 0 (by omega)
  rwa [Nat.zero_add] at total

namespace Ipv6Packetizer

/-- What `update_checksum` adds up: the addresses, the length in two halves, the next
header and the transport part. -/
def checksumTerms (p : Ipv6Packetizer) (transportLength : ℕ) (transport : List UInt8) : List ℕ :=
  words (slice p.ipv6Header 8 40) ++
    [transportLength / 65536, transportLength % 65536, p.ipv6HeaderData.nextHeader.toNat] ++
      words transport

/-- `updateChecksum` with its additions checked. -/
def updateChecksumU32 (p : Ipv6Packetizer) (totalLength : ℕ) : Outcome Ipv6Packetizer := do
  let p ← p.putChecksum 0
  let transportLength := totalLength - ipv6HeaderLength
  let transport ← readSlice (p.transportHeader.raw ++ p.payload) 0 transportLength
  let sum ← sumU32 (p.checksumTerms transportLength transport)
  p.putChecksum (p.checksumOf sum)

/-- `build` with the additions of the checksum checked. -/
def buildU32 (p : Ipv6Packetizer) (payloadLength : UInt16) : Outcome (Ipv6Packet × Ipv6Packetizer) :=
  if 65536 ≤ p.payloadIndex - ipv6HeaderLength + payloadLength.toNat then .error .overflow
  else do
    let transportLength := UInt16.ofNat (p.payloadIndex - ipv6HeaderLength) + payloadLength
    let totalLength := ipv6HeaderLength + transportLength.toNat
    let ipv6Header ← writeU16 p.ipv6Header 4 transportLength
    let transportHeader ← p.transportHeader.setPayloadLength payloadLength
    let p ← { p with ipv6Header, transportHeader }.updateChecksumU32 totalLength
    match ← Ipv6Packet.parse (← readSlice p.buffer 0 totalLength) with
    | .error _ => .error .unparsablePacket
    | .ok packet => return (packet, p)

theorem sum_checksumTerms (p : Ipv6Packetizer) (transportLength : ℕ) (transport : List UInt8) :
    (p.checksumTerms transportLength transport).sum =
      p.pseudoHeaderSum transportLength + wordSum transport := by
  simp only [checksumTerms, List.sum_append, List.sum_cons, List.sum_nil, sum_words,
    pseudoHeaderSum]
  omega

/-- The sum of a transport part that fits a length field. -/
theorem checksumTerms_small (p : Ipv6Packetizer) {transport : List UInt8}
    (short : transport.length < 65536) :
    (p.checksumTerms transport.length transport).sum < 2 ^ 32 := by
  have addresses := wordSum_le (slice p.ipv6Header 8 40)
  have length : (slice p.ipv6Header 8 40).length ≤ 32 := by
    rw [length_slice]
    omega
  have body := wordSum_le transport
  have next := p.ipv6HeaderData.nextHeader.toNat_lt
  rw [sum_checksumTerms, pseudoHeaderSum]
  omega

theorem updateChecksumU32_eq (p : Ipv6Packetizer) {totalLength : ℕ}
    (short : totalLength - ipv6HeaderLength < 65536) :
    p.updateChecksumU32 totalLength = p.updateChecksum totalLength := by
  rw [updateChecksumU32, updateChecksum]
  congr 1
  funext p
  simp only
  cases cut : readSlice (p.transportHeader.raw ++ p.payload) 0 (totalLength - ipv6HeaderLength) with
  | error _ => rfl
  | ok transport =>
      obtain ⟨-, inside, rfl⟩ := readSlice_eq_ok cut
      have length : (slice (p.transportHeader.raw ++ p.payload) 0
          (totalLength - ipv6HeaderLength)).length = totalLength - ipv6HeaderLength := by
        rw [length_slice]
        omega
      have small := p.checksumTerms_small (length ▸ short)
      rw [length] at small
      rw [ok_bind, ok_bind, sumU32_eq small, ok_bind, sum_checksumTerms]

/-- **The `u32` sum never overflows.**  At most 65536 bytes are added, so that a sum of sixteen-bit
words stays below the bound; the two ways of building agree on all inputs. -/
theorem buildU32_eq (p : Ipv6Packetizer) (payloadLength : UInt16) :
    p.buildU32 payloadLength = p.build payloadLength := by
  rw [buildU32, build]
  split
  · rfl
  · simp only
    congr 1
    funext ipv6Header
    congr 1
    funext transportHeader
    have short : ipv6HeaderLength +
        (UInt16.ofNat (p.payloadIndex - ipv6HeaderLength) + payloadLength).toNat -
        ipv6HeaderLength < 65536 := by
      rw [Nat.add_sub_cancel_left]
      exact UInt16.toNat_lt _
    exact congrArg (· >>= _) (updateChecksumU32_eq _ short)

end Ipv6Packetizer

/-! ## Packets that were built -/

theorem Ipv6Transport.udpLength {raw : List UInt8} {d : TransportHeaderData}
    (transport : Ipv6Transport raw d) (isUdp : getByte raw 6 = 17) :
    getU16 (ipv6Body raw) 4 = getU16 raw 4 := by
  cases transport with
  | tcp isTcp _ _ =>
      rw [isUdp] at isTcp
      cases isTcp
  | udp _ _ field => exact field

/-- An accepted packet is parsed by `IpPacket::parse` too. -/
theorem IpPacket.parse_of_readFrom {raw : List UInt8} {packet : Ipv6Packet}
    (read : packet.ReadFrom raw) : IpPacket.parse raw = .ok (.ok (.ipv6 packet)) := by
  have parsed := Ipv6Packet.parse_eq_ok_iff.mpr read
  have version := read.version
  cases raw with
  | nil =>
      have complete := read.complete
      simp at complete
  | cons first rest =>
      have six : first >>> 4 = 6 := version
      rw [IpPacket.parse, six, if_neg (by decide), if_pos rfl, parsed]
      rfl

namespace Ipv6Packetizer

variable {p p' fresh : Ipv6Packetizer} {data : List UInt8} {packet : Ipv6Packet}

/-- The transport header that is read back is the one of the packetizer. -/
theorem WellFormed.data_of_readFrom (wf : p.WellFormed) {raw : List UInt8}
    (read : packet.ReadFrom raw) (next : getByte raw 6 = getByte p.ipv6Header 6)
    (body : ipv6Body raw = p.transportHeader.raw ++ data) :
    packet.transportHeaderData = p.transportHeader.data := by
  have kind := wf.kind
  have transport := wf.transport
  have read := read.transport
  cases is : p.transportHeader with
  | tcp h =>
      rw [is] at kind transport body
      have long := TcpHeader.WellFormed.long transport
      generalize packet.transportHeaderData = d at read
      cases read with
      | tcp _ _ _ =>
          rw [body]
          show TransportHeaderData.tcp (.ofRaw (h.raw ++ data)) = .tcp h.data
          rw [TcpHeaderData.ofRaw_append (by omega), TcpHeader.WellFormed.mirrors transport]
      | udp isUdp _ _ =>
          rw [next, kind.1] at isUdp
          cases isUdp
  | udp h =>
      rw [is] at kind transport body
      have eight := UdpHeader.WellFormed.length_raw transport
      generalize packet.transportHeaderData = d at read
      cases read with
      | tcp isTcp _ _ =>
          rw [next, kind.1] at isTcp
          cases isTcp
      | udp _ _ _ =>
          rw [body]
          show TransportHeaderData.udp (.ofRaw (h.raw ++ data)) = .udp h.data
          rw [UdpHeaderData.ofRaw_append (by omega), UdpHeader.WellFormed.mirrors transport]

/-- `packet` is the packet of `p'`, which has the headers of `p` completed for the payload
`data`. -/
structure Built (p p' : Ipv6Packetizer) (data : List UInt8) (packet : Ipv6Packet) : Prop where
  wellFormed : p'.WellFormed
  transportData : p'.transportHeader.data = p.transportHeader.data
  raw : packet.raw = p'.ipv6Header ++ (p'.transportHeader.raw ++ data)
  field : (getU16 p'.ipv6Header 4).toNat = p'.transportHeader.raw.length + data.length
  read : packet.ReadFrom packet.raw
  valid : ValidIpv6Packet packet.raw

/-- Building from a payload, byte for byte. -/
theorem WellFormed.build_front (wf : p.WellFormed) (received : data.length ≤ p.payload.length)
    (front : p.payload.take data.length = data) :
    ∃ packet p', p.build (UInt16.ofNat data.length) = .ok (packet, p') ∧
      p.Built p' data packet := by
  obtain ⟨packet, p', eq, wf', payload, kept, -, field, raw, valid⟩ := wf.build received
  have all := wf.payload_index
  have bounds := wf.transport.length_bounds
  have small : (UInt16.ofNat data.length).toNat = data.length := by
    rw [payloadIndex] at all
    rw [UInt16.toNat_ofNat', Nat.mod_eq_of_lt (by omega)]
  have bytes : packet.raw = p'.ipv6Header ++ (p'.transportHeader.raw ++ data) := by
    rw [raw, take_buffer wf'.length_header, payload, front]
  have parsed := build_parses wf eq
  rw [small, slice_zero, front, ← bytes] at parsed
  exact ⟨packet, p', eq, wf', kept, bytes, field, Ipv6Packet.parse_eq_ok_iff.mp parsed, valid⟩

namespace Built

variable (built : p.Built p' data packet)
include built

theorem body : ipv6Body packet.raw = p'.transportHeader.raw ++ data := by
  rw [built.raw]
  refine ipv6Body_append built.wellFormed.length_header ?_
  rw [built.field, List.length_append]

theorem nextHeader : getByte packet.raw 6 = getByte p'.ipv6Header 6 := by
  rw [built.raw, getByte_append_left]
  rw [built.wellFormed.length_header]
  decide

theorem transport : packet.transportHeaderData = p'.transportHeader.data :=
  built.wellFormed.data_of_readFrom built.read built.nextHeader built.body

theorem payload : packet.payload = .ok (some data) := by
  have header := built.wellFormed.length_header
  have length := built.wellFormed.transport.length_raw
  have start : ipv6HeaderLength + packet.transportHeaderData.headerLength.toNat =
      (p'.ipv6Header ++ p'.transportHeader.raw).length := by
    rw [built.transport, TransportHeader.headerLength_data, ← length, List.length_append, header]
    rfl
  have whole : packet.raw = (p'.ipv6Header ++ p'.transportHeader.raw) ++ data := by
    rw [built.raw, List.append_assoc]
  rw [Ipv6Packet.payload, start, whole, readSlice_eq (List.prefix_append _ _).length_le le_rfl,
    slice_full le_rfl, List.drop_left]
  rfl

end Built

/-- A UDP checksum is never sent as zero, which would mean that there is none. -/
theorem checksumOf_ne_zero (udp : p.protocol = .udp) (sum : ℕ) : p.checksumOf sum ≠ 0 := by
  unfold checksumOf
  simp only
  split
  · decide
  · rename_i some
    intro zero
    exact some ⟨zero, udp⟩

theorem build_udpChecksum (udp : p.protocol = .udp) {n : UInt16}
    (built : p.build n = .ok (packet, p')) : getU16 p'.transportHeader.raw 6 ≠ 0 := by
  obtain ⟨t, zeroed, covered, -, -, -, -, -, written, -, -⟩ := build_eq_ok built
  have offset : p.checksumOffset = 6 := by rw [checksumOffset, udp]
  rw [offset] at written
  obtain ⟨fits, raw⟩ := writeU16_eq_ok written
  rw [raw, getU16_putU16 fits]
  exact checksumOf_ne_zero udp _

/-! ## Runs of a packetizer -/

/-- `packetize_empty_payload`. -/
def packetizeEmptyPayload (p : Ipv6Packetizer) : Outcome (Ipv6Packet × Ipv6Packetizer) := p.build 0

/-- The calls that build a packet, with what their source gives. -/
inductive Call
  | packetizeEmptyPayload
  | packetize (source : IoResult (List UInt8))
  | packetizeRead (source : IoResult (List UInt8))

/-- One call, and the packet it returns. -/
def call (p : Ipv6Packetizer) : Call → Outcome (IoResult (Option Ipv6Packet) × Ipv6Packetizer)
  | .packetizeEmptyPayload => do
      let (packet, p) ← p.packetizeEmptyPayload
      return (.ok (some packet), p)
  | .packetize source => do
      let (result, p) ← p.packetize source
      return (result.map some, p)
  | .packetizeRead source => p.packetizeRead source

/-- What a call has to put behind the headers, unless its source fails or has ended. -/
def payloadOf (p : Ipv6Packetizer) : Call → Option (List UInt8)
  | .packetizeEmptyPayload => some []
  | .packetize (.ok datagram) => some (datagram.take p.payload.length)
  | .packetizeRead (.ok available) =>
      if p.chunk available = [] then none else some (p.chunk available)
  | .packetize (.error _) | .packetizeRead (.error _) => none

/-- The packetizer of one flow, called again and again. -/
def machine (fresh : Ipv6Packetizer) : Machine Ipv6Packetizer Call where
  start p := p = fresh
  step p c p' := ∃ result, p.call c = .ok (result, p')

variable {c : Call}

theorem receive_nil (p : Ipv6Packetizer) : p.receive [] = p := by
  rw [receive, splice]
  rfl

/-- A call that has a payload builds the packet of it. -/
theorem call_eq_build (payload : p.payloadOf c = some data) :
    data.length ≤ p.payload.length ∧
      p.call c = (p.receive data).build (UInt16.ofNat data.length) >>= fun (packet, p') =>
        .ok (.ok (some packet), p') := by
  cases c with
  | packetizeEmptyPayload =>
      cases payload
      rw [receive_nil]
      exact ⟨Nat.zero_le _, rfl⟩
  | packetize source =>
      cases source with
      | error err => cases payload
      | ok datagram =>
          cases payload
          refine ⟨List.length_take_le _ _, ?_⟩
          rw [call, packetize]
          simp only [bind_assoc]
          rfl
  | packetizeRead source =>
      cases source with
      | error err => cases payload
      | ok available =>
          rw [payloadOf] at payload
          split at payload
          · cases payload
          · rename_i nonempty
            cases payload
            refine ⟨List.length_take_le _ _, ?_⟩
            rw [call, packetizeRead]
            simp only
            rw [if_pos (List.length_pos_iff.mpr nonempty)]
            rfl

/-- A call without a payload does nothing. -/
theorem call_of_none (payload : p.payloadOf c = none) :
    ∃ result, p.call c = .ok (result, p) ∧ ∀ packet, result ≠ .ok (some packet) := by
  cases c with
  | packetizeEmptyPayload => cases payload
  | packetize source =>
      cases source with
      | error err => exact ⟨.error err, rfl, nofun⟩
      | ok datagram => cases payload
  | packetizeRead source =>
      cases source with
      | error err => exact ⟨.error err, rfl, nofun⟩
      | ok available =>
          rw [payloadOf] at payload
          split at payload
          · rename_i empty
            refine ⟨.ok none, ?_, nofun⟩
            rw [call, packetizeRead]
            simp only
            rw [if_neg (by rw [empty]; exact lt_irrefl 0)]
          · cases payload

/-- What the packetizer of a flow is, whatever it has built.  It is enough for the next packet,
since all that it rewrites is written again. -/
structure Serves (fresh p : Ipv6Packetizer) : Prop where
  wellFormed : p.WellFormed
  alike : fresh.Alike p

theorem front_receive (received : data.length ≤ p.payload.length) :
    (p.receive data).payload.take data.length = data := by
  have front := slice_splice_self (show 0 + data.length ≤ p.payload.length by omega)
  rwa [Nat.zero_add, slice_zero] at front

/-- A packet is built of every payload there is room for. -/
theorem Serves.build (serves : fresh.Serves p) (received : data.length ≤ p.payload.length) :
    ∃ packet p', (p.receive data).build (UInt16.ofNat data.length) = .ok (packet, p') ∧
      fresh.Serves p' ∧ p.Built p' data packet := by
  have wf := serves.wellFormed.receive received
  have room : data.length ≤ (p.receive data).payload.length := by
    rw [Ipv6Packetizer.receive, length_splice (by omega)]
    exact received
  obtain ⟨packet, p', eq, built⟩ := wf.build_front room (front_receive received)
  obtain ⟨ipv6, transport, same, header, protocol⟩ := build_alike wf eq
  refine ⟨packet, p', eq, ⟨built.wellFormed, ?_⟩, ?_⟩
  · exact serves.alike.trans ⟨ipv6, transport, same, header, protocol⟩
  · exact ⟨built.wellFormed, built.transportData, built.raw, built.field, built.read, built.valid⟩

/-- Every call returns and keeps the packetizer one of its flow. -/
theorem Serves.step (serves : fresh.Serves p) (step : (machine fresh).step p c p') :
    fresh.Serves p' := by
  obtain ⟨result, eq⟩ := step
  cases payload : p.payloadOf c with
  | none =>
      obtain ⟨result', eq', -⟩ := call_of_none payload
      rw [eq'] at eq
      cases eq
      exact serves
  | some data =>
      obtain ⟨received, eq'⟩ := call_eq_build payload
      obtain ⟨packet, p'', built, serves', -⟩ := serves.build received
      rw [eq', built, ok_bind] at eq
      cases eq
      exact serves'

theorem run_serves (wf : fresh.WellFormed) {t : List (Ipv6Packetizer × Call)}
    (run : (machine fresh).Run t p) : fresh.Serves p := by
  refine run.invariant fresh.Serves ?_ (fun _ _ _ serves _ step => serves.step step)
    (Machine.meets_true t)
  intro p start
  have same : p = fresh := start
  rw [same]
  exact ⟨wf, .refl fresh⟩

/-! ### What the packets are -/

/-- `fresh` has the headers of `reference` with the endpoints swapped, as the packets to the client
need them. -/
structure Reverses (fresh : Ipv6Packetizer) (reference : Ipv6Packet) : Prop where
  wellFormed : fresh.WellFormed
  nextHeader : getByte fresh.ipv6Header 6 = reference.ipv6HeaderData.nextHeader
  source : slice fresh.ipv6Header 8 24 = reference.ipv6HeaderData.destination
  destination : slice fresh.ipv6Header 24 40 = reference.ipv6HeaderData.source
  sourcePort : fresh.transportHeader.data.sourcePort =
    reference.transportHeaderData.destinationPort
  destinationPort : fresh.transportHeader.data.destinationPort =
    reference.transportHeaderData.sourcePort

/-- `packet` carries `data` back to the sender of `reference`, and is the packet that
`fresh` builds of it first. -/
structure Answers (fresh : Ipv6Packetizer) (reference packet : Ipv6Packet) (data : List UInt8) :
    Prop where
  parses : IpPacket.parse packet.raw = .ok (.ok (.ipv6 packet))
  payloadLength : packet.ipv6HeaderData.payloadLength.toNat =
    fresh.transportHeader.raw.length + data.length
  udpLength : packet.ipv6HeaderData.nextHeader = 17 →
    (getU16 (ipv6Body packet.raw) 4).toNat = 8 + data.length
  payload : packet.payload = .ok (some data)
  source : packet.ipv6HeaderData.source = reference.ipv6HeaderData.destination
  destination : packet.ipv6HeaderData.destination = reference.ipv6HeaderData.source
  sourcePort : packet.transportHeaderData.sourcePort =
    reference.transportHeaderData.destinationPort
  destinationPort : packet.transportHeaderData.destinationPort =
    reference.transportHeaderData.sourcePort
  flow : ConnectionId.fromPacket (.ipv6 packet) =
    (ConnectionId.fromPacket (.ipv6 reference)).map .reverse
  checksum : fold16 (wordSum (slice packet.raw 8 40) + (ipv6Body packet.raw).length +
    packet.ipv6HeaderData.nextHeader.toNat + wordSum (ipv6Body packet.raw)) = 65535
  udpChecksum : packet.ipv6HeaderData.nextHeader = 17 → getU16 (ipv6Body packet.raw) 6 ≠ 0
  /-- Also with the additions of the checksum checked. -/
  independent : ∃ p', (fresh.receive data).buildU32 (UInt16.ofNat data.length) = .ok (packet, p')

/-- The protocol of a well-formed packetizer whose next header is UDP. -/
theorem WellFormed.isUdp (wf : p.WellFormed) (udp : getByte p.ipv6Header 6 = 17) :
    p.protocol = .udp ∧ p.transportHeader.raw.length = 8 := by
  have kind := wf.kind
  have transport := wf.transport
  cases is : p.transportHeader with
  | tcp h =>
      rw [is] at kind
      rw [udp] at kind
      cases kind.1
  | udp h =>
      rw [is] at kind transport
      exact ⟨kind.2, UdpHeader.WellFormed.length_raw transport⟩

/-- **What is built at any time answers the reference packet.**  `Serves` is what every run keeps
of a fresh packetizer, and it is enough: only the headers that are rewritten matter for the next
packet. -/
theorem Reverses.answers {reference : Ipv6Packet} (reverses : fresh.Reverses reference)
    (serves : fresh.Serves p) (received : data.length ≤ p.payload.length) :
    ∃ packet p', (p.receive data).build (UInt16.ofNat data.length) = .ok (packet, p') ∧
      fresh.Answers reference packet data := by
  obtain ⟨packet, p', eq, serves', built⟩ := serves.build received
  refine ⟨packet, p', eq, ?_⟩
  have header := built.read.header
  have long := built.wellFormed.length_header
  have body := built.body
  have transport : packet.transportHeaderData = fresh.transportHeader.data :=
    built.transport.trans serves'.alike.data.symm
  have next : packet.ipv6HeaderData.nextHeader = reference.ipv6HeaderData.nextHeader := by
    rw [header, ← reverses.nextHeader, getByte_sameBut serves'.alike.ipv6 (by decide)]
    exact built.nextHeader
  have nextFresh : getByte p'.ipv6Header 6 = packet.ipv6HeaderData.nextHeader := by
    rw [header]
    exact built.nextHeader.symm
  have address {i j : ℕ} (after : 6 ≤ i) (inside : j ≤ 40) :
      slice packet.raw i j = slice fresh.ipv6Header i j := by
    rw [serves'.alike.ipv6.slice (by simp; omega), built.raw, slice,
      List.take_append_of_le_length (by omega)]
    rfl
  have source : packet.ipv6HeaderData.source = reference.ipv6HeaderData.destination := by
    rw [header, ← reverses.source]
    exact address (by omega) (by omega)
  have destination : packet.ipv6HeaderData.destination = reference.ipv6HeaderData.source := by
    rw [header, ← reverses.destination]
    exact address (by omega) (by omega)
  have sourcePort := reverses.sourcePort
  have destinationPort := reverses.destinationPort
  rw [← transport] at sourcePort destinationPort
  refine ⟨IpPacket.parse_of_readFrom built.read, ?_, ?_, built.payload, source, destination,
    sourcePort, destinationPort, ?_, ?_, ?_, ?_⟩
  · rw [header, serves'.alike.transport.1, ← built.field]
    show (getU16 packet.raw 4).toNat = _
    rw [built.raw, getU16_append_left (by omega)]
  · intro udp
    have isUdp : getByte packet.raw 6 = 17 := by rw [built.nextHeader, nextFresh, udp]
    have field := built.read.transport.udpLength isUdp
    rw [field, ← built.wellFormed.isUdp (by rw [nextFresh, udp]) |>.2, ← built.field, built.raw,
      getU16_append_left (by omega)]
  · simp only [ConnectionId.fromPacket, next, source, destination, sourcePort, destinationPort]
    split
    · rfl
    · split
      · rfl
      · rfl
  · have valid := built.valid.checksum
    rw [length_ipv6Body built.read.complete]
    rw [header]
    exact valid
  · intro udp
    have isUdp : getByte p.ipv6Header 6 = 17 := by
      rw [← getByte_sameBut serves.alike.ipv6 (by decide), reverses.nextHeader, ← next, udp]
    obtain ⟨protocol, -⟩ := (serves.wellFormed.receive received).isUdp isUdp
    obtain ⟨-, eight⟩ := built.wellFormed.isUdp (by rw [nextFresh, udp])
    rw [body, getU16_append_left (by omega)]
    exact build_udpChecksum protocol eq
  · have fresh' : fresh.Serves fresh := ⟨reverses.wellFormed, .refl fresh⟩
    have room := serves.wellFormed.payload_index
    have room' := reverses.wellFormed.payload_index
    have index : p.payloadIndex = fresh.payloadIndex := by
      rw [payloadIndex, payloadIndex, serves.alike.transport.1]
    have received' : data.length ≤ fresh.payload.length := by omega
    obtain ⟨packet', q', eq', -, -⟩ := fresh'.build received'
    have small : (UInt16.ofNat data.length).toNat = data.length := by
      rw [payloadIndex, ipv6HeaderLength] at room
      rw [UInt16.toNat_ofNat', Nat.mod_eq_of_lt (by omega)]
    refine ⟨q', ?_⟩
    rw [buildU32_eq, eq', build_congr (serves.wellFormed.receive received)
      (reverses.wellFormed.receive received') (serves.alike.symm.receive data) ?_ eq eq']
    rw [small, slice_zero, slice_zero, front_receive received, front_receive received']

theorem new_eq_ok {header : Ipv6Header} {transport : TransportHeader}
    (created : Ipv6Packetizer.new header transport = .ok p) :
    header.raw.length = 40 ∧
      p.ipv6Header = splice (splice header.raw 8 header.data.destination) 24 header.data.source ∧
      transport.swapSourceAndDestination = .ok p.transportHeader := by
  unfold Ipv6Packetizer.new at created
  split at created
  · cases created
  · rename_i lengths
    rw [not_or, not_not] at lengths
    obtain ⟨t, swapped, created⟩ := bind_eq_ok.mp created
    split at created
    · cases created
    · cases created
      exact ⟨lengths.1, rfl, swapped⟩

/-- **A packetizer is made of every accepted packet**, with the endpoints swapped.  This is the
first packet of a flow, which all replies are built from. -/
theorem new_reverses {raw : List UInt8} {reference : Ipv6Packet} (read : reference.ReadFrom raw) :
    ∃ header transport fresh, reference.ipv6Header = .ok header ∧
      reference.transportHeader = .ok transport ∧
      Ipv6Packetizer.new header transport = .ok fresh ∧
      fresh.transportHeader.raw.length = transport.raw.length ∧ fresh.Reverses reference := by
  obtain ⟨header, transport, fresh, ipv6, behind, created, wf, -⟩ := Ipv6Packetizer.new_ok read
  obtain ⟨transport', ipv6', behind', wfTransport, data, -⟩ := read.headers
  rw [ipv6] at ipv6'
  cases ipv6'
  rw [behind] at behind'
  cases behind'
  obtain ⟨long, bytes, swapped⟩ := new_eq_ok created
  obtain ⟨t, eq, -, length, ports⟩ := wfTransport.swapSourceAndDestination
  rw [swapped] at eq
  cases eq
  have complete := read.complete
  simp only [List.length_take] at long
  have lengthAddress {i : ℕ} (fits : i + 16 ≤ 40) : (slice raw i (i + 16)).length = 16 := by
    rw [length_slice]
    omega
  set front := raw.take 40
  set header := Ipv6HeaderData.ofRaw raw with hheader
  have lengthFront : front.length = 40 := List.length_take_of_le (by omega)
  have lengthDestination : header.destination.length = 16 := lengthAddress (by omega : 24 + 16 ≤ 40)
  have lengthSource : header.source.length = 16 := lengthAddress (by omega : 8 + 16 ≤ 40)
  have inner : 8 + header.destination.length ≤ front.length := by omega
  have outer : 24 + header.source.length ≤ (splice front 8 header.destination).length := by
    rw [length_splice inner]
    omega
  obtain ⟨sourcePort, destinationPort⟩ := Packetizer.swapped_ports ports
  rw [data] at sourcePort destinationPort
  refine ⟨_, transport, fresh, ipv6, behind, created, length, wf, ?_, ?_, ?_, sourcePort,
    destinationPort⟩
  · rw [bytes, getByte_splice_of_disjoint outer (by omega),
      getByte_splice_of_disjoint inner (by omega), getByte_take (by omega), read.header]
    rfl
  · rw [bytes, read.header, ← hheader, slice_splice_of_le outer le_rfl]
    have written := slice_splice_self inner
    rwa [lengthDestination] at written
  · rw [bytes, read.header, ← hheader]
    have written := slice_splice_self outer
    rwa [lengthSource] at written

/-- **Every packet of a flow answers its first one.**  Whatever one packetizer has built
before, each call that has a payload builds a packet that parses back to itself,
carries the payload in the reverse flow with a valid checksum, and is the packet a fresh
packetizer builds of it. -/
theorem run_answersIpv6 {raw : List UInt8} {reference : Ipv6Packet}
    (parsed : IpPacket.parse raw = .ok (.ok (.ipv6 reference))) :
    ∃ header transport fresh, reference.ipv6Header = .ok header ∧
      reference.transportHeader = .ok transport ∧
      Ipv6Packetizer.new header transport = .ok fresh ∧
      fresh.transportHeader.raw.length = transport.raw.length ∧
      ∀ {t p}, (machine fresh).Run t p → ∀ {c data}, p.payloadOf c = some data →
        ∃ packet p', p.call c = .ok (.ok (some packet), p') ∧
          fresh.Answers reference packet data := by
  obtain ⟨header, transport, fresh, ipv6, behind, created, length, reverses⟩ :=
    new_reverses (IpPacket.parse_ipv6 parsed)
  refine ⟨header, transport, fresh, ipv6, behind, created, length, ?_⟩
  intro t p run c data payload
  obtain ⟨received, eq⟩ := call_eq_build payload
  obtain ⟨packet, p', built, answers⟩ :=
    reverses.answers (run_serves reverses.wellFormed run) received
  refine ⟨packet, p', ?_, answers⟩
  rw [eq, built]
  rfl

/-- A UDP datagram without payload, from ::1 port 1234 to ::2 port 5678. -/
def udpReference : List UInt8 :=
  [0x60, 0, 0, 0, 0, 8, 17, 64, 0, 0, 0, 0, 0, 0, 0, 0, 0, 0, 0, 0, 0, 0, 0, 1,
    0, 0, 0, 0, 0, 0, 0, 0, 0, 0, 0, 0, 0, 0, 0, 2, 4, 210, 22, 46, 0, 8, 0, 0]

/-- A reply of three bytes, behind one of eight. -/
theorem run_answersIpv6_odd :
    ∃ (reference packet : Ipv6Packet) (fresh p p' : Ipv6Packetizer) (t : List (Ipv6Packetizer × Call)),
      IpPacket.parse udpReference = .ok (.ok (.ipv6 reference)) ∧ (machine fresh).Run t p ∧
      t.map Prod.snd = [.packetize (.ok [1, 2, 3, 4, 5, 6, 7, 8])] ∧
      p.call (.packetize (.ok [0x61, 0x62, 0x63])) = .ok (.ok (some packet), p') ∧
      fresh.Answers reference packet [0x61, 0x62, 0x63] := by
  have parsed : IpPacket.parse udpReference = .ok (.ok (.ipv6 ⟨udpReference, .ofRaw udpReference,
      .udp (.ofRaw (udpReference.drop 40))⟩)) := by decide
  obtain ⟨header, transport, fresh, ipv6, behind, created, -, answers⟩ := run_answersIpv6 parsed
  obtain ⟨_, _, _, ipv6', behind', created', length, reverses⟩ := new_reverses (IpPacket.parse_ipv6 parsed)
  cases ipv6.symm.trans ipv6'
  cases behind.symm.trans behind'
  cases created.symm.trans created'
  have carried {p : Ipv6Packetizer} (serves : fresh.Serves p) {data : List UInt8} (short : data.length ≤ 8) :
      p.payloadOf (.packetize (.ok data)) = some data := by
    have all := serves.wellFormed.length
    have headers := serves.wellFormed.length_header
    have bounds := serves.wellFormed.transport.length_bounds
    rw [buffer, List.length_append, List.length_append, maxPacketLength] at all
    exact congrArg some (List.take_of_length_le (by omega))
  have start : (machine fresh).Run [] fresh := .start rfl
  have payload₁ :=
    @carried fresh (run_serves reverses.wellFormed start) [1, 2, 3, 4, 5, 6, 7, 8] (by decide)
  obtain ⟨_, p, call₁, -⟩ := answers start payload₁
  have run := start.step ⟨_, call₁⟩
  have payload₂ := @carried p (run_serves reverses.wellFormed run) [0x61, 0x62, 0x63] (by decide)
  obtain ⟨packet, p', call₂, answer⟩ := answers run payload₂
  exact ⟨_, packet, fresh, p, p', _, parsed, run, rfl, call₂, answer⟩

end Ipv6Packetizer

end ReverseTether
