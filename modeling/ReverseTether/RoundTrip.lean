import ReverseTether.Library.Machine
import ReverseTether.Client
import ReverseTether.HeaderRewriting

/-!
# From payloads to packets and back

A packetizer turns the payloads of a flow into IPv4 packets that travel the other
way: the headers are those of a packet of the client with its endpoints swapped.
`Ipv4Packet.ReadFrom` says what the parser of the relay accepts, byte for byte
(`IpPacket.parse_ipv4_iff`), so that a packet that was built can be parsed back.

`Packetizer.run_answers` is about any sequence of calls of one packetizer: each
packet parses back to itself, carries its payload in the reverse flow, and is the
packet a fresh packetizer would have built.

`Built` is what the packetizer puts together and `ReadFrom` what the parser asks for, and the
theorem between them is where the lengths, the header checksum, the addresses and the ports
are compared, byte by byte.  From there on packets are compared as values.

The template may have been used for a longer payload, and the bytes of that are still behind
the end of a shorter one.  A packet is the front of the buffer, as long as its own total
length, so they are not part of it.
-/

namespace ReverseTether

open Library

/-! ## Accepted packets -/

/-- What is behind the IPv4 header of `raw`, as far as its length field says. -/
def ipv4Body (raw : List UInt8) : List UInt8 :=
  slice raw (ipv4HeaderLength raw) (getU16 raw 2).toNat

/-- The transport header in `raw` is of the protocol it announces, and fits; other
protocols have none. -/
inductive Ipv4Transport (raw : List UInt8) : Option TransportHeaderData → Prop
  | tcp : getByte raw 9 = 6 →
      20 ≤ (TcpHeaderData.ofRaw (ipv4Body raw)).headerLength.toNat →
      (TcpHeaderData.ofRaw (ipv4Body raw)).headerLength.toNat ≤ (ipv4Body raw).length →
      Ipv4Transport raw (some (.tcp (.ofRaw (ipv4Body raw))))
  | udp : getByte raw 9 = 17 → 8 ≤ (ipv4Body raw).length →
      (getU16 (ipv4Body raw) 4).toNat = (ipv4Body raw).length →
      Ipv4Transport raw (some (.udp (.ofRaw (ipv4Body raw))))
  | other : getByte raw 9 ≠ 6 → getByte raw 9 ≠ 17 → Ipv4Transport raw none

/-- `raw` begins with the IPv4 packet `packet`: it is no fragment, its headers are within its
length, and its bytes are the ones that length takes. -/
structure Ipv4Packet.ReadFrom (raw : List UInt8) (packet : Ipv4Packet) : Prop where
  version : getByte raw 0 >>> 4 = 4
  long : 20 ≤ ipv4HeaderLength raw
  order : ipv4HeaderLength raw ≤ (getU16 raw 2).toNat
  complete : (getU16 raw 2).toNat ≤ raw.length
  whole : ¬ IsFragment raw
  bytes : packet.raw = raw.take (getU16 raw 2).toNat
  header : packet.ipv4HeaderData = .ofRaw raw
  transport : Ipv4Transport raw packet.transportHeaderData

theorem length_ipv4Body {raw : List UInt8} (complete : (getU16 raw 2).toNat ≤ raw.length) :
    (ipv4Body raw).length = (getU16 raw 2).toNat - ipv4HeaderLength raw := by
  rw [ipv4Body, length_slice, min_eq_left complete]

/-- What `validateIpv4` accepts. -/
theorem validateIpv4_eq_ok_iff {raw : List UInt8} :
    validateIpv4 raw = .ok (.ok ()) ↔
      20 ≤ ipv4HeaderLength raw ∧ ipv4HeaderLength raw ≤ (getU16 raw 2).toNat ∧
        (getU16 raw 2).toNat ≤ raw.length ∧ ¬ IsFragment raw ∧
        (getByte raw 9 = 6 → validateTcp (ipv4Body raw) (ipv4Body raw).length = .ok (.ok ())) ∧
        (getByte raw 9 = 17 → validateUdp (ipv4Body raw) (ipv4Body raw).length = .ok (.ok ())) := by
  rw [validateIpv4]
  by_cases short : raw.length < 4
  · rw [if_pos short]
    exact ⟨by simp, fun valid => by omega⟩
  · rw [if_neg short]
    simp only
    rw [show (getByte raw 0 &&& 15).toNat * 4 = ipv4HeaderLength raw from rfl]
    by_cases lengths : raw.length < (getU16 raw 2).toNat ∨ ipv4HeaderLength raw < 20 ∨
        (getU16 raw 2).toNat < ipv4HeaderLength raw
    · rw [if_pos lengths]
      exact ⟨by simp, fun valid => by omega⟩
    · have complete : (getU16 raw 2).toNat ≤ raw.length := by omega
      rw [if_neg lengths, readByte_eq (by omega), readByte_eq (by omega), ok_bind, ok_bind]
      split
      · rename_i fragment
        exact ⟨by simp, fun valid => absurd fragment valid.2.2.2.1⟩
      · rename_i fragment
        rw [readSlice_eq (by omega) complete, readByte_eq (by omega), ok_bind,
          ok_bind, show slice raw (ipv4HeaderLength raw) (getU16 raw 2).toNat = ipv4Body raw from rfl,
          ← length_ipv4Body complete]
        by_cases tcp : getByte raw 9 = 6
        · rw [if_pos tcp]
          refine ⟨fun valid => ⟨by omega, by omega, complete, fragment, fun _ => valid, ?_⟩,
            fun valid => valid.2.2.2.2.1 tcp⟩
          intro udp
          rw [tcp] at udp
          cases udp
        · rw [if_neg tcp]
          by_cases udp : getByte raw 9 = 17
          · rw [if_pos udp]
            exact ⟨fun valid => ⟨by omega, by omega, complete, fragment, fun h => absurd h tcp,
              fun _ => valid⟩, fun valid => valid.2.2.2.2.2 udp⟩
          · rw [if_neg udp]
            exact ⟨fun _ => ⟨by omega, by omega, complete, fragment, fun h => absurd h tcp,
              fun h => absurd h udp⟩, fun _ => rfl⟩

/-- There is one way to read the transport header. -/
theorem Ipv4Transport.unique {raw : List UInt8} {d d' : Option TransportHeaderData}
    (first : Ipv4Transport raw d) (second : Ipv4Transport raw d') : d = d' := by
  cases first with
  | tcp tcp _ _ =>
      cases second with
      | tcp _ _ _ => rfl
      | udp udp _ _ => rw [tcp] at udp; cases udp
      | other notTcp _ => exact absurd tcp notTcp
  | udp udp _ _ =>
      cases second with
      | tcp tcp _ _ => rw [tcp] at udp; cases udp
      | udp _ _ _ => rfl
      | other _ notUdp => exact absurd udp notUdp
  | other notTcp notUdp =>
      cases second with
      | tcp tcp _ _ => exact absurd tcp notTcp
      | udp udp _ _ => exact absurd udp notUdp
      | other _ _ => rfl

/-- A transport header that fits passes the validation. -/
theorem Ipv4Transport.validates {raw : List UInt8} {d : Option TransportHeaderData}
    (transport : Ipv4Transport raw d) :
    (getByte raw 9 = 6 → validateTcp (ipv4Body raw) (ipv4Body raw).length = .ok (.ok ())) ∧
      (getByte raw 9 = 17 → validateUdp (ipv4Body raw) (ipv4Body raw).length = .ok (.ok ())) := by
  cases transport with
  | tcp isTcp least fits =>
      refine ⟨fun _ => validateTcp_eq_ok_iff.mpr ⟨least, fits⟩, ?_⟩
      intro isUdp
      rw [isTcp] at isUdp
      cases isUdp
  | udp isUdp least fits =>
      refine ⟨?_, fun _ => validateUdp_eq_ok_iff.mpr ⟨least, fits⟩⟩
      intro isTcp
      rw [isTcp] at isUdp
      cases isUdp
  | other notTcp notUdp =>
      exact ⟨fun isTcp => absurd isTcp notTcp, fun isUdp => absurd isUdp notUdp⟩

theorem Ipv4Transport.udpLength {raw : List UInt8} {d : Option TransportHeaderData}
    (transport : Ipv4Transport raw d) (isUdp : getByte raw 9 = 17) :
    (getU16 (ipv4Body raw) 4).toNat = (ipv4Body raw).length :=
  (validateUdp_eq_ok_iff.mp (transport.validates.2 isUdp)).2

/-- The transport header of a valid packet is read from its body, whatever follows the
packet in the buffer. -/
theorem Ipv4Packet.transport_of_valid {raw : List UInt8}
    (order : ipv4HeaderLength raw ≤ (getU16 raw 2).toNat)
    (complete : (getU16 raw 2).toNat ≤ raw.length)
    (tcp : getByte raw 9 = 6 → validateTcp (ipv4Body raw) (ipv4Body raw).length = .ok (.ok ()))
    (udp : getByte raw 9 = 17 → validateUdp (ipv4Body raw) (ipv4Body raw).length = .ok (.ok ())) :
    ∃ d, TransportHeaderData.parse (.ofByte (getByte raw 9)) (raw.drop (ipv4HeaderLength raw)) =
        .ok d ∧ Ipv4Transport raw d := by
  obtain ⟨rest, behind⟩ : ∃ rest, raw.drop (ipv4HeaderLength raw) = ipv4Body raw ++ rest := by
    refine ⟨raw.drop (getU16 raw 2).toNat, ?_⟩
    rw [ipv4Body, ← slice_full (le_refl raw.length), ← slice_full (le_refl raw.length),
      slice_append_slice raw order complete]
  rw [behind, Protocol.ofByte]
  by_cases isTcp : getByte raw 9 = 6
  · obtain ⟨least, fits⟩ := validateTcp_eq_ok_iff.mp (tcp isTcp)
    refine ⟨_, ?_, .tcp isTcp least fits⟩
    rw [if_pos isTcp, TransportHeaderData.parse,
      TcpHeaderData.parse_eq (by rw [List.length_append]; omega),
      TcpHeaderData.ofRaw_append (by omega)]
    rfl
  · rw [if_neg isTcp]
    by_cases isUdp : getByte raw 9 = 17
    · obtain ⟨least, fits⟩ := validateUdp_eq_ok_iff.mp (udp isUdp)
      refine ⟨_, ?_, .udp isUdp least fits⟩
      rw [if_pos isUdp, TransportHeaderData.parse,
        UdpHeaderData.parse_eq (by rw [List.length_append]; omega),
        UdpHeaderData.ofRaw_append (by omega)]
      rfl
    · rw [if_neg isUdp]
      exact ⟨none, rfl, .other isTcp isUdp⟩

/-- A valid packet parses to what its bytes say. -/
theorem Ipv4Packet.parse_of_valid {raw : List UInt8} (valid : validateIpv4 raw = .ok (.ok ())) :
    ∃ d, Ipv4Packet.parse raw = .ok ⟨raw.take (getU16 raw 2).toNat, .ofRaw raw, d⟩ ∧
      Ipv4Transport raw d := by
  obtain ⟨long, order, complete, -, tcp, udp⟩ := validateIpv4_eq_ok_iff.mp valid
  obtain ⟨d, parsed, transport⟩ := Ipv4Packet.transport_of_valid order complete tcp udp
  refine ⟨d, ?_, transport⟩
  have headerLength : (Ipv4HeaderData.ofRaw raw).headerLength.toNat = ipv4HeaderLength raw :=
    Ipv4HeaderData.toNat_headerLength raw
  have protocol : (Ipv4HeaderData.ofRaw raw).protocol = .ofByte (getByte raw 9) := rfl
  have total : (Ipv4HeaderData.ofRaw raw).totalLength = getU16 raw 2 := rfl
  rw [Ipv4Packet.parse, Ipv4HeaderData.parse_eq (by omega), ok_bind, headerLength, protocol, total,
    readSlice_eq (by omega) le_rfl, ok_bind, slice_full le_rfl, parsed, ok_bind,
    readSlice_eq (Nat.zero_le _) complete, slice_zero]
  rfl

/-- **What is accepted as an IPv4 packet.**  The specification names the fields and where they are
read, and the parser is shown to accept exactly these packets. -/
theorem IpPacket.parse_ipv4_iff {raw : List UInt8} {packet : Ipv4Packet} :
    IpPacket.parse raw = .ok (.ok (.ipv4 packet)) ↔ packet.ReadFrom raw := by
  constructor
  · intro parsed
    unfold IpPacket.parse at parsed
    split at parsed
    · cases parsed
    · split at parsed
      · rename_i version
        obtain ⟨result, valid, parsed⟩ := bind_eq_ok.mp parsed
        cases result with
        | error err => cases parsed
        | ok _ =>
            obtain ⟨packet', eq, parsed⟩ := bind_eq_ok.mp parsed
            cases parsed
            obtain ⟨long, order, complete, whole, -, -⟩ := validateIpv4_eq_ok_iff.mp valid
            obtain ⟨d, eq', transport⟩ := Ipv4Packet.parse_of_valid valid
            rw [eq'] at eq
            cases eq
            exact ⟨version, long, order, complete, whole, rfl, rfl, transport⟩
      · split at parsed
        · obtain ⟨result, -, parsed⟩ := bind_eq_ok.mp parsed
          cases result <;> cases parsed
        · cases parsed
  · rintro ⟨version, long, order, complete, whole, bytes, header, transport⟩
    have valid : validateIpv4 raw = .ok (.ok ()) :=
      validateIpv4_eq_ok_iff.mpr ⟨long, order, complete, whole, transport.validates⟩
    obtain ⟨d, parsed, transport'⟩ := Ipv4Packet.parse_of_valid valid
    have same : packet = ⟨raw.take (getU16 raw 2).toNat, .ofRaw raw, d⟩ := by
      rw [← bytes, ← header, ← transport.unique transport']
    cases raw with
    | nil => simp at complete order long; omega
    | cons first rest =>
        rw [IpPacket.parse, if_pos (show first >>> 4 = 4 from version), valid, ok_bind, same, parsed]
        rfl

/-- The headers of an accepted packet with a transport header. -/
theorem Ipv4Packet.ReadFrom.headers {raw : List UInt8} {packet : Ipv4Packet}
    (read : packet.ReadFrom raw) (known : packet.ipv4HeaderData.protocol ≠ .other) :
    ∃ transport, packet.headers = .ok (⟨raw.take (ipv4HeaderLength raw), .ofRaw raw⟩, some transport) ∧
      Ipv4Header.WellFormed ⟨raw.take (ipv4HeaderLength raw), .ofRaw raw⟩ ∧ transport.WellFormed ∧
      packet.transportHeaderData = some transport.data ∧
      (Ipv4HeaderData.ofRaw raw).protocol =
        (match transport with
          | .tcp _ => .tcp
          | .udp _ => .udp) := by
  obtain ⟨version, long, order, complete, whole, bytes, header, transport⟩ := read
  have headerLength : (Ipv4HeaderData.ofRaw raw).headerLength.toNat = ipv4HeaderLength raw :=
    Ipv4HeaderData.toNat_headerLength raw
  have length : packet.raw.length = (getU16 raw 2).toNat := by
    rw [bytes, List.length_take_of_le complete]
  have lengthBody := length_ipv4Body complete
  have body : packet.raw.drop (ipv4HeaderLength raw) = ipv4Body raw := by
    rw [bytes]
    rfl
  have front : readSlice packet.raw 0 (ipv4HeaderLength raw) =
      .ok (raw.take (ipv4HeaderLength raw)) := by
    rw [readSlice_eq (Nat.zero_le _) (by omega), slice_zero, bytes, List.take_take,
      min_eq_left order]
  have split {d : TransportHeaderData} (some : packet.transportHeaderData = .some d)
      (inside : d.headerLength.toNat ≤ (ipv4Body raw).length) :
      packet.headers = .ok (⟨raw.take (ipv4HeaderLength raw), .ofRaw raw⟩,
        .some (d.bind ((ipv4Body raw).take d.headerLength.toNat))) := by
    rw [Ipv4Packet.headers, some, header, headerLength, front, ok_bind]
    simp only
    rw [readSlice_eq (by omega) (by omega), slice, List.drop_take, Nat.add_sub_cancel_left, body]
    rfl
  have wf : Ipv4Header.WellFormed ⟨raw.take (ipv4HeaderLength raw), .ofRaw raw⟩ := by
    have lengthTake : (raw.take (ipv4HeaderLength raw)).length = ipv4HeaderLength raw :=
      List.length_take_of_le (by omega)
    refine ⟨lengthTake.symm ▸ long, lengthTake.trans headerLength.symm, ?_⟩
    show Ipv4HeaderData.ofRaw raw = .ofRaw (raw.take (ipv4HeaderLength raw))
    conv_lhs => rw [← List.take_append_drop (ipv4HeaderLength raw) raw]
    exact Ipv4HeaderData.ofRaw_append (by omega) _
  have protocol : (Ipv4HeaderData.ofRaw raw).protocol = .ofByte (getByte raw 9) := rfl
  rw [header, protocol] at known
  generalize eq : packet.transportHeaderData = d at transport
  cases transport with
  | tcp isTcp least fits =>
      refine ⟨_, split eq fits, wf, TcpHeader.wellFormed_take least fits, rfl, ?_⟩
      rw [protocol, isTcp]
      rfl
  | udp isUdp least fits =>
      refine ⟨_, split eq least, wf, UdpHeader.wellFormed_take least, rfl, ?_⟩
      rw [protocol, isUdp]
      rfl
  | other notTcp notUdp =>
      rw [Protocol.ofByte, if_neg notTcp, if_neg notUdp] at known
      exact absurd rfl known

/-! ## Packets that were built -/

theorem TransportHeader.headerLength_data (h : TransportHeader) :
    h.data.headerLength = h.headerLength := by
  cases h <;> rfl

/-- What is behind the IPv4 header of a built packet. -/
theorem Packetizer.Built.body {p p' : Packetizer} {data : List UInt8} {packet : Ipv4Packet}
    (built : p.Built p' data packet) :
    ipv4HeaderLength packet.raw = p'.ipv4Header.raw.length ∧
      ipv4Body packet.raw = p'.transportHeader.raw ++ data := by
  have split : packet.raw = p'.ipv4Header.raw ++ (p'.transportHeader.raw ++ data) := by
    rw [built.raw, List.append_assoc]
  have index : ipv4HeaderLength packet.raw = p'.ipv4Header.raw.length := by
    rw [split]
    exact built.wellFormed.ipv4.ipv4HeaderLength_append _
  refine ⟨index, ?_⟩
  rw [ipv4Body, index, built.valid.totalLength, slice_full le_rfl, split, List.drop_left]

/-- **A built packet is parsed back to itself.**  The exception is a flow whose reference header is
that of a fragment, which no packetizer is made of. -/
theorem Packetizer.Built.readFrom {p p' : Packetizer} {data : List UInt8} {packet : Ipv4Packet}
    (built : p.Built p' data packet) (whole : ¬ IsFragment p'.ipv4Header.raw) :
    packet.ReadFrom packet.raw := by
  have wf := built.wellFormed
  have long := wf.ipv4.long
  have split : packet.raw = p'.ipv4Header.raw ++ (p'.transportHeader.raw ++ data) := by
    rw [built.raw, List.append_assoc]
  have total := built.valid.totalLength
  obtain ⟨index, body⟩ := built.body
  have front : Ipv4HeaderData.ofRaw packet.raw = p'.ipv4Header.data := by
    rw [split, Ipv4HeaderData.ofRaw_append long, wf.ipv4.mirrors]
  have header : packet.ipv4HeaderData = p'.ipv4Header.data := by rw [built.inflated]; rfl
  have transport : packet.transportHeaderData = some p'.transportHeader.data := by
    rw [built.inflated]
    rfl
  have protocol : Protocol.ofByte (getByte packet.raw 9) = p'.ipv4Header.data.protocol :=
    congrArg Ipv4HeaderData.protocol front
  have kind := wf.protocol
  refine ⟨built.valid.version, built.valid.long, ?_, total.le, ?_, ?_, header.trans front.symm, ?_⟩
  · rw [index, total, split, List.length_append]
    omega
  · rw [IsFragment, split, getByte_append_left (by omega), getByte_append_left (by omega)]
    exact whole
  · rw [total, List.take_length]
  · rw [transport]
    cases is : p'.transportHeader with
    | tcp h =>
        have tcp : h.WellFormed := by
          have := wf.transport
          rwa [is] at this
        have tcpLong := tcp.long
        rw [is] at kind body
        have data' : TcpHeaderData.ofRaw (ipv4Body packet.raw) = h.data := by
          rw [body]
          show TcpHeaderData.ofRaw (h.raw ++ data) = _
          rw [TcpHeaderData.ofRaw_append (by omega), tcp.mirrors]
        show Ipv4Transport packet.raw (some (.tcp h.data))
        rw [← data']
        refine .tcp (Protocol.eq_tcp_of_ofByte (protocol.trans kind)) ?_ ?_
        · rw [data', ← tcp.length_raw]
          exact tcpLong
        · rw [data', ← tcp.length_raw, body, List.length_append]
          exact Nat.le_add_right _ _
    | udp h =>
        have udp : h.WellFormed := by
          have := wf.transport
          rwa [is] at this
        have eight := udp.length_raw
        rw [is] at kind body
        have data' : UdpHeaderData.ofRaw (ipv4Body packet.raw) = h.data := by
          rw [body]
          show UdpHeaderData.ofRaw (h.raw ++ data) = _
          rw [UdpHeaderData.ofRaw_append (by omega), udp.mirrors]
        have isUdp := Protocol.eq_udp_of_ofByte (protocol.trans kind)
        have lengthBody : (ipv4Body packet.raw).length =
            packet.raw.length - ipv4HeaderLength packet.raw := by
          rw [length_ipv4Body total.le, total]
        show Ipv4Transport packet.raw (some (.udp h.data))
        rw [← data']
        refine .udp isUdp ?_ ?_
        · rw [body, List.length_append]
          show 8 ≤ h.raw.length + data.length
          omega
        · rcases built.valid.transport with ⟨isTcp, -⟩ | ⟨-, -, field, -⟩
          · rw [isUdp] at isTcp
            cases isTcp
          · rw [lengthBody, ← field, ipv4Body, getU16_slice (by
              rw [total, index, split, List.length_append, List.length_append, is]
              show _ + 4 + 2 ≤ _ + (h.raw.length + _)
              omega)]

/-! ## Runs of a packetizer -/

/-- The flow in the other direction. -/
def ConnectionId.reverse (id : ConnectionId) : ConnectionId :=
  { id with source := id.destination, destination := id.source }

namespace Packetizer

/-- The calls that build a packet, with what their source gives. -/
inductive Call
  | packetizeEmptyPayload
  | packetize (source : IoResult (List UInt8))
  | packetizeRead (source : IoResult (List UInt8)) (maxChunkSize : ℕ)

/-- One call, and the packet it returns. -/
def call (p : Packetizer) : Call → Outcome (IoResult (Option Ipv4Packet) × Packetizer)
  | .packetizeEmptyPayload => do
      let (packet, p) ← p.packetizeEmptyPayload
      return (.ok (some packet), p)
  | .packetize source => do
      let (result, p) ← p.packetize source
      return (result.map some, p)
  | .packetizeRead source maxChunkSize => p.packetizeRead source maxChunkSize

/-- What a call has to put behind the headers, unless its source fails or has ended. -/
def payloadOf (p : Packetizer) : Call → Option (List UInt8)
  | .packetizeEmptyPayload => some []
  | .packetize (.ok datagram) => some (datagram.take p.payload.length)
  | .packetizeRead (.ok available) maxChunkSize =>
      if p.chunk available maxChunkSize = [] then none else some (p.chunk available maxChunkSize)
  | .packetize (.error _) | .packetizeRead (.error _) _ => none

/-- The packetizer of one flow, called again and again. -/
def machine (fresh : Packetizer) : Machine Packetizer Call where
  start p := p = fresh
  step p c p' := ∃ result, p.call c = .ok (result, p')

variable {p p' fresh : Packetizer} {c : Call} {data : List UInt8}

theorem receive_nil (p : Packetizer) : p.receive [] = p := by
  rw [receive, splice]
  rfl

/-- A call that has a payload builds the packet of it. -/
theorem call_eq_build (payload : p.payloadOf c = some data) :
    data.length ≤ p.payload.length ∧
      p.call c = (p.receive data).build (UInt16.ofNat data.length) >>= fun (packet, p') =>
        .ok (.ok (some packet), p') := by
  cases c with
  | packetizeEmptyPayload =>
      cases payload
      rw [receive_nil]
      exact ⟨Nat.zero_le _, rfl⟩
  | packetize source =>
      cases source with
      | error err => cases payload
      | ok datagram =>
          cases payload
          refine ⟨List.length_take_le _ _, ?_⟩
          rw [call, packetize]
          simp only [bind_assoc]
          rfl
  | packetizeRead source maxChunkSize =>
      cases source with
      | error err => cases payload
      | ok available =>
          rw [payloadOf] at payload
          split at payload
          · cases payload
          · rename_i nonempty
            cases payload
            refine ⟨?_, ?_⟩
            · rw [chunk, List.length_take]
              omega
            · rw [call, packetizeRead]
              simp only
              rw [if_pos (List.length_pos_iff.mpr nonempty)]
              rfl

/-- A call without a payload does nothing. -/
theorem call_of_none (payload : p.payloadOf c = none) :
    ∃ result, p.call c = .ok (result, p) ∧ ∀ packet, result ≠ .ok (some packet) := by
  cases c with
  | packetizeEmptyPayload => cases payload
  | packetize source =>
      cases source with
      | error err => exact ⟨.error err, rfl, nofun⟩
      | ok datagram => cases payload
  | packetizeRead source maxChunkSize =>
      cases source with
      | error err => exact ⟨.error err, rfl, nofun⟩
      | ok available =>
          rw [payloadOf] at payload
          split at payload
          · rename_i empty
            refine ⟨.ok none, ?_, nofun⟩
            rw [call, packetizeRead]
            simp only
            rw [if_neg (by rw [empty]; exact lt_irrefl 0)]
          · cases payload

/-- What the packetizer of a flow is, whatever it has built.  It is enough for the next packet,
since all that it rewrites is written again. -/
structure Serves (fresh p : Packetizer) : Prop where
  wellFormed : p.WellFormed
  alike : fresh.Alike p

theorem Serves.index (serves : fresh.Serves p) : p.payloadIndex = fresh.payloadIndex := by
  rw [payloadIndex, payloadIndex, transportIndex, transportIndex, serves.alike.ipv4.1,
    serves.alike.transport.1]

/-- A packet is built of every payload that fits. -/
theorem Serves.build (serves : fresh.Serves p) (received : data.length ≤ p.payload.length)
    (fits : p.payloadIndex + data.length ≤ 65535) :
    ∃ packet p', (p.receive data).build (UInt16.ofNat data.length) = .ok (packet, p') ∧
      fresh.Serves p' ∧ p.Built p' data packet := by
  obtain ⟨wf, carried⟩ := serves.wellFormed.receive received
  obtain ⟨packet, p', eq, built⟩ := @WellFormed.build_take _ wf data
    (show p.payloadIndex + data.length < 65536 by omega) carried
  refine ⟨packet, p', eq, ⟨built.wellFormed, ?_⟩, ?_⟩
  · obtain ⟨ipv4, transport, same⟩ := build_alike eq built.transportData
    exact serves.alike.trans ⟨ipv4, transport, same⟩
  · exact ⟨built.wellFormed, built.transportData, built.payloadIndex, built.inflated,
      built.length, built.fits, built.raw, built.valid⟩

/-- A packet that was built fits the length field. -/
theorem Serves.fits (serves : fresh.Serves p) (received : data.length ≤ p.payload.length)
    {packet : Ipv4Packet} (built : (p.receive data).build (UInt16.ofNat data.length) = .ok (packet, p')) :
    p.payloadIndex + data.length ≤ 65535 := by
  obtain ⟨fits, -⟩ := build_eq_ok built
  have room := length_payload serves.wellFormed
  have bounds := serves.wellFormed.transport.length_bounds
  have small : (UInt16.ofNat data.length).toNat = data.length := by
    rw [payloadIndex] at room
    rw [UInt16.toNat_ofNat', Nat.mod_eq_of_lt (by omega)]
  rw [small] at fits
  exact Nat.le_of_lt_succ fits

/-- Every call that returns keeps the packetizer one of its flow. -/
theorem Serves.step (serves : fresh.Serves p) (step : (machine fresh).step p c p') :
    fresh.Serves p' := by
  obtain ⟨result, eq⟩ := step
  cases payload : p.payloadOf c with
  | none =>
      obtain ⟨result', eq', -⟩ := call_of_none payload
      rw [eq'] at eq
      cases eq
      exact serves
  | some data =>
      obtain ⟨received, eq'⟩ := call_eq_build payload
      rw [eq'] at eq
      obtain ⟨⟨packet, q⟩, built, rest⟩ := bind_eq_ok.mp eq
      cases rest
      obtain ⟨packet', p'', built', serves', -⟩ := serves.build received (serves.fits received built)
      rw [built'] at built
      cases built
      exact serves'

theorem run_serves (wf : fresh.WellFormed) {t : List (Packetizer × Call)}
    (run : (machine fresh).Run t p) : fresh.Serves p := by
  refine run.invariant fresh.Serves ?_ (fun _ _ _ serves _ step => serves.step step)
    (Machine.meets_true t)
  intro p start
  have same : p = fresh := start
  rw [same]
  exact ⟨wf, .refl fresh⟩

/-! ### What the packets are -/

/-- `fresh` has the headers of `reference` with the endpoints swapped, as the packets to the client
need them. -/
structure Reverses (fresh : Packetizer) (reference : Ipv4Packet) : Prop where
  wellFormed : fresh.WellFormed
  whole : ¬ IsFragment fresh.ipv4Header.raw
  protocol : fresh.ipv4Header.data.protocol = reference.ipv4HeaderData.protocol
  source : fresh.ipv4Header.data.source = reference.ipv4HeaderData.destination
  destination : fresh.ipv4Header.data.destination = reference.ipv4HeaderData.source
  ports : ∃ d, reference.transportHeaderData = some d ∧
    fresh.transportHeader.data.sourcePort = d.destinationPort ∧
    fresh.transportHeader.data.destinationPort = d.sourcePort

/-- `packet` carries `data` back to the sender of `reference`, and is the packet that
`fresh` builds of it first. -/
structure Answers (fresh : Packetizer) (reference packet : Ipv4Packet) (data : List UInt8) :
    Prop where
  parses : IpPacket.parse packet.raw = .ok (.ok (.ipv4 packet))
  totalLength : packet.length.toNat = fresh.payloadIndex + data.length
  udpLength : packet.ipv4HeaderData.protocol = .udp →
    (getU16 (ipv4Body packet.raw) 4).toNat = 8 + data.length
  payload : packet.payload = .ok (some data)
  source : packet.ipv4HeaderData.source = reference.ipv4HeaderData.destination
  destination : packet.ipv4HeaderData.destination = reference.ipv4HeaderData.source
  ports : ∃ d d', reference.transportHeaderData = some d ∧ packet.transportHeaderData = some d' ∧
    d'.sourcePort = d.destinationPort ∧ d'.destinationPort = d.sourcePort
  flow : ConnectionId.fromPacket (.ipv4 packet) =
    (ConnectionId.fromPacket (.ipv4 reference)).map .reverse
  headerSum : fold16 (wordSum (packet.raw.take (ipv4HeaderLength packet.raw))) = 65535
  independent : ∃ p', (fresh.receive data).build (UInt16.ofNat data.length) = .ok (packet, p')

/-- The endpoints and the protocol of a flow are not rewritten. -/
theorem Serves.endpoints (serves : fresh.Serves p) (wf : fresh.WellFormed) :
    p.ipv4Header.data.protocol = fresh.ipv4Header.data.protocol ∧
      p.ipv4Header.data.source = fresh.ipv4Header.data.source ∧
      p.ipv4Header.data.destination = fresh.ipv4Header.data.destination := by
  have same := Ipv4Header.data_congr wf.ipv4 serves.wellFormed.ipv4 serves.alike.ipv4 0
  exact ⟨(congrArg Ipv4HeaderData.protocol same).symm, (congrArg Ipv4HeaderData.source same).symm,
    (congrArg Ipv4HeaderData.destination same).symm⟩

theorem Serves.whole (serves : fresh.Serves p) (whole : ¬ IsFragment fresh.ipv4Header.raw) :
    ¬ IsFragment p.ipv4Header.raw := by
  rw [IsFragment, ← getByte_sameBut serves.alike.ipv4 (k := 6) (by decide),
    ← getByte_sameBut serves.alike.ipv4 (k := 7) (by decide)]
  exact whole

theorem WellFormed.length_udp (wf : p.WellFormed) (udp : p.ipv4Header.data.protocol = .udp) :
    p.transportHeader.raw.length = 8 := by
  have kind := wf.protocol
  have length := wf.transport.length_raw
  rw [udp] at kind
  cases is : p.transportHeader with
  | tcp h =>
      rw [is] at kind
      cases kind
  | udp h =>
      rw [is] at length
      exact length

/-- **What is built at any time answers the reference packet.**  It goes from the destination of
the reference packet to its source, it carries the data, and its checksums are right. -/
theorem Reverses.answers {reference : Ipv4Packet} (reverses : fresh.Reverses reference)
    (serves : fresh.Serves p) (received : data.length ≤ p.payload.length)
    (fits : p.payloadIndex + data.length ≤ 65535) :
    ∃ packet p', (p.receive data).build (UInt16.ofNat data.length) = .ok (packet, p') ∧
      fresh.Answers reference packet data := by
  obtain ⟨packet, p', eq, serves', built⟩ := serves.build received fits
  refine ⟨packet, p', eq, ?_⟩
  have read := built.readFrom (serves'.whole reverses.whole)
  have header : packet.ipv4HeaderData = p'.ipv4Header.data := by rw [built.inflated]; rfl
  have transport : packet.transportHeaderData = some fresh.transportHeader.data := by
    rw [built.inflated, serves'.alike.data]
    rfl
  obtain ⟨protocol, source, destination⟩ := serves'.endpoints reverses.wellFormed
  rw [← header, reverses.protocol] at protocol
  rw [← header, reverses.source] at source
  rw [← header, reverses.destination] at destination
  obtain ⟨d, some, sourcePort, destinationPort⟩ := reverses.ports
  have length := built.length_raw
  rw [serves.index] at length
  refine ⟨IpPacket.parse_ipv4_iff.mpr read, ?_, ?_, built.payload, source, destination,
    ⟨d, _, some, transport, sourcePort, destinationPort⟩, ?_, built.valid.headerSum, ?_⟩
  · rw [← length, ← built.valid.totalLength, Ipv4Packet.length, read.header]
    rfl
  · intro udp
    obtain ⟨-, body⟩ := built.body
    rw [read.header] at udp
    have isUdp : getByte packet.raw 9 = 17 := Protocol.eq_udp_of_ofByte udp
    have eight := serves'.wellFormed.length_udp (by rw [← header, read.header, udp])
    rw [read.transport.udpLength isUdp, body, List.length_append, eight]
  · rw [ConnectionId.fromPacket, ConnectionId.fromPacket, transport, some]
    simp only [Option.map_some, ConnectionId.fromHeaders, ConnectionId.reverse, protocol, source,
      destination, sourcePort, destinationPort]
  · have fresh' : fresh.Serves fresh := ⟨reverses.wellFormed, .refl fresh⟩
    have room := length_payload serves.wellFormed
    have room' := length_payload reverses.wellFormed
    have index := serves.index
    obtain ⟨packet', q', eq', -, -⟩ := @Serves.build _ _ data fresh' (by omega) (by omega)
    obtain ⟨wf, front⟩ := serves.wellFormed.receive received
    obtain ⟨wf', front'⟩ := @WellFormed.receive _ reverses.wellFormed data (by omega)
    have small : (UInt16.ofNat data.length).toNat = data.length := by
      rw [UInt16.toNat_ofNat', Nat.mod_eq_of_lt (by omega)]
    refine ⟨q', ?_⟩
    rw [eq', build_congr wf wf' (serves.alike.symm.receive data) ?_ eq eq']
    rw [small, slice_zero, slice_zero, front, front']

theorem new_eq_ok {ipv4 : Ipv4Header} {transport : TransportHeader}
    (created : Packetizer.new ipv4 transport = .ok p) :
    ipv4.swapSourceAndDestination = .ok p.ipv4Header ∧
      transport.swapSourceAndDestination = .ok p.transportHeader := by
  unfold Packetizer.new at created
  split at created
  · cases created
  · obtain ⟨h, ipv4Swapped, created⟩ := bind_eq_ok.mp created
    obtain ⟨t, transportSwapped, created⟩ := bind_eq_ok.mp created
    cases created
    exact ⟨ipv4Swapped, transportSwapped⟩

theorem swapped_ports {t : TransportHeader} {d : TransportHeaderData}
    (data : t.data = (match d with
      | .tcp data => .tcp { data with
          sourcePort := data.destinationPort, destinationPort := data.sourcePort }
      | .udp data => .udp ⟨data.destinationPort, data.sourcePort⟩)) :
    t.data.sourcePort = d.destinationPort ∧ t.data.destinationPort = d.sourcePort := by
  rw [data]
  cases d <;> exact ⟨rfl, rfl⟩

/-- **A packetizer is made of every accepted packet** that has a transport header, with the
endpoints swapped.  A packet of a protocol that is not routed has none, and no connection is
created for it. -/
theorem new_reverses {raw : List UInt8} {reference : Ipv4Packet} (read : reference.ReadFrom raw)
    (known : reference.ipv4HeaderData.protocol ≠ .other) :
    ∃ ipv4 transport fresh, reference.headers = .ok (ipv4, some transport) ∧
      Packetizer.new ipv4 transport = .ok fresh ∧
      fresh.payloadIndex = ipv4.raw.length + transport.raw.length ∧ fresh.Reverses reference := by
  obtain ⟨transport, headers, wf, wfTransport, some, kind⟩ := read.headers known
  have least := read.long
  have kept {k : ℕ} (inside : k < 20) :
      getByte (raw.take (ipv4HeaderLength raw)) k = getByte raw k := getByte_take (by omega)
  obtain ⟨fresh, created, wfFresh, lengthIpv4, lengthTransport, -⟩ :=
    Packetizer.new_ok wf wfTransport (by rw [kept (by omega)]; exact read.version)
      (by cases transport <;> exact kind)
  obtain ⟨ipv4Swapped, transportSwapped⟩ := new_eq_ok created
  obtain ⟨h, eq, -, keeps, dataIpv4⟩ := wf.swapSourceAndDestination
  rw [ipv4Swapped] at eq
  cases eq
  obtain ⟨t, eq, -, -, dataTransport⟩ := wfTransport.swapSourceAndDestination
  rw [transportSwapped] at eq
  cases eq
  refine ⟨_, transport, fresh, headers, created, ?_, wfFresh, ?_, ?_, ?_, ?_, ?_⟩
  · rw [payloadIndex, transportIndex, lengthIpv4, lengthTransport]
  · rw [IsFragment, keeps.2 6 (by omega), keeps.2 7 (by omega), kept (by omega), kept (by omega)]
    exact read.whole
  · rw [dataIpv4, read.header]
  · rw [dataIpv4, read.header]
  · rw [dataIpv4, read.header]
  · exact ⟨transport.data, some, swapped_ports dataTransport⟩

/-- **Every packet of a flow answers its first one.**  Whatever one packetizer has built
before, the packet it builds of a payload that fits parses back to itself, carries the
payload in the reverse flow, and is the packet a fresh packetizer builds of it. -/
theorem run_answers {raw : List UInt8} {reference : Ipv4Packet}
    (parsed : IpPacket.parse raw = .ok (.ok (.ipv4 reference)))
    (known : reference.ipv4HeaderData.protocol ≠ .other) :
    ∃ ipv4 transport fresh, reference.headers = .ok (ipv4, some transport) ∧
      Packetizer.new ipv4 transport = .ok fresh ∧
      fresh.payloadIndex = ipv4.raw.length + transport.raw.length ∧
      ∀ {t p}, (machine fresh).Run t p → ∀ {c data}, p.payloadOf c = some data →
        p.payloadIndex + data.length ≤ 65535 →
          ∃ packet p', p.call c = .ok (.ok (some packet), p') ∧
            fresh.Answers reference packet data := by
  obtain ⟨ipv4, transport, fresh, headers, created, index, reverses⟩ :=
    new_reverses (IpPacket.parse_ipv4_iff.mp parsed) known
  refine ⟨ipv4, transport, fresh, headers, created, index, ?_⟩
  intro t p run c data payload fits
  obtain ⟨received, eq⟩ := call_eq_build payload
  obtain ⟨packet, p', built, answers⟩ :=
    reverses.answers (run_serves reverses.wellFormed run) received fits
  refine ⟨packet, p', ?_, answers⟩
  rw [eq, built]
  rfl

/-- A UDP datagram without payload, from 10.0.0.1 port 1234 to 10.0.0.2 port 5678. -/
def udpReference : List UInt8 :=
  [0x45, 0, 0, 28, 0, 0, 0, 0, 64, 17, 0, 0, 10, 0, 0, 1, 10, 0, 0, 2, 4, 210, 22, 46, 0, 8, 0, 0]

/-- A reply of three bytes, behind one of eight. -/
theorem run_answers_odd :
    ∃ (reference packet : Ipv4Packet) (fresh p p' : Packetizer) (t : List (Packetizer × Call)),
      IpPacket.parse udpReference = .ok (.ok (.ipv4 reference)) ∧ (machine fresh).Run t p ∧
      t.map Prod.snd = [.packetize (.ok [1, 2, 3, 4, 5, 6, 7, 8])] ∧
      p.call (.packetize (.ok [0x61, 0x62, 0x63])) = .ok (.ok (some packet), p') ∧
      fresh.Answers reference packet [0x61, 0x62, 0x63] := by
  have parsed : IpPacket.parse udpReference = .ok (.ok (.ipv4 ⟨udpReference, .ofRaw udpReference,
    some (.udp (.ofRaw (udpReference.drop 20)))⟩)) := by decide
  obtain ⟨ipv4, transport, fresh, headers, created, index, answers⟩ := run_answers parsed (by decide)
  obtain ⟨_, _, _, headers', created', -, reverses⟩ :=
    new_reverses (IpPacket.parse_ipv4_iff.mp parsed) (by decide)
  cases headers.symm.trans headers'
  cases created.symm.trans created'
  have index : fresh.payloadIndex = 28 := by
    cases headers
    exact index
  have carried {p : Packetizer} (serves : fresh.Serves p) {data : List UInt8} (short : data.length ≤ 8) :
      p.payloadOf (.packetize (.ok data)) = some data ∧ p.payloadIndex + data.length ≤ 65535 := by
    have all := Packetizer.length_payload serves.wellFormed
    rw [serves.index, index] at all ⊢
    exact ⟨congrArg some (List.take_of_length_le (by omega)), by omega⟩
  have start : (machine fresh).Run [] fresh := .start rfl
  obtain ⟨payload₁, fits₁⟩ :=
    @carried fresh (run_serves reverses.wellFormed start) [1, 2, 3, 4, 5, 6, 7, 8] (by decide)
  obtain ⟨_, p, call₁, -⟩ := answers start payload₁ fits₁
  have run := start.step ⟨_, call₁⟩
  obtain ⟨payload₂, fits₂⟩ :=
    @carried p (run_serves reverses.wellFormed run) [0x61, 0x62, 0x63] (by decide)
  obtain ⟨packet, p', call₂, answer⟩ := answers run payload₂ fits₂
  exact ⟨_, packet, fresh, p, p', _, parsed, run, rfl, call₂, answer⟩

end Packetizer

end ReverseTether
