import ReverseTether.TcpHeader

/-!
# The UDP header, and a transport header of either kind

The relay never computes a UDP checksum: it writes `0`, which over IPv4 means
that there is none.

Of a UDP header the relay keeps the two ports; the length and the checksum are only written.
`TransportHeader` and `TransportHeaderData` are the two sums over TCP and UDP, through which a
packetizer and a parsed packet see their header, and whose methods pass each call on to the
kind that is there.

`WellFormed` says that the bytes are a whole header, from which the data were read.  Every
method keeps it: this is what lets a packetizer use one template for as long as a connection
lives.  `Completes` is what `updateChecksum` leaves behind: the length field and the checksum
belong to the payload that follows, for either kind of header (`WellFormed.complete`).
-/

namespace ReverseTether

open Library

/-- `UDP_HEADER_LENGTH`: two ports, the length and the checksum. -/
def udpHeaderLength : UInt8 := 8

/-- `UdpHeaderData`: of the UDP header the relay keeps the two ports. -/
structure UdpHeaderData where
  sourcePort : UInt16
  destinationPort : UInt16
  deriving DecidableEq, Repr

namespace UdpHeaderData

/-- The ports at their places in `raw`. -/
def ofRaw (raw : List UInt8) : UdpHeaderData := ⟨getU16 raw 0, getU16 raw 2⟩

/-- `UdpHeaderData::parse`: it panics when the four bytes of the ports are not there. -/
def parse (raw : List UInt8) : Outcome UdpHeaderData := do
  let sourcePort ← readU16 raw 0
  let destinationPort ← readU16 raw 2
  return { sourcePort, destinationPort }

theorem parse_eq {raw : List UInt8} (long : 4 ≤ raw.length) : parse raw = .ok (ofRaw raw) := by
  rw [parse, readU16_eq (by omega), readU16_eq (by omega)]
  rfl

theorem ofRaw_append {xs : List UInt8} (long : 4 ≤ xs.length) (ys : List UInt8) :
    ofRaw (xs ++ ys) = ofRaw xs := by
  rw [ofRaw, ofRaw, getU16_append_left (by omega), getU16_append_left (by omega)]

end UdpHeaderData

/-- `UdpHeaderMut`: header bytes with the data read from them, which every setter changes together.
-/
structure UdpHeader where
  raw : List UInt8
  data : UdpHeaderData
  deriving DecidableEq, Repr

namespace UdpHeader

/-- `swap_source_and_destination`: the ports change places, in the bytes and in the data. -/
def swapSourceAndDestination (h : UdpHeader) : Outcome UdpHeader := do
  let raw ← swapRanges h.raw 0 2
  return { raw, data := ⟨h.data.destinationPort, h.data.sourcePort⟩ }

/-- `set_payload_length`: the length field counts the header as well, and the sum is one of 16-bit
numbers. -/
def setPayloadLength (h : UdpHeader) (payloadLength : UInt16) : Outcome UdpHeader :=
  if 65536 ≤ udpHeaderLength.toNat + payloadLength.toNat then .error .overflow
  else do
    let raw ← writeU16 h.raw 4 (udpHeaderLength.toUInt16 + payloadLength)
    return { h with raw }

/-- `set_checksum`: the field is only in the bytes, since the relay never reads it. -/
def setChecksum (h : UdpHeader) (checksum : UInt16) : Outcome UdpHeader := do
  let raw ← writeU16 h.raw 6 checksum
  return { h with raw }

/-- Disable checksum validation. -/
def updateChecksum (h : UdpHeader) : Outcome UdpHeader := h.setChecksum 0

/-- The header is complete, and what was read from it is what it still says. -/
structure WellFormed (h : UdpHeader) : Prop where
  length_raw : h.raw.length = 8
  mirrors : h.data = .ofRaw h.raw

namespace WellFormed

variable {h : UdpHeader}

theorem splice {i : ℕ} {xs : List UInt8} (wf : h.WellFormed) (after : 4 ≤ i)
    (fits : i + xs.length ≤ h.raw.length) : WellFormed ⟨Library.splice h.raw i xs, h.data⟩ where
  length_raw := by rw [length_splice fits, wf.length_raw]
  mirrors := by
    rw [wf.mirrors, UdpHeaderData.ofRaw, UdpHeaderData.ofRaw,
      getU16_splice_of_disjoint fits (by omega), getU16_splice_of_disjoint fits (by omega)]

theorem swapSourceAndDestination (wf : h.WellFormed) :
    ∃ h', h.swapSourceAndDestination = .ok h' ∧ h'.WellFormed ∧
      h'.data = ⟨h.data.destinationPort, h.data.sourcePort⟩ := by
  have length := wf.length_raw
  obtain ⟨raw, eq, lengthRaw, -, low, high⟩ :=
    swapRanges_ok (show 0 + 2 * 2 ≤ h.raw.length by omega)
  refine ⟨⟨raw, ⟨h.data.destinationPort, h.data.sourcePort⟩⟩, ?_, ⟨lengthRaw.trans length, ?_⟩, rfl⟩
  · rw [UdpHeader.swapSourceAndDestination, eq]
    rfl
  · have source : getU16 raw 0 = getU16 h.raw 2 := by
      rw [getU16, getU16, low 0 (by omega), low 1 (by omega)]
    have destination : getU16 raw 2 = getU16 h.raw 0 := by
      rw [getU16, getU16, high 0 (by omega), high 1 (by omega)]
    rw [wf.mirrors, UdpHeaderData.ofRaw, UdpHeaderData.ofRaw, source, destination]

theorem setPayloadLength (wf : h.WellFormed) {payloadLength : UInt16}
    (small : 8 + payloadLength.toNat < 65536) :
    ∃ h', h.setPayloadLength payloadLength = .ok h' ∧ h'.WellFormed ∧ h'.data = h.data ∧
      getU16 h'.raw 4 = 8 + payloadLength := by
  have length := wf.length_raw
  have fits : 4 + (u16Bytes (8 + payloadLength)).length ≤ h.raw.length := by
    rw [length_u16Bytes]
    omega
  refine ⟨⟨putU16 h.raw 4 (8 + payloadLength), h.data⟩, ?_, wf.splice le_rfl fits, rfl,
    getU16_putU16 (by omega) _⟩
  have width : udpHeaderLength.toNat = 8 := rfl
  rw [UdpHeader.setPayloadLength, width, if_neg (by omega), writeU16_eq (by omega)]
  rfl

theorem updateChecksum (wf : h.WellFormed) :
    ∃ h', h.updateChecksum = .ok h' ∧ h'.WellFormed ∧ h'.data = h.data ∧
      getU16 h'.raw 6 = 0 ∧ getU16 h'.raw 4 = getU16 h.raw 4 := by
  have length := wf.length_raw
  have fits : 6 + (u16Bytes 0).length ≤ h.raw.length := by
    rw [length_u16Bytes]
    omega
  refine ⟨⟨putU16 h.raw 6 0, h.data⟩, ?_, wf.splice (by omega) fits, rfl,
    getU16_putU16 (by omega) _, getU16_splice_of_disjoint fits (by omega)⟩
  rw [UdpHeader.updateChecksum, UdpHeader.setChecksum, writeU16_eq (by omega)]
  rfl

end WellFormed

/-- The header a datagram begins with. -/
theorem wellFormed_take {body : List UInt8} (least : 8 ≤ body.length) :
    WellFormed ⟨body.take 8, .ofRaw body⟩ := by
  have length : (body.take 8).length = 8 := List.length_take_of_le least
  refine ⟨length, ?_⟩
  show UdpHeaderData.ofRaw body = .ofRaw (body.take 8)
  conv_lhs => rw [← List.take_append_drop 8 body]
  exact UdpHeaderData.ofRaw_append (by omega) _

end UdpHeader

/-- `TransportHeaderData`: the data of a TCP or of a UDP header. -/
inductive TransportHeaderData
  | tcp (data : TcpHeaderData)
  | udp (data : UdpHeaderData)
  deriving DecidableEq, Repr

namespace TransportHeaderData

/-- `TransportHeaderData::parse`: of another protocol nothing is read. -/
def parse (protocol : Protocol) (raw : List UInt8) : Outcome (Option TransportHeaderData) :=
  match protocol with
  | .udp => do return some (.udp (← UdpHeaderData.parse raw))
  | .tcp => do return some (.tcp (← TcpHeaderData.parse raw))
  | .other => .ok none

/-- `source_port`, which both kinds of header have. -/
def sourcePort : TransportHeaderData → UInt16
  | .tcp data => data.sourcePort
  | .udp data => data.sourcePort

/-- `destination_port`, which both kinds of header have. -/
def destinationPort : TransportHeaderData → UInt16
  | .tcp data => data.destinationPort
  | .udp data => data.destinationPort

/-- `header_length`: that of TCP was read from the header, that of UDP never varies. -/
def headerLength : TransportHeaderData → UInt8
  | .tcp data => data.headerLength
  | .udp _ => udpHeaderLength

end TransportHeaderData

/-- `TransportHeader`: a view of the bytes of a header, with the data that were read from them. -/
inductive TransportHeader
  | tcp (header : TcpHeader)
  | udp (header : UdpHeader)
  deriving DecidableEq, Repr

/-- `TransportHeaderData::bind`. -/
def TransportHeaderData.bind (raw : List UInt8) : TransportHeaderData → TransportHeader
  | .tcp data => .tcp ⟨raw, data⟩
  | .udp data => .udp ⟨raw, data⟩

namespace TransportHeader

/-- `raw`: the bytes of the header, options included. -/
def raw : TransportHeader → List UInt8
  | .tcp header => header.raw
  | .udp header => header.raw

/-- `header_length`, as the data of the header say it. -/
def headerLength : TransportHeader → UInt8
  | .tcp header => header.data.headerLength
  | .udp _ => udpHeaderLength

/-- `data_clone`. -/
def data : TransportHeader → TransportHeaderData
  | .tcp header => .tcp header.data
  | .udp header => .udp header.data

/-- `swap_source_and_destination`, for either kind of header. -/
def swapSourceAndDestination : TransportHeader → Outcome TransportHeader
  | .tcp header => do return .tcp (← header.swapSourceAndDestination)
  | .udp header => do return .udp (← header.swapSourceAndDestination)

/-- TCP does not store its payload length. -/
def setPayloadLength (payloadLength : UInt16) : TransportHeader → Outcome TransportHeader
  | .tcp header => .ok (.tcp header)
  | .udp header => do return .udp (← header.setPayloadLength payloadLength)

/-- `update_checksum`: TCP is summed over the pseudo-header and the payload, and UDP gets the zero
that means none. -/
def updateChecksum (ipv4 : Ipv4HeaderData) (payload : List UInt8) :
    TransportHeader → Outcome TransportHeader
  | .tcp header => do return .tcp (← header.updateChecksum ipv4 payload)
  | .udp header => do return .udp (← header.updateChecksum)

/-- The header is well-formed as one of its kind. -/
def WellFormed : TransportHeader → Prop
  | .tcp header => header.WellFormed
  | .udp header => header.WellFormed

theorem WellFormed.length_raw {h : TransportHeader} (wf : h.WellFormed) :
    h.raw.length = h.headerLength.toNat := by
  cases h with
  | tcp header => exact TcpHeader.WellFormed.length_raw wf
  | udp header => exact UdpHeader.WellFormed.length_raw wf

theorem WellFormed.length_bounds {h : TransportHeader} (wf : h.WellFormed) :
    8 ≤ h.raw.length ∧ h.raw.length ≤ 60 := by
  cases h with
  | tcp header =>
      have tcp : header.WellFormed := wf
      have length := tcp.length_raw
      have byte := (getByte header.raw 12).toNat_lt
      rw [tcp.mirrors, TcpHeaderData.toNat_headerLength] at length
      exact ⟨tcp.long.trans' (by omega), show header.raw.length ≤ 60 by omega⟩
  | udp header =>
      have length : header.raw.length = 8 := UdpHeader.WellFormed.length_raw wf
      exact ⟨length.ge, show header.raw.length ≤ 60 by omega⟩

/-- The header is complete for `payload`: its checksum is valid, or it is a UDP
header with the right length and no checksum. -/
def Completes (h : TransportHeader) (ipv4 : Ipv4HeaderData) (payload : List UInt8) : Prop :=
  match h with
  | .tcp header =>
      fold16 (TcpHeader.pseudoHeaderSum ipv4.source ipv4.destination
        (header.raw.length + payload.length) + wordSum (header.raw ++ payload)) = 65535
  | .udp header =>
      (getU16 header.raw 4).toNat = header.raw.length + payload.length ∧ getU16 header.raw 6 = 0

/-- What `Packetizer::build` does to the transport header. -/
theorem WellFormed.complete {h : TransportHeader} (wf : h.WellFormed) {ipv4 : Ipv4HeaderData}
    {payload : List UInt8}
    (lengths : ipv4.totalLength.toNat =
      ipv4.headerLength.toNat + h.raw.length + payload.length) :
    ∃ h₁ h', h.setPayloadLength (UInt16.ofNat payload.length) = .ok h₁ ∧
      h₁.updateChecksum ipv4 payload = .ok h' ∧ h'.WellFormed ∧ h'.raw.length = h.raw.length ∧
      h'.data = h.data ∧ h'.Completes ipv4 payload := by
  cases h with
  | tcp header =>
      obtain ⟨header', eq, wf', keeps, data, sum⟩ :=
        TcpHeader.WellFormed.updateChecksum (h := header) wf lengths
      refine ⟨.tcp header, .tcp header', rfl, ?_, wf', keeps.1, congrArg TransportHeaderData.tcp data, ?_⟩
      · rw [updateChecksum, eq]
        rfl
      · rw [Completes, keeps.1]
        exact sum
  | udp header =>
      have length : header.raw.length = 8 := UdpHeader.WellFormed.length_raw wf
      have total := ipv4.totalLength.toNat_lt
      change _ = _ + header.raw.length + _ at lengths
      have small : (UInt16.ofNat payload.length).toNat = payload.length := by
        rw [UInt16.toNat_ofNat', Nat.mod_eq_of_lt (by omega)]
      obtain ⟨h₁, eq₁, wf₁, data₁, field⟩ := UdpHeader.WellFormed.setPayloadLength (h := header) wf
        (show 8 + (UInt16.ofNat payload.length).toNat < 65536 by omega)
      obtain ⟨h', eq', wf', data', zero, same⟩ := wf₁.updateChecksum
      refine ⟨.udp h₁, .udp h', ?_, ?_, wf', ?_,
        congrArg TransportHeaderData.udp (data'.trans data₁), ?_, zero⟩
      · rw [setPayloadLength, eq₁]
        rfl
      · rw [updateChecksum, eq']
        rfl
      · exact wf'.length_raw.trans length.symm
      · rw [same, field, wf'.length_raw, UInt16.toNat_add, small]
        show (8 + payload.length) % 65536 = _
        omega

end TransportHeader

end ReverseTether
