import ReverseTether.Library.Rewriting
import ReverseTether.Ipv6Packetizer

/-!
# Headers that are completed again and again

A packetizer completes the headers in its buffer for every packet it builds: the
lengths and the checksums are written over those of the packet before.  Each
`rewritten` lists the bytes this concerns.  Headers that differ in these bytes
only become equal when they are completed for the same payload
(`complete_congr`), and completing a header changes nothing else
(`complete_sameBut`).  So a packet does not depend on the packets built before
it: `Packetizer.build_congr`, and `Ipv6Packetizer.build_congr` for IPv6.

The buffer of a packetizer is used for as long as its connection lives, and is never cleared.
A field that is written only for some packets, or only in part, would let an earlier packet
show through in a later one; that there is none is what the lists of rewritten bytes are
compared for, field by field.

The TCP header has fields of the control block in it as well, which are set before the header
is completed.  They are part of the input of a packet here, and what is said about them is
said by the connection.
-/

namespace ReverseTether

open Library

/-! ## Fields of buffers that differ in known places -/

section Fields

variable {places : List ℕ} {xs ys : List UInt8}

/-- A byte elsewhere is the same. -/
theorem getByte_sameBut (same : SameBut places xs ys) {k : ℕ} (apart : k ∉ places) :
    getByte xs k = getByte ys k := by
  simp only [getByte, List.getD_eq_getElem?_getD, same.2 k apart]

/-- Two bytes elsewhere are the same. -/
theorem getU16_sameBut (same : SameBut places xs ys) {k : ℕ} (apart : k ∉ places)
    (apart' : k + 1 ∉ places) : getU16 xs k = getU16 ys k := by
  rw [getU16, getU16, getByte_sameBut same apart, getByte_sameBut same apart']

/-- To read them gives the same, also where it fails: the lengths agree. -/
theorem readU16_sameBut (same : SameBut places xs ys) {k : ℕ} (apart : k ∉ places)
    (apart' : k + 1 ∉ places) : readU16 xs k = readU16 ys k := by
  rw [readU16, readU16, same.1, getU16_sameBut same apart apart']

/-- A field written with the same value no longer differs. -/
theorem putU16_sameBut (same : SameBut places xs ys) {i : ℕ} (fits : i + 2 ≤ xs.length)
    (v : UInt16) :
    SameBut (places.filter fun k => k < i ∨ i + 2 ≤ k) (putU16 xs i v) (putU16 ys i v) :=
  same.splice fits

/-- Writing a field changes no other byte. -/
theorem sameBut_putU16 {i : ℕ} (fits : i + 2 ≤ xs.length) (v : UInt16) :
    SameBut [i, i + 1] xs (putU16 xs i v) := by
  have changed : SameBut (List.range' i (u16Bytes v).length) xs (splice xs i (u16Bytes v)) :=
    SameBut.of_splice fits
  exact changed

/-- What is written lies inside, and the write changes nothing else. -/
theorem writeU16_eq_ok {raw raw' : List UInt8} {i : ℕ} {v : UInt16}
    (h : writeU16 raw i v = .ok raw') : i + 2 ≤ raw.length ∧ raw' = putU16 raw i v := by
  unfold writeU16 at h
  split at h
  · cases h
    exact ⟨‹_›, rfl⟩
  · cases h

/-- Writing over the only field that differs. -/
theorem writeU16_congr {i : ℕ} (same : SameBut [i, i + 1] xs ys) (v : UInt16) :
    writeU16 xs i v = writeU16 ys i v := by
  rw [writeU16, writeU16, ← same.1]
  split
  · have none : [i, i + 1].filter (fun k => k < i ∨ i + 2 ≤ k) = [] := by
      rw [List.filter_eq_nil_iff]
      simp
    have equal := putU16_sameBut same ‹_› v
    rw [none] at equal
    rw [equal.eq]
  · rfl

/-- What writing a field changes. -/
theorem writeU16_sameBut {raw raw' : List UInt8} {i : ℕ} {v : UInt16}
    (h : writeU16 raw i v = .ok raw') : SameBut [i, i + 1] raw raw' := by
  obtain ⟨fits, rfl⟩ := writeU16_eq_ok h
  exact sameBut_putU16 fits v

end Fields

/-- A loop over the same values. -/
theorem mapM_congr {α β : Type} {f g : α → Outcome β} {l : List α}
    (same : ∀ a ∈ l, f a = g a) : l.mapM f = l.mapM g := by
  induction l with
  | nil => rfl
  | cons a l ih =>
      rw [List.mapM_cons, List.mapM_cons, same a List.mem_cons_self,
        ih fun b member => same b (List.mem_cons_of_mem a member)]

/-! ## The IPv4 header -/

namespace Ipv4Header

/-- Total length and checksum. -/
def rewritten : List ℕ := [2, 3, 10, 11]

/-- Total length and checksum, as `Packetizer::build` writes them. -/
def complete (h : Ipv4Header) (totalLength : UInt16) : Outcome Ipv4Header :=
  h.setTotalLength totalLength >>= updateChecksum

variable {h k : Ipv4Header}

/-- **The checksum does not depend on the old checksum**, which is cleared before the sum.  So a
header that is rewritten for every packet comes out as if it were fresh. -/
theorem updateChecksum_congr (same : SameBut [10, 11] h.raw k.raw) (data : h.data = k.data) :
    h.updateChecksum = k.updateChecksum := by
  rw [updateChecksum, updateChecksum, data]
  simp only
  congr 1
  · apply mapM_congr
    intro i member
    rw [List.mem_append, List.mem_range, List.mem_range'_1] at member
    apply readU16_sameBut same
    · simp only [List.mem_cons, List.not_mem_nil, or_false]
      omega
    · simp only [List.mem_cons, List.not_mem_nil, or_false]
      omega
  · funext words
    rw [setChecksum, setChecksum, writeU16_congr same, data]

/-- The data of a header, up to its total length, are not rewritten. -/
theorem data_congr (wfH : h.WellFormed) (wfK : k.WellFormed)
    (same : SameBut rewritten h.raw k.raw) (totalLength : UInt16) :
    { h.data with totalLength } = { k.data with totalLength } := by
  have source : getU32 h.raw 12 = getU32 k.raw 12 := by
    rw [getU32, getU32, getU16_sameBut same (by decide) (by decide),
      getU16_sameBut same (by decide) (by decide)]
  have destination : getU32 h.raw 16 = getU32 k.raw 16 := by
    rw [getU32, getU32, getU16_sameBut same (by decide) (by decide),
      getU16_sameBut same (by decide) (by decide)]
  rw [wfH.mirrors, wfK.mirrors, Ipv4HeaderData.ofRaw, Ipv4HeaderData.ofRaw,
    getByte_sameBut same (k := 0) (by decide), getByte_sameBut same (k := 9) (by decide), source,
    destination]

/-- **Completing forgets** what the header was completed for before. -/
theorem complete_congr (wfH : h.WellFormed) (wfK : k.WellFormed)
    (same : SameBut rewritten h.raw k.raw) (totalLength : UInt16) :
    h.complete totalLength = k.complete totalLength := by
  have longH := wfH.long
  have longK := wfK.long
  rw [complete, complete, setTotalLength, setTotalLength, writeU16_eq (by omega),
    writeU16_eq (by omega)]
  show updateChecksum _ = updateChecksum _
  exact updateChecksum_congr (putU16_sameBut same (by omega) totalLength)
    (data_congr wfH wfK same totalLength)

/-- Completing the IPv4 header rewrites the length and the checksum, and nothing else. -/
theorem complete_sameBut {totalLength : UInt16} (completed : h.complete totalLength = .ok k) :
    SameBut rewritten h.raw k.raw := by
  obtain ⟨h₁, total, completed⟩ := bind_eq_ok.mp completed
  obtain ⟨raw, written, total⟩ := bind_eq_ok.mp total
  obtain ⟨words, -, completed⟩ := bind_eq_ok.mp completed
  obtain ⟨raw', written', completed⟩ := bind_eq_ok.mp completed
  cases total
  cases completed
  exact ((writeU16_sameBut written).mono (by decide)).trans
    ((writeU16_sameBut written').mono (by decide))

end Ipv4Header

/-! ## The transport header -/

namespace TcpHeader

variable {h k : TcpHeader}

/-- The checksum that is set hides the old one. -/
theorem setChecksum_congr (same : SameBut [16, 17] h.raw k.raw) (data : h.data = k.data)
    (checksum : UInt16) : h.setChecksum checksum = k.setChecksum checksum := by
  rw [setChecksum, setChecksum, writeU16_congr same, data]

/-- **The TCP checksum does not depend on the old checksum.**  What it was computed over before, in
an earlier packet, leaves no trace in it. -/
theorem updateChecksum_congr (same : SameBut [16, 17] h.raw k.raw) (data : h.data = k.data)
    (ipv4 : Ipv4HeaderData) (payload : List UInt8) :
    h.updateChecksum ipv4 payload = k.updateChecksum ipv4 payload := by
  rw [updateChecksum, updateChecksum, data, setChecksum_congr same data]

/-- Setting the checksum rewrites two bytes. -/
theorem setChecksum_sameBut {checksum : UInt16} (set : h.setChecksum checksum = .ok k) :
    SameBut [16, 17] h.raw k.raw := by
  obtain ⟨raw, written, set⟩ := bind_eq_ok.mp set
  cases set
  exact writeU16_sameBut written

/-- So does computing it. -/
theorem updateChecksum_sameBut {ipv4 : Ipv4HeaderData} {payload : List UInt8}
    (updated : h.updateChecksum ipv4 payload = .ok k) : SameBut [16, 17] h.raw k.raw := by
  unfold updateChecksum at updated
  simp only at updated
  split at updated
  · cases updated
  · obtain ⟨h₀, reset, updated⟩ := bind_eq_ok.mp updated
    split at updated
    · cases updated
    · exact (setChecksum_sameBut reset).trans (setChecksum_sameBut updated)

end TcpHeader

namespace UdpHeader

variable {h k : UdpHeader}

/-- Length and checksum, as `build` writes them. -/
def complete (h : UdpHeader) (payloadLength : UInt16) : Outcome UdpHeader :=
  h.setPayloadLength payloadLength >>= updateChecksum

/-- The length field of the UDP header is written where it belongs. -/
theorem setPayloadLength_eq_ok {payloadLength : UInt16}
    (set : h.setPayloadLength payloadLength = .ok k) :
    4 + 2 ≤ h.raw.length ∧ k.data = h.data ∧
      k.raw = putU16 h.raw 4 (udpHeaderLength.toUInt16 + payloadLength) := by
  unfold setPayloadLength at set
  split at set
  · cases set
  · obtain ⟨raw, written, set⟩ := bind_eq_ok.mp set
    cases set
    obtain ⟨fits, rfl⟩ := writeU16_eq_ok written
    exact ⟨fits, rfl, rfl⟩

/-- **A completed UDP header does not depend on the length and the checksum before it.** -/
theorem complete_congr (same : SameBut [4, 5, 6, 7] h.raw k.raw) (data : h.data = k.data)
    (payloadLength : UInt16) : h.complete payloadLength = k.complete payloadLength := by
  rw [complete, complete, setPayloadLength, setPayloadLength]
  split
  · rfl
  · rw [writeU16, writeU16, ← same.1]
    split
    · have left : SameBut [6, 7] (putU16 h.raw 4 (udpHeaderLength.toUInt16 + payloadLength))
          (putU16 k.raw 4 (udpHeaderLength.toUInt16 + payloadLength)) := putU16_sameBut same ‹_› _
      show setChecksum _ 0 = setChecksum _ 0
      rw [setChecksum, setChecksum, writeU16_congr left, data]
    · rfl

/-- Completing it rewrites these four bytes, and nothing else. -/
theorem complete_sameBut {payloadLength : UInt16} (completed : h.complete payloadLength = .ok k) :
    SameBut [4, 5, 6, 7] h.raw k.raw := by
  obtain ⟨h₁, set, completed⟩ := bind_eq_ok.mp completed
  obtain ⟨raw, written, completed⟩ := bind_eq_ok.mp completed
  cases completed
  obtain ⟨fits, -, raw₁⟩ := setPayloadLength_eq_ok set
  have first : SameBut [4, 5] h.raw h₁.raw := raw₁ ▸ sameBut_putU16 fits _
  exact (first.mono (by decide)).trans ((writeU16_sameBut written).mono (by decide))

end UdpHeader

namespace TransportHeader

/-- The checksum, and the length of a UDP header. -/
def rewritten : TransportHeader → List ℕ
  | .tcp _ => [16, 17]
  | .udp _ => [4, 5, 6, 7]

/-- Length and checksum, as `Packetizer::build` writes them. -/
def complete (h : TransportHeader) (ipv4 : Ipv4HeaderData) (payload : List UInt8)
    (payloadLength : UInt16) : Outcome TransportHeader :=
  h.setPayloadLength payloadLength >>= updateChecksum ipv4 payload

variable {h k : TransportHeader}

/-- **Completing forgets** what the header was completed for before. -/
theorem complete_congr (same : SameBut h.rewritten h.raw k.raw) (data : h.data = k.data)
    (ipv4 : Ipv4HeaderData) (payload : List UInt8) (payloadLength : UInt16) :
    h.complete ipv4 payload payloadLength = k.complete ipv4 payload payloadLength := by
  cases h with
  | tcp h =>
      cases k with
      | tcp k =>
          show (h.updateChecksum ipv4 payload >>= fun _ => _) = k.updateChecksum ipv4 payload >>= _
          rw [TcpHeader.updateChecksum_congr same (TransportHeaderData.tcp.inj data)]
      | udp k => cases data
  | udp h =>
      cases k with
      | tcp k => cases data
      | udp k =>
          have equal := UdpHeader.complete_congr same (TransportHeaderData.udp.inj data)
            payloadLength
          rw [UdpHeader.complete, UdpHeader.complete] at equal
          simp only [complete, setPayloadLength, updateChecksum, bind_assoc, pure_bind]
          rw [← bind_assoc, ← bind_assoc, equal]

/-- The same for a transport header of either kind. -/
theorem complete_sameBut {ipv4 : Ipv4HeaderData} {payload : List UInt8} {payloadLength : UInt16}
    (completed : h.complete ipv4 payload payloadLength = .ok k) :
    SameBut h.rewritten h.raw k.raw := by
  obtain ⟨h₁, set, completed⟩ := bind_eq_ok.mp completed
  cases h with
  | tcp h =>
      cases set
      obtain ⟨k', updated, completed⟩ := bind_eq_ok.mp completed
      cases completed
      exact TcpHeader.updateChecksum_sameBut updated
  | udp h =>
      obtain ⟨h₁', set', set⟩ := bind_eq_ok.mp set
      cases set
      obtain ⟨k', updated, completed⟩ := bind_eq_ok.mp completed
      cases completed
      exact UdpHeader.complete_sameBut (bind_eq_ok.mpr ⟨h₁', set', updated⟩)

/-- Only bytes that are rewritten differ, so the kind is the same. -/
theorem rewritten_congr (data : h.data = k.data) : h.rewritten = k.rewritten := by
  cases h with
  | tcp h =>
      cases k with
      | tcp k => rfl
      | udp k => cases data
  | udp h =>
      cases k with
      | tcp k => cases data
      | udp k => rfl

end TransportHeader

/-! ## The packetizers -/

/-- Packetizers of one flow, whatever they have built so far: they differ in what building
rewrites, and so build the same from the same payload. -/
structure Packetizer.Alike (p q : Packetizer) : Prop where
  ipv4 : SameBut Ipv4Header.rewritten p.ipv4Header.raw q.ipv4Header.raw
  transport : SameBut p.transportHeader.rewritten p.transportHeader.raw q.transportHeader.raw
  data : p.transportHeader.data = q.transportHeader.data

namespace Packetizer

variable {p q p' q' : Packetizer} {packet packet' : Ipv4Packet} {n : UInt16}

theorem Alike.refl (p : Packetizer) : p.Alike p := ⟨.refl _ _, .refl _ _, rfl⟩

theorem Alike.symm (alike : p.Alike q) : q.Alike p where
  ipv4 := alike.ipv4.symm
  transport := TransportHeader.rewritten_congr alike.data ▸ alike.transport.symm
  data := alike.data.symm

theorem Alike.trans {r : Packetizer} (first : p.Alike q) (second : q.Alike r) : p.Alike r where
  ipv4 := first.ipv4.trans second.ipv4
  transport := first.transport.trans
    (TransportHeader.rewritten_congr first.data ▸ second.transport)
  data := first.data.trans second.data

/-- Receiving a payload leaves the headers alone. -/
theorem Alike.receive (alike : p.Alike q) (data : List UInt8) :
    (p.receive data).Alike (q.receive data) := ⟨alike.ipv4, alike.transport, alike.data⟩

/-- What `build` does, header by header. -/
theorem build_eq_ok (built : p.build n = .ok (packet, p')) :
    p.payloadIndex + n.toNat < 65536 ∧
      p.ipv4Header.complete (UInt16.ofNat p.payloadIndex + n) = .ok p'.ipv4Header ∧
      p.transportHeader.complete p'.ipv4Header.data (slice p.payload 0 n.toNat) n =
        .ok p'.transportHeader ∧
      p'.payload = p.payload ∧ packet = p'.inflate (UInt16.ofNat p.payloadIndex + n) := by
  unfold build at built
  split at built
  · cases built
  · rename_i fits
    obtain ⟨h₁, total, built⟩ := bind_eq_ok.mp built
    obtain ⟨t₁, length, built⟩ := bind_eq_ok.mp built
    obtain ⟨h₂, checksum, built⟩ := bind_eq_ok.mp built
    obtain ⟨payload, cut, built⟩ := bind_eq_ok.mp built
    obtain ⟨t₂, checksum', built⟩ := bind_eq_ok.mp built
    cases built
    obtain ⟨-, -, rfl⟩ := readSlice_eq_ok cut
    exact ⟨Nat.lt_of_not_le fits, bind_eq_ok.mpr ⟨h₁, total, checksum⟩,
      bind_eq_ok.mpr ⟨t₁, length, checksum'⟩, rfl, rfl⟩

/-- Building changes what the next packet rewrites, and no more. -/
theorem build_alike (built : p.build n = .ok (packet, p'))
    (data : p'.transportHeader.data = p.transportHeader.data) : p.Alike p' := by
  obtain ⟨-, ipv4, transport, -, -⟩ := build_eq_ok built
  exact ⟨Ipv4Header.complete_sameBut ipv4, TransportHeader.complete_sameBut transport, data.symm⟩

/-- The bytes of the packet that is built. -/
theorem build_raw (built : p.build n = .ok (packet, p')) :
    packet.raw =
      p'.ipv4Header.raw ++ p'.transportHeader.raw ++ slice p.payload 0 n.toNat := by
  obtain ⟨fits, ipv4, transport, payload, rfl⟩ := build_eq_ok built
  have index : p'.payloadIndex = p.payloadIndex := by
    rw [payloadIndex, payloadIndex, transportIndex, transportIndex,
      (Ipv4Header.complete_sameBut ipv4).1, (TransportHeader.complete_sameBut transport).1]
  have total : (UInt16.ofNat p.payloadIndex + n).toNat = p'.payloadIndex + n.toNat := by
    rw [UInt16.toNat_add, UInt16.toNat_ofNat', index]
    omega
  show p'.buffer.take _ = _
  rw [total, take_buffer, payload, slice_zero]

/-- **A packet does not depend on the packets built before it.** -/
theorem build_congr (wfP : p.WellFormed) (wfQ : q.WellFormed) (alike : p.Alike q)
    (payload : slice p.payload 0 n.toNat = slice q.payload 0 n.toNat)
    (builtP : p.build n = .ok (packet, p')) (builtQ : q.build n = .ok (packet', q')) :
    packet = packet' := by
  have rawP := build_raw builtP
  have rawQ := build_raw builtQ
  obtain ⟨-, ipv4P, transportP, -, rfl⟩ := build_eq_ok builtP
  obtain ⟨-, ipv4Q, transportQ, -, rfl⟩ := build_eq_ok builtQ
  have index : p.payloadIndex = q.payloadIndex := by
    rw [payloadIndex, payloadIndex, transportIndex, transportIndex, alike.ipv4.1,
      alike.transport.1]
  rw [Ipv4Header.complete_congr wfP.ipv4 wfQ.ipv4 alike.ipv4, index, ipv4Q] at ipv4P
  have ipv4 : q'.ipv4Header = p'.ipv4Header := Except.ok.inj ipv4P
  rw [TransportHeader.complete_congr alike.transport alike.data, payload, ← ipv4,
    transportQ] at transportP
  have transport : q'.transportHeader = p'.transportHeader := Except.ok.inj transportP
  rw [payload, ← ipv4, ← transport, ← rawQ] at rawP
  simp only [inflate] at rawP ⊢
  rw [rawP, ipv4, transport]

end Packetizer

/-- Packetizers of one flow, whatever they have built so far: they differ in what building
rewrites, and so build the same from the same payload. -/
structure Ipv6Packetizer.Alike (p q : Ipv6Packetizer) : Prop where
  ipv6 : SameBut [4, 5] p.ipv6Header q.ipv6Header
  transport : SameBut p.transportHeader.rewritten p.transportHeader.raw q.transportHeader.raw
  data : p.transportHeader.data = q.transportHeader.data
  ipv6HeaderData : p.ipv6HeaderData = q.ipv6HeaderData
  protocol : p.protocol = q.protocol

namespace Ipv6Packetizer

variable {p q p' q' : Ipv6Packetizer} {packet packet' : Ipv6Packet} {n : UInt16}

theorem Alike.refl (p : Ipv6Packetizer) : p.Alike p := ⟨.refl _ _, .refl _ _, rfl, rfl, rfl⟩

theorem Alike.symm (alike : p.Alike q) : q.Alike p where
  ipv6 := alike.ipv6.symm
  transport := TransportHeader.rewritten_congr alike.data ▸ alike.transport.symm
  data := alike.data.symm
  ipv6HeaderData := alike.ipv6HeaderData.symm
  protocol := alike.protocol.symm

theorem Alike.trans {r : Ipv6Packetizer} (first : p.Alike q) (second : q.Alike r) :
    p.Alike r where
  ipv6 := first.ipv6.trans second.ipv6
  transport := first.transport.trans
    (TransportHeader.rewritten_congr first.data ▸ second.transport)
  data := first.data.trans second.data
  ipv6HeaderData := first.ipv6HeaderData.trans second.ipv6HeaderData
  protocol := first.protocol.trans second.protocol

/-- Receiving a payload leaves the headers alone. -/
theorem Alike.receive (alike : p.Alike q) (data : List UInt8) :
    (p.receive data).Alike (q.receive data) :=
  ⟨alike.ipv6, alike.transport, alike.data, alike.ipv6HeaderData, alike.protocol⟩

/-- What `build` does, step by step. -/
theorem build_eq_ok (built : p.build n = .ok (packet, p')) :
    ∃ t zeroed covered,
      let length := UInt16.ofNat (p.payloadIndex - ipv6HeaderLength) + n
      let sum := { p with ipv6Header := p'.ipv6Header }.pseudoHeaderSum length.toNat +
        wordSum covered
      p.payloadIndex - ipv6HeaderLength + n.toNat < 65536 ∧
      writeU16 p.ipv6Header 4 length = .ok p'.ipv6Header ∧
      p.transportHeader.setPayloadLength n = .ok t ∧
      writeU16 t.raw p.checksumOffset 0 = .ok zeroed ∧
      readSlice (zeroed ++ p.payload) 0 length.toNat = .ok covered ∧
      writeU16 zeroed p.checksumOffset (p.checksumOf sum) = .ok p'.transportHeader.raw ∧
      p' = { p with
        ipv6Header := p'.ipv6Header
        transportHeader := t.data.bind p'.transportHeader.raw } ∧
      Ipv6Packet.parse (p'.buffer.take (ipv6HeaderLength + length.toNat)) = .ok (.ok packet) := by
  unfold build at built
  split at built
  · cases built
  · rename_i fits
    obtain ⟨ipv6Header, header, built⟩ := bind_eq_ok.mp built
    obtain ⟨t, set, built⟩ := bind_eq_ok.mp built
    obtain ⟨q, sealed, built⟩ := bind_eq_ok.mp built
    obtain ⟨bytes, cut, built⟩ := bind_eq_ok.mp built
    obtain ⟨parsed, eq, built⟩ := bind_eq_ok.mp built
    obtain ⟨z, reset, sealed⟩ := bind_eq_ok.mp sealed
    obtain ⟨zeroed, zero, same⟩ := bind_eq_ok.mp reset
    cases same
    obtain ⟨covered, cover, sealed⟩ := bind_eq_ok.mp sealed
    obtain ⟨raw, written, same⟩ := bind_eq_ok.mp sealed
    cases same
    cases parsed with
    | error err => cases built
    | ok parsed =>
        cases built
        obtain ⟨-, -, rfl⟩ := readSlice_eq_ok cut
        rw [Nat.add_sub_cancel_left] at cover written
        simp only [withTransport, TransportHeader.raw_bind, TransportHeader.data_bind] at *
        exact ⟨t, zeroed, covered, Nat.lt_of_not_le fits, header, set, zero, cover, written, rfl, eq⟩

/-- The checksum is among the rewritten bytes. -/
theorem offset_rewritten (wf : p.WellFormed) :
    [p.checksumOffset, p.checksumOffset + 1] ⊆ p.transportHeader.rewritten := by
  have kind := wf.kind
  cases is : p.transportHeader with
  | tcp _ =>
      rw [is] at kind
      rw [checksumOffset, kind.2, TransportHeader.rewritten]
      decide
  | udp _ =>
      rw [is] at kind
      rw [checksumOffset, kind.2, TransportHeader.rewritten]
      decide

/-- `set_payload_length` rewrites the length of a UDP header. -/
theorem setPayloadLength_sameBut {t : TransportHeader}
    (set : p.transportHeader.setPayloadLength n = .ok t) :
    t.data = p.transportHeader.data ∧
      SameBut p.transportHeader.rewritten p.transportHeader.raw t.raw := by
  cases is : p.transportHeader with
  | tcp header =>
      rw [is] at set
      cases set
      exact ⟨rfl, .refl _ _⟩
  | udp header =>
      rw [is] at set
      obtain ⟨header', length, same⟩ := bind_eq_ok.mp set
      cases same
      obtain ⟨fits, data, raw⟩ := UdpHeader.setPayloadLength_eq_ok length
      refine ⟨congrArg TransportHeaderData.udp data, ?_⟩
      have changed : SameBut [4, 5] header.raw header'.raw :=
        raw ▸ sameBut_putU16 fits _
      rw [TransportHeader.rewritten]
      exact changed.mono (by decide)

/-- Once the length is written, only the checksum still differs. -/
theorem setPayloadLength_congr (wf : p.WellFormed) (alike : p.Alike q) {t u : TransportHeader}
    (setP : p.transportHeader.setPayloadLength n = .ok t)
    (setQ : q.transportHeader.setPayloadLength n = .ok u) :
    SameBut [p.checksumOffset, p.checksumOffset + 1] t.raw u.raw := by
  have kind := wf.kind
  have same := alike.transport
  have data := alike.data
  cases isP : p.transportHeader with
  | tcp header =>
      rw [isP] at setP kind same data
      rw [checksumOffset, kind.2]
      cases isQ : q.transportHeader with
      | tcp header' =>
          rw [isQ] at setQ same
          cases setP
          cases setQ
          exact same
      | udp header' =>
          rw [isQ] at data
          cases data
  | udp header =>
      rw [isP] at setP kind same data
      rw [checksumOffset, kind.2]
      cases isQ : q.transportHeader with
      | tcp header' =>
          rw [isQ] at data
          cases data
      | udp header' =>
          rw [isQ] at setQ same
          obtain ⟨t', lengthP, eq⟩ := bind_eq_ok.mp setP
          cases eq
          obtain ⟨u', lengthQ, eq⟩ := bind_eq_ok.mp setQ
          cases eq
          obtain ⟨fits, -, rawP⟩ := UdpHeader.setPayloadLength_eq_ok lengthP
          obtain ⟨-, -, rawQ⟩ := UdpHeader.setPayloadLength_eq_ok lengthQ
          show SameBut [6, 7] t'.raw u'.raw
          rw [rawP, rawQ]
          exact @putU16_sameBut [4, 5, 6, 7] _ _ same _ fits _

/-- Building changes what the next packet rewrites, and no more. -/
theorem build_alike (wf : p.WellFormed) (built : p.build n = .ok (packet, p')) : p.Alike p' := by
  obtain ⟨t, zeroed, covered, -, header, set, reset, -, written, whole, -⟩ := build_eq_ok built
  obtain ⟨data, transport⟩ := setPayloadLength_sameBut set
  have data' : p'.transportHeader.data = t.data := by
    rw [whole]
    exact TransportHeader.data_bind _ _
  refine ⟨writeU16_sameBut header, ?_, data.symm.trans data'.symm, ?_, ?_⟩
  · have first := transport.trans ((writeU16_sameBut reset).mono (offset_rewritten wf))
    exact first.trans ((writeU16_sameBut written).mono (offset_rewritten wf))
  · rw [whole]
  · rw [whole]

/-- The packet that is built is parsed from the headers and the payload. -/
theorem build_parses (wf : p.WellFormed) (built : p.build n = .ok (packet, p')) :
    Ipv6Packet.parse (p'.ipv6Header ++ (p'.transportHeader.raw ++ slice p.payload 0 n.toNat)) =
      .ok (.ok packet) := by
  have alike := build_alike wf built
  obtain ⟨t, zeroed, covered, fits, -, -, -, -, -, whole, parsed⟩ := build_eq_ok built
  have payload : p'.payload = p.payload := by rw [whole]
  have index : p'.payloadIndex = p.payloadIndex := by
    rw [payloadIndex, payloadIndex, alike.transport.1]
  have header : p'.ipv6Header.length = 40 := alike.ipv6.1.symm.trans wf.length_header
  have total : ipv6HeaderLength +
      (UInt16.ofNat (p.payloadIndex - ipv6HeaderLength) + n).toNat = p'.payloadIndex + n.toNat := by
    have small := UInt16.toNat_ofNat' (n := p.payloadIndex - ipv6HeaderLength)
    have least : ipv6HeaderLength ≤ p.payloadIndex := Nat.le_add_right _ _
    rw [UInt16.toNat_add, small, index]
    omega
  rwa [total, take_buffer header, payload, ← slice_zero] at parsed

/-- **A packet does not depend on the packets built before it.** -/
theorem build_congr (wfP : p.WellFormed) (wfQ : q.WellFormed) (alike : p.Alike q)
    (payload : slice p.payload 0 n.toNat = slice q.payload 0 n.toNat)
    (builtP : p.build n = .ok (packet, p')) (builtQ : q.build n = .ok (packet', q')) :
    packet = packet' := by
  have parsedP := build_parses wfP builtP
  have parsedQ := build_parses wfQ builtQ
  obtain ⟨t, zeroed, covered, fits, headerP, setP, resetP, coverP, writtenP, -, -⟩ :=
    build_eq_ok builtP
  obtain ⟨u, zeroed', covered', -, headerQ, setQ, resetQ, coverQ, writtenQ, -, -⟩ :=
    build_eq_ok builtQ
  have index : p.payloadIndex = q.payloadIndex := by
    rw [payloadIndex, payloadIndex, alike.transport.1]
  have offset : p.checksumOffset = q.checksumOffset := by
    rw [checksumOffset, checksumOffset, alike.protocol]
  rw [writeU16_congr alike.ipv6, index, headerQ] at headerP
  have header : q'.ipv6Header = p'.ipv6Header := Except.ok.inj headerP
  have resetP' := resetP
  rw [writeU16_congr (setPayloadLength_congr wfP alike setP setQ), offset, resetQ] at resetP
  have zero : zeroed' = zeroed := Except.ok.inj resetP
  have cover : covered = covered' := by
    have length : (UInt16.ofNat (q.payloadIndex - ipv6HeaderLength) + n).toNat =
        zeroed.length + n.toNat := by
      have small := UInt16.toNat_ofNat' (n := q.payloadIndex - ipv6HeaderLength)
      have body : zeroed.length = p.transportHeader.raw.length :=
        (writeU16_sameBut resetP').1.symm.trans (setPayloadLength_sameBut setP).2.1.symm
      rw [payloadIndex] at index fits
      rw [UInt16.toNat_add, small, ← index, body]
      omega
    obtain ⟨-, -, rfl⟩ := readSlice_eq_ok coverP
    obtain ⟨-, -, rfl⟩ := readSlice_eq_ok coverQ
    rw [index, length, zero, slice_zero, slice_zero, List.take_length_add_append,
      List.take_length_add_append, ← slice_zero, ← slice_zero, payload]
  have sum : { p with ipv6Header := p'.ipv6Header }.pseudoHeaderSum =
      { q with ipv6Header := q'.ipv6Header }.pseudoHeaderSum := by
    funext length
    rw [pseudoHeaderSum, pseudoHeaderSum, header, alike.ipv6HeaderData]
  have checksum : p.checksumOf = q.checksumOf := by
    funext length
    rw [checksumOf, checksumOf, alike.protocol]
  rw [sum, checksum, index, offset, cover, ← zero, writtenQ] at writtenP
  have transport : q'.transportHeader.raw = p'.transportHeader.raw := Except.ok.inj writtenP
  rw [payload, ← header, ← transport, parsedQ] at parsedP
  exact (Except.ok.inj (Except.ok.inj parsedP)).symm

end Ipv6Packetizer

end ReverseTether
