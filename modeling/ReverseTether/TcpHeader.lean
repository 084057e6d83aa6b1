import ReverseTether.Ipv4Header

/-!
# The TCP header

Bytes with the data read from them, as for the IPv4 header.  The checksum is the
optimised one of the source: high and low bytes are added up separately, over
the header and then over the payload.  `updateChecksum` of a well-formed header
makes pseudo header, header and payload sum to `65535`.

The setters write the bytes and the data alike, except for the checksum, which is never read.
`WellFormed` says that the data are those of the bytes and that the header is as long as it
claims; each setter keeps it, and `Keeps` says of a setter that it changes its own field
alone.

`shrinkOptions` makes a header of 20 bytes of one with options, as the packetizer does with
the template of a connection.  The flags and the length of the header share a 16-bit field, so
each of the two setters has to keep the other half: `and_or_and` is the identity behind both.
-/

namespace ReverseTether

open Library

/-- `TcpHeaderData`: the fields of the TCP header that the relay uses, as they were read or last
written. -/
structure TcpHeaderData where
  sourcePort : UInt16
  destinationPort : UInt16
  sequenceNumber : UInt32
  acknowledgementNumber : UInt32
  /-- In bytes. -/
  headerLength : UInt8
  flags : UInt16
  window : UInt16
  deriving DecidableEq, Repr

/-- `FLAG_FIN`: the sender has no more data. -/
def flagFin : UInt16 := 1

/-- `FLAG_SYN`: the sequence number is the initial one. -/
def flagSyn : UInt16 := 2

/-- `FLAG_RST`: the connection is reset. -/
def flagRst : UInt16 := 4

/-- `FLAG_PSH`: the relay sets it on every segment with data. -/
def flagPsh : UInt16 := 8

/-- `FLAG_ACK`: the acknowledgement number counts. -/
def flagAck : UInt16 := 16

namespace TcpHeaderData

/-- The fields at their places in `raw`. -/
def ofRaw (raw : List UInt8) : TcpHeaderData where
  sourcePort := getU16 raw 0
  destinationPort := getU16 raw 2
  sequenceNumber := getU32 raw 4
  acknowledgementNumber := getU32 raw 8
  headerLength := ((getU16 raw 12 &&& 0xF000) >>> 10).toUInt8
  flags := getU16 raw 12 &&& 0x1FF
  window := getU16 raw 14

/-- `TcpHeaderData::parse`: the fields at their fixed places; the length of the header is given in
words of four bytes. -/
def parse (raw : List UInt8) : Outcome TcpHeaderData := do
  let dataOffsetAndFlags ← readU16 raw 12
  let sourcePort ← readU16 raw 0
  let destinationPort ← readU16 raw 2
  let sequenceNumber ← readU32 raw 4
  let acknowledgementNumber ← readU32 raw 8
  let window ← readU16 raw 14
  return {
    sourcePort
    destinationPort
    sequenceNumber
    acknowledgementNumber
    headerLength := ((dataOffsetAndFlags &&& 0xF000) >>> 10).toUInt8
    flags := dataOffsetAndFlags &&& 0x1FF
    window }

/-- `is_fin`: the FIN flag is set, whatever the others are. -/
def isFin (d : TcpHeaderData) : Bool := d.flags &&& flagFin ≠ 0

/-- `is_syn`: the SYN flag is set, whatever the others are. -/
def isSyn (d : TcpHeaderData) : Bool := d.flags &&& flagSyn ≠ 0

/-- `is_rst`: the RST flag is set, whatever the others are. -/
def isRst (d : TcpHeaderData) : Bool := d.flags &&& flagRst ≠ 0

/-- `is_ack`: the ACK flag is set, whatever the others are. -/
def isAck (d : TcpHeaderData) : Bool := d.flags &&& flagAck ≠ 0

theorem parse_eq {raw : List UInt8} (long : 16 ≤ raw.length) : parse raw = .ok (ofRaw raw) := by
  rw [parse, readU16_eq (by omega), readU16_eq (by omega), readU16_eq (by omega),
    readU32_eq (by omega), readU32_eq (by omega), readU16_eq (by omega)]
  rfl

/-- Only the first 16 bytes matter. -/
theorem ofRaw_append {xs : List UInt8} (long : 16 ≤ xs.length) (ys : List UInt8) :
    ofRaw (xs ++ ys) = ofRaw xs := by
  rw [ofRaw, ofRaw, getU16_append_left (by omega), getU16_append_left (by omega),
    getU32_append_left (by omega), getU32_append_left (by omega), getU16_append_left (by omega),
    getU16_append_left (by omega)]

theorem toNat_headerLength (raw : List UInt8) :
    (ofRaw raw).headerLength.toNat = (getByte raw 12).toNat / 16 * 4 := by
  have bytes := toNat_getU16 raw 12
  have high := (getByte raw 12).toNat_lt
  have low := (getByte raw (12 + 1)).toNat_lt
  have field : (ofRaw raw).headerLength.toNat = ((getU16 raw 12).toNat / 1024 &&& 60) % 256 := by
    show ((getU16 raw 12 &&& 0xF000) >>> 10).toUInt8.toNat = _
    rw [UInt16.toNat_toUInt8, UInt16.toNat_shiftRight, UInt16.toNat_and,
      Nat.shiftRight_and_distrib]
    simp only [UInt16.reduceToNat, Nat.reduceMod, Nat.shiftRight_eq_div_pow, Nat.reducePow,
      Nat.reduceDiv]
  have masked : ∀ y < 64, (y &&& 60) % 256 = y / 4 * 4 := by decide
  rw [field, masked _ (by omega)]
  omega

end TcpHeaderData

/-- `TcpHeaderMut`: header bytes with the data read from them, which every setter changes together.
-/
structure TcpHeader where
  raw : List UInt8
  data : TcpHeaderData
  deriving DecidableEq, Repr

namespace TcpHeader

/-- `swap_source_and_destination`: the ports change places, in the bytes and in the data. -/
def swapSourceAndDestination (h : TcpHeader) : Outcome TcpHeader := do
  let raw ← swapRanges h.raw 0 2
  return { raw, data := { h.data with
    sourcePort := h.data.destinationPort, destinationPort := h.data.sourcePort } }

/-- `set_sequence_number`, in the bytes and in the data. -/
def setSequenceNumber (h : TcpHeader) (sequenceNumber : UInt32) : Outcome TcpHeader := do
  let raw ← writeU32 h.raw 4 sequenceNumber
  return { raw, data := { h.data with sequenceNumber } }

/-- `set_acknowledgement_number`, in the bytes and in the data. -/
def setAcknowledgementNumber (h : TcpHeader) (acknowledgementNumber : UInt32) :
    Outcome TcpHeader := do
  let raw ← writeU32 h.raw 8 acknowledgementNumber
  return { raw, data := { h.data with acknowledgementNumber } }

/-- `set_flags`: the nine flags are replaced, and the length of the header next to them is kept. -/
def setFlags (h : TcpHeader) (flags : UInt16) : Outcome TcpHeader := do
  let dataOffsetAndFlags ← readU16 h.raw 12
  let raw ← writeU16 h.raw 12 (dataOffsetAndFlags &&& 0xFE00 ||| flags &&& 0x1FF)
  return { raw, data := { h.data with flags } }

/-- `set_data_offset`: the length of the header is replaced, and the flags next to it are kept. -/
def setDataOffset (h : TcpHeader) (dataOffset : UInt8) : Outcome TcpHeader := do
  let dataOffsetAndFlags ← readU16 h.raw 12
  let raw ← writeU16 h.raw 12
    (dataOffsetAndFlags &&& (0x0FFF : UInt16) ||| dataOffset.toUInt16 <<< (12 : UInt16))
  return { raw, data := { h.data with headerLength := dataOffset <<< 2 } }

/-- `shrink_options`: the header claims to be 20 bytes long, whatever options there were. -/
def shrinkOptions (h : TcpHeader) : Outcome TcpHeader := h.setDataOffset 5

/-- `set_checksum`: the field is only in the bytes, since the relay never reads it. -/
def setChecksum (h : TcpHeader) (checksum : UInt16) : Outcome TcpHeader := do
  let raw ← writeU16 h.raw 16 checksum
  return { h with raw }

/-- The sum of the pseudo header of a segment of `transportLength` bytes. -/
def pseudoHeaderSum (source destination : UInt32) (transportLength : ℕ) : ℕ :=
  6 + source.toNat / 65536 + source.toNat % 65536 + destination.toNat / 65536 +
    destination.toNat % 65536 + transportLength

/-- The sum the code takes over a header, whose length is even, and a payload:
the high-order and the low-order bytes are added up apart. -/
def segmentSum (source destination : UInt32) (header payload : List UInt8) : ℕ :=
  -- if payload length is odd, the last byte is considered high-order
  let last :=
    if payload.length % 2 ≠ 0 then (getByte payload (payload.length - 1)).toNat else 0
  let low := pseudoHeaderSum source destination (header.length + payload.length) +
    (pairSums header).2 + (pairSums payload).2
  -- add high-order bytes sum to the global sum
  low + ((pairSums header).1 + (pairSums payload).1 + last) * 256

/-- The lengths come from the headers; where they would lead the raw pointers of
the source out of the two slices, the model panics. -/
def updateChecksum (h : TcpHeader) (ipv4 : Ipv4HeaderData) (payload : List UInt8) :
    Outcome TcpHeader :=
  let headerLength := h.data.headerLength.toNat
  if ipv4.totalLength.toNat < ipv4.headerLength.toNat + headerLength then .error .overflow
  else do
    let payloadLength := ipv4.totalLength.toNat - ipv4.headerLength.toNat - headerLength
    -- reset checksum field, so that it can be added with other bytes
    let h₀ ← h.setChecksum 0
    if h₀.raw.length < headerLength ∨ payload.length < payloadLength then .error .outOfBounds
    else
      let sum := segmentSum ipv4.source ipv4.destination (h₀.raw.take headerLength)
        (payload.take payloadLength)
      h₀.setChecksum (UInt16.ofNat (65535 - fold16 sum))

/-- The data are those of the bytes, and the bytes are a whole header. -/
structure WellFormed (h : TcpHeader) : Prop where
  long : 20 ≤ h.raw.length
  length_raw : h.raw.length = h.data.headerLength.toNat
  mirrors : h.data = .ofRaw h.raw

/-- `h'` has the bytes of `h` outside the fields the relay rewrites in a
segment: numbers, flags and checksum. -/
def Keeps (h h' : TcpHeader) : Prop :=
  h'.raw.length = h.raw.length ∧
    ∀ k, k < 4 ∨ 14 ≤ k ∧ k < 16 ∨ 18 ≤ k → getByte h'.raw k = getByte h.raw k

theorem Keeps.trans {h₁ h₂ h₃ : TcpHeader} (first : h₁.Keeps h₂) (second : h₂.Keeps h₃) :
    h₁.Keeps h₃ :=
  ⟨second.1.trans first.1, fun k hk => (second.2 k hk).trans (first.2 k hk)⟩

theorem keeps_splice {h : TcpHeader} {i : ℕ} {xs : List UInt8} {data : TcpHeaderData}
    (fits : i + xs.length ≤ h.raw.length)
    (place : 4 ≤ i ∧ i + xs.length ≤ 14 ∨ 16 ≤ i ∧ i + xs.length ≤ 18) :
    h.Keeps ⟨splice h.raw i xs, data⟩ :=
  ⟨length_splice fits, fun _ _ => getByte_splice_of_disjoint fits (by omega)⟩

/-- High and low bytes apart make the same sum as whole words. -/
theorem segmentSum_eq (source destination : UInt32) {header : List UInt8}
    (even : header.length % 2 = 0) (payload : List UInt8) :
    segmentSum source destination header payload =
      pseudoHeaderSum source destination (header.length + payload.length) +
        wordSum (header ++ payload) := by
  rw [segmentSum, wordSum_append even, wordSum_eq_pairSums even]
  rcases Nat.mod_two_eq_zero_or_one payload.length with even' | odd
  · rw [if_neg (by omega), wordSum_eq_pairSums even']
    ring
  · have last : getByte payload (payload.length - 1) = payload.getD (payload.length - 1) 0 := rfl
    rw [if_pos (by omega), wordSum_eq_pairSums_of_odd odd, last]
    ring

/-- What a mask reads from a word put together from two masked words. -/
theorem and_or_and (x y keep write mask : UInt16) :
    (x &&& keep ||| y &&& write) &&& mask = x &&& (keep &&& mask) ||| y &&& (write &&& mask) := by
  apply UInt16.toBitVec_inj.mp
  simp only [UInt16.toBitVec_and, UInt16.toBitVec_or, BitVec.and_or_distrib_right,
    BitVec.and_assoc]

namespace WellFormed

variable {h : TcpHeader}

theorem splice {i : ℕ} {xs : List UInt8} {data : TcpHeaderData} (wf : h.WellFormed)
    (fits : i + xs.length ≤ h.raw.length) (mirrors : data = .ofRaw (splice h.raw i xs))
    (same : data.headerLength = h.data.headerLength) :
    WellFormed ⟨Library.splice h.raw i xs, data⟩ where
  long := (length_splice fits).symm ▸ wf.long
  length_raw := by rw [length_splice fits, wf.length_raw, same]
  mirrors := mirrors

theorem even (wf : h.WellFormed) : h.raw.length % 2 = 0 := by
  rw [wf.length_raw, wf.mirrors, TcpHeaderData.toNat_headerLength]
  omega

theorem setSequenceNumber (wf : h.WellFormed) (sequenceNumber : UInt32) :
    ∃ h', h.setSequenceNumber sequenceNumber = .ok h' ∧ h'.WellFormed ∧ h.Keeps h' ∧
      h'.data = { h.data with sequenceNumber } := by
  have long := wf.long
  have fits : 4 + (u32Bytes sequenceNumber).length ≤ h.raw.length := by
    rw [length_u32Bytes]
    omega
  refine ⟨⟨putU32 h.raw 4 sequenceNumber, { h.data with sequenceNumber }⟩, ?_,
    wf.splice fits ?_ rfl, keeps_splice fits (by simp), rfl⟩
  · rw [TcpHeader.setSequenceNumber, writeU32_eq (by omega)]
    rfl
  · have written : getU32 (Library.splice h.raw 4 (u32Bytes sequenceNumber)) 4 =
        sequenceNumber := getU32_putU32 (by omega) _
    rw [wf.mirrors, TcpHeaderData.ofRaw, TcpHeaderData.ofRaw, written,
      getU16_splice_of_disjoint fits (by omega), getU16_splice_of_disjoint fits (by omega),
      getU32_splice_of_disjoint fits (by simp), getU16_splice_of_disjoint fits (by simp),
      getU16_splice_of_disjoint fits (by simp)]

theorem setAcknowledgementNumber (wf : h.WellFormed) (acknowledgementNumber : UInt32) :
    ∃ h', h.setAcknowledgementNumber acknowledgementNumber = .ok h' ∧ h'.WellFormed ∧
      h.Keeps h' ∧ h'.data = { h.data with acknowledgementNumber } := by
  have long := wf.long
  have fits : 8 + (u32Bytes acknowledgementNumber).length ≤ h.raw.length := by
    rw [length_u32Bytes]
    omega
  refine ⟨⟨putU32 h.raw 8 acknowledgementNumber, { h.data with acknowledgementNumber }⟩, ?_,
    wf.splice fits ?_ rfl, keeps_splice fits (by simp), rfl⟩
  · rw [TcpHeader.setAcknowledgementNumber, writeU32_eq (by omega)]
    rfl
  · have written : getU32 (Library.splice h.raw 8 (u32Bytes acknowledgementNumber)) 8 =
        acknowledgementNumber := getU32_putU32 (by omega) _
    rw [wf.mirrors, TcpHeaderData.ofRaw, TcpHeaderData.ofRaw, written,
      getU16_splice_of_disjoint fits (by omega), getU16_splice_of_disjoint fits (by omega),
      getU32_splice_of_disjoint fits (by omega), getU16_splice_of_disjoint fits (by simp),
      getU16_splice_of_disjoint fits (by simp)]

/-- The flags of the relay fit in the nine bits of the field. -/
theorem setFlags (wf : h.WellFormed) {flags : UInt16} (nine : flags &&& 0x1FF = flags) :
    ∃ h', h.setFlags flags = .ok h' ∧ h'.WellFormed ∧ h.Keeps h' ∧
      h'.data = { h.data with flags } := by
  have long := wf.long
  set field := getU16 h.raw 12 &&& 0xFE00 ||| flags &&& 0x1FF with hfield
  have fits : 12 + (u16Bytes field).length ≤ h.raw.length := by
    rw [length_u16Bytes]
    omega
  refine ⟨⟨putU16 h.raw 12 field, { h.data with flags }⟩, ?_, wf.splice fits ?_ rfl,
    keeps_splice fits (by simp), rfl⟩
  · rw [TcpHeader.setFlags, readU16_eq (by omega)]
    show (writeU16 h.raw 12 field >>= fun raw => _) = _
    rw [writeU16_eq (by omega)]
    rfl
  · have written : getU16 (Library.splice h.raw 12 (u16Bytes field)) 12 = field :=
      getU16_putU16 (by omega) _
    have offset : field &&& 0xF000 = getU16 h.raw 12 &&& 0xF000 := by
      rw [hfield, and_or_and, show (0xFE00 : UInt16) &&& 0xF000 = 0xF000 by decide,
        show (0x1FF : UInt16) &&& 0xF000 = 0 by decide, UInt16.and_zero, UInt16.or_zero]
    have bits : field &&& 0x1FF = flags := by
      rw [hfield, and_or_and, show (0xFE00 : UInt16) &&& 0x1FF = 0 by decide,
        show (0x1FF : UInt16) &&& 0x1FF = 0x1FF by decide, UInt16.and_zero, UInt16.zero_or, nine]
    rw [wf.mirrors, TcpHeaderData.ofRaw, TcpHeaderData.ofRaw, written, offset, bits,
      getU16_splice_of_disjoint fits (by omega), getU16_splice_of_disjoint fits (by omega),
      getU32_splice_of_disjoint fits (by omega), getU32_splice_of_disjoint fits (by omega),
      getU16_splice_of_disjoint fits (by simp)]

theorem setChecksum (wf : h.WellFormed) (checksum : UInt16) :
    ∃ h', h.setChecksum checksum = .ok h' ∧ h'.WellFormed ∧ h.Keeps h' ∧ h'.data = h.data ∧
      h'.raw = putU16 h.raw 16 checksum := by
  have long := wf.long
  have fits : 16 + (u16Bytes checksum).length ≤ h.raw.length := by
    rw [length_u16Bytes]
    omega
  refine ⟨⟨putU16 h.raw 16 checksum, h.data⟩, ?_, wf.splice fits ?_ rfl,
    keeps_splice fits (by simp), rfl, rfl⟩
  · rw [TcpHeader.setChecksum, writeU16_eq (by omega)]
    rfl
  · rw [wf.mirrors, TcpHeaderData.ofRaw, TcpHeaderData.ofRaw,
      getU16_splice_of_disjoint fits (by omega), getU16_splice_of_disjoint fits (by omega),
      getU32_splice_of_disjoint fits (by omega), getU32_splice_of_disjoint fits (by omega),
      getU16_splice_of_disjoint fits (by omega), getU16_splice_of_disjoint fits (by omega)]

theorem swapSourceAndDestination (wf : h.WellFormed) :
    ∃ h', h.swapSourceAndDestination = .ok h' ∧ h'.WellFormed ∧
      h'.raw.length = h.raw.length ∧ (∀ k, 4 ≤ k → getByte h'.raw k = getByte h.raw k) ∧
      h'.data = { h.data with
        sourcePort := h.data.destinationPort, destinationPort := h.data.sourcePort } := by
  have long := wf.long
  obtain ⟨raw, eq, length, apart, low, high⟩ :=
    swapRanges_ok (show 0 + 2 * 2 ≤ h.raw.length by omega)
  refine ⟨⟨raw, { h.data with
      sourcePort := h.data.destinationPort, destinationPort := h.data.sourcePort }⟩,
    ?_, ⟨?_, ?_, ?_⟩, length, fun k hk => apart k (.inr hk), rfl⟩
  · rw [TcpHeader.swapSourceAndDestination, eq]
    rfl
  · exact length ▸ long
  · exact length.trans wf.length_raw
  · have source : getU16 raw 0 = getU16 h.raw 2 := by
      rw [getU16, getU16, low 0 (by omega), low 1 (by omega)]
    have destination : getU16 raw 2 = getU16 h.raw 0 := by
      rw [getU16, getU16, high 0 (by omega), high 1 (by omega)]
    have beyond16 (k : ℕ) (hk : 4 ≤ k) : getU16 raw k = getU16 h.raw k := by
      rw [getU16, getU16, apart k (by omega), apart (k + 1) (by omega)]
    have beyond32 (k : ℕ) (hk : 4 ≤ k) : getU32 raw k = getU32 h.raw k := by
      rw [getU32, getU32, beyond16 k hk, beyond16 (k + 2) (by omega)]
    rw [wf.mirrors, TcpHeaderData.ofRaw, TcpHeaderData.ofRaw, source, destination,
      beyond32 4 le_rfl, beyond32 8 (by omega), beyond16 12 (by omega), beyond16 14 (by omega)]

/-- **Pseudo header, header and payload sum to `65535` once the checksum is updated.**  It is what
the client computes over a segment that it gets, so a segment with this header is taken. -/
theorem updateChecksum (wf : h.WellFormed) {ipv4 : Ipv4HeaderData} {payload : List UInt8}
    (lengths : ipv4.totalLength.toNat =
      ipv4.headerLength.toNat + h.raw.length + payload.length) :
    ∃ h', h.updateChecksum ipv4 payload = .ok h' ∧ h'.WellFormed ∧ h.Keeps h' ∧
      h'.data = h.data ∧
      fold16 (pseudoHeaderSum ipv4.source ipv4.destination (h.raw.length + payload.length) +
        wordSum (h'.raw ++ payload)) = 65535 := by
  have long := wf.long
  have headerLength := wf.length_raw
  obtain ⟨h₀, eq₀, wf₀, keeps₀, data₀, raw₀⟩ := wf.setChecksum 0
  set sum := segmentSum ipv4.source ipv4.destination h₀.raw payload with hsum
  obtain ⟨h', eq', wf', keeps', data', raw'⟩ :=
    wf₀.setChecksum (UInt16.ofNat (65535 - fold16 sum))
  refine ⟨h', ?_, wf', keeps₀.trans keeps', data'.trans data₀, ?_⟩
  · have body : ipv4.totalLength.toNat - ipv4.headerLength.toNat - h.raw.length =
        payload.length := by omega
    rw [TcpHeader.updateChecksum, ← headerLength, if_neg (by omega), body, eq₀, ← keeps₀.1]
    show (if h₀.raw.length < h₀.raw.length ∨ payload.length < payload.length then _ else _) = _
    rw [if_neg (by omega), List.take_length, List.take_length]
    exact eq'
  · have inside : 16 + 2 ≤ h.raw.length := by omega
    have inside₀ : 16 + 2 ≤ h₀.raw.length := by rw [keeps₀.1]; omega
    -- the header sums to what it did with a zero checksum, and the checksum
    have header : wordSum h'.raw = wordSum h₀.raw + (65535 - fold16 sum) := by
      have small := fold16_lt sum
      have zero : getU16 h₀.raw 16 = 0 := by rw [raw₀, getU16_putU16 inside]
      have same : h₀.raw = putU16 h₀.raw 16 0 := by rw [← zero, putU16_getU16 inside₀]
      have before := congrArg wordSum same
      rw [wordSum_putU16 inside₀ rfl] at before
      rw [raw', wordSum_putU16 inside₀ rfl, before, UInt16.toNat_ofNat',
        Nat.mod_eq_of_lt (by omega)]
      simp only [UInt16.toNat_zero]
      omega
    have total : pseudoHeaderSum ipv4.source ipv4.destination (h.raw.length + payload.length) +
        wordSum (h'.raw ++ payload) = sum + (65535 - fold16 sum) := by
      rw [wordSum_append wf'.even, header, hsum, segmentSum_eq _ _ wf₀.even,
        wordSum_append wf₀.even, keeps₀.1]
      omega
    rw [total]
    exact fold16_add_complement sum

end WellFormed

/-- The header a segment begins with, when it fits. -/
theorem wellFormed_take {body : List UInt8}
    (least : 20 ≤ (TcpHeaderData.ofRaw body).headerLength.toNat)
    (fits : (TcpHeaderData.ofRaw body).headerLength.toNat ≤ body.length) :
    WellFormed ⟨body.take (TcpHeaderData.ofRaw body).headerLength.toNat, .ofRaw body⟩ := by
  set n := (TcpHeaderData.ofRaw body).headerLength.toNat
  have length : (body.take n).length = n := List.length_take_of_le fits
  refine ⟨length.symm ▸ least, length, ?_⟩
  show TcpHeaderData.ofRaw body = .ofRaw (body.take n)
  conv_lhs => rw [← List.take_append_drop n body]
  exact TcpHeaderData.ofRaw_append (by omega) _

/-- The header cut to its first 20 bytes, as `TcpConnection::create` does. -/
theorem shrinkOptions_ok {h : TcpHeader} (length : h.raw.length = 20)
    (mirrors : h.data = .ofRaw h.raw) :
    ∃ h', h.shrinkOptions = .ok h' ∧ h'.WellFormed ∧ h'.raw.length = 20 ∧
      h'.data = { h.data with headerLength := 20 } := by
  set field := getU16 h.raw 12 &&& (0x0FFF : UInt16) ||| (5 : UInt8).toUInt16 <<< (12 : UInt16)
    with hfield
  have fits : 12 + (u16Bytes field).length ≤ h.raw.length := by
    rw [length_u16Bytes]
    omega
  refine ⟨⟨putU16 h.raw 12 field, { h.data with headerLength := 20 }⟩, ?_, ⟨?_, ?_, ?_⟩, ?_, rfl⟩
  · rw [shrinkOptions, setDataOffset, readU16_eq (by omega)]
    show (writeU16 h.raw 12 field >>= fun raw => _) = _
    rw [writeU16_eq (by omega)]
    rfl
  · show 20 ≤ (putU16 h.raw 12 field).length
    rw [length_putU16 (by omega), length]
  · show (putU16 h.raw 12 field).length = 20
    rw [length_putU16 (by omega), length]
  · have written : getU16 (splice h.raw 12 (u16Bytes field)) 12 = field :=
      getU16_putU16 (by omega) _
    have mask : (5 : UInt8).toUInt16 <<< (12 : UInt16) = 0x5000 &&& 0xFFFF := by decide
    have offset : ((field &&& 0xF000) >>> 10).toUInt8 = 20 := by
      rw [hfield, mask, and_or_and, show (0x0FFF : UInt16) &&& 0xF000 = 0 by decide,
        UInt16.and_zero, UInt16.zero_or]
      decide
    have bits : field &&& 0x1FF = getU16 h.raw 12 &&& 0x1FF := by
      rw [hfield, mask, and_or_and, show (0x0FFF : UInt16) &&& 0x1FF = 0x1FF by decide,
        show (0x5000 : UInt16) &&& (0xFFFF &&& 0x1FF) = 0 by decide, UInt16.or_zero]
    show { h.data with headerLength := 20 } = TcpHeaderData.ofRaw (splice h.raw 12 (u16Bytes field))
    rw [mirrors, TcpHeaderData.ofRaw, TcpHeaderData.ofRaw, written, offset, bits,
      getU16_splice_of_disjoint fits (by omega), getU16_splice_of_disjoint fits (by omega),
      getU32_splice_of_disjoint fits (by omega), getU32_splice_of_disjoint fits (by omega),
      getU16_splice_of_disjoint fits (by simp)]
  · show (putU16 h.raw 12 field).length = 20
    rw [length_putU16 (by omega), length]

end TcpHeader

end ReverseTether
