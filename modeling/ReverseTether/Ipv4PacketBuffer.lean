import ReverseTether.ClientInput

/-!
# The buffer of the IPv4-only relay

`Ipv4PacketBuffer` is what the client read its packets from before the relay took IPv6, and its
tests still do.  It validates the packet at the front of the buffer in one move, asks separately
whether that packet is a fragment, and parses from the whole of the buffer;
`IpPacketBuffer` cuts the packet out first and validates it then.

For IPv4 the two agree on every front (`packet_agrees`).  Three things were moved, and each has
its lemma: the one mask of the fragment bits was split in two (`isFragment_iff`), the transport
part is validated in a slice of its own (`validateTransport_eq`), and the parser sees no byte
behind the packet (`parse_ipv4_take`).

The panics are part of the comparison.  The old buffer asserts that the version is 4 and that
there is a packet to remove, so its methods may fail where the new one reports an error; on
the fronts that the theorem is about neither happens.
-/

namespace ReverseTether

open Library

/-- The panics of `Ipv4PacketBuffer`: those of the code it calls, and its own two assertions. -/
inductive FramePanic
  | code (panic : Panic)
  /-- "Not an Ipv4 packet, version={}". -/
  | notIpv4 (version : UInt8)
  /-- "next() called while there was no packet". -/
  | noPacket
  deriving DecidableEq, Repr

/-- What a method of the buffer comes to, when it may panic on what is in the buffer. -/
abbrev FrameOutcome (α : Type) := Except FramePanic α

/-- What the buffer shares with the rest of the relay. -/
def FrameOutcome.call {α : Type} (m : Outcome α) : FrameOutcome α := m.mapError .code

/-- `io::ErrorKind::InvalidData` with its message, the one error of the buffer. -/
structure InvalidData where
  message : String
  deriving DecidableEq, Repr

/-- The error of a front packet that its checks reject, which closes the client. -/
def badFrame : InvalidData := ⟨"Malformed IP/transport frame"⟩

/-- `peek_version_length`: the version and the total length, when the first four bytes are there.
-/
def peekVersionLength (raw : List UInt8) : Option (UInt8 × UInt16) :=
  if 4 ≤ raw.length then some (getByte raw 0 >>> 4, getU16 raw 2) else none

/-- `Ipv4PacketBuffer`: the buffer of the relay before it knew IPv6, over the same `ByteBuffer`. -/
structure Ipv4PacketBuffer where
  buf : ByteBuffer maxPacketLength

namespace Ipv4PacketBuffer

/-- `Ipv4PacketBuffer::new`: an empty buffer, long enough for every total length that a header can
state. -/
def new : Ipv4PacketBuffer := ⟨.new maxPacketLength⟩

/-- The bytes that wait for the rest of their packet. -/
def peek (b : Ipv4PacketBuffer) : List UInt8 := b.buf.peek

/-- `read_from`: one read of the socket into the free space; `false` is the end of the stream. -/
def readFrom (b : Ipv4PacketBuffer) (r : IoResult (List UInt8)) :
    IoResult Bool × Ipv4PacketBuffer :=
  ((b.buf.readFrom r).1, ⟨(b.buf.readFrom r).2⟩)

/-- `available_packet_length`: the length of the packet at the front once all of it is there;
another version than 4 is an assertion failure. -/
def availablePacketLength (b : Ipv4PacketBuffer) : FrameOutcome (Option UInt16) :=
  match peekVersionLength b.peek with
  | none => .ok none
  | some (version, length) =>
      if version ≠ 4 then .error (.notIpv4 version)
      else if length.toNat ≤ b.peek.length then .ok (some length)
      else .ok none

/-- `is_fragmented`: a whole packet is at the front, and its header says that it is a fragment, or
that more fragments follow. -/
def isFragmented (b : Ipv4PacketBuffer) : FrameOutcome Bool :=
  if b.peek.length < 20 then .ok false
  else do
    let available ← b.availablePacketLength
    return available.isSome && decide (getByte b.peek 6 &&& 0x3f ≠ 0 ∨ getByte b.peek 7 ≠ 0)

/-- The transport part of the frame, by its protocol. -/
def validateTransport (raw : List UInt8) (header payload : ℕ) :
    Outcome (Except InvalidData Unit) := do
  let protocol ← readByte raw 9
  if protocol = 6 then
    if payload < 20 then return .error badFrame
    else
      let tcpHeader := ((← readByte raw (header + 12)) >>> 4).toNat * 4
      if tcpHeader < 20 ∨ payload < tcpHeader then return .error badFrame
      else return .ok ()
  else if protocol = 17 then
    if payload < 8 then return .error badFrame
    else
      let udpLength := (← readU16 raw (header + 4)).toNat
      if udpLength ≠ payload then return .error badFrame
      else return .ok ()
  else return .ok ()

/-- Every frame is validated before the parsers index it. -/
def validateFront (b : Ipv4PacketBuffer) : FrameOutcome (Except InvalidData Unit) :=
  let raw := b.peek
  if raw.length < 4 then .ok (.ok ())
  else
    let header := (getByte raw 0 &&& 15).toNat * 4
    let length := (getU16 raw 2).toNat
    if getByte raw 0 >>> 4 ≠ 4 ∨ header < 20 ∨ length < header then .ok (.error badFrame)
    else if raw.length < length then .ok (.ok ())
    else do
      -- fragments are well-formed but not supported; the caller drops them
      if ← b.isFragmented then return .ok ()
      else FrameOutcome.call (validateTransport raw header (length - header))

/-- `as_ipv4_packet`: the packet at the front, which the inherited parser takes from the whole
buffer. -/
def asIpv4Packet (b : Ipv4PacketBuffer) : FrameOutcome (Option Ipv4Packet) := do
  match ← b.availablePacketLength with
  | some _ => return some (← FrameOutcome.call (Ipv4Packet.parse b.peek))
  | none => return none

/-- `next`: the packet at the front is consumed, and it is a panic to call it while there is none.
-/
def next (b : Ipv4PacketBuffer) : FrameOutcome Ipv4PacketBuffer := do
  match ← b.availablePacketLength with
  | some length => return ⟨← FrameOutcome.call (b.buf.consume length.toNat)⟩
  | none => .error .noPacket

end Ipv4PacketBuffer

/-! ## The three things that were moved -/

/-- The bits of `0x3f` are those of `0x20` and those of `0x1f`. -/
theorem and_fragmentBits (b : UInt8) : b &&& 0x3f = 0 ↔ b &&& 0x20 = 0 ∧ b &&& 0x1f = 0 := by
  have split : b &&& 0x3f = b &&& 0x20 ||| b &&& 0x1f := by
    rw [← UInt8.toBitVec_inj]
    simp only [UInt8.toBitVec_and, UInt8.toBitVec_or]
    rw [← BitVec.and_or_distrib_left]
    rfl
  rw [split, UInt8.or_eq_zero_iff]

/-- The two bytes that are tested are the flags and the offset of a fragment. -/
theorem isFragment_iff (raw : List UInt8) :
    getByte raw 6 &&& 0x3f ≠ 0 ∨ getByte raw 7 ≠ 0 ↔ IsFragment raw := by
  rw [IsFragment, ne_eq, and_fragmentBits]
  tauto

/-- An error of the new validators is the one error of the old one. -/
def ParseResult.frame : ParseResult Unit → Except InvalidData Unit
  | .ok () => .ok ()
  | .error _ => .error badFrame

section

variable {raw : List UInt8} {header length : ℕ}

/-- The validators of the transport part, chosen by the protocol. -/
def validatePayload (raw : List UInt8) (header length : ℕ) : Outcome (ParseResult Unit) :=
  if getByte raw 9 = 6 then validateTcp (slice raw header length) (length - header)
  else if getByte raw 9 = 17 then validateUdp (slice raw header length) (length - header)
  else .ok (.ok ())

/-- The payload is validated, or found malformed; nothing in it is called unsupported. -/
theorem validatePayload_returns (raw : List UInt8) (header : ℕ) {length : ℕ}
    (order : header ≤ length) (inside : length ≤ raw.length) :
    ∃ r, validatePayload raw header length = .ok r ∧
      ∀ reason, r ≠ .error (.unsupported reason) := by
  have cut : (slice raw header length).length = length - header := by
    rw [length_slice]
    omega
  unfold validatePayload
  split
  · unfold validateTcp
    split
    · exact ⟨_, rfl, nofun⟩
    · rw [readByte_eq (by omega), ok_bind]
      simp only
      split
      · exact ⟨_, rfl, nofun⟩
      · exact ⟨_, rfl, nofun⟩
  · split
    · unfold validateUdp
      split
      · exact ⟨_, rfl, nofun⟩
      · rw [readU16_eq (by omega), ok_bind]
        simp only
        split
        · exact ⟨_, rfl, nofun⟩
        · exact ⟨_, rfl, nofun⟩
    · exact ⟨_, rfl, nofun⟩

/-- **The transport part**: the old code reads it behind the header, the new one in a slice.  The
bounds of the slice are those that the old code checks for each header, in the same order, and the
texts of the errors are the same. -/
theorem validateTransport_eq (long : 20 ≤ header) (order : header ≤ length)
    (inside : length ≤ raw.length) :
    Ipv4PacketBuffer.validateTransport raw header (length - header) =
      (validatePayload raw header length).map ParseResult.frame := by
  have cut : (slice raw header length).length = length - header := by
    rw [length_slice]
    omega
  rw [Ipv4PacketBuffer.validateTransport, readByte_eq (by omega), ok_bind, validatePayload]
  split
  · unfold validateTcp
    split
    · rfl
    · rw [readByte_eq (by omega), readByte_eq (by omega), ok_bind, ok_bind,
        getByte_slice (by omega)]
      simp only
      split
      · rfl
      · rfl
  · split
    · unfold validateUdp
      split
      · rfl
      · rw [readU16_eq (by omega), readU16_eq (by omega), ok_bind, ok_bind,
          getU16_slice (by omega)]
        simp only
        split
        · rfl
        · rfl
    · rfl

instance : Decidable (IsFragment raw) := inferInstanceAs (Decidable (_ ∨ _ ∨ _))

/-- What is validated of a packet that is cut out of the buffer. -/
theorem validateIpv4_take {header length : ℕ} (raw : List UInt8)
    (header_eq : (getByte raw 0 &&& 15).toNat * 4 = header)
    (length_eq : (getU16 raw 2).toNat = length) (long : 20 ≤ header) (order : header ≤ length)
    (inside : length ≤ raw.length) :
    validateIpv4 (raw.take length) =
      if IsFragment raw then .ok (.error (.unsupported .ipv4Fragment))
      else validatePayload raw header length := by
  have taken : (raw.take length).length = length := List.length_take_of_le inside
  have byte {k : ℕ} (early : k < 20) : getByte (raw.take length) k = getByte raw k :=
    getByte_take (by omega)
  have first : getU16 (raw.take length) 2 = getU16 raw 2 := getU16_take (by omega)
  have payload : slice (raw.take length) header length = slice raw header length := by
    rw [slice, slice, List.take_take, min_self]
  rw [validateIpv4, if_neg (by omega)]
  simp only [byte (show 0 < 20 by omega), first, header_eq, length_eq, taken]
  rw [if_neg (by omega), readByte_eq (by omega), readByte_eq (by omega), ok_bind, ok_bind,
    byte (by omega), byte (by omega)]
  by_cases fragment : IsFragment raw
  · rw [if_pos fragment]
    exact if_pos fragment
  · rw [if_neg (show ¬ (getByte raw 6 &&& 0x20 ≠ 0 ∨ getByte raw 6 &&& 0x1f ≠ 0 ∨
      getByte raw 7 ≠ 0) from fragment), if_neg fragment, readSlice_eq order (by omega), ok_bind,
      readByte_eq (by omega), ok_bind, byte (by omega), payload, validatePayload]
    rfl

/-- Nothing behind the header of the transport part is parsed. -/
theorem parse_transport_append {protocol : Protocol} {xs : List UInt8}
    (tcp : protocol = .tcp → 20 ≤ xs.length) (udp : protocol = .udp → 8 ≤ xs.length)
    (ys : List UInt8) : TransportHeaderData.parse protocol (xs ++ ys) =
      TransportHeaderData.parse protocol xs := by
  have longer : xs.length ≤ (xs ++ ys).length := by simp
  cases protocol with
  | tcp =>
      have long := tcp rfl
      rw [TransportHeaderData.parse, TransportHeaderData.parse, TcpHeaderData.parse_eq (by omega),
        TcpHeaderData.parse_eq (by omega), TcpHeaderData.ofRaw_append (by omega)]
  | udp =>
      have long := udp rfl
      rw [TransportHeaderData.parse, TransportHeaderData.parse, UdpHeaderData.parse_eq (by omega),
        UdpHeaderData.parse_eq (by omega), UdpHeaderData.ofRaw_append (by omega)]
  | other => rfl

/-- **The parser sees no byte behind the packet.**  So it does not matter whether it is handed the
packet alone or everything that is buffered. -/
theorem parse_ipv4_take {length : ℕ} (raw : List UInt8) (length_eq : (getU16 raw 2).toNat = length)
    (inside : length ≤ raw.length) (valid : validateIpv4 (raw.take length) = .ok (.ok ())) :
    Ipv4Packet.parse raw = Ipv4Packet.parse (raw.take length) := by
  obtain ⟨r, eq, lengths⟩ := validateIpv4_returns (raw.take length)
  rw [eq, Except.ok.injEq] at valid
  obtain ⟨long, order, total, tcp, udp⟩ := lengths valid
  have taken : (raw.take length).length = length := List.length_take_of_le inside
  have whole : raw.take length ++ raw.drop length = raw := List.take_append_drop length raw
  have twenty : 20 ≤ (raw.take length).length := by omega
  have data : Ipv4HeaderData.ofRaw raw = .ofRaw (raw.take length) := by
    conv_lhs => rw [← whole]
    exact Ipv4HeaderData.ofRaw_append twenty _
  have headerLength := Ipv4HeaderData.toNat_headerLength (raw.take length)
  have behind : slice raw (Ipv4HeaderData.ofRaw (raw.take length)).headerLength.toNat raw.length =
      slice (raw.take length) (Ipv4HeaderData.ofRaw (raw.take length)).headerLength.toNat
        (raw.take length).length ++ raw.drop length := by
    rw [slice_full le_rfl, slice_full le_rfl, ← List.drop_append_of_le_length (by omega), whole]
  have transport : TransportHeaderData.parse (Ipv4HeaderData.ofRaw (raw.take length)).protocol
      (slice raw (Ipv4HeaderData.ofRaw (raw.take length)).headerLength.toNat raw.length) =
      TransportHeaderData.parse (Ipv4HeaderData.ofRaw (raw.take length)).protocol
        (slice (raw.take length) (Ipv4HeaderData.ofRaw (raw.take length)).headerLength.toNat
          (raw.take length).length) := by
    have most : (slice (raw.take length) (Ipv4HeaderData.ofRaw (raw.take length)).headerLength.toNat
        (raw.take length).length).length =
        length - (getByte (raw.take length) 0 &&& 15).toNat * 4 := by
      rw [length_slice, headerLength, min_self, taken]
    rw [behind]
    refine parse_transport_append ?_ ?_ _
    · intro isTcp
      have := tcp (Protocol.eq_tcp_of_ofByte isTcp)
      omega
    · intro isUdp
      have := udp (Protocol.eq_udp_of_ofByte isUdp)
      omega
  have front : slice (raw.take length) 0 length = slice raw 0 length := by
    rw [slice_zero, slice_zero, List.take_take, min_self]
  have field : (Ipv4HeaderData.ofRaw (raw.take length)).totalLength.toNat = length := by
    rw [← data]
    exact length_eq
  rw [Ipv4Packet.parse, Ipv4Packet.parse, Ipv4HeaderData.parse_eq (by omega),
    Ipv4HeaderData.parse_eq twenty, data]
  simp only [ok_bind]
  rw [readSlice_eq (by omega) le_rfl, readSlice_eq (by omega) le_rfl, field,
    readSlice_eq (Nat.zero_le _) inside, readSlice_eq (Nat.zero_le _) taken.ge, front]
  simp only [ok_bind]
  rw [transport]

end

/-! ## Both buffers with the same bytes -/

/-- The header announces no packet at all.  Its header is too short, or its total length is shorter
than the header. -/
def BadLengths (raw : List UInt8) : Prop :=
  (getByte raw 0 &&& 15).toNat * 4 < 20 ∨ (getU16 raw 2).toNat < (getByte raw 0 &&& 15).toNat * 4

instance (raw : List UInt8) : Decidable (BadLengths raw) := inferInstanceAs (Decidable (_ ∨ _))

namespace Ipv4PacketBuffer

variable {b : Ipv4PacketBuffer}

/-- What the old buffer takes for the length of an IPv4 packet: the header field, where all of it
has come. -/
theorem availablePacketLength_eq (long : 4 ≤ b.peek.length) (version : getByte b.peek 0 >>> 4 = 4) :
    b.availablePacketLength = .ok
      (if (getU16 b.peek 2).toNat ≤ b.peek.length then some (getU16 b.peek 2) else none) := by
  have peeked : peekVersionLength b.peek = some (getByte b.peek 0 >>> 4, getU16 b.peek 2) :=
    if_pos long
  rw [availablePacketLength, peeked]
  simp only
  rw [if_neg (not_not.mpr version)]
  split <;> rfl

/-- An incomplete packet is no fragment yet. -/
theorem isFragmented_incomplete (long : 4 ≤ b.peek.length) (version : getByte b.peek 0 >>> 4 = 4)
    (incomplete : b.peek.length < (getU16 b.peek 2).toNat) : b.isFragmented = .ok false := by
  unfold isFragmented
  split
  · rfl
  · rw [availablePacketLength_eq long version, if_neg (by omega)]
    rfl

/-- Of a complete packet the old buffer tests whether it is a fragment. -/
theorem isFragmented_complete (version : getByte b.peek 0 >>> 4 = 4) (good : ¬ BadLengths b.peek)
    (complete : (getU16 b.peek 2).toNat ≤ b.peek.length) :
    b.isFragmented = .ok (decide (IsFragment b.peek)) := by
  unfold BadLengths at good
  rw [isFragmented, if_neg (by omega), availablePacketLength_eq (by omega) version,
    if_pos complete]
  simp only [isFragment_iff]
  exact congrArg Except.ok (Bool.true_and _)

/-- What the old buffer makes of an IPv4 front: bad lengths first, then what is incomplete, then
fragments, which it does not validate. -/
theorem validateFront_eq (long : 4 ≤ b.peek.length) (version : getByte b.peek 0 >>> 4 = 4) :
    b.validateFront =
      if BadLengths b.peek then .ok (.error badFrame)
      else if b.peek.length < (getU16 b.peek 2).toNat then .ok (.ok ())
      else if IsFragment b.peek then .ok (.ok ())
      else FrameOutcome.call ((validatePayload b.peek ((getByte b.peek 0 &&& 15).toNat * 4)
        (getU16 b.peek 2).toNat).map ParseResult.frame) := by
  rw [validateFront]
  simp only
  rw [if_neg (by omega)]
  by_cases bad : BadLengths b.peek
  · have bad' : getByte b.peek 0 >>> 4 ≠ 4 ∨ (getByte b.peek 0 &&& 15).toNat * 4 < 20 ∨
        (getU16 b.peek 2).toNat < (getByte b.peek 0 &&& 15).toNat * 4 := Or.inr bad
    rw [if_pos bad', if_pos bad]
  · have good : ¬ (getByte b.peek 0 >>> 4 ≠ 4 ∨ (getByte b.peek 0 &&& 15).toNat * 4 < 20 ∨
        (getU16 b.peek 2).toNat < (getByte b.peek 0 &&& 15).toNat * 4) := by
      rintro (other | bad')
      · exact other version
      · exact bad bad'
    rw [if_neg good, if_neg bad]
    split
    · rfl
    · rename_i complete
      rw [isFragmented_complete version bad (by omega)]
      unfold BadLengths at bad
      rw [validateTransport_eq (by omega) (by omega) (by omega)]
      by_cases fragment : IsFragment b.peek
      · rw [decide_eq_true fragment, if_pos fragment]
        rfl
      · rw [decide_eq_false fragment, if_neg fragment]
        rfl

/-- `next` removes a complete packet. -/
theorem next_eq (long : 4 ≤ b.peek.length) (version : getByte b.peek 0 >>> 4 = 4)
    (complete : (getU16 b.peek 2).toNat ≤ b.peek.length) :
    ∃ b', b.next = .ok b' ∧ b'.peek = b.peek.drop (getU16 b.peek 2).toNat := by
  have inside : (getU16 b.peek 2).toNat ≤ b.buf.head := by
    rw [← ByteBuffer.length_peek]
    exact complete
  obtain ⟨buf, eq, peek⟩ := ByteBuffer.consume_ok inside
  refine ⟨⟨buf⟩, ?_, peek⟩
  have called : FrameOutcome.call (b.buf.consume (getU16 b.peek 2).toNat) = .ok buf := by
    rw [eq]
    rfl
  rw [next, availablePacketLength_eq long version, if_pos complete]
  exact congrArg (· >>= fun buf => pure (Ipv4PacketBuffer.mk buf)) called

/-- Any bytes that fit can be in the buffer. -/
theorem exists_peek {raw : List UInt8} (fits : raw.length ≤ maxPacketLength) :
    ∃ b : Ipv4PacketBuffer, b.peek = raw := by
  obtain ⟨buf, -, peek⟩ := (ByteBuffer.new maxPacketLength).readFrom_ok raw
  refine ⟨⟨buf⟩, peek.trans ?_⟩
  rw [ByteBuffer.peek_new, List.nil_append]
  exact List.take_of_length_le fits

end Ipv4PacketBuffer

namespace IpPacketBuffer

variable {b : IpPacketBuffer}

/-- An IPv4 packet is validated, and parsed. -/
theorem parse_version4 {raw : List UInt8} (nonempty : raw ≠ [])
    (version : getByte raw 0 >>> 4 = 4) :
    IpPacket.parse raw = do
      match ← validateIpv4 raw with
      | .error err => return .error err
      | .ok () => return .ok (.ipv4 (← Ipv4Packet.parse raw)) := by
  match raw, nonempty with
  | first :: rest, _ =>
      have four : first >>> 4 = 4 := version
      unfold IpPacket.parse
      exact if_pos four

/-- What the new buffer makes of an IPv4 front, before it validates a packet. -/
theorem frontPacketLength_version4 {raw : List UInt8} (long : 4 ≤ raw.length)
    (version : getByte raw 0 >>> 4 = 4) : frontPacketLength raw =
      if BadLengths raw then .error (.malformed "invalid IPv4 packet length")
      else if raw.length < (getU16 raw 2).toNat then .ok none
      else .ok (some (getU16 raw 2).toNat) := by
  rw [frontPacketLength_ipv4 (List.ne_nil_of_length_pos (by omega)) version, if_neg (by omega)]
  rfl

/-- **The same decisions in the same order**, for the new buffer.  The lengths are checked first,
then whether all of it is there, then whether it is a fragment, and the transport header last. -/
theorem packet_ipv4 (long : 4 ≤ b.peek.length) (version : getByte b.peek 0 >>> 4 = 4) :
    b.packet =
      if BadLengths b.peek then .ok (.error (.malformed "invalid IPv4 packet length"))
      else if b.peek.length < (getU16 b.peek 2).toNat then .ok (.ok none)
      else if IsFragment b.peek then .ok (.error (.unsupported .ipv4Fragment))
      else do
        match ← validatePayload b.peek ((getByte b.peek 0 &&& 15).toNat * 4)
            (getU16 b.peek 2).toNat with
        | .error err => return .error err
        | .ok () => return .ok (some (.ipv4 (← Ipv4Packet.parse b.peek))) := by
  rw [packet, frontPacketLength_version4 long version]
  by_cases bad : BadLengths b.peek
  · rw [if_pos bad, if_pos bad]
  · rw [if_neg bad, if_neg bad]
    by_cases incomplete : b.peek.length < (getU16 b.peek 2).toNat
    · rw [if_pos incomplete, if_pos incomplete]
    · rw [if_neg incomplete, if_neg incomplete]
      unfold BadLengths at bad
      have taken : (b.peek.take (getU16 b.peek 2).toNat).length = (getU16 b.peek 2).toNat :=
        List.length_take_of_le (by omega)
      have valid := validateIpv4_take b.peek rfl rfl (by omega) (by omega) (by omega)
      have parsed := parse_ipv4_take b.peek rfl (by omega)
      have first : getByte (b.peek.take (getU16 b.peek 2).toNat) 0 = getByte b.peek 0 :=
        getByte_take (by omega)
      simp only
      rw [readSlice_eq (Nat.zero_le _) (by omega), slice_zero, ok_bind,
        parse_version4 (List.ne_nil_of_length_pos (by omega)) (by rw [first, version]), valid]
      by_cases fragment : IsFragment b.peek
      · rw [if_pos fragment, if_pos fragment]
        rfl
      · rw [if_neg fragment] at valid ⊢
        rw [if_neg fragment]
        obtain ⟨r, checked, -⟩ := validatePayload_returns b.peek
          ((getByte b.peek 0 &&& 15).toNat * 4) (by omega)
          (show (getU16 b.peek 2).toNat ≤ b.peek.length by omega)
        rw [checked] at valid ⊢
        cases r with
        | error err => rfl
        | ok _ =>
            simp only [ok_bind]
            rw [parsed valid]
            cases Ipv4Packet.parse (b.peek.take (getU16 b.peek 2).toNat) <;> rfl

/-- `next` removes a packet whose length is known. -/
theorem next_ipv4 (long : 4 ≤ b.peek.length) (version : getByte b.peek 0 >>> 4 = 4)
    (good : ¬ BadLengths b.peek) (complete : (getU16 b.peek 2).toNat ≤ b.peek.length) :
    ∃ b', b.next = .ok (.ok true, b') ∧ b'.peek = b.peek.drop (getU16 b.peek 2).toNat := by
  have inside : (getU16 b.peek 2).toNat ≤ b.buf.head := by
    rw [← ByteBuffer.length_peek]
    exact complete
  obtain ⟨buf, eq, peek⟩ := ByteBuffer.consume_ok inside
  refine ⟨⟨buf⟩, ?_, peek⟩
  rw [next, frontPacketLength_version4 long version, if_neg good, if_neg (by omega)]
  simp only [eq, ok_bind]
  rfl

end IpPacketBuffer

/-- What the two buffers say of the packet at the front.  All that a caller can ask of either is
compared: errors, fragments, packets, and what is left when a packet was taken. -/
structure Agree (old : Ipv4PacketBuffer) (new : IpPacketBuffer) : Prop where
  malformed : (∃ reason, new.packet = .ok (.error (.malformed reason))) ↔
    ∃ err, old.validateFront = .ok (.error err)
  fragment : new.packet = .ok (.error (.unsupported .ipv4Fragment)) ↔
    old.validateFront = .ok (.ok ()) ∧ old.isFragmented = .ok true
  incomplete : new.packet = .ok (.ok none) ↔
    old.validateFront = .ok (.ok ()) ∧ old.availablePacketLength = .ok none
  /-- Otherwise both have one packet, which `next` removes. -/
  complete : (∀ reason, new.packet ≠ .ok (.error (.malformed reason))) →
    new.packet ≠ .ok (.error (.unsupported .ipv4Fragment)) → new.packet ≠ .ok (.ok none) →
    ∃ packet old' new', new.packet = .ok (.ok (some (.ipv4 packet))) ∧
      old.asIpv4Packet = .ok (some packet) ∧
      old.next = .ok old' ∧ old'.peek = old.peek.drop packet.raw.length ∧
      new.next = .ok (.ok true, new') ∧ new'.peek = new.peek.drop packet.raw.length

/-- **IPv4 was not changed.**  Of the same bytes, at least four and of version 4, the two buffers
say the same. -/
theorem packet_agrees (old : Ipv4PacketBuffer) (new : IpPacketBuffer) (same : new.peek = old.peek)
    (long : 4 ≤ old.peek.length) (version : getByte old.peek 0 >>> 4 = 4) : Agree old new := by
  have front := Ipv4PacketBuffer.validateFront_eq long version
  have available := Ipv4PacketBuffer.availablePacketLength_eq long version
  have packet := IpPacketBuffer.packet_ipv4 (b := new) (by rwa [same]) (by rwa [same])
  rw [same] at packet
  by_cases bad : BadLengths old.peek
  · rw [if_pos bad] at front packet
    refine ⟨⟨fun _ => ⟨_, front⟩, fun _ => ⟨_, packet⟩⟩, ?_, ?_, fun not_malformed => ?_⟩
    · rw [packet, front]
      simp
    · rw [packet, front]
      simp
    · exact absurd packet (not_malformed _)
  rw [if_neg bad] at front packet
  by_cases incomplete : old.peek.length < (getU16 old.peek 2).toNat
  · rw [if_pos incomplete] at front packet
    rw [if_neg (by omega)] at available
    have whole := Ipv4PacketBuffer.isFragmented_incomplete long version incomplete
    refine ⟨?_, ?_, ?_, fun _ _ not_incomplete => absurd packet not_incomplete⟩
    · rw [packet, front]
      simp
    · rw [packet, whole]
      simp
    · exact ⟨fun _ => ⟨front, available⟩, fun _ => packet⟩
  rw [if_neg incomplete] at front packet
  rw [if_pos (by omega)] at available
  have fragmented := Ipv4PacketBuffer.isFragmented_complete version bad (by omega)
  by_cases fragment : IsFragment old.peek
  · rw [if_pos fragment] at front packet
    rw [decide_eq_true fragment] at fragmented
    refine ⟨?_, ⟨fun _ => ⟨front, fragmented⟩, fun _ => packet⟩, ?_, fun _ not_fragment =>
      absurd packet not_fragment⟩
    · rw [packet, front]
      simp
    · rw [packet, available]
      simp
  rw [if_neg fragment] at front packet
  rw [decide_eq_false fragment] at fragmented
  have lengths : ¬ BadLengths old.peek := bad
  unfold BadLengths at lengths
  obtain ⟨r, checked, not_unsupported⟩ := validatePayload_returns old.peek
    ((getByte old.peek 0 &&& 15).toNat * 4) (by omega)
    (show (getU16 old.peek 2).toNat ≤ old.peek.length by omega)
  rw [checked] at front packet
  match r with
  | .error (.unsupported reason) => exact absurd rfl (not_unsupported reason)
  | .error (.malformed reason) =>
      change old.validateFront = .ok (.error badFrame) at front
      change new.packet = .ok (.error (.malformed reason)) at packet
      refine ⟨⟨fun _ => ⟨_, front⟩, fun _ => ⟨_, packet⟩⟩, ?_, ?_, fun not_malformed =>
        absurd packet (not_malformed _)⟩
      · rw [packet, front]
        simp
      · rw [packet, front]
        simp
  | .ok () =>
      change old.validateFront = .ok (.ok ()) at front
      have valid := validateIpv4_take old.peek rfl rfl (by omega) (by omega) (by omega)
      rw [if_neg fragment, checked] at valid
      obtain ⟨data, parsed⟩ := Ipv4Packet.parse_returns valid
      rw [← parse_ipv4_take old.peek rfl (by omega) valid] at parsed
      have length : (slice (old.peek.take (getU16 old.peek 2).toNat) 0
          (getU16 (old.peek.take (getU16 old.peek 2).toNat) 2).toNat).length =
          (getU16 old.peek 2).toNat := by
        rw [getU16_take (by omega), length_slice, List.length_take]
        omega
      rw [parsed] at packet
      obtain ⟨old', oldNext, oldRest⟩ := Ipv4PacketBuffer.next_eq long version (by omega)
      obtain ⟨new', newNext, newRest⟩ := IpPacketBuffer.next_ipv4 (b := new) (by rwa [same])
        (by rwa [same]) (by rwa [same]) (by rw [same]; omega)
      change new.packet = .ok (.ok (some (.ipv4 _))) at packet
      refine ⟨?_, ?_, ?_, fun _ _ _ => ⟨_, old', new', packet, ?_, oldNext, ?_, newNext, ?_⟩⟩
      · rw [packet, front]
        simp
      · rw [packet, fragmented]
        simp
      · rw [packet, available]
        simp
      · rw [Ipv4PacketBuffer.asIpv4Packet, available, parsed]
        rfl
      · rw [length]
        exact oldRest
      · rw [length, newRest, same]

/-- A UDP datagram of four bytes, and the first byte of the next packet. -/
def bufferedDatagram : List UInt8 :=
  [0x45, 0, 0, 32, 0, 0, 0, 0, 64, 17, 0, 0, 10, 0, 0, 2, 10, 0, 0, 3,
    0x10, 0, 0, 53, 0, 12, 0, 0, 1, 2, 3, 4, 0x45]

/-- Two buffers with one datagram and a byte behind it agree. -/
theorem packet_agrees_bufferedDatagram : ∃ (old : Ipv4PacketBuffer) (new : IpPacketBuffer),
    old.peek = bufferedDatagram ∧ new.peek = bufferedDatagram ∧ Agree old new := by
  obtain ⟨old, oldPeek⟩ := @Ipv4PacketBuffer.exists_peek bufferedDatagram (by decide)
  obtain ⟨new, newPeek⟩ := @IpPacketBuffer.exists_peek bufferedDatagram (by decide)
  refine ⟨old, new, oldPeek, newPeek, ?_⟩
  exact packet_agrees old new (newPeek.trans oldPeek.symm) (by rw [oldPeek]; decide)
    (by rw [oldPeek]; decide)

end ReverseTether
