import ReverseTether.AppFraming

/-!
# What the relay does with a forwarded packet

The app forwards a packet once its lengths at the IP level are right.  The relay
looks further: it drops what it does not support, and closes the client on a TCP
or UDP header that does not fit its packet.  Which of the three happens is decided
by the packet alone, whatever routing, dropping and closing do to the client.

The app checks the version, the header length and the total length, and so do the readers of
the relay, which is why a forwarded packet is never malformed to it at the IP level.  The
transport header is another matter: the app does not look at it.  A TCP header that is cut
short, or a UDP length that contradicts the packet, closes the client although the app saw
nothing wrong.

`MalformedUnless fits parser` says that the parser calls malformed only what does not fit.
The condition is collected on the way through the tests of the parser, so that there is one
lemma for each kind of test and none for a whole parser.
-/

namespace ReverseTether

open Library Feed

/-! ## Packets that do not close the client -/

/-- A TCP header of the length it announces is in the payload.  The data offset counts words of
four bytes and is at least five. -/
def TcpFits (payload : List UInt8) : Prop :=
  20 ≤ payload.length ∧ 20 ≤ (getByte payload 12 >>> 4).toNat * 4 ∧
    (getByte payload 12 >>> 4).toNat * 4 ≤ payload.length

/-- The payload is a UDP datagram of the length it announces.  The relay takes no datagram with
bytes behind its length. -/
def UdpFits (payload : List UInt8) : Prop :=
  8 ≤ payload.length ∧ (getU16 payload 4).toNat = payload.length

/-- The header of a transport protocol the relay takes fits the payload.  A packet of any other
protocol fits, since nothing is parsed of it. -/
def TransportFits (protocol : UInt8) (payload : List UInt8) : Prop :=
  (protocol = 6 → TcpFits payload) ∧ (protocol = 17 → UdpFits payload)

/-- A packet the relay routes or drops: an IPv4 fragment, or a packet whose TCP or UDP
header, if it is one of these, fits. -/
def Tolerated (raw : List UInt8) : Prop :=
  (getByte raw 0 >>> 4 = 4 ∧
      (IsFragment raw ∨
        TransportFits (getByte raw 9) (raw.drop ((getByte raw 0 &&& 15).toNat * 4)))) ∨
    (getByte raw 0 >>> 4 = 6 ∧ TransportFits (getByte raw 6) (raw.drop 40))

/-! ## What the parsers call malformed -/

/-- The parser returns, and calls its input malformed exactly when `fits` fails.  A packet that is
not routed is an error of another kind. -/
def MalformedUnless {α : Type} (fits : Prop) (parser : Outcome (ParseResult α)) : Prop :=
  ∃ answer, parser = .ok answer ∧ ((∃ reason, answer = .error (.malformed reason)) ↔ ¬ fits)

section Parsers

variable {α : Type} {fits : Prop}

/-- Called malformed, and it does not fit. -/
theorem MalformedUnless.malformed {reason : String} (not : ¬ fits) :
    MalformedUnless fits (.ok (.error (.malformed reason)) : Outcome (ParseResult α)) :=
  ⟨_, rfl, fun _ => not, fun _ => ⟨reason, rfl⟩⟩

/-- Called unsupported, and it fits. -/
theorem MalformedUnless.unsupported {reason : UnsupportedPacket} (holds : fits) :
    MalformedUnless fits (.ok (.error (.unsupported reason)) : Outcome (ParseResult α)) :=
  ⟨_, rfl, nofun, fun not => absurd holds not⟩

/-- Accepted, and it fits. -/
theorem MalformedUnless.ok {a : α} (holds : fits) :
    MalformedUnless fits (.ok (.ok a) : Outcome (ParseResult α)) :=
  ⟨_, rfl, nofun, fun not => absurd holds not⟩

theorem MalformedUnless.congr {same : Prop} {parser : Outcome (ParseResult α)}
    (h : MalformedUnless fits parser) (iff : fits ↔ same) : MalformedUnless same parser := by
  obtain ⟨answer, eq, malformed⟩ := h
  exact ⟨answer, eq, by rw [malformed, iff]⟩

/-- What a parser calls malformed stays so behind a first test, if the rest accepts
whatever passed. -/
theorem MalformedUnless.andThen {β : Type} {first : Outcome (ParseResult α)}
    {rest : ParseResult α → Outcome (ParseResult β)} (h : MalformedUnless fits first)
    (failed : ∀ err, rest (.error err) = .ok (.error err))
    (passed : ∀ a, first = .ok (.ok a) → ∃ b, rest (.ok a) = .ok (.ok b)) :
    MalformedUnless fits (first >>= rest) := by
  obtain ⟨answer, eq, malformed⟩ := h
  rw [eq, ok_bind]
  cases answer with
  | error err =>
      rw [failed]
      refine ⟨_, rfl, ?_⟩
      rw [← malformed]
      constructor
      · rintro ⟨reason, same⟩
        cases same
        exact ⟨reason, rfl⟩
      · rintro ⟨reason, same⟩
        cases same
        exact ⟨reason, rfl⟩
  | ok a =>
      obtain ⟨b, rest⟩ := passed a eq
      rw [rest]
      refine ⟨_, rfl, nofun, fun not => ?_⟩
      obtain ⟨reason, same⟩ := malformed.mpr not
      cases same

/-- A TCP segment is called malformed unless its header fits. -/
theorem validateTcp_malformed (payload : List UInt8) :
    MalformedUnless (TcpFits payload) (validateTcp payload payload.length) := by
  rw [validateTcp]
  split
  · rename_i short
    exact .malformed fun fits => absurd fits.1 (by omega)
  · rename_i long
    rw [readByte_eq (by omega), ok_bind]
    simp only
    split
    · rename_i bad
      refine .malformed fun fits => ?_
      have := fits.2
      omega
    · rename_i good
      exact .ok ⟨by omega, by omega, by omega⟩

/-- A UDP datagram is called malformed unless its length is that of the payload. -/
theorem validateUdp_malformed (payload : List UInt8) :
    MalformedUnless (UdpFits payload) (validateUdp payload payload.length) := by
  rw [validateUdp]
  split
  · rename_i short
    exact .malformed fun fits => absurd fits.1 (by omega)
  · rename_i long
    rw [readU16_eq (by omega), ok_bind]
    simp only
    split
    · rename_i bad
      exact .malformed fun fits => bad fits.2
    · rename_i good
      exact .ok ⟨by omega, not_not.mp good⟩

end Parsers

variable {raw : List UInt8}

/-- Both transport checks, on the payload of a complete packet. -/
theorem transportFits_tcp {payload : List UInt8} : TransportFits 6 payload ↔ TcpFits payload :=
  ⟨fun fits => fits.1 rfl, fun fits => ⟨fun _ => fits, nofun⟩⟩

/-- Of a UDP packet the datagram has to fit. -/
theorem transportFits_udp {payload : List UInt8} : TransportFits 17 payload ↔ UdpFits payload :=
  ⟨fun fits => fits.2 rfl, fun fits => ⟨nofun, fun _ => fits⟩⟩

/-- The first byte of a packet of this version. -/
theorem exists_cons_of_version {version : UInt8} (h : getByte raw 0 >>> 4 = version)
    (nonzero : version ≠ 0) : ∃ first rest, raw = first :: rest ∧ first >>> 4 = version := by
  cases raw with
  | nil => exact absurd rfl (nonempty_of_version h nonzero)
  | cons first rest => exact ⟨first, rest, rfl, h⟩

/-- **An IPv4 packet is called malformed unless its transport header fits**; a fragment is not,
whatever is in it.  The lengths that the header names are those of `raw` here, since the app looks
at them too; what is left to find is the transport header, which only the relay parses. -/
theorem validateIpv4_malformed (long : 20 ≤ (getByte raw 0 &&& 15).toNat * 4)
    (inside : (getByte raw 0 &&& 15).toNat * 4 ≤ raw.length)
    (total : (getU16 raw 2).toNat = raw.length) :
    MalformedUnless (IsFragment raw ∨
        TransportFits (getByte raw 9) (raw.drop ((getByte raw 0 &&& 15).toNat * 4)))
      (validateIpv4 raw) := by
  set header := (getByte raw 0 &&& 15).toNat * 4
  have payload : slice raw header raw.length = raw.drop header := slice_full le_rfl
  have length : (raw.drop header).length = raw.length - header := List.length_drop
  rw [validateIpv4, if_neg (by omega)]
  simp only
  rw [if_neg (by omega), readByte_eq (by omega), readByte_eq (by omega), ok_bind, ok_bind, total,
    readSlice_eq inside le_rfl, readByte_eq (by omega)]
  simp only [ok_bind]
  rw [payload, ← length]
  split
  · rename_i fragment
    exact .unsupported (.inl fragment)
  · rename_i whole
    have not : ¬ IsFragment raw := whole
    split
    · rename_i tcp
      refine (validateTcp_malformed _).congr ?_
      rw [tcp, transportFits_tcp, or_iff_right not]
    · rename_i tcp
      split
      · rename_i udp
        refine (validateUdp_malformed _).congr ?_
        rw [udp, transportFits_udp, or_iff_right not]
      · rename_i udp
        exact .ok (.inr ⟨fun h => absurd h tcp, fun h => absurd h udp⟩)

/-- What follows the transport check of an IPv6 packet. -/
theorem Ipv6Packet.parse_behind {protocol : Protocol} {payload : List UInt8} {total : ℕ}
    (inside : total ≤ raw.length) (known : protocol ≠ .other)
    (tcp : protocol = .tcp → 20 ≤ payload.length) (udp : protocol = .udp → 8 ≤ payload.length) :
    ∃ packet, (TransportHeaderData.parse protocol payload >>= fun t =>
      match t with
      | none => (pure (.error (.malformed "unsupported transport header")) :
          Outcome (ParseResult Ipv6Packet))
      | some transportHeaderData => do
          let raw' ← readSlice raw 0 total
          return .ok { raw := raw', ipv6HeaderData := .ofRaw raw, transportHeaderData }) =
      .ok (.ok packet) := by
  obtain ⟨t, parsed, isSome⟩ := TransportHeaderData.parse_returns tcp udp
  obtain ⟨data, rfl⟩ := Option.isSome_iff_exists.mp (isSome known)
  rw [parsed, ok_bind]
  simp only [readSlice_eq (Nat.zero_le _) inside, ok_bind]
  exact ⟨_, rfl⟩

/-- **An IPv6 packet is called malformed unless its transport header fits.**  The next header
decides what has to fit behind the 40 bytes, as for IPv4, and an extension header is a protocol
that is not routed. -/
theorem Ipv6Packet.parse_malformed (version : getByte raw 0 >>> 4 = 6)
    (total : 40 + (getU16 raw 4).toNat = raw.length) :
    MalformedUnless (TransportFits (getByte raw 6) (raw.drop 40)) (Ipv6Packet.parse raw) := by
  have header : Ipv6HeaderData.parse raw = .ok (.ofRaw raw) := by
    rw [Ipv6HeaderData.parse, if_neg (by rw [ipv6HeaderLength]; omega),
      if_neg (not_not.mpr version), if_neg (by rw [ipv6HeaderLength]; omega)]
  have whole : (Ipv6HeaderData.ofRaw raw).totalLength = raw.length := total
  have payload : slice raw ipv6HeaderLength raw.length = raw.drop 40 := slice_full le_rfl
  have length : (Ipv6HeaderData.ofRaw raw).payloadLength.toNat = (raw.drop 40).length := by
    rw [List.length_drop]
    show (getU16 raw 4).toNat = _
    omega
  rw [Ipv6Packet.parse, header]
  simp only [whole, readSlice_eq (show ipv6HeaderLength ≤ raw.length by rw [ipv6HeaderLength]; omega)
    le_rfl, ok_bind, payload, length]
  rw [show (Ipv6HeaderData.ofRaw raw).nextHeader = getByte raw 6 from rfl]
  by_cases tcp : getByte raw 6 = 6
  · rw [tcp]
    refine ((validateTcp_malformed _).congr transportFits_tcp.symm).andThen (fun _ => rfl) ?_
    intro _ valid
    obtain ⟨r, eq, long⟩ := validateTcp_returns (rfl : (raw.drop 40).length = _)
    exact parse_behind le_rfl (by simp) (fun _ => long (Except.ok.inj (eq.symm.trans valid)))
      (by simp)
  by_cases udp : getByte raw 6 = 17
  · rw [udp]
    refine ((validateUdp_malformed _).congr transportFits_udp.symm).andThen (fun _ => rfl) ?_
    intro _ valid
    obtain ⟨r, eq, long⟩ := validateUdp_returns (rfl : (raw.drop 40).length = _)
    exact parse_behind le_rfl (by simp) (by simp) fun _ => long (Except.ok.inj (eq.symm.trans valid))
  have fits : TransportFits (getByte raw 6) (raw.drop 40) :=
    ⟨fun h => absurd h tcp, fun h => absurd h udp⟩
  rw [protocolOf, if_neg tcp, if_neg udp]
  split
  · rename_i err rejected
    split at rejected
    · cases rejected
      exact .unsupported fits
    · split at rejected
      · cases rejected
        exact .unsupported fits
      · cases rejected
        exact .unsupported fits
  · rename_i protocol known
    split at known
    · cases known
    · split at known <;> cases known

/-- **What the relay calls malformed** of what the app forwards.  Both versions come together in
`Tolerated`, which is what the amended statement about forwarded packets is about. -/
theorem IpPacket.parse_malformed (complete : IsPacket raw) :
    MalformedUnless (Tolerated raw) (IpPacket.parse raw) := by
  rcases complete with ⟨version, long, inside, total⟩ | ⟨version, total⟩
  · obtain ⟨first, rest, rfl, four⟩ := exists_cons_of_version version (by decide)
    rw [IpPacket.parse, if_pos four]
    refine MalformedUnless.andThen ((validateIpv4_malformed long inside total).congr ?_)
      (fun _ => rfl) ?_
    · constructor
      · intro fits
        exact .inl ⟨version, fits⟩
      · rintro (⟨-, fits⟩ | ⟨six, -⟩)
        · exact fits
        · exact absurd (version.symm.trans six) (by decide)
    · intro _ valid
      obtain ⟨data, parsed⟩ := Ipv4Packet.parse_returns valid
      simp only [parsed, ok_bind]
      exact ⟨_, rfl⟩
  · obtain ⟨first, rest, rfl, six⟩ := exists_cons_of_version version (by decide)
    rw [IpPacket.parse, if_neg (by rw [six]; decide), if_pos six]
    refine ((Ipv6Packet.parse_malformed version total).congr ?_).andThen (fun _ => rfl)
      fun _ _ => ⟨_, rfl⟩
    constructor
    · intro fits
      exact .inr ⟨version, fits⟩
    · rintro (⟨four, -⟩ | ⟨-, fits⟩)
      · exact absurd (version.symm.trans four) (by decide)
      · exact fits

/-! ## What the loop does with a forwarded packet -/

section Loop

variable {σ : Type} (handlers : PacketHandlers σ)

/-- **Routed or dropped, unless the transport header does not fit.**  Whatever the
client's state and whatever lies behind the packet, a forwarded packet at the front of the
buffer is routed or dropped and the loop goes on when it is tolerated; otherwise the
client is closed. -/
theorem pushOnePacketToNetwork_forwarded {packet rest : List UInt8}
    (forwarded : isWellFormedIpPacket packet = true) {buffer : IpPacketBuffer}
    (front : buffer.peek = packet ++ rest) (s : σ) :
    (Tolerated packet → ∃ v : Verdict, v.closes = false ∧
        pushOnePacketToNetwork handlers buffer s =
          (applyVerdict handlers s v).map (true, ·)) ∧
      (¬ Tolerated packet → ∃ reason, pushOnePacketToNetwork handlers buffer s =
        (handlers.close (.malformed reason) s).map (false, ·)) := by
  have complete := isWellFormedIpPacket_iff.mp forwarded
  have taken : buffer.peek.take packet.length = packet := by
    rw [front, List.take_left]
  have length : frontPacketLength buffer.peek = .ok (some packet.length) := by
    rw [← relayJudge_eq, front]
    have item := relayJudge_isPacket.mpr complete
    exact (relayRule.append (by rw [show relayRule.judge packet = _ from item]; exact nofun)
      rest).trans item
  obtain ⟨answer, parsed, malformed⟩ := IpPacket.parse_malformed complete
  have packet := packet_of_complete length
  rw [taken, parsed] at packet
  constructor
  · intro tolerated
    have wellFormed : ¬ ∃ reason, answer = .error (.malformed reason) := fun bad =>
      malformed.mp bad tolerated
    match answer with
    | .ok p =>
        refine ⟨.routed p, rfl, ?_⟩
        rw [pushOnePacketToNetwork, packet, applyVerdict]
        simp only [Except.map, ok_bind]
        cases handlers.route p s <;> rfl
    | .error (.unsupported reason) =>
        refine ⟨.dropped reason, rfl, ?_⟩
        rw [pushOnePacketToNetwork, packet]
        rfl
    | .error (.malformed reason) => exact absurd ⟨reason, rfl⟩ wellFormed
  · intro not
    obtain ⟨reason, rfl⟩ := malformed.mpr not
    refine ⟨reason, ?_⟩
    rw [pushOnePacketToNetwork, packet]
    simp only [Except.map, ok_bind]
    cases handlers.close (.malformed reason) s <;> rfl

end Loop

/-- An IPv4 packet that ends with its header. -/
def emptyIpv4Packet (protocol : UInt8) : List UInt8 :=
  [0x45, 0, 0, 20, 0, 0, 0, 0, 64, protocol, 0, 0, 10, 0, 0, 2, 10, 0, 0, 1]

/-- A packet of a protocol that is not routed is dropped, and the client stays open. -/
theorem pushOnePacketToNetwork_forwarded_icmp :
    ∃ buffer : IpPacketBuffer, ∃ v : Verdict, v.closes = false ∧
      pushOnePacketToNetwork recording buffer ([], false) =
        (applyVerdict recording ([], false) v).map (true, ·) := by
  have forwarded : isWellFormedIpPacket (emptyIpv4Packet 1) = true := by decide
  have short : (emptyIpv4Packet 1 ++ []).length ≤ maxIpPacketLength := by decide
  obtain ⟨buffer, front⟩ := IpPacketBuffer.exists_peek short
  refine ⟨buffer, (pushOnePacketToNetwork_forwarded recording forwarded front ([], false)).1
    (.inl ⟨by decide, .inr ⟨?_, ?_⟩⟩)⟩
  · exact fun tcp => absurd tcp (by decide)
  · exact fun udp => absurd udp (by decide)

/-- An IPv4 packet that names TCP and ends with its IPv4 header is forwarded, and closes the
client.  The app looks at no transport header, and the relay does: to it the packet is truncated,
and a truncated packet ends the connection of the client. -/
theorem forwarded_closes :
    isWellFormedIpPacket (emptyIpv4Packet 6) = true ∧
      ∃ buffer : IpPacketBuffer, buffer.peek = emptyIpv4Packet 6 ∧
        pushOnePacketToNetwork recording buffer ([], false) =
          .ok (false, [.closed (.malformed "truncated TCP header")], true) := by
  have short : (emptyIpv4Packet 6).length ≤ maxIpPacketLength := by decide
  obtain ⟨buffer, front⟩ := IpPacketBuffer.exists_peek short
  refine ⟨by decide, buffer, front, ?_⟩
  have complete : frontPacketLength buffer.peek = .ok (some 20) := by
    rw [front]
    rfl
  have packet := packet_of_complete complete
  rw [front] at packet
  rw [pushOnePacketToNetwork, packet]
  rfl

end ReverseTether
