import ReverseTether.ClientInput

/-!
# The framing of the app

The two ends of the tunnel were written apart.  The app writes packets that passed
`IsWellFormedIpPacket` and reads its stream with `IpPacketLength`; the relay reads
its own with `front_packet_length`.  Both readers are length rules, so what each cuts
off a stream is compared rule against rule.

`IpPacketLength` is given a pointer and the number of bytes behind it: here, the
list of these bytes.

A stream is taken apart from its front, so two readers agree on a stream when they agree on
every front that a stream can have.  They do on whole packets (`relay_recovers_packets`); on
what is no packet they differ in when they notice it, and `decideAlike_iff` says on which
fronts.

The stream may come in pieces of any size.  The app keeps what is left of an incomplete packet
in `incoming`, and the loop over it is bounded here by the number of its bytes, as each round
removes a packet.
-/

namespace ReverseTether

open Library

/-! ## The functions of the app -/

/-- The shortest IPv4 header, which is what the app asks for before it looks at the lengths. -/
def kIpv4HeaderLength : ℕ := 20

/-- The fixed IPv6 header, without any extension. -/
def kIpv6HeaderLength : ℕ := 40

/-- Total on-the-wire size of the packet that starts at `data`: `none` for a malformed
packet, `0` when the header itself has not been fully buffered yet. -/
def ipPacketLength (data : List UInt8) : Option ℕ :=
  let version := getByte data 0 >>> 4
  if version = 4 then
    if data.length < kIpv4HeaderLength then some 0
    else
      let header := (getByte data 0 &&& 15).toNat * 4
      let total := (getU16 data 2).toNat
      if header < kIpv4HeaderLength ∨ total < header then none
      else some total
  else if version = 6 then
    if data.length < kIpv6HeaderLength then some 0
    else some (kIpv6HeaderLength + (getU16 data 4).toNat)
  else none

/-- Validate a packet read from the tun device before forwarding it to the relay. -/
def isWellFormedIpPacket (data : List UInt8) : Bool :=
  if data.length < 4 then false
  else
    let version := getByte data 0 >>> 4
    if version = 4 then
      if data.length < kIpv4HeaderLength then false
      else
        let header := (getByte data 0 &&& 15).toNat * 4
        if header < kIpv4HeaderLength ∨ data.length < header then false
        else (getU16 data 2).toNat = data.length
    else if version = 6 then
      if data.length < kIpv6HeaderLength then false
      else kIpv6HeaderLength + (getU16 data 4).toNat = data.length
    else false

/-- The version of a packet, which decides whether the mode of the tunnel lets it through. -/
def isIpv6 (data : List UInt8) : Bool := 1 ≤ data.length ∧ getByte data 0 >>> 4 = 6

/-- The packets at the front of what was received, until a front is incomplete or
malformed: the packets, what is left, and whether the receive loop failed.  The loop is
bounded by the bytes it has. -/
def receiveLoop : ℕ → List UInt8 → List (List UInt8) × List UInt8 × Bool
  | 0, incoming => ([], incoming, false)
  | rounds + 1, incoming =>
      if 4 ≤ incoming.length then
        match ipPacketLength incoming with
        | none => ([], incoming, true)
        | some length =>
            if length = 0 then
              -- header not fully buffered yet
              ([], incoming, false)
            else if incoming.length < length then ([], incoming, false)
            else
              let (packets, left, failed) := receiveLoop rounds (incoming.drop length)
              (incoming.take length :: packets, left, failed)
      else ([], incoming, false)

/-- The receive loop on what is in `incoming`; a round takes at least one byte, so the bound is
never met. -/
def receivePackets (incoming : List UInt8) : List (List UInt8) × List UInt8 × Bool :=
  receiveLoop (incoming.length + 1) incoming

/-! ## Both readers as length rules -/

/-- What the app makes of a front. -/
def appJudge (data : List UInt8) : Option (Option ℕ) :=
  if 4 ≤ data.length then
    match ipPacketLength data with
    | none => none
    | some length => if length = 0 ∨ data.length < length then some none else some (some length)
  else some none

/-- What the relay makes of a front. -/
def relayJudge (data : List UInt8) : Option (Option ℕ) :=
  match frontPacketLength data with
  | .error _ => none
  | .ok length => some length

/-- An IPv4 packet says its length in its header, once all 20 bytes of it are there. -/
theorem ipPacketLength_ipv4 {data : List UInt8} (version : getByte data 0 >>> 4 = 4) :
    ipPacketLength data =
      if data.length < 20 then some 0
      else if (getByte data 0 &&& 15).toNat * 4 < 20 ∨
          (getU16 data 2).toNat < (getByte data 0 &&& 15).toNat * 4 then none
      else some (getU16 data 2).toNat := if_pos version

/-- An IPv6 packet says the length of its payload, once its 40 bytes are there. -/
theorem ipPacketLength_ipv6 {data : List UInt8} (version : getByte data 0 >>> 4 = 6) :
    ipPacketLength data =
      if data.length < 40 then some 0 else some (40 + (getU16 data 4).toNat) := by
  rw [ipPacketLength, if_neg (by rw [version]; decide), if_pos version]
  rfl

/-- There are no other versions. -/
theorem ipPacketLength_other {data : List UInt8} (four : getByte data 0 >>> 4 ≠ 4)
    (six : getByte data 0 >>> 4 ≠ 6) : ipPacketLength data = none := by
  rw [ipPacketLength, if_neg four, if_neg six]

/-- An answer of `IpPacketLength` other than `0` does not change when more bytes arrive. -/
theorem ipPacketLength_append {data : List UInt8} (known : ipPacketLength data ≠ some 0)
    (long : 4 ≤ data.length) (more : List UInt8) :
    ipPacketLength (data ++ more) = ipPacketLength data := by
  have byte : getByte (data ++ more) 0 = getByte data 0 := getByte_append_left (by omega)
  have longer : data.length ≤ (data ++ more).length := by
    rw [List.length_append]
    omega
  by_cases four : getByte data 0 >>> 4 = 4
  · rw [ipPacketLength_ipv4 four] at known ⊢
    rw [ipPacketLength_ipv4 (by rwa [byte]), byte]
    by_cases short : data.length < 20
    · exact absurd (if_pos short) known
    · rw [if_neg short, if_neg (by omega), getU16_append_left (by omega)]
  · by_cases six : getByte data 0 >>> 4 = 6
    · rw [ipPacketLength_ipv6 six] at known ⊢
      rw [ipPacketLength_ipv6 (by rwa [byte])]
      by_cases short : data.length < 40
      · exact absurd (if_pos short) known
      · rw [if_neg short, if_neg (by omega), getU16_append_left (by omega)]
    · rw [ipPacketLength_other four six, ipPacketLength_other (by rwa [byte]) (by rwa [byte])]

/-- The app frames a packet when at least four bytes are there and the packet is complete. -/
theorem appJudge_eq_item {data : List UInt8} {n : ℕ} :
    appJudge data = some (some n) ↔
      4 ≤ data.length ∧ ipPacketLength data = some n ∧ n ≠ 0 ∧ n ≤ data.length := by
  unfold appJudge
  split
  · rename_i long
    split
    · rename_i rejected
      rw [rejected]
      exact ⟨nofun, fun h => nomatch h.2.1⟩
    · rename_i length known
      rw [known]
      split
      · rename_i more
        constructor
        · nofun
        · rintro ⟨-, same, nonzero, inside⟩
          cases same
          rcases more with zero | short
          · exact absurd zero nonzero
          · omega
      · rename_i enough
        rw [not_or] at enough
        constructor
        · intro same
          cases same
          exact ⟨long, rfl, enough.1, by omega⟩
        · rintro ⟨-, same, -, -⟩
          cases same
          rfl
  · rename_i short
    exact ⟨nofun, fun h => absurd h.1 short⟩

/-- It rejects a front of at least four bytes without a length. -/
theorem appJudge_eq_none {data : List UInt8} :
    appJudge data = none ↔ 4 ≤ data.length ∧ ipPacketLength data = none := by
  unfold appJudge
  split
  · rename_i long
    split
    · rename_i rejected
      exact ⟨fun _ => ⟨long, rejected⟩, fun _ => rfl⟩
    · rename_i length known
      rw [known]
      refine ⟨fun h => ?_, fun h => nomatch h.2⟩
      split at h <;> cases h
  · rename_i short
    exact ⟨nofun, fun h => absurd h.1 short⟩

/-- **The receive loop of the app**, as a rule. -/
def appRule : LengthRule UInt8 where
  judge := appJudge
  judge_nil := rfl
  pos known := Nat.pos_of_ne_zero (appJudge_eq_item.mp known).2.2.1
  le known := (appJudge_eq_item.mp known).2.2.2
  append {data} known more := by
    by_cases rejected : appJudge data = none
    · obtain ⟨long, none⟩ := appJudge_eq_none.mp rejected
      rw [rejected]
      refine appJudge_eq_none.mpr ⟨?_, ?_⟩
      · rw [List.length_append]
        omega
      · rw [ipPacketLength_append (by rw [none]; exact nofun) long, none]
    · obtain ⟨n, item⟩ : ∃ n, appJudge data = some (some n) := by
        cases h : appJudge data with
        | none => exact absurd h rejected
        | some more =>
            cases more with
            | none => exact absurd h known
            | some n => exact ⟨n, rfl⟩
      obtain ⟨long, length, nonzero, inside⟩ := appJudge_eq_item.mp item
      rw [item]
      refine appJudge_eq_item.mpr ⟨?_, ?_, nonzero, ?_⟩
      · rw [List.length_append]
        omega
      · rw [ipPacketLength_append (by rw [length]; exact fun h => nonzero (Option.some.inj h)) long,
          length]
      · rw [List.length_append]
        omega

/-- The rule of the relay is its function, where that returns. -/
theorem relayJudge_eq {data : List UInt8} {r : Option ℕ} :
    relayJudge data = some r ↔ frontPacketLength data = .ok r := by
  unfold relayJudge
  split
  · rename_i failed
    rw [failed]
    exact ⟨nofun, nofun⟩
  · rename_i length known
    rw [known]
    exact ⟨fun h => by cases h; rfl, fun h => by cases h; rfl⟩

/-- The relay rejects what it calls malformed. -/
theorem relayJudge_eq_none {data : List UInt8} :
    relayJudge data = none ↔ ∃ reason, frontPacketLength data = .error (.malformed reason) := by
  unfold relayJudge
  split
  · rename_i err failed
    refine ⟨fun _ => ?_, fun _ => rfl⟩
    cases err with
    | malformed reason => exact ⟨reason, failed⟩
    | unsupported reason => exact absurd failed (frontPacketLength_ne_unsupported _ _)
  · rename_i length known
    rw [known]
    exact ⟨nofun, fun h => nomatch h⟩

/-- **The framing of the relay**, as a rule. -/
def relayRule : LengthRule UInt8 where
  judge := relayJudge
  judge_nil := rfl
  pos known := Nat.lt_of_lt_of_le (by decide) (frontPacketLength_bounds (relayJudge_eq.mp known)).1
  le known := (frontPacketLength_bounds (relayJudge_eq.mp known)).2
  append {data} known more := by
    unfold relayJudge
    rw [frontPacketLength_append fun complete => known (relayJudge_eq.mpr complete)]

/-! ## What the two make of a stream -/

/-- What the receive loop extracts, leaves and fails on is what its rule says. -/
theorem receiveLoop_eq {rounds : ℕ} {incoming : List UInt8} (enough : incoming.length < rounds) :
    receiveLoop rounds incoming = (appRule.cut incoming, appRule.left incoming,
      decide (appJudge (appRule.left incoming) = none)) := by
  induction rounds generalizing incoming with
  | zero => omega
  | succ rounds ih =>
      by_cases item : ∃ n, appJudge incoming = some (some n)
      · obtain ⟨n, item⟩ := item
        obtain ⟨long, known, nonzero, inside⟩ := appJudge_eq_item.mp item
        obtain ⟨cut, left⟩ := LengthRule.cut_of_item (R := appRule) item
        rw [receiveLoop, if_pos long, known]
        simp only [if_neg nonzero, if_neg (not_lt.mpr inside)]
        rw [ih (by rw [List.length_drop]; omega), cut, left]
      · rw [not_exists] at item
        obtain ⟨cut, left⟩ := LengthRule.cut_of_not_item (R := appRule) item
        rw [cut, left, receiveLoop]
        split
        · rename_i long
          split
          · rename_i rejected
            rw [decide_eq_true (appJudge_eq_none.mpr ⟨long, rejected⟩)]
          · rename_i length known
            have accepted : appJudge incoming ≠ none := by
              intro rejected
              rw [(appJudge_eq_none.mp rejected).2] at known
              cases known
            rw [decide_eq_false accepted]
            split
            · rfl
            · rename_i nonzero
              split
              · rfl
              · rename_i inside
                exact absurd (appJudge_eq_item.mpr ⟨long, known, nonzero, not_lt.mp inside⟩)
                  (item length)
        · rename_i short
          rw [decide_eq_false fun rejected => short (appJudge_eq_none.mp rejected).1]

/-! ## Complete packets -/

/-- The bytes of one packet, of the length it announces: neither cut off nor with anything behind
it. -/
def IsPacket (raw : List UInt8) : Prop :=
  (getByte raw 0 >>> 4 = 4 ∧ 20 ≤ (getByte raw 0 &&& 15).toNat * 4 ∧
      (getByte raw 0 &&& 15).toNat * 4 ≤ raw.length ∧ (getU16 raw 2).toNat = raw.length) ∨
    (getByte raw 0 >>> 4 = 6 ∧ 40 + (getU16 raw 4).toNat = raw.length)

/-- What the app checks before it forwards a packet. -/
theorem isWellFormedIpPacket_iff {raw : List UInt8} :
    isWellFormedIpPacket raw = true ↔ IsPacket raw := by
  unfold isWellFormedIpPacket IsPacket
  by_cases four : getByte raw 0 >>> 4 = 4
  · simp only [four]
    constructor
    · intro h
      split at h
      · cases h
      · simp only [if_true] at h
        split at h
        · cases h
        · split at h
          · cases h
          · rename_i header
            rw [not_or, kIpv4HeaderLength] at header
            exact .inl ⟨trivial, by omega, by omega, of_decide_eq_true h⟩
    · rintro (⟨-, long, inside, total⟩ | ⟨six, -⟩)
      · rw [if_neg (by omega), if_pos trivial, if_neg (by rw [kIpv4HeaderLength]; omega),
          if_neg (by rw [kIpv4HeaderLength]; omega)]
        exact decide_eq_true total
      · exact absurd six (by decide)
  · by_cases six : getByte raw 0 >>> 4 = 6
    · simp only [six]
      constructor
      · intro h
        split at h
        · cases h
        · rw [if_neg (by decide), if_pos trivial] at h
          split at h
          · cases h
          · exact .inr ⟨trivial, of_decide_eq_true h⟩
      · rintro (⟨four, -⟩ | ⟨-, total⟩)
        · exact absurd four (by decide)
        · rw [if_neg (by omega), if_neg (by decide), if_pos trivial,
            if_neg (by rw [kIpv6HeaderLength]; omega)]
          exact decide_eq_true total
    · simp [four, six]

/-- Bytes with a version are not empty. -/
theorem nonempty_of_version {raw : List UInt8} {version : UInt8} (h : getByte raw 0 >>> 4 = version)
    (nonzero : version ≠ 0) : raw ≠ [] := by
  rintro rfl
  exact nonzero (h.symm.trans rfl)

/-- What the relay takes off its stream, by the version of the front. -/
theorem relayJudge_item_iff {raw : List UInt8} {n : ℕ} :
    relayJudge raw = some (some n) ↔
      (getByte raw 0 >>> 4 = 4 ∧ 20 ≤ (getByte raw 0 &&& 15).toNat * 4 ∧
          (getByte raw 0 &&& 15).toNat * 4 ≤ n ∧ (getU16 raw 2).toNat = n ∧ n ≤ raw.length) ∨
        (getByte raw 0 >>> 4 = 6 ∧ 40 + (getU16 raw 4).toNat = n ∧ n ≤ raw.length) := by
  rw [relayJudge_eq]
  by_cases nonempty : raw = []
  · rw [nonempty]
    refine ⟨nofun, ?_⟩
    rintro (⟨version, -⟩ | ⟨version, -⟩)
    · exact absurd version (by decide)
    · exact absurd version (by decide)
  by_cases four : getByte raw 0 >>> 4 = 4
  · rw [frontPacketLength_ipv4 nonempty four]
    constructor
    · intro h
      split at h
      · cases h
      · split at h
        · cases h
        · split at h
          · cases h
          · cases h
            exact .inl ⟨four, by omega, by omega, rfl, by omega⟩
    · rintro (⟨-, long, header, total, inside⟩ | ⟨six, -⟩)
      · rw [if_neg (by omega), if_neg (by omega), if_neg (by omega), total]
      · exact absurd (four.symm.trans six) (by decide)
  · by_cases six : getByte raw 0 >>> 4 = 6
    · rw [frontPacketLength_ipv6 nonempty six]
      constructor
      · intro h
        split at h
        · cases h
        · split at h
          · cases h
          · cases h
            exact .inr ⟨six, rfl, by omega⟩
      · rintro (⟨version, -⟩ | ⟨-, total, inside⟩)
        · exact absurd version four
        · rw [if_neg (by omega), if_neg (by omega), total]
    · rw [frontPacketLength_other nonempty four six]
      refine ⟨nofun, ?_⟩
      rintro (⟨version, -⟩ | ⟨version, -⟩)
      · exact absurd version four
      · exact absurd version six

/-- **A packet is what the relay frames whole.**  The judge sees the front of the stream and says
nothing while bytes are missing, so that a packet is recognized with its last byte and not before.
-/
theorem relayJudge_isPacket {raw : List UInt8} :
    relayJudge raw = some (some raw.length) ↔ IsPacket raw := by
  rw [relayJudge_item_iff]
  constructor
  · rintro (⟨version, long, header, total, -⟩ | ⟨version, total, -⟩)
    · exact .inl ⟨version, long, header, total⟩
    · exact .inr ⟨version, total⟩
  · rintro (⟨version, long, header, total⟩ | ⟨version, total⟩)
    · exact .inl ⟨version, long, header, total, le_rfl⟩
    · exact .inr ⟨version, total, le_rfl⟩

/-- **Every packet boundary is recovered.**  What the app wrote, packet after packet, the relay
takes apart again.  The only conditions are those that the app checks before it writes a packet,
and versions and lengths may be mixed in any way.  Nothing is left behind the last packet, so that
the next one starts at a boundary again. -/
theorem relay_recovers_packets (packets : List (List UInt8))
    (forwarded : ∀ packet ∈ packets, isWellFormedIpPacket packet = true ∧ packet.length ≤ 65535) :
    relayRule.cut packets.flatten = packets ∧ relayRule.left packets.flatten = [] := by
  have each : ∀ packet ∈ packets, relayRule.judge packet = some (some packet.length) :=
    fun packet mem => relayJudge_isPacket.mpr (isWellFormedIpPacket_iff.mp (forwarded packet mem).1)
  obtain ⟨cut, left⟩ := LengthRule.cut_flatten_append each []
  obtain ⟨none, empty⟩ := @LengthRule.cut_of_not_item _ relayRule [] fun n known => by
    rw [relayRule.judge_nil] at known
    cases known
  rw [List.append_nil] at cut left
  rw [cut, left, none, empty, List.append_nil]
  exact ⟨rfl, rfl⟩

/-- A header without options, a datagram of an IPv6 flow, one of an IPv4 flow. -/
def mixedPackets : List (List UInt8) :=
  [[0x45, 0, 0, 20, 0, 0, 0, 0, 64, 0, 0, 0, 10, 0, 0, 2, 10, 0, 0, 1],
    [0x60, 0, 0, 0, 0, 9, 17, 64, 0x20, 1, 0xd, 0xb8, 0, 0, 0, 0, 0, 0, 0, 0, 0, 0, 0, 1,
      0x20, 1, 0xd, 0xb8, 0, 0, 0, 0, 0, 0, 0, 0, 0, 0, 0, 2] ++ [0x12, 0x34, 0, 53, 0, 9, 0, 0, 0x62],
    [0x45, 0, 0, 29, 0, 0, 0, 0, 64, 17, 0, 0, 10, 0, 0, 1, 10, 0, 0, 2] ++
      [0x12, 0x34, 0, 53, 0, 9, 0, 0, 0x61]]

/-- An IPv4 and two IPv6 packets, of 20, 49 and 29 bytes, are recovered one by one. -/
theorem relay_recovers_packets_mixed :
    mixedPackets.map List.length = [20, 49, 29] ∧
      relayRule.cut mixedPackets.flatten = mixedPackets ∧ relayRule.left mixedPackets.flatten = [] :=
  ⟨rfl, relay_recovers_packets mixedPackets (by decide)⟩

/-! ## Where the two readers differ -/

/-- A front that the relay rejects and the app does not yet.  Either no version is known, or the
length of an IPv4 header is wrong; the app looks at neither before it has as many bytes as a header
has. -/
def RejectedLate (raw : List UInt8) : Prop :=
  (0 < raw.length ∧ raw.length < 4 ∧ getByte raw 0 >>> 4 ≠ 4 ∧ getByte raw 0 >>> 4 ≠ 6) ∨
    (4 ≤ raw.length ∧ raw.length < 20 ∧ getByte raw 0 >>> 4 = 4 ∧
      ((getByte raw 0 &&& 15).toNat * 4 < 20 ∨
        (getU16 raw 2).toNat < (getByte raw 0 &&& 15).toNat * 4))

/-- Both readers take the same packets off a front. -/
theorem judges_item {raw : List UInt8} {n : ℕ} :
    relayJudge raw = some (some n) ↔ appJudge raw = some (some n) := by
  rw [relayJudge_item_iff, appJudge_eq_item]
  by_cases four : getByte raw 0 >>> 4 = 4
  · rw [ipPacketLength_ipv4 four]
    constructor
    · rintro (⟨-, long, header, total, inside⟩ | ⟨six, -⟩)
      · rw [if_neg (by omega), if_neg (by omega), total]
        exact ⟨by omega, rfl, by omega, inside⟩
      · exact absurd (four.symm.trans six) (by decide)
    · rintro ⟨long, known, nonzero, inside⟩
      split at known
      · cases known
        exact absurd rfl nonzero
      · split at known
        · cases known
        · cases known
          exact .inl ⟨four, by omega, by omega, rfl, inside⟩
  · by_cases six : getByte raw 0 >>> 4 = 6
    · rw [ipPacketLength_ipv6 six]
      constructor
      · rintro (⟨version, -⟩ | ⟨-, total, inside⟩)
        · exact absurd version four
        · rw [if_neg (by omega), total]
          exact ⟨by omega, rfl, by omega, inside⟩
      · rintro ⟨long, known, nonzero, inside⟩
        split at known
        · cases known
          exact absurd rfl nonzero
        · cases known
          exact .inr ⟨six, rfl, inside⟩
    · rw [ipPacketLength_other four six]
      constructor
      · rintro (⟨version, -⟩ | ⟨version, -⟩)
        · exact absurd version four
        · exact absurd version six
      · rintro ⟨-, known, -⟩
        cases known

/-- What the relay rejects, the app rejects too, or rejects later. -/
theorem judges_reject {raw : List UInt8} :
    relayJudge raw = none ↔ appJudge raw = none ∨ RejectedLate raw := by
  rw [relayJudge_eq_none, appJudge_eq_none, RejectedLate]
  by_cases nonempty : raw = []
  · rw [nonempty]
    constructor
    · rintro ⟨reason, known⟩
      cases known
    · rintro (⟨long, -⟩ | ⟨long, -⟩ | ⟨long, -⟩)
      · exact absurd long (by decide)
      · exact absurd long (by decide)
      · exact absurd long (by decide)
  have pos := List.length_pos_of_ne_nil nonempty
  by_cases four : getByte raw 0 >>> 4 = 4
  · rw [frontPacketLength_ipv4 nonempty four, ipPacketLength_ipv4 four]
    constructor
    · rintro ⟨reason, known⟩
      split at known
      · cases known
      · rename_i long
        split at known
        · rename_i bad
          by_cases short : raw.length < 20
          · exact .inr (.inr ⟨by omega, short, four, bad⟩)
          · refine .inl ⟨by omega, ?_⟩
            rw [if_neg short, if_pos bad]
        · split at known <;> cases known
    · rintro (⟨long, known⟩ | ⟨-, -, version, -⟩ | ⟨long, -, -, bad⟩)
      · split at known
        · cases known
        · split at known
          · rename_i bad
            rw [if_neg (by omega), if_pos bad]
            exact ⟨_, rfl⟩
          · cases known
      · exact absurd four version
      · rw [if_neg (by omega), if_pos bad]
        exact ⟨_, rfl⟩
  · by_cases six : getByte raw 0 >>> 4 = 6
    · rw [frontPacketLength_ipv6 nonempty six, ipPacketLength_ipv6 six]
      constructor
      · rintro ⟨reason, known⟩
        split at known
        · cases known
        · split at known <;> cases known
      · rintro (⟨-, known⟩ | ⟨-, -, -, version⟩ | ⟨-, -, version, -⟩)
        · split at known <;> cases known
        · exact absurd six version
        · exact absurd version four
    · rw [frontPacketLength_other nonempty four six, ipPacketLength_other four six]
      constructor
      · intro _
        by_cases long : 4 ≤ raw.length
        · exact .inl ⟨long, rfl⟩
        · exact .inr (.inl ⟨pos, by omega, four, six⟩)
      · intro _
        exact ⟨_, rfl⟩

/-- What is rejected late is not rejected yet. -/
theorem RejectedLate.appJudge_ne_none {raw : List UInt8} (late : RejectedLate raw) :
    appJudge raw ≠ none := by
  intro rejected
  obtain ⟨long, known⟩ := appJudge_eq_none.mp rejected
  rcases late with ⟨-, short, -⟩ | ⟨-, short, four, -⟩
  · omega
  · rw [ipPacketLength_ipv4 four, if_pos short] at known
    cases known

/-- Whether what is behind the complete packets of a stream is rejected late. -/
def EndsRejectedLate (received : List UInt8) : Prop :=
  ∃ packets rest, received = List.flatten packets ++ rest ∧ (∀ packet ∈ packets, IsPacket packet) ∧
    RejectedLate rest

/-- A stream that is rejected late is one whose last front is. -/
theorem endsRejectedLate_iff {received : List UInt8} :
    EndsRejectedLate received ↔ RejectedLate (relayRule.left received) := by
  constructor
  · rintro ⟨packets, rest, rfl, complete, late⟩
    obtain ⟨-, left⟩ := LengthRule.cut_flatten_append (R := relayRule)
      (fun packet mem => relayJudge_isPacket.mpr (complete packet mem)) rest
    have rejected : relayJudge rest = none := judges_reject.mpr (.inr late)
    have whole : relayRule.left rest = rest :=
      (LengthRule.cut_of_not_item fun n known => by cases rejected.symm.trans known).2
    rwa [left, whole]
  · intro late
    refine ⟨_, _, (relayRule.cut_left received).1.symm, fun packet mem => ?_, late⟩
    refine relayJudge_isPacket.mp (LengthRule.judge_of_mem_cut ?_ received mem)
    intro raw n known
    have inside := (frontPacketLength_bounds (relayJudge_eq.mp known)).2
    have long := (frontPacketLength_bounds (relayJudge_eq.mp known)).1
    rcases relayJudge_item_iff.mp known with ⟨version, header, order, total, -⟩ | ⟨version, total, -⟩
    · refine relayJudge_item_iff.mpr (.inl ?_)
      rw [getByte_take (by omega), getU16_take (by omega), List.length_take_of_le inside]
      exact ⟨version, header, order, total, le_rfl⟩
    · refine relayJudge_item_iff.mpr (.inr ?_)
      rw [getByte_take (by omega), getU16_take (by omega), List.length_take_of_le inside]
      exact ⟨version, total, le_rfl⟩

/-- The two decide alike: they extract the same packets, and the app fails exactly
when the relay calls what is left malformed. -/
def DecideAlike (received : List UInt8) : Prop :=
  (receivePackets received).1 = relayRule.cut received ∧
    ((receivePackets received).2.2 = true ↔
      ∃ reason, frontPacketLength (relayRule.left received) = .error (.malformed reason))

/-- **The app decides like the relay, unless the end is rejected late.**  The two readers cut
packets at the same places, so that they can differ only in what is left at the end: a front that
the relay rejects at once and the app still waits for. -/
theorem decideAlike_iff (received : List UInt8) :
    DecideAlike received ↔ ¬ EndsRejectedLate received := by
  obtain ⟨cut, left⟩ := LengthRule.cut_congr (R := relayRule) (S := appRule)
    (fun _ _ => judges_item) received
  rw [DecideAlike, endsRejectedLate_iff, receivePackets,
    receiveLoop_eq (Nat.lt_succ_self _), ← relayJudge_eq_none, judges_reject, cut, left]
  simp only [decide_eq_true_eq, true_and]
  constructor
  · intro alike late
    exact late.appJudge_ne_none (alike.mpr (.inr late))
  · intro early
    exact ⟨.inl, fun rejected => rejected.resolve_right early⟩

/-- Four bytes of an IPv6 packet: both readers wait for more. -/
theorem decideAlike_iff_four_bytes :
    4 ≤ [0x65, 0, 0, 1].length ∧ DecideAlike [0x65, 0, 0, 1] := by
  refine ⟨by decide, (decideAlike_iff [0x65, 0, 0, 1]).mpr ?_⟩
  have waits : relayJudge [0x65, 0, 0, 1] = some none := rfl
  have whole : relayRule.left [0x65, 0, 0, 1] = [0x65, 0, 0, 1] :=
    (LengthRule.cut_of_not_item fun n known => by cases waits.symm.trans known).2
  rw [endsRejectedLate_iff, whole]
  rintro (⟨-, short, -⟩ | ⟨-, -, four, -⟩)
  · exact absurd short (by decide)
  · exact absurd four (by decide)

/-- Four bytes of an IPv4 header with a total length of one byte: the relay rejects them, the app
waits.  The app looks at no length before it has the 20 bytes of a header. -/
theorem not_decideAlike_four_bytes : ¬ DecideAlike [0x45, 0, 0, 1] := by
  have rejected : relayJudge [0x45, 0, 0, 1] = none := rfl
  have whole : relayRule.left [0x45, 0, 0, 1] = [0x45, 0, 0, 1] :=
    (LengthRule.cut_of_not_item fun n known => by cases rejected.symm.trans known).2
  have waits : (receivePackets [0x45, 0, 0, 1]).2.2 = false := rfl
  rintro ⟨-, alike⟩
  rw [whole, ← relayJudge_eq_none, waits] at alike
  exact absurd (alike.mpr rejected) (by decide)

end ReverseTether
