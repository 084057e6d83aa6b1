import ReverseTether.IpPacketBuffer
import ReverseTether.Library.Framing
import ReverseTether.Library.Machine

/-!
# Draining the client's input

After every successful read the client hands over whatever packets are complete,
one after the other.  The loop is the same whatever routing a packet does, so
what it does to the rest of the client is a parameter, `PacketHandlers`.

The abstract side is `packets`, the framing of a byte stream into verdicts: a
packet to route, a packet to drop, or a front that closes the client.  It says
what decoding a whole stream means, with no buffer in it.  A run of reads of any
sizes hands out the verdicts of the bytes read so far (`Feed.run_decodes`).

Two bounds are proved of the loop on the way.  A round that hands out a packet takes at least
20 bytes off the front, since no header is shorter, so there are no more rounds than the
buffer has room for; and a buffer whose front is incomplete always has room for the rest of
it, so a read is never asked to take nothing.

`PacketHandlers` may fail, and a failure ends the loop where it is.  For handlers that only
record what they are given the loop is the decoder, and this is the instance that the other
modules compare theirs with.
-/

namespace ReverseTether

open Library

/-- What becomes of the front of the client's stream: a packet for the router, one that is dropped,
or the end of the client. -/
inductive Verdict
  | routed (packet : IpPacket)
  | dropped (reason : UnsupportedPacket)
  /-- The client is closed. -/
  | closed (reason : PacketParseError)
  deriving DecidableEq, Repr

/-- Only a malformed front ends the stream: what the relay does not support is skipped, and the
loop goes on behind it. -/
def Verdict.closes : Verdict → Bool
  | .closed _ => true
  | _ => false

/-- What the loop does to the state `σ` of the client outside its input
buffer. -/
structure PacketHandlers (σ : Type) where
  route : IpPacket → σ → Outcome σ
  drop : UnsupportedPacket → σ → σ
  close : PacketParseError → σ → Outcome σ

section Loop

variable {σ : Type} (handlers : PacketHandlers σ)

/-- The returned flag tells the loop to go on. -/
def pushOnePacketToNetwork (buffer : IpPacketBuffer) (s : σ) : Outcome (Bool × σ) := do
  match ← buffer.packet with
  | .ok (some packet) => return (true, ← handlers.route packet s)
  | .ok none => return (false, s)
  | .error (.unsupported reason) => return (true, handlers.drop reason s)
  | .error (.malformed reason) => return (false, ← handlers.close (.malformed reason) s)

/-- The loop, with a bound on its rounds. -/
def pushToNetworkLoop : ℕ → IpPacketBuffer → σ → Outcome (IpPacketBuffer × σ)
  | 0, _, _ => .error .divergence
  | rounds + 1, buffer, s => do
      match ← pushOnePacketToNetwork handlers buffer s with
      | (false, s) => return (buffer, s)
      | (true, s) =>
          match ← buffer.next with
          | (.ok true, buffer) => pushToNetworkLoop rounds buffer s
          | (.ok false, buffer) => return (buffer, s)
          | (.error err, buffer) => return (buffer, ← handlers.close err s)

/-- The loop is bounded by the bytes buffered; it never uses that bound up
(`pushToNetwork_decodes`). -/
def pushToNetwork (buffer : IpPacketBuffer) (s : σ) : Outcome (IpPacketBuffer × σ) :=
  pushToNetworkLoop handlers (buffer.peek.length + 1) buffer s

end Loop

/-! ## The framing of a client stream -/

/-- The length of a front packet is at least 20 and inside the buffer. -/
theorem frontPacketLength_bounds {raw : List UInt8} {n : ℕ}
    (h : frontPacketLength raw = .ok (some n)) : 20 ≤ n ∧ n ≤ raw.length := by
  unfold frontPacketLength at h
  split at h
  · cases h
  · split at h
    · split at h
      · cases h
      · simp only at h
        split at h
        · cases h
        · split at h
          · cases h
          · cases h
            omega
    · split at h
      · split at h
        · cases h
        · simp only at h
          split at h
          · cases h
          · cases h
            omega
      · cases h

/-- The front alone never makes a packet unsupported. -/
theorem frontPacketLength_ne_unsupported (raw : List UInt8) (reason : UnsupportedPacket) :
    frontPacketLength raw ≠ .error (.unsupported reason) := by
  intro h
  unfold frontPacketLength at h
  split at h
  · cases h
  · split at h
    · split at h
      · cases h
      · simp only at h
        split at h
        · cases h
        · split at h <;> cases h
    · split at h
      · split at h
        · cases h
        · simp only at h
          split at h <;> cases h
      · cases h

/-- What the relay makes of an IPv4 front. -/
theorem frontPacketLength_ipv4 {raw : List UInt8} (nonempty : raw ≠ [])
    (version : getByte raw 0 >>> 4 = 4) :
    frontPacketLength raw =
      if raw.length < 4 then .ok none
      else if (getByte raw 0 &&& 15).toNat * 4 < 20 ∨
          (getU16 raw 2).toNat < (getByte raw 0 &&& 15).toNat * 4 then
        .error (.malformed "invalid IPv4 packet length")
      else if raw.length < (getU16 raw 2).toNat then .ok none
      else .ok (some (getU16 raw 2).toNat) := by
  rw [frontPacketLength, if_neg (by rwa [List.isEmpty_iff]), if_pos version]

/-- What it makes of an IPv6 front. -/
theorem frontPacketLength_ipv6 {raw : List UInt8} (nonempty : raw ≠ [])
    (version : getByte raw 0 >>> 4 = 6) :
    frontPacketLength raw =
      if raw.length < 6 then .ok none
      else if raw.length < 40 + (getU16 raw 4).toNat then .ok none
      else .ok (some (40 + (getU16 raw 4).toNat)) := by
  rw [frontPacketLength, if_neg (by rwa [List.isEmpty_iff]),
    if_neg (by rw [version]; decide), if_pos version]

/-- What it makes of any other. -/
theorem frontPacketLength_other {raw : List UInt8} (nonempty : raw ≠ [])
    (four : getByte raw 0 >>> 4 ≠ 4) (six : getByte raw 0 >>> 4 ≠ 6) :
    frontPacketLength raw = .error (.malformed "unsupported IP version") := by
  rw [frontPacketLength, if_neg (by rwa [List.isEmpty_iff]), if_neg four, if_neg six]

/-- **An answer about the front does not change when more bytes arrive.**  Both the length and the
rejection depend on the first bytes alone.  This makes the framing of the relay a prefix code, for
which the library shows that chunks do not matter. -/
theorem frontPacketLength_append {raw : List UInt8} (known : frontPacketLength raw ≠ .ok none)
    (more : List UInt8) : frontPacketLength (raw ++ more) = frontPacketLength raw := by
  have nonempty : raw ≠ [] := by
    rintro rfl
    exact known rfl
  have nonempty' : raw ++ more ≠ [] := List.append_ne_nil_of_left_ne_nil nonempty more
  have longer : raw.length ≤ (raw ++ more).length := by
    rw [List.length_append]
    omega
  have byte : getByte (raw ++ more) 0 = getByte raw 0 :=
    getByte_append_left (List.length_pos_of_ne_nil nonempty)
  by_cases four : getByte raw 0 >>> 4 = 4
  · rw [frontPacketLength_ipv4 nonempty four] at known ⊢
    rw [frontPacketLength_ipv4 nonempty' (by rwa [byte]), byte]
    by_cases short : raw.length < 4
    · exact absurd (if_pos short) known
    · rw [if_neg short] at known ⊢
      rw [if_neg (by omega), getU16_append_left (by omega)]
      split at known
      · rename_i bad
        rw [if_pos bad, if_pos bad]
      · rename_i good
        split at known
        · exact absurd rfl known
        · rw [if_neg good, if_neg good, if_neg (by omega), if_neg (by omega)]
  · by_cases six : getByte raw 0 >>> 4 = 6
    · rw [frontPacketLength_ipv6 nonempty six] at known ⊢
      rw [frontPacketLength_ipv6 nonempty' (by rwa [byte])]
      by_cases short : raw.length < 6
      · exact absurd (if_pos short) known
      · rw [if_neg short] at known ⊢
        rw [if_neg (by omega), getU16_append_left (by omega)]
        split at known
        · exact absurd rfl known
        · rw [if_neg (by omega), if_neg (by omega)]
    · rw [frontPacketLength_other nonempty four six,
        frontPacketLength_other nonempty' (by rwa [byte]) (by rwa [byte])]

/-- An incomplete packet is shorter than the longest one. -/
theorem length_lt_of_incomplete {raw : List UInt8} (h : frontPacketLength raw = .ok none) :
    raw.length < maxIpPacketLength := by
  have most : maxIpPacketLength = 65575 := rfl
  by_cases nonempty : raw = []
  · rw [nonempty]
    decide
  by_cases four : getByte raw 0 >>> 4 = 4
  · have total := (getU16 raw 2).toNat_lt
    rw [frontPacketLength_ipv4 nonempty four] at h
    split at h
    · omega
    · split at h
      · cases h
      · split at h
        · omega
        · cases h
  · by_cases six : getByte raw 0 >>> 4 = 6
    · have payload := (getU16 raw 4).toNat_lt
      rw [frontPacketLength_ipv6 nonempty six] at h
      split at h
      · omega
      · split at h
        · omega
        · cases h
    · rw [frontPacketLength_other nonempty four six] at h
      cases h

/-- What parsing a complete front packet of `n` bytes amounts to. -/
def verdictOf (n : ℕ) : Outcome (ParseResult IpPacket) → Front Verdict
  | .ok (.ok packet) => .item (.routed packet) n
  | .ok (.error (.unsupported reason)) => .item (.dropped reason) n
  | .ok (.error (.malformed reason)) => .stop (.closed (.malformed reason))
  | .error _ => .incomplete

/-- One look of the loop at the front of the buffer: a packet to route or to drop, too few bytes so
far, or the end of the client. -/
def frontVerdict (raw : List UInt8) : Front Verdict :=
  match frontPacketLength raw with
  | .error err => .stop (.closed err)
  | .ok none => .incomplete
  | .ok (some n) => verdictOf n (IpPacket.parse (raw.take n))

/-- A packet that was cut off gets a verdict. -/
theorem verdictOf_parse_ne_incomplete (n : ℕ) (raw : List UInt8) :
    verdictOf n (IpPacket.parse raw) ≠ .incomplete := by
  obtain ⟨r, eq⟩ := IpPacket.parse_returns raw
  rw [eq]
  match r with
  | .ok _ => exact nofun
  | .error (.unsupported _) => exact nofun
  | .error (.malformed _) => exact nofun

/-- The verdict is on all of it. -/
theorem eq_of_verdictOf {n m : ℕ} {r : Outcome (ParseResult IpPacket)} {v : Verdict}
    (h : verdictOf n r = .item v m) : n = m := by
  match r with
  | .ok (.ok _) => cases h; rfl
  | .ok (.error (.unsupported _)) => cases h; rfl

/-- Where no verdict is possible yet, the front is incomplete. -/
theorem incomplete_of_front {raw : List UInt8} (h : frontVerdict raw = .incomplete) :
    frontPacketLength raw = .ok none := by
  unfold frontVerdict at h
  split at h
  · cases h
  · assumption
  · exact absurd h (verdictOf_parse_ne_incomplete _ _)

/-- The stream only stops with a packet that closes the client. -/
theorem closed_of_verdictOf {n : ℕ} {r : Outcome (ParseResult IpPacket)} {v : Verdict}
    (h : verdictOf n r = .stop v) : ∃ reason, v = .closed reason := by
  match r with
  | .ok (.error (.malformed _)) => exact ⟨_, by cases h; rfl⟩

/-- A packet of a length does not close the client, if the stream goes on behind it. -/
theorem not_closed_of_verdictOf {n m : ℕ} {r : Outcome (ParseResult IpPacket)} {v : Verdict}
    (h : verdictOf n r = .item v m) : v.closes = false := by
  match r with
  | .ok (.ok _) => cases h; rfl
  | .ok (.error (.unsupported _)) => cases h; rfl

/-- **The client stream as a framing.** -/
def packets : Framing UInt8 Verdict where
  front := frontVerdict
  item_pos {raw v n} h := by
    unfold frontVerdict at h
    split at h
    · cases h
    · cases h
    · rename_i m known
      have := frontPacketLength_bounds known
      have := eq_of_verdictOf h
      omega
  item_le {raw v n} h := by
    unfold frontVerdict at h
    split at h
    · cases h
    · cases h
    · rename_i m known
      have := frontPacketLength_bounds known
      have := eq_of_verdictOf h
      omega
  item_append {raw v n} h more := by
    unfold frontVerdict at h ⊢
    split at h
    · cases h
    · cases h
    · rename_i m known
      have inside := (frontPacketLength_bounds known).2
      rw [frontPacketLength_append (by rw [known]; nofun), known]
      show verdictOf m (IpPacket.parse ((raw ++ more).take m)) = .item v n
      rwa [List.take_append_of_le_length inside]
  stop_append {raw v} h more := by
    unfold frontVerdict at h ⊢
    split at h
    · rename_i err known
      rw [frontPacketLength_append (by rw [known]; nofun), known]
      exact h
    · cases h
    · rename_i m known
      have inside := (frontPacketLength_bounds known).2
      rw [frontPacketLength_append (by rw [known]; nofun), known]
      show verdictOf m (IpPacket.parse ((raw ++ more).take m)) = .stop v
      rwa [List.take_append_of_le_length inside]

/-! ## What the loop does -/

section Loop

variable {σ : Type} (handlers : PacketHandlers σ)

/-- What the loop does for one verdict. -/
def applyVerdict (s : σ) : Verdict → Outcome σ
  | .routed packet => handlers.route packet s
  | .dropped reason => .ok (handlers.drop reason s)
  | .closed reason => handlers.close reason s

/-- `next` drops the packet at the front. -/
theorem next_of_complete {buffer : IpPacketBuffer} {n : ℕ}
    (complete : frontPacketLength buffer.peek = .ok (some n)) :
    ∃ buffer', buffer.next = .ok (.ok true, buffer') ∧ buffer'.peek = buffer.peek.drop n := by
  have inside := (frontPacketLength_bounds complete).2
  obtain ⟨buf, eq, peek⟩ := ByteBuffer.consume_ok
    (show n ≤ buffer.buf.head by rwa [← ByteBuffer.length_peek])
  refine ⟨⟨buf⟩, ?_, peek⟩
  rw [IpPacketBuffer.next, complete]
  simp only [eq, ok_bind]
  rfl

/-- `packet` parses it. -/
theorem packet_of_complete {buffer : IpPacketBuffer} {n : ℕ}
    (complete : frontPacketLength buffer.peek = .ok (some n)) :
    buffer.packet =
      (IpPacket.parse (buffer.peek.take n)).map fun r => r.map some := by
  have inside := (frontPacketLength_bounds complete).2
  obtain ⟨r, eq⟩ := IpPacket.parse_returns (buffer.peek.take n)
  rw [IpPacketBuffer.packet, complete]
  simp only [readSlice_eq (Nat.zero_le n) inside, slice_zero, eq, ok_bind]
  cases r <;> rfl

/-- **One round takes at least 20 bytes off the front**, whatever is done with the packet.  Both
versions have a header of at least that size, and a front that is shorter is not taken.  It bounds
the rounds of the loop by the bytes in the buffer. -/
theorem consumes_of_pushOne {buffer : IpPacketBuffer} {s s' : σ}
    (go : pushOnePacketToNetwork handlers buffer s = .ok (true, s')) :
    ∃ n buffer', 20 ≤ n ∧ n ≤ buffer.peek.length ∧ buffer.next = .ok (.ok true, buffer') ∧
      buffer'.peek = buffer.peek.drop n := by
  cases front : frontPacketLength buffer.peek with
  | error err =>
      rw [pushOnePacketToNetwork, IpPacketBuffer.packet, front, ok_bind] at go
      cases err with
      | malformed reason =>
          obtain ⟨_, -, eq⟩ := bind_eq_ok.mp go
          cases eq
      | unsupported reason => exact absurd front (frontPacketLength_ne_unsupported _ _)
  | ok length =>
      cases length with
      | none =>
          rw [pushOnePacketToNetwork, IpPacketBuffer.packet, front, ok_bind] at go
          cases go
      | some n =>
          obtain ⟨buffer', eq, peek⟩ := next_of_complete front
          exact ⟨n, buffer', (frontPacketLength_bounds front).1, (frontPacketLength_bounds front).2,
            eq, peek⟩

/-- A UDP datagram of 29 bytes, a fragment of 20, and a byte that starts no packet. -/
def cutStream : List UInt8 :=
  [0x45, 0, 0, 29, 0, 0, 0, 0, 64, 17, 0, 0, 10, 0, 0, 1, 10, 0, 0, 2] ++
    [0x12, 0x34, 0, 53, 0, 9, 0, 0, 0x61] ++
    [0x45, 0, 0, 20, 0, 0, 0x20, 0, 64, 17, 0, 0, 10, 0, 0, 1, 10, 0, 0, 2] ++ [0]

/-- The datagram is in the buffer with the first 11 bytes of the fragment: the round takes at
least 20 bytes of these 40. -/
theorem consumes_of_pushOne_datagram :
    ∃ buffer : IpPacketBuffer, buffer.peek = cutStream.take 40 ∧ ∃ n buffer',
      20 ≤ n ∧ n ≤ 40 ∧ buffer.next = .ok (.ok true, buffer') ∧
        buffer'.peek = (cutStream.take 40).drop n := by
  let handlers : PacketHandlers (List IpPacket) :=
    ⟨fun packet s => .ok (s ++ [packet]), fun _ s => s, fun _ s => .ok s⟩
  obtain ⟨buf, -, peek⟩ := (IpPacketBuffer.new).buf.readFrom_ok (cutStream.take 40)
  replace peek : (⟨buf⟩ : IpPacketBuffer).peek = cutStream.take 40 := peek
  have complete : frontPacketLength (⟨buf⟩ : IpPacketBuffer).peek = .ok (some 29) := by
    rw [peek]
    rfl
  obtain ⟨packet, parsed⟩ :
      ∃ packet, IpPacket.parse ((cutStream.take 40).take 29) = .ok (.ok packet) := ⟨_, rfl⟩
  have go : pushOnePacketToNetwork handlers ⟨buf⟩ [] = .ok (true, [packet]) := by
    rw [pushOnePacketToNetwork, packet_of_complete complete, peek, parsed]
    rfl
  obtain ⟨n, buffer', long, inside, next, left⟩ := consumes_of_pushOne handlers go
  rw [peek] at inside left
  exact ⟨⟨buf⟩, peek, n, buffer', long, inside, next, left⟩

/-- **The loop hands out the verdicts of the bytes buffered, in order**, keeps the undecoded rest
and does not run out of rounds.  The fuel is the number of rounds, and one more than the bytes
buffered is enough of it, as every round takes at least 20 of them. -/
theorem pushToNetworkLoop_decodes {rounds : ℕ} {buffer : IpPacketBuffer}
    (enough : buffer.peek.length < rounds) :
    ∃ buffer', buffer'.peek = (packets.decode buffer.peek).rest ∧
      ∀ s, pushToNetworkLoop handlers rounds buffer s =
        ((packets.decode buffer.peek).items.foldlM (applyVerdict handlers) s).map
          fun s' => (buffer', s') := by
  induction rounds generalizing buffer with
  | zero => omega
  | succ rounds ih =>
      cases front : frontPacketLength buffer.peek with
      | error err =>
          have stop : packets.front buffer.peek = .stop (.closed err) := by
            show frontVerdict buffer.peek = _
            rw [frontVerdict, front]
          refine ⟨buffer, by rw [Framing.decode_of_stop stop], fun s => ?_⟩
          rw [Framing.decode_of_stop stop, pushToNetworkLoop, pushOnePacketToNetwork,
            IpPacketBuffer.packet, front]
          cases err with
          | malformed reason =>
              simp only [ok_bind, List.foldlM_cons, List.foldlM_nil, applyVerdict]
              cases handlers.close (.malformed reason) s <;> rfl
          | unsupported reason => exact absurd front (frontPacketLength_ne_unsupported _ _)
      | ok length =>
          cases length with
          | none =>
              have incomplete : packets.front buffer.peek = .incomplete := by
                show frontVerdict buffer.peek = _
                rw [frontVerdict, front]
              refine ⟨buffer, by rw [Framing.decode_of_incomplete incomplete], fun s => ?_⟩
              rw [Framing.decode_of_incomplete incomplete, pushToNetworkLoop,
                pushOnePacketToNetwork, IpPacketBuffer.packet, front]
              rfl
          | some n =>
              obtain ⟨long, inside⟩ := frontPacketLength_bounds front
              obtain ⟨buffer₁, next, peek⟩ := next_of_complete front
              obtain ⟨buffer', rest, go⟩ := @ih buffer₁ (by
                rw [peek, List.length_drop]
                omega)
              obtain ⟨r, parsed⟩ := IpPacket.parse_returns (buffer.peek.take n)
              have verdict : packets.front buffer.peek = verdictOf n (.ok r) := by
                show frontVerdict buffer.peek = _
                rw [frontVerdict, front, ← parsed]
              -- a packet was taken: one verdict, and the loop goes on behind it
              have continues {v : Verdict} (item : packets.front buffer.peek = .item v n)
                  (one : ∀ s, pushOnePacketToNetwork handlers buffer s =
                    (applyVerdict handlers s v).map fun s' => (true, s')) :
                  ∃ buffer', buffer'.peek = (packets.decode buffer.peek).rest ∧
                    ∀ s, pushToNetworkLoop handlers (rounds + 1) buffer s =
                      ((packets.decode buffer.peek).items.foldlM (applyVerdict handlers) s).map
                        fun s' => (buffer', s') := by
                refine ⟨buffer', by rw [Framing.decode_of_item item, ← peek]; exact rest,
                  fun s => ?_⟩
                rw [Framing.decode_of_item item, ← peek, pushToNetworkLoop, one, List.foldlM_cons]
                cases applyVerdict handlers s v with
                | error p => rfl
                | ok s₁ =>
                    simp only [Except.map, ok_bind, next]
                    exact go s₁
              match r with
              | .ok packet =>
                  refine continues verdict fun s => ?_
                  rw [pushOnePacketToNetwork, packet_of_complete front, parsed, applyVerdict]
                  simp only [Except.map, ok_bind]
                  cases handlers.route packet s <;> rfl
              | .error (.unsupported reason) =>
                  refine continues verdict fun s => ?_
                  rw [pushOnePacketToNetwork, packet_of_complete front, parsed, applyVerdict]
                  rfl
              | .error (.malformed reason) =>
                  refine ⟨buffer, by rw [Framing.decode_of_stop verdict], fun s => ?_⟩
                  rw [Framing.decode_of_stop verdict, pushToNetworkLoop, pushOnePacketToNetwork,
                    packet_of_complete front, parsed]
                  simp only [Except.map, ok_bind, List.foldlM_cons, List.foldlM_nil, applyVerdict]
                  cases handlers.close (.malformed reason) s <;> rfl

/-- **The loop decodes what is in the buffer**: it applies the verdicts in their order and leaves
the rest.  What a verdict does to the state is a parameter, so that the same statement serves the
recording handlers and those of the client. -/
theorem pushToNetwork_decodes (buffer : IpPacketBuffer) :
    ∃ buffer', buffer'.peek = (packets.decode buffer.peek).rest ∧
      ∀ s, pushToNetwork handlers buffer s =
        ((packets.decode buffer.peek).items.foldlM (applyVerdict handlers) s).map
          fun s' => (buffer', s') :=
  pushToNetworkLoop_decodes handlers (Nat.lt_succ_self _)

end Loop

/-! ## Runs of reads -/

/-- Handlers that write down what they are called for. -/
def recording : PacketHandlers (List Verdict × Bool) where
  route packet s := .ok (s.1 ++ [.routed packet], s.2)
  drop reason s := (s.1 ++ [.dropped reason], s.2)
  close reason s := .ok (s.1 ++ [.closed reason], true)

/-- A client that reads a stream: the bytes read, those to come, the input
buffer, what became of the packets, and whether the client is closed. -/
structure Feed where
  fed : List UInt8
  unread : List UInt8
  buffer : IpPacketBuffer
  verdicts : List Verdict
  closed : Bool

namespace Feed

/-- What one read meets: some bytes at once, none yet, or a failure. -/
inductive Read
  | bytes (n : ℕ)
  | wouldBlock
  | failure

/-- What the socket offers to the read. -/
def offered (f : Feed) : Read → IoResult (List UInt8)
  | .bytes n => .ok (f.unread.take n)
  | .wouldBlock => .error .wouldBlock
  | .failure => .error .other

/-- `Client::process_receive`. -/
def processReceive (f : Feed) (r : Read) : Outcome Feed :=
  match f.buffer.readFrom (f.offered r) with
  | (.ok true, buffer) => do
      let n := buffer.buf.head - f.buffer.buf.head
      let (buffer, verdicts, closed) ← pushToNetwork recording buffer (f.verdicts, f.closed)
      return {
        fed := f.fed ++ f.unread.take n
        unread := f.unread.drop n
        buffer, verdicts, closed }
  -- EOF reached
  | (.ok false, buffer) => .ok { f with buffer, closed := true }
  | (.error .wouldBlock, buffer) => .ok { f with buffer }
  | (.error .other, buffer) => .ok { f with buffer, closed := true }

/-- The client has sent nothing yet, and will send `stream`; its buffer is the one that
`IpPacketBuffer::new` makes. -/
def fresh (stream : List UInt8) : Feed := ⟨[], stream, .new, [], false⟩

/-- Reads of any sizes while the client is open.  A read that finds bytes takes
at least one of them. -/
def machine (stream : List UInt8) : Machine Feed Read where
  start f := f = fresh stream
  step f r f' := f.closed = false ∧ r ≠ .bytes 0 ∧ f.processReceive r = .ok f'

/-- The verdicts are those of the bytes read, decoded at once, and the buffer
holds what that leaves. -/
structure Inv (stream : List UInt8) (f : Feed) : Prop where
  split : f.fed ++ f.unread = stream
  verdicts : f.verdicts = (packets.decode f.fed).items
  stopped : (packets.decode f.fed).stopped = true → f.closed = true
  peek : f.closed = false → f.buffer.peek = (packets.decode f.fed).rest

/-- A verdict is recorded, and whether it closes. -/
theorem applyVerdict_recording (s : List Verdict × Bool) (v : Verdict) :
    applyVerdict recording s v = .ok (s.1 ++ [v], s.2 || v.closes) := by
  cases v with
  | routed packet => simp only [applyVerdict, recording, Verdict.closes, Bool.or_false]
  | dropped reason => simp only [applyVerdict, recording, Verdict.closes, Bool.or_false]
  | closed reason => simp only [applyVerdict, recording, Verdict.closes, Bool.or_true]

/-- The same for a list of verdicts. -/
theorem foldlM_recording (vs : List Verdict) (s : List Verdict × Bool) :
    vs.foldlM (applyVerdict recording) s = .ok (s.1 ++ vs, s.2 || vs.any Verdict.closes) := by
  induction vs generalizing s with
  | nil => simp
  | cons v vs ih =>
      rw [List.foldlM_cons, applyVerdict_recording, ok_bind, ih, List.append_assoc, Bool.or_assoc]
      rfl

/-- A decoding was stopped iff one of its verdicts closes the client. -/
theorem stopped_eq_any (raw : List UInt8) :
    (packets.decode raw).stopped =
      (packets.decode raw).items.any Verdict.closes := by
  induction raw using Framing.decode.induct packets with
  | case1 raw h => rw [Framing.decode_of_incomplete h]; rfl
  | case2 raw v h =>
      rw [Framing.decode_of_stop h]
      obtain ⟨reason, rfl⟩ : ∃ reason, v = .closed reason := by
        change frontVerdict raw = _ at h
        unfold frontVerdict at h
        split at h
        · exact ⟨_, by cases h; rfl⟩
        · cases h
        · exact closed_of_verdictOf h
      rfl
  | case3 raw v n h ih =>
      rw [Framing.decode_of_item h]
      have goesOn : v.closes = false := by
        change frontVerdict raw = _ at h
        unfold frontVerdict at h
        split at h
        · cases h
        · cases h
        · exact not_closed_of_verdictOf h
      rw [List.any_cons, goesOn, Bool.false_or]
      exact ih

/-- Before the first read nothing was decoded. -/
theorem inv_fresh (stream : List UInt8) : Inv stream (fresh stream) where
  split := rfl
  verdicts := by
    rw [Framing.decode_of_incomplete (show packets.front (fresh stream).fed = .incomplete from rfl)]
    rfl
  stopped := by
    rw [Framing.decode_of_incomplete (show packets.front (fresh stream).fed = .incomplete from rfl)]
    nofun
  peek _ := by
    rw [Framing.decode_of_incomplete (show packets.front (fresh stream).fed = .incomplete from rfl)]
    rfl

variable {stream : List UInt8} {f f' : Feed}

/-- What was not read is the stream behind what was. -/
theorem Inv.unread_eq (inv : Inv stream f) : f.unread = stream.drop f.fed.length := by
  rw [← inv.split, List.drop_left]

/-- An open client's buffer holds what decoding leaves, and nothing else. -/
theorem Inv.free_eq (inv : Inv stream f) (isOpen : f.closed = false) :
    f.buffer.free = maxIpPacketLength - (packets.decode f.fed).rest.length := by
  have head : f.buffer.peek.length = f.buffer.buf.head := ByteBuffer.length_peek _
  rw [IpPacketBuffer.free, ← head, inv.peek isOpen]

/-- What is left in the buffer of an open client is an incomplete packet, so
there is room. -/
theorem Inv.free_pos (inv : Inv stream f) (isOpen : f.closed = false) : 0 < f.buffer.free := by
  have on : (packets.decode f.fed).stopped = false := by
    by_contra off
    rw [Bool.not_eq_false] at off
    rw [inv.stopped off] at isOpen
    cases isOpen
  have incomplete := Framing.front_rest f.fed on
  have short := length_lt_of_incomplete (incomplete_of_front incomplete)
  rw [inv.free_eq isOpen]
  omega

/-- A read of bytes: either the stream has ended and the client closes, or what
was read, at most the free space, is decoded behind the rest. -/
theorem Inv.bytes (inv : Inv stream f) (isOpen : f.closed = false) (n : ℕ) :
    ∃ f', f.processReceive (.bytes n) = .ok f' ∧ Inv stream f' ∧
      f'.fed = f.fed ++ f.unread.take (min f.buffer.free n) ∧
      (0 < n → f.unread ≠ [] → f'.closed = (packets.decode f'.fed).stopped) := by
  have space := inv.free_pos isOpen
  have on : (packets.decode f.fed).stopped = false := by
    by_contra off
    rw [Bool.not_eq_false] at off
    rw [inv.stopped off] at isOpen
    cases isOpen
  obtain ⟨buf, eq, peek⟩ := f.buffer.buf.readFrom_ok (f.unread.take n)
  set taken := (f.unread.take n).take (maxIpPacketLength - f.buffer.buf.head) with htaken
  have read : f.buffer.readFrom (.ok (f.unread.take n)) = (.ok (decide (0 < taken.length)), ⟨buf⟩) := by
    rw [IpPacketBuffer.readFrom, eq]
  have count : buf.head - f.buffer.buf.head = taken.length := by
    have := congrArg List.length peek
    rw [List.length_append, ByteBuffer.length_peek, ByteBuffer.length_peek] at this
    omega
  have front : f.unread.take taken.length = taken := by
    rw [htaken, List.take_take, take_length_take]
  have within : f.unread.take (min f.buffer.free n) = taken := by
    rw [htaken, List.take_take, IpPacketBuffer.free]
  by_cases none : taken.length = 0
  · refine ⟨{ f with buffer := ⟨buf⟩, closed := true }, ?_, ⟨inv.split, inv.verdicts,
      fun _ => rfl, nofun⟩, ?_, fun pos more => ?_⟩
    · rw [processReceive, offered, read, none]
      rfl
    · rw [within, List.length_eq_zero_iff.mp none, List.append_nil]
    · rw [← within, List.length_take] at none
      have left := List.length_pos_of_ne_nil more
      omega
  · obtain ⟨buffer', rest, push⟩ := pushToNetwork_decodes recording ⟨buf⟩
    have held : (⟨buf⟩ : IpPacketBuffer).peek = (packets.decode f.fed).rest ++ taken := by
      rw [← inv.peek isOpen]
      exact peek
    have whole := Framing.decode_append f.fed taken on
    rw [← held] at whole
    refine ⟨⟨f.fed ++ taken, f.unread.drop taken.length, buffer',
      f.verdicts ++ (packets.decode (⟨buf⟩ : IpPacketBuffer).peek).items,
      (packets.decode (⟨buf⟩ : IpPacketBuffer).peek).items.any Verdict.closes⟩, ?_,
      ⟨?_, ?_, ?_, ?_⟩, ?_, fun _ _ => ?_⟩
    · rw [processReceive, offered, read, decide_eq_true (Nat.pos_of_ne_zero none)]
      simp only [push, foldlM_recording, Except.map, ok_bind, pure_eq_ok, isOpen, Bool.false_or,
        count, front]
    · show f.fed ++ taken ++ f.unread.drop taken.length = stream
      have rest := List.take_append_drop taken.length f.unread
      rw [front] at rest
      rw [List.append_assoc, rest, inv.split]
    · show f.verdicts ++ _ = (packets.decode (f.fed ++ taken)).items
      rw [whole, inv.verdicts]
    · show (packets.decode (f.fed ++ taken)).stopped = true → _
      rw [whole, stopped_eq_any]
      exact id
    · show _ → buffer'.peek = (packets.decode (f.fed ++ taken)).rest
      rw [whole]
      exact fun _ => rest
    · rw [within]
    · show _ = (packets.decode (f.fed ++ taken)).stopped
      rw [whole, stopped_eq_any]

/-- Whatever an open client's read meets, it returns and keeps the invariant. -/
theorem Inv.processReceive (inv : Inv stream f) (isOpen : f.closed = false) (r : Read) :
    ∃ f', f.processReceive r = .ok f' ∧ Inv stream f' := by
  cases r with
  | bytes n =>
      obtain ⟨f', eq, inv', -⟩ := inv.bytes isOpen n
      exact ⟨f', eq, inv'⟩
  | wouldBlock => exact ⟨_, rfl, inv⟩
  | failure =>
      exact ⟨_, rfl, inv.split, inv.verdicts, fun _ => rfl, nofun⟩

/-- The same over whole runs. -/
theorem inv_of_run {t : List (Feed × Read)} (run : (machine stream).Run t f) : Inv stream f := by
  have all : Machine.Meets (fun _ _ => True) t := fun _ _ => trivial
  refine run.invariant (Inv stream) ?_ ?_ all
  · rintro _ rfl
    exact inv_fresh stream
  · rintro f r f' inv - ⟨isOpen, -, step⟩
    obtain ⟨f₁, eq, inv₁⟩ := inv.processReceive isOpen r
    rw [eq] at step
    cases step
    exact inv₁

/-- **Cutting the stream into reads does not change what is decoded.**  After any
reads the verdicts are those of the bytes read, and those of the whole stream
once it has been read or a front was malformed.  An open client always has room
for a byte, so that a read returns `Ok(false)` only at the end of the stream; no
read panics or loops; and each round of the loop takes at least 20 bytes. -/
theorem run_decodes :
    (∀ (stream : List UInt8) (t : List (Feed × Read)) (f : Feed), (machine stream).Run t f →
      f.fed ++ f.unread = stream ∧
      f.verdicts = (packets.decode f.fed).items ∧
      (f.unread = [] ∨ (∃ reason, .closed reason ∈ f.verdicts) →
        f.verdicts = (packets.decode stream).items) ∧
      (f.closed = false →
        0 < f.buffer.free ∧
        (∀ n, 0 < n → ((f.buffer.readFrom (.ok (f.unread.take n))).1 = .ok false ↔
          f.unread = [])) ∧
        ∀ r, ∃ f', f.processReceive r = .ok f')) ∧
    ∀ (σ : Type) (handlers : PacketHandlers σ) (buffer : IpPacketBuffer) (s s' : σ),
      pushOnePacketToNetwork handlers buffer s = .ok (true, s') →
      ∃ n buffer', 20 ≤ n ∧ n ≤ buffer.peek.length ∧ buffer.next = .ok (.ok true, buffer') ∧
        buffer'.peek = buffer.peek.drop n := by
  refine ⟨fun stream t f run => ?_, fun σ handlers buffer s s' => consumes_of_pushOne handlers⟩
  have inv := inv_of_run run
  refine ⟨inv.split, inv.verdicts, ?_, fun isOpen => ⟨inv.free_pos isOpen, ?_, ?_⟩⟩
  · rintro (ended | ⟨reason, closed⟩)
    · rw [inv.verdicts, ← inv.split, ended, List.append_nil]
    · have off : (packets.decode f.fed).stopped = true := by
        rw [stopped_eq_any, List.any_eq_true]
        exact ⟨_, inv.verdicts ▸ closed, rfl⟩
      rw [inv.verdicts, ← inv.split, (Framing.decode_append_of_stopped f.fed f.unread off).1]
  · intro n pos
    have space := inv.free_pos isOpen
    rw [IpPacketBuffer.free] at space
    obtain ⟨buf, eq, -⟩ := f.buffer.buf.readFrom_ok (f.unread.take n)
    rw [IpPacketBuffer.readFrom, eq, Except.ok.injEq, decide_eq_false_iff_not, List.length_take,
      List.length_take, ← List.length_eq_zero_iff]
    omega
  · intro r
    obtain ⟨f', eq, -⟩ := inv.processReceive isOpen r
    exact ⟨f', eq⟩

/-- What the three fronts of the stream come to. -/
theorem cutStream_items {packet : IpPacket}
    (front : packets.front (cutStream.take 40) = .item (.routed packet) 29) :
    (packets.decode cutStream).items =
      [.routed packet, .dropped .ipv4Fragment, .closed (.malformed "unsupported IP version")] := by
  have datagram := packets.item_append front (cutStream.drop 40)
  rw [List.take_append_drop] at datagram
  have fragment : packets.front (cutStream.drop 29) = .item (.dropped .ipv4Fragment) 20 := rfl
  have last : packets.front ((cutStream.drop 29).drop 20) =
      .stop (.closed (.malformed "unsupported IP version")) := rfl
  rw [Framing.decode_of_item datagram, Framing.decode_of_item fragment, Framing.decode_of_stop last]

/-- The reads end inside the datagram, inside the fragment and behind the last byte. -/
theorem run_decodes_cut :
    ∃ t f packet, (machine cutStream).Run t f ∧ t.map Prod.snd = [.bytes 10, .bytes 30, .bytes 20] ∧
      t.map (fun p => p.1.fed.length) = [0, 10, 40] ∧
      (packets.decode cutStream).items =
        [.routed packet, .dropped .ipv4Fragment, .closed (.malformed "unsupported IP version")] ∧
      f.verdicts = (packets.decode cutStream).items := by
  have front₁ : packets.front (cutStream.take 10) = .incomplete := rfl
  obtain ⟨packet, front₂⟩ :
      ∃ packet, packets.front (cutStream.take 40) = .item (.routed packet) 29 := ⟨_, rfl⟩
  have front₃ : packets.front ((cutStream.take 40).drop 29) = .incomplete := rfl
  have decoded₁ := Framing.decode_of_incomplete front₁
  have decoded₂ := Framing.decode_of_item front₂
  rw [Framing.decode_of_incomplete front₃] at decoded₂
  obtain ⟨f₁, step₁, inv₁, fed₁, closed₁⟩ := (inv_fresh cutStream).bytes rfl 10
  replace fed₁ : f₁.fed = cutStream.take 10 := fed₁
  replace closed₁ : f₁.closed = false := by
    rw [closed₁ (by decide) (by decide), fed₁, decoded₁]
  have unread₁ : f₁.unread = cutStream.drop 10 := by
    rw [inv₁.unread_eq, fed₁]
    rfl
  have free₁ : 30 ≤ f₁.buffer.free := by
    rw [inv₁.free_eq closed₁, fed₁, decoded₁]
    decide
  obtain ⟨f₂, step₂, inv₂, fed₂, closed₂⟩ := inv₁.bytes closed₁ 30
  rw [min_eq_right free₁, fed₁, unread₁] at fed₂
  replace fed₂ : f₂.fed = cutStream.take 40 := fed₂
  replace closed₂ : f₂.closed = false := by
    rw [closed₂ (by decide) (by rw [unread₁]; decide), fed₂, decoded₂]
  have unread₂ : f₂.unread = cutStream.drop 40 := by
    rw [inv₂.unread_eq, fed₂]
    rfl
  have free₂ : 20 ≤ f₂.buffer.free := by
    rw [inv₂.free_eq closed₂, fed₂, decoded₂]
    show 20 ≤ maxIpPacketLength - ((cutStream.take 40).drop 29).length
    decide
  obtain ⟨f₃, step₃, inv₃, fed₃, -⟩ := inv₂.bytes closed₂ 20
  rw [min_eq_right free₂, fed₂, unread₂] at fed₃
  replace fed₃ : f₃.fed = cutStream := fed₃
  have first : (machine cutStream).step (fresh cutStream) (.bytes 10) f₁ :=
    ⟨rfl, (fun zero => by cases zero), step₁⟩
  have second : (machine cutStream).step f₁ (.bytes 30) f₂ :=
    ⟨closed₁, (fun zero => by cases zero), step₂⟩
  have third : (machine cutStream).step f₂ (.bytes 20) f₃ :=
    ⟨closed₂, (fun zero => by cases zero), step₃⟩
  have run := (((Machine.Run.start (M := machine cutStream) rfl).step first).step second).step third
  have ended : f₃.unread = [] := by
    rw [inv₃.unread_eq, fed₃]
    rfl
  refine ⟨_, f₃, packet, run, rfl, ?_, cutStream_items front₂,
    (run_decodes.1 cutStream _ f₃ run).2.2.1 (.inl ended)⟩
  show [(fresh cutStream).fed.length, f₁.fed.length, f₂.fed.length] = _
  rw [fed₁, fed₂]
  rfl

end Feed

end ReverseTether
