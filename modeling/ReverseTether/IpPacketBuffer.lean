import ReverseTether.IpPacket

/-!
# The buffer client packets arrive in

`ByteBuffer` collects what is read at `head` and gives it up at the front,
moving the rest down.  `IpPacketBuffer` is one of 65575 bytes, as long as the
longest packet of either version.

`peek` is the abstraction: `readFrom` appends to it and `consume` drops from its
front.

A read fills the free space at most, and reports whether the stream goes on.  `packet` asks
for the length of the front packet, waits until all of it is there and parses just these
bytes; `next` removes them.  The packet and the removal are two calls, between which the
caller routes the packet or drops it.

`readFrom_ok` and `consume_ok` are what the rest of the development uses: the array, the
position and the zeros behind it do not appear any more, only the list of the bytes that wait.
-/

namespace ReverseTether

open Library

/-- `ByteBuffer`: an array of a fixed length, of which the bytes before `head` have been read and
not yet consumed. -/
structure ByteBuffer (length : ℕ) where
  buf : List UInt8
  head : ℕ
  length_buf : buf.length = length
  head_le : head ≤ length

namespace ByteBuffer

variable {length : ℕ}

/-- `ByteBuffer::new`: an empty buffer over an array of zeros. -/
def new (length : ℕ) : ByteBuffer length where
  buf := List.replicate length 0
  head := 0
  length_buf := List.length_replicate
  head_le := Nat.zero_le _

/-- `peek`: the bytes that have been read and not yet consumed, from the oldest on. -/
def peek (b : ByteBuffer length) : List UInt8 := b.buf.take b.head

/-- What a source that offers `r` leaves in the free part of the buffer: as much
as fits, or its error. -/
def readFrom (b : ByteBuffer length) (r : IoResult (List UInt8)) :
    IoResult Bool × ByteBuffer length :=
  match r with
  | .error err => (.error err, b)
  | .ok offered =>
      let taken := offered.take (length - b.head)
      (.ok (0 < taken.length),
        { b with
          buf := splice b.buf b.head taken
          head := b.head + taken.length
          length_buf := by
            have := b.head_le
            rw [length_splice (by rw [b.length_buf, List.length_take]; omega), b.length_buf]
          head_le := by
            have := b.head_le
            rw [List.length_take]
            omega })

/-- Forget the first `n` bytes and move the rest to the front. -/
def consume (b : ByteBuffer length) (n : ℕ) : Outcome (ByteBuffer length) :=
  if n ≤ b.head then
    .ok
      { b with
        buf := if 0 < b.head - n then splice b.buf 0 (slice b.buf n b.head) else b.buf
        head := b.head - n
        length_buf := by
          have := b.head_le
          split
          · rw [length_splice (by rw [length_slice, b.length_buf]; omega), b.length_buf]
          · exact b.length_buf
        head_le := (Nat.sub_le _ _).trans b.head_le }
  else .error .consumeTooMuch

@[simp] theorem length_peek (b : ByteBuffer length) : b.peek.length = b.head := by
  rw [peek, List.length_take, b.length_buf, min_eq_left b.head_le]

@[simp] theorem peek_new (length : ℕ) : (new length).peek = [] := rfl

theorem readFrom_ok (b : ByteBuffer length) (offered : List UInt8) :
    ∃ b', b.readFrom (.ok offered) =
        (.ok (0 < (offered.take (length - b.head)).length), b') ∧
      b'.peek = b.peek ++ offered.take (length - b.head) := by
  have := b.head_le
  have fits : b.head + (offered.take (length - b.head)).length ≤ b.buf.length := by
    rw [b.length_buf, List.length_take]
    omega
  exact ⟨_, rfl, take_splice fits⟩

theorem consume_ok {b : ByteBuffer length} {n : ℕ} (inside : n ≤ b.head) :
    ∃ b', b.consume n = .ok b' ∧ b'.peek = b.peek.drop n := by
  refine ⟨_, if_pos inside, ?_⟩
  have := b.head_le
  have moved : (slice b.buf n b.head).length = b.head - n := by
    rw [length_slice, b.length_buf]
    omega
  show (if 0 < b.head - n then splice b.buf 0 (slice b.buf n b.head) else b.buf).take
    (b.head - n) = slice b.buf n b.head
  by_cases left : 0 < b.head - n
  · have front := take_splice (i := 0)
      (show 0 + (slice b.buf n b.head).length ≤ b.buf.length by
        rw [moved, b.length_buf]
        omega)
    rwa [if_pos left, Nat.zero_add, List.take_zero, List.nil_append, moved] at *
  · have none : b.head - n = 0 := by omega
    rw [none, List.take_zero, eq_comm, ← List.length_eq_zero_iff, moved, none]

end ByteBuffer

/-- `IpPacketBuffer`: the stream of a client, of which a whole packet of either version fits into
the buffer. -/
structure IpPacketBuffer where
  buf : ByteBuffer maxIpPacketLength

namespace IpPacketBuffer

/-- `IpPacketBuffer::new`: an empty buffer, long enough for the longest packet of either version.
-/
def new : IpPacketBuffer := ⟨.new maxIpPacketLength⟩

/-- The bytes that wait for the rest of their packet. -/
def peek (b : IpPacketBuffer) : List UInt8 := b.buf.peek

/-- The bytes the next read may take. -/
def free (b : IpPacketBuffer) : ℕ := maxIpPacketLength - b.buf.head

/-- `read_from`: one read of the socket into the free space; `false` is the end of the stream. -/
def readFrom (b : IpPacketBuffer) (r : IoResult (List UInt8)) : IoResult Bool × IpPacketBuffer :=
  ((b.buf.readFrom r).1, ⟨(b.buf.readFrom r).2⟩)

/-- `packet`: the packet at the front, parsed from its own bytes alone, or nothing while some of
them are missing. -/
def packet (b : IpPacketBuffer) : Outcome (ParseResult (Option IpPacket)) :=
  match frontPacketLength b.peek with
  | .error err => .ok (.error err)
  | .ok none => .ok (.ok none)
  | .ok (some length) => do
      let raw ← readSlice b.peek 0 length
      match ← IpPacket.parse raw with
      | .error err => return .error err
      | .ok packet => return .ok (some packet)

/-- `next`: the packet at the front is consumed, and what follows it moves to the beginning. -/
def next (b : IpPacketBuffer) : Outcome (ParseResult Bool × IpPacketBuffer) :=
  match frontPacketLength b.peek with
  | .error err => .ok (.error err, b)
  | .ok none => .ok (.ok false, b)
  | .ok (some length) => do
      let buf ← b.buf.consume length
      return (.ok true, ⟨buf⟩)

/-- Any bytes that fit can be in the buffer. -/
theorem exists_peek {raw : List UInt8} (fits : raw.length ≤ maxIpPacketLength) :
    ∃ b : IpPacketBuffer, b.peek = raw := by
  obtain ⟨buf, -, peek⟩ := (ByteBuffer.new maxIpPacketLength).readFrom_ok raw
  refine ⟨⟨buf⟩, peek.trans ?_⟩
  rw [ByteBuffer.peek_new, List.nil_append]
  exact List.take_of_length_le fits

end IpPacketBuffer

end ReverseTether
