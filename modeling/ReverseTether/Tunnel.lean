import ReverseTether.Icmpv6
import ReverseTether.Library.Machine

/-!
# The tunnel loop of the app

`Tunnel::Run` moves packets between the tun device and the socket to the relay.  One
iteration polls both descriptors and then has four branches: a packet is read from
the tun device, bytes are sent, bytes are received and framed, and a packet is
written to the tun device.  A branch that fails leaves the loop.

An iteration is a computation in `Except Tunnel`: an error is the `break` of the
loop, with the state it leaves.  What the system calls answer is a `Turn`, and
nothing is assumed of it.  Four fields of the state are the history of the two
descriptors, which the code does not keep.

Nothing is dropped silently in either direction.  What was read from the tun device is
forwarded, or counted as dropped and perhaps refused; what was received is what was framed and
what is left of an incomplete packet (`Kept`).  The bytes are compared, and not only their
number, so a partial send that starts again at the wrong place would be seen.
-/

namespace ReverseTether

open Library

/-- The values of `errno` the loop sets or looks for; every other value is a failure that it passes
on. -/
inductive Errno
  | eagain
  | ewouldblock
  | eintr
  | enodev
  | econnreset
  | eproto
  | eio
  | other (code : ℕ)
  deriving DecidableEq, Repr

/-- `EAGAIN`, `EWOULDBLOCK` or `EINTR`: the call is made again later. -/
def Errno.isTransient : Errno → Bool
  | .eagain | .ewouldblock | .eintr => true
  | _ => false

/-- What a system call returns. -/
abbrev SysResult (α : Type) := Except Errno α

/-- What the app does with IPv6 packets: it drops them, forwards them to the relay, or refuses them
itself. -/
inductive Ipv6Mode
  | off
  | proxy
  | blackhole
  deriving DecidableEq, Repr

/-- The longest packet that is read from the tun device or written to it. -/
def MAX_PACKET : ℕ := 65535

/-- What each of the two queues may hold, counted in bytes. -/
def MAX_QUEUE : ℕ := 1024 * 1024

/-- The events of one descriptor, as `poll` asks for them and as it reports them. -/
structure Events where
  pollIn : Bool
  pollOut : Bool
  pollErr : Bool
  pollHup : Bool
  pollNval : Bool

/-- `poll` reports the events asked for, and errors whether asked for or not. -/
def Events.reported (ready : Events) (pollIn pollOut : Bool) : Events :=
  { ready with pollIn := ready.pollIn && pollIn, pollOut := ready.pollOut && pollOut }

/-- A packet in the queue to the tun device.  Where it came from is history: the code
treats both alike. -/
inductive QueuedPacket
  | framed (raw : List UInt8)
  | reply (raw : List UInt8)
  deriving DecidableEq, Repr

namespace QueuedPacket

/-- The bytes that are written to the tun device. -/
def raw : QueuedPacket → List UInt8
  | framed raw => raw
  | reply raw => raw

/-- What the packet counts for in the budget of the queue. -/
def size (packet : QueuedPacket) : ℕ := packet.raw.length

/-- A packet that came from the relay. -/
def framed? : QueuedPacket → Option (List UInt8)
  | framed raw => some raw
  | reply _ => none

end QueuedPacket

/-- What the calls of one iteration meet.  `stopping` is read twice. -/
structure Turn where
  stopping : Bool
  poll : SysResult (Events × Events)
  stoppingBehindPoll : Bool
  read : SysResult (List UInt8)
  send : SysResult ℕ
  recv : SysResult (List UInt8)
  write : SysResult ℕ

/-- The variables of the tunnel thread between two of its iterations, and the history of its two
descriptors. -/
structure Tunnel where
  ipv6Mode : Ipv6Mode
  running : Bool
  error : Option Errno
  txBytes : UInt64
  rxBytes : UInt64
  txPackets : UInt64
  rxPackets : UInt64
  dropped : UInt64
  outbound : List UInt8
  incoming : List UInt8
  packets : List QueuedPacket
  sendOffset : ℕ
  queuedBytes : ℕ
  /-- The packets read from the tun device. -/
  read : List (List UInt8)
  /-- The bytes the socket took. -/
  taken : List UInt8
  /-- The bytes the socket gave. -/
  received : List UInt8
  /-- The packets written to the tun device. -/
  written : List QueuedPacket

namespace Tunnel

/-- The state `Start` leaves to the loop. -/
def start (ipv6Mode : Ipv6Mode) : Tunnel where
  ipv6Mode
  running := true
  error := none
  txBytes := 0
  rxBytes := 0
  txPackets := 0
  rxPackets := 0
  dropped := 0
  outbound := []
  incoming := []
  packets := []
  sendOffset := 0
  queuedBytes := 0
  read := []
  taken := []
  received := []
  written := []

/-- The error is noted, which ends the loop and is shown in the status. -/
def fail (t : Tunnel) (code : Errno) : Tunnel := { t with error := some code }

/-! ## The branches of an iteration -/

/-- The history of the tun device. -/
def noteRead (t : Tunnel) (packet : List UInt8) : Tunnel := { t with read := t.read ++ [packet] }

/-- A packet of the tun device that is not forwarded is counted, whatever the reason. -/
def countDropped (t : Tunnel) : Tunnel := { t with dropped := t.dropped + 1 }

/-- Refuse locally so the application falls back to IPv4 at once. -/
def refuse (t : Tunnel) (packet : List UInt8) : Tunnel :=
  if t.ipv6Mode = .blackhole ∧ t.queuedBytes + MAX_PACKET < MAX_QUEUE then
    match buildIcmpv6Unreachable packet with
    | some reply =>
        { t with
          queuedBytes := t.queuedBytes + reply.length
          packets := t.packets ++ [.reply reply] }
    | none => t
  else t

/-- Erases the bytes of `outbound` that were sent. -/
def compact (t : Tunnel) : Tunnel :=
  if t.sendOffset ≠ 0 then { t with outbound := t.outbound.drop t.sendOffset, sendOffset := 0 }
  else t

/-- The packet goes behind what waits for the relay, from where the sent bytes are erased first. -/
def forward (t : Tunnel) (packet : List UInt8) : Tunnel :=
  { t.compact with
    outbound := t.compact.outbound ++ packet
    txPackets := t.txPackets + 1
    txBytes := t.txBytes + UInt64.ofNat packet.length }

/-- What becomes of a packet from the tun device. -/
def takePacket (t : Tunnel) (packet : List UInt8) : Tunnel :=
  if ¬ isWellFormedIpPacket packet then (t.noteRead packet).countDropped
  else if isIpv6 packet ∧ t.ipv6Mode ≠ .proxy then
    (t.noteRead packet).countDropped.refuse packet
  else (t.noteRead packet).forward packet

/-- `fds[0].revents & POLLIN`. -/
def readTun (t : Tunnel) : SysResult (List UInt8) → Except Tunnel Tunnel
  | .ok offered =>
      let buffer := offered.take MAX_PACKET
      if 0 < buffer.length then .ok (t.takePacket buffer) else .error (t.fail .enodev)
  | .error errno => if errno.isTransient then .ok t else .error (t.fail errno)

/-- The socket took `count` bytes. -/
def took (t : Tunnel) (count : ℕ) : Tunnel :=
  { t with
    taken := t.taken ++ (t.outbound.drop t.sendOffset).take count
    sendOffset := t.sendOffset + count }

/-- Once all of `outbound` was sent, it begins anew. -/
def clearSent (t : Tunnel) : Tunnel :=
  if t.sendOffset = t.outbound.length then { t with outbound := [], sendOffset := 0 } else t

/-- `fds[1].revents & POLLOUT`. -/
def sendSocket (t : Tunnel) : SysResult ℕ → Except Tunnel Tunnel
  | .ok most =>
      let count := min most (t.outbound.length - t.sendOffset)
      if 0 < count then .ok (t.took count).clearSent else .ok t
  | .error errno => if errno.isTransient then .ok t else .error (t.fail errno)

/-- The socket gave the bytes of `buffer`. -/
def feed (t : Tunnel) (buffer : List UInt8) : Tunnel :=
  { t with incoming := t.incoming ++ buffer, received := t.received ++ buffer }

/-- Packets framed go to the queue. -/
def enqueue (t : Tunnel) (packets : List (List UInt8)) : Tunnel :=
  { t with
    packets := t.packets ++ packets.map .framed
    queuedBytes := t.queuedBytes + (packets.map List.length).sum }

/-- Moves the complete packets of `incoming` to the queue. -/
def framePackets (t : Tunnel) : Except Tunnel Tunnel :=
  let (packets, left, failed) := receivePackets t.incoming
  let t := if failed then (t.enqueue packets).fail .eproto else t.enqueue packets
  if t.error.isSome then .error t else .ok { t with incoming := left }

/-- `fds[1].revents & POLLIN`. -/
def recvSocket (t : Tunnel) : SysResult (List UInt8) → Except Tunnel Tunnel
  | .ok offered =>
      let buffer := offered.take MAX_PACKET
      if buffer.length = 0 then .error (t.fail .econnreset)
      else (t.feed buffer).framePackets
  | .error errno => if errno.isTransient then t.framePackets else .error (t.fail errno)

/-- `fds[0].revents & POLLOUT`.  A packet that is not taken whole fails the tunnel. -/
def writeTun (t : Tunnel) (call : SysResult ℕ) : Except Tunnel Tunnel :=
  match t.packets with
  | [] => .ok t
  | packet :: rest =>
      match call with
      | .ok count =>
          if count = packet.size then
            .ok { t with
              rxBytes := t.rxBytes + UInt64.ofNat count
              rxPackets := t.rxPackets + 1
              queuedBytes := t.queuedBytes - packet.size
              packets := rest
              written := t.written ++ [packet] }
          else .error (t.fail .eio)
      | .error errno => if errno.isTransient then .ok t else .error (t.fail errno)

/-- A packet is read from the tun device while there is room for the longest one on the way to the
relay. -/
def tunPollIn (t : Tunnel) : Bool := t.outbound.length - t.sendOffset < MAX_QUEUE - MAX_PACKET

/-- There is a packet to write to the tun device. -/
def tunPollOut (t : Tunnel) : Bool := !t.packets.isEmpty

/-- The socket is read while there is room for the longest read on the way to the tun device. -/
def socketPollIn (t : Tunnel) : Bool := t.queuedBytes + t.incoming.length < MAX_QUEUE - MAX_PACKET

/-- There are bytes for the relay that were not sent. -/
def socketPollOut (t : Tunnel) : Bool := t.sendOffset < t.outbound.length

/-- `if (revents & event)`: without the event the branch is skipped. -/
def when (t : Tunnel) (event : Bool) (branch : Tunnel → Except Tunnel Tunnel) :
    Except Tunnel Tunnel :=
  if event then branch t else .ok t

/-- The branches before the write to the tun device. -/
def beforeWrite (t : Tunnel) (turn : Turn) (tun socket : Events) : Except Tunnel Tunnel := do
  let t ← t.when tun.pollIn fun t => t.readTun turn.read
  let t ← t.when socket.pollOut fun t => t.sendSocket turn.send
  t.when socket.pollIn fun t => t.recvSocket turn.recv

/-- The body of the loop behind `poll`. -/
def serve (t : Tunnel) (turn : Turn) (tun socket : Events) : Except Tunnel Tunnel :=
  if turn.stoppingBehindPoll then .error t
  else if tun.pollNval || socket.pollNval || tun.pollErr || socket.pollErr then .error (t.fail .eio)
  else do
    let t ← t.beforeWrite turn tun socket
    let t ← t.when tun.pollOut fun t => t.writeTun turn.write
    if tun.pollHup || socket.pollHup then .error (t.fail .econnreset) else .ok t

/-- One iteration of `Run`, with the test of the loop. -/
def iterate (t : Tunnel) (turn : Turn) : Except Tunnel Tunnel :=
  if turn.stopping then .error t
  else
    match turn.poll with
    | .error .eintr => .ok t
    | .error errno => .error (t.fail errno)
    | .ok (tun, socket) =>
        t.serve turn (tun.reported t.tunPollIn t.tunPollOut)
          (socket.reported t.socketPollIn t.socketPollOut)

/-- The loop ends with the first iteration that breaks. -/
def afterTurn (t : Tunnel) (turn : Turn) : Tunnel :=
  match t.iterate turn with
  | .ok t => t
  | .error t => { t with running := false }

/-- A tunnel that is running takes turns. -/
def machine (ipv6Mode : Ipv6Mode) : Machine Tunnel Turn where
  start t := t = start ipv6Mode
  step t turn t' := t.running = true ∧ t' = t.afterTurn turn

/-! ## Both directions are kept -/

/-- A packet that goes to the relay. -/
def forwards (ipv6Mode : Ipv6Mode) (packet : List UInt8) : Bool :=
  isWellFormedIpPacket packet ∧ (getByte packet 0 >>> 4 = 4 ∨ ipv6Mode = .proxy)

/-- What holds of both directions and of the counter, whenever the loop looks. -/
structure Intact (ipv6Mode : Ipv6Mode) (t : Tunnel) : Prop where
  taken : t.taken <+: (t.read.filter (forwards ipv6Mode)).flatten
  written : t.written.filterMap QueuedPacket.framed? <+: (receivePackets t.received).1
  queued : t.queuedBytes = (t.packets.map QueuedPacket.size).sum

/-- The invariant behind `Intact`: what was not sent or written yet is still there, in its order,
so that nothing is lost on the way. -/
structure Kept (ipv6Mode : Ipv6Mode) (t : Tunnel) : Prop where
  mode : t.ipv6Mode = ipv6Mode
  sends : t.taken ++ t.outbound.drop t.sendOffset = (t.read.filter (forwards ipv6Mode)).flatten
  frames : (t.written ++ t.packets).filterMap QueuedPacket.framed? = appRule.cut t.received
  queued : t.queuedBytes = (t.packets.map QueuedPacket.size).sum

/-- What lets the loop go on: `incoming` is what framing left.  A front that the rule rejects, or
an error, would have ended it in the turn before. -/
structure Ready (t : Tunnel) : Prop where
  incoming : t.incoming = appRule.left t.received
  accepted : appRule.judge (appRule.left t.received) ≠ none
  clean : t.error = none

/-- The packets a buffer is framed into are the cut of the length rule, and what it keeps is the
rest; framing fails where the rest is the front of no packet. -/
theorem receivePackets_eq (incoming : List UInt8) :
    receivePackets incoming = (appRule.cut incoming, appRule.left incoming,
      decide (appRule.judge (appRule.left incoming) = none)) :=
  receiveLoop_eq (Nat.lt_succ_self _)

variable {ipv6Mode : Ipv6Mode} {t : Tunnel}

/-- The invariant gives what is observed: both directions are prefixes. -/
theorem Kept.intact (kept : Kept ipv6Mode t) : Intact ipv6Mode t where
  taken := ⟨_, kept.sends⟩
  written := by
    rw [receivePackets_eq, ← kept.frames, List.filterMap_append]
    exact List.prefix_append _ _
  queued := kept.queued

/-- Failing with an error loses nothing. -/
theorem Kept.fail (kept : Kept ipv6Mode t) (code : Errno) : Kept ipv6Mode (t.fail code) :=
  ⟨kept.mode, kept.sends, kept.frames, kept.queued⟩

/-- A branch that keeps both directions, and lets the loop go on only when it is ready. -/
def Keeps (ipv6Mode : Ipv6Mode) (branch : Except Tunnel Tunnel) : Prop :=
  (∀ t, branch = .ok t → Kept ipv6Mode t ∧ Ready t) ∧ ∀ t, branch = .error t → Kept ipv6Mode t

/-- The loop goes on. -/
theorem keeps_ok (kept : Kept ipv6Mode t) (ready : Ready t) : Keeps ipv6Mode (.ok t) := by
  constructor
  · rintro _ ⟨⟩
    exact ⟨kept, ready⟩
  · nofun

/-- The loop breaks. -/
theorem keeps_error (kept : Kept ipv6Mode t) : Keeps ipv6Mode (.error t) := by
  constructor
  · nofun
  · rintro _ ⟨⟩
    exact kept

/-- One branch after the other. -/
theorem Keeps.bind {branch : Except Tunnel Tunnel} {next : Tunnel → Except Tunnel Tunnel}
    (first : Keeps ipv6Mode branch)
    (then_ : ∀ t, Kept ipv6Mode t → Ready t → Keeps ipv6Mode (next t)) :
    Keeps ipv6Mode (branch >>= next) := by
  cases branch with
  | error t => exact keeps_error (first.2 t rfl)
  | ok t =>
      obtain ⟨kept, ready⟩ := first.1 t rfl
      exact then_ t kept ready

/-- A branch that is skipped keeps both directions. -/
theorem keeps_when (kept : Kept ipv6Mode t) (ready : Ready t) (event : Bool)
    {branch : Tunnel → Except Tunnel Tunnel} (keeps : Keeps ipv6Mode (branch t)) :
    Keeps ipv6Mode (t.when event branch) := by
  unfold when
  split
  · exact keeps
  · exact keeps_ok kept ready

/-- A call that failed is made again or fails the tunnel. -/
theorem keeps_errno (kept : Kept ipv6Mode t) (ready : Ready t) (errno : Errno) :
    Keeps ipv6Mode (if errno.isTransient then .ok t else .error (t.fail errno)) := by
  split
  · exact keeps_ok kept ready
  · exact keeps_error (kept.fail errno)

/-! ### Branch by branch -/

/-- A packet that is neither dropped nor refused is the one to forward. -/
theorem forwards_iff {packet : List UInt8} :
    forwards ipv6Mode packet = true ↔
      isWellFormedIpPacket packet = true ∧ ¬ (isIpv6 packet = true ∧ ipv6Mode ≠ .proxy) := by
  rw [forwards, decide_eq_true_eq, isIpv6, decide_eq_true_eq, isWellFormedIpPacket_iff]
  refine and_congr_right fun complete => ?_
  rw [not_and, not_not]
  rcases complete with ⟨four, -, inside, -⟩ | ⟨six, total⟩
  · exact ⟨fun _ h => absurd (four.symm.trans h.2) (by decide), fun _ => .inl four⟩
  · constructor
    · rintro (four | proxy) -
      · exact absurd (six.symm.trans four) (by decide)
      · exact proxy
    · intro proxy
      exact .inr (proxy ⟨by omega, six⟩)

/-- A packet that does not go to the relay is read, counted as dropped, and adds nothing to what
must be sent. -/
theorem Kept.noteRead {packet : List UInt8} (kept : Kept ipv6Mode t)
    (not : forwards ipv6Mode packet = false) : Kept ipv6Mode (t.noteRead packet).countDropped := by
  refine ⟨kept.mode, ?_, kept.frames, kept.queued⟩
  show t.taken ++ t.outbound.drop t.sendOffset = ((t.read ++ [packet]).filter _).flatten
  rw [kept.sends, List.filter_append, List.filter_singleton, not, cond_false, List.append_nil]

/-- A reply goes behind the packets of the relay and is none of them. -/
theorem Kept.refuse (kept : Kept ipv6Mode t) (packet : List UInt8) :
    Kept ipv6Mode (t.refuse packet) := by
  unfold Tunnel.refuse
  split
  · split
    · rename_i reply built
      refine ⟨kept.mode, kept.sends, ?_, ?_⟩
      · show (t.written ++ (t.packets ++ [QueuedPacket.reply reply])).filterMap _ = _
        rw [← List.append_assoc, List.filterMap_append, kept.frames]
        exact List.append_nil _
      · show t.queuedBytes + reply.length = ((t.packets ++ [QueuedPacket.reply reply]).map _).sum
        rw [List.map_append, List.sum_append, kept.queued]
        rfl
    · exact kept
  · exact kept

/-- Compacting drops the bytes that were sent. -/
theorem compact_sends (t : Tunnel) :
    t.compact.outbound = t.outbound.drop t.sendOffset ∧ t.compact.sendOffset = 0 := by
  unfold compact
  split
  · exact ⟨rfl, rfl⟩
  · rename_i none
    have zero : t.sendOffset = 0 := not_not.mp none
    rw [zero]
    exact ⟨rfl, rfl⟩

/-- Compacting touches nothing else. -/
theorem compact_same (t : Tunnel) :
    t.compact = { t with outbound := t.compact.outbound, sendOffset := t.compact.sendOffset } := by
  unfold compact
  split <;> rfl

/-- **A packet that goes to the relay is appended behind what was not sent.**  The bytes on the
socket are the packets, one behind the other, and the offset says how much of the first one was
sent. -/
theorem Kept.forward {packet : List UInt8} (kept : Kept ipv6Mode t)
    (forwarded : forwards ipv6Mode packet = true) :
    Kept ipv6Mode ((t.noteRead packet).forward packet) := by
  obtain ⟨outbound, offset⟩ := (t.noteRead packet).compact_sends
  have same := (t.noteRead packet).compact_same
  rw [outbound, offset] at same
  rw [Tunnel.forward, same]
  refine ⟨kept.mode, ?_, kept.frames, kept.queued⟩
  show t.taken ++ (t.outbound.drop t.sendOffset ++ packet).drop 0 =
    ((t.read ++ [packet]).filter _).flatten
  rw [List.drop_zero, ← List.append_assoc, kept.sends, List.filter_append, List.filter_singleton,
    forwarded, cond_true, List.flatten_append, List.flatten_singleton]

/-- A refusal does not touch what the socket gave. -/
theorem Ready.refuse (ready : Ready t) (packet : List UInt8) : Ready (t.refuse packet) := by
  unfold Tunnel.refuse
  split
  · split
    · exact ⟨ready.incoming, ready.accepted, ready.clean⟩
    · exact ready
  · exact ready

/-- Neither does a forwarded packet. -/
theorem Ready.forward (ready : Ready t) (packet : List UInt8) : Ready (t.forward packet) := by
  rw [Tunnel.forward, compact_same]
  exact ⟨ready.incoming, ready.accepted, ready.clean⟩

/-- **Each packet read from the tun device is dropped, refused or forwarded.**  It is one packet,
as the tun device gives one to each read. -/
theorem keeps_takePacket (kept : Kept ipv6Mode t) (ready : Ready t) (packet : List UInt8) :
    Keeps ipv6Mode (.ok (t.takePacket packet)) := by
  have noted : Ready (t.noteRead packet) := ⟨ready.incoming, ready.accepted, ready.clean⟩
  have counted : Ready (t.noteRead packet).countDropped :=
    ⟨ready.incoming, ready.accepted, ready.clean⟩
  unfold takePacket
  rw [kept.mode]
  split
  · rename_i malformed
    refine keeps_ok (kept.noteRead ?_) counted
    rw [← Bool.not_eq_true, forwards_iff]
    exact fun h => malformed h.1
  · rename_i wellFormed
    split
    · rename_i refused
      refine keeps_ok ((kept.noteRead ?_).refuse packet) (counted.refuse packet)
      rw [← Bool.not_eq_true, forwards_iff]
      exact fun h => h.2 refused
    · rename_i kept'
      exact keeps_ok (kept.forward (forwards_iff.mpr ⟨not_not.mp wellFormed, kept'⟩))
        (noted.forward packet)

/-- The tun device gives a packet, or an error, and an empty read is an error. -/
theorem keeps_readTun (kept : Kept ipv6Mode t) (ready : Ready t) (call : SysResult (List UInt8)) :
    Keeps ipv6Mode (t.readTun call) := by
  cases call with
  | error errno => exact keeps_errno kept ready errno
  | ok offered =>
      rw [readTun]
      split
      · exact keeps_takePacket kept ready _
      · exact keeps_error (kept.fail _)

/-- The bytes that the socket took are still the front of what must be sent. -/
theorem Kept.took (kept : Kept ipv6Mode t) (count : ℕ) : Kept ipv6Mode (t.took count) := by
  refine ⟨kept.mode, ?_, kept.frames, kept.queued⟩
  show t.taken ++ (t.outbound.drop t.sendOffset).take count ++
    t.outbound.drop (t.sendOffset + count) = (t.read.filter _).flatten
  rw [← List.drop_drop, List.append_assoc, List.take_append_drop, kept.sends]

/-- A buffer that was sent whole is cleared. -/
theorem Kept.clearSent (kept : Kept ipv6Mode t) : Kept ipv6Mode t.clearSent := by
  unfold Tunnel.clearSent
  split
  · rename_i all
    refine ⟨kept.mode, ?_, kept.frames, kept.queued⟩
    have sends := kept.sends
    rwa [all, List.drop_length] at sends
  · exact kept

/-- Clearing it does not touch what the socket gave. -/
theorem Ready.clearSent (ready : Ready t) : Ready t.clearSent := by
  unfold Tunnel.clearSent
  split
  · exact ⟨ready.incoming, ready.accepted, ready.clean⟩
  · exact ready

/-- **The socket takes some of the bytes**, all of them, or none.  Those that it does not take stay
where they are, and come first the next time. -/
theorem keeps_sendSocket (kept : Kept ipv6Mode t) (ready : Ready t) (call : SysResult ℕ) :
    Keeps ipv6Mode (t.sendSocket call) := by
  cases call with
  | error errno => exact keeps_errno kept ready errno
  | ok most =>
      rw [sendSocket]
      split
      · have took : Ready (t.took (min most (t.outbound.length - t.sendOffset))) :=
          ⟨ready.incoming, ready.accepted, ready.clean⟩
        exact keeps_ok (kept.took _).clearSent took.clearSent
      · exact keeps_ok kept ready

/-- **Framing in pieces.**  What was received since the last framing goes behind what that left.
The packets that are queued are those of the whole stream, cut where the relay cut it, however the
socket has chopped it up. -/
theorem Kept.enqueue (kept : Kept ipv6Mode t) (ready : Ready t) (more : List UInt8) :
    Kept ipv6Mode ((t.feed more).enqueue (appRule.cut (t.incoming ++ more))) := by
  have cut := (appRule.cut_append t.received more ready.accepted).1
  rw [← ready.incoming] at cut
  set packets := appRule.cut (t.incoming ++ more)
  refine ⟨kept.mode, kept.sends, ?_, ?_⟩
  · show (t.written ++ (t.packets ++ packets.map QueuedPacket.framed)).filterMap _ =
      appRule.cut (t.received ++ more)
    have framed : (packets.map QueuedPacket.framed).filterMap QueuedPacket.framed? = packets := by
      rw [List.filterMap_map]
      exact List.filterMap_some
    rw [← List.append_assoc, List.filterMap_append, kept.frames, framed, cut]
  · show t.queuedBytes + (packets.map List.length).sum =
      ((t.packets ++ packets.map QueuedPacket.framed).map _).sum
    rw [List.map_append, List.sum_append, List.map_map, kept.queued]
    rfl

/-- Framing queues the packets that are whole, and fails the tunnel on a front that is no packet.
-/
theorem keeps_framePackets (kept : Kept ipv6Mode t) (ready : Ready t) (more : List UInt8) :
    Keeps ipv6Mode (t.feed more).framePackets := by
  have queued := kept.enqueue ready more
  have left := (appRule.cut_append t.received more ready.accepted).2
  rw [← ready.incoming] at left
  rw [framePackets, show (t.feed more).incoming = t.incoming ++ more from rfl, receivePackets_eq]
  by_cases failed : appRule.judge (appRule.left (t.incoming ++ more)) = none
  · simp only [decide_eq_true failed, if_true]
    exact keeps_error (queued.fail .eproto)
  · have clean : ((t.feed more).enqueue (appRule.cut (t.incoming ++ more))).error.isSome ≠ true := by
      show t.error.isSome ≠ true
      rw [ready.clean]
      decide
    simp only [decide_eq_false failed, if_false, if_neg clean, Bool.false_eq_true]
    refine keeps_ok ⟨queued.mode, queued.sends, queued.frames, queued.queued⟩
      ⟨left.symm, ?_, ready.clean⟩
    show appRule.judge (appRule.left (t.received ++ more)) ≠ none
    rwa [left]

/-- The socket gives bytes, its end, or an error. -/
theorem keeps_recvSocket (kept : Kept ipv6Mode t) (ready : Ready t) (call : SysResult (List UInt8)) :
    Keeps ipv6Mode (t.recvSocket call) := by
  cases call with
  | error errno =>
      rw [recvSocket]
      split
      · have same : t.feed [] = t := by
          rw [feed, List.append_nil, List.append_nil]
        rw [← same]
        exact keeps_framePackets kept ready []
      · exact keeps_error (kept.fail errno)
  | ok offered =>
      rw [recvSocket]
      split
      · exact keeps_error (kept.fail _)
      · exact keeps_framePackets kept ready _

/-- **The tun device takes a whole packet**, and one that it takes in part fails the tunnel.  A
packet leaves the queue only when all of it was written, so that none is written twice. -/
theorem keeps_writeTun (kept : Kept ipv6Mode t) (ready : Ready t) (call : SysResult ℕ) :
    Keeps ipv6Mode (t.writeTun call) := by
  have frames := kept.frames
  have queued := kept.queued
  unfold writeTun
  split
  · exact keeps_ok kept ready
  · rename_i packet rest queue
    cases call with
    | error errno => exact keeps_errno kept ready errno
    | ok count =>
        simp only
        split
        · refine keeps_ok ⟨kept.mode, kept.sends, ?_, ?_⟩
            ⟨ready.incoming, ready.accepted, ready.clean⟩
          · show (t.written ++ [packet] ++ rest).filterMap _ = _
            rw [List.append_assoc, List.singleton_append, ← queue]
            exact frames
          · show t.queuedBytes - packet.size = _
            rw [queued, queue, List.map_cons, List.sum_cons, Nat.add_sub_cancel_left]
        · exact keeps_error (kept.fail _)

/-- The three branches before the write. -/
theorem keeps_beforeWrite (kept : Kept ipv6Mode t) (ready : Ready t) (turn : Turn)
    (tun socket : Events) : Keeps ipv6Mode (t.beforeWrite turn tun socket) := by
  refine (keeps_when kept ready _ (keeps_readTun kept ready turn.read)).bind fun t kept ready => ?_
  refine (keeps_when kept ready _ (keeps_sendSocket kept ready turn.send)).bind
    fun t kept ready => ?_
  exact keeps_when kept ready _ (keeps_recvSocket kept ready turn.recv)

/-- **Whatever an iteration meets, it keeps both directions.**  It is the step lemma of
`run_intact`: the parts of the iteration are taken in their order, each by its own lemma. -/
theorem keeps_iterate (kept : Kept ipv6Mode t) (ready : Ready t) (turn : Turn) :
    Keeps ipv6Mode (t.iterate turn) := by
  unfold iterate
  split
  · exact keeps_error kept
  · split
    · exact keeps_ok kept ready
    · exact keeps_error (kept.fail _)
    · unfold serve
      split
      · exact keeps_error kept
      · split
        · exact keeps_error (kept.fail _)
        · refine (keeps_beforeWrite kept ready turn _ _).bind fun t kept ready => ?_
          refine (keeps_when kept ready _ (keeps_writeTun kept ready turn.write)).bind
            fun t kept ready => ?_
          split
          · exact keeps_error (kept.fail _)
          · exact keeps_ok kept ready

/-! ## Runs of the loop -/

/-- Before the first iteration nothing was read, received or written. -/
theorem kept_start (ipv6Mode : Ipv6Mode) : Kept ipv6Mode (start ipv6Mode) ∧ Ready (start ipv6Mode) := by
  have waits (n : ℕ) : appRule.judge [] ≠ some (some n) := by
    rw [appRule.judge_nil]
    exact nofun
  obtain ⟨cut, left⟩ := LengthRule.cut_of_not_item waits
  refine ⟨⟨rfl, rfl, cut.symm, rfl⟩, left.symm, ?_, rfl⟩
  show appRule.judge (appRule.left []) ≠ none
  rw [left, appRule.judge_nil]
  exact nofun

/-- **Both directions are kept by every iteration**, also by the one that breaks the loop; while it
runs, what is left of the input is the front of a packet. -/
theorem kept_of_run {turns : List (Tunnel × Turn)} (run : (machine ipv6Mode).Run turns t) :
    Kept ipv6Mode t ∧ (t.running = true → Ready t) := by
  refine run.invariant (fun t => Kept ipv6Mode t ∧ (t.running = true → Ready t)) ?_ ?_
    (Machine.meets_true turns)
  · rintro _ rfl
    exact ⟨(kept_start ipv6Mode).1, fun _ => (kept_start ipv6Mode).2⟩
  · rintro t turn _ ⟨kept, ready⟩ - ⟨running, rfl⟩
    have keeps := keeps_iterate kept (ready running) turn
    unfold afterTurn
    split
    · rename_i t' next
      obtain ⟨kept', ready'⟩ := keeps.1 t' next
      exact ⟨kept', fun _ => ready'⟩
    · rename_i t' broke
      have kept' := keeps.2 t' broke
      exact ⟨⟨kept'.mode, kept'.sends, kept'.frames, kept'.queued⟩, nofun⟩

/-- **Both directions of the tunnel are intact**, after every iteration and at every write to the
tun device.  The invariant speaks of all that was ever read and received, which the model keeps
beside the fields of the program. -/
theorem run_intact (ipv6Mode : Ipv6Mode) {turns : List (Tunnel × Turn)} {t : Tunnel}
    (run : (machine ipv6Mode).Run turns t) :
    t.Intact ipv6Mode ∧
      (t.running = true → ∀ turn tun socket atWrite,
        t.beforeWrite turn tun socket = .ok atWrite → atWrite.Intact ipv6Mode) := by
  obtain ⟨kept, ready⟩ := kept_of_run run
  refine ⟨kept.intact, fun running turn tun socket atWrite reached => ?_⟩
  exact ((keeps_beforeWrite kept (ready running) turn tun socket).1 atWrite reached).1.intact

/-- An iteration in which the tun device has a packet. -/
def readTurn (raw : List UInt8) : Turn where
  stopping := false
  poll := .ok (⟨true, false, false, false, false⟩, ⟨false, false, false, false, false⟩)
  stoppingBehindPoll := false
  read := .ok raw
  send := .error .eagain
  recv := .error .eagain
  write := .error .eagain

/-- An iteration in which the socket takes up to `most` bytes and gives `bytes`, and the tun
device takes `count` bytes of a packet. -/
def exchangeTurn (most : ℕ) (bytes : List UInt8) (count : ℕ) : Turn where
  stopping := false
  poll := .ok (⟨false, true, false, false, false⟩, ⟨true, true, false, false, false⟩)
  stoppingBehindPoll := false
  read := .error .eagain
  send := .ok most
  recv := .ok bytes
  write := .ok count

/-- A header without a payload, of 20 bytes. -/
def headerPacket : List UInt8 := [0x45, 0, 0, 20, 0, 0, 0, 0, 64, 1, 0, 0, 10, 0, 0, 2, 10, 0, 0, 1]

/-- A packet of the tun device is sent in part, twice; one of the relay comes in two pieces and
is written to the tun device, where the first byte of the next one is there already. -/
theorem run_intact_pieces :
    ∃ turns t, (machine .off).Run turns t ∧
      turns.map Prod.snd = [readTurn headerPacket, exchangeTurn 4 (headerPacket.take 13) 0,
        exchangeTurn 3 (headerPacket.drop 13) 0, exchangeTurn 0 [0x45] 20] ∧
      t.running = true ∧ t.read = [headerPacket] ∧ t.taken = headerPacket.take 7 ∧
      t.received = headerPacket ++ [0x45] ∧ t.written = [.framed headerPacket] ∧ t.Intact .off := by
  have run₁ : (machine .off).Run _ _ := (Machine.Run.start rfl).step
    (l := readTurn headerPacket) ⟨rfl, rfl⟩
  have run₂ := run₁.step (l := exchangeTurn 4 (headerPacket.take 13) 0) ⟨by decide, rfl⟩
  have run₃ := run₂.step (l := exchangeTurn 3 (headerPacket.drop 13) 0) ⟨by decide, rfl⟩
  have run₄ := run₃.step (l := exchangeTurn 0 [0x45] 20) ⟨by decide, rfl⟩
  refine ⟨_, _, run₄, rfl, ?_, ?_, ?_, ?_, ?_, (run_intact .off run₄).1⟩
  all_goals decide

end Tunnel

end ReverseTether
