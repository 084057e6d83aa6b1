import ReverseTether.Tunnel
import ReverseTether.Unreachable

/-!
# What the tunnel loop holds

The loop stops asking for input when a direction holds nearly `MAX_QUEUE` bytes.
Toward the relay one branch adds, and it is asked for with room for a whole packet.
Toward the tun device two branches add in one iteration, a refusal and what the socket
gave.  Each is let in for itself, the refusal without regard to the partial packet in
`incoming`: together they can exceed the bound.

The balance is taken over a whole iteration, since the loop asks for input once and reads
twice.  `iterate_held` gives what an iteration adds and what it takes; what the socket may
give is bounded by the room that was there when the loop polled, and a refusal by the size of
the longest one.

The condition of `run_bounded` is arithmetic on the iteration's inputs and on the state before
it.  `Filled.overfill` is the other side: from a state that runs do reach, one refused packet
and one full read leave more than the bound.
-/

namespace ReverseTether

open Library

namespace Tunnel

/-- The bytes on their way to the relay. -/
def unsent (t : Tunnel) : ℕ := t.outbound.length - t.sendOffset

/-- The bytes on their way to the tun device. -/
def held (t : Tunnel) : ℕ := t.queuedBytes + t.incoming.length

/-- The socket is asked for the rest of a partial packet, and the packet it completes is
queued. -/
structure Completes (t : Tunnel) : Prop where
  short : t.incoming.length < 65575
  polled : t.socketPollIn = true
  queues : ∀ rest, rest ≠ [] → rest.length ≤ MAX_PACKET → IsPacket (t.incoming ++ rest) →
    ∃ t', t.recvSocket (.ok rest) = .ok t' ∧
      t'.packets = t.packets ++ [.framed (t.incoming ++ rest)] ∧ t'.incoming = []

/-- The bounds of both directions at the end of an iteration, and what they leave room for. -/
structure Bounded (t : Tunnel) : Prop where
  sent : t.sendOffset ≤ t.outbound.length
  outbound : t.unsent ≤ MAX_QUEUE
  inbound : t.held ≤ MAX_QUEUE
  completes : t.packets = [] → t.Completes

/-! ## What an iteration adds and takes -/

/-- The size of the refusal that is queued for a packet. -/
def refusal (t : Tunnel) (packet : List UInt8) : ℕ :=
  if t.ipv6Mode = .blackhole ∧ t.queuedBytes + MAX_PACKET < MAX_QUEUE then
    ((buildIcmpv6Unreachable packet).map List.length).getD 0
  else 0

/-- Only an IPv6 packet that is not forwarded is refused. -/
def refused (t : Tunnel) (packet : List UInt8) : ℕ :=
  if ¬ isWellFormedIpPacket packet then 0
  else if isIpv6 packet ∧ t.ipv6Mode ≠ .proxy then t.refusal packet
  else 0

/-- The size of the refusal for what is read from the tun device. -/
def answered (t : Tunnel) : SysResult (List UInt8) → ℕ
  | .ok offered => t.refused (offered.take MAX_PACKET)
  | .error _ => 0

/-- The bytes the socket gives. -/
def given : SysResult (List UInt8) → ℕ
  | .ok offered => (offered.take MAX_PACKET).length
  | .error _ => 0

/-- The size of the packet the tun device takes. -/
def drained (t : Tunnel) : SysResult ℕ → ℕ
  | .ok count => if count = (t.packets.map QueuedPacket.size).headI then count else 0
  | .error _ => 0

/-- What an iteration adds to the packets for the tun device by its two branches, and takes
from them. -/
structure Balance where
  answers : ℕ
  receives : ℕ
  writes : ℕ

/-- The balance of an iteration, from the state it starts in and what its calls meet. -/
def balance (t : Tunnel) (turn : Turn) : Balance :=
  match turn.poll with
  | .ok (tun, socket) =>
      { answers := bif tun.pollIn && t.tunPollIn then t.answered turn.read else 0
        receives := bif socket.pollIn && t.socketPollIn then given turn.recv else 0
        writes := bif tun.pollOut && t.tunPollOut then t.drained turn.write else 0 }
  | .error _ => ⟨0, 0, 0⟩

/-- The refusal leaves room for what the socket gives in the same iteration. -/
def LeavesRoom (t : Tunnel) (turn : Turn) : Prop :=
  (t.balance turn).answers = 0 ∨
    t.held + (t.balance turn).answers + (t.balance turn).receives ≤
      MAX_QUEUE + (t.balance turn).writes

/-! ## Branch by branch -/

/-- A branch that adds `count` bytes for the tun device, behind the packets that wait. -/
structure Adds (count : ℕ) (t t' : Tunnel) : Prop where
  held : t'.held = t.held + count
  packets : t.packets <+: t'.packets

/-- The bytes that were sent are bytes of `outbound`, and no more than `most` wait. -/
structure Waiting (most : ℕ) (t : Tunnel) : Prop where
  sent : t.sendOffset ≤ t.outbound.length
  unsent : t.unsent ≤ most

variable {ipv6Mode : Ipv6Mode} {t t' t'' : Tunnel} {count count' most : ℕ}

theorem Adds.refl (t : Tunnel) : Adds 0 t t := ⟨rfl, List.prefix_rfl⟩

theorem Adds.trans (first : Adds count t t') (second : Adds count' t' t'') :
    Adds (count + count') t t'' where
  held := by rw [second.held, first.held, Nat.add_assoc]
  packets := first.packets.trans second.packets

/-- A weaker bound follows from a stronger one. -/
theorem Waiting.mono (waiting : Waiting count t) (le : count ≤ most) : Waiting most t :=
  ⟨waiting.sent, waiting.unsent.trans le⟩

/-- **A refusal adds exactly its own size**, which is 0 when the mode, the room or the packet does
not allow one.  The room that it asks for is measured before the answer is queued, and not together
with what the socket brings in the same iteration. -/
theorem refuse_adds (t : Tunnel) (packet : List UInt8) :
    Adds (t.refusal packet) t (t.refuse packet) := by
  unfold refuse refusal
  split
  · cases built : buildIcmpv6Unreachable packet with
    | none => exact Adds.refl t
    | some reply =>
        refine ⟨?_, List.prefix_append _ _⟩
        show t.queuedBytes + reply.length + t.incoming.length =
          t.queuedBytes + t.incoming.length + reply.length
        omega
  · exact Adds.refl t

/-- A forwarded packet goes the other way, and adds nothing for the tun device. -/
theorem forward_adds (t : Tunnel) (packet : List UInt8) : Adds 0 t (t.forward packet) := by
  rw [forward, compact_same]
  exact ⟨rfl, List.prefix_rfl⟩

/-- Of what is read from the tun device, only a refused IPv6 packet is answered; a dropped packet
and a forwarded one add nothing. -/
theorem takePacket_adds (t : Tunnel) (packet : List UInt8) :
    Adds (t.refused packet) t (t.takePacket packet) := by
  unfold takePacket refused
  split
  · exact ⟨rfl, List.prefix_rfl⟩
  · split
    · obtain ⟨held, packets⟩ := refuse_adds (t.noteRead packet).countDropped packet
      exact ⟨held, packets⟩
    · obtain ⟨held, packets⟩ := forward_adds (t.noteRead packet) packet
      exact ⟨held, packets⟩

/-- A call that failed leaves the tunnel alone, when the loop goes on. -/
theorem errno_ok {errno : Errno}
    (next : (if errno.isTransient then .ok t else .error (t.fail errno)) =
      (.ok t' : Except Tunnel Tunnel)) : t' = t := by
  split at next
  · cases next
    rfl
  · cases next

/-- The branch that reads the tun device adds the refusal it queued. -/
theorem readTun_adds {call : SysResult (List UInt8)} (next : t.readTun call = .ok t') :
    Adds (t.answered call) t t' := by
  cases call with
  | error errno =>
      rw [errno_ok next]
      exact Adds.refl t
  | ok offered =>
      rw [readTun] at next
      split at next
      · cases next
        exact t.takePacket_adds _
      · cases next

/-- Sending to the relay adds nothing for the tun device. -/
theorem sendSocket_adds {call : SysResult ℕ} (next : t.sendSocket call = .ok t') :
    Adds 0 t t' := by
  cases call with
  | error errno =>
      rw [errno_ok next]
      exact Adds.refl t
  | ok most =>
      rw [sendSocket] at next
      split at next
      · cases next
        unfold clearSent
        split <;> exact ⟨rfl, List.prefix_rfl⟩
      · cases next
        exact Adds.refl t

/-- Framing moves bytes from `incoming` to the queue. -/
theorem framePackets_adds {more : List UInt8} (next : (t.feed more).framePackets = .ok t') :
    Adds more.length t t' := by
  have fed : (t.feed more).incoming.length = t.incoming.length + more.length := List.length_append
  have cut := congrArg List.length (appRule.cut_left (t.feed more).incoming).1
  rw [List.length_append, List.length_flatten] at cut
  rw [framePackets, receivePackets_eq] at next
  by_cases failed : appRule.judge (appRule.left (t.feed more).incoming) = none
  · simp only [decide_eq_true failed, if_true] at next
    cases next
  · simp only [decide_eq_false failed, if_false, Bool.false_eq_true] at next
    split at next
    · cases next
    · cases next
      refine ⟨?_, List.prefix_append _ _⟩
      show t.queuedBytes + ((appRule.cut (t.feed more).incoming).map List.length).sum +
        (appRule.left (t.feed more).incoming).length = t.queuedBytes + t.incoming.length + more.length
      omega

/-- **The branch that reads the socket adds what it was given**, whether it stays in `incoming` or
was framed into packets.  Cutting moves bytes from `incoming` to the queue and drops none. -/
theorem recvSocket_adds {call : SysResult (List UInt8)} (next : t.recvSocket call = .ok t') :
    Adds (given call) t t' := by
  cases call with
  | error errno =>
      rw [recvSocket] at next
      split at next
      · have same : t.feed [] = t := by rw [feed, List.append_nil, List.append_nil]
        rw [← same] at next
        exact framePackets_adds next
      · cases next
  | ok offered =>
      rw [recvSocket] at next
      split at next
      · cases next
      · exact framePackets_adds next

/-- Writing to the tun device takes the packet it wrote, and takes nothing when the device did not
take the whole of it.  That the counter of queued bytes is right is needed here: otherwise the
subtraction would not come out. -/
theorem Adds.writeTun (queued : t.queuedBytes = (t.packets.map QueuedPacket.size).sum)
    {call : SysResult ℕ} (next : t.writeTun call = .ok t') : t'.held + t.drained call = t.held := by
  unfold Tunnel.writeTun at next
  unfold drained
  split at next
  · rename_i none
    cases next
    rw [none]
    cases call with
    | error errno => rfl
    | ok count =>
        simp only [List.map_nil, List.headI_nil]
        split
        · rename_i zero
          rw [zero]
          rfl
        · rfl
  · rename_i packet rest queue
    cases call with
    | error errno =>
        rw [errno_ok next]
        rfl
    | ok count =>
        simp only at next ⊢
        rw [queue, List.map_cons, List.headI_cons]
        split at next
        · rename_i whole
          cases next
          rw [if_pos whole, whole]
          rw [queue, List.map_cons, List.sum_cons] at queued
          show t.queuedBytes - packet.size + t.incoming.length + packet.size =
            t.queuedBytes + t.incoming.length
          omega
        · cases next

/-- Forwarding raises the bound by the packet; the bytes that were sent are compacted away before
it is appended. -/
theorem forward_waiting (waiting : Waiting most t) (packet : List UInt8) :
    Waiting (most + packet.length) (t.forward packet) := by
  obtain ⟨outbound, offset⟩ := t.compact_sends
  have sent : (t.forward packet).sendOffset = 0 := offset
  have appended : (t.forward packet).outbound.length =
      t.outbound.length - t.sendOffset + packet.length := by
    show (t.compact.outbound ++ packet).length = _
    rw [List.length_append, outbound, List.length_drop]
  have unsent := waiting.unsent
  unfold Tunnel.unsent at unsent
  refine ⟨by rw [sent]; exact Nat.zero_le _, ?_⟩
  rw [Tunnel.unsent, sent, appended]
  omega

/-- A refusal leaves the direction to the relay alone. -/
theorem refuse_waiting (waiting : Waiting most t) (packet : List UInt8) :
    Waiting most (t.refuse packet) := by
  unfold refuse
  split
  · split
    · exact ⟨waiting.sent, waiting.unsent⟩
    · exact waiting
  · exact waiting

/-- One read of the tun device raises the bound by a packet of the longest size, at most. -/
theorem readTun_waiting (waiting : Waiting most t) {call : SysResult (List UInt8)}
    (next : t.readTun call = .ok t') : Waiting (most + MAX_PACKET) t' := by
  cases call with
  | error errno =>
      rw [errno_ok next]
      exact waiting.mono (Nat.le_add_right _ _)
  | ok offered =>
      have short : (offered.take MAX_PACKET).length ≤ MAX_PACKET := List.length_take_le _ _
      have noted : Waiting most (t.noteRead (offered.take MAX_PACKET)) :=
        ⟨waiting.sent, waiting.unsent⟩
      have counted : Waiting most (t.noteRead (offered.take MAX_PACKET)).countDropped :=
        ⟨waiting.sent, waiting.unsent⟩
      rw [readTun] at next
      split at next
      · cases next
        unfold takePacket
        split
        · exact counted.mono (Nat.le_add_right _ _)
        · split
          · exact (refuse_waiting counted _).mono (Nat.le_add_right _ _)
          · exact (forward_waiting noted _).mono (by omega)
      · cases next

/-- Sending only shortens what waits, also when all of it was sent and the buffer is cleared. -/
theorem sendSocket_waiting (waiting : Waiting most t) {call : SysResult ℕ}
    (next : t.sendSocket call = .ok t') : Waiting most t' := by
  obtain ⟨sent, unsent⟩ := waiting
  unfold Tunnel.unsent at unsent
  cases call with
  | error errno =>
      rw [errno_ok next]
      exact ⟨sent, unsent⟩
  | ok offered =>
      rw [sendSocket] at next
      split at next
      · cases next
        unfold clearSent
        split
        · exact ⟨le_rfl, Nat.zero_le _⟩
        · refine ⟨?_, ?_⟩
          · show t.sendOffset + min offered (t.outbound.length - t.sendOffset) ≤ t.outbound.length
            omega
          · show t.outbound.length -
              (t.sendOffset + min offered (t.outbound.length - t.sendOffset)) ≤ most
            omega
      · cases next
        exact ⟨sent, unsent⟩

/-- Framing leaves the other direction alone. -/
theorem framePackets_waiting (waiting : Waiting most t) (next : t.framePackets = .ok t') :
    Waiting most t' := by
  rw [framePackets, receivePackets_eq] at next
  by_cases failed : appRule.judge (appRule.left t.incoming) = none
  · simp only [decide_eq_true failed, if_true] at next
    cases next
  · simp only [decide_eq_false failed, if_false, Bool.false_eq_true] at next
    split at next
    · cases next
    · cases next
      exact ⟨waiting.sent, waiting.unsent⟩

/-- Reading the socket leaves the direction to the relay alone. -/
theorem recvSocket_waiting (waiting : Waiting most t) {call : SysResult (List UInt8)}
    (next : t.recvSocket call = .ok t') : Waiting most t' := by
  cases call with
  | error errno =>
      rw [recvSocket] at next
      split at next
      · exact framePackets_waiting waiting next
      · cases next
  | ok offered =>
      rw [recvSocket] at next
      split at next
      · cases next
      · exact framePackets_waiting (t := t.feed _) ⟨waiting.sent, waiting.unsent⟩ next

/-- Writing to the tun device leaves the direction to the relay alone. -/
theorem writeTun_waiting (waiting : Waiting most t) {call : SysResult ℕ}
    (next : t.writeTun call = .ok t') : Waiting most t' := by
  unfold Tunnel.writeTun at next
  split at next
  · cases next
    exact waiting
  · cases call with
    | error errno =>
        rw [errno_ok next]
        exact waiting
    | ok count =>
        simp only at next
        split at next
        · cases next
          exact ⟨waiting.sent, waiting.unsent⟩
        · cases next

/-! ## A whole iteration -/

/-- An iteration that goes on went through each of its branches. -/
theorem bind_ok {branch : Except Tunnel Tunnel} {next : Tunnel → Except Tunnel Tunnel}
    (reached : (branch >>= next) = .ok t') : ∃ t, branch = .ok t ∧ next t = .ok t' := by
  cases branch with
  | error t => cases reached
  | ok t => exact ⟨t, rfl, reached⟩

/-- A branch that its event skips adds nothing. -/
theorem when_adds {event : Bool} {branch : Tunnel → Except Tunnel Tunnel}
    (adds : branch t = .ok t' → Adds count t t') (next : t.when event branch = .ok t') :
    Adds (bif event then count else 0) t t' := by
  unfold Tunnel.when at next
  split at next
  · rename_i asked
    rw [asked]
    exact adds next
  · rename_i quiet
    cases next
    rw [Bool.not_eq_true] at quiet
    rw [quiet]
    exact Adds.refl t

/-- A branch that its event skips keeps the bound. -/
theorem when_waiting {event : Bool} {branch : Tunnel → Except Tunnel Tunnel}
    (waiting : Waiting most t) (keeps : branch t = .ok t' → Waiting most t')
    (next : t.when event branch = .ok t') : Waiting most t' := by
  unfold Tunnel.when at next
  split at next
  · exact keeps next
  · cases next
    exact waiting

/-- An iteration that goes on, branch by branch. -/
theorem serve_ok {turn : Turn} {tun socket : Events} (next : t.serve turn tun socket = .ok t') :
    ∃ read sent received,
      t.when tun.pollIn (fun t => t.readTun turn.read) = .ok read ∧
      read.when socket.pollOut (fun t => t.sendSocket turn.send) = .ok sent ∧
      sent.when socket.pollIn (fun t => t.recvSocket turn.recv) = .ok received ∧
      t.beforeWrite turn tun socket = .ok received ∧
      received.when tun.pollOut (fun t => t.writeTun turn.write) = .ok t' := by
  unfold serve at next
  split at next
  · cases next
  · split at next
    · cases next
    · obtain ⟨received, before, next⟩ := bind_ok next
      obtain ⟨written, write, next⟩ := bind_ok next
      obtain ⟨read, first, rest⟩ := bind_ok before
      obtain ⟨sent, second, third⟩ := bind_ok rest
      split at next
      · cases next
      · cases next
        exact ⟨read, sent, received, first, second, third, before, write⟩

/-- What the tun device takes was waiting when the iteration began. -/
theorem drained_of_prefix (waits : t.tunPollOut = true) (later : t.packets <+: t'.packets)
    (call : SysResult ℕ) : t'.drained call = t.drained call := by
  obtain ⟨more, later⟩ := later
  unfold tunPollOut at waits
  unfold drained
  rw [← later]
  cases queue : t.packets with
  | nil =>
      rw [queue] at waits
      cases waits
  | cons packet rest => rfl

/-- **The balance of an iteration.**  What was held and came in is what is held and went out;
nothing is copied and nothing lost. -/
theorem iterate_held (kept : Kept ipv6Mode t) (ready : Ready t) {turn : Turn}
    (next : t.iterate turn = .ok t') :
    t'.held + (t.balance turn).writes =
      t.held + (t.balance turn).answers + (t.balance turn).receives := by
  unfold iterate at next
  unfold balance
  split at next
  · cases next
  · split at next
    · rename_i polled
      cases next
      rw [polled]
      rfl
    · cases next
    · rename_i tun socket polled
      obtain ⟨read, sent, received, first, second, third, before, write⟩ := serve_ok next
      have answers := when_adds readTun_adds first
      have receives := when_adds recvSocket_adds third
      have added := (answers.trans (when_adds sendSocket_adds second)).trans receives
      rw [Bool.cond_self, Nat.add_zero] at added
      have queued := ((keeps_beforeWrite kept ready turn _ _).1 received before).1.queued
      rw [polled]
      show t'.held + (bif tun.pollOut && t.tunPollOut then t.drained turn.write else 0) =
        t.held + (bif tun.pollIn && t.tunPollIn then t.answered turn.read else 0) +
          (bif socket.pollIn && t.socketPollIn then given turn.recv else 0)
      have held : received.held = t.held +
          ((bif tun.pollIn && t.tunPollIn then t.answered turn.read else 0) +
            (bif socket.pollIn && t.socketPollIn then given turn.recv else 0)) := added.held
      rw [Nat.add_assoc, ← held]
      unfold Tunnel.when at write
      split at write
      · rename_i asked
        change (tun.pollOut && t.tunPollOut) = true at asked
        have waits := (Bool.and_eq_true_iff.mp asked).2
        rw [asked, cond_true, ← drained_of_prefix waits added.packets]
        exact Adds.writeTun queued write
      · rename_i quiet
        change ¬ (tun.pollOut && t.tunPollOut) = true at quiet
        cases write
        rw [Bool.not_eq_true] at quiet
        rw [quiet, cond_false, Nat.add_zero]

/-- Only one branch adds for the relay, and it is asked for with room for a whole packet. -/
theorem iterate_waiting (waiting : Waiting MAX_QUEUE t) {turn : Turn}
    (next : t.iterate turn = .ok t') : Waiting MAX_QUEUE t' := by
  unfold iterate at next
  split at next
  · cases next
  · split at next
    · cases next
      exact waiting
    · cases next
    · rename_i tun socket polled
      obtain ⟨read, sent, received, first, second, third, -, write⟩ := serve_ok next
      have behindRead : Waiting MAX_QUEUE read := by
        unfold Tunnel.when at first
        split at first
        · rename_i asked
          have room : t.unsent < MAX_QUEUE - MAX_PACKET :=
            of_decide_eq_true (Bool.and_eq_true_iff.mp asked).2
          have few : Waiting (MAX_QUEUE - MAX_PACKET) t := ⟨waiting.sent, room.le⟩
          exact readTun_waiting few first
        · cases first
          exact waiting
      have behindSend := when_waiting behindRead (sendSocket_waiting behindRead) second
      have behindRecv := when_waiting behindSend (recvSocket_waiting behindSend) third
      exact when_waiting behindRecv (writeTun_waiting behindRecv) write

/-! ## The bounds over runs -/

/-- Input is asked for with room for what the socket gives. -/
theorem receives_le (t : Tunnel) (turn : Turn) :
    (t.balance turn).receives = 0 ∨
      t.held + (t.balance turn).receives ≤ MAX_QUEUE := by
  unfold balance
  split
  · rename_i tun socket polled
    show (bif socket.pollIn && t.socketPollIn then given turn.recv else 0) = 0 ∨
      t.held + (bif socket.pollIn && t.socketPollIn then given turn.recv else 0) ≤ MAX_QUEUE
    cases asked : socket.pollIn && t.socketPollIn with
    | false => exact .inl rfl
    | true =>
        right
        have room : t.held < MAX_QUEUE - MAX_PACKET :=
          of_decide_eq_true (Bool.and_eq_true_iff.mp asked).2
        have most : given turn.recv ≤ MAX_PACKET := by
          cases turn.recv with
          | error errno => exact Nat.zero_le _
          | ok offered => exact List.length_take_le _ _
        have size : MAX_QUEUE = 1048576 ∧ MAX_PACKET = 65535 := ⟨rfl, rfl⟩
        rw [cond_true]
        omega
  · exact .inl rfl

/-- **What is held stays bounded exactly as long as a refusal leaves room.**  The condition is
arithmetic about the state before the iteration and what the system calls answer in it. -/
theorem iterate_bounded (kept : Kept ipv6Mode t) (ready : Ready t) (inbound : t.held ≤ MAX_QUEUE)
    {turn : Turn} (next : t.iterate turn = .ok t') : t'.held ≤ MAX_QUEUE ↔ t.LeavesRoom turn := by
  have held := iterate_held kept ready next
  have receives := receives_le t turn
  unfold LeavesRoom
  omega

/-- A partial packet is shorter than a packet can be. -/
theorem length_lt_of_partial {data : List UInt8} (accepted : appJudge data ≠ none)
    (more : ∀ n, appJudge data ≠ some (some n)) : data.length < 65575 := by
  by_contra long
  rw [not_lt] at long
  have longer : 4 ≤ data.length := by omega
  have known : ipPacketLength data ≠ none := fun none => accepted (appJudge_eq_none.mpr ⟨longer, none⟩)
  by_cases four : getByte data 0 >>> 4 = 4
  · have total := (getU16 data 2).toNat_lt
    rw [ipPacketLength_ipv4 four, if_neg (by omega)] at known
    refine more (getU16 data 2).toNat (appJudge_eq_item.mpr ⟨longer, ?_, ?_, by omega⟩)
    · rw [ipPacketLength_ipv4 four, if_neg (by omega), if_neg fun bad => known (if_pos bad)]
    · intro zero
      exact known (if_pos (by omega))
  · by_cases six : getByte data 0 >>> 4 = 6
    · have payload := (getU16 data 4).toNat_lt
      refine more (40 + (getU16 data 4).toNat) (appJudge_eq_item.mpr ⟨longer, ?_, by omega, by omega⟩)
      rw [ipPacketLength_ipv6 six, if_neg (by omega)]
    · exact known (ipPacketLength_other four six)

/-- Framing a single packet. -/
theorem cut_packet {raw : List UInt8} (packet : IsPacket raw) :
    appRule.cut raw = [raw] ∧ appRule.left raw = [] := by
  have item : appRule.judge raw = some (some raw.length) :=
    judges_item.mp (relayJudge_isPacket.mpr packet)
  obtain ⟨none, empty⟩ := @LengthRule.cut_of_not_item _ appRule [] fun n known => by
    rw [appRule.judge_nil] at known
    cases known
  obtain ⟨cut, left⟩ := LengthRule.cut_of_item item
  rw [cut, left, List.drop_length, List.take_length, none, empty]
  exact ⟨rfl, rfl⟩

/-- What completes a packet queues it. -/
theorem recvSocket_packet (clean : t.error = none) {rest : List UInt8} (nonempty : rest ≠ [])
    (short : rest.length ≤ MAX_PACKET) (packet : IsPacket (t.incoming ++ rest)) :
    t.recvSocket (.ok rest) =
      .ok { (t.feed rest).enqueue [t.incoming ++ rest] with incoming := [] } := by
  obtain ⟨cut, left⟩ := cut_packet packet
  rw [recvSocket]
  simp only [List.take_of_length_le short, List.length_eq_zero_iff, if_neg nonempty]
  rw [framePackets, show (t.feed rest).incoming = t.incoming ++ rest from rfl, receivePackets_eq,
    cut, left, appRule.judge_nil]
  have clean : ((t.feed rest).enqueue [t.incoming ++ rest]).error.isSome = false := by
    show t.error.isSome = false
    rw [clean]
    rfl
  simp [clean]

/-- **With nothing queued, a partial packet can be completed.**  It is shorter than the longest
packet, so that the loop asks for input, and the bytes that complete it make a packet that is
queued. -/
theorem completes_of_empty (kept : Kept ipv6Mode t) (ready : Ready t) (empty : t.packets = []) :
    t.Completes := by
  have short : t.incoming.length < 65575 := by
    have accepted := ready.accepted
    have more := (appRule.cut_left t.received).2
    rw [← ready.incoming] at accepted more
    exact length_lt_of_partial accepted more
  have queued := kept.queued
  rw [empty] at queued
  refine ⟨short, decide_eq_true ?_, fun rest nonempty fits packet => ?_⟩
  · rw [queued]
    have size : MAX_QUEUE = 1048576 ∧ MAX_PACKET = 65535 := ⟨rfl, rfl⟩
    show 0 + t.incoming.length < _
    omega
  · exact ⟨_, recvSocket_packet ready.clean nonempty fits packet, rfl, rfl⟩

/-- At the start nothing waits. -/
theorem waiting_start (ipv6Mode : Ipv6Mode) : Waiting MAX_QUEUE (start ipv6Mode) :=
  ⟨le_rfl, Nat.zero_le _⟩

/-- **The tunnel holds at most `MAX_QUEUE` bytes in each direction** after every iteration of
a run in which each refusal leaves room, and an iteration that goes on breaks the bound
exactly when its refusal does not. -/
theorem run_bounded (ipv6Mode : Ipv6Mode) {turns : List (Tunnel × Turn)} {t : Tunnel}
    (run : (machine ipv6Mode).Run turns t) (room : Machine.Meets LeavesRoom turns)
    (running : t.running = true) :
    t.Bounded ∧ ∀ turn t', t.iterate turn = .ok t' → (t'.Bounded ↔ t.LeavesRoom turn) := by
  have bounded : t.running = true → Kept ipv6Mode t ∧ Ready t ∧ Waiting MAX_QUEUE t ∧
      t.held ≤ MAX_QUEUE := by
    refine run.invariant (fun t => t.running = true → Kept ipv6Mode t ∧ Ready t ∧
      Waiting MAX_QUEUE t ∧ t.held ≤ MAX_QUEUE) ?_ ?_ room
    · rintro _ rfl -
      obtain ⟨kept, ready⟩ := kept_start ipv6Mode
      exact ⟨kept, ready, waiting_start ipv6Mode, Nat.zero_le _⟩
    · rintro t turn _ inv room ⟨running, rfl⟩ still
      obtain ⟨kept, ready, waiting, inbound⟩ := inv running
      unfold afterTurn at still ⊢
      split
      · rename_i t' next
        obtain ⟨kept', ready'⟩ := (keeps_iterate kept ready turn).1 t' next
        exact ⟨kept', ready', iterate_waiting waiting next,
          (iterate_bounded kept ready inbound next).mpr room⟩
      · rename_i t' broke
        rw [broke] at still
        cases still
  obtain ⟨kept, ready, waiting, inbound⟩ := bounded running
  refine ⟨⟨waiting.sent, waiting.unsent, inbound, completes_of_empty kept ready⟩,
    fun turn t' next => ?_⟩
  rw [← iterate_bounded kept ready inbound next]
  obtain ⟨kept', ready'⟩ := (keeps_iterate kept ready turn).1 t' next
  have waiting' := iterate_waiting waiting next
  constructor
  · exact fun bounded => bounded.inbound
  · exact fun inbound' =>
      ⟨waiting'.sent, waiting'.unsent, inbound', completes_of_empty kept' ready'⟩

/-- The socket gives `packet`, and the tun device may have an IPv6 packet. -/
def inputTurn (packet : List UInt8) (tun : Bool) : Turn where
  stopping := false
  poll := .ok (⟨tun, false, false, false, false⟩, ⟨true, false, false, false, false⟩)
  stoppingBehindPoll := false
  read := .ok barePacket
  send := .error .eagain
  recv := .ok packet
  write := .error .eagain

/-- One refusal is queued, and with it a packet that the socket gives in the same iteration. -/
theorem run_bounded_refusal :
    ∃ turns t, (machine .blackhole).Run turns t ∧
      turns.map Prod.snd = [inputTurn headerPacket true] ∧ t.dropped = 1 ∧
      t.packets.map QueuedPacket.size = [88, 20] ∧ t.Bounded := by
  have run : (machine .blackhole).Run _ _ := (Machine.Run.start rfl).step
    (l := inputTurn headerPacket true) ⟨rfl, rfl⟩
  have room : Machine.Meets LeavesRoom [(start .blackhole, inputTurn headerPacket true)] :=
    Machine.meets_singleton.mpr (.inr (by decide))
  refine ⟨_, _, run, rfl, ?_, ?_, (run_bounded .blackhole run room ?_).1⟩
  all_goals decide

/-! ## A refusal that leaves no room -/

/-- An IP packet of the largest size that an IPv4 header can say, 65535 bytes. -/
structure Largest (packet : List UInt8) : Prop where
  whole : IsPacket packet
  length : packet.length = 65535

/-- The state behind a packet received whole. -/
def fill (t : Tunnel) (packet : List UInt8) : Tunnel :=
  { (t.feed packet).enqueue [packet] with incoming := [] }

/-- A state between two turns that fill the queue: `packets` packets of the largest size wait, and
no partial packet and no unsent byte are left. -/
structure Filled (packets : ℕ) (t : Tunnel) : Prop where
  mode : t.ipv6Mode = .blackhole
  running : t.running = true
  clean : t.error = none
  idle : t.unsent = 0
  incoming : t.incoming = []
  queued : t.queuedBytes = packets * 65535

variable {packet : List UInt8}

/-- A packet of the largest size is queued whole by one read of the socket. -/
theorem recvSocket_largest (largest : Largest packet) (clean : t.error = none)
    (empty : t.incoming = []) : t.recvSocket (.ok packet) = .ok (t.fill packet) := by
  have nonempty : packet ≠ [] := by
    refine List.ne_nil_of_length_pos ?_
    rw [largest.length]
    decide
  have received := recvSocket_packet (t := t) clean nonempty largest.length.le
  rw [empty, List.nil_append] at received
  exact received largest.whole

/-- What an input turn comes to: the refusal, when the tun device has a packet, and then what the
socket gave. -/
theorem iterate_inputTurn (packet : List UInt8) (tun : Bool) (polled : t.socketPollIn = true) :
    t.iterate (inputTurn packet tun) =
      t.when (tun && t.tunPollIn) (fun t => t.readTun (.ok barePacket)) >>= fun t =>
        t.recvSocket (.ok packet) := by
  simp only [iterate, inputTurn, serve, Events.reported, beforeWrite, Bool.false_and, Bool.true_and,
    polled, Bool.or_false, Bool.false_eq_true, if_false]
  cases t.when (tun && t.tunPollIn) fun t => t.readTun (.ok barePacket) with
  | error t => rfl
  | ok t =>
      show (t.recvSocket (.ok packet) >>= fun t => .ok t) = t.recvSocket (.ok packet)
      cases t.recvSocket (.ok packet) <;> rfl

/-- Fifteen packets of the largest size leave room enough for the loop to ask for another. -/
theorem Filled.polled {packets : ℕ} (filled : Filled packets t) (few : packets ≤ 15) :
    t.socketPollIn = true := by
  refine decide_eq_true ?_
  rw [filled.queued, filled.incoming]
  have size : MAX_QUEUE = 1048576 ∧ MAX_PACKET = 65535 := ⟨rfl, rfl⟩
  show packets * 65535 + 0 < _
  omega

/-- One more packet of the largest size is queued. -/
theorem Filled.fill {packets : ℕ} (filled : Filled packets t) (few : packets ≤ 15)
    (largest : Largest packet) :
    Filled (packets + 1) (t.afterTurn (inputTurn packet false)) := by
  have next : t.iterate (inputTurn packet false) = .ok (t.fill packet) := by
    rw [iterate_inputTurn packet false (filled.polled few)]
    exact recvSocket_largest largest filled.clean filled.incoming
  unfold afterTurn
  rw [next]
  refine ⟨filled.mode, filled.running, filled.clean, filled.idle, rfl, ?_⟩
  show t.queuedBytes + [packet.length].sum = _
  rw [filled.queued, largest.length, List.sum_singleton]
  omega

/-- Fifteen packets wait, and the socket is still asked for input. -/
theorem run_fills (largest : Largest packet) (packets : ℕ) (few : packets ≤ 15) :
    ∃ turns t, (machine .blackhole).Run turns t ∧ Filled packets t := by
  induction packets with
  | zero => exact ⟨[], start .blackhole, .start rfl, rfl, rfl, rfl, rfl, rfl, rfl⟩
  | succ packets ih =>
      obtain ⟨turns, t, run, filled⟩ := ih (by omega)
      exact ⟨_, _, run.step ⟨filled.running, rfl⟩, filled.fill (by omega) largest⟩

/-- The refusal of an IPv6 packet is queued. -/
theorem takePacket_barePacket (blackhole : t.ipv6Mode = .blackhole)
    (admitted : t.queuedBytes + MAX_PACKET < MAX_QUEUE) :
    ∃ reply : List UInt8, reply.length = 88 ∧ t.takePacket barePacket =
      { (t.noteRead barePacket).countDropped with
        queuedBytes := t.queuedBytes + reply.length
        packets := t.packets ++ [.reply reply] } := by
  obtain ⟨reply, built⟩ : ∃ reply, buildIcmpv6Unreachable barePacket = some reply :=
    ⟨_, buildIcmpv6Unreachable_eq_some.mpr ⟨⟨show 40 ≤ barePacket.length by decide, by decide,
      fun report => absurd report.1 (by decide), by decide⟩, rfl⟩⟩
  refine ⟨reply, length_buildIcmpv6Unreachable built, ?_⟩
  have six : isIpv6 barePacket = true ∧ t.ipv6Mode ≠ .proxy := by
    rw [blackhole]
    exact ⟨by decide, by decide⟩
  rw [takePacket, if_neg (by decide), if_pos six, refuse]
  show (if t.ipv6Mode = .blackhole ∧ t.queuedBytes + MAX_PACKET < MAX_QUEUE then _ else _) = _
  rw [if_pos ⟨blackhole, admitted⟩, built]
  rfl

/-- **A refusal and a packet from the socket together exceed the bound.**  Each of them has room by
itself, and the two are checked against the same state. -/
theorem Filled.overfill (filled : Filled 15 t) (largest : Largest packet) :
    (t.afterTurn (inputTurn packet true)).running = true ∧
      MAX_QUEUE < (t.afterTurn (inputTurn packet true)).held := by
  have size : MAX_QUEUE = 1048576 ∧ MAX_PACKET = 65535 := ⟨rfl, rfl⟩
  have asked : t.tunPollIn = true := by
    have idle := filled.idle
    refine decide_eq_true ?_
    show t.unsent < _
    omega
  have admitted : t.queuedBytes + MAX_PACKET < MAX_QUEUE := by
    rw [filled.queued]
    omega
  obtain ⟨reply, long, refused⟩ := takePacket_barePacket filled.mode admitted
  have answered : t.readTun (.ok barePacket) = .ok (t.takePacket barePacket) := rfl
  have next : t.iterate (inputTurn packet true) = .ok ((t.takePacket barePacket).fill packet) := by
    rw [iterate_inputTurn packet true (filled.polled le_rfl), asked]
    show (t.readTun (.ok barePacket) >>= fun t => t.recvSocket (.ok packet)) = _
    rw [answered, refused]
    exact recvSocket_largest largest filled.clean filled.incoming
  unfold afterTurn
  rw [next, refused]
  refine ⟨filled.running, ?_⟩
  show MAX_QUEUE < t.queuedBytes + reply.length + [packet.length].sum + 0
  rw [filled.queued, long, largest.length, List.sum_singleton]
  omega

/-- A packet of the largest size that the app accepts: a bare IPv4 header, and zeros. -/
theorem largest_exists : ∃ packet, Largest packet := by
  have length : ([0x45, 0, 0xff, 0xff] ++ List.replicate 65531 0 : List UInt8).length = 65535 := by
    rw [List.length_append, List.length_replicate]
    rfl
  refine ⟨[0x45, 0, 0xff, 0xff] ++ List.replicate 65531 0, .inl ⟨?_, ?_, ?_, ?_⟩, length⟩
  · show (0x45 : UInt8) >>> 4 = 4
    decide
  · show 20 ≤ ((0x45 : UInt8) &&& 15).toNat * 4
    decide
  · rw [length]
    show ((0x45 : UInt8) &&& 15).toNat * 4 ≤ 65535
    decide
  · rw [length]
    rfl

/-- **The bound does not hold of every run.**  Fifteen packets of the largest size are queued; the
next turn finds room for a refusal and for the sixteenth packet, each by itself, and queues both.
-/
theorem not_run_bounded :
    ¬ ∀ (ipv6Mode : Ipv6Mode) (turns : List (Tunnel × Turn)) (t : Tunnel),
      (machine ipv6Mode).Run turns t → t.running = true → t.Bounded := by
  intro bounded
  obtain ⟨packet, largest⟩ := largest_exists
  obtain ⟨turns, t, run, filled⟩ := run_fills largest 15 le_rfl
  obtain ⟨running, exceeds⟩ := filled.overfill largest
  have next : (machine .blackhole).Run _ (t.afterTurn (inputTurn packet true)) :=
    run.step ⟨filled.running, rfl⟩
  exact absurd (bounded _ _ _ next running).inbound (not_le.mpr exceeds)

end Tunnel

end ReverseTether
