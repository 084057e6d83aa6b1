import ReverseTether.Tunnel

/-!
# What the app refuses

A packet of IPv6 that is not proxied stays in the app.  If it is to be refused, and there is room
for the refusal, one goes to the tun device behind what waits for it; otherwise nothing does.  So
the refusals that were written are a part of those of the packets that were read, in their order
(`run_refuses`).

A refusal is counted against the budget of the queue, and is given up when there is no room
for it; the packet that it would answer is counted as dropped in either case.  Replies of the
relay and refusals share the queue, and `run_refuses` speaks of those entries alone that are
refusals.

Since nothing but the loop writes to the tun device, this says what an application sees that
tries IPv6 while the app refuses it: an error for its own packet, or silence, and never one
for a packet that it did not send.
-/

namespace ReverseTether

open Library

/-- The refusals in the queue. -/
def QueuedPacket.reply? : QueuedPacket → Option (List UInt8)
  | framed _ => none
  | reply raw => some raw

/-- The refusal that a packet deserves. -/
def refusalOf (ipv6Mode : Ipv6Mode) (packet : List UInt8) : Option (List UInt8) :=
  if ipv6Mode = .blackhole ∧ isWellFormedIpPacket packet ∧ isIpv6 packet then
    buildIcmpv6Unreachable packet
  else none

namespace Tunnel

variable {ipv6Mode : Ipv6Mode} {t t' : Tunnel} {P : Tunnel → Prop}

/-- The refusals that were queued. -/
def refusals (t : Tunnel) : List (List UInt8) :=
  (t.written ++ t.packets).filterMap QueuedPacket.reply?

/-- Each refusal answers a packet that was read, and none is answered twice. -/
structure Refuses (ipv6Mode : Ipv6Mode) (t : Tunnel) : Prop where
  mode : t.ipv6Mode = ipv6Mode
  refusals : t.refusals.Sublist (t.read.filterMap (refusalOf ipv6Mode))

theorem Refuses.congr (refuses : Refuses ipv6Mode t) (mode : t'.ipv6Mode = t.ipv6Mode)
    (same : t'.refusals = t.refusals) (read : t'.read = t.read) : Refuses ipv6Mode t' :=
  ⟨mode.trans refuses.mode, by rw [same, read]; exact refuses.refusals⟩

/-- What holds behind a branch, whether the loop goes on or ends. -/
def Leaves (P : Tunnel → Prop) : Except Tunnel Tunnel → Prop
  | .ok t => P t
  | .error t => P t

theorem Leaves.bind {branch : Except Tunnel Tunnel} {next : Tunnel → Except Tunnel Tunnel}
    (first : Leaves P branch) (then_ : ∀ t, P t → Leaves P (next t)) :
    Leaves P (branch >>= next) := by
  cases branch with
  | error t => exact first
  | ok t => exact then_ t first

theorem leaves_when (holds : P t) (event : Bool) {branch : Tunnel → Except Tunnel Tunnel}
    (leaves : Leaves P (branch t)) : Leaves P (t.when event branch) := by
  unfold when
  split
  · exact leaves
  · exact holds

namespace Refuses

theorem fail (refuses : Refuses ipv6Mode t) (code : Errno) : Refuses ipv6Mode (t.fail code) :=
  refuses.congr rfl rfl rfl

/-- A call that failed is made again or fails the tunnel. -/
theorem errno (refuses : Refuses ipv6Mode t) (errno : Errno) :
    Leaves (Refuses ipv6Mode) (if errno.isTransient then .ok t else .error (t.fail errno)) := by
  split
  · exact refuses
  · exact refuses.fail errno

/-- A packet that is read may be refused, but need not. -/
theorem noteRead (refuses : Refuses ipv6Mode t) (packet : List UInt8) :
    Refuses ipv6Mode (t.noteRead packet) := by
  refine ⟨refuses.mode, refuses.refusals.trans ?_⟩
  show (t.read.filterMap _).Sublist ((t.read ++ [packet]).filterMap _)
  rw [List.filterMap_append]
  exact List.sublist_append_left _ _

/-- **A refusal goes last**, and it is the one that the packet deserves.  Those before it were
queued for the tun device already, and the queue is written from its front. -/
theorem refuse (refuses : Refuses ipv6Mode t) {packet : List UInt8}
    (wellFormed : isWellFormedIpPacket packet = true) (ipv6 : isIpv6 packet = true) :
    Refuses ipv6Mode ((t.noteRead packet).countDropped.refuse packet) := by
  have noted : Refuses ipv6Mode (t.noteRead packet).countDropped :=
    (refuses.noteRead packet).congr rfl rfl rfl
  unfold Tunnel.refuse
  split
  · rename_i admitted
    cases built : buildIcmpv6Unreachable packet with
    | none => exact noted
    | some reply =>
        refine ⟨refuses.mode, ?_⟩
        have mode : ipv6Mode = .blackhole := refuses.mode.symm.trans admitted.1
        have deserves : refusalOf ipv6Mode packet = some reply := by
          rw [refusalOf, if_pos ⟨mode, wellFormed, ipv6⟩, built]
        show ((t.written ++ (t.packets ++ [QueuedPacket.reply reply])).filterMap _).Sublist
          ((t.read ++ [packet]).filterMap _)
        have one : [packet].filterMap (refusalOf ipv6Mode) = [reply] :=
          List.filterMap_cons_some deserves
        rw [← List.append_assoc, List.filterMap_append, @List.filterMap_append _ _ t.read, one]
        exact refuses.refusals.append (List.Sublist.refl _)
  · exact noted

theorem forward (refuses : Refuses ipv6Mode t) (packet : List UInt8) :
    Refuses ipv6Mode ((t.noteRead packet).forward packet) := by
  have noted := refuses.noteRead packet
  rw [Tunnel.forward, compact_same]
  exact noted.congr rfl rfl rfl

theorem readTun (refuses : Refuses ipv6Mode t) (call : SysResult (List UInt8)) :
    Leaves (Refuses ipv6Mode) (t.readTun call) := by
  cases call with
  | error errno => exact refuses.errno errno
  | ok offered =>
      rw [Tunnel.readTun]
      split
      · show Refuses ipv6Mode (t.takePacket (offered.take MAX_PACKET))
        unfold takePacket
        split
        · exact (refuses.noteRead _).congr rfl rfl rfl
        · rename_i wellFormed
          split
          · rename_i ipv6
            exact refuses.refuse (not_not.mp wellFormed) ipv6.1
          · exact refuses.forward _
      · exact refuses.fail _

theorem sendSocket (refuses : Refuses ipv6Mode t) (call : SysResult ℕ) :
    Leaves (Refuses ipv6Mode) (t.sendSocket call) := by
  cases call with
  | error errno => exact refuses.errno errno
  | ok most =>
      rw [Tunnel.sendSocket]
      split
      · show Refuses ipv6Mode (t.took _).clearSent
        unfold clearSent
        split
        · exact refuses.congr rfl rfl rfl
        · exact refuses.congr rfl rfl rfl
      · exact refuses

/-- Packets of the relay are no refusals. -/
theorem enqueue (refuses : Refuses ipv6Mode t) (packets : List (List UInt8)) :
    Refuses ipv6Mode (t.enqueue packets) := by
  refine refuses.congr rfl ?_ rfl
  have none : (packets.map QueuedPacket.framed).filterMap QueuedPacket.reply? = [] := by
    rw [List.filterMap_map]
    exact List.filterMap_eq_nil_iff.mpr fun _ _ => rfl
  show (t.written ++ (t.packets ++ packets.map QueuedPacket.framed)).filterMap _ = _
  rw [← List.append_assoc, List.filterMap_append, none, List.append_nil]
  rfl

theorem framePackets (refuses : Refuses ipv6Mode t) :
    Leaves (Refuses ipv6Mode) t.framePackets := by
  unfold Tunnel.framePackets
  obtain ⟨packets, left, failed⟩ := receivePackets t.incoming
  have queued := refuses.enqueue packets
  cases failed with
  | false =>
      show Leaves _ (if (t.enqueue packets).error.isSome then _ else _)
      split
      · exact queued
      · exact queued.congr rfl rfl rfl
  | true => exact queued.fail .eproto

theorem recvSocket (refuses : Refuses ipv6Mode t) (call : SysResult (List UInt8)) :
    Leaves (Refuses ipv6Mode) (t.recvSocket call) := by
  cases call with
  | error errno =>
      rw [Tunnel.recvSocket]
      split
      · exact refuses.framePackets
      · exact refuses.fail errno
  | ok offered =>
      rw [Tunnel.recvSocket]
      split
      · exact refuses.fail _
      · have fed : Refuses ipv6Mode (t.feed (offered.take MAX_PACKET)) := refuses.congr rfl rfl rfl
        exact fed.framePackets

/-- A packet that is written leaves the queue. -/
theorem writeTun (refuses : Refuses ipv6Mode t) (call : SysResult ℕ) :
    Leaves (Refuses ipv6Mode) (t.writeTun call) := by
  unfold Tunnel.writeTun
  cases queue : t.packets with
  | nil => exact refuses
  | cons packet rest =>
      cases call with
      | error errno => exact refuses.errno errno
      | ok count =>
          simp only
          split
          · refine refuses.congr rfl ?_ rfl
            show ((t.written ++ [packet]) ++ rest).filterMap _ = _
            rw [Tunnel.refusals, queue, List.append_assoc]
            rfl
          · exact refuses.fail _

theorem serve (refuses : Refuses ipv6Mode t) (turn : Turn) (tun socket : Events) :
    Leaves (Refuses ipv6Mode) (t.serve turn tun socket) := by
  unfold Tunnel.serve
  split
  · exact refuses
  · split
    · exact refuses.fail _
    · refine Leaves.bind (Leaves.bind (leaves_when refuses _ (refuses.readTun _)) ?_) ?_
      · intro t refuses
        exact Leaves.bind (leaves_when refuses _ (refuses.sendSocket _))
          fun t refuses => leaves_when refuses _ (refuses.recvSocket _)
      · intro t refuses
        refine Leaves.bind (leaves_when refuses _ (refuses.writeTun _)) ?_
        intro t refuses
        split
        · exact refuses.fail _
        · exact refuses

theorem afterTurn (refuses : Refuses ipv6Mode t) (turn : Turn) : Refuses ipv6Mode (t.afterTurn turn) := by
  have leaves : Leaves (Refuses ipv6Mode) (t.iterate turn) := by
    unfold iterate
    split
    · exact refuses
    · split
      · exact refuses
      · exact refuses.fail _
      · exact refuses.serve _ _ _
  unfold Tunnel.afterTurn
  cases iterated : t.iterate turn with
  | ok t' =>
      rw [iterated] at leaves
      exact leaves
  | error t' =>
      rw [iterated] at leaves
      exact leaves.congr rfl rfl rfl

end Refuses

/-- **In any run the refusals answer packets that were read**, each at most once and in their
order.  Each of them is the reply of the specification to its packet, and the packet is well formed
and of IPv6; the mode decides whether there are any. -/
theorem run_refuses {h : List (Tunnel × Turn)} (run : (machine ipv6Mode).Run h t) :
    Refuses ipv6Mode t := by
  refine run.invariant (Refuses ipv6Mode) ?_ ?_ (Machine.meets_true h)
  · rintro t rfl
    exact ⟨rfl, List.Sublist.refl _⟩
  · rintro t turn t' refuses - ⟨-, rfl⟩
    exact refuses.afterTurn turn

end Tunnel

end ReverseTether
