import ReverseTether.TcpProgress

/-!
# The window of the client

`remaining_client_window` is computed with wrapping numbers and one comparison.  It is
what the client's window leaves free behind the bytes in flight
(`Tcb.toNat_remainingClientWindow`), so a data packet of at most that many bytes does not
reach beyond the window.  What the window is measured from, the client's last
acknowledgement, may be stale or forged: bytes acknowledged before they were sent leave
no window.

The theorem is about the segment at the moment it is built: sequence number, payload and the
window that is known then.  A packet that is put aside goes out later, when the client may
have acknowledged or advertised something else; of that moment nothing is claimed.

The connection reads from the host at most what the window leaves, and never more than one
segment, so the bound on the chunk is the bound on the packet.  A window of zero stops the
reading, which `mayRead` sees before a read is attempted.
-/

namespace ReverseTether

open Library Relation

open TcpConnection (updateHeaders)

/-! ## The remaining window -/

namespace Tcb

/-- The distance from the client's acknowledgement to the next byte the relay sends. -/
def inFlight (tcb : Tcb) : ℕ := (tcb.sequenceNumber - tcb.theirAcknowledgementNumber).toNat

/-- The client acknowledged a byte that was not sent yet, in serial arithmetic. -/
def AckedBeyond (tcb : Tcb) : Prop :=
  ∃ ahead : ℕ, 0 < ahead ∧ ahead ≤ 2 ^ 31 ∧
    tcb.theirAcknowledgementNumber = tcb.sequenceNumber + UInt32.ofNat ahead

/-- **The remaining window**, for all values of the wrapping numbers.  The code adds the window to
the acknowledgement and subtracts its next number, both with wrapping, and takes a difference above
the window for none; counted as naturals it is the truncated difference, which is `0` once the
client has been given more than it advertised. -/
theorem toNat_remainingClientWindow (tcb : Tcb) :
    tcb.remainingClientWindow.toNat = tcb.clientWindow.toNat - tcb.inFlight := by
  have small := tcb.clientWindow.toNat_lt
  have flight := (tcb.sequenceNumber - tcb.theirAcknowledgementNumber).toNat_lt
  -- the wrapped sum is the window less what is in flight
  have remaining : (tcb.theirAcknowledgementNumber + tcb.clientWindow.toUInt32 -
      tcb.sequenceNumber).toNat = (2 ^ 32 + tcb.clientWindow.toNat - tcb.inFlight) % 2 ^ 32 := by
    have ack := tcb.theirAcknowledgementNumber.toNat_lt
    have next := tcb.sequenceNumber.toNat_lt
    simp only [inFlight, UInt32.toNat_sub, UInt32.toNat_add, UInt16.toNat_toUInt32]
    omega
  unfold remainingClientWindow
  simp only [UInt32.le_iff_toNat_le, remaining, UInt16.toNat_toUInt32]
  change tcb.inFlight < 2 ^ 32 at flight
  split
  · rename_i within
    rw [UInt32.toNat_toUInt16, remaining]
    omega
  · rename_i beyond
    rw [UInt16.toNat_zero]
    omega

theorem remainingClientWindow_of_ackedBeyond {tcb : Tcb} (beyond : tcb.AckedBeyond) :
    tcb.remainingClientWindow = 0 := by
  obtain ⟨ahead, pos, most, acked⟩ := beyond
  have small := tcb.clientWindow.toNat_lt
  have flight : tcb.inFlight = 2 ^ 32 - ahead := by
    have next := tcb.sequenceNumber.toNat_lt
    rw [inFlight, acked]
    simp only [UInt32.toNat_sub, UInt32.toNat_add, UInt32.toNat_ofNat']
    omega
  apply UInt16.toNat_inj.mp
  rw [toNat_remainingClientWindow, flight, UInt16.toNat_zero]
  omega

end Tcb

/-! ## The segments that are built -/

/-- The data segment built in this action. -/
def TcpAction.built : TcpAction → Option Segment
  | .handed raw => some (Segment.ofRaw raw)
  | .deferred raw => some (Segment.ofRaw raw)
  | _ => none

/-- The data segments that were built, in order. -/
def builtSegments (trace : List TcpAction) : List Segment := trace.filterMap TcpAction.built

@[simp] theorem builtSegments_append (trace : List TcpAction) (action : TcpAction) :
    builtSegments (trace ++ [action]) = builtSegments trace ++ action.built.toList := by
  rw [builtSegments, List.filterMap_append]
  cases h : action.built <;> simp [builtSegments, h]

/-- A segment that ends at or before the right edge of the client's window. -/
structure FitsWindow (tcb : Tcb) (segment : Segment) : Prop where
  nonempty : segment.payload ≠ []
  short : segment.payload.length ≤ TcpConnection.maxPayloadLength.toNat
  inside : (segment.sequenceNumber - tcb.theirAcknowledgementNumber).toNat +
    segment.payload.length ≤ tcb.clientWindow.toNat

/-- What was built on the way from `c` to `c'` fits the window of `c`. -/
structure Builds (may : TcpWork → Prop) (c c' : TcpContext) : Prop where
  acked : c'.conn.tcb.theirAcknowledgementNumber = c.conn.tcb.theirAcknowledgementNumber
  window : c'.conn.tcb.clientWindow = c.conn.tcb.clientWindow
  forTcp : c'.conn.networkToClient.ForTcp
  built : ∃ new, builtSegments c'.conn.trace = builtSegments c.conn.trace ++ new ∧
    (new ≠ [] → may .read) ∧ ∀ segment ∈ new, FitsWindow c.conn.tcb segment

variable {may : TcpWork → Prop} {c c' c'' : TcpContext}

/-- A step that builds no data segment: what was built before is all there is, and what the window
is compared with stays. -/
structure BuildsNothing (c c' : TcpContext) : Prop where
  acked : c'.conn.tcb.theirAcknowledgementNumber = c.conn.tcb.theirAcknowledgementNumber
  window : c'.conn.tcb.clientWindow = c.conn.tcb.clientWindow
  forTcp : c'.conn.networkToClient.ForTcp
  built : builtSegments c'.conn.trace = builtSegments c.conn.trace

namespace Builds

theorem nothing (quiet : BuildsNothing c c') : Builds may c c' :=
  ⟨quiet.acked, quiet.window, quiet.forTcp, [], by rw [quiet.built, List.append_nil],
    fun some => absurd rfl some, nofun⟩

theorem trans (first : Builds may c c') (second : Builds may c' c'') : Builds may c c'' := by
  obtain ⟨new, same, reads, fits⟩ := first.built
  obtain ⟨new', same', reads', fits'⟩ := second.built
  refine ⟨second.acked.trans first.acked, second.window.trans first.window, second.forTcp,
    new ++ new', ?_, ?_, ?_⟩
  · rw [same', same, List.append_assoc]
  · intro some
    by_cases none : new = []
    · rw [none, List.nil_append] at some
      exact reads' some
    · exact reads none
  · intro segment mem
    rcases List.mem_append.mp mem with mem | mem
    · exact fits segment mem
    · obtain ⟨nonempty, short, inside⟩ := fits' segment mem
      rw [first.acked, first.window] at inside
      exact ⟨nonempty, short, inside⟩

end Builds

/-- An empty segment is no data segment. -/
theorem TcpContext.replyEmptyPacketToClient_buildsNothing {flags : UInt16}
    (tcp : c.conn.networkToClient.ForTcp) (mem : flags ∈ relayFlags)
    (forged : c.replyEmptyPacketToClient flags = .ok c') : BuildsNothing c c' := by
  obtain ⟨packetizer, raw, tcp', -, -, -, same⟩ := replyEmptyPacketToClient_segment tcp mem forged
  refine ⟨?_, ?_, ?_, ?_⟩
  · rw [same]
    rfl
  · rw [same]
    rfl
  · rw [same]
    exact tcp'
  · rw [same]
    exact (builtSegments_append _ _).trans (List.append_nil _)

/-- A packet is built of bytes that were read. -/
theorem Packetizer.chunk_ne_nil {p p' : Packetizer} {available : List UInt8} {most : ℕ}
    {packet : Ipv4Packet}
    (packetized : p.packetizeRead (.ok available) most = .ok (.ok (some packet), p')) :
    p.chunk available most ≠ [] := by
  intro none
  rw [Packetizer.packetizeRead] at packetized
  simp only [none, List.length_nil, lt_irrefl, if_false] at packetized
  cases packetized

/-- **The data packet of `process_receive`** ends inside the window.  The number of bytes asked
from the packetizer is the smaller one of the window and the payload that fits in a packet, so that
what is read cannot be more. -/
theorem TcpContext.receive_fitsWindow {primed packetizer : Packetizer} {available : List UInt8}
    {packet : Ipv4Packet} (tcp : c.conn.networkToClient.ForTcp)
    (updated : updateHeaders c.conn.networkToClient c.conn.tcb (flagAck ||| flagPsh) = .ok primed)
    (packetized : primed.packetizeRead (.ok available) c.receivable =
      .ok (.ok (some packet), packetizer)) :
    FitsWindow c.conn.tcb (Segment.ofRaw packet.raw) := by
  obtain ⟨-, -, -, segment⟩ := packetizeRead_segment tcp updated packetized
  have nonempty := Packetizer.chunk_ne_nil packetized
  have length : (primed.chunk available c.receivable).length ≤ c.receivable := by
    rw [Packetizer.chunk, List.length_take]
    omega
  have some := List.length_pos_of_ne_nil nonempty
  have remaining := c.conn.tcb.toNat_remainingClientWindow
  have least : c.receivable = min c.conn.tcb.remainingClientWindow.toNat
      TcpConnection.maxPayloadLength.toNat := rfl
  rw [segment]
  refine ⟨nonempty, ?_, ?_⟩
  · show (primed.chunk available c.receivable).length ≤ _
    omega
  · show c.conn.tcb.inFlight + (primed.chunk available c.receivable).length ≤ _
    omega

/-! ## Step by step -/

theorem TcpMove.builds (tcp : c.conn.networkToClient.ForTcp) (move : TcpMove may c c') :
    Builds may c c' := by
  cases move with
  | touch now => exact .nothing ⟨rfl, rfl, tcp, rfl⟩
  | interests updated =>
      obtain ⟨-, same, -⟩ := TcpContext.updateInterests_ok updated
      refine .nothing ⟨?_, ?_, ?_, ?_⟩ <;> rw [same]
      exact tcp
  | prime _ _ updated =>
      obtain ⟨header, updated', tcp', -⟩ :=
        tcp.updateHeaders c.conn.tcb (show flagAck ||| flagPsh ∈ relayFlags by decide)
      rw [updated] at updated'
      cases updated'
      exact .nothing ⟨rfl, rfl, tcp', rfl⟩
  | forge plain forged =>
      refine .nothing (TcpContext.replyEmptyPacketToClient_buildsNothing tcp ?_ forged)
      rcases plain with rfl | rfl <;> decide
  | close =>
      exact .nothing ⟨rfl, rfl, tcp, (builtSegments_append _ _).trans (List.append_nil _)⟩
  | removeFromRouter => exact .nothing ⟨rfl, rfl, tcp, rfl⟩
  | connect _ _ forged =>
      obtain ⟨acked, window, tcp', built⟩ :=
        TcpContext.replyEmptyPacketToClient_buildsNothing
          (c := c.withTcb fun tcb => { tcb with state := .synReceived }) tcp (by decide) forged
      exact .nothing ⟨acked, window, tcp', built⟩
  | write _ _ _ _ _ =>
      exact .nothing ⟨rfl, rfl, tcp, (builtSegments_append _ _).trans (List.append_nil _)⟩
  | writeLast _ _ _ _ _ _ =>
      refine .nothing ⟨rfl, rfl, tcp, ?_⟩
      show builtSegments (c.conn.trace ++ [_] ++ [_]) = _
      rw [builtSegments_append, builtSegments_append]
      exact (List.append_nil _).trans (List.append_nil _)
  | @receive _ primed packetizer available packet mayRead _ _ updated packetized sent =>
      have fits := TcpContext.receive_fitsWindow tcp updated packetized
      obtain ⟨tcp', -⟩ := TcpContext.packetizeRead_segment tcp updated packetized
      have grown {action : TcpAction} (data : action.built = some (Segment.ofRaw packet.raw)) :
          builtSegments (c.conn.trace ++ [.read (primed.chunk available c.receivable)] ++
            [action]) = builtSegments c.conn.trace ++ [Segment.ofRaw packet.raw] := by
        rw [builtSegments_append, builtSegments_append, data]
        exact congrArg (· ++ _) (List.append_nil _)
      obtain ⟨_, _, _, -, ⟨_, -, -, same, -⟩ | ⟨-, same, -⟩⟩ := TcpContext.sendDataToClient_ok sent
      · refine ⟨?_, ?_, ?_, [Segment.ofRaw packet.raw], ?_, fun _ => mayRead, ?_⟩
        · rw [same]
          rfl
        · rw [same]
          rfl
        · rw [same]
          exact tcp'
        · rw [same]
          exact grown rfl
        · exact List.forall_mem_singleton.mpr fits
      · refine ⟨?_, ?_, ?_, [Segment.ofRaw packet.raw], ?_, fun _ => mayRead, ?_⟩
        · rw [same]
          rfl
        · rw [same]
          rfl
        · rw [same]
          exact tcp'
        · rw [same]
          exact grown rfl
        · exact List.forall_mem_singleton.mpr fits
  | eof _ _ ended =>
      obtain ⟨c₁, forged, rest⟩ := bind_eq_ok.mp ended
      cases rest
      obtain ⟨acked, window, tcp', built⟩ :=
        TcpContext.replyEmptyPacketToClient_buildsNothing (c := c.record .readEof) tcp (by decide)
          forged
      exact .nothing ⟨acked, window, tcp',
        built.trans ((builtSegments_append _ _).trans (List.append_nil _))⟩
  | answerFin _ forged =>
      obtain ⟨acked, window, tcp', built⟩ :=
        TcpContext.replyEmptyPacketToClient_buildsNothing tcp (by decide) forged
      exact .nothing ⟨acked, window, tcp', built⟩
  | closing _ => exact .nothing ⟨rfl, rfl, tcp, rfl⟩
  | finAcked _ => exact .nothing ⟨rfl, rfl, tcp, rfl⟩
  | deliver _ _ =>
      exact .nothing ⟨rfl, rfl, tcp, (builtSegments_append _ _).trans (List.append_nil _)⟩

theorem TcpMoves.builds (tcp : c.conn.networkToClient.ForTcp) (moves : TcpMoves may c c') :
    Builds may c c' := by
  induction moves with
  | refl => exact .nothing ⟨rfl, rfl, tcp, rfl⟩
  | tail _ last ih => exact ih.trans (last.builds ih.forTcp)

/-- An arrival builds nothing. -/
theorem TcpArrival.buildsNothing {packet : Ipv4Packet} {header : TcpHeaderData} {random : UInt32}
    (tcp : c.conn.networkToClient.ForTcp) (arrival : TcpArrival packet header random c c') :
    c'.conn.networkToClient.ForTcp ∧ builtSegments c'.conn.trace = builtSegments c.conn.trace := by
  cases arrival with
  | opened _ _ => exact ⟨tcp, (builtSegments_append _ _).trans (List.append_nil _)⟩
  | @expected acked _ _ _ _ ackPart =>
      have acked : acked.conn.networkToClient.ForTcp ∧
          builtSegments acked.conn.trace = builtSegments c.conn.trace := by
        rcases ackPart_ok ackPart with ⟨-, -, same⟩ | ⟨same, -⟩ | ⟨_, _, -, -, same⟩
        · rw [same]
          exact ⟨tcp, rfl⟩
        · rw [same]
          exact ⟨tcp, rfl⟩
        · rw [same]
          exact ⟨tcp, rfl⟩
      split
      · rcases TcpContext.noteFin_ok _ with ⟨-, same⟩ | ⟨-, same⟩
        · rw [same]
          exact ⟨acked.1, (builtSegments_append _ _).trans ((List.append_nil _).trans acked.2)⟩
        · rw [same]
          exact acked
      · exact acked
  | _ => exact ⟨tcp, rfl⟩

namespace TcpLife

/-- A connection keeps the packetizer of a TCP connection. -/
theorem run_forTcp {t : List (TcpLife × Label)} {s : TcpLife} (run : machine.Run t s) :
    s.conn.networkToClient.ForTcp := by
  refine run_invariant (fun conn => conn.networkToClient.ForTcp) ?_ ?_ ?_ run
    (Machine.meets_true t)
  · exact fun conn fresh => fresh.forTcp
  · intro s packet random overflowChecks now header c c₁ _ _ same tcp arrival
    refine (TcpArrival.buildsNothing ?_ arrival).1
    rw [same]
    exact tcp
  · exact fun may c c' _ tcp move => (move.builds tcp).forTcp

/-- A data segment is built only where the window stays as it is, and fits it. -/
theorem step_builds {s s' : TcpLife} {l : Label} (tcp : s.conn.networkToClient.ForTcp)
    (step : Step s l s') :
    ∃ new, builtSegments s'.conn.trace = builtSegments s.conn.trace ++ new ∧
      (new ≠ [] →
        s'.conn.tcb.theirAcknowledgementNumber = s.conn.tcb.theirAcknowledgementNumber ∧
          s'.conn.tcb.clientWindow = s.conn.tcb.clientWindow) ∧
      ∀ segment ∈ new, FitsWindow s.conn.tcb segment := by
  have answered {c c' : TcpContext} (tcp : c.conn.networkToClient.ForTcp)
      (moves : TcpMoves (fun _ => True) c c') :
      ∃ new, builtSegments c'.conn.trace = builtSegments c.conn.trace ++ new ∧
        (new ≠ [] →
          c'.conn.tcb.theirAcknowledgementNumber = c.conn.tcb.theirAcknowledgementNumber ∧
            c'.conn.tcb.clientWindow = c.conn.tcb.clientWindow) ∧
        ∀ segment ∈ new, FitsWindow c.conn.tcb segment := by
    obtain ⟨acked, window, -, new, built, -, fits⟩ := moves.builds tcp
    exact ⟨new, built, fun _ => ⟨acked, window⟩, fits⟩
  cases step with
  | packet sent =>
      obtain ⟨header, c₁, -, arrived, answers⟩ :=
        @TcpContext.sendToNetwork_moves (fun _ => False) _ _ _ _ _ _ sent
      obtain ⟨tcp', same⟩ := arrived.buildsNothing tcp
      obtain ⟨new, built, reads, -⟩ := (TcpMoves.builds tcp' answers).built
      -- a packet of the client is not a reason to read
      have none : new = [] := by
        by_contra some
        exact reads some
      refine ⟨new, ?_, fun some => absurd none some, ?_⟩
      · rw [built, same]
        rfl
      · rw [none]
        exact nofun
  | poll => exact ⟨[], (List.append_nil _).symm, fun some => absurd rfl some, nofun⟩
  | event within happened =>
      exact answered tcp (TcpContext.onReady_moves (fun _ => trivial) (fun _ => trivial) happened)
  | expire expired => exact answered tcp (TcpContext.expire_moves expired)
  | close =>
      refine ⟨[], ?_, fun some => absurd rfl some, nofun⟩
      rw [List.append_nil]
      exact (builtSegments_append _ _).trans (List.append_nil _)
  | deliver _ _ advanced => exact answered tcp (TcpContext.next_moves trivial advanced)

/-- **No segment is built past the window the client advertised**, whatever the client acknowledges
or advertises.  The window and the acknowledgement are the last ones that a heeded segment brought,
and the client may move either of them back.  An acknowledgement beyond what was sent leaves no
window at all. -/
theorem run_fitsWindow {t : List (TcpLife × Label)} {s : TcpLife} (run : machine.Run t s) :
    s.conn.tcb.remainingClientWindow.toNat =
        s.conn.tcb.clientWindow.toNat - s.conn.tcb.inFlight ∧
      (s.conn.tcb.AckedBeyond → s.conn.tcb.remainingClientWindow = 0) ∧
      ∀ l s', Step s l s' → ∃ new,
        builtSegments s'.conn.trace = builtSegments s.conn.trace ++ new ∧
          (new ≠ [] →
            s'.conn.tcb.theirAcknowledgementNumber = s.conn.tcb.theirAcknowledgementNumber ∧
              s'.conn.tcb.clientWindow = s.conn.tcb.clientWindow) ∧
          ∀ segment ∈ new, FitsWindow s.conn.tcb segment :=
  ⟨s.conn.tcb.toNat_remainingClientWindow, Tcb.remainingClientWindow_of_ackedBeyond,
    fun _ _ step => step_builds (run_forTcp run) step⟩

/-- One byte is read, and the segment that carries it fits in the window. -/
theorem run_fitsWindow_byte :
    ∃ t s s' segment, machine.Run t s ∧
      Step s (.event .readable ⟨.ok none, .ok 0, .ok [0x61]⟩ 0) s' ∧
      s'.conn.tcb.remainingClientWindow.toNat = 65535 - 1 ∧
      builtSegments s'.conn.trace = builtSegments s.conn.trace ++ [segment] ∧
      segment.payload = [0x61] ∧ FitsWindow s.conn.tcb segment := by
  obtain ⟨conn, fresh⟩ := TcpConnection.fresh_exists
  obtain ⟨t, s, s', synAck, raw, run, reads, trace, -, segment, exchanged⟩ := run_reads fresh
  obtain ⟨new, built, -, fits⟩ := (run_fitsWindow run).2.2 _ s' reads
  have one : builtSegments s'.conn.trace = builtSegments s.conn.trace ++ [Segment.ofRaw raw] := by
    rw [exchanged.trace, trace]
    rfl
  rw [one] at built
  obtain rfl := List.append_cancel_left built
  refine ⟨t, s, s', _, run, reads, ?_, one, by rw [segment], fits _ (List.mem_singleton_self _)⟩
  rw [exchanged.tcb]
  decide

end TcpLife

end ReverseTether
