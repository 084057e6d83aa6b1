import ReverseTether.ForwardedReplies
import ReverseTether.Ipv6Stream
import ReverseTether.Routes

/-!
# What an IPv6 flow is given

The payload of each packet of an IPv6 flow is offered to its socket once, when the packet is
routed, and nothing is kept of what the socket does not take.  So the socket has a front of a part
of the payloads, one for each write and in their order (`run_writes6`): a payload may be lost or
cut short, but no byte is repeated, overtaken or taken from another flow.

The connection has no buffer for its host: `write` is called with the whole payload, and what
it returns is how much was taken.  A datagram socket takes all of it or fails; a stream socket
may take less, and the rest is lost, which the theorem allows and does not hide.

An error of the write marks the flow closed, and nothing is written to it any more.  The proof
is in three layers, for a call, for a flow and for the relay, as for the other kinds of
connections.
-/

namespace ReverseTether

open Library

/-! ## A connection -/

namespace Ipv6Action

/-- The bytes that one write took. -/
def write? : Ipv6Action → Option (List UInt8)
  | .wrote data => some data
  | _ => none

/-- What the host socket took, write by write. -/
def writes (trace : List Ipv6Action) : List (List UInt8) := trace.filterMap write?

@[simp] theorem writes_append (trace : List Ipv6Action) (action : Ipv6Action) :
    writes (trace ++ [action]) = writes trace ++ action.write?.toList := by
  rw [writes, List.filterMap_append]
  cases h : action.write? <;> simp [writes, h]

end Ipv6Action

open Ipv6Action

/-- **A call writes a front of the packet it brings**, or nothing.  The host socket may take less
than the whole payload, and the rest is dropped with no trace of it. -/
theorem Ipv6Context.Returns.writes {c c' : Ipv6Context} {call : ConnectionCall}
    (returns : c.Returns call c') :
    Ipv6Action.writes c'.conn.trace = Ipv6Action.writes c.conn.trace ∨
      ∃ packet answers d n, call = .packet packet answers ∧ packet.payload? = some d ∧
        Ipv6Action.writes c'.conn.trace = Ipv6Action.writes c.conn.trace ++ [d.take n] := by
  have closes : Ipv6Action.writes c.close.conn.trace = Ipv6Action.writes c.conn.trace := by
    rw [conn_close]
  cases call with
  | packet packet answers =>
      cases packet with
      | ipv4 _ =>
          cases returns
          exact .inl rfl
      | ipv6 packet =>
          obtain ⟨payload, carried, ⟨rfl, -⟩ | ⟨n, nonempty, -, rfl⟩ | ⟨-, -, rfl⟩⟩ :=
            sendToNetwork_ok returns
          · exact .inl rfl
          · cases payload with
            | none => exact absurd rfl nonempty
            | some d =>
                refine .inr ⟨_, answers, d, n, rfl, ?_, writes_append _ _⟩
                rw [IpPacket.payload?, carried]
                rfl
          · exact .inl rfl
  | event ready answers now =>
      cases onReady_ok returns with
      | ignored _ => exact .inl rfl
      | ended _ _ _ => exact .inl closes
      | received _ _ _ _ _ kind =>
          refine .inl ?_
          show Ipv6Action.writes ((c.conn.trace ++ [_]) ++ [_]) = _
          rw [writes_append, writes_append]
          rcases kind with rfl | rfl <;> simp [write?]
  | close =>
      cases returns
      exact .inl closes
  | expire =>
      cases returns
      exact .inl closes
  | next => exact returns.elim

/-! ## A flow -/

namespace Flow

variable {s s' : Flow} {own : List (Flow × Label)} {conn : Ipv6Connection}

/-- The payloads of the packets that a connection was given. -/
def payloads (own : List (Flow × Label)) : List (List UInt8) :=
  (packetsOf own).filterMap IpPacket.payload?

theorem payloads_append (own : List (Flow × Label)) (s : Flow) (label : Label) :
    payloads (own ++ [(s, label)]) = payloads own ++ (label.packet?.bind IpPacket.payload?).toList := by
  rw [payloads, packetsOf_append, List.filterMap_append]
  refine congrArg (_ ++ ·) ?_
  cases h : label.packet? with
  | none => simp [packetsOf, h]
  | some packet => cases carried : packet.payload? <;> simp [packetsOf, h, carried]

/-- Each write took a front of a payload, and each payload was offered at most once. -/
def Wrote (own : List (Flow × Label)) (conn : Ipv6Connection) : Prop :=
  ∃ offered, offered.Sublist (payloads own) ∧ List.Forall₂ (· <+: ·) (writes conn.trace) offered

theorem Wrote.rests {before : Ipv6Connection} (wrote : Wrote own before) (s : Flow) (label : Label)
    (same : writes conn.trace = writes before.trace) : Wrote (own ++ [(s, label)]) conn := by
  obtain ⟨offered, part, fronts⟩ := wrote
  refine ⟨offered, part.trans ?_, same ▸ fronts⟩
  rw [payloads_append]
  exact List.sublist_append_left _ _

theorem Wrote.step {before : Ipv6Connection} {armed armed' : Ready} {label : Label}
    (wrote : Wrote own before) (step : Step ⟨.ipv6 before, armed⟩ label ⟨.ipv6 conn, armed'⟩) :
    Wrote (own ++ [(⟨.ipv6 before, armed⟩, label)]) conn := by
  generalize is : (⟨.ipv6 conn, armed'⟩ : Flow) = s' at step
  cases step with
  | poll =>
      cases is
      exact wrote.rests _ _ rfl
  | @call call client selector f isOpen fits executes =>
      obtain ⟨connections, c', returns, same⟩ := executes.returns.ipv6
      have ends : f.conn = .ipv6 c'.conn := same.conn
      rw [ends] at is
      cases is
      rcases Ipv6Context.Returns.writes returns with same | ⟨packet, answers, d, n, rfl, carried, grown⟩
      · exact wrote.rests _ _ same
      · obtain ⟨offered, part, fronts⟩ := wrote
        refine ⟨offered ++ [d], ?_, ?_⟩
        · rw [payloads_append, Label.packet?, Option.bind_some, carried]
          exact part.append (List.Sublist.refl _)
        · rw [grown]
          exact List.rel_append fronts (.cons (List.take_prefix n d) .nil)

/-- A connection stays of its kind. -/
theorem Step.ipv6 {label : Label} (step : Step s label s') (ipv6 : s'.conn = .ipv6 conn) :
    ∃ before, s.conn = .ipv6 before := by
  cases step with
  | poll => exact ⟨conn, ipv6⟩
  | @call call client selector f isOpen _ executes =>
      have returns := executes.returns
      cases kind : s.conn with
      | ipv6 before => exact ⟨before, rfl⟩
      | tcp _ =>
          rw [kind] at returns
          obtain ⟨_, _, -, same⟩ := returns.tcp
          exact absurd (same.conn.symm.trans ipv6) (by simp [TcpContext.asConnection])
      | udp _ =>
          rw [kind] at returns
          obtain ⟨_, _, -, same⟩ := returns.udp
          exact absurd (same.conn.symm.trans ipv6) (by simp [UdpContext.asConnection])

/-- **No byte is made up, repeated or overtaken.**  Each write is a front of one payload of the
flow, and the payloads that are written are a subsequence of those that the router gave. -/
theorem run_wrote (run : machine.Run own s) (ipv6 : s.conn = .ipv6 conn) : Wrote own conn := by
  induction run generalizing conn with
  | @start s starts =>
      obtain ⟨⟨c, id, packet, answers, selector, -, -, -, created⟩, -⟩ := starts
      rw [ipv6] at created
      cases Router.createConnection_creates created with
      | ipv6 made =>
          obtain ⟨-, -, untouched⟩ := Ipv6Connection.create_kept made
          refine ⟨[], List.nil_sublist _, ?_⟩
          rw [untouched]
          exact .nil
  | @step own s s' label run step ih =>
      obtain ⟨before, kind⟩ := Step.ipv6 step ipv6
      have wrote := ih kind
      obtain ⟨_, armed⟩ := s
      obtain ⟨_, armed'⟩ := s'
      cases kind
      cases ipv6
      exact wrote.step step

end Flow

/-! ## In the relay -/

namespace Relay

variable {t : List (Relay × Label)} {s : Relay} {handle : Handle} {conn : Ipv6Connection}

/-- **What the socket of an IPv6 connection is given**, in any run and whatever the other connections
of the client do: each write took a front of the payload of a packet of its flow, and no packet was
offered twice or before one that was offered earlier. -/
theorem run_writes6 (run : machine.Run t s) (place : s.created[handle]? = some (.ipv6 conn)) :
    ∃ own armed offered, Machine.Aligned (fun s : Relay => handle < s.created.length)
        (fun s label block => ∀ q ∈ block, Shows s label q.2) t own ∧
      Given handle t ⟨.ipv6 conn, armed⟩ own ∧ offered.Sublist (Flow.payloads own) ∧
      List.Forall₂ (· <+: ·) (writes conn.trace) offered := by
  obtain ⟨own, ⟨conn', armed⟩, runs, ⟨place', -⟩, aligned, given⟩ :=
    (tracksFlow handle).run run (List.getElem?_eq_some_iff.mp place).1
  cases place'.symm.trans place
  obtain ⟨offered, part, fronts⟩ := Flow.run_wrote runs rfl
  exact ⟨own, armed, offered, aligned, given, part, fronts⟩

/-- With one datagram. -/
theorem run_writes6_datagram : ∃ t s conn armed own offered, machine.Run t s ∧
    s.created[0]? = some (.ipv6 conn) ∧ Given 0 t ⟨.ipv6 conn, armed⟩ own ∧
      offered.Sublist (Flow.payloads own) ∧ List.Forall₂ (· <+: ·) (writes conn.trace) offered := by
  obtain ⟨t, s, conn, run, -, -, created, -⟩ := run_opens
  have place : s.created[0]? = some (.ipv6 conn) := congrArg (·[0]?) created
  obtain ⟨own, armed, offered, -, given, part, fronts⟩ := run_writes6 run place
  exact ⟨t, s, conn, armed, own, offered, run, place, given, part, fronts⟩

end Relay

end ReverseTether
