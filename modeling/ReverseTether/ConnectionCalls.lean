import ReverseTether.ConnectionLife
import ReverseTether.UdpMoves

/-!
# What a call of a connection is made of

A call of the trait is a call of the kind of connection that is there, up to the
routes of the client: a connection that has closed removes its route in an event, and
has lost it before when it expires.  For TCP and UDP it is then a sequence of the
atomic steps, which starts with what a packet brings.

The kinds have their own atomic steps and share nothing else, so a property of all connections
is proved once for each kind of step, and put together here.  A packet that arrives may change
the control block before anything else happens, which is why it is not one of the steps but
the beginning of their sequence.

What a call returns is not its only effect: the route of a connection is in the client, and
the client is part of what the call is given.  `Returns` keeps the two apart, so that the rest
of the relay can say which connection was called and what became of it.
-/

namespace ReverseTether

open Library Relation

/-- What a call can make a TCP connection do. -/
def ConnectionCall.works : ConnectionCall → TcpWork → Prop
  | .event ready _ _, .read => ready.isReadable = true
  | .event ready _ _, .write => ready.isWritable = true
  | .next, .deliver => True
  | _, _ => False

/-! ## TCP -/

namespace TcpContext

/-- The call of the method returns. -/
def Returns (c : TcpContext) : ConnectionCall → TcpContext → Prop
  | .packet packet answers, c' =>
      c.sendToNetwork packet answers.random answers.overflowChecks answers.now = .ok c'
  | .event ready answers now, c' => c.onReady ready answers now = .ok c'
  | .close, c' => c' = c.close
  | .expire, c' => c.expire = .ok c'
  | .next, c' => c.next = .ok c'

/-- What a call tells the connection, before it answers: a packet changes it as its arrival says,
and every other call tells it nothing. -/
inductive Hears (c : TcpContext) : ConnectionCall → TcpContext → Prop
  | nothing {call : ConnectionCall} : Hears c call c
  | packet {packet : Ipv4Packet} {answers : PacketAnswers} {header : TcpHeader} {c' : TcpContext} :
      TcpConnection.tcpHeaderOfPacket packet = .ok header →
      TcpArrival packet header.data answers.random { c with conn := c.conn.touch answers.now } c' →
      Hears c (.packet (.ipv4 packet) answers) c'

/-- **A call is a sequence of steps.**  What the packet tells is apart from what is done about it:
first the header is heard, and then the moves answer.  Every invariant of a TCP connection is
proved of these two. -/
theorem Returns.moves {c c' : TcpContext} {call : ConnectionCall} (returns : c.Returns call c') :
    ∃ c₁, c.Hears call c₁ ∧ TcpMoves call.works c₁ c' := by
  cases call with
  | packet packet answers =>
      cases packet with
      | ipv6 _ =>
          cases returns
          exact ⟨c, .nothing, .refl⟩
      | ipv4 packet =>
          obtain ⟨header, c₁, tcp, arrival, moves⟩ := sendToNetwork_moves returns
          exact ⟨c₁, .packet tcp arrival, moves⟩
  | event ready answers now => exact ⟨c, .nothing, onReady_moves id id returns⟩
  | close =>
      cases returns
      exact ⟨c, .nothing, .single (.close c)⟩
  | expire => exact ⟨c, .nothing, expire_moves returns⟩
  | next => exact ⟨c, .nothing, next_moves trivial returns⟩

end TcpContext

/-! ## UDP -/

namespace UdpContext

/-- The call of the method returns. -/
def Returns (c : UdpContext) : ConnectionCall → UdpContext → Prop
  | .packet packet _, c' => c.sendToNetwork packet = .ok c'
  | .event ready answers now, c' => c.onReady ready answers now = .ok c'
  | .close, c' | .expire, c' => c' = c.close
  | .next, _ => False

/-- A call is a sequence of steps. -/
theorem Returns.moves {c c' : UdpContext} {call : ConnectionCall} (returns : c.Returns call c') :
    UdpMoves c c' := by
  cases call with
  | packet packet answers => exact sendToNetwork_moves returns
  | event ready answers now => exact onReady_moves returns
  | close =>
      cases returns
      exact .single .close
  | expire =>
      cases returns
      exact .single .close
  | next => exact returns.elim

end UdpContext

/-! ## IPv6 -/

/-- The call of the method returns. -/
def Ipv6Context.Returns (c : Ipv6Context) : ConnectionCall → Ipv6Context → Prop
  | .packet packet answers, c' => c.sendToNetwork packet answers.write answers.now = .ok c'
  | .event ready answers now, c' => c.onReady ready answers.read now = .ok c'
  | .close, c' | .expire, c' => c' = c.close
  | .next, _ => False

/-! ## Every kind -/

/-- They differ only in the routes of the client, from which a closed connection takes itself out.
-/
def ConnectionContext.SameButRoutes (c c' : ConnectionContext) : Prop :=
  c.withRoutes [] = c'.withRoutes []

namespace ConnectionContext.SameButRoutes

variable {c c' : ConnectionContext}

theorem eq (same : c.SameButRoutes c') : c.withRoutes [] = c'.withRoutes [] := same

theorem conn (same : c.SameButRoutes c') : c.conn = c'.conn := by
  have fields := congrArg ConnectionContext.conn same.eq
  exact fields

theorem selector (same : c.SameButRoutes c') : c.selector = c'.selector := by
  have fields := congrArg ConnectionContext.selector same.eq
  exact fields

theorem pendingPacketSources (same : c.SameButRoutes c') :
    c.client.pendingPacketSources = c'.client.pendingPacketSources := by
  have fields := congrArg (fun f : ConnectionContext => f.client.pendingPacketSources) same.eq
  exact fields

theorem appended (same : c.SameButRoutes c') : c.client.appended = c'.client.appended := by
  have fields := congrArg (fun f : ConnectionContext => f.client.appended) same.eq
  exact fields

theorem of_removeIfClosed {f : ConnectionContext} (eq : c = f.removeIfClosed) :
    f.SameButRoutes c := by
  subst eq
  unfold SameButRoutes removeIfClosed
  split <;> rfl

end ConnectionContext.SameButRoutes

namespace ConnectionContext.Returns

variable {client : Client} {selector : Selector} {call : ConnectionCall} {f : ConnectionContext}

theorem tcp {conn : TcpConnection} (returns : Returns ⟨.tcp conn, client, selector⟩ call f) :
    ∃ connections c', TcpContext.Returns ⟨conn, { client with connections }, selector⟩ call c' ∧
      f.SameButRoutes c'.asConnection := by
  cases call with
  | packet packet answers =>
      obtain ⟨c', sent, rest⟩ := bind_eq_ok.mp returns
      cases rest
      exact ⟨client.connections, c', sent, rfl⟩
  | event ready answers now =>
      obtain ⟨c', handled, rest⟩ := bind_eq_ok.mp returns
      exact ⟨client.connections, c', handled, .of_removeIfClosed (Except.ok.inj rest)⟩
  | close =>
      cases returns
      exact ⟨client.connections, _, rfl, rfl⟩
  | expire =>
      obtain ⟨connections, f₁, expired, rfl⟩ := returns
      obtain ⟨c', handled, rest⟩ := bind_eq_ok.mp expired
      cases rest
      exact ⟨connections, c', handled, rfl⟩
  | next =>
      obtain ⟨_, c', ⟨⟩, handed, rfl⟩ := returns
      exact ⟨client.connections, c', handed, rfl⟩

theorem udp {conn : UdpConnection} (returns : Returns ⟨.udp conn, client, selector⟩ call f) :
    ∃ connections c', UdpContext.Returns ⟨conn, { client with connections }, selector⟩ call c' ∧
      f.SameButRoutes c'.asConnection := by
  cases call with
  | packet packet answers =>
      obtain ⟨c', sent, rest⟩ := bind_eq_ok.mp returns
      cases rest
      exact ⟨client.connections, c', sent, rfl⟩
  | event ready answers now =>
      obtain ⟨c', handled, rest⟩ := bind_eq_ok.mp returns
      exact ⟨client.connections, c', handled, .of_removeIfClosed (Except.ok.inj rest)⟩
  | close =>
      cases returns
      exact ⟨client.connections, _, rfl, rfl⟩
  | expire =>
      obtain ⟨connections, f₁, expired, rfl⟩ := returns
      cases expired
      exact ⟨connections, _, rfl, rfl⟩
  | next =>
      obtain ⟨_, c', ⟨⟩, -, -⟩ := returns

theorem ipv6 {conn : Ipv6Connection} (returns : Returns ⟨.ipv6 conn, client, selector⟩ call f) :
    ∃ connections c', Ipv6Context.Returns ⟨conn, { client with connections }, selector⟩ call c' ∧
      f.SameButRoutes c'.asConnection := by
  cases call with
  | packet packet answers =>
      obtain ⟨c', sent, rest⟩ := bind_eq_ok.mp returns
      cases rest
      exact ⟨client.connections, c', sent, rfl⟩
  | event ready answers now =>
      obtain ⟨c', handled, rest⟩ := bind_eq_ok.mp returns
      exact ⟨client.connections, c', handled, .of_removeIfClosed (Except.ok.inj rest)⟩
  | close =>
      cases returns
      exact ⟨client.connections, _, rfl, rfl⟩
  | expire =>
      obtain ⟨connections, f₁, expired, rfl⟩ := returns
      cases expired
      exact ⟨connections, _, rfl, rfl⟩
  | next =>
      obtain ⟨_, c', ⟨⟩, -, -⟩ := returns

end ConnectionContext.Returns

end ReverseTether
