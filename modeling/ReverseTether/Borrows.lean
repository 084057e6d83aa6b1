import ReverseTether.Process
import ReverseTether.Routes

/-!
# No borrow is refused

Between two steps of the relay no cell is borrowed, and the tunnel server lists the clients
that are open, which is `Tended`.  An open connection is routed by its client, so that its
client is open, hence listed, hence alive.  It follows that a handler does what the model of
one client does (`Process.handler_dispatch`), and that handlers and the reaper panic only where
the code does: no borrow is refused, no weak pointer of an open connection has expired
(`Process.run_borrows`).

The proof needs both halves of the relay at once.  The model of one client knows which
connections are open and routed, and the process knows which clients are listed; a handler
runs in the model of its client, and its effects on the owners are those that the model's
close announces.

The reaper is the one place where several cells are borrowed in a row: it holds the server
while it goes through the clients, and each client while it goes through its connections.  A
connection that expires is given the client that is borrowed already, and asks for none.
-/

namespace ReverseTether

open Library

/-! ## The relay is kept in order -/

/-- The element is gone; the last one takes its place. -/
theorem swapRemove_perm {α : Type} {items : List α} {index : ℕ} (inside : index < items.length) :
    (swapRemove items index).Perm (items.eraseIdx index) := by
  obtain ⟨front, last, rfl⟩ : ∃ front last, items = front ++ [last] :=
    ⟨items.dropLast, items.getLast (List.ne_nil_of_length_pos (by omega)),
      (List.dropLast_append_getLast _).symm⟩
  have removed : swapRemove (front ++ [last]) index = ((front ++ [last]).set index last).dropLast := by
    rw [swapRemove, List.getLast?_concat]
  rw [removed]
  rw [List.length_append, List.length_singleton] at inside
  rcases Nat.lt_succ_iff_lt_or_eq.mp inside with before | rfl
  · rw [List.set_append_left _ _ before, List.dropLast_concat, List.eraseIdx_append_of_lt_length before]
    exact (List.set_perm_cons_eraseIdx before last).trans (List.perm_append_singleton _ _).symm
  · rw [List.set_append_right _ _ le_rfl, List.eraseIdx_append_of_length_le le_rfl, Nat.sub_self]
    show (front ++ [last]).dropLast.Perm (front ++ [])
    rw [List.dropLast_concat, List.append_nil]

/-- A client that is dropped is taken out of the list, whose order may change. -/
theorem Owners.without_perm {s : Owners} {k : ClientHandle} (listed : s.Listed k) :
    (s.without k).server.clients.Perm (s.server.clients.erase k) := by
  rw [List.erase_eq_eraseIdx_of_idxOf rfl]
  exact swapRemove_perm (List.idxOf_lt_length_iff.mpr listed)

/-- **Between two steps** the routers are in order, and the tunnel server lists the clients that
are open. -/
structure Tended (contexts : List ClientContext) (s : Owners) : Prop where
  routed : ∀ c ∈ contexts, c.Routed
  cleared : ∀ c ∈ contexts, c.client.closed = true → c.client.connections = []
  listed : ∀ k c, contexts[k]? = some c → (k ∈ s.server.clients ↔ c.client.closed = false)
  known : ∀ k ∈ s.server.clients, k < contexts.length
  once : s.server.clients.Nodup

namespace Tended

variable {contexts contexts' : List ClientContext} {s s' : Owners} {k : ClientHandle}
  {c c' : ClientContext}

/-- One client has gone on, and is listed if it is open. -/
theorem set (tended : Tended contexts s) (place : contexts[k]? = some c) (routed : c'.Routed)
    (cleared : c'.client.closed = true → c'.client.connections = [])
    (listed : k ∈ s'.server.clients ↔ c'.client.closed = false)
    (others : ∀ k', k' ≠ k → (k' ∈ s'.server.clients ↔ k' ∈ s.server.clients))
    (once : s'.server.clients.Nodup) : Tended (contexts.set k c') s' := by
  have inside : k < contexts.length := (List.getElem?_eq_some_iff.mp place).1
  refine ⟨fun d mem => ?_, fun d mem => ?_, fun k' d place' => ?_, fun k' mem => ?_, once⟩
  · rcases List.mem_or_eq_of_mem_set mem with before | rfl
    · exact tended.routed d before
    · exact routed
  · rcases List.mem_or_eq_of_mem_set mem with before | rfl
    · exact tended.cleared d before
    · exact cleared
  · by_cases same : k' = k
    · rw [same, List.getElem?_set_self inside] at place'
      cases place'
      rw [same]
      exact listed
    · rw [List.getElem?_set_ne (Ne.symm same)] at place'
      rw [others k' same]
      exact tended.listed k' d place'
  · rw [List.length_set]
    by_cases same : k' = k
    · rw [same]
      exact inside
    · exact tended.known k' ((others k' same).mp mem)

/-- One client has gone on, open or closed as before. -/
theorem set_same (tended : Tended contexts s) (place : contexts[k]? = some c) (routed : c'.Routed)
    (closed : c'.client.closed = c.client.closed)
    (cleared : c'.client.closed = true → c'.client.connections = []) :
    Tended (contexts.set k c') s := by
  refine tended.set place routed cleared ?_ (fun _ _ => Iff.rfl) tended.once
  rw [closed]
  exact tended.listed k c place

/-- **The client of an open connection is open**, hence alive.  A connection that is open has a
route in the router of its client, and a client that has closed has none.  This is what lets a
connection reach its client through a weak reference. -/
theorem alive (tended : Tended contexts s) (place : contexts[k]? = some c) {handle : Handle}
    {conn : Connection} (created : c.created[handle]? = some conn) (isOpen : conn.isClosed = false) :
    c.client.closed = false ∧ s.Alive k := by
  have mem : c ∈ contexts := List.mem_of_getElem? place
  have route : (conn.id, handle) ∈ c.client.connections :=
    ((tended.routed c mem).routes _ _).mpr ⟨conn, created, rfl, isOpen⟩
  have stays : c.client.closed = false := by
    cases closed : c.client.closed with
    | false => rfl
    | true =>
        rw [tended.cleared c mem closed] at route
        cases route
  have listed : k ∈ s.server.clients := (tended.listed k c place).mpr stays
  exact ⟨stays, Nat.add_pos_left (List.count_pos_iff.mpr listed) _⟩

/-- One client has closed, and is dropped. -/
theorem without (tended : Tended contexts s) (place : contexts[k]? = some c) (listed : s.Listed k)
    (routed : c'.Routed) (closed : c'.client.closed = true)
    (cleared : c'.client.connections = []) : Tended (contexts.set k c') (s.without k) := by
  have dropped (k' : ClientHandle) :
      k' ∈ (s.without k).server.clients ↔ k' ≠ k ∧ k' ∈ s.server.clients := by
    rw [(Owners.without_perm listed).mem_iff, tended.once.mem_erase_iff]
  refine tended.set place routed (fun _ => cleared) ?_ (fun k' other => ?_) ?_
  · rw [dropped, closed]
    exact ⟨fun mem => absurd rfl mem.1, nofun⟩
  · rw [dropped]
    exact and_iff_right other
  · exact (Owners.without_perm listed).nodup_iff.mpr (tended.once.erase k)

/-- A client has just been accepted. -/
theorem accept (tended : Tended contexts s) (id : UInt32)
    (pushed : s'.server.clients = s.server.clients ++ [contexts.length]) :
    Tended (contexts ++ [.create id]) s' := by
  have fresh : (ClientContext.create id).Routed := Relay.create_routed id
  have unknown : contexts.length ∉ s.server.clients := by
    intro mem
    exact lt_irrefl _ (tended.known _ mem)
  refine ⟨fun d mem => ?_, fun d mem => ?_, fun k d place => ?_, fun k mem => ?_, ?_⟩
  · rcases List.mem_append.mp mem with before | last
    · exact tended.routed d before
    · rw [List.mem_singleton.mp last]
      exact fresh
  · rcases List.mem_append.mp mem with before | last
    · exact tended.cleared d before
    · rw [List.mem_singleton.mp last]
      exact fun closed => absurd closed Bool.false_ne_true
  · rw [pushed, List.mem_append, List.mem_singleton]
    by_cases before : k < contexts.length
    · rw [List.getElem?_append_left before] at place
      rw [or_iff_left before.ne]
      exact tended.listed k d place
    · have last : k = contexts.length := by
        have inside := (List.getElem?_eq_some_iff.mp place).1
        rw [List.length_append, List.length_singleton] at inside
        exact Nat.le_antisymm (Nat.lt_succ_iff.mp inside) (not_lt.mp before)
      rw [last, List.getElem?_concat_length] at place
      cases place
      exact ⟨fun _ => rfl, fun _ => .inr last⟩
  · rw [pushed, List.mem_append, List.mem_singleton] at mem
    rw [List.length_append, List.length_singleton]
    rcases mem with before | rfl
    · exact Nat.lt_succ_of_lt (tended.known k before)
    · exact Nat.lt_succ_self _
  · rw [pushed]
    exact List.nodup_append.mpr ⟨tended.once, List.nodup_singleton _, fun k mem k' last same =>
      unknown (List.mem_singleton.mp last ▸ same ▸ mem)⟩

end Tended

/-! ## What a handler does -/

/-- **How a program of the relay ends**: with no cell borrowed, or in a panic of the code. -/
def Ends {α : Type} (post : α → Owners → Prop) :
    Except (Fault Cell RelayPanic) (α × Flags Cell × Owners) → Prop
  | .ok (a, flags, s) => (∀ cell, flags cell = 0) ∧ post a s
  | .error fault => ∃ panic, fault = .panic (.code panic)

/-- A program that computes something ends as what it computes does. -/
theorem Ends.of_computes {α : Type} {free : Set Cell} {pre : Owners → Prop} {x : Sharing α}
    {y : StateT Owners (Except RelayPanic) α} {post : α → Owners → Prop} {flags : Flags Cell}
    {s : Owners} (computes : Computes free pre x y) (unborrowed : ∀ cell, flags cell = 0)
    (holds : pre s) (code : ∀ e, y.run s = .error e → ∃ panic, e = .code panic)
    (reaches : ∀ a s', y.run s = .ok (a, s') → post a s') : Ends post (x.run (flags, s)) := by
  rw [computes flags s (fun cell _ => unborrowed cell) holds]
  cases run : y.run s with
  | error e =>
      obtain ⟨panic, rfl⟩ := code e run
      exact ⟨panic, rfl⟩
  | ok p => exact ⟨unborrowed, reaches p.1 p.2 run⟩

namespace TunnelServerCells

/-- The cells that the tunnel server can borrow while it runs. -/
def others : Set Cell := {cell | cell ≠ .tunnelServer}

/-- The tunnel server may borrow any client. -/
theorem client_mem_others (k : ClientHandle) : Cell.client k ∈ others := nofun

/-- A client is accepted while only the cell of the tunnel server is borrowed. -/
theorem acceptClient_computes (contexts : List ClientContext) (overflowChecks : Bool)
    (answer : IoResult (IoResult Unit)) : Computes others (fun _ => True)
      (acceptClient contexts overflowChecks answer)
      (TunnelServer.acceptClient contexts overflowChecks answer) := by
  cases answer with
  | error err => exact .pure _
  | ok registered =>
      refine .bind (.shared _) (fun _ _ _ _ _ => trivial) fun clientId => ?_
      refine .bind (.borrowMut (client_mem_others _) (.shared _)) (fun _ _ _ _ _ => trivial) fun made => ?_
      cases made with
      | error err => exact .pure _
      | ok _ => exact .bind (.shared _) (fun _ _ _ _ _ => trivial) fun _ => .pure _

/-- **The accept loop borrows nothing but the tunnel server itself.**  Every borrow of it ends
before the next client is accepted, so that no handler is called while it is held. -/
theorem onReady_computes (overflowChecks : Bool) (answers : List (IoResult (IoResult Unit)))
    (contexts : List ClientContext) : Computes others (fun _ => True)
      (onReady overflowChecks answers contexts)
      (TunnelServer.onReady overflowChecks answers contexts) := by
  induction answers generalizing contexts with
  | nil => exact .pure _
  | cons answer answers ih =>
      refine .bind (acceptClient_computes contexts overflowChecks answer) (fun _ _ _ _ _ => trivial)
        fun p => ?_
      obtain ⟨⟨⟩ | ⟨⟩, contexts'⟩ := p
      · exact .pure _
      · exact ih contexts'

/-- A client is borrowed to have its expired connections closed, and then its connections. -/
theorem cleanClient_returns {pre : Owners → Prop} (clock : ClientHandle → Handle → Instant)
    (contexts : List ClientContext) (k : ClientHandle) : Returns others pre
      (cleanClient clock contexts k) (TunnelServer.cleanClient clock contexts k) := by
  unfold cleanClient TunnelServer.cleanClient
  cases contexts[k]? with
  | none => exact .ok _
  | some c =>
      have cleans : Returns (others \ {.client k}) pre
          (RouterCells.cleanExpiredConnections k c (clock k))
          (Router.cleanExpiredConnections c (clock k)) := by
        refine (RouterCells.cleanExpiredConnections_returns c (clock k)).mono ?_ fun _ holds => holds
        rintro cell ⟨handle, rfl⟩
        exact ⟨nofun, nofun⟩
      have borrowed : Returns others pre
          (Celled.borrowMut (.client k) (RouterCells.cleanExpiredConnections k c (clock k)))
          (Router.cleanExpiredConnections c (clock k)) := Computes.borrowMut (client_mem_others k) cleans
      exact borrowed.map _

end TunnelServerCells

namespace TunnelServer

/-- To run a program of the tunnel server keeps the relay in order, unless the ids overflow. -/
def Tends {α : Type} (contextsOf : α → List ClientContext) (contexts : List ClientContext)
    (s : Owners) (y : StateT Owners (Except RelayPanic) α) : Prop :=
  y.run s = .error (.code .overflow) ∨
    ∃ a s', y.run s = .ok (a, s') ∧ (Tended contexts s → Tended (contextsOf a) s')

/-- A client that is accepted is open and has no connection. -/
theorem acceptClient_tends (contexts : List ClientContext) (overflowChecks : Bool)
    (answer : IoResult (IoResult Unit)) (s : Owners) :
    Tends Prod.snd contexts s (acceptClient contexts overflowChecks answer) := by
  cases answer with
  | error err => exact .inr ⟨_, s, rfl, fun tended => tended⟩
  | ok registered =>
      unfold Tends acceptClient
      simp only [StateT.run_bind]
      by_cases full : overflowChecks ∧ s.server.nextClientId.toNat + 1 = 2 ^ 32
      · have taken : (takeClientId overflowChecks).run s = .error (.code .overflow) := if_pos full
        rw [taken]
        exact .inl rfl
      · have taken : (takeClientId overflowChecks).run s = .ok (s.server.nextClientId,
            { s with server := { s.server with nextClientId := s.server.nextClientId + 1 } }) :=
          if_neg full
        rw [taken]
        cases registered with
        | error err =>
            refine .inr ⟨_, _, rfl, fun tended => ?_⟩
            exact ⟨tended.routed, tended.cleared, tended.listed, tended.known, tended.once⟩
        | ok _ => exact .inr ⟨_, _, rfl, fun tended => tended.accept _ rfl⟩

/-- The whole loop keeps the relay in order. -/
theorem onReady_tends (overflowChecks : Bool) (answers : List (IoResult (IoResult Unit)))
    (contexts : List ClientContext) (s : Owners) :
    Tends id contexts s (onReady overflowChecks answers contexts) := by
  induction answers generalizing contexts s with
  | nil => exact .inr ⟨contexts, s, rfl, fun tended => tended⟩
  | cons answer answers ih =>
      unfold Tends onReady
      simp only [StateT.run_bind]
      rcases acceptClient_tends contexts overflowChecks answer s with
        full | ⟨⟨result, contexts'⟩, s₁, accepted, kept⟩
      · rw [full]
        exact .inl rfl
      · rw [accepted]
        cases result with
        | error err => exact .inr ⟨contexts', s₁, rfl, kept⟩
        | ok _ =>
            rcases ih contexts' s₁ with full | ⟨contexts'', s₂, rest, kept'⟩
            · exact .inl full
            · exact .inr ⟨contexts'', s₂, rest, fun tended => kept' (kept tended)⟩

/-- The reaper leaves a client open, and its router in order. -/
theorem cleanExpiredConnections_keeps {c c' : ClientContext} {clock : Handle → Instant}
    (routed : c.Routed) (h : Router.cleanExpiredConnections c clock = .ok c') :
    c'.Routed ∧ c'.client.closed = c.client.closed := by
  have expires (routes : List (ConnectionId × Handle)) : ∀ c : ClientContext, c.Routed →
      routes.foldlM Router.expireRoute c = .ok c' →
      c'.Routed ∧ c'.client.closed = c.client.closed := by
    induction routes with
    | nil =>
        intro c routed h
        cases h
        exact ⟨routed, rfl⟩
    | cons route rest ih =>
        intro c routed h
        rw [List.foldlM_cons] at h
        obtain ⟨c₁, expired, h⟩ := bind_eq_ok.mp h
        have moves : ClientMoves (fun _ => True) True c c₁ :=
          Router.expireRoute_moves trivial routed expired
        have closed := Router.expireRoute_closed routed expired
        obtain ⟨routed', closed'⟩ := ih c₁ (moves.routed routed) h
        exact ⟨routed', closed'.trans closed⟩
  exact expires _ c routed h

/-- The expired connections of a client leave its routes in order. -/
theorem cleanClient_tended {clock : ClientHandle → Handle → Instant}
    {contexts contexts' : List ClientContext} {k : ClientHandle} {s : Owners}
    (tended : Tended contexts s) (h : cleanClient clock contexts k = .ok contexts') :
    Tended contexts' s := by
  unfold cleanClient at h
  cases place : contexts[k]? with
  | none =>
      rw [place] at h
      cases h
      exact tended
  | some c =>
      rw [place] at h
      obtain ⟨c', cleaned, rest⟩ := bind_eq_ok.mp h
      cases rest
      have routed := tended.routed c (List.mem_of_getElem? place)
      obtain ⟨routed', same⟩ := cleanExpiredConnections_keeps routed cleaned
      refine tended.set_same place routed' same fun closed => ?_
      have none := tended.cleared c (List.mem_of_getElem? place) (same ▸ closed)
      unfold Router.cleanExpiredConnections at cleaned
      rw [none] at cleaned
      cases cleaned
      exact none

/-- The same for all the clients of the list. -/
theorem cleanClients_tended {clock : ClientHandle → Handle → Instant} {clients : List ClientHandle}
    {contexts contexts' : List ClientContext} {s : Owners} (tended : Tended contexts s)
    (h : clients.foldlM (cleanClient clock) contexts = .ok contexts') : Tended contexts' s := by
  induction clients generalizing contexts with
  | nil =>
      cases h
      exact tended
  | cons k clients ih =>
      rw [List.foldlM_cons] at h
      obtain ⟨contexts₁, cleaned, h⟩ := bind_eq_ok.mp h
      exact ih (cleanClient_tended tended cleaned) h

end TunnelServer

namespace Process

variable {flags : Flags Cell} {contexts : List ClientContext} {s : Owners}

/-- **The reaper ends with no cell borrowed**, or in a panic of the code.  The clients are borrowed
one after the other, and inside each of them the flows that have expired; both have been given back
when the next one is borrowed. -/
theorem cleanUp_ends (unborrowed : ∀ cell, flags cell = 0) (tended : Tended contexts s)
    (clock : ClientHandle → Handle → Instant) :
    Ends Tended ((cleanUp contexts clock).run (flags, s)) := by
  have cleans : Computes Set.univ (fun _ => True) (cleanUp contexts clock)
      (get >>= fun s => steady (s.server.clients.foldlM (TunnelServer.cleanClient clock) contexts)) := by
    refine .borrowMut trivial ?_
    refine .bind (.shared _) (fun _ _ _ _ _ => trivial) fun s => ?_
    refine (Returns.foldlM (TunnelServerCells.cleanClient_returns clock) _ contexts).mono ?_
      fun _ holds => holds
    exact fun cell other => ⟨trivial, other⟩
  have ends (a : Owners) : (get >>= fun s : Owners =>
      steady (s.server.clients.foldlM (TunnelServer.cleanClient clock) contexts)).run a =
        (steady (a.server.clients.foldlM (TunnelServer.cleanClient clock) contexts)).run a := rfl
  refine .of_computes cleans unborrowed trivial (fun e run => ?_) fun contexts' s' run => ?_
  · rw [ends] at run
    cases cleaned : s.server.clients.foldlM (TunnelServer.cleanClient clock) contexts with
    | error panic =>
        rw [cleaned] at run
        cases run
        exact ⟨panic, rfl⟩
    | ok _ =>
        rw [cleaned] at run
        cases run
  · rw [ends] at run
    cases cleaned : s.server.clients.foldlM (TunnelServer.cleanClient clock) contexts with
    | error panic =>
        rw [cleaned] at run
        cases run
    | ok _ =>
        rw [cleaned] at run
        cases run
        exact TunnelServer.cleanClients_tended tended cleaned

/-- The statistics borrow the tunnel server, and change nothing. -/
theorem logStats_ends (unborrowed : ∀ cell, flags cell = 0) (s : Owners) :
    Ends (fun _ s' => s' = s) (logStats.run (flags, s)) := by
  have logs : Computes Set.univ (fun _ => True) logStats (get >>= fun _ => pure ()) := by
    refine .borrow trivial ?_
    refine .bind (.shared _) (fun _ _ _ _ _ => trivial) fun s => ?_
    have asks : Returns TunnelServerCells.others (fun _ => True)
        (s.server.clients.foldlM (fun _ k => Celled.borrow (.client k) (return ())) ())
        (s.server.clients.foldlM (fun _ _ => pure ()) ()) :=
      Returns.foldlM (fun _ k => Computes.borrow (TunnelServerCells.client_mem_others k) (Returns.ok ()))
        _ ()
    rw [List.foldlM_pure] at asks
    exact asks.mono (fun cell other => ⟨trivial, other⟩) fun _ holds => holds
  refine .of_computes logs unborrowed trivial (fun e run => ?_) fun _ s' run => ?_
  · cases run
  · cases run
    rfl

/-- An event of a connection leaves its client open, or closed. -/
theorem dispatch_connection_closed {c c' : ClientContext} {handle : Handle} {conn : Connection}
    {ready : Ready} {answers : EventAnswers} (routed : c.Routed)
    (created : c.created[handle]? = some conn)
    (h : c.dispatch (.connection handle) ready answers = .ok c') :
    c'.client.closed = c.client.closed := by
  rcases ClientContext.dispatch_connection routed created h with ⟨-, rfl⟩ | ⟨-, f, executes, rfl, -⟩
  · rfl
  · exact f.removeIfClosed_closed.trans executes.client.closed

/-- The handler of a client, which may close it. -/
theorem client_runs (unborrowed : ∀ cell, flags cell = 0) (tended : Tended contexts s)
    {k : ClientHandle} {c : ClientContext} (place : contexts[k]? = some c) (ready : Ready)
    (answers : EventAnswers) :
    (Celled.borrowMut (.client k) (ClientCells.onReady k c ready answers)).run (flags, s) =
      match c.onReady ready answers with
      | .ok c' =>
          .ok (c', flags, if c.client.closed = false ∧ c'.client.closed then s.without k else s)
      | .error panic => .error (.panic (.code panic)) := by
  cases closed : c.client.closed with
  | true =>
      obtain ⟨ignores, same⟩ := ClientCells.onReady_closed (k := k) closed ready answers
      have returns : Returns Set.univ (fun _ => True)
          (Celled.borrowMut (.client k) (ClientCells.onReady k c ready answers)) (.ok c) := by
        rw [ignores]
        exact Computes.borrowMut trivial (Returns.ok c)
      rw [returns flags s (fun cell _ => unborrowed cell) trivial, same]
      show Except.ok (c, flags, s) = .ok (c, flags, if true = false ∧ _ then _ else s)
      rw [if_neg fun both => nomatch both.1]
  | false =>
      have listed : s.Listed k := (tended.listed k c place).mpr closed
      have closes := ClientCells.onReady_closes (k := k) closed
        (tended.routed c (List.mem_of_getElem? place)) ready answers
      have below : Cell.below k ⊆ Set.univ \ {.client k} := by
        rintro cell (rfl | ⟨handle, rfl⟩)
        · exact ⟨trivial, nofun⟩
        · exact ⟨trivial, nofun⟩
      have handles : Computes Set.univ (Owners.Listed k)
          (Celled.borrowMut (.client k) (ClientCells.onReady k c ready answers))
          (leaving k id (c.onReady ready answers)) :=
        .borrowMut trivial (closes.computes.mono below fun _ holds => holds)
      rw [handles flags s (fun cell _ => unborrowed cell) listed]
      cases c.onReady ready answers with
      | error panic => rfl
      | ok c' =>
          show Except.ok (c', flags, if c'.client.closed then s.without k else s) =
            .ok (c', flags, if false = false ∧ c'.client.closed then s.without k else s)
          simp only [true_and]

/-- The handler of a connection, whose client is alive if it is open. -/
theorem connection_runs (unborrowed : ∀ cell, flags cell = 0) (tended : Tended contexts s)
    {k : ClientHandle} {c : ClientContext} (place : contexts[k]? = some c) {handle : Handle}
    {conn : Connection} (created : c.created[handle]? = some conn) (ready : Ready)
    (answers : EventAnswers) :
    (Celled.borrowMut (.connection k handle) (ConnectionCells.onReady k (c.enter conn) ready
        answers.socket answers.now)).run (flags, s) =
      match (c.enter conn).onReady ready answers.socket answers.now with
      | .ok f => .ok (f, flags, s)
      | .error panic => .error (.panic (.code panic)) := by
  have handles : Returns Set.univ (fun s' => s' = s)
      (Celled.borrowMut (.connection k handle) (ConnectionCells.onReady k (c.enter conn) ready
        answers.socket answers.now))
      ((c.enter conn).onReady ready answers.socket answers.now) := by
    refine Computes.borrowMut trivial ?_
    cases closed : conn.isClosed with
    | true =>
        obtain ⟨ignores, same⟩ := ConnectionCells.onReady_closed (k := k) (c := c.enter conn) closed
          ready answers.socket answers.now
        rw [ignores, same]
        exact Returns.ok _
    | false =>
        obtain ⟨-, alive⟩ := tended.alive place created closed
        have apart : ({.client k} : Set Cell) ⊆ Set.univ \ {.connection k handle} := by
          rintro cell rfl
          exact ⟨trivial, nofun⟩
        refine (ConnectionCells.onReady_returns _ ready answers.socket answers.now).mono apart ?_
        rintro _ rfl
        exact alive
  rw [handles flags s (fun cell _ => unborrowed cell) rfl]
  cases (c.enter conn).onReady ready answers.socket answers.now <;> rfl

/-- **A handler of a client does what its model does**, and nothing to the other clients; the
tunnel server drops the client if it has closed. -/
theorem handler_dispatch (unborrowed : ∀ cell, flags cell = 0) (tended : Tended contexts s)
    {k : ClientHandle} {c : ClientContext} (place : contexts[k]? = some c) (source : Source)
    (ready : Ready) (answers : HandlerAnswers) :
    (handler contexts (source.cell k) ready answers).run (flags, s) =
      match c.dispatch source ready answers.event with
      | .ok c' => .ok (contexts.set k c', flags,
          if c.client.closed = false ∧ c'.client.closed then s.without k else s)
      | .error panic => .error (.panic (.code panic)) := by
  cases source with
  | client =>
      simp only [Source.cell, handler, place]
      rw [StateT.run_bind, client_runs unborrowed tended place]
      show _ = match c.onReady ready answers.event with
        | .ok c' => _
        | .error panic => _
      cases c.onReady ready answers.event <;> rfl
  | connection handle =>
      simp only [Source.cell, handler, place]
      cases created : c.created[handle]? with
      | none =>
          simp only [ClientContext.dispatch, created]
          rfl
      | some conn =>
          simp only [ClientContext.dispatch, created]
          rw [StateT.run_bind, connection_runs unborrowed tended place created]
          cases handled : (c.enter conn).onReady ready answers.event.socket answers.event.now with
          | error panic => rfl
          | ok f =>
              have dispatched : c.dispatch (.connection handle) ready answers.event =
                  .ok (c.leave f) := by
                simp only [ClientContext.dispatch, created, handled, ok_bind, pure_eq_ok]
              have same : (c.leave f).client.closed = c.client.closed :=
                dispatch_connection_closed (tended.routed c (List.mem_of_getElem? place)) created
                  dispatched
              show Except.ok (contexts.set k (c.leave f), flags, s) = .ok (contexts.set k (c.leave f),
                flags, if c.client.closed = false ∧ (c.leave f).client.closed then s.without k else s)
              rw [if_neg fun both => ?_]
              exact absurd (both.1.symm.trans (same.symm.trans both.2)) Bool.false_ne_true

/-- A client does not open again. -/
theorem dispatch_stays_closed {c c' : ClientContext} {source : Source} {ready : Ready}
    {answers : EventAnswers} (routed : c.Routed) (closed : c.client.closed = true)
    (h : c.dispatch source ready answers = .ok c') : c'.client.closed = true := by
  cases source with
  | client =>
      have same := (ClientCells.onReady_closed (k := 0) closed ready answers).2
      cases same.symm.trans h
      exact closed
  | connection handle =>
      cases created : c.created[handle]? with
      | none =>
          simp only [ClientContext.dispatch, created] at h
          cases h
      | some conn => exact (dispatch_connection_closed routed created h).trans closed

/-- A client that has closed has no route left. -/
theorem dispatch_cleared {c c' : ClientContext} {source : Source} {ready : Ready}
    {answers : EventAnswers} (routed : c.Routed)
    (cleared : c.client.closed = true → c.client.connections = [])
    (h : c.dispatch source ready answers = .ok c') (closed' : c'.client.closed = true) :
    c'.client.connections = [] := by
  cases source with
  | client =>
      cases closed : c.client.closed with
      | true =>
          have same := (ClientCells.onReady_closed (k := 0) closed ready answers).2
          cases same.symm.trans h
          exact cleared closed
      | false =>
          exact (ClientCells.onReady_closes (k := 0) closed routed ready answers).cleared c' h closed'
  | connection handle =>
      cases created : c.created[handle]? with
      | none =>
          simp only [ClientContext.dispatch, created] at h
          cases h
      | some conn =>
          have same := dispatch_connection_closed routed created h
          have none := cleared (same.symm.trans closed')
          rcases ClientContext.dispatch_connection routed created h with ⟨-, rfl⟩ | ⟨isOpen, -⟩
          · exact none
          · have route : (conn.id, handle) ∈ c.client.connections :=
              (routed.routes _ _).mpr ⟨conn, created, rfl, isOpen⟩
            rw [none] at route
            cases route

/-- **The handler of an open client ends with no cell borrowed**, whether it closes the client or
not.  A client that closes is removed from the list of the tunnel server by its callback, which is
called while the client itself is borrowed and must not touch it. -/
theorem dispatch_ends (unborrowed : ∀ cell, flags cell = 0) (tended : Tended contexts s)
    (k : ClientHandle) (source : Source) (ready : Ready) (answers : HandlerAnswers) :
    Ends Tended ((handler contexts (source.cell k) ready answers).run (flags, s)) := by
  cases place : contexts[k]? with
  | none =>
      have unknown : handler contexts (source.cell k) ready answers =
          Sharing.call (.error .tokenNotFound) := by
        cases source <;> simp only [Source.cell, handler, place]
      rw [unknown]
      exact ⟨.tokenNotFound, rfl⟩
  | some c =>
      rw [handler_dispatch unborrowed tended place source ready answers]
      cases dispatched : c.dispatch source ready answers.event with
      | error panic => exact ⟨panic, rfl⟩
      | ok c' =>
          have mem : c ∈ contexts := List.mem_of_getElem? place
          have moves : ClientMoves (fun _ => True) True c c' :=
            ClientContext.dispatch_moves (fun _ => trivial) (fun _ _ _ => trivial)
              (tended.routed c mem) dispatched
          have routed := moves.routed (tended.routed c mem)
          have cleared := dispatch_cleared (tended.routed c mem) (tended.cleared c mem) dispatched
          refine ⟨unborrowed, ?_⟩
          split
          · rename_i both
            exact tended.without place ((tended.listed k c place).mpr both.1) routed both.2
              (cleared both.2)
          · rename_i neither
            refine tended.set_same place routed ?_ cleared
            cases closed : c.client.closed with
            | true => exact dispatch_stays_closed (tended.routed c mem) closed dispatched
            | false =>
                rw [Bool.eq_false_iff]
                exact fun closed' => neither ⟨closed, closed'⟩

/-- The handler of the tunnel server is its accept loop. -/
theorem tunnelServer_computes (contexts : List ClientContext) (ready : Ready)
    (answers : HandlerAnswers) :
    Computes Set.univ (fun _ => True) (handler contexts .tunnelServer ready answers)
      (TunnelServer.onReady answers.overflowChecks answers.accepts contexts) := by
  refine .borrowMut trivial ?_
  exact (TunnelServerCells.onReady_computes _ _ _).mono (fun _ other => ⟨trivial, other⟩)
    fun _ holds => holds

/-- **A handler keeps the relay in order**, and panics only where the code does.  The cells say
which handler it is: the one of the listener, of a client, or of a connection.  A fault of the
borrow checker is not among its ends, and that is what the run lemma needs. -/
theorem handler_ends (unborrowed : ∀ cell, flags cell = 0) (tended : Tended contexts s) (cell : Cell)
    (ready : Ready) (answers : HandlerAnswers) :
    Ends Tended ((handler contexts cell ready answers).run (flags, s)) := by
  cases cell with
  | tunnelServer =>
      have computes := tunnelServer_computes contexts ready answers
      rcases TunnelServer.onReady_tends answers.overflowChecks answers.accepts contexts s with
        full | ⟨contexts', s', run, kept⟩
      · refine .of_computes computes unborrowed trivial (fun e run => ?_) fun a s' run => ?_
        · rw [full] at run
          cases run
          exact ⟨_, rfl⟩
        · rw [full] at run
          cases run
      · refine .of_computes computes unborrowed trivial (fun e run' => ?_) fun a s'' run' => ?_
        · rw [run] at run'
          cases run'
        · rw [run] at run'
          cases run'
          exact kept tended
  | client k => exact dispatch_ends unborrowed tended k .client ready answers
  | connection k handle => exact dispatch_ends unborrowed tended k (.connection handle) ready answers

/-! ## Every run -/

/-- Removing tokens changes no client. -/
theorem cleanRemovedTokens_tended {s : Process} (tended : Tended s.contexts s.owners) :
    Tended s.cleanRemovedTokens.contexts s.cleanRemovedTokens.owners := by
  refine ⟨fun d mem => ?_, fun d mem => ?_, fun k d place => ?_, fun k mem => ?_, tended.once⟩
  · obtain ⟨c, before, rfl⟩ := List.mem_map.mp mem
    exact (tended.routed c before).congr rfl rfl
  · obtain ⟨c, before, rfl⟩ := List.mem_map.mp mem
    exact tended.cleared c before
  · have found := List.getElem?_map.symm.trans place
    obtain ⟨c, before, rfl⟩ := Option.map_eq_some_iff.mp found
    exact tended.listed k c before
  · show k < (List.map _ s.contexts).length
    rw [List.length_map]
    exact tended.known k mem

/-- What holds between two steps: no cell is borrowed, since every handler gives back what it
takes, and the clients, their routes and the list of the tunnel server agree. -/
structure Sound (s : Process) : Prop where
  unborrowed : ∀ cell, s.flags cell = 0
  tended : Tended s.contexts s.owners

/-- Before the first step there is no client, and no cell is borrowed. -/
theorem create_sound : create.Sound where
  unborrowed _ := rfl
  tended := ⟨nofun, nofun, nofun, nofun, .nil⟩

/-- **Every step ends with no cell borrowed.**  The step lemma of `run_sound`: a poll borrows
nothing, a handler gives back what it borrows, and so does the reaper. -/
theorem Step.sound {s s' : Process} {label : Label} (sound : s.Sound) (step : Step s label s') :
    s'.Sound := by
  cases step with
  | poll _ _ => exact ⟨sound.unborrowed, sound.tended⟩
  | @cleanUp clock _ _ _ ran =>
      have ends := cleanUp_ends sound.unborrowed sound.tended clock
      rw [ran] at ends
      exact ⟨ends.1, ends.2⟩
  | logStats ran =>
      have ends := logStats_ends sound.unborrowed s.owners
      rw [ran] at ends
      obtain ⟨unborrowed, rfl⟩ := ends
      exact ⟨unborrowed, sound.tended⟩
  | @handle cell ready _ answers _ _ _ _ ran =>
      have ends := handler_ends sound.unborrowed sound.tended cell ready answers
      rw [ran] at ends
      exact ⟨ends.1, ends.2⟩
  | cleanRemovedTokens _ => exact ⟨sound.unborrowed, cleanRemovedTokens_tended sound.tended⟩
  | @rehash k c connections place perm =>
      have mem : c ∈ s.contexts := List.mem_of_getElem? place
      have routed := sound.tended.routed c mem
      refine ⟨sound.unborrowed, sound.tended.set_same place ?_ rfl fun closed => ?_⟩
      · refine ⟨routed.places, fun id handle => ?_, (perm.map Prod.fst).nodup_iff.mpr routed.unique⟩
        exact perm.mem_iff.trans (routed.routes id handle)
      · have none := sound.tended.cleared c mem closed
        rw [none] at perm
        exact perm.eq_nil

/-- The same over whole runs. -/
theorem run_sound {t : List (Process × Label)} {s : Process} (run : machine.Run t s) : s.Sound := by
  refine run.invariant Sound ?_ (fun _ _ _ sound _ step => Step.sound sound step)
    (Machine.meets_true t)
  rintro _ rfl
  exact create_sound

/-- **No borrow is refused, and the client of an open connection is found**: whatever event is
dispatched and whenever the reaper runs, between two steps of any run, what fails is the code
itself. -/
theorem run_borrows {t : List (Process × Label)} {s : Process} (run : machine.Run t s) :
    (∀ cell, s.flags cell = 0) ∧
      (∀ cell ready answers fault,
        (handler s.contexts cell ready answers).run (s.flags, s.owners) = .error fault →
          ∃ panic, fault = .panic (.code panic)) ∧
      (∀ clock fault, (cleanUp s.contexts clock).run (s.flags, s.owners) = .error fault →
        ∃ panic, fault = .panic (.code panic)) ∧
      ∀ fault, logStats.run (s.flags, s.owners) = .error fault →
        ∃ panic, fault = .panic (.code panic) := by
  have sound := run_sound run
  refine ⟨sound.unborrowed, fun cell ready answers fault failed => ?_, fun clock fault failed => ?_,
    fun fault failed => ?_⟩
  · have ends := handler_ends sound.unborrowed sound.tended cell ready answers
    rw [failed] at ends
    exact ends
  · have ends := cleanUp_ends sound.unborrowed sound.tended clock
    rw [failed] at ends
    exact ends
  · have ends := logStats_ends sound.unborrowed s.owners
    rw [failed] at ends
    exact ends

/-! ### A flow of the first client -/

section Event

variable {s : Process} {k : ClientHandle} {c c' : ClientContext} {source : Source} {ready asked : Ready}

/-- One event of a client is polled. -/
theorem step_polls (idle : s.batch = []) (place : s.contexts[k]? = some c)
    (known : c.selector.registered source = some asked) (within : ready.Within asked) :
    Step s (.poll [(source.cell k, ready)]) { s with batch := [(source.cell k, ready)] } := by
  have registered : s.interest (source.cell k) = some asked := by
    cases source <;> simpa only [interest, Source.cell, place, Option.bind_some] using known
  refine .poll idle fun event mem => ?_
  rw [List.mem_singleton.mp mem]
  exact ⟨asked, registered, within⟩

/-- It is handled, and the client stays open. -/
theorem step_handles (sound : s.Sound) (answers : HandlerAnswers) (place : s.contexts[k]? = some c)
    (handled : c.dispatch source ready answers.event = .ok c') (isOpen : c'.client.closed = false) :
    Step { s with batch := [(source.cell k, ready)] } (.handle answers)
      { s with contexts := s.contexts.set k c', batch := [] } := by
  refine .handle rfl ?_
  rw [handler_dispatch sound.unborrowed sound.tended place, handled]
  simp only [isOpen, Bool.false_eq_true, and_false, if_false]

/-- One event of a client is polled, and handled. -/
theorem run_event {t : List (Process × Label)} (answers : HandlerAnswers)
    (run : machine.Run t s) (idle : s.batch = []) (place : s.contexts[k]? = some c)
    (known : c.selector.registered source = some asked) (within : ready.Within asked)
    (handled : c.dispatch source ready answers.event = .ok c') (isOpen : c'.client.closed = false) :
    machine.Run (t ++ [(s, .poll [(source.cell k, ready)])] ++
        [({ s with batch := [(source.cell k, ready)] }, .handle answers)])
      { s with contexts := s.contexts.set k c', batch := [] } :=
  (run.step (step_polls idle place known within)).step
    (step_handles (run_sound run) answers place handled isOpen)

end Event

/-- The relay with one client that has just been accepted. -/
def accepted : Process where
  flags _ := 0
  owners := ⟨⟨[0], 1⟩, [0]⟩
  contexts := [.create 0]
  batch := []

/-- A client is accepted in some run. -/
theorem run_accepted : ∃ t, machine.Run t accepted := by
  let answers : HandlerAnswers :=
    ⟨[.ok (.ok ())], false, ⟨⟨.ok none, .ok 0, .ok []⟩, 0, fun _ => ⟨0, false, 0, .ok (), .ok 0⟩⟩⟩
  have start : machine.Run [] create := .start rfl
  have polled : Step create (.poll [(.tunnelServer, .readable)])
      { create with batch := [(.tunnelServer, .readable)] } := by
    refine .poll rfl fun event mem => ?_
    rw [List.mem_singleton.mp mem]
    exact ⟨.readable, rfl, Ready.within_refl _⟩
  have handles : (handler [] .tunnelServer .readable answers).run (create.flags, create.owners) =
      .ok (accepted.contexts, accepted.flags, accepted.owners) := by
    rw [tunnelServer_computes [] .readable answers create.flags create.owners (fun _ _ => rfl) trivial]
    rfl
  have ran : Step { create with batch := [(.tunnelServer, .readable)] } (.handle answers) accepted :=
    .handle rfl handles
  exact ⟨_, (start.step polled).step ran⟩

/-- The client gets its id, and a datagram of it opens a flow. -/
theorem run_flow : ∃ t s c conn, machine.Run t s ∧ s.contexts[0]? = some c ∧
    c.created[0]? = some conn ∧ conn.isClosed = false := by
  let answers : PacketAnswers := ⟨0, false, 0, .ok (), .ok 1⟩
  let first : HandlerAnswers := ⟨[], false, ⟨⟨.ok none, .ok 4, .ok []⟩, 0, fun _ => answers⟩⟩
  let second : HandlerAnswers :=
    ⟨[], false, ⟨⟨.ok none, .ok 0, .ok Relay.datagramBytes6⟩, 0, fun _ => answers⟩⟩
  obtain ⟨t, run⟩ := run_accepted
  have writable : (ClientContext.create 0).selector.registered .client = some .writable := rfl
  have identified := run_event (k := 0) first run rfl rfl writable (Ready.within_refl _)
    (ClientContext.onReady_sendsId 0 first.event rfl) rfl
  obtain ⟨p, opens⟩ := Relay.datagram_opens
  let conn : Ipv6Connection := ⟨0, Relay.datagramId6, .udp, p, false, 0, []⟩
  have readable : (ClientContext.identified 0).selector.registered .client = some .readable := rfl
  have read : second.event.socket.read = .ok Relay.datagramBytes6 := rfl
  obtain ⟨buffer, buffer', -, handled⟩ := ClientContext.onReady_receives
    (c := ClientContext.identified 0) rfl rfl (by decide) Relay.datagram_front read
    (fun _ => (opens _ answers rfl rfl).trans
      (Router.deliver_taken rfl Relay.datagram_payload (List.cons_ne_nil _ _) rfl))
    (fun _ => ⟨rfl, rfl⟩)
  have run' := run_event (k := 0) second identified rfl rfl readable (Ready.within_refl _) handled
    rfl
  exact ⟨_, _, _, .ipv6 ((conn.touch 0).record (.wrote [0x61])), run', rfl, rfl, rfl⟩

/-- The first client opens a flow, and a handler of its connection fails only where the code
panics. -/
theorem run_borrows_flow : ∃ t s c conn, machine.Run t s ∧ s.contexts[0]? = some c ∧
    c.created[0]? = some conn ∧ conn.isClosed = false ∧
    ∀ ready answers fault,
      (handler s.contexts (.connection 0 0) ready answers).run (s.flags, s.owners) = .error fault →
        ∃ panic, fault = .panic (.code panic) := by
  obtain ⟨t, s, c, conn, run, place, created, isOpen⟩ := run_flow
  exact ⟨t, s, c, conn, run, place, created, isOpen, (run_borrows run).2.1 (.connection 0 0)⟩

end Process

end ReverseTether
