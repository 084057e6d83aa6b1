import ReverseTether.RelayHandlers

/-!
# Routes and registrations over whole runs

Two things hold between any two handlers, in whatever order packets, events,
deliveries and reapings come.

The routes of the client are those of its open connections (`run_routes_live`).

A socket is registered as long as its connection is open, and its token is passed to
`Selector::deregister` once when it closes.  This holds as long as no socket refuses
the payload of an IPv6 packet, and a hang-up is heard as long as it is not one of an
IPv6 connection (`run_deregisters`): an IPv6 connection ignores it, and one that was
refused marks itself closed and stays registered (`run_leaks`).

Both statements are about the state between handlers.  Inside of one the table and the
connections disagree for a moment, as a connection that closes is removed behind the call; so
the call and the removal are one move, and `Routed` holds behind each move.

The conditions of the second statement are about IPv6 alone, and `run_leaks` is a run without
the first of them: a datagram is refused, and the closed connection stays registered for ever.
-/

namespace ReverseTether

open Library Relation

/-! ## Routes -/

section Moves

variable {may : ConnectionCall → Prop} {reads : Prop} {c c' : ClientContext}

/-- A connection that acts, and the others, keep their place and their id. -/
theorem ClientContext.Routed.acts_keeps (routed : c.Routed) {other handle : Handle}
    {conn₁ conn : Connection} {f : ConnectionContext} (place₁ : c.created[other]? = some conn₁)
    (acts : (c.enter conn₁).Acts f) (place : c.created[handle]? = some conn) :
    ∃ conn', (c.leave f.removeIfClosed).created[handle]? = some conn' ∧ conn'.id = conn.id := by
  have inside := (List.getElem?_eq_some_iff.mp place).1
  rw [routed.leave_created place₁ acts]
  by_cases eq : other = handle
  · subst eq
    rw [place] at place₁
    cases place₁
    exact ⟨f.conn, List.getElem?_set_self inside, acts.id⟩
  · exact ⟨conn, by rw [List.getElem?_set_ne eq, place], rfl⟩

/-- A connection keeps its place and its id. -/
theorem ClientMove.keeps (routed : c.Routed) (move : ClientMove may reads c c')
    {handle : Handle} {conn : Connection} (place : c.created[handle]? = some conn) :
    ∃ conn', c'.created[handle]? = some conn' ∧ conn'.id = conn.id := by
  cases move with
  | acts place₁ _ _ executes => exact routed.acts_keeps place₁ executes.toActs place
  | @opens id conn₁ selector _ _ _ _ _ new created executes =>
      have inside := (List.getElem?_eq_some_iff.mp place).1
      have place' : (Router.insert c id conn₁ selector).created[handle]? = some conn :=
        List.getElem?_append_left inside ▸ place
      exact (Router.insert_routed routed new created).acts_keeps (Router.insert_place _ _ _ _)
        executes.toActs place'
  | serves _ _ _ _ => exact ⟨conn, place, rfl⟩
  | receives _ _ => exact ⟨conn, place, rfl⟩
  | sendsId _ _ => exact ⟨conn, place, rfl⟩
  | writes _ _ => exact ⟨conn, place, rfl⟩
  | closes => exact ⟨conn, place, rfl⟩

/-- A connection that exists goes on to exist, under its own id. -/
theorem ClientMoves.keeps (routed : c.Routed) (moves : ClientMoves may reads c c')
    {handle : Handle} {conn : Connection} (place : c.created[handle]? = some conn) :
    ∃ conn', c'.created[handle]? = some conn' ∧ conn'.id = conn.id := by
  refine ClientMoves.invariant
    (P := fun c => ∃ conn', c.created[handle]? = some conn' ∧ conn'.id = conn.id) ?_ routed
    ⟨conn, place, rfl⟩ moves
  rintro c c' routed ⟨conn₁, place₁, same₁⟩ move
  obtain ⟨conn', place', same'⟩ := move.keeps routed place₁
  exact ⟨conn', place', same'.trans same₁⟩

end Moves

namespace Relay

variable {s s' : Relay} {label : Label}

@[simp] theorem create_created (id : UInt32) : (create id).created = [] := rfl

@[simp] theorem create_connections (id : UInt32) : (create id).client.connections = [] := rfl

/-- A new client has no routes. -/
theorem create_routed (id : UInt32) : (create id).Routed := by
  constructor
  · simp
  · simp
  · simp

/-- **Every step keeps the routes in order.** -/
theorem Step.routed (routed : s.Routed) (step : Step s label s') : s'.Routed := by
  rcases step.moves routed with ⟨moves, -⟩ | rfl | ⟨connections, perm, rfl⟩
  · exact moves.routed routed
  · exact routed.congr rfl rfl
  · refine ⟨routed.places, fun id handle => ?_, ?_⟩
    · exact perm.mem_iff.trans (routed.routes id handle)
    · exact (perm.map Prod.fst).nodup_iff.mpr routed.unique

/-- The same over whole runs. -/
theorem run_routed {t : List (Relay × Label)} (run : machine.Run t s) : s.Routed := by
  refine run.invariant (fun s => s.Routed) ?_ ?_ (Machine.meets_true t)
  · rintro _ ⟨id, rfl⟩
    exact create_routed id
  · intro s label s' routed _ step
    exact Step.routed routed step

/-- A step keeps the connections that exist. -/
theorem Step.keeps (routed : s.Routed) (step : Step s label s') {handle : Handle}
    {conn : Connection} (place : s.created[handle]? = some conn) :
    ∃ conn', s'.created[handle]? = some conn' ∧ conn'.id = conn.id := by
  rcases step.moves routed with ⟨moves, -⟩ | rfl | ⟨connections, perm, rfl⟩
  · exact moves.keeps routed place
  · exact ⟨conn, place, rfl⟩
  · exact ⟨conn, place, rfl⟩

/-- **Between any two handlers the routes lead to the open connections.**  Each entry
is one of its own id, each open connection has its entry, a flow has one live
connection, which its packets reach, and an entry that a step removes is one of a
connection that is closed. -/
theorem run_routes_live {t : List (Relay × Label)} (run : machine.Run t s) :
    (∀ id handle, (id, handle) ∈ s.client.connections →
        ∃ conn, s.created[handle]? = some conn ∧ conn.id = id ∧ conn.isClosed = false) ∧
      (∀ (handle : Handle) conn, s.created[handle]? = some conn → conn.isClosed = false →
        (conn.id, handle) ∈ s.client.connections) ∧
      (∀ (handle : Handle) conn, s.created[handle]? = some conn → conn.isClosed = false →
        s.connectionOf conn.id = some conn ∧ s.client.route conn.id = some handle) ∧
      ∀ label s', Step s label s' → ∀ id handle, (id, handle) ∈ s.client.connections →
        (id, handle) ∉ s'.client.connections →
          ∃ conn', s'.created[handle]? = some conn' ∧ conn'.id = id ∧ conn'.isClosed = true := by
  have routed := run_routed run
  refine ⟨fun id handle mem => (routed.routes id handle).mp mem, ?_, ?_, ?_⟩
  · intro handle conn place isOpen
    exact (routed.routes _ _).mpr ⟨conn, place, rfl, isOpen⟩
  · intro handle conn place isOpen
    have mem : (conn.id, handle) ∈ s.client.connections :=
      (routed.routes _ _).mpr ⟨conn, place, rfl, isOpen⟩
    have route := routed.route_eq mem
    refine ⟨?_, route⟩
    rw [ClientContext.connectionOf, route]
    exact place
  · intro label s' step id handle mem gone
    obtain ⟨conn, place, same, -⟩ := (routed.routes id handle).mp mem
    obtain ⟨conn', place', same'⟩ := step.keeps routed place
    refine ⟨conn', place', same'.trans same, ?_⟩
    cases closed : conn'.isClosed with
    | true => rfl
    | false =>
        exact absurd (((step.routed routed).routes id handle).mpr
          ⟨conn', place', same'.trans same, closed⟩) gone

end Relay

/-! ## Registrations -/

/-- The token of a connection has been passed to `deregister` as often as the
connection is closed, and a closed one is not polled. -/
structure ClientContext.Accounted (c : ClientContext) (released : List Source) : Prop where
  once : ∀ (handle : Handle) conn, c.created[handle]? = some conn →
    (released ++ c.selector.tokensToRemove).count (.connection handle) = conn.isClosed.toNat
  gone : ∀ (handle : Handle) conn, c.created[handle]? = some conn → conn.isClosed = true →
    c.selector.registered (.connection handle) = none
  unused : ∀ handle, c.created.length ≤ handle →
    (released ++ c.selector.tokensToRemove).count (.connection handle) = 0

namespace ClientContext.Accounted

variable {c c' : ClientContext} {released : List Source}

/-- Only the client, or its own socket, has changed. -/
theorem congr (accounted : c.Accounted released) (created : c'.created = c.created)
    (tokens : ∀ handle, (released ++ c'.selector.tokensToRemove).count (.connection handle) =
      (released ++ c.selector.tokensToRemove).count (.connection handle))
    (registered : ∀ handle, c'.selector.registered (.connection handle) =
      c.selector.registered (.connection handle)) : c'.Accounted released := by
  constructor
  · intro handle conn place
    rw [tokens]
    exact accounted.once _ _ (created ▸ place)
  · intro handle conn place closed
    rw [registered]
    exact accounted.gone _ _ (created ▸ place) closed
  · intro handle behind
    rw [tokens]
    exact accounted.unused _ (created ▸ behind)

/-- A connection goes on by the rules. -/
theorem proceeds (accounted : c.Accounted released) (routed : c.Routed) {handle : Handle}
    {conn : Connection} {f : ConnectionContext} (place : c.created[handle]? = some conn)
    (isOpen : conn.isClosed = false) (proceeds : (c.enter conn).Proceeds f) :
    (c.leave f.removeIfClosed).Accounted released := by
  have here : conn.handle = handle := routed.places _ _ place
  have created := routed.leave_created place proceeds.toActs
  have selector : (c.leave f.removeIfClosed).selector = f.selector := f.removeIfClosed_selector
  have inside : handle < c.created.length := (List.getElem?_eq_some_iff.mp place).1
  have before := accounted.once _ _ place
  rw [isOpen, Bool.toNat_false] at before
  have others (other : Handle) (ne : other ≠ handle) :
      (released ++ f.selector.tokensToRemove).count (.connection other) =
          (released ++ c.selector.tokensToRemove).count (.connection other) ∧
        f.selector.registered (.connection other) = c.selector.registered (.connection other) := by
    refine ⟨?_, proceeds.others other (here ▸ ne)⟩
    cases proceeds.lives with
    | stays _ tokens _ => rw [tokens]; rfl
    | ends _ _ tokens _ =>
        have ne' : Source.connection conn.handle ≠ .connection other := by
          intro eq
          exact ne ((Source.connection.inj eq).symm.trans here)
        rw [tokens, ← List.append_assoc, List.count_append]
        show _ + List.count _ [Source.connection conn.handle] = _
        rw [List.count_cons_of_ne ne', List.count_nil]
        rfl
  have mine : (released ++ f.selector.tokensToRemove).count (.connection handle) =
        f.conn.isClosed.toNat ∧
      (f.conn.isClosed = true → f.selector.registered (.connection handle) = none) := by
    cases proceeds.lives with
    | stays closed tokens _ =>
        have stays : f.conn.isClosed = false := closed.trans isOpen
        rw [tokens, stays]
        exact ⟨before, nofun⟩
    | ends _ closed tokens unregistered =>
        rw [closed, tokens, ← List.append_assoc, List.count_append]
        refine ⟨?_, fun _ => here ▸ unregistered⟩
        show List.count _ (released ++ c.selector.tokensToRemove) +
          List.count _ [Source.connection conn.handle] = _
        rw [before, here, List.count_singleton_self]
        rfl
  constructor
  · intro other conn' place'
    rw [created] at place'
    rw [selector]
    by_cases eq : other = handle
    · subst eq
      rw [List.getElem?_set_self inside] at place'
      cases place'
      exact mine.1
    · rw [List.getElem?_set_ne (Ne.symm eq)] at place'
      rw [(others _ eq).1]
      exact accounted.once _ _ place'
  · intro other conn' place' closed
    rw [created] at place'
    rw [selector]
    by_cases eq : other = handle
    · subst eq
      rw [List.getElem?_set_self inside] at place'
      cases place'
      exact mine.2 closed
    · rw [List.getElem?_set_ne (Ne.symm eq)] at place'
      rw [(others _ eq).2]
      exact accounted.gone _ _ place' closed
  · intro other behind
    rw [created, List.length_set] at behind
    have ne : other ≠ handle := (lt_of_lt_of_le inside behind).ne'
    rw [selector, (others _ ne).1]
    exact accounted.unused _ behind

/-- A connection is created. -/
theorem insert (accounted : c.Accounted released) {id : ConnectionId} {conn : Connection}
    {interest : Ready} (isOpen : conn.isClosed = false) :
    (Router.insert c id conn
      (c.selector.register (.connection c.created.length) interest)).Accounted released := by
  have created : (Router.insert c id conn
      (c.selector.register (.connection c.created.length) interest)).created = c.created ++ [conn] := rfl
  constructor
  · intro handle conn' place
    rw [created, List.getElem?_append] at place
    split at place
    · exact accounted.once _ _ place
    · rename_i behind
      rw [List.getElem?_singleton] at place
      split at place
      · cases place
        rw [isOpen]
        exact accounted.unused _ (Nat.not_lt.mp behind)
      · cases place
  · intro handle conn' place closed
    rw [created, List.getElem?_append] at place
    split at place
    · rename_i inside
      refine (Selector.registered_register _ _ _ _).trans ?_
      rw [if_neg fun eq => (ne_of_lt inside) (Source.connection.inj eq)]
      exact accounted.gone _ _ place closed
    · rw [List.getElem?_singleton] at place
      split at place
      · cases place
        exact absurd (isOpen.symm.trans closed) (by decide)
      · cases place
  · intro handle behind
    rw [created, List.length_append] at behind
    exact accounted.unused _ (Nat.le_of_succ_le behind)

end ClientContext.Accounted

section Moves

variable {may : ConnectionCall → Prop} {reads : Prop} {c c' : ClientContext}
  {released : List Source}

/-- **A move deregisters a connection as often as it closes it**, unless it is one of the calls
that are refused.  A refused call is a defect of its own: it closes a connection and leaves its
token where it is. -/
theorem ClientMove.accounted (spared : ∀ call, may call → ¬ call.Refused) (routed : c.Routed)
    (accounted : c.Accounted released) (move : ClientMove may reads c c') :
    c'.Accounted released := by
  cases move with
  | acts place isOpen allowed executes =>
      exact accounted.proceeds routed place isOpen (executes.rules.resolve_left (spared _ allowed))
  | opens allowed _ new created executes =>
      have routed' := Router.insert_routed routed new created
      obtain ⟨-, -, isOpen, interest, rfl⟩ := Router.createConnection_ok created
      exact (accounted.insert isOpen).proceeds routed' (Router.insert_place _ _ _ _) isOpen
        (executes.rules.resolve_left (spared _ allowed))
  | @serves client selector _ same _ _ =>
      refine accounted.congr rfl (fun handle => ?_) fun handle => same.registered _ nofun
      rw [show selector.tokensToRemove = c.selector.tokensToRemove from same.tokensToRemove]
  | receives _ _ => exact accounted.congr rfl (fun _ => rfl) fun _ => rfl
  | sendsId _ _ => exact accounted.congr rfl (fun _ => rfl) fun _ => rfl
  | writes _ _ => exact accounted.congr rfl (fun _ => rfl) fun _ => rfl
  | closes =>
      refine accounted.congr rfl (fun handle => ?_) fun handle => ?_
      · show List.count _ (released ++ (c.selector.tokensToRemove ++ [.client])) = _
        have ne : Source.client ≠ .connection handle := nofun
        rw [← List.append_assoc, List.count_append, List.count_cons_of_ne ne]
        rfl
      · exact (Selector.registered_deregister _ _ _).trans (if_neg nofun)

end Moves

namespace Relay

variable {s s' : Relay} {label : Label}

/-- The step meets neither a refused IPv6 payload nor a hang-up of an open IPv6
connection. -/
def Spared (s : Relay) (label : Label) : Prop :=
  ¬ s.Refuses label ∧ ∀ (handle : Handle) batch conn, s.batch = (.connection handle, .empty) :: batch →
    s.created[handle]? = some conn → conn.isClosed = false → conn.closesOnHup = true

/-- The same for a step, where none of its calls is refused. -/
theorem Step.accounted (routed : s.Routed) (accounted : s.Accounted s.released)
    (spared : ¬ s.Refuses label) (step : Step s label s') : s'.Accounted s'.released := by
  rcases step.moves routed with ⟨moves, released⟩ | rfl | ⟨connections, perm, rfl⟩
  · rw [released]
    refine ClientMoves.invariant (P := fun c => c.Accounted s.released) ?_ routed accounted moves
    intro c c' routed accounted move
    exact move.accounted (fun call caused refused => spared (caused.refuses refused)) routed accounted
  · constructor
    · intro handle conn place
      exact (congrArg _ (List.append_nil _)).trans (accounted.once handle conn place)
    · exact accounted.gone
    · intro handle behind
      exact (congrArg _ (List.append_nil _)).trans (accounted.unused handle behind)
  · exact accounted.congr rfl (fun _ => rfl) fun _ => rfl

/-- The same over a run of spared steps. -/
theorem run_countsTokens {t : List (Relay × Label)} (run : machine.Run t s)
    (met : Machine.Meets Spared t) : s.Accounted s.released := by
  refine (run.invariant (fun s => s.Routed ∧ s.Accounted s.released) ?_ ?_ met).2
  · rintro _ ⟨id, rfl⟩
    refine ⟨create_routed id, ?_⟩
    constructor
    · simp
    · simp
    · intro handle _
      rfl
  · rintro s label s' ⟨routed, accounted⟩ ⟨spared, -⟩ step
    exact ⟨Step.routed routed step, Step.accounted routed accounted spared step⟩

/-- **A connection is deregistered once when it closes, and a hang-up closes it**, as
long as no IPv6 payload is refused and no IPv6 connection hangs up. -/
theorem run_deregisters {t : List (Relay × Label)} (run : machine.Run t s)
    (met : Machine.Meets Spared t) :
    (∀ (handle : Handle) conn, s.created[handle]? = some conn →
        (s.released ++ s.selector.tokensToRemove).count (.connection handle) =
            (if conn.isClosed then 1 else 0) ∧
          (conn.isClosed = true → s.selector.registered (.connection handle) = none)) ∧
      ∀ answers s' handle batch conn, Spared s (.handle answers) →
        Step s (.handle answers) s' → s.batch = (.connection handle, .empty) :: batch →
        s.created[handle]? = some conn → conn.isClosed = false →
          (∃ conn', s'.created[handle]? = some conn' ∧ conn'.isClosed = true) ∧
            ∀ id, (id, handle) ∉ s'.client.connections := by
  have accounted := run_countsTokens run met
  have routed := run_routed run
  constructor
  · intro handle conn place
    refine ⟨?_, accounted.gone handle conn place⟩
    rw [accounted.once handle conn place]
    cases conn.isClosed <;> rfl
  · intro answers s' handle batch conn spared step next place isOpen
    have routed' := step.routed routed
    have listens := spared.2 handle batch conn next place isOpen
    have hup : ∃ conn', s'.created[handle]? = some conn' ∧ conn'.isClosed = true := by
      cases step with
      | handle next' handled =>
          rw [next] at next'
          cases next'
          exact ClientContext.dispatch_hup routed place isOpen listens handled
    refine ⟨hup, fun id mem => ?_⟩
    obtain ⟨conn', place', closed⟩ := hup
    obtain ⟨conn₁, place₁, -, isOpen₁⟩ := (routed'.routes id handle).mp mem
    rw [place'] at place₁
    cases place₁
    exact absurd (isOpen₁.symm.trans closed) (by decide)

/-! ### A flow of one datagram -/

/-- The bytes of a UDP datagram with one byte of payload, from port 4660 to port 53, in
an IPv6 packet from 2001:db8::1 to 2001:db8::2. -/
def datagramBytes6 : List UInt8 :=
  [0x60, 0, 0, 0, 0, 9, 17, 64,
    0x20, 0x01, 0x0d, 0xb8, 0, 0, 0, 0, 0, 0, 0, 0, 0, 0, 0, 1,
    0x20, 0x01, 0x0d, 0xb8, 0, 0, 0, 0, 0, 0, 0, 0, 0, 0, 0, 2] ++
    [0x12, 0x34, 0, 53, 0, 9, 0, 0] ++ [0x61]

/-- What `parse` makes of them. -/
def datagramPacket6 : Ipv6Packet :=
  ⟨datagramBytes6, .ofRaw datagramBytes6, .udp (.ofRaw (ipv6Body datagramBytes6))⟩

/-- Its flow. -/
def datagramId6 : ConnectionId where
  protocol := .udp
  source := .v6 datagramPacket6.ipv6HeaderData.source 4660
  destination := .v6 datagramPacket6.ipv6HeaderData.destination 53

/-- The datagram is a packet. -/
theorem datagram_parsed :
    IpPacket.parse datagramBytes6 = .ok (.ok (.ipv6 datagramPacket6)) := rfl

/-- With nothing behind it, it is the front of the input. -/
theorem datagram_front :
    packets.front datagramBytes6 = .item (.routed (.ipv6 datagramPacket6)) datagramBytes6.length :=
  rfl

/-- Polling calls no connection. -/
theorem spared_poll {s : Relay} {events : List (Source × Ready)} (idle : s.batch = []) :
    Spared s (.poll events) := by
  refine ⟨id, fun handle batch conn next => ?_⟩
  rw [idle] at next
  cases next

/-- An event of the client is spared if no socket refuses the packet it is given. -/
theorem spared_client {s : Relay} {ready : Ready} {answers : EventAnswers}
    (next : s.batch = [(.client, ready)])
    (taken : ∀ k, (answers.packets k).write ≠ .error .other) : Spared s (.handle answers) := by
  constructor
  · rintro ⟨_, _, -, -, -, k, packet, -, ipv6, payload, -, -, -, refused⟩
    exact taken k refused
  · intro handle batch conn next'
    rw [next] at next'
    cases next'

/-- An event of a connection that carries some readiness is no hang-up. -/
theorem spared_connection {s : Relay} {handle : Handle} {ready : Ready} {answers : EventAnswers}
    (next : s.batch = [(.connection handle, ready)]) (flagged : ready ≠ .empty) :
    Spared s (.handle answers) := by
  constructor
  · rintro ⟨_, _, next', -⟩
    rw [next] at next'
    cases next'
  · intro handle' batch conn next'
    rw [next] at next'
    cases next'
    exact absurd rfl flagged

/-- The client gets its id, and the datagram is read and routed. -/
theorem run_datagram {answers : PacketAnswers} {routed : IpPacketBuffer → ClientContext}
    (routes : ∀ buffer, Router.sendToNetwork ((ClientContext.identified 0).withInput buffer)
      (.ipv6 datagramPacket6) answers = .ok (routed buffer))
    (settled : ∀ buffer, (routed buffer).Settled) :
    ∃ t buffer buffer', machine.Run t ⟨(routed buffer).withInput buffer', [], []⟩ ∧
      (answers.write ≠ .error .other → Machine.Meets Spared t) := by
  let first : EventAnswers := ⟨⟨.ok none, .ok 4, .ok []⟩, 0, fun _ => answers⟩
  let second : EventAnswers := ⟨⟨.ok none, .ok 0, .ok datagramBytes6⟩, 0, fun _ => answers⟩
  have start : machine.Run [] (create 0) := .start ⟨0, rfl⟩
  have writable : (create 0).selector.registered .client = some .writable := rfl
  have identified := run_event start rfl writable (Ready.within_refl _)
    (ClientContext.onReady_sendsId 0 first rfl)
  have readable : (ClientContext.identified 0).selector.registered .client = some .readable := rfl
  have read : second.socket.read = .ok datagramBytes6 := rfl
  obtain ⟨buffer, buffer', -, handled⟩ := ClientContext.onReady_receives
    (c := ClientContext.identified 0) rfl rfl (by decide) datagram_front read routes settled
  refine ⟨_, buffer, buffer',
    run_event identified rfl readable (Ready.within_refl _) handled, fun taken => ?_⟩
  rw [Machine.meets_append, Machine.meets_append, Machine.meets_append, Machine.meets_append]
  refine ⟨⟨⟨⟨Machine.meets_nil _, ?_⟩, ?_⟩, ?_⟩, ?_⟩
  · exact Machine.meets_singleton.mpr (spared_poll rfl)
  · exact Machine.meets_singleton.mpr (spared_client rfl fun _ => taken)
  · exact Machine.meets_singleton.mpr (spared_poll rfl)
  · exact Machine.meets_singleton.mpr (spared_client rfl fun _ => taken)

/-- The datagram opens a flow of its own. -/
theorem datagram_opens :
    ∃ p, ∀ (c : ClientContext) (answers : PacketAnswers), c.connectionOf datagramId6 = none →
      answers.opened = .ok () →
      let conn : Ipv6Connection := ⟨c.created.length, datagramId6, .udp, p, false, answers.now, []⟩
      Router.sendToNetwork c (.ipv6 datagramPacket6) answers =
        Router.deliver (Router.insert c datagramId6 (.ipv6 conn)
          (c.selector.register (.connection c.created.length) .readable)) datagramId6 (.ipv6 conn)
          (.ipv6 datagramPacket6) answers :=
  Router.sendToNetwork_opens datagram_parsed rfl rfl

/-- Its payload is one byte. -/
theorem datagram_payload : datagramPacket6.payload = .ok (some [0x61]) := rfl

/-- The socket takes the datagram: the flow is open, with its route. -/
theorem run_opens :
    ∃ t s conn, machine.Run t s ∧ Machine.Meets Spared t ∧ s.batch = [] ∧
      s.created = [.ipv6 conn] ∧ conn.closed = false ∧ s.client.connections = [(conn.id, 0)] ∧
      s.selector.registered (.connection 0) = some .readable := by
  let answers : PacketAnswers := ⟨0, false, 0, .ok (), .ok 1⟩
  obtain ⟨p, opens⟩ := datagram_opens
  let conn : Ipv6Connection := ⟨0, datagramId6, .udp, p, false, 0, []⟩
  obtain ⟨t, buffer, buffer', run, met⟩ := run_datagram (fun _ => (opens _ answers rfl rfl).trans
    (Router.deliver_taken rfl datagram_payload (List.cons_ne_nil _ _) rfl)) (fun _ => ⟨rfl, rfl⟩)
  exact ⟨t, _, (conn.touch 0).record (.wrote [0x61]), run, met nofun, rfl, rfl, rfl, rfl, rfl⟩

/-- The socket refuses it: the flow is closed, and its token is passed to nobody. -/
theorem run_refused :
    ∃ t s conn, machine.Run t s ∧ s.created = [.ipv6 conn] ∧ conn.closed = true ∧
      s.released ++ s.selector.tokensToRemove = [] := by
  let answers : PacketAnswers := ⟨0, false, 0, .ok (), .error .other⟩
  obtain ⟨p, opens⟩ := datagram_opens
  let conn : Ipv6Connection := ⟨0, datagramId6, .udp, p, false, 0, []⟩
  obtain ⟨t, buffer, buffer', run, -⟩ := run_datagram (fun _ => (opens _ answers rfl rfl).trans
    (Router.deliver_refused datagram_payload (List.cons_ne_nil _ _) rfl)) (fun _ => ⟨rfl, rfl⟩)
  exact ⟨t, _, { conn.touch 0 with closed := true }, run, rfl, rfl, rfl⟩

/-- A datagram is read and routed, and its connection is an entry of the router. -/
theorem run_routes_live_opens :
    ∃ t s conn, machine.Run t s ∧ s.created[0]? = some conn ∧
      (conn.id, 0) ∈ s.client.connections := by
  obtain ⟨t, s, conn, run, -, -, created, isOpen, -, -⟩ := run_opens
  have place : s.created[0]? = some (.ipv6 conn) := by rw [created]; rfl
  exact ⟨t, s, _, run, place, (run_routes_live run).2.1 0 _ place isOpen⟩

/-- A write of the second event fails: the connection is closed, and its token was passed to
`deregister` once. -/
theorem run_deregisters_failed :
    ∃ t s conn, machine.Run t s ∧ s.created[0]? = some conn ∧ conn.isClosed = true ∧
      (s.released ++ s.selector.tokensToRemove).count (.connection 0) = 1 ∧
      s.selector.registered (.connection 0) = none := by
  obtain ⟨t, s, conn, run, met, idle, created, isOpen, -, registered⟩ := run_opens
  have place : s.created[0]? = some (.ipv6 conn) := by rw [created]; rfl
  let answers : EventAnswers :=
    ⟨⟨.ok none, .ok 0, .error .other⟩, 0, fun _ => ⟨0, false, 0, .ok (), .ok 0⟩⟩
  have run' := run_event run idle registered (Ready.within_refl _)
    (ClientContext.dispatch_fails place isOpen (show answers.socket.read = .error .other from rfl))
  have met' : Machine.Meets Spared (t ++ [(s, .poll [(.connection 0, .readable)])] ++
      [({ s with batch := [(.connection 0, .readable)] }, .handle answers)]) := by
    rw [Machine.meets_append, Machine.meets_append]
    refine ⟨⟨met, Machine.meets_singleton.mpr (spared_poll idle)⟩, ?_⟩
    exact Machine.meets_singleton.mpr (spared_connection rfl (by decide))
  obtain ⟨proceeds, closed⟩ := Ipv6Context.close_proceeds (c := ⟨conn, s.client, s.selector⟩) isOpen
  have here : conn.handle = 0 := (run_routed run).places 0 _ place
  have place' := ClientContext.leave_place place
    (show (Ipv6Context.close ⟨conn, s.client, s.selector⟩).removeFromRouter.asConnection.conn.handle
      = 0 from proceeds.handle.trans here)
  obtain ⟨once, gone⟩ := (run_deregisters run' met').1 0 _ place'
  exact ⟨_, _, _, run', place', closed, once.trans (if_pos closed), gone closed⟩

/-- A refused datagram leaves a closed connection registered. -/
theorem run_leaks :
    ¬ ∀ t s, machine.Run t s →
      (∀ (handle : Handle) conn, s.created[handle]? = some conn → conn.isClosed = true →
        (s.released ++ s.selector.tokensToRemove).count (.connection handle) = 1) ∧
      ∀ answers s' handle batch conn, Step s (.handle answers) s' →
        s.batch = (.connection handle, .empty) :: batch → s.created[handle]? = some conn →
        conn.isClosed = false →
          (∃ conn', s'.created[handle]? = some conn' ∧ conn'.isClosed = true) ∧
            ∀ id, (id, handle) ∉ s'.client.connections := by
  intro all
  obtain ⟨t, s, conn, run, created, closed, tokens⟩ := run_refused
  have place : s.created[0]? = some (.ipv6 conn) := by rw [created]; rfl
  have once := (all t s run).1 0 _ place closed
  rw [tokens] at once
  exact absurd once (by decide)

end Relay

end ReverseTether
