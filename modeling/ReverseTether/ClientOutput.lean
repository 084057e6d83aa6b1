import ReverseTether.Routes

/-!
# What the socket of the client gets

The id of the client is written first, four bytes in as many writes as it takes, then
the packets.  Packets are appended whole to `networkToClient` by whichever connection
has one, also while the id is still being written; the buffer gives them up in pieces
of any size.

`Streams` is the accounting that every step keeps: what was taken, what is left of the
id and what is buffered are together the id and the packets that were accepted.

The id may be interrupted after each of its bytes, and packets are accepted all the while;
they stay behind it, because the writes of a client serve the id first.  `run_received` and
the lemmas about the id in the modules above rest on this accounting and on nothing else.

What is accepted is a list of blocks, and what is taken is a list of bytes: the last block may
be cut anywhere.  Statements about packets at the other end of the socket are statements about
how this list of bytes is cut again.
-/

namespace ReverseTether

open Library Relation

/-- What the socket took, the rest of the id and the buffered bytes are the id and the
accepted packets. -/
structure ClientContext.Streams (c : ClientContext) : Prop where
  pending : c.client.pendingIdBytes ≤ 4
  stream : c.received ++ (u32Bytes c.client.id).drop (4 - c.client.pendingIdBytes) ++
    c.client.networkToClient.contents = u32Bytes c.client.id ++ c.client.appended.flatten

namespace ClientContext.Streams

variable {c c' : ClientContext}

/-- What the socket took comes first. -/
theorem received_starts (streams : c.Streams) :
    c.received <+: u32Bytes c.client.id ++ c.client.appended.flatten := by
  rw [← streams.stream, List.append_assoc]
  exact List.prefix_append _ _

/-- Whole packets are appended. -/
theorem serves (streams : c.Streams) (serves : c.client.Serves c'.client)
    (received : c'.received = c.received) : c'.Streams := by
  obtain ⟨blocks, appended, contents⟩ := serves.stream
  constructor
  · rw [serves.pendingIdBytes]
    exact streams.pending
  · rw [received, serves.id, serves.pendingIdBytes, contents, appended, List.flatten_append,
      ← List.append_assoc, streams.stream, List.append_assoc]

/-- The socket takes some of what is left of the id. -/
theorem sendsId (streams : c.Streams) (n : ℕ) {rest : List UInt8}
    (left : (u32Bytes c.client.id).drop (4 - c.client.pendingIdBytes) = rest)
    (client : c'.client = { c.client with
      pendingIdBytes := c.client.pendingIdBytes - (rest.take n).length })
    (received : c'.received = c.received ++ rest.take n) : c'.Streams := by
  have pending := streams.pending
  have length : rest.length = c.client.pendingIdBytes := by
    rw [← left, List.length_drop, length_u32Bytes]
    omega
  have taken : (rest.take n).length ≤ c.client.pendingIdBytes := by
    rw [← length]
    exact List.length_take_le' _ _
  have split : rest.take n ++ rest.drop (rest.take n).length = rest := by
    have front : rest.take (rest.take n).length = rest.take n := by
      rw [List.length_take, List.take_eq_take_iff]
      omega
    have both := List.take_append_drop (rest.take n).length rest
    rwa [front] at both
  have after : (u32Bytes c.client.id).drop (4 - c'.client.pendingIdBytes) =
      rest.drop (rest.take n).length := by
    rw [← left, List.drop_drop, client]
    congr 1
    rw [left]
    show 4 - (c.client.pendingIdBytes - (rest.take n).length) = _
    omega
  have id : c'.client.id = c.client.id := by rw [client]
  have contents : c'.client.networkToClient = c.client.networkToClient := by rw [client]
  have appended : c'.client.appended = c.client.appended := by rw [client]
  constructor
  · rw [client]
    exact (Nat.sub_le _ _).trans pending
  · rw [id, after, received, contents, appended, List.append_assoc c.received, split, ← left]
    exact streams.stream

/-- The socket takes some of what is buffered. -/
theorem writes (streams : c.Streams) {taken : List UInt8} (done : c.client.mustSendId = false)
    (client : c'.client = { c.client with networkToClient := c'.client.networkToClient })
    (contents : c.client.networkToClient.contents = taken ++ c'.client.networkToClient.contents)
    (received : c'.received = c.received ++ taken) : c'.Streams := by
  have none : c.client.pendingIdBytes = 0 := by
    simpa [Client.mustSendId] using done
  have pending : c'.client.pendingIdBytes = c.client.pendingIdBytes := by rw [client]
  have id : c'.client.id = c.client.id := by rw [client]
  have appended : c'.client.appended = c.client.appended := by rw [client]
  have stream := streams.stream
  have nothing : (u32Bytes c.client.id).drop (4 - 0) = [] := rfl
  rw [none, nothing, List.append_nil, contents] at stream
  constructor
  · rw [pending]
    exact streams.pending
  · rw [id, pending, none, nothing, received, appended, List.append_nil, List.append_assoc, stream]

/-- A connection acts. -/
theorem acts (streams : c.Streams) {conn : Connection} {f : ConnectionContext}
    (acts : (c.enter conn).Acts f) : (c.leave f.removeIfClosed).Streams := by
  have served : (c.leave f).Streams := streams.serves acts.client rfl
  unfold ConnectionContext.removeIfClosed
  split
  · exact ⟨served.pending, served.stream⟩
  · exact served

end ClientContext.Streams

theorem ClientMove.streams {may : ConnectionCall → Prop} {reads : Prop} {c c' : ClientContext}
    (streams : c.Streams) (move : ClientMove may reads c c') : c'.Streams := by
  cases move with
  | acts _ _ _ executes => exact streams.acts executes.toActs
  | @opens id conn selector _ _ _ _ _ _ _ executes =>
      have inserted : (Router.insert c id conn selector).Streams := ⟨streams.pending, streams.stream⟩
      exact inserted.acts executes.toActs
  | serves serves _ _ _ => exact streams.serves serves rfl
  | receives _ _ => exact ⟨streams.pending, streams.stream⟩
  | sendsId n _ => exact streams.sendsId n rfl rfl rfl
  | writes done wrote => exact streams.writes done rfl (StreamBuffer.contents_writeTo wrote) rfl
  | closes => exact ⟨streams.pending, streams.stream⟩

/-- What the socket took, it took. -/
theorem ClientMove.received {may : ConnectionCall → Prop} {reads : Prop} {c c' : ClientContext}
    (move : ClientMove may reads c c') : c.received <+: c'.received := by
  have leaves {c : ClientContext} (f : ConnectionContext) :
      (c.leave f.removeIfClosed).received = c.received := rfl
  cases move with
  | acts _ _ _ _ => rw [leaves]
  | opens _ _ _ _ _ => rw [leaves, Router.insert]
  | sendsId n _ => exact List.prefix_append _ _
  | writes _ _ => exact List.prefix_append _ _
  | _ => exact List.prefix_rfl

namespace Relay

variable {s s' : Relay} {label : Label}

theorem Step.received (routed : s.Routed) (step : Step s label s') : s.received <+: s'.received := by
  rcases Step.moves routed step with ⟨moves, -⟩ | rfl | ⟨connections, -, rfl⟩
  · exact ClientMoves.invariant (P := fun c => s.received <+: c.received)
      (fun _ _ _ front move => front.trans move.received) routed List.prefix_rfl moves
  · exact List.prefix_rfl
  · exact List.prefix_rfl

theorem run_streams {t : List (Relay × Label)} (run : machine.Run t s) : s.Streams := by
  refine (run.invariant (fun s => s.Routed ∧ s.Streams) ?_ ?_ (Machine.meets_true t)).2
  · rintro _ ⟨id, rfl⟩
    exact ⟨create_routed id, le_rfl, by rw [create]; simp [ClientContext.create, Client.create]⟩
  · rintro s label s' ⟨routed, streams⟩ - step
    refine ⟨Step.routed routed step, ?_⟩
    rcases Step.moves routed step with ⟨moves, -⟩ | rfl | ⟨connections, -, rfl⟩
    · exact ClientMoves.invariant (fun _ _ _ streams move => move.streams streams) routed streams
        moves
    · exact ⟨streams.pending, streams.stream⟩
    · exact ⟨streams.pending, streams.stream⟩

end Relay

end ReverseTether
