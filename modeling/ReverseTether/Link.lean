import ReverseTether.AppForwarding
import ReverseTether.Connect
import ReverseTether.FlowLives
import ReverseTether.Library.Pieces
import ReverseTether.Replies
import ReverseTether.UdpFlows

/-!
# The app and its client in the relay

A `Link` is both ends of one tunnel and the bytes that are on their way between them.  The app
reads its id first and then runs its loop; the relay runs the client that it created for the
connection.  Either end takes its steps whenever it likes, and of the stream between them only
that is assumed which a socket promises: the bytes that one end took from its peer are a front of
what was on its way, and what an end gave to its socket is behind what was there.

Two facts carry all that is said of it (`Linked`): what the relay has taken and what is on its way
to it is what the app sent; and what the app has taken, the id included, and what is on its way to
the app is what the relay sent.
-/

namespace ReverseTether

open Library

/-- Both ends of a tunnel, and the bytes on their way. -/
structure Link where
  greeting : Greeting
  tunnel : Tunnel
  relay : Relay
  /-- To the relay. -/
  up : List UInt8
  /-- To the app. -/
  down : List UInt8

namespace Link

/-- A step of the app or of the relay.  The bytes on the way between them wait as long as they
like. -/
inductive Label
  /-- A round of `Connect`. -/
  | greet (round : Greeting.Round)
  /-- An iteration of the tunnel loop. -/
  | turn (turn : Turn)
  /-- A step of the client in the relay. -/
  | relay (label : Relay.Label)

/-- `got` is what the end took off its stream, and `sent` what it put on the other one. -/
inductive Step (l : Link) : Label → Link → Prop
  | greet {round : Greeting.Round} {got rest : List UInt8} : l.greeting.result = none →
      l.down = got ++ rest → (l.greeting.round round).id = l.greeting.id ++ got →
      Step l (.greet round) { l with greeting := l.greeting.round round, down := rest }
  /-- The loop runs once `Connect` has returned the id. -/
  | turn {clientId : UInt32} {turn : Turn} {got rest sent : List UInt8} :
      l.greeting.result = some (.ok clientId) → l.tunnel.running = true → l.down = got ++ rest →
      (l.tunnel.afterTurn turn).received = l.tunnel.received ++ got →
      (l.tunnel.afterTurn turn).taken = l.tunnel.taken ++ sent →
      Step l (.turn turn) { l with
        tunnel := l.tunnel.afterTurn turn
        down := rest
        up := l.up ++ sent }
  | relay {label : Relay.Label} {relay : Relay} {rest sent : List UInt8} :
      l.relay.Step label relay → l.up = l.relay.taken label ++ rest →
      relay.received = l.relay.received ++ sent →
      Step l (.relay label) { l with relay, up := rest, down := l.down ++ sent }

/-- Both ends start afresh, and the two streams between them are empty. -/
def machine (ipv6Mode : Ipv6Mode) : Machine Link Label where
  start l := l.greeting = .start ∧ l.tunnel = .start ipv6Mode ∧ Relay.machine.start l.relay ∧
    l.up = [] ∧ l.down = []
  step := Step

/-- The rounds of `Connect`. -/
def rounds (t : List (Link × Label)) : List (Greeting × Greeting.Round) :=
  t.filterMap fun p => match p.2 with
    | .greet round => some (p.1.greeting, round)
    | _ => none

/-- The iterations of the tunnel loop. -/
def turns (t : List (Link × Label)) : List (Tunnel × Turn) :=
  t.filterMap fun p => match p.2 with
    | .turn turn => some (p.1.tunnel, turn)
    | _ => none

/-- The steps of the relay. -/
def steps (t : List (Link × Label)) : List (Relay × Relay.Label) :=
  t.filterMap fun p => match p.2 with
    | .relay label => some (p.1.relay, label)
    | _ => none

variable {ipv6Mode : Ipv6Mode} {l l' : Link} {label : Label} {t : List (Link × Label)}

/-- Each end runs as it does alone, and the streams connect them.  What one end has sent is what
the other has read, followed by what is on its way. -/
structure Linked (ipv6Mode : Ipv6Mode) (t : List (Link × Label)) (l : Link) : Prop where
  greets : Greeting.machine.Run (rounds t) l.greeting
  tunnels : (Tunnel.machine ipv6Mode).Run (turns t) l.tunnel
  relays : Relay.machine.Run (steps t) l.relay
  upward : Relay.allTaken (steps t) ++ l.up = l.tunnel.taken
  downward : l.greeting.id ++ l.tunnel.received ++ l.down = l.relay.received
  /-- The loop has not begun. -/
  waits : (∀ clientId, l.greeting.result ≠ some (.ok clientId)) → l.tunnel.received = []

theorem Step.linked (linked : Linked ipv6Mode t l) (step : Step l label l') :
    Linked ipv6Mode (t ++ [(l, label)]) l' := by
  have upward := linked.upward
  have downward := linked.downward
  cases step with
  | @greet round got rest waits front fills =>
      have greets : Greeting.machine.Run (rounds t ++ [(l.greeting, round)]) (l.greeting.round round) :=
        .step linked.greets ⟨waits, rfl⟩
      have none := linked.waits (by rw [waits]; simp)
      refine ⟨?_, ?_, ?_, ?_, ?_, fun _ => none⟩
      · simpa [rounds] using greets
      · simpa [turns] using linked.tunnels
      · simpa [steps] using linked.relays
      · simpa [steps] using upward
      · show (l.greeting.round round).id ++ l.tunnel.received ++ rest = _
        rw [none, front, List.append_nil] at downward
        rw [fills, none, List.append_nil, List.append_assoc]
        exact downward
  | @turn clientId turn got rest sent greeted running front receives sends =>
      have tunnels : (Tunnel.machine ipv6Mode).Run (turns t ++ [(l.tunnel, turn)])
          (l.tunnel.afterTurn turn) := .step linked.tunnels ⟨running, rfl⟩
      refine ⟨?_, ?_, ?_, ?_, ?_, fun waits => ?_⟩
      · simpa [rounds] using linked.greets
      · simpa [turns] using tunnels
      · simpa [steps] using linked.relays
      · show Relay.allTaken (steps (t ++ _)) ++ (l.up ++ sent) = (l.tunnel.afterTurn turn).taken
        rw [sends, ← upward, List.append_assoc]
        simp [steps]
      · show l.greeting.id ++ (l.tunnel.afterTurn turn).received ++ rest = _
        rw [receives, ← downward, front]
        simp only [List.append_assoc]
      · exact absurd greeted (waits clientId)
  | @relay label relay rest sent goes front sends =>
      have relays : Relay.machine.Run (steps t ++ [(l.relay, label)]) relay := .step linked.relays goes
      refine ⟨?_, ?_, ?_, ?_, ?_, linked.waits⟩
      · simpa [rounds] using linked.greets
      · simpa [turns] using linked.tunnels
      · simpa [steps] using relays
      · have more : steps (t ++ [(l, .relay label)]) = steps t ++ [(l.relay, label)] := by simp [steps]
        rw [more, Relay.allTaken_append, List.append_assoc, ← front]
        exact upward
      · show l.greeting.id ++ l.tunnel.received ++ (l.down ++ sent) = relay.received
        rw [sends, ← downward]
        simp only [List.append_assoc]

/-- **Both streams connect the ends**, in every run.  What the app has written to its socket is
what the relay has read and has still to read, and the other way round; so a statement about one
end is one about the other. -/
theorem run_linked (run : (machine ipv6Mode).Run t l) : Linked ipv6Mode t l := by
  induction run with
  | start starts =>
      obtain ⟨greeting, tunnel, relay, up, down⟩ := starts
      refine ⟨.start ⟨.done, .ok (), .ok none, greeting⟩, .start tunnel, .start relay, ?_, ?_, ?_⟩
      · rw [up, tunnel]
        rfl
      · obtain ⟨id, created⟩ := relay
        rw [greeting, tunnel, down, created]
        rfl
      · rw [tunnel]
        exact fun _ => rfl
  | step _ step ih => exact step.linked ih

end Link

end ReverseTether
