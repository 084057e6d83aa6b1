import ReverseTether.Abilities
import ReverseTether.ProbeValue

/-!
# The listener for the result of a check

`ProbeResultServer` hands out the reply of the active check to whoever knows its id, over a
local TCP socket that anyone on the device may connect to.  Every connection has four callbacks
and a timer, which share its flags with the promise of the answer; a check begins and ends
whenever its ability says so.

A step of the machine is a call of the ability, a callback or a promise that settles, in any
order.  `AdmittedClient` has the variables that the callbacks of one connection share, and what
has happened to it; an `Answer` is a call of `send`, with what was true then.

The invariant has two halves that know nothing of each other: the reply belongs to the active id
(`Inv.reply`), and the counter counts the connections whose `release` has not run
(`Inv.count`).  **What makes the second exact** is that nothing is forgotten: a connection that
was not released has its timer, or was told to close, or has an answer under way
(`Ok.owed`).
-/

namespace ReverseTether

open Library

/-! ## What is sent -/

/-- One entry of the reply: the server, and either its result or the reason why there is none. -/
structure ServerResult where
  host : String
  port : ℕ
  value : Option ProbeValue
  error : Option String

/-- `ProbeReply`: what the host reads, with the identifier that it asked under. -/
structure ProbeReply where
  requestId : String
  value : Option ProbeValue
  results : List ServerResult
  error : Option String

/-- The body of an answer: not found, still pending, or the reply of the check. -/
inductive AnswerBody
  | notFound
  | pending
  /-- `JSON.stringify(reply)`. -/
  | reply (reply : ProbeReply)

namespace ResultServer

section Text

variable (stringify : ProbeReply → String)

/-- The text of an answer; `JSON.stringify` is outside of the model. -/
def bodyText : AnswerBody → String
  | .notFound => "\x7b\"error\":\"not_found\"\x7d"
  | .pending => "\x7b\"state\":\"pending\"\x7d"
  | .reply reply => stringify reply

/-- The response of `send`.  All wire values are ASCII. -/
def responseText (code : ℕ) (body : AnswerBody) : String :=
  let status := if code = 200 then "OK" else if code = 202 then "Accepted" else "Not Found"
  "HTTP/1.1 " ++ toString code ++ " " ++ status ++ "\r\nContent-Type: application/json\r\n" ++
    "Cache-Control: no-store\r\nConnection: close\r\nContent-Length: " ++
    toString (bodyText stringify body).length ++ "\r\n\r\n" ++ bodyText stringify body

end Text

/-- `text.split('\r\n')[0]`. -/
def firstLine : List Char → List Char
  | '\r' :: '\n' :: _ => []
  | c :: rest => c :: firstLine rest
  | [] => []

/-- The request for the result of a check. -/
def requestLine (id : String) : List Char :=
  "GET /v1/probe/".toList ++ id.toList ++ " HTTP/1.1".toList

end ResultServer

/-- A call of `client.send`, with what the server knew when it made it. -/
structure Answer where
  client : ℕ
  code : ℕ
  body : AnswerBody
  data : String
  /-- The first line that the connection has sent. -/
  line : List Char
  /-- The id that was active. -/
  active : String
  /-- The number of checks that had begun, and that number when the reply came. -/
  begun : ℕ
  replied : ℕ

/-- How far an answer is: it is being sent, or its connection is being closed behind it. -/
inductive Answering
  /-- In `client.send`. -/
  | sending
  /-- In `client.close`; whether the answer was sent. -/
  | closing (sent : Bool)
  deriving DecidableEq

/-- A connection that was admitted, with what has been received from it and whether it has been
answered or closed. -/
structure AdmittedClient where
  done : Bool
  text : List Char
  counted : Bool
  /-- The timer runs. -/
  timer : Bool
  /-- `send` has not settled; what is called when it has sent the reply. -/
  answering : Option (Answering × Option String)
  /-- `close` was called. -/
  closed : Bool
  /-- A close or an error was reported. -/
  reported : Bool
  /-- How often `release` has run, and how often it has counted down. -/
  releases : ℕ
  decrements : ℕ

/-- A connection that was just admitted: counted, with its timer set and nothing received. -/
def AdmittedClient.new : AdmittedClient := ⟨false, [], true, true, none, false, false, 0, 0⟩

/-- `ProbeResultServer`: the check it is for, its reply, and the connections it has admitted. -/
structure ResultServer where
  /-- The listeners that were made. -/
  servers : ℕ
  /-- There is a promise of the listener. -/
  starting : Bool
  clients : ℤ
  requestId : String
  reply : Option ProbeReply
  /-- The check whose ability is told that its reply was taken. -/
  consumed : Option String
  /-- The calls of `begin` that wait for the listener. -/
  beginning : List String
  admitted : List AdmittedClient
  answers : List Answer
  /-- The number of checks that have begun, and that number when the reply came. -/
  begun : ℕ
  replied : ℕ

namespace ResultServer

/-- The server as the app makes it, before any check. -/
def new : ResultServer := ⟨0, false, 0, "", none, none, [], [], [], 0, 0⟩

/-! ## The calls of the ability -/

/-- `begin` up to its promise; `none` is "probe_busy". -/
def beginProbe (s : ResultServer) (id : String) : Option ResultServer :=
  if s.requestId ≠ "" then none
  else
    let s := { s with requestId := id, reply := none, consumed := some id, begun := s.begun + 1 }
    let s := if s.starting then s else { s with servers := s.servers + 1, starting := true }
    some { s with beginning := s.beginning ++ [id] }

/-- `finish`. -/
def finishProbe (s : ResultServer) (reply : ProbeReply) : ResultServer :=
  if reply.requestId = s.requestId then { s with reply := some reply, replied := s.begun } else s

/-- `end`. -/
def endProbe (s : ResultServer) (id : String) : ResultServer :=
  if id = s.requestId then { s with requestId := "", reply := none, consumed := none } else s

/-- `begin` when the promise of the listener settles. -/
def began (s : ResultServer) (id : String) (listening : Bool) : ResultServer :=
  if listening then s else { s with starting := false }.endProbe id

/-! ## The callbacks of a connection -/

/-- The connection at this place is as given from now on, and the others are as they were. -/
def setClient (s : ResultServer) (place : ℕ) (client : AdmittedClient) : ResultServer :=
  { s with admitted := s.admitted.set place client }

/-- `release`. -/
def release (s : ResultServer) (place : ℕ) (client : AdmittedClient) : ResultServer :=
  if client.counted then
    { s with clients := s.clients - 1 }.setClient place { client with
      counted := false, timer := false
      releases := client.releases + 1, decrements := client.decrements + 1 }
  else s.setClient place { client with timer := false, releases := client.releases + 1 }

/-- `accept`; a connection that is not admitted is closed. -/
def accept (s : ResultServer) : ResultServer :=
  if 4 ≤ s.clients then s
  else { s with clients := s.clients + 1, admitted := s.admitted ++ [.new] }

/-- The timer runs out: the connection is closed, and its end is reported by the socket later. -/
def onTimeout (s : ResultServer) (place : ℕ) (client : AdmittedClient) : ResultServer :=
  s.setClient place { client with timer := false, done := true, closed := true }

/-- The socket reports its end, and the connection is released unless it was before. -/
def onClose (s : ResultServer) (place : ℕ) (client : AdmittedClient) : ResultServer :=
  s.release place { client with reported := true }

/-- The socket reports an error: the connection is released, and closed. -/
def onError (s : ResultServer) (place : ℕ) (client : AdmittedClient) : ResultServer :=
  s.release place { client with reported := true, done := true, closed := true }

/-- `send` up to its promise. -/
def send (s : ResultServer) (stringify : ProbeReply → String) (place : ℕ)
    (client : AdmittedClient) (code : ℕ) (body : AnswerBody) (consumed : Option String) :
    ResultServer :=
  { s.setClient place { client with answering := some (.sending, consumed) } with
    answers := s.answers ++ [⟨place, code, body, responseText stringify code body,
      firstLine client.text, s.requestId, s.begun, s.replied⟩] }

/-- The request is complete. -/
def answer (s : ResultServer) (stringify : ProbeReply → String) (place : ℕ)
    (client : AdmittedClient) : ResultServer :=
  if s.requestId = "" ∨ firstLine client.text ≠ requestLine s.requestId then
    s.send stringify place client 404 .notFound none
  else
    match s.reply with
    | none => s.send stringify place client 202 .pending none
    | some reply => s.send stringify place client 200 (.reply reply) s.consumed

/-- Bytes arrive: a request that is too long or not ASCII is refused, one with an empty line is
answered, and else the server waits for more. -/
def onMessage (s : ResultServer) (stringify : ProbeReply → String) (place : ℕ)
    (client : AdmittedClient) (bytes : List UInt8) : ResultServer :=
  if client.done then s
  else if 2048 < client.text.length + bytes.length ∨
      bytes.any (fun byte ↦ 127 < byte || byte == 0) then
    s.setClient place { client with done := true, closed := true }
  else
    let client := { client with
      text := client.text ++ bytes.map fun byte ↦ Char.ofNat byte.toNat }
    if ¬"\r\n\r\n".toList <:+: client.text then s.setClient place client
    else s.answer stringify place { client with done := true, timer := false }

/-- `client.send` settles. -/
def onSent (s : ResultServer) (place : ℕ) (client : AdmittedClient) (consumed : Option String)
    (sent : Bool) : ResultServer :=
  s.setClient place { client with answering := some (.closing sent, consumed), closed := true }

/-- `client.close` settles, behind `send`.  The ability that is told that its reply was taken
ends its check, unless it has `finished`. -/
def onClosed (s : ResultServer) (place : ℕ) (client : AdmittedClient) (consumed : Option String)
    (sent finished : Bool) : ResultServer :=
  let s := match consumed with
    | some id => if sent ∧ finished = false then s.endProbe id else s
    | none => s
  s.release place { client with answering := none }

/-! ## The machine -/

/-- What happens to the server: the check, the connections of the host, and the promises of its
sends. -/
inductive Label
  | beginProbe (id : String)
  | began (id : String) (listening : Bool)
  | finishProbe (reply : ProbeReply)
  | endProbe (id : String)
  | connect
  | timeout (place : ℕ)
  | close (place : ℕ)
  | error (place : ℕ)
  | message (place : ℕ) (bytes : List UInt8)
  | sent (place : ℕ) (sent : Bool)
  | closed (place : ℕ) (finished : Bool)

/-- The steps of the server.  The callbacks of a connection come in any order, as often as they
like. -/
inductive Step (stringify : ProbeReply → String) : ResultServer → Label → ResultServer → Prop
  | beginProbe {s : ResultServer} {id : String} :
      Step stringify s (.beginProbe id) ((s.beginProbe id).getD s)
  | began {s : ResultServer} {before after : List String} {id : String} {listening : Bool} :
      s.beginning = before ++ id :: after →
      Step stringify s (.began id listening)
        ({ s with beginning := before ++ after }.began id listening)
  | finishProbe {s : ResultServer} {reply : ProbeReply} :
      Step stringify s (.finishProbe reply) (s.finishProbe reply)
  | endProbe {s : ResultServer} {id : String} : Step stringify s (.endProbe id) (s.endProbe id)
  | connect {s : ResultServer} : Step stringify s .connect s.accept
  | timeout {s : ResultServer} {place : ℕ} {client : AdmittedClient} :
      s.admitted[place]? = some client → client.timer = true →
      Step stringify s (.timeout place) (s.onTimeout place client)
  | close {s : ResultServer} {place : ℕ} {client : AdmittedClient} :
      s.admitted[place]? = some client →
      Step stringify s (.close place) (s.onClose place client)
  | error {s : ResultServer} {place : ℕ} {client : AdmittedClient} :
      s.admitted[place]? = some client →
      Step stringify s (.error place) (s.onError place client)
  | message {s : ResultServer} {place : ℕ} {client : AdmittedClient} {bytes : List UInt8} :
      s.admitted[place]? = some client →
      Step stringify s (.message place bytes) (s.onMessage stringify place client bytes)
  | sent {s : ResultServer} {place : ℕ} {client : AdmittedClient} {consumed : Option String}
      {sent : Bool} : s.admitted[place]? = some client →
      client.answering = some (.sending, consumed) →
      Step stringify s (.sent place sent) (s.onSent place client consumed sent)
  | closed {s : ResultServer} {place : ℕ} {client : AdmittedClient} {consumed : Option String}
      {sent finished : Bool} : s.admitted[place]? = some client →
      client.answering = some (.closing sent, consumed) →
      Step stringify s (.closed place finished)
        (s.onClosed place client consumed sent finished)

/-- The runs of the one server of the app, over any number of checks. -/
def machine (stringify : ProbeReply → String) : Machine ResultServer Label where
  start s := s = new
  step := Step stringify

/-! ## The invariant -/

/-- The variables of a connection agree with what has happened to it.  The counter of the server is
a sum over these, so what is kept for each of them is kept for it. -/
structure Ok (client : AdmittedClient) : Prop where
  counted : client.counted = decide (client.releases = 0)
  once : client.decrements = if client.releases = 0 then 0 else 1
  /-- A connection that was not released will be. -/
  owed : client.releases = 0 →
    client.timer = true ∨ client.closed = true ∨ client.answering.isSome = true
  reported : client.reported = true → client.releases ≠ 0

/-- What is known of an answer: the request line it belongs to, and, where it gives a result away,
that the line was the one of the check that was active. -/
structure Known (stringify : ProbeReply → String) (s : ResultServer) (a : Answer) : Prop where
  data : a.data = responseText stringify a.code a.body
  line : ∃ client, s.admitted[a.client]? = some client ∧ client.done = true ∧
    firstLine client.text = a.line
  secret : a.code = 200 → a.active ≠ "" ∧ a.line = requestLine a.active ∧ a.replied = a.begun ∧
    ∃ reply, a.body = .reply reply ∧ reply.requestId = a.active

/-- What holds between any two callbacks: the reply is that of the check, the count is that of the
connections that are counted, and every answer is one the server may give. -/
structure Inv (stringify : ProbeReply → String) (s : ResultServer) : Prop where
  reply : ∀ reply, s.reply = some reply → reply.requestId = s.requestId ∧ s.replied = s.begun
  count : s.clients = (s.admitted.countP (·.counted) : ℤ)
  bound : s.admitted.countP (·.counted) ≤ 4
  each : ∀ client ∈ s.admitted, Ok client
  answers : ∀ a ∈ s.answers, Known stringify s a

variable {stringify : ProbeReply → String} {s s' : ResultServer} {place : ℕ}
  {client client' : AdmittedClient}

/-- A request that is complete stays as it is: what a connection sends behind its first line is not
looked at. -/
def Follows (client client' : AdmittedClient) : Prop :=
  client.done = true → client'.done = true ∧ client'.text = client.text

/-- The connections are those of `s'`, apart from one that goes on. -/
theorem Known.setClient {a : Answer} (known : Known stringify s a)
    (here : s.admitted[place]? = some client) (follows : Follows client client') :
    Known stringify (s.setClient place client') a := by
  refine ⟨known.data, ?_, known.secret⟩
  obtain ⟨old, found, done, line⟩ := known.line
  by_cases same : a.client = place
  · subst same
    cases Option.some.inj (found.symm.trans here)
    obtain ⟨done', text⟩ := follows done
    refine ⟨client', ?_, done', text ▸ line⟩
    exact List.getElem?_set_self (List.getElem?_eq_some_iff.mp here).1
  · refine ⟨old, ?_, done, line⟩
    rw [← found]
    exact List.getElem?_set_ne (Ne.symm same)

/-- What is known of an answer depends on the connections only. -/
theorem Known.of_admitted {a : Answer} (known : Known stringify s a)
    (same : s'.admitted = s.admitted) : Known stringify s' a :=
  ⟨known.data, same ▸ known.line, known.secret⟩

theorem countP_setClient (here : s.admitted[place]? = some client) :
    ((s.setClient place client').admitted.countP (·.counted) : ℤ) =
      s.admitted.countP (·.counted) - (if client.counted then 1 else 0) +
        (if client'.counted then 1 else 0) := by
  obtain ⟨inside, found⟩ := List.getElem?_eq_some_iff.mp here
  have counted := @List.countP_set _ (·.counted) s.admitted place client' inside
  have pos : client.counted = true → 0 < s.admitted.countP (·.counted) := fun counted ↦
    List.countP_pos_iff.mpr ⟨client, List.mem_of_getElem? here, counted⟩
  show ((s.admitted.set place client').countP (·.counted) : ℤ) = _
  rw [counted, found]
  cases on : client.counted with
  | true =>
      have := pos on
      cases client'.counted <;> simp <;> omega
  | false => cases client'.counted <;> simp

theorem Inv.each_set (inv : Inv stringify s) (ok : Ok client') :
    ∀ client ∈ (s.setClient place client').admitted, Ok client := by
  intro client mem
  rcases List.mem_or_eq_of_mem_set mem with old | rfl
  · exact inv.each client old
  · exact ok

/-- A callback that does not release. -/
theorem Inv.setClient (inv : Inv stringify s) (here : s.admitted[place]? = some client)
    (ok : Ok client') (counted : client'.counted = client.counted)
    (follows : Follows client client') : Inv stringify (s.setClient place client') := by
  have same : (s.setClient place client').admitted.countP (·.counted) =
      s.admitted.countP (·.counted) := by
    have := @countP_setClient s place client client' here
    rw [counted] at this
    omega
  exact ⟨inv.reply, by rw [same]; exact inv.count, by rw [same]; exact inv.bound,
    inv.each_set ok, fun a mem ↦ (inv.answers a mem).setClient here follows⟩

/-- **A release counts down once.**  A connection that has been counted carries a flag, and the
flag is what makes a second release do nothing. -/
theorem Inv.release (inv : Inv stringify s) (here : s.admitted[place]? = some client)
    (counted : client'.counted = client.counted)
    (decrements : client'.decrements = client.decrements) (follows : Follows client client') :
    Inv stringify (s.release place client') := by
  have ok := inv.each client (List.mem_of_getElem? here)
  unfold ResultServer.release
  split
  · rename_i on
    have unreleased : client.releases = 0 := by
      rw [← decide_eq_true_iff (p := client.releases = 0), ← ok.counted, ← counted, on]
    have uncounted : client.decrements = 0 := by rw [ok.once, if_pos unreleased]
    have down := @countP_setClient s place client { client' with
      counted := false, timer := false, releases := client'.releases + 1
      decrements := client'.decrements + 1 } here
    rw [← counted, on] at down
    simp only [if_true, Bool.false_eq_true, if_false, add_zero] at down
    refine ⟨inv.reply, ?_, ?_, inv.each_set ?_, ?_⟩
    · show s.clients - 1 = _
      rw [inv.count]
      exact down.symm
    · have bound := inv.bound
      refine Nat.le_trans (Int.ofNat_le.mp ?_) bound
      exact (show _ = _ from down).trans_le (by omega)
    · refine ⟨?_, ?_, nofun, fun _ ↦ Nat.succ_ne_zero _⟩
      · simp
      · simp [decrements, uncounted]
    · intro a mem
      have known : Known stringify { s with clients := s.clients - 1 } a :=
        (inv.answers a mem).of_admitted rfl
      exact known.setClient here follows
  · rename_i off
    have released : client.releases ≠ 0 := by
      intro unreleased
      rw [counted, ok.counted, decide_eq_true unreleased] at off
      exact off rfl
    refine inv.setClient here ?_ counted follows
    refine ⟨?_, ?_, nofun, fun _ ↦ Nat.succ_ne_zero _⟩
    · simpa using off
    · simp [decrements, ok.once, released]

theorem Inv.endProbe (inv : Inv stringify s) (id : String) : Inv stringify (s.endProbe id) := by
  unfold ResultServer.endProbe
  split
  · exact ⟨nofun, inv.count, inv.bound, inv.each, fun a mem ↦
      (inv.answers a mem).of_admitted rfl⟩
  · exact inv

theorem Inv.beginProbe (inv : Inv stringify s) (id : String) (began : s.beginProbe id = some s') :
    Inv stringify s' := by
  unfold ResultServer.beginProbe at began
  split at began
  · cases began
  · simp only [Option.some.injEq] at began
    subst began
    split <;> exact ⟨nofun, inv.count, inv.bound, inv.each, fun a mem ↦
      (inv.answers a mem).of_admitted rfl⟩

theorem Inv.finishProbe (inv : Inv stringify s) (reply : ProbeReply) :
    Inv stringify (s.finishProbe reply) := by
  unfold ResultServer.finishProbe
  split
  · rename_i same
    refine ⟨?_, inv.count, inv.bound, inv.each, fun a mem ↦
      (inv.answers a mem).of_admitted rfl⟩
    rintro _ ⟨⟩
    exact ⟨same, rfl⟩
  · exact inv

theorem Inv.accept (inv : Inv stringify s) : Inv stringify s.accept := by
  unfold ResultServer.accept
  split
  · exact inv
  · rename_i room
    have bound := inv.count
    have more : (s.admitted ++ [AdmittedClient.new]).countP (·.counted) =
        s.admitted.countP (·.counted) + 1 := by
      rw [List.countP_append]
      rfl
    refine ⟨inv.reply, ?_, ?_, ?_, ?_⟩
    · show s.clients + 1 = ((s.admitted ++ [AdmittedClient.new]).countP (·.counted) : ℤ)
      rw [more, inv.count]
      rfl
    · show (s.admitted ++ [AdmittedClient.new]).countP (·.counted) ≤ 4
      omega
    · intro client mem
      rcases List.mem_append.mp mem with old | new
      · exact inv.each client old
      · rw [List.mem_singleton.mp new]
        exact ⟨rfl, rfl, fun _ ↦ .inl rfl, nofun⟩
    · intro a mem
      obtain ⟨data, ⟨client, found, done, line⟩, secret⟩ := inv.answers a mem
      refine ⟨data, ⟨client, ?_, done, line⟩, secret⟩
      exact (List.getElem?_append_left (List.getElem?_eq_some_iff.mp found).1).trans found

/-! ## The answers -/

/-- The request is complete, and what is sent may be. -/
theorem Inv.send (inv : Inv stringify s) (here : s.admitted[place]? = some client)
    (fresh : client.done = false) {text : List Char} {code : ℕ} {body : AnswerBody}
    {consumed : Option String}
    (secret : code = 200 → s.requestId ≠ "" ∧ firstLine text = requestLine s.requestId ∧
      s.replied = s.begun ∧ ∃ reply, body = .reply reply ∧ reply.requestId = s.requestId) :
    Inv stringify (s.send stringify place { client with text, done := true, timer := false }
      code body consumed) := by
  have ok := inv.each client (List.mem_of_getElem? here)
  have follows (client' : AdmittedClient) : Follows client client' :=
    fun done ↦ absurd (fresh.symm.trans done) nofun
  have set : Inv stringify (s.setClient place { client with
      text, done := true, timer := false, answering := some (.sending, consumed) }) :=
    inv.setClient here ⟨ok.counted, ok.once, fun _ ↦ .inr (.inr rfl), ok.reported⟩ rfl (follows _)
  refine ⟨set.reply, set.count, set.bound, set.each, fun a mem ↦ ?_⟩
  rcases List.mem_append.mp mem with old | new
  · exact (set.answers a old).of_admitted rfl
  · rw [List.mem_singleton.mp new]
    refine ⟨rfl, ⟨_, List.getElem?_set_self (List.getElem?_eq_some_iff.mp here).1, rfl, rfl⟩, ?_⟩
    exact secret

/-- **The reply goes to who names the active id.**  All others are refused with their own code, and
the active id is the one that the last check has begun with. -/
theorem Inv.answer (inv : Inv stringify s) (here : s.admitted[place]? = some client)
    (fresh : client.done = false) (text : List Char) :
    Inv stringify
      (s.answer stringify place { client with text, done := true, timer := false }) := by
  unfold ResultServer.answer
  split
  · exact inv.send here fresh nofun
  · rename_i named
    rw [not_or, not_not] at named
    split
    · exact inv.send here fresh nofun
    · rename_i reply ready
      obtain ⟨own, current⟩ := inv.reply reply ready
      exact inv.send here fresh fun _ ↦ ⟨named.1, named.2, current, reply, rfl, own⟩

theorem Inv.onMessage (inv : Inv stringify s) (here : s.admitted[place]? = some client)
    (bytes : List UInt8) : Inv stringify (s.onMessage stringify place client bytes) := by
  have ok := inv.each client (List.mem_of_getElem? here)
  unfold ResultServer.onMessage
  split
  · exact inv
  · rename_i waiting
    have fresh : client.done = false := by simpa using waiting
    have follows (client' : AdmittedClient) : Follows client client' :=
      fun done ↦ absurd done waiting
    split
    · exact inv.setClient here ⟨ok.counted, ok.once, fun _ ↦ .inr (.inl rfl), ok.reported⟩ rfl
        (follows _)
    · simp only
      split
      · exact inv.setClient here ⟨ok.counted, ok.once, ok.owed, ok.reported⟩ rfl (follows _)
      · exact inv.answer here fresh _

theorem Inv.step {label : Label} (inv : Inv stringify s) (step : Step stringify s label s') :
    Inv stringify s' := by
  cases step with
  | @beginProbe id =>
      cases began : s.beginProbe id with
      | none => exact inv
      | some s' => exact inv.beginProbe id began
  | @began before after id listening _ =>
      have resumed : Inv stringify { s with beginning := before ++ after } :=
        ⟨inv.reply, inv.count, inv.bound, inv.each, fun a mem ↦
          (inv.answers a mem).of_admitted rfl⟩
      unfold ResultServer.began
      split
      · exact resumed
      · apply Inv.endProbe
        exact ⟨inv.reply, inv.count, inv.bound, inv.each, fun a mem ↦
          (inv.answers a mem).of_admitted rfl⟩
  | finishProbe => exact inv.finishProbe _
  | endProbe => exact inv.endProbe _
  | connect => exact inv.accept
  | timeout here _ =>
      have ok := inv.each _ (List.mem_of_getElem? here)
      exact inv.setClient here ⟨ok.counted, ok.once, fun _ ↦ .inr (.inl rfl), ok.reported⟩ rfl
        fun _ ↦ ⟨rfl, rfl⟩
  | close here => exact inv.release here rfl rfl fun done ↦ ⟨done, rfl⟩
  | error here => exact inv.release here rfl rfl fun _ ↦ ⟨rfl, rfl⟩
  | message here => exact inv.onMessage here _
  | sent here _ =>
      have ok := inv.each _ (List.mem_of_getElem? here)
      exact inv.setClient here ⟨ok.counted, ok.once, fun _ ↦ .inr (.inl rfl), ok.reported⟩ rfl
        fun done ↦ ⟨done, rfl⟩
  | @closed place client consumed sent finished here _ =>
      unfold ResultServer.onClosed
      cases consumed with
      | none => exact inv.release here rfl rfl fun done ↦ ⟨done, rfl⟩
      | some id =>
          simp only
          split
          · have here' : (s.endProbe id).admitted[place]? = some client := by
              unfold ResultServer.endProbe
              split <;> exact here
            exact (inv.endProbe id).release here' rfl rfl fun done ↦ ⟨done, rfl⟩
          · exact inv.release here rfl rfl fun done ↦ ⟨done, rfl⟩

/-! ## The listener that the app has -/

/-! ## The runs -/

/-- Nothing of the connection is under way, and if it was closed, that was reported. -/
structure Settled (client : AdmittedClient) : Prop where
  timer : client.timer = false
  answering : client.answering = none
  closed : client.closed = true → client.reported = true

/-- The secrecy of the result, and the limit of the connections.  Secrecy is that a reply goes only
to a connection that names the id of its check. -/
structure Safe (stringify : ProbeReply → String) (s : ResultServer) : Prop where
  /-- A response has the code and the body, and goes to a connection with that request line. -/
  answers : ∀ a ∈ s.answers, Known stringify s a
  busy : s.requestId ≠ "" → ∀ id s', Step stringify s (.beginProbe id) s' → s' = s
  count : s.clients = (s.admitted.countP (·.releases = 0) : ℤ)
  bound : 0 ≤ s.clients ∧ s.clients ≤ 4
  once : ∀ client ∈ s.admitted, client.decrements = if client.releases = 0 then 0 else 1
  settled : ∀ client ∈ s.admitted, Settled client → client.decrements = 1

theorem inv_of_run {t : List (ResultServer × Label)} (run : (machine stringify).Run t s) :
    Inv stringify s := by
  refine run.invariant (Inv stringify) ?_ (fun _ _ _ inv _ step ↦ inv.step step)
    (Machine.meets_true t)
  rintro _ rfl
  exact ⟨nofun, rfl, Nat.zero_le _, nofun, nofun⟩

/-- **Every order of events is safe.**  Connections come, send, stop sending, time out and close in
any order, and so do checks; the count is that of the connections not released, it stays between 0
and 4, and each connection counts down once. -/
theorem reachable_safe (reachable : (machine stringify).Reachable s) : Safe stringify s := by
  obtain ⟨steps, run⟩ := reachable
  have inv := inv_of_run run
  have counted : s.admitted.countP (·.counted) = s.admitted.countP (·.releases = 0) :=
    List.countP_congr fun client mem ↦ by rw [(inv.each client mem).counted]
  refine ⟨inv.answers, ?_, ?_, ?_, fun client mem ↦ (inv.each client mem).once, ?_⟩
  · rintro active id _ ⟨⟩
    rw [show s.beginProbe id = none from if_pos active]
    rfl
  · rw [inv.count, counted]
  · have bound := inv.bound
    rw [inv.count]
    omega
  · intro client mem settled
    have ok := inv.each client mem
    rw [ok.once, if_neg]
    intro unreleased
    rcases ok.owed unreleased with timer | closed | answering
    · exact absurd (settled.timer.symm.trans timer) nofun
    · exact ok.reported (settled.closed closed) unreleased
    · rw [settled.answering] at answering
      exact absurd answering nofun

/-- A check begins and finishes, and a connection asks for its reply. -/
theorem reachable_safe_asked : ∃ s, Safe (fun _ ↦ "") s ∧ s.clients = 1 ∧
    s.answers.map (·.code) = [200] := by
  have begun := (Machine.Run.start (M := machine fun _ ↦ "") rfl).step
    (show (machine fun _ ↦ "").step _ (.beginProbe "a") _ from .beginProbe)
  have finished := begun.step (show (machine fun _ ↦ "").step _
    (.finishProbe ⟨"a", none, [], none⟩) _ from .finishProbe)
  have connected := finished.step (show (machine fun _ ↦ "").step _ .connect _ from .connect)
  have asked := connected.step (show (machine fun _ ↦ "").step _
    (.message 0 ("GET /v1/probe/a HTTP/1.1\r\n\r\n".toList.map fun c ↦ UInt8.ofNat c.toNat)) _
      from .message rfl)
  exact ⟨_, reachable_safe ⟨_, asked⟩, by decide, by decide⟩

end ResultServer

end ReverseTether
