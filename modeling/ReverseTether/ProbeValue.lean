import Mathlib.Tactic

/-!
# The value of a measurement, made on the device and checked on the computer

`summarize` of the app turns the round-trip times of one server into a `ProbeValue`;
`validate_value` of the computer decides whether it takes what comes back.  The two state the
same rules in two languages: how many samples there can be, what the loss is, and that there is
no median without a reply.

Numbers are rationals.  Between the two lies JSON, where a number without a fraction is an `int`
for Python and any other one a `float` (`jsonNumber`).

The computer takes nothing on trust, and its checks are many: the types of the fields, their
ranges, how they depend on one another.  The device has the same rules in the order in which
it computes.  That one implies the other is not obvious where rounding is involved, since the
median and the loss are computed on one side and compared on the other.

`summarize` refuses samples that contradict each other, such as more replies than requests;
the theorem is about the samples that a run can have, and those are never refused.
-/

namespace ReverseTether

def sampleCount : ℕ := 5
def sampleIntervalMs : ℕ := 100
def responseTimeoutMs : ℕ := 800

/-! ## The device -/

/-- `ProbeValue`: the result for one server, with the defaults of a value that has not been filled
in. -/
structure ProbeValue where
  protocol : String := "stun_binding_v1"
  medianRttMs : Option ℚ := none
  packetLossPercent : ℚ := 100
  sent : ℕ := 0
  received : ℕ := 0
  rttsMs : List ℚ := []
  host : String := ""
  port : ℕ := 0
  deriving DecidableEq, Repr

namespace ProbeValue

/-- The middle one of the samples, or the mean of the two in the middle.  The places are inside
of the list when it is not empty. -/
def median (rtts : List ℚ) : ℚ :=
  let ordered := rtts.mergeSort fun a b => decide (a ≤ b)
  let middle := ordered.length / 2
  if ordered.length % 2 = 0 then (ordered.getD (middle - 1) 0 + ordered.getD middle 0) / 2
  else ordered.getD middle 0

/-- `summarize`: the counts, the median and the loss of one run; samples that contradict one
another are refused. -/
def summarize (sent : ℕ) (rtts : List ℚ) (host : String) (port : ℕ) : Except String ProbeValue :=
  if sent < 1 ∨ sampleCount < sent ∨ sent < rtts.length ∨ ∃ rtt ∈ rtts, rtt < 0 then
    .error "invalid_samples"
  else
    .ok {
      sent
      received := rtts.length
      packetLossPercent := (sent - rtts.length) * 100 / sent
      rttsMs := rtts
      host
      port
      medianRttMs := if 0 < rtts.length then some (median rtts) else none }

end ProbeValue

/-! ## The computer -/

/-- What `json.loads` makes of a document: the values of Python, with `int` and `float` apart. -/
inductive PyValue
  | none
  | bool (value : Bool)
  | int (value : ℤ)
  | float (value : ℚ)
  | str (value : String)
  | list (items : List PyValue)
  | dict (fields : List (String × PyValue))

namespace PyValue

/-- `value.get(key)` of a dictionary. -/
def get (fields : List (String × PyValue)) (key : String) : PyValue :=
  (fields.lookup key).getD .none

/-- A value of type `int`, which a `bool` is not. -/
def asInt : PyValue → Option ℤ
  | .int value => some value
  | _ => Option.none

/-- A value of type `int` or `float`. -/
def asNumber : PyValue → Option ℚ
  | .int value => some value
  | .float value => some value
  | _ => Option.none

/-- `value is None`. -/
def isNone : PyValue → Bool
  | .none => true
  | _ => false

/-- `value == text`, for a text: a value of any other type is different from it. -/
def isStr (text : String) : PyValue → Bool
  | .str value => value = text
  | _ => false

end PyValue

/-- A number of JavaScript, written and read again. -/
def jsonNumber (value : ℚ) : PyValue := if value.den = 1 then .int value.num else .float value

/-- What the computer reads of a value that the device reports. -/
def ProbeValue.fields (value : ProbeValue) : List (String × PyValue) :=
  [("protocol", .str value.protocol),
    ("median_rtt_ms", value.medianRttMs.elim .none jsonNumber),
    ("packet_loss_percent", jsonNumber value.packetLossPercent),
    ("sent", jsonNumber value.sent),
    ("received", jsonNumber value.received),
    ("rtts_ms", .list (value.rttsMs.map jsonNumber)),
    ("host", .str value.host),
    ("port", jsonNumber value.port)]

/-- The value as the script reads it from the reply: a dictionary with the names of the fields. -/
def ProbeValue.toPy (value : ProbeValue) : PyValue := .dict value.fields

/-- The two counts, if they are possible. -/
def sampleCounts (fields : List (String × PyValue)) : Option (ℤ × ℤ) := do
  let sent ← (PyValue.get fields "sent").asInt
  let received ← (PyValue.get fields "received").asInt
  if 1 ≤ sent ∧ sent ≤ 5 ∧ 0 ≤ received ∧ received ≤ sent then some (sent, received) else none

/-- The message of the first rule that is broken, if one is. -/
def validateValue : PyValue → Except String Unit
  | .dict fields =>
      if ¬ (PyValue.get fields "protocol").isStr "stun_binding_v1" then
        .error "Device returned no supported measurement"
      else
        match sampleCounts fields with
        | none => .error "Invalid sample counts"
        | some (sent, received) =>
            match (PyValue.get fields "packet_loss_percent").asNumber with
            | none => .error "Invalid packet loss"
            | some loss =>
                if 1 / 100 < |loss - (sent - received) * 100 / sent| then
                  .error "Invalid packet loss"
                else if (fields.lookup "median_rtt_ms").isNone ∨
                    received = 0 ∧ ¬ (PyValue.get fields "median_rtt_ms").isNone then
                  .error "Invalid empty RTT"
                else if 0 < received then
                  match (PyValue.get fields "median_rtt_ms").asNumber with
                  | none => .error "Invalid RTT"
                  | some median =>
                      if 0 ≤ median ∧ median ≤ 15000 then .ok () else .error "Invalid RTT"
                else .ok ()
  | _ => .error "Device returned no supported measurement"

theorem asInt_jsonNumber_cast (n : ℕ) : (jsonNumber n).asInt = some (n : ℤ) := by
  unfold jsonNumber
  rw [if_pos (Rat.den_natCast n)]
  simp [PyValue.asInt]

theorem asNumber_jsonNumber (value : ℚ) : (jsonNumber value).asNumber = some value := by
  unfold jsonNumber
  split
  · rename_i whole
    exact congrArg some (Rat.coe_int_num_of_den_eq_one whole)
  · rfl

namespace ProbeValue

/-- The middle of samples that lie in a range lies in it. -/
theorem median_mem {rtts : List ℚ} {low high : ℚ} (zero : low ≤ 0) (pos : 0 ≤ high)
    (range : ∀ rtt ∈ rtts, low ≤ rtt ∧ rtt ≤ high) : low ≤ median rtts ∧ median rtts ≤ high := by
  have sample (k : ℕ) : low ≤ (rtts.mergeSort fun a b => decide (a ≤ b)).getD k 0 ∧
      (rtts.mergeSort fun a b => decide (a ≤ b)).getD k 0 ≤ high := by
    rw [List.getD_eq_getElem?_getD]
    cases at_k : (rtts.mergeSort fun a b => decide (a ≤ b))[k]? with
    | none => exact ⟨zero, pos⟩
    | some rtt => exact range rtt (List.mem_mergeSort.mp (List.mem_of_getElem? at_k))
  unfold median
  simp only
  split
  · have first := sample ((rtts.mergeSort fun a b => decide (a ≤ b)).length / 2 - 1)
    have second := sample ((rtts.mergeSort fun a b => decide (a ≤ b)).length / 2)
    constructor <;> linarith
  · exact sample _

section

variable (value : ProbeValue)

theorem get_protocol : PyValue.get value.fields "protocol" = .str value.protocol := by
  simp [fields, PyValue.get]

theorem lookup_median : value.fields.lookup "median_rtt_ms" =
    some (value.medianRttMs.elim .none jsonNumber) := by
  simp [fields, List.lookup_cons]

theorem get_loss :
    PyValue.get value.fields "packet_loss_percent" = jsonNumber value.packetLossPercent := by
  simp [fields, PyValue.get, List.lookup_cons]

theorem sampleCounts_fields (some_sent : 1 ≤ value.sent) (most : value.sent ≤ 5)
    (fewer : value.received ≤ value.sent) :
    sampleCounts value.fields = some ((value.sent : ℤ), (value.received : ℤ)) := by
  have sent : PyValue.get value.fields "sent" = jsonNumber value.sent := by
    simp [fields, PyValue.get, List.lookup_cons]
  have received : PyValue.get value.fields "received" = jsonNumber value.received := by
    simp [fields, PyValue.get, List.lookup_cons]
  have possible : 1 ≤ (value.sent : ℤ) ∧ (value.sent : ℤ) ≤ 5 ∧ 0 ≤ (value.received : ℤ) ∧
      (value.received : ℤ) ≤ value.sent := by omega
  rw [sampleCounts, sent, received, asInt_jsonNumber_cast, asInt_jsonNumber_cast]
  exact if_pos possible

end

/-- A value that meets the rules of the computer: each field by itself, and the counts and the
times among each other. -/
structure Acceptable (value : ProbeValue) : Prop where
  protocol_eq : value.protocol = "stun_binding_v1"
  some_sent : 1 ≤ value.sent
  most : value.sent ≤ 5
  fewer : value.received ≤ value.sent
  loss : value.packetLossPercent = (value.sent - value.received) * 100 / value.sent
  median_iff : value.medianRttMs.isSome ↔ 0 < value.received
  median_range : ∀ median, value.medianRttMs = some median → 0 ≤ median ∧ median ≤ 15000

/-- The rules, one after the other. -/
theorem Acceptable.validated {value : ProbeValue} (ok : value.Acceptable) :
    validateValue value.toPy = .ok () := by
  have counts := sampleCounts_fields value ok.some_sent ok.most ok.fewer
  have exact_loss : ¬ (1 / 100 < |value.packetLossPercent -
      (((value.sent : ℤ) : ℚ) - ((value.received : ℤ) : ℚ)) * 100 / ((value.sent : ℤ) : ℚ)|) := by
    rw [ok.loss]
    push_cast
    rw [sub_self, abs_zero]
    norm_num
  rw [toPy, validateValue, get_protocol, if_neg (by simp [PyValue.isStr, ok.protocol_eq]), counts]
  simp only
  rw [get_loss, asNumber_jsonNumber]
  simp only
  rw [if_neg exact_loss, PyValue.get, lookup_median]
  cases median : value.medianRttMs with
  | none =>
      have unreplied : value.received = 0 := by
        by_contra replied
        have present := ok.median_iff.mpr (Nat.pos_of_ne_zero replied)
        rw [median] at present
        cases present
      simp [unreplied, PyValue.isNone]
  | some rtt =>
      have replied : 0 < value.received := ok.median_iff.mp (by rw [median]; rfl)
      have range := ok.median_range rtt median
      have positive : value.received ≠ 0 := by omega
      simp [replied, positive, asNumber_jsonNumber, range]

/-- **What is summarized is taken.**  From at most as many replies as there were requests, all in
time, `summarize` makes a value that `validate_value` accepts. -/
theorem summarize_accepted {sent : ℕ} {rtts : List ℚ} (some_sent : 1 ≤ sent)
    (most : sent ≤ sampleCount) (fewer : rtts.length ≤ sent)
    (range : ∀ rtt ∈ rtts, 0 ≤ rtt ∧ rtt ≤ 1200) (host : String) (port : ℕ) :
    ∃ value, summarize sent rtts host port = .ok value ∧ validateValue value.toPy = .ok () := by
  have possible : ¬ (sent < 1 ∨ sampleCount < sent ∨ sent < rtts.length ∨
      ∃ rtt ∈ rtts, rtt < 0) := by
    rintro (none | many | more | ⟨rtt, mem, negative⟩)
    · omega
    · omega
    · omega
    · exact absurd (range rtt mem).1 (not_le.mpr negative)
  have middle := median_mem (le_refl 0) (by norm_num) range
  refine ⟨_, if_neg possible, Acceptable.validated ?_⟩
  refine ⟨rfl, some_sent, most, fewer, rfl, ?_, ?_⟩
  · show (if 0 < rtts.length then some (median rtts) else none).isSome ↔ 0 < rtts.length
    split <;> simp_all
  · intro rtt
    show (if 0 < rtts.length then some (median rtts) else none) = some rtt → _
    split
    · rintro ⟨⟩
      constructor <;> linarith
    · nofun

end ProbeValue

end ReverseTether
