import ReverseTether.Binary

/-!
# STUN packets

The probe of the app asks a server for its address over UDP and takes whatever comes back.
`matchResponse` decides which request a datagram answers, if it answers one: the datagram has to
be a Binding success response and nothing more, down to the padding of its attributes.

An `Attribute` carries the bounds that its length field and its padding need, and a body is one
attribute behind the other (`Attribute.Concatenation`).  That the walk over the attributes
accepts these bodies and no others is `walkAttributes_eq`; every turn moves the offset on by
four bytes at least, so the walk ends.  A read outside of an array is an error of the model, and
there is none.

The two are proved separately: that the loop of the source accepts bodies and nothing else,
and that the fields around it are checked.  Ids are compared as whole lists of twelve bytes,
and the first request with the id of the datagram is the one that it answers, should two of
them be equal.
-/

namespace ReverseTether

open Library

namespace StunPacket

/-! ## The attributes of a body -/

/-- An attribute: type, length, and the value with its padding. -/
structure Attribute where
  kind : UInt16
  value : List UInt8
  padding : List UInt8
  value_lt : value.length < 65536
  padding_lt : padding.length < 4
  aligned : (value.length + padding.length) % 4 = 0

namespace Attribute

/-- The attribute on the wire: its type, the length without the padding, the value and the padding.
-/
def bytes (a : Attribute) : List UInt8 :=
  u16Bytes a.kind ++ u16Bytes (UInt16.ofNat a.value.length) ++ (a.value ++ a.padding)

/-- `body` is one attribute behind the other.  Nothing is left over at the end, not even padding of
the last one. -/
def Concatenation (body : List UInt8) : Prop :=
  ∃ attributes : List Attribute, body = attributes.flatMap bytes

/-- How far the offset moves on over an attribute with a value of `length` bytes. -/
def size (length : ℕ) : ℕ := 4 + (length + 3) / 4 * 4

theorem length_bytes (a : Attribute) : a.bytes.length = size a.value.length := by
  have aligned := a.aligned
  have short := a.padding_lt
  simp only [bytes, List.length_append, length_u16Bytes, size]
  omega

/-- The length field of the first attribute. -/
theorem length_field (a : Attribute) (rest : List UInt8) :
    (getU16 (a.bytes ++ rest) 2).toNat = a.value.length := by
  have field : getU16 (a.bytes ++ rest) 2 =
      getU16 (u16Bytes (UInt16.ofNat a.value.length)) 0 := rfl
  rw [field, getU16_u16Bytes, UInt16.toNat_ofNat', Nat.mod_eq_of_lt a.value_lt]

/-- An attribute of the value and the padding that come first in `rest`. -/
theorem exists_of_value (kind : UInt16) {length : ℕ} {rest : List UInt8} (small : length < 65536)
    (room : size length ≤ 4 + rest.length) :
    ∃ a : Attribute, a.bytes =
      u16Bytes kind ++ u16Bytes (UInt16.ofNat length) ++ rest.take (size length - 4) := by
  unfold size at room
  have value : (rest.take length).length = length := List.length_take_of_le (by omega)
  have padding : ((rest.drop length).take ((length + 3) / 4 * 4 - length)).length =
      (length + 3) / 4 * 4 - length := by
    apply List.length_take_of_le
    rw [List.length_drop]
    omega
  refine ⟨⟨kind, rest.take length, (rest.drop length).take ((length + 3) / 4 * 4 - length),
    by omega, by omega, by omega⟩, ?_⟩
  have both : length + ((length + 3) / 4 * 4 - length) = size length - 4 := by
    unfold size
    omega
  show u16Bytes kind ++ u16Bytes (UInt16.ofNat (rest.take length).length) ++
    (rest.take length ++ (rest.drop length).take ((length + 3) / 4 * 4 - length)) = _
  rw [value, ← List.take_add, both]

theorem take_four {body : List UInt8} (header : 4 ≤ body.length) :
    body.take 4 = [getByte body 0, getByte body 1, getByte body 2, getByte body 3] := by
  match body with
  | [] | [_] | [_, _] | [_, _, _] => simp at header
  | _ :: _ :: _ :: _ :: _ => rfl

/-- A front that holds an attribute with the value and the padding its length field asks for. -/
theorem exists_of_front {body : List UInt8} (header : 4 ≤ body.length)
    (inside : size (getU16 body 2).toNat ≤ body.length) :
    ∃ a : Attribute, a.bytes = body.take (size (getU16 body 2).toNat) := by
  have split : body.length = 4 + (body.drop 4).length := by
    rw [List.length_drop]
    omega
  rw [split] at inside
  obtain ⟨a, eq⟩ := exists_of_value (getU16 body 0) (getU16 body 2).toNat_lt inside
  refine ⟨a, ?_⟩
  have field : u16Bytes (getU16 body 0) ++ u16Bytes (getU16 body 2) = body.take 4 := by
    rw [u16Bytes_getU16, u16Bytes_getU16, take_four header]
    rfl
  have size_eq : size (getU16 body 2).toNat = 4 + (size (getU16 body 2).toNat - 4) := by
    unfold size
    omega
  rw [eq, UInt16.ofNat_toNat, field, ← List.take_add, ← size_eq]

theorem concatenation_nil : Concatenation [] := ⟨[], rfl⟩

/-- A body starts with an attribute, and goes on as a body. -/
theorem concatenation_iff {body : List UInt8} (nonempty : body ≠ []) :
    Concatenation body ↔ 4 ≤ body.length ∧ size (getU16 body 2).toNat ≤ body.length ∧
      Concatenation (body.drop (size (getU16 body 2).toNat)) := by
  constructor
  · rintro ⟨attributes, rfl⟩
    match attributes with
    | [] => exact absurd rfl nonempty
    | a :: rest =>
        rw [List.flatMap_cons, length_field, ← length_bytes]
        refine ⟨?_, ?_, rest, ?_⟩
        · rw [List.length_append, length_bytes, size]
          omega
        · rw [List.length_append]
          omega
        · rw [List.drop_left]
  · rintro ⟨header, inside, attributes, rest⟩
    obtain ⟨a, front⟩ := exists_of_front header inside
    refine ⟨a :: attributes, ?_⟩
    rw [List.flatMap_cons, front, ← rest, List.take_append_drop]

end Attribute

/-! ## Matching a response -/

/-- Every attribute must lie inside of the packet, its padding included. -/
def walkAttributes (packet : List UInt8) (offset : ℕ) : Outcome Bool :=
  if offset < packet.length then
    if packet.length < offset + 4 then .ok false
    else do
      let high ← readByte packet (offset + 2)
      let low ← readByte packet (offset + 3)
      -- `Math.ceil(length / 4) * 4`
      let next := offset + (4 + (high.toNat * 256 + low.toNat + 3) / 4 * 4)
      if packet.length < next then return false
      else walkAttributes packet next
  else .ok true
termination_by packet.length - offset

/-- `ids[index].every((byte, i) => byte === packet[8 + i])`, from `i` on. -/
def everyByte (packet : List UInt8) : ℕ → List UInt8 → Outcome Bool
  | _, [] => .ok true
  | i, byte :: id => do
      if byte = (← readByte packet (8 + i)) then everyByte packet (i + 1) id
      else return false

/-- The first id that is the packet's, from `index` on. -/
def findId (packet : List UInt8) : ℕ → List (List UInt8) → Outcome ℤ
  | _, [] => .ok (-1)
  | index, id :: ids => do
      if id.length = 12 then
        if ← everyByte packet 0 id then return index
        else findId packet (index + 1) ids
      else findId packet (index + 1) ids

/-- `matchResponse`: the index of the request that the datagram answers, or `-1` when it answers
none. -/
def matchResponse (packet : List UInt8) (ids : List (List UInt8)) : Outcome ℤ :=
  if packet.length < 20 ∨ 1200 < packet.length then .ok (-1)
  else do
    if (← readByte packet 0) ≠ 1 ∨ (← readByte packet 1) ≠ 1 ∨ (← readByte packet 4) ≠ 0x21 ∨
        (← readByte packet 5) ≠ 0x12 ∨ (← readByte packet 6) ≠ 0xa4 ∨
        (← readByte packet 7) ≠ 0x42 then return -1
    else
      let bytes := (← readByte packet 2).toNat * 256 + (← readByte packet 3).toNat
      if bytes % 4 ≠ 0 ∨ bytes + 20 ≠ packet.length then return -1
      -- reject malformed attribute lengths, including a truncated padded value
      else if ← walkAttributes packet 20 then findId packet 0 ids
      else return -1

variable {packet : List UInt8}

/-- **The walk accepts the bodies.**  It ends, reads inside of the packet, and accepts exactly what
is one attribute behind the other.  An attribute is padded to a multiple of four bytes, and the
walk skips the padding; where the padding is missing it stops outside, and refuses. -/
theorem walkAttributes_eq {offset : ℕ} (inside : offset ≤ packet.length) :
    ∃ accepted, walkAttributes packet offset = .ok accepted ∧
      (accepted = true ↔ Attribute.Concatenation (packet.drop offset)) := by
  -- each turn leaves fewer bytes behind the offset
  induction left : packet.length - offset using Nat.strong_induction_on generalizing offset with
  | _ left' ih =>
      rw [walkAttributes]
      by_cases more : offset < packet.length
      · have length : (packet.drop offset).length = packet.length - offset := List.length_drop
        have nonempty : packet.drop offset ≠ [] := List.ne_nil_of_length_pos (by omega)
        rw [if_pos more, Attribute.concatenation_iff nonempty, length]
        by_cases short : packet.length < offset + 4
        · rw [if_pos short]
          refine ⟨false, rfl, ?_⟩
          simp only [Bool.false_eq_true, false_iff, not_and]
          intro header
          omega
        · rw [if_neg short, readByte_eq (by omega), readByte_eq (by omega), ok_bind, ok_bind]
          have field : (getByte packet (offset + 2)).toNat * 256 +
              (getByte packet (offset + 3)).toNat = (getU16 (packet.drop offset) 2).toNat := by
            rw [getU16_drop, toNat_getU16]
          have moved : 4 + ((getU16 (packet.drop offset) 2).toNat + 3) / 4 * 4 =
              Attribute.size (getU16 (packet.drop offset) 2).toNat := rfl
          simp only [field, moved]
          set size := Attribute.size (getU16 (packet.drop offset) 2).toNat with hsize
          by_cases beyond : packet.length < offset + size
          · rw [if_pos beyond]
            refine ⟨false, rfl, ?_⟩
            simp only [Bool.false_eq_true, false_iff, not_and]
            intro _ fits
            omega
          · rw [if_neg beyond]
            have four : 4 ≤ size := by
              rw [hsize, Attribute.size]
              omega
            obtain ⟨accepted, walked, iff⟩ := @ih (packet.length - (offset + size)) (by omega)
              (offset + size) (by omega) rfl
            refine ⟨accepted, walked, ?_⟩
            rw [iff, List.drop_drop]
            constructor
            · intro rest
              exact ⟨by omega, by omega, rest⟩
            · intro ⟨_, _, rest⟩
              exact rest
      · rw [if_neg more, List.drop_of_length_le (by omega)]
        exact ⟨true, rfl, by simp [Attribute.concatenation_nil]⟩

theorem everyByte_eq {id : List UInt8} {i : ℕ} (inside : 8 + i + id.length ≤ packet.length) :
    everyByte packet i id = .ok (decide (id = slice packet (8 + i) (8 + i + id.length))) := by
  induction id generalizing i with
  | nil =>
      rw [everyByte, List.length_nil, Nat.add_zero, slice_self]
      rfl
  | cons byte id ih =>
      rw [List.length_cons] at inside
      have first : slice packet (8 + i) (8 + i + (byte :: id).length) =
          getByte packet (8 + i) :: slice packet (8 + (i + 1)) (8 + (i + 1) + id.length) := by
        have stop : 8 + i + (byte :: id).length = 8 + (i + 1) + id.length := by
          rw [List.length_cons]
          omega
        have one : slice packet (8 + i) (8 + (i + 1)) = [getByte packet (8 + i)] := by
          have inside' : 8 + i < packet.length := by omega
          rw [slice, ← Nat.add_assoc, List.take_succ_eq_append_getElem inside',
            List.drop_append_of_le_length (by simp; omega)]
          simp [getByte, inside']
        rw [stop, ← slice_append_slice packet (show 8 + i ≤ 8 + (i + 1) by omega) (by omega), one]
        rfl
      rw [everyByte, readByte_eq (by omega), ok_bind, first]
      by_cases same : byte = getByte packet (8 + i)
      · rw [if_pos same, ih (by omega)]
        simp [same]
      · rw [if_neg same]
        simp [same]

/-- The transaction id of a packet. -/
def transactionId (packet : List UInt8) : List UInt8 := slice packet 8 20

theorem length_transactionId (long : 20 ≤ packet.length) : (transactionId packet).length = 12 := by
  rw [transactionId, length_slice]
  omega

/-- `i` is the first place of the packet's transaction id among those that were sent. -/
def FirstId (packet : List UInt8) (ids : List (List UInt8)) (i : ℕ) : Prop :=
  ids[i]? = some (transactionId packet) ∧ ∀ j < i, ids[j]? ≠ some (transactionId packet)

theorem not_firstId_nil (i : ℕ) : ¬ FirstId packet [] i := by
  rintro ⟨found, _⟩
  cases found

theorem firstId_zero {id : List UInt8} {ids : List (List UInt8)} (same : id = transactionId packet)
    (i : ℕ) : FirstId packet (id :: ids) i ↔ i = 0 := by
  constructor
  · rintro ⟨_, first⟩
    by_contra later
    exact first 0 (by omega) (congrArg some same)
  · rintro rfl
    exact ⟨congrArg some same, nofun⟩

theorem firstId_succ {id : List UInt8} {ids : List (List UInt8)}
    (other : id ≠ transactionId packet) (i : ℕ) :
    FirstId packet (id :: ids) i ↔ ∃ j, i = j + 1 ∧ FirstId packet ids j := by
  constructor
  · rintro ⟨found, first⟩
    match i with
    | 0 => exact absurd (Option.some.inj found) other
    | j + 1 => exact ⟨j, rfl, found, fun k before => first (k + 1) (by omega)⟩
  · rintro ⟨j, rfl, found, first⟩
    refine ⟨found, fun k before => ?_⟩
    match k with
    | 0 => exact fun same => other (Option.some.inj same)
    | k + 1 => exact first k (by omega)

/-- One id of the list is read, and is not the packet's or is. -/
theorem findId_cons (long : 20 ≤ packet.length) (index : ℕ) (id : List UInt8)
    (ids : List (List UInt8)) : findId packet index (id :: ids) =
      if id = transactionId packet then .ok (index : ℤ) else findId packet (index + 1) ids := by
  rw [findId]
  by_cases twelve : id.length = 12
  · rw [if_pos twelve, everyByte_eq (by omega), ok_bind, twelve]
    change (if decide (id = transactionId packet) = true then _ else _) = _
    by_cases same : id = transactionId packet
    · rw [if_pos same, if_pos (decide_eq_true same)]
      rfl
    · rw [if_neg same, if_neg (by simpa using same)]
  · rw [if_neg twelve, if_neg]
    rintro rfl
    exact twelve (length_transactionId long)

theorem findId_eq (long : 20 ≤ packet.length) (index : ℕ) (ids : List (List UInt8)) :
    (∃ i : ℕ, findId packet index ids = .ok ((index + i : ℕ) : ℤ) ∧ FirstId packet ids i) ∨
      (findId packet index ids = .ok (-1) ∧ ∀ i, ¬ FirstId packet ids i) := by
  induction ids generalizing index with
  | nil => exact .inr ⟨rfl, not_firstId_nil⟩
  | cons id ids ih =>
      rw [findId_cons long]
      by_cases same : id = transactionId packet
      · rw [if_pos same]
        exact .inl ⟨0, rfl, (firstId_zero same 0).mpr rfl⟩
      · rw [if_neg same]
        rcases ih (index + 1) with ⟨i, found, first⟩ | ⟨missing, none⟩
        · refine .inl ⟨i + 1, ?_, (firstId_succ same _).mpr ⟨i, rfl, first⟩⟩
          rw [found, show index + 1 + i = index + (i + 1) by omega]
        · refine .inr ⟨missing, fun i first => ?_⟩
          obtain ⟨j, -, first'⟩ := (firstId_succ same i).mp first
          exact none j first'

theorem FirstId.unique {ids : List (List UInt8)} {i j : ℕ} (first : FirstId packet ids i)
    (first' : FirstId packet ids j) : i = j := by
  rcases lt_trichotomy i j with before | same | after
  · exact absurd first.1 (first'.2 i before)
  · exact same
  · exact absurd first'.1 (first.2 j after)

/-- A STUN Binding success response, and nothing behind it: its attributes fill the length of its
header. -/
structure BindingSuccess (packet : List UInt8) : Prop where
  long : 20 ≤ packet.length
  short : packet.length ≤ 1200
  kind : getU16 packet 0 = 0x0101
  /-- The magic cookie. -/
  cookie : getU32 packet 4 = 0x2112a442
  aligned : (getU16 packet 2).toNat % 4 = 0
  length : (getU16 packet 2).toNat = (packet.drop 20).length
  body : Attribute.Concatenation (packet.drop 20)

/-- The fields that are compared byte by byte. -/
theorem header_iff (packet : List UInt8) :
    (getU16 packet 0 = 0x0101 ∧ getU32 packet 4 = 0x2112a442) ↔
      ¬ (getByte packet 0 ≠ 1 ∨ getByte packet 1 ≠ 1 ∨ getByte packet 4 ≠ 0x21 ∨
        getByte packet 5 ≠ 0x12 ∨ getByte packet 6 ≠ 0xa4 ∨ getByte packet 7 ≠ 0x42) := by
  have kind : getU16 packet 0 = 0x0101 ↔ getByte packet 0 = 1 ∧ getByte packet 1 = 1 := by
    have low := (getByte packet 1).toNat_lt
    rw [← UInt16.toNat_inj, ← UInt8.toNat_inj, ← UInt8.toNat_inj, toNat_getU16]
    show (getByte packet 0).toNat * 256 + (getByte packet 1).toNat = 257 ↔
      (getByte packet 0).toNat = 1 ∧ (getByte packet 1).toNat = 1
    omega
  have cookie : getU32 packet 4 = 0x2112a442 ↔ getByte packet 4 = 0x21 ∧ getByte packet 5 = 0x12 ∧
      getByte packet 6 = 0xa4 ∧ getByte packet 7 = 0x42 := by
    have second := (getByte packet 5).toNat_lt
    have third := (getByte packet 6).toNat_lt
    have fourth := (getByte packet 7).toNat_lt
    rw [← UInt32.toNat_inj, ← UInt8.toNat_inj, ← UInt8.toNat_inj, ← UInt8.toNat_inj,
      ← UInt8.toNat_inj, toNat_getU32, toNat_getU16, toNat_getU16]
    show ((getByte packet 4).toNat * 256 + (getByte packet 5).toNat) * 65536 +
        ((getByte packet 6).toNat * 256 + (getByte packet 7).toNat) = 554869826 ↔
      (getByte packet 4).toNat = 33 ∧ (getByte packet 5).toNat = 18 ∧
        (getByte packet 6).toNat = 164 ∧ (getByte packet 7).toNat = 66
    omega
  rw [kind, cookie]
  tauto

/-- The fields are read where they are. -/
theorem matchResponse_fields (size : ¬ (packet.length < 20 ∨ 1200 < packet.length))
    (ids : List (List UInt8)) : matchResponse packet ids =
      if getByte packet 0 ≠ 1 ∨ getByte packet 1 ≠ 1 ∨ getByte packet 4 ≠ 0x21 ∨
        getByte packet 5 ≠ 0x12 ∨ getByte packet 6 ≠ 0xa4 ∨ getByte packet 7 ≠ 0x42 then .ok (-1)
      else if (getU16 packet 2).toNat % 4 ≠ 0 ∨ (getU16 packet 2).toNat + 20 ≠ packet.length then
        .ok (-1)
      else walkAttributes packet 20 >>= fun accepted =>
        if accepted then findId packet 0 ids else .ok (-1) := by
  rw [matchResponse, if_neg size, readByte_eq (by omega), readByte_eq (by omega),
    readByte_eq (by omega), readByte_eq (by omega), readByte_eq (by omega),
    readByte_eq (by omega), readByte_eq (by omega), readByte_eq (by omega), toNat_getU16]
  rfl

/-- **What is matched.**  `matchResponse` returns.  It returns `i` exactly for a Binding success
response with the transaction id of `ids[i]`, and of no id before; otherwise it returns `-1`. -/
theorem matchResponse_eq (packet : List UInt8) (ids : List (List UInt8)) :
    ∃ result : ℤ, matchResponse packet ids = .ok result ∧
      (∀ i : ℕ, result = i ↔ BindingSuccess packet ∧ FirstId packet ids i) ∧
      ((∀ i : ℕ, ¬ (BindingSuccess packet ∧ FirstId packet ids i)) → result = -1) := by
  -- every refusal is a `-1`, and the packet is no response
  have refused (no : ¬ BindingSuccess packet)
      (eq : matchResponse packet ids = .ok (-1)) : ∃ result : ℤ, matchResponse packet ids =
        .ok result ∧ (∀ i : ℕ, result = i ↔ BindingSuccess packet ∧ FirstId packet ids i) ∧
          ((∀ i : ℕ, ¬ (BindingSuccess packet ∧ FirstId packet ids i)) → result = -1) := by
    refine ⟨-1, eq, fun i => ?_, fun _ => rfl⟩
    simp only [no, false_and, iff_false]
    omega
  by_cases size : packet.length < 20 ∨ 1200 < packet.length
  · refine refused (fun success => ?_) (if_pos size)
    have long := success.long
    have short := success.short
    omega
  have unfolded := matchResponse_fields size ids
  by_cases header : getByte packet 0 ≠ 1 ∨ getByte packet 1 ≠ 1 ∨ getByte packet 4 ≠ 0x21 ∨
      getByte packet 5 ≠ 0x12 ∨ getByte packet 6 ≠ 0xa4 ∨ getByte packet 7 ≠ 0x42
  · rw [if_pos header] at unfolded
    exact refused (fun success => (header_iff packet).mp ⟨success.kind, success.cookie⟩ header)
      unfolded
  rw [if_neg header] at unfolded
  obtain ⟨kind, cookie⟩ := (header_iff packet).mpr header
  have behind : (packet.drop 20).length = packet.length - 20 := List.length_drop
  by_cases field : (getU16 packet 2).toNat % 4 ≠ 0 ∨ (getU16 packet 2).toNat + 20 ≠ packet.length
  · rw [if_pos field] at unfolded
    refine refused (fun success => ?_) unfolded
    have aligned := success.aligned
    have length := success.length
    omega
  rw [if_neg field] at unfolded
  obtain ⟨accepted, walked, iff⟩ := walkAttributes_eq (show 20 ≤ packet.length by omega)
  rw [walked, ok_bind] at unfolded
  match accepted with
  | false =>
      refine refused (fun success => ?_) unfolded
      have body := iff.mpr success.body
      cases body
  | true =>
      have success : BindingSuccess packet :=
        ⟨by omega, by omega, kind, cookie, by omega, by omega, iff.mp rfl⟩
      rcases findId_eq success.long 0 ids with ⟨i, found, first⟩ | ⟨missing, none⟩
      · rw [Nat.zero_add] at found
        refine ⟨i, unfolded.trans found, fun j => ?_, fun no => absurd ⟨success, first⟩ (no i)⟩
        constructor
        · intro same
          rw [Nat.cast_inj] at same
          exact ⟨success, same ▸ first⟩
        · rintro ⟨_, first'⟩
          rw [first.unique first']
      · refine ⟨-1, unfolded.trans missing, fun j => ?_, fun _ => rfl⟩
        constructor
        · intro same
          omega
        · rintro ⟨_, first⟩
          exact absurd first (none j)

end StunPacket

end ReverseTether
