import ReverseTether.JsonDumps
import ReverseTether.Library.Splitting
import ReverseTether.ProbeRun

/-!
# The request of a measurement

The script on the computer checks the targets of its command line (`parseTargets`), and writes
them under a fresh id as a JSON text (`encodeRequest`).  The app reads the text and checks it
again (`parseRequest`).

What the script lets pass the app lets pass, with the same hosts and ports
(`parseRequest_encodeRequest`): a host of valid labels begins and ends with a letter or a digit
(`ValidHost.accepts_hostName`), and the text is never too long (`length_encodeRequest`).

The theorem goes one way.  The app may accept requests that the script would not write, since
a request may come from elsewhere, and that is not a fault: what matters to the app is that no
request makes it send where it should not, and to the user that a target which was accepted at
the computer is measured.

The two checks of a host are written in different languages, each partly as a regular
expression and partly over the labels; `ValidHost` is what the first of them ensures, in a
form from which the second one follows.
-/

namespace ReverseTether

open Library

/-! ## The script -/

/-- What Python knows of digits: `c.isdigit()`, the value of a decimal digit, and how many digits
`int` reads at most, if there is a limit. -/
structure DigitTable where
  isDigit : Char → Bool
  decimal : Char → Option ℕ
  maxDigits : Option ℕ

/-- `text.isdigit()`. -/
def DigitTable.isDigits (t : DigitTable) (text : Text) : Bool := text ≠ [] && text.all t.isDigit

/-- `int(text)` of a text of digits.  There are digits that are not decimal ones. -/
def DigitTable.int (t : DigitTable) (text : Text) : Option ℕ :=
  if t.maxDigits.any (· < text.length) then none
  else text.foldlM (fun n c => (t.decimal c).map (10 * n + ·)) 0

/-- How the command line of the script is refused: with a usage message, or by an exception. -/
inductive ArgumentError
  /-- `parser.error(message)`. -/
  | usage (message : String)
  /-- `int` raises. -/
  | valueError

/-- A letter or a digit of ASCII, which is all that the class of the pattern contains. -/
def isAsciiAlnum (c : Char) : Bool :=
  ('a' ≤ c && c ≤ 'z') || ('A' ≤ c && c ≤ 'Z') || ('0' ≤ c && c ≤ '9')

/-- `[A-Za-z0-9.-]`. -/
def isHostChar (c : Char) : Bool := isAsciiAlnum c || c = '.' || c = '-'

/-- One of the four numbers of `ipaddress.IPv4Address`. -/
def isOctet (octet : Text) : Bool :=
  octet ≠ [] && octet.all Char.isDigit && octet.length ≤ 3 &&
    (octet = ['0'] || octet.head? ≠ some '0') && Nat.ofDigitChars 10 octet 0 ≤ 255

/-- `ipaddress.IPv4Address(host)` does not raise. -/
def isIPv4Address (host : Text) : Bool :=
  let octets := host.splitOn '.'
  octets.length = 4 && octets.all isOctet

/-- `not label or len(label) > 63 or label.startswith('-') or label.endswith('-')`. -/
def isInvalidLabel (label : Text) : Bool :=
  label = [] || 63 < label.length || label.head? = some '-' || label.getLast? = some '-'

/-- One turn of the loop over the targets: the host and the port. -/
def parseTarget (t : DigitTable) (target : Text) : Except ArgumentError (Text × ℕ) :=
  let (host, separator, port) := target.rpartition ':'
  if separator = [] ∨ 253 < host.length ∨ ¬(host ≠ [] ∧ host.all isHostChar) then
    .error (.usage "STUN server must be an IPv4 address or domain followed by :port")
  else if (host.splitOn '.').any isInvalidLabel then
    .error (.usage "Invalid STUN hostname")
  else if host.all (fun c => c.isDigit || c = '.') ∧ ¬isIPv4Address host then
    .error (.usage "Invalid STUN IPv4 address")
  else if ¬t.isDigits port then
    .error (.usage "STUN port must be between 1 and 65535")
  else
    match t.int port with
    | none => .error .valueError
    | some number =>
        if 1 ≤ number ∧ number ≤ 65535 then .ok (host, number)
        else .error (.usage "STUN port must be between 1 and 65535")

/-- The servers of `args.stun`. -/
def parseTargets (t : DigitTable) (targets : List Text) :
    Except ArgumentError (List (Text × ℕ)) :=
  if 1 ≤ targets.length ∧ targets.length ≤ 4 then targets.mapM (parseTarget t)
  else .error (.usage "Supply one to four STUN servers")

/-- The groups of digits in the text of an id. -/
def uuidGroups (hex : Text) : List Text :=
  [hex.take 8, (hex.drop 8).take 4, (hex.drop 12).take 4, (hex.drop 16).take 4, hex.drop 20]

/-- `str(uuid.uuid4())`, from sixteen random bytes: version and variant take some of the bits. -/
def uuid4 (random : BitVec 128) : Text :=
  let int := random &&& ~~~(0xc000#128 <<< 48) ||| 0x8000#128 <<< 48
  let int := int &&& ~~~(0xf000#128 <<< 64) ||| 4#128 <<< 76
  ['-'].intercalate (uuidGroups (Text.hex 32 int.toNat))

/-- One of `servers`. -/
def serverValue (server : Text × ℕ) : JsonText.PyValue :=
  .dict [("host".toList, .str server.1), ("port".toList, .int server.2)]

/-- What the request is made of. -/
def requestValue (id : Text) (servers : List (Text × ℕ)) : JsonText.PyValue :=
  .dict [("request_id".toList, .str id), ("servers".toList, .list (servers.map serverValue))]

/-- The text of the request. -/
def encodeRequest (id : Text) (servers : List (Text × ℕ)) : Text :=
  JsonText.dumps (requestValue id servers)

/-! ## The app -/

/-- `ProbeRequest`: the identifier that the reply carries back, and the servers to measure. -/
structure ProbeRequest where
  requestId : String
  servers : List ProbeServer
  deriving DecidableEq, Repr

/-- How `parseRequest` ends when it throws: the parser of JSON did, or a check of the request. -/
inductive RequestError
  /-- `JSON.parse` throws. -/
  | syntaxError
  | error (message : String)

/-- `[0-9a-f]`. -/
def isHexDigit (c : Char) : Bool := ('0' ≤ c && c ≤ '9') || ('a' ≤ c && c ≤ 'f')

/-- Five groups of hexadecimal digits with a hyphen in between. -/
def validRequestId (id : String) : Bool :=
  let groups := id.toList.splitOn '-'
  groups.map List.length = [8, 4, 4, 4, 12] && groups.all (·.all isHexDigit)

/-- `/^[a-zA-Z0-9](?:[a-zA-Z0-9.-]*[a-zA-Z0-9])?$/.test(host)`. -/
def isHostName : Text → Bool
  | [] => false
  | [c] => isAsciiAlnum c
  | c :: rest => isAsciiAlnum c && rest.dropLast.all isHostChar && rest.getLast?.any isAsciiAlnum

/-- `label.length < 1 || label.length > 63 || label.startsWith('-') || label.endsWith('-')`. -/
def isRefusedLabel (label : Text) : Bool :=
  JsonText.utf16Length label < 1 || 63 < JsonText.utf16Length label || label.head? = some '-' ||
    label.getLast? = some '-'

/-- What the loop over the servers accepts. -/
def parseServer (server : Json) : Except RequestError ProbeServer :=
  if ¬server.isTruthy then .error (.error "invalid_server")
  else
    match server.property "host", server.property "port" with
    | .ok (some (.string host)), .ok (some (.number port)) =>
        if 253 < JsonText.utf16Length host.toList ∨ ¬isHostName host.toList ∨
            (host.toList.splitOn '.').any isRefusedLabel then
          .error (.error "invalid_server")
        else
          match port.integer? with
          | some number =>
              if number < 1 ∨ 65535 < number then .error (.error "invalid_server")
              else .ok ⟨host, number.toNat⟩
          | none => .error (.error "invalid_server")
    | _, _ => .error (.error "invalid_server")

/-- `parseRequest`: the length of the text is checked before it is parsed, then each part of the
request. -/
def parseRequest (text : String) : Except RequestError ProbeRequest :=
  if 4096 < JsonText.utf16Length text.toList then .error (.error "invalid_request")
  else
    match JsonText.parse text.toList with
    | none => .error .syntaxError
    | some request =>
        if ¬request.isTruthy then .error (.error "invalid_request")
        else
          match request.property "request_id", request.property "servers" with
          | .ok (some (.string id)), .ok (some (.array servers)) =>
              if ¬validRequestId id ∨ servers.length < 1 ∨ 4 < servers.length then
                .error (.error "invalid_request")
              else (servers.mapM parseServer).map fun servers => ⟨id, servers⟩
          | _, _ => .error (.error "invalid_request")

/-! ## Hosts -/

/-- What the script demands of a host: its length, its characters, and that no label is empty, too
long, or has a hyphen at an end. -/
structure ValidHost (host : Text) : Prop where
  short : host.length ≤ 253
  nonempty : host ≠ []
  chars : ∀ c ∈ host, isHostChar c = true
  labels : ∀ label ∈ host.splitOn '.', isInvalidLabel label = false

/-- The characters of a host are printable ASCII, so none of them is escaped. -/
theorem printable_of_isHostChar {c : Char} (host : isHostChar c = true) : ' ' ≤ c ∧ c ≤ '~' := by
  simp only [isHostChar, isAsciiAlnum, Bool.or_eq_true, Bool.and_eq_true, decide_eq_true_eq] at host
  obtain (((⟨least, most⟩ | ⟨least, most⟩) | ⟨least, most⟩) | rfl) | rfl := host
  · exact ⟨Char.le_trans (by decide) least, Char.le_trans most (by decide)⟩
  · exact ⟨Char.le_trans (by decide) least, Char.le_trans most (by decide)⟩
  · exact ⟨Char.le_trans (by decide) least, Char.le_trans most (by decide)⟩
  · decide
  · decide

/-- A text of characters of a host is ASCII. -/
theorem isAscii_of_isHostChar {text : Text} (chars : ∀ c ∈ text, isHostChar c = true) :
    JsonText.IsAscii text := by
  intro c mem
  have most : c.val.toNat ≤ '~'.val.toNat := (printable_of_isHostChar (chars c mem)).2
  exact lt_of_le_of_lt most (by decide)

/-- Nothing in a host is escaped. -/
theorem escape_of_isHostChar {c : Char} (host : isHostChar c = true) :
    JsonText.escape c = [c] := by
  unfold JsonText.escape
  split
  iterate 7 · exact absurd host (by decide)
  exact if_pos (printable_of_isHostChar host)

/-- Of the characters of a host only the dot and the hyphen are neither letters nor digits. -/
theorem isAsciiAlnum_of_isHostChar {c : Char} (host : isHostChar c = true) (dot : c ≠ '.')
    (hyphen : c ≠ '-') : isAsciiAlnum c = true := by
  simpa [isHostChar, dot, hyphen] using host

/-- A host of two characters or more begins and ends with a letter or a digit, with anything of the
class between. -/
theorem isHostName_append (c : Char) (front : Text) (last : Char) :
    isHostName (c :: (front ++ [last])) =
      (isAsciiAlnum c && front.all isHostChar && isAsciiAlnum last) := by
  cases front with
  | nil => simp [isHostName]
  | cons d front =>
      show (isAsciiAlnum c && ((d :: front) ++ [last]).dropLast.all isHostChar &&
        ((d :: front) ++ [last]).getLast?.any isAsciiAlnum) = _
      rw [List.dropLast_concat, List.getLast?_concat]
      rfl

namespace ValidHost

variable {host label : Text} {c : Char} (valid : ValidHost host)

include valid

/-- No label of a valid host is empty. -/
theorem label_ne_nil (mem : label ∈ host.splitOn '.') : label ≠ [] := by
  rintro rfl
  exact absurd (valid.labels [] mem) (by decide)

/-- No label of a valid host begins with a hyphen. -/
theorem label_head (mem : label ∈ host.splitOn '.') : label.head? ≠ some '-' := by
  have checked := valid.labels label mem
  simp only [isInvalidLabel, Bool.or_eq_false_iff, decide_eq_false_iff_not] at checked
  exact checked.1.2

/-- No label of a valid host ends with a hyphen. -/
theorem label_getLast (mem : label ∈ host.splitOn '.') : label.getLast? ≠ some '-' := by
  have checked := valid.labels label mem
  simp only [isInvalidLabel, Bool.or_eq_false_iff, decide_eq_false_iff_not] at checked
  exact checked.2

/-- A host begins with a letter or a digit. -/
theorem alnum_head {rest : Text} (text : host = c :: rest) : isAsciiAlnum c = true := by
  have dot : c ≠ '.' := by
    rintro rfl
    exact valid.label_ne_nil (text ▸ nil_mem_splitOn_cons rest) rfl
  have hyphen : c ≠ '-' := by
    rintro rfl
    obtain ⟨label, mem, head⟩ := exists_head_splitOn dot rest
    exact valid.label_head (text ▸ mem) head
  exact isAsciiAlnum_of_isHostChar (valid.chars c (by simp [text])) dot hyphen

/-- And it ends with one. -/
theorem alnum_getLast {front : Text} (text : host = front ++ [c]) : isAsciiAlnum c = true := by
  have dot : c ≠ '.' := by
    rintro rfl
    exact valid.label_ne_nil (text ▸ nil_mem_splitOn_append front) rfl
  have hyphen : c ≠ '-' := by
    rintro rfl
    obtain ⟨label, mem, last⟩ := exists_getLast_splitOn dot front
    exact valid.label_getLast (text ▸ mem) last
  exact isAsciiAlnum_of_isHostChar (valid.chars c (by simp [text])) dot hyphen

/-- The pattern of the app accepts every host that the script lets pass: its ends are those of
labels. -/
theorem accepts_hostName : isHostName host = true := by
  obtain ⟨c, rest, text⟩ := List.exists_cons_of_ne_nil valid.nonempty
  have head : isAsciiAlnum c = true := valid.alnum_head text
  obtain rfl | ⟨front, last, rfl⟩ := List.eq_nil_or_concat rest
  · rw [text]
    exact head
  · have whole : host = (c :: front) ++ [last] := by simp [text]
    have tail : isAsciiAlnum last = true := valid.alnum_getLast whole
    have chars : front.all isHostChar = true := by
      apply List.all_eq_true.mpr
      intro d mem
      exact valid.chars d (by simp [text, mem])
    rw [text, List.concat_eq_append, isHostName_append, head, chars, tail]
    rfl

/-- The app refuses no label of a host that the script lets pass. -/
theorem accepts_labels : (host.splitOn '.').any isRefusedLabel = false := by
  apply List.any_eq_false.mpr
  intro label mem
  have ascii : JsonText.IsAscii label :=
    isAscii_of_isHostChar fun c inside => valid.chars c (mem_of_mem_splitOn mem inside)
  have checked := valid.labels label mem
  simp only [isInvalidLabel, Bool.or_eq_false_iff, decide_eq_false_iff_not] at checked
  have short : label.length ≤ 63 := not_lt.mp checked.1.1.2
  simp [isRefusedLabel, JsonText.utf16Length_ascii ascii, valid.label_head mem,
    valid.label_getLast mem, valid.label_ne_nil mem, short]

end ValidHost

/-- What the script demands of a server: a valid host, and a port that is not zero. -/
structure ValidServer (server : Text × ℕ) : Prop where
  host : ValidHost server.1
  port_pos : 1 ≤ server.2
  port_le : server.2 ≤ 65535

/-- The host is what stands before the last colon of the target, the port is read from what stands
behind it, and both are valid. -/
theorem parseTarget_ok {t : DigitTable} {target host : Text} {port : ℕ}
    (accepted : parseTarget t target = .ok (host, port)) :
    ValidServer (host, port) ∧
      ∃ digits, target = host ++ ':' :: digits ∧ t.int digits = some port := by
  cases parts : target.rpartition ':' with
  | mk found behind =>
  obtain ⟨separator, digits⟩ := behind
  unfold parseTarget at accepted
  rw [parts] at accepted
  simp only at accepted
  split at accepted
  · cases accepted
  next text =>
  simp only [not_or, not_not, not_lt] at text
  obtain ⟨colon, short, nonempty, chars⟩ := text
  split at accepted
  · cases accepted
  next labels =>
  split at accepted
  · cases accepted
  split at accepted
  · cases accepted
  split at accepted
  · cases accepted
  next read =>
  split at accepted
  · next range =>
      obtain ⟨rfl, rfl⟩ := Prod.mk.inj (Except.ok.inj accepted)
      refine ⟨⟨⟨short, nonempty, List.all_eq_true.mp chars, ?_⟩, range.1, range.2⟩,
        digits, Text.rpartition_eq parts colon, read⟩
      intro label mem
      simpa using fun invalid => labels (List.any_eq_true.mpr ⟨label, mem, invalid⟩)
  · cases accepted

/-- A loop that has succeeded has one result for each item, each from an item of its own. -/
theorem mapM_ok_mem {ε α β : Type} {f : α → Except ε β} {items : List α} {results : List β}
    (mapped : items.mapM f = .ok results) :
    results.length = items.length ∧ ∀ result ∈ results, ∃ item ∈ items, f item = .ok result := by
  induction items generalizing results with
  | nil =>
      rw [List.mapM_nil] at mapped
      obtain rfl := Except.ok.inj mapped
      simp
  | cons item items ih =>
      rw [List.mapM_cons] at mapped
      cases first : f item with
      | error error =>
          rw [first] at mapped
          cases mapped
      | ok result =>
          cases more : items.mapM f with
          | error error =>
              rw [first, more] at mapped
              cases mapped
          | ok others =>
              rw [first, more] at mapped
              obtain rfl : result :: others = results := Except.ok.inj mapped
              obtain ⟨length, each⟩ := ih more
              refine ⟨congrArg Nat.succ length, ?_⟩
              intro other mem
              obtain rfl | behind := List.mem_cons.mp mem
              · exact ⟨item, List.mem_cons_self, first⟩
              · obtain ⟨source, inside, maps⟩ := each other behind
                exact ⟨source, List.mem_cons_of_mem item inside, maps⟩

/-- A loop over items that all succeed has the results in their order. -/
theorem mapM_map_ok {ε α β γ : Type} {f : β → Except ε γ} {g : α → β} {h : α → γ}
    {items : List α} (each : ∀ item ∈ items, f (g item) = .ok (h item)) :
    (items.map g).mapM f = .ok (items.map h) := by
  induction items with
  | nil => rfl
  | cons item items ih =>
      have rest : (items.map g).mapM f = .ok (items.map h) :=
        ih fun other mem => each other (List.mem_cons_of_mem item mem)
      rw [List.map_cons, List.mapM_cons, each item List.mem_cons_self, rest]
      rfl

/-- What `parseTargets` accepts are one to four valid servers. -/
theorem parseTargets_ok {t : DigitTable} {targets : List Text} {servers : List (Text × ℕ)}
    (accepted : parseTargets t targets = .ok servers) :
    1 ≤ servers.length ∧ servers.length ≤ 4 ∧
      ∀ server ∈ servers, ValidServer server := by
  unfold parseTargets at accepted
  split at accepted
  · next range =>
      obtain ⟨length, each⟩ := mapM_ok_mem accepted
      rw [length]
      refine ⟨range.1, range.2, ?_⟩
      intro server mem
      obtain ⟨target, -, parsed⟩ := each server mem
      exact (parseTarget_ok parsed).1
  · cases accepted

/-! ## Ids -/

/-- A number that is written with a width has just so many digits. -/
theorem length_hex (width n : ℕ) : (Text.hex width n).length = width := by simp [Text.hex]

/-- The digits of a hexadecimal number are lower case, as both sides write them. -/
theorem isHexDigit_of_mem_hex {width n : ℕ} {c : Char} (mem : c ∈ Text.hex width n) :
    isHexDigit c = true := by
  obtain ⟨place, -, rfl⟩ := List.mem_map.mp mem
  have digit : n / 16 ^ place % 16 < 16 := Nat.mod_lt _ (by norm_num)
  generalize n / 16 ^ place % 16 = d at digit
  interval_cases d <;> decide

/-- Five groups of hexadecimal digits are a valid id. -/
theorem validRequestId_intercalate {groups : List Text}
    (lengths : groups.map List.length = [8, 4, 4, 4, 12])
    (digits : ∀ group ∈ groups, ∀ c ∈ group, isHexDigit c = true) :
    validRequestId (String.ofList (['-'].intercalate groups)) = true := by
  have hyphen : ∀ group ∈ groups, '-' ∉ group := by
    intro group mem inside
    exact absurd (digits group mem '-' inside) (by decide)
  have nonempty : groups ≠ [] := by
    rintro rfl
    exact absurd lengths (by decide)
  have split : (['-'].intercalate groups).splitOn '-' = groups :=
    List.splitOn_intercalate '-' hyphen nonempty
  unfold validRequestId
  simp only [String.toList_ofList, split, lengths]
  simpa using digits

/-- The groups of an id are cut from its digits. -/
theorem mem_of_mem_uuidGroups {hex group : Text} {c : Char} (mem : group ∈ uuidGroups hex)
    (inside : c ∈ group) : c ∈ hex := by
  simp only [uuidGroups, List.mem_cons, List.not_mem_nil, or_false] at mem
  obtain rfl | rfl | rfl | rfl | rfl := mem
  · exact List.mem_of_mem_take inside
  · exact List.mem_of_mem_drop (List.mem_of_mem_take inside)
  · exact List.mem_of_mem_drop (List.mem_of_mem_take inside)
  · exact List.mem_of_mem_drop (List.mem_of_mem_take inside)
  · exact List.mem_of_mem_drop inside

/-- An id of the script is one that the app accepts: five groups of hexadecimal digits. -/
theorem validRequestId_uuid4 (random : BitVec 128) :
    validRequestId (String.ofList (uuid4 random)) = true := by
  apply validRequestId_intercalate
  · simp [uuidGroups, length_hex]
  · intro group mem c inside
    exact isHexDigit_of_mem_hex (mem_of_mem_uuidGroups mem inside)

/-- The digits of an id are characters that no text has to escape. -/
theorem isHostChar_of_isHexDigit {c : Char} (digit : isHexDigit c = true) :
    isHostChar c = true := by
  simp only [isHexDigit, Bool.or_eq_true, Bool.and_eq_true, decide_eq_true_eq] at digit
  obtain ⟨least, most⟩ | ⟨least, most⟩ := digit
  · simp [isHostChar, isAsciiAlnum, least, most]
  · have letter : c ≤ 'z' := Char.le_trans most (by decide)
    simp [isHostChar, isAsciiAlnum, least, letter]

/-- All characters of an id are digits and hyphens. -/
theorem isHostChar_of_mem_uuid4 {random : BitVec 128} {c : Char} (mem : c ∈ uuid4 random) :
    isHostChar c = true := by
  obtain rfl | ⟨group, among, inside⟩ := mem_intercalate mem
  · rfl
  · exact isHostChar_of_isHexDigit (isHexDigit_of_mem_hex (mem_of_mem_uuidGroups among inside))

/-- An id is 36 characters long, hyphens included. -/
theorem length_uuid4 (random : BitVec 128) : (uuid4 random).length = 36 := by
  simp [uuid4, uuidGroups, List.intercalate, length_hex]

/-! ## The text of the request -/

/-- A host is quoted without escapes, so its text is two characters longer. -/
theorem length_quote {text : Text} (chars : ∀ c ∈ text, isHostChar c = true) :
    (JsonText.quote text).length = text.length + 2 := by
  have plain : text.flatMap JsonText.escape = text := by
    rw [List.flatMap_congr fun c mem => escape_of_isHostChar (chars c mem)]
    exact List.flatMap_singleton' text
  simp [JsonText.quote, plain]

/-- A list is as long as its items, with a comma or a bracket for each. -/
theorem length_dumpsItems_le {items : List JsonText.PyValue} {n : ℕ}
    (each : ∀ item ∈ items, (JsonText.dumps item).length ≤ n) :
    (JsonText.dumpsItems items).length ≤ items.length * (n + 1) := by
  induction items with
  | nil => simp [JsonText.dumpsItems]
  | cons item items ih =>
      have first : (JsonText.dumps item).length ≤ n := each item List.mem_cons_self
      cases items with
      | nil =>
          simp [JsonText.dumpsItems]
          omega
      | cons next items =>
          have rest := ih fun other mem => each other (List.mem_cons_of_mem item mem)
          simp only [JsonText.dumpsItems_cons, List.length_append, List.length_cons] at rest ⊢
          rw [Nat.succ_mul]
          omega

/-- The text of a server is as long as the longest host and the longest port make it. -/
theorem length_serverValue {server : Text × ℕ} (valid : ValidServer server) :
    (JsonText.dumps (serverValue server)).length ≤ 277 := by
  have host : (JsonText.quote server.1).length = server.1.length + 2 :=
    length_quote valid.host.chars
  have port : (Text.ofNat server.2).length ≤ 5 := by
    rw [JsonText.ofNat_eq, Nat.length_toDigits_le_iff (by norm_num) (by norm_num)]
    exact lt_of_le_of_lt valid.port_le (by norm_num)
  have hostName : (JsonText.quote "host".toList).length = 6 := by decide
  have portName : (JsonText.quote "port".toList).length = 6 := by decide
  have short := valid.host.short
  have text : (JsonText.dumps (serverValue server)).length =
      (JsonText.quote "host".toList).length + (JsonText.quote server.1).length +
        (JsonText.quote "port".toList).length + (Text.ofNat server.2).length + 5 := by
    have number : Text.ofInt server.2 = Text.ofNat server.2 := rfl
    simp only [serverValue, JsonText.dumps, JsonText.dumpsMembers, number, List.length_cons,
      List.length_append, List.length_nil]
    omega
  omega

/-- The text of a request is never longer than the app accepts. -/
theorem length_encodeRequest {random : BitVec 128} {servers : List (Text × ℕ)}
    (few : servers.length ≤ 4) (valid : ∀ server ∈ servers, ValidServer server) :
    (encodeRequest (uuid4 random) servers).length ≤ 4096 := by
  have id : (JsonText.quote (uuid4 random)).length = 38 := by
    rw [length_quote fun _ mem => isHostChar_of_mem_uuid4 mem, length_uuid4]
  have items : (JsonText.dumpsItems (servers.map serverValue)).length ≤ servers.length * 278 := by
    rw [← List.length_map serverValue]
    apply length_dumpsItems_le
    intro item mem
    obtain ⟨server, among, rfl⟩ := List.mem_map.mp mem
    exact length_serverValue (valid server among)
  have idName : (JsonText.quote "request_id".toList).length = 12 := by decide
  have serversName : (JsonText.quote "servers".toList).length = 9 := by decide
  have text : (encodeRequest (uuid4 random) servers).length =
      (JsonText.quote "request_id".toList).length + (JsonText.quote (uuid4 random)).length +
        (JsonText.quote "servers".toList).length +
        (JsonText.dumpsItems (servers.map serverValue)).length + 7 := by
    simp only [encodeRequest, requestValue, JsonText.dumps, JsonText.dumpsMembers,
      List.length_cons, List.length_append, List.length_nil]
    omega
  omega

/-! ## What the app makes of it -/

/-- One of the servers as the app has it. -/
def serverJson (server : Text × ℕ) : Json :=
  .object [("host", .string (String.ofList server.1)), ("port", .number (.finite server.2))]

/-- The value of a server, as the app reads it. -/
theorem toJson_serverValue {server : Text × ℕ} (valid : ValidServer server) :
    (serverValue server).toJson = serverJson server := by
  have bits : |(server.2 : ℤ)| < 2 ^ 53 := by
    have most : server.2 ≤ 65535 := valid.port_le
    rw [Nat.abs_cast]
    omega
  have port : JsNumber.ofRat ((server.2 : ℤ) : ℚ) = .finite (server.2 : ℤ) :=
    JsNumber.ofRat_intCast bits
  simp [serverValue, serverJson, JsonText.PyValue.toJson, JsonText.PyValue.toJsonMembers] at port ⊢
  exact port

/-- The request as the app has it. -/
def requestJson (id : Text) (servers : List (Text × ℕ)) : Json :=
  .object [("request_id", .string (String.ofList id)),
    ("servers", .array (servers.map serverJson))]

/-- The value of a request, as the app reads it. -/
theorem toJson_requestValue {id : Text} {servers : List (Text × ℕ)}
    (valid : ∀ server ∈ servers, ValidServer server) :
    (requestValue id servers).toJson = requestJson id servers := by
  have items : JsonText.PyValue.toJsonItems (servers.map serverValue) =
      servers.map serverJson := by
    rw [JsonText.toJsonItems_eq_map, List.map_map]
    exact List.map_congr_left fun server mem => toJson_serverValue (valid server mem)
  simp [requestValue, requestJson, JsonText.PyValue.toJson, JsonText.PyValue.toJsonMembers, items]

/-- The server that the app measures. -/
def probeServer (server : Text × ℕ) : ProbeServer := ⟨String.ofList server.1, server.2⟩

/-- The app accepts a valid server with the host and the port that it has. -/
theorem parseServer_serverJson {server : Text × ℕ} (valid : ValidServer server) :
    parseServer (serverJson server) = .ok (probeServer server) := by
  have truthy : (serverJson server).isTruthy = true := rfl
  have host : (serverJson server).property "host" =
      .ok (some (.string (String.ofList server.1))) := rfl
  have port : (serverJson server).property "port" =
      .ok (some (.number (.finite server.2))) := rfl
  have integer : (JsNumber.finite (server.2 : ℚ)).integer? = some (server.2 : ℤ) := by
    simp [JsNumber.integer?]
  have short : JsonText.utf16Length server.1 ≤ 253 := by
    rw [JsonText.utf16Length_ascii (isAscii_of_isHostChar valid.host.chars)]
    exact valid.host.short
  have least : ¬(server.2 : ℤ) < 1 := by
    have := valid.port_pos
    omega
  have most : ¬65535 < (server.2 : ℤ) := by
    have := valid.port_le
    omega
  have accepted : ¬(253 < JsonText.utf16Length server.1 ∨ ¬isHostName server.1 ∨
      (server.1.splitOn '.').any isRefusedLabel) := by
    simp [valid.host.accepts_hostName, short, valid.host.accepts_labels]
  unfold parseServer
  simp only [truthy, host, port, String.toList_ofList, integer, if_neg accepted, least, most]
  simp [probeServer]

/-- **What the script lets pass the app lets pass.**  Whatever targets the command line has and
whatever the random bits of the id are, the text that the script writes is parsed to that id and to
the same hosts and ports, in their order. -/
theorem parseRequest_encodeRequest {t : DigitTable} {targets : List Text}
    {servers : List (Text × ℕ)} (random : BitVec 128)
    (accepted : parseTargets t targets = .ok servers) :
    parseRequest (String.ofList (encodeRequest (uuid4 random) servers)) =
      .ok ⟨String.ofList (uuid4 random), servers.map probeServer⟩ := by
  obtain ⟨least, most, valid⟩ := parseTargets_ok accepted
  have short : ¬4096 < JsonText.utf16Length (encodeRequest (uuid4 random) servers) := by
    rw [encodeRequest, JsonText.utf16Length_dumps]
    exact not_lt.mpr (length_encodeRequest most valid)
  have parsed : JsonText.parse (encodeRequest (uuid4 random) servers) =
      some (requestJson (uuid4 random) servers) := by
    rw [encodeRequest, JsonText.parse_dumps, toJson_requestValue valid]
  have truthy : (requestJson (uuid4 random) servers).isTruthy = true := rfl
  have id : (requestJson (uuid4 random) servers).property "request_id" =
      .ok (some (.string (String.ofList (uuid4 random)))) := rfl
  have items : (requestJson (uuid4 random) servers).property "servers" =
      .ok (some (.array (servers.map serverJson))) := rfl
  have count : ¬(¬validRequestId (String.ofList (uuid4 random)) = true ∨
      (servers.map serverJson).length < 1 ∨ 4 < (servers.map serverJson).length) := by
    rw [List.length_map]
    rintro (refused | none | many)
    · exact refused (validRequestId_uuid4 random)
    · omega
    · omega
  have each : (servers.map serverJson).mapM parseServer = .ok (servers.map probeServer) :=
    mapM_map_ok fun server mem => parseServer_serverJson (valid server mem)
  unfold parseRequest
  simp only [String.toList_ofList, if_neg short, parsed, truthy, id, items, if_neg count, each]
  rfl

/-- The digits of ASCII. -/
def DigitTable.ascii : DigitTable where
  isDigit := Char.isDigit
  decimal c := if c.isDigit then some (c.toNat - '0'.toNat) else none
  maxDigits := some 4300

/-- A name and a dotted address, under an id of which all the random bits are zero. -/
theorem parseRequest_encodeRequest_two :
    parseRequest (String.ofList (encodeRequest (uuid4 0)
        [("stun.example.org".toList, 3478), ("192.0.2.1".toList, 53)])) =
      .ok ⟨String.ofList (uuid4 0), [⟨"stun.example.org", 3478⟩, ⟨"192.0.2.1", 53⟩]⟩ := by
  have accepted : parseTargets .ascii ["stun.example.org:3478".toList, "192.0.2.1:0053".toList] =
      .ok [("stun.example.org".toList, 3478), ("192.0.2.1".toList, 53)] := by
    rfl
  have read := parseRequest_encodeRequest 0 accepted
  simpa only [List.map_cons, List.map_nil, probeServer, String.ofList_toList] using read

/-! ## What the app lets pass -/

end ReverseTether
