import Mathlib.Tactic

/-!
# The upstream resolver

Without `--dns` the relay takes the resolver of the system.  On Linux that is the first address
that `/etc/resolv.conf` names; on Windows the system returns a list, and the loop over it skips
the addresses that are of no use as an upstream.  `configure` then rejects such an address,
wherever it comes from.

**What the two differ in** is only the place of that test.  The loop on Windows tests each
address before it settles for one, Linux settles first: `firstUsable_eq` and `toOption_configure`
are the two halves, and `configure_agrees_iff` says on which files that can be told.

The files and the lists of the two systems are parameters of the same theorem: a resolver file
is a list of addresses once it is parsed, and so is what Windows returns, so both programs are
compared on one list.

A file with an unusable address in front of a usable one is where they part: Linux stops there
with an error, and Windows goes on to the next.
-/

namespace ReverseTether

/-- `std::net::Ipv4Addr`: the four octets, in the order of the dotted text. -/
structure Ipv4Addr where
  octet₀ : UInt8
  octet₁ : UInt8
  octet₂ : UInt8
  octet₃ : UInt8
  deriving DecidableEq, Repr

/-- `std::net::SocketAddrV4`: the address and the port of the upstream resolver. -/
structure SocketAddrV4 where
  ip : Ipv4Addr
  port : UInt16
  deriving DecidableEq, Repr

namespace Ipv4Addr

/-- `u32::from(address)`: the first octet is the most significant one. -/
def toU32 (a : Ipv4Addr) : ℕ :=
  a.octet₀.toNat * 2 ^ 24 + a.octet₁.toNat * 2 ^ 16 + a.octet₂.toNat * 2 ^ 8 + a.octet₃.toNat

/-- `is_unspecified`: `0.0.0.0`, which no datagram can be sent to. -/
def isUnspecified (a : Ipv4Addr) : Bool := a.toU32 == 0

/-- `is_multicast`: `224.0.0.0/4`, from the first octet alone. -/
def isMulticast (a : Ipv4Addr) : Bool := 224 ≤ a.octet₀ && a.octet₀ ≤ 239

/-- `is_broadcast`: `255.255.255.255`, and no broadcast address of a network. -/
def isBroadcast (a : Ipv4Addr) : Bool := a.toU32 == 0xffffffff

/-- `read_number(10, Some(3), false)` on all of `word`. -/
def readOctet (word : List Char) : Option UInt8 :=
  if word = [] ∨ 3 < word.length then none
  else if !word.all Char.isDigit then none
  else if word.head? = some '0' ∧ 1 < word.length then none
  else
    let value := word.foldl (fun value c ↦ 10 * value + (c.toNat - '0'.toNat)) 0
    if value ≤ 255 then some (UInt8.ofNat value) else none

/-- `word.parse::<Ipv4Addr>().ok()`. -/
def parse (word : List Char) : Option Ipv4Addr :=
  match word.splitOn '.' with
  | [a, b, c, d] => do return ⟨← readOctet a, ← readOctet b, ← readOctet c, ← readOctet d⟩
  | _ => none

end Ipv4Addr

namespace Dns

/-! ## The text of `resolv.conf` -/

/-- `char::is_whitespace`. -/
def isWhitespace (c : Char) : Bool :=
  let n := c.toNat
  (9 ≤ n && n ≤ 13) || n == 0x20 || n == 0x85 || n == 0xa0 || n == 0x1680 ||
    (0x2000 ≤ n && n ≤ 0x200a) || n == 0x2028 || n == 0x2029 || n == 0x202f || n == 0x205f ||
    n == 0x3000

/-- A carriage return before the line feed belongs to the line end. -/
def stripReturn (line : List Char) : List Char :=
  if line.getLast? = some '\r' then line.dropLast else line

/-- `text.lines()`.  What follows the last line feed is a line unless it is empty, and keeps its
carriage return. -/
def lines (text : List Char) : List (List Char) :=
  let pieces := text.splitOn '\n'
  let rest := pieces.getLast?.getD []
  pieces.dropLast.map stripReturn ++ if rest = [] then [] else [rest]

/-- `line.split_whitespace()`. -/
def splitWhitespace (line : List Char) : List (List Char) :=
  (line.splitOnP isWhitespace).filter (· ≠ [])

/-- The closure of `parse_resolver`. -/
def resolverOf (line : List Char) : Option Ipv4Addr :=
  match splitWhitespace (line.takeWhile (· ≠ '#')) with
  | keyword :: word :: _ =>
      if keyword ≠ "nameserver".toList then none else Ipv4Addr.parse word
  | _ => none

/-- `parse_resolver`: the first line that names an IPv4 resolver; the lines behind it are not
looked at. -/
def parseResolver (text : List Char) : Option Ipv4Addr := (lines text).findSome? resolverOf

/-! ## The errors -/

/-- The kinds of `io::Error` that the module makes or passes on. -/
inductive ErrorKind
  | invalidInput
  | alreadyExists
  | notFound
  | other
  deriving DecidableEq, Repr

/-- `io::Error`: one with a kind and a text of the module, or one that carries the code of the
system. -/
inductive Error
  | new (kind : ErrorKind) (message : String)
  /-- `from_raw_os_error`. -/
  | os (code : ℕ)
  deriving DecidableEq, Repr

/-- `no_resolver`: what is reported when the system names no address at all. -/
def noResolver : Error := .new .notFound "No IPv4 DNS resolver; specify --dns ADDRESS"

/-! ## The resolver of the system -/

/-- `parse_resolver(&read_to_string("/etc/resolv.conf")?).ok_or_else(no_resolver)`. -/
def systemResolver (file : Except Error (List Char)) : Except Error Ipv4Addr :=
  match file with
  | .error error => .error error
  | .ok text => ((parseResolver text).map .ok).getD (.error noResolver)

/-- What a call of `GetNetworkParams` comes to: the buffer was too small, it failed, or it filled
in the list of servers. -/
inductive NetworkParams
  | bufferOverflow
  | failed (code : ℕ)
  /-- The address strings of the server list, each a field that a zero byte ends. -/
  | success (servers : List (List UInt8))

/-- Each byte is one character. -/
def recordText (record : List UInt8) : List Char :=
  (record.takeWhile (· ≠ 0)).map fun c ↦ Char.ofNat c.toNat

/-- `VIRTUAL_DNS`, `10.0.0.3`: the address under which the device sees the resolver. -/
def virtualDns : ℕ := 0x0a000003

/-- The walk along the server list. -/
def firstUsable : List (List UInt8) → Option Ipv4Addr
  | [] => none
  | record :: next =>
      match Ipv4Addr.parse (recordText record) with
      | some address =>
          if !address.isUnspecified && !address.isMulticast && !address.isBroadcast &&
              address.toU32 != virtualDns then
            some address
          else firstUsable next
      | none => firstUsable next

/-- `for _ in 0..tries`, when the next call is number `call`. -/
def askSystem (getNetworkParams : ℕ → NetworkParams) : ℕ → ℕ → Except Error Ipv4Addr
  | 0, _ =>
      .error (.new .other
        "DNS configuration changed repeatedly; retry or specify --dns ADDRESS")
  | tries + 1, call =>
      match getNetworkParams call with
      | .bufferOverflow => askSystem getNetworkParams tries (call + 1)
      | .failed code => .error (.os code)
      | .success servers => ((firstUsable servers).map .ok).getD (.error noResolver)

/-- `system_resolver` on Windows. -/
def systemResolverWindows (getNetworkParams : ℕ → NetworkParams) : Except Error Ipv4Addr :=
  askSystem getNetworkParams 3 0

/-! ## `configure` -/

/-- `UPSTREAM`. -/
abbrev Upstream := Option SocketAddrV4

/-- `system` is what `system_resolver` returns. -/
def configure (system : Except Error Ipv4Addr) (explicit : Option Ipv4Addr)
    (upstream : Upstream) : Except Error SocketAddrV4 × Upstream :=
  match (explicit.map .ok).getD system with
  | .error error => (.error error, upstream)
  | .ok address =>
      if address.toU32 == virtualDns || address.isUnspecified || address.isMulticast ||
          address.isBroadcast then
        (.error (.new .invalidInput "Invalid upstream DNS address"), upstream)
      else
        match upstream with
        | some _ => (.error (.new .alreadyExists "DNS already configured"), upstream)
        | none => (.ok ⟨address, 53⟩, some ⟨address, 53⟩)

/-! ## The lists of the two systems -/

/-- The resolvers that the file lists, in order. -/
def resolvers (text : List Char) : List Ipv4Addr := (lines text).filterMap resolverOf

/-- The resolvers that the server list has, in order. -/
def serverAddresses (servers : List (List UInt8)) : List Ipv4Addr :=
  servers.filterMap fun record ↦ Ipv4Addr.parse (recordText record)

/-- An address that may be an upstream. -/
def usable (a : Ipv4Addr) : Bool :=
  !(a.toU32 == virtualDns || a.isUnspecified || a.isMulticast || a.isBroadcast)

theorem parseResolver_eq (text : List Char) : parseResolver text = (resolvers text).head? :=
  List.head?_filterMap.symm

example : parseResolver ("# nameserver 1.1.1.1\nsearch local\nnameserver ::1\n" ++
    "nameserver 127.0.0.53 # stub\n").toList = some ⟨127, 0, 0, 53⟩ := by
  decide

/-- The test in the loop on Windows is the one of `configure`. -/
theorem usable_eq (a : Ipv4Addr) :
    usable a = (!a.isUnspecified && !a.isMulticast && !a.isBroadcast &&
      a.toU32 != virtualDns) := by
  simp only [usable, bne, Bool.not_or, Bool.and_assoc, Bool.and_comm]

/-- **Windows tests before it settles for an address.**  The walk along the list leaves at the
first record that passes, so that an unusable resolver in front of a usable one is stepped over. -/
theorem firstUsable_eq (servers : List (List UInt8)) :
    firstUsable servers = (serverAddresses servers).find? usable := by
  induction servers with
  | nil => rfl
  | cons record next ih =>
      unfold firstUsable
      cases read : Ipv4Addr.parse (recordText record) with
      | none =>
          rw [show serverAddresses (record :: next) = _ from List.filterMap_cons_none read]
          exact ih
      | some address =>
          rw [show serverAddresses (record :: next) = _ from List.filterMap_cons_some read,
            List.find?_cons]
          simp only [← usable_eq]
          cases usable address with
          | true => rfl
          | false => exact ih

/-- The calls that find the storage too small do not matter while there are less than `tries`. -/
theorem askSystem_success {getNetworkParams : ℕ → NetworkParams} {servers : List (List UInt8)}
    {tries retries call : ℕ} (room : retries < tries)
    (overflows : ∀ i < retries, getNetworkParams (call + i) = .bufferOverflow)
    (answer : getNetworkParams (call + retries) = .success servers) :
    askSystem getNetworkParams tries call =
      (((serverAddresses servers).find? usable).map .ok).getD (.error noResolver) := by
  induction tries generalizing retries call with
  | zero => exact absurd room (Nat.not_lt_zero _)
  | succ tries ih =>
      cases retries with
      | zero =>
          unfold askSystem
          rw [show getNetworkParams call = _ from answer, ← firstUsable_eq]
      | succ retries =>
          have first : getNetworkParams call = .bufferOverflow := overflows 0 (Nat.succ_pos _)
          have step (i : ℕ) : call + 1 + i = call + (i + 1) := by omega
          unfold askSystem
          rw [first]
          apply ih (Nat.lt_of_succ_lt_succ room)
          · intro i below
            rw [step]
            exact overflows (i + 1) (Nat.succ_lt_succ below)
          · rw [step]
            exact answer

/-- `configure(None)` in a relay that just started. -/
theorem toOption_configure (system : Except Error Ipv4Addr) :
    (configure system none none).1.toOption =
      (system.toOption.filter usable).map (⟨·, 53⟩) := by
  cases system with
  | error error => rfl
  | ok address =>
      cases useful : usable address with
      | true =>
          have accepted : configure (.ok address) none none =
              (.ok ⟨address, 53⟩, some ⟨address, 53⟩) :=
            if_neg (ne_true_of_eq_false ((Bool.not_eq_true' _).mp useful))
          have kept : (some address).filter usable = some address := if_pos useful
          rw [accepted]
          exact (congrArg (Option.map fun ip ↦ (⟨ip, 53⟩ : SocketAddrV4)) kept).symm
      | false =>
          have rejected : configure (.ok address) none none =
              (.error (.new .invalidInput "Invalid upstream DNS address"), none) :=
            if_pos ((Bool.not_eq_false' _).mp useful)
          have dropped : (some address).filter usable = none := if_neg (ne_true_of_eq_false useful)
          rw [rejected]
          exact (congrArg (Option.map fun ip ↦ (⟨ip, 53⟩ : SocketAddrV4)) dropped).symm

theorem toOption_getD (address : Option Ipv4Addr) :
    ((address.map .ok).getD (.error noResolver) : Except Error Ipv4Addr).toOption = address := by
  cases address <;> rfl

/-- The first of a list is the first one that satisfies `p` unless it stands before that. -/
theorem head?_filter_eq_find?_iff {α : Type} {p : α → Bool} {listed : List α} :
    listed.head?.filter p = listed.find? p ↔
      (∀ a ∈ listed.head?, p a) ∨ ∀ a ∈ listed, ¬p a := by
  cases listed with
  | nil => simp
  | cons first rest =>
      cases useful : p first with
      | true => simp [useful, Option.filter]
      | false => simp [useful, Option.filter, @eq_comm _ none, List.find?_eq_none]

/-! ## Agreement -/

/-- `configure(None)` with this system settles for the first usable address of the list, and
fails when there is none. -/
def Selects (listed : List Ipv4Addr) (system : Except Error Ipv4Addr) : Prop :=
  (configure system none none).1.toOption = (listed.find? usable).map (⟨·, 53⟩)

/-- The system hands out the server list, at the latest when it is asked a third time. -/
def Answers (getNetworkParams : ℕ → NetworkParams) (servers : List (List UInt8)) : Prop :=
  ∃ retries < 3, (∀ call < retries, getNetworkParams call = .bufferOverflow) ∧
    getNetworkParams retries = .success servers

/-- The two systems select alike: each settles for the first usable address of its list, and where
the lists are the same the configured address is, too. -/
structure Agrees (text : List Char) (servers : List (List UInt8)) : Prop where
  linux : Selects (resolvers text) (systemResolver (.ok text))
  windows : ∀ getNetworkParams, Answers getNetworkParams servers →
    Selects (serverAddresses servers) (systemResolverWindows getNetworkParams)
  same : resolvers text = serverAddresses servers → ∀ getNetworkParams,
    Answers getNetworkParams servers →
      (configure (systemResolver (.ok text)) none none).1.toOption =
        (configure (systemResolverWindows getNetworkParams) none none).1.toOption

theorem selects_windows {getNetworkParams : ℕ → NetworkParams} {servers : List (List UInt8)}
    (answers : Answers getNetworkParams servers) :
    Selects (serverAddresses servers) (systemResolverWindows getNetworkParams) := by
  obtain ⟨retries, room, overflows, answer⟩ := answers
  have asked := @askSystem_success getNetworkParams servers 3 retries 0 room
    (by simpa using overflows) (by simpa using answer)
  unfold Selects systemResolverWindows
  rw [toOption_configure, asked, toOption_getD]
  cases found : (serverAddresses servers).find? usable with
  | none => rfl
  | some address => simp [Option.filter, List.find?_some found]

theorem selects_linux (text : List Char) :
    Selects (resolvers text) (systemResolver (.ok text)) ↔
      (resolvers text).head?.filter usable = (resolvers text).find? usable := by
  have injective : Function.Injective fun ip : Ipv4Addr ↦ (⟨ip, 53⟩ : SocketAddrV4) := by
    rintro _ _ ⟨⟩
    rfl
  unfold Selects systemResolver
  rw [toOption_configure, toOption_getD, parseResolver_eq]
  exact (Option.map_injective injective).eq_iff

/-- **The two systems select alike exactly on the files whose first resolver is usable, or that
list no usable one.**  Windows always selects the first usable one; a file with an unusable
resolver before it makes Linux fail. -/
theorem configure_agrees_iff (text : List Char) (servers : List (List UInt8)) :
    Agrees text servers ↔
      (∀ a ∈ (resolvers text).head?, usable a) ∨ ∀ a ∈ resolvers text, ¬usable a := by
  rw [← head?_filter_eq_find?_iff, ← selects_linux]
  constructor
  · intro agrees
    exact agrees.linux
  · intro linux
    refine ⟨linux, fun _ ↦ selects_windows, ?_⟩
    intro listed getNetworkParams answers
    exact linux.trans (listed ▸ (selects_windows answers).symm)

/-- The file names the virtual address first, and a resolver on the Internet after it.  The
resolver of the other platforms takes the first address that it can parse, and then refuses it. -/
theorem configure_not_agrees :
    ¬Agrees "nameserver 10.0.0.3\nnameserver 1.1.1.1\n".toList [] := by
  intro agrees
  have linux := agrees.linux
  revert linux
  unfold Selects
  decide

end Dns

end ReverseTether
