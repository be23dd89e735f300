import Lightsocks.Lib.CText

/-!
# Addresses on the command line

`BAddr_Parse2` and `BIPAddr_Resolve` of `system/BAddr.h`, and the part of `process_arguments`
that `startTun2socks` can reach: it leaves the IPv6 address, the user name and the password
file unset. A C string is the list of its bytes, without the terminating `0`. `getaddrinfo` is
a parameter: the bytes of the first address it finds, for a family, a name, and whether the
name has to be numeric. A port is the number that goes over the wire.
-/

namespace Lightsocks.Tunnel

open Lightsocks.Lib

/-! ## Addresses -/

inductive AddrType
  | ipv4
  | ipv6
  deriving DecidableEq, Repr

structure IPAddr where
  type : AddrType
  ip : List UInt8
  deriving DecidableEq, Repr

structure Addr extends IPAddr where
  port : UInt16
  deriving DecidableEq, Repr

abbrev Getaddrinfo := AddrType → List UInt8 → Bool → Option (List UInt8)

/-- The host and the port text: `'['` begins an IPv6 address, which `']'` ends; an IPv4
address ends at the first `':'`. -/
def splitAddr (str : List UInt8) : Option (AddrType × List UInt8 × List UInt8) :=
  match str with
  | 91 :: rest =>
    match rest.dropWhile (· != 93) with
    | 93 :: 58 :: port => some (.ipv6, rest.takeWhile (· != 93), port)
    | _ => none
  | str =>
    match str.dropWhile (· != 58) with
    | 58 :: port => some (.ipv4, str.takeWhile (· != 58), port)
    | _ => none

/-- The port text, in a buffer of `6` bytes, as a 16-bit number. -/
def parsePort (portStr : List UInt8) : Option UInt16 :=
  if portStr.length ≥ 6 then none
  else
    let (convRes, err) := strtol portStr
    if portStr = [] ∨ err ≠ [] then none
    else if convRes < 0 ∨ convRes > 65535 then none
    else some (UInt16.ofNat convRes.toNat)

/-- `BAddr_Parse2`. `nameLen` is the size of the buffer for the name, if there is one. -/
def bAddrParse2 (getaddrinfo : Getaddrinfo) (str : List UInt8) (nameLen : Option Nat)
    (noresolve : Bool) : Option Addr := do
  if str.length < 1 ∨ str.length > 1000 then none
  let (type, addrStr, portStr) ← splitAddr str
  if addrStr.length ≥ 128 then none
  let port ← parsePort portStr
  let ip ← getaddrinfo type addrStr noresolve
  if nameLen.any fun n => addrStr.length ≥ n then none
  return { type, ip, port }

/-- `BIPAddr_Resolve`. -/
def bIPAddrResolve (getaddrinfo : Getaddrinfo) (str : List UInt8) (noresolve : Bool) :
    Option IPAddr := do
  let (type, addrStr) :=
    if str.head? = some 91 ∧ str.getLast? = some 93 then
      (AddrType.ipv6, (str.drop 1).take (str.length - 2))
    else (AddrType.ipv4, str)
  if addrStr.length > 128 then none
  let ip ← getaddrinfo type addrStr noresolve
  return { type, ip }

/-- The members of `options` that `startTun2socks` is given. -/
structure OptionTexts where
  netifIpaddr : List UInt8
  netifNetmask : List UInt8
  socksServerAddr : List UInt8
  udpgwRemoteServerAddr : Option (List UInt8)
  deriving DecidableEq, Repr

/-- What `process_arguments` sets. -/
structure Arguments where
  netifIpaddr : IPAddr
  netifNetmask : IPAddr
  socksServerAddr : Addr
  udpgwRemoteServerAddr : Option Addr
  deriving DecidableEq, Repr

/-- An interface address has to be IPv4. -/
def resolveNetif (getaddrinfo : Getaddrinfo) (str : List UInt8) : Option IPAddr := do
  let addr ← bIPAddrResolve getaddrinfo str false
  if addr.type ≠ .ipv4 then none
  return addr

/-- `process_arguments`. -/
def processArguments (getaddrinfo : Getaddrinfo) (options : OptionTexts) : Option Arguments := do
  let netifIpaddr ← resolveNetif getaddrinfo options.netifIpaddr
  let netifNetmask ← resolveNetif getaddrinfo options.netifNetmask
  let socksServerAddr ← bAddrParse2 getaddrinfo options.socksServerAddr none false
  match options.udpgwRemoteServerAddr with
  | none => return { netifIpaddr, netifNetmask, socksServerAddr, udpgwRemoteServerAddr := none }
  | some str =>
    let addr ← bAddrParse2 getaddrinfo str none false
    return { netifIpaddr, netifNetmask, socksServerAddr, udpgwRemoteServerAddr := some addr }

/-! ## The port of an address -/

/-- A port is accepted exactly if it is up to five digits of a 16-bit number, when nothing but
digits is asked about. -/
theorem parsePort_digits {s : List UInt8} (hne : s ≠ []) (h : ∀ c ∈ s, isdigit c = true) :
    parsePort s =
      if s.length ≤ 5 ∧ decimal s ≤ 65535 then some (UInt16.ofNat (decimal s)) else none := by
  have hread := strtol_digits hne h (show ∀ c ∈ ([] : List UInt8).head?, isdigit c = false by simp)
  rw [List.append_nil] at hread
  unfold parsePort
  rw [hread]
  dsimp only
  by_cases hlen : s.length ≤ 5
  · rw [if_neg (by omega), if_neg (by simp [hne])]
    by_cases hval : decimal s ≤ 65535
    · rw [if_neg (by omega), if_pos ⟨hlen, hval⟩, Int.toNat_natCast]
    · rw [if_pos (by omega), if_neg fun hand => hval hand.2]
  · rw [if_pos (by omega), if_neg fun hand => hlen hand.1]

/-- A text with a byte that is no ASCII is refused. -/
theorem parsePort_high {s : List UInt8} {c : UInt8} (hc : c ∈ s) (hhigh : ¬ c.toNat < 128) :
    parsePort s = none := by
  have hne : s ≠ [] := List.ne_nil_of_mem hc
  have herr : (strtol s).2 ≠ [] := fun h => hhigh (ascii_of_strtol hne h c hc)
  unfold parsePort
  split
  · rfl
  · dsimp only
    rw [if_pos (Or.inr herr)]

/-- An IPv4 address and a port, with nothing in the host that the parser stops at. -/
theorem splitAddr_ipv4 {host port : List UInt8} (h91 : host.head? ≠ some 91)
    (h58 : 58 ∉ host) :
    splitAddr (host ++ 58 :: port) = some (.ipv4, host, port) := by
  have hkeep : ∀ c ∈ host, (c != 58) = true := by
    intro c hc
    have hne : c ≠ 58 := fun heq => h58 (heq ▸ hc)
    simpa using hne
  have htake : (host ++ 58 :: port).takeWhile (· != 58) = host := by
    rw [List.takeWhile_append_of_pos hkeep]
    simp
  have hdrop : (host ++ 58 :: port).dropWhile (· != 58) = 58 :: port := by
    rw [List.dropWhile_append_of_pos hkeep]
    simp
  unfold splitAddr
  split
  · rename_i rest heq
    cases host with
    | nil => cases heq
    | cons b host =>
      cases heq
      exact absurd rfl h91
  · rw [hdrop, htake]
    rfl

/-- With a host that resolves, the address is accepted exactly if the text is short enough and
the port is one. -/
theorem bAddrParse2_ipv4 {getaddrinfo : Getaddrinfo} {host port ip : List UInt8}
    (h91 : host.head? ≠ some 91) (h58 : 58 ∉ host) (hlen : host.length < 128)
    (hip : getaddrinfo .ipv4 host false = some ip) :
    bAddrParse2 getaddrinfo (host ++ 58 :: port) none false =
      (parsePort port).map fun p => ⟨⟨.ipv4, ip⟩, p⟩ := by
  by_cases hport : port.length ≥ 6
  · have hnone : parsePort port = none := by rw [parsePort, if_pos hport]
    unfold bAddrParse2
    rw [splitAddr_ipv4 h91 h58, hnone]
    split
    · rfl
    · simp [hnone]
  · unfold bAddrParse2
    have htext : ¬ ((host ++ 58 :: port).length < 1 ∨ (host ++ 58 :: port).length > 1000) := by
      simp only [List.length_append, List.length_cons]
      omega
    have hhost : ¬ host.length ≥ 128 := by omega
    rw [splitAddr_ipv4 h91 h58, if_neg htext]
    simp only [Option.bind_eq_bind, Option.bind_some, if_neg hhost, hip]
    cases parsePort port with
    | none => rfl
    | some p => rfl

end Lightsocks.Tunnel
