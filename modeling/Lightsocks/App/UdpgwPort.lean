import Lightsocks.App.Form
import Lightsocks.Tunnel.Addr

/-!
# The udpgw port, as the form and as the engine read it

`startVPN` accepts digits of any script, as many as there are. `BAddr_Parse2` takes the bytes
behind `127.0.0.1:`, at most five of them, and wants an ASCII number of 16 bits. So the engine
refuses what the form let through, or `startTun2socks` returns before it reads a packet,
exactly when the text has another script's digits, more than five digits, or too large a
number.
-/

namespace Lightsocks.App

open Lightsocks.Lib Lightsocks.Tunnel

/-! ## The bytes of the text -/

theorem getStringUTFChars_append (s t : String) :
    getStringUTFChars (s ++ t) = getStringUTFChars s ++ getStringUTFChars t := by
  rw [getStringUTFChars, String.toList_append, List.flatMap_append]
  rfl

/-- A digit below `128` is an ASCII digit of the same value. -/
theorem digit_of_ascii {u : UnicodeDigits} {c : Char} (hc : c.toNat < 128)
    (h : (u.digit c).isSome = true) :
    48 ≤ c.toNat ∧ c.toNat ≤ 57 ∧ u.digit c = some (c.toNat - 48) := by
  rw [u.digit_ascii c hc] at h ⊢
  split at h
  · rename_i hrange
    exact ⟨hrange.1, hrange.2, if_pos hrange⟩
  · cases h

/-- Digits that are all ASCII become the same digits, with the same value. -/
theorem getStringUTFChars_digits {u : UnicodeDigits} {cs : List Char}
    (hdigits : ∀ c ∈ cs, (u.digit c).isSome = true) (hascii : ∀ c ∈ cs, c.toNat < 128) :
    cs.flatMap encodeChar = cs.map (fun c => UInt8.ofNat c.toNat) ∧
      (∀ b ∈ cs.flatMap encodeChar, isdigit b = true) ∧
      decimal (cs.flatMap encodeChar) = denotes u cs := by
  have hbyte : ∀ c ∈ cs, (UInt8.ofNat c.toNat).toNat = c.toNat := by
    intro c hc
    have hlt := hascii c hc
    rw [UInt8.toNat_ofNat']
    omega
  have hmap : cs.flatMap encodeChar = cs.map (fun c => UInt8.ofNat c.toNat) := by
    rw [← List.flatMap_singleton' (cs.map _), List.flatMap_map]
    apply List.flatMap_congr
    intro c hc
    have hrange := digit_of_ascii (hascii c hc) (hdigits c hc)
    exact encodeChar_ascii (by omega) (hascii c hc)
  refine ⟨hmap, ?_, ?_⟩
  · intro b hb
    rw [hmap] at hb
    obtain ⟨c, hc, rfl⟩ := List.mem_map.mp hb
    have hrange := digit_of_ascii (hascii c hc) (hdigits c hc)
    simp only [isdigit, hbyte c hc, Bool.and_eq_true, decide_eq_true_eq]
    exact ⟨hrange.1, hrange.2.1⟩
  · rw [hmap, decimal, List.foldl_map, denotes]
    apply List.foldl_ext
    intro n c hc
    have hrange := digit_of_ascii (hascii c hc) (hdigits c hc)
    rw [hbyte c hc, hrange.2.2]
    rfl

/-- A character of another script leaves a byte that is no ASCII. -/
theorem high_byte_of_char {cs : List Char} {c : Char} (hc : c ∈ cs) (h : ¬ c.toNat < 128) :
    ∃ b ∈ cs.flatMap encodeChar, ¬ b.toNat < 128 := by
  obtain ⟨b, bs, heq, hle⟩ := encodeChar_high h
  refine ⟨b, List.mem_flatMap.mpr ⟨c, hc, by rw [heq]; simp⟩, by omega⟩

/-! ## The port -/

/-- What the engine's parser wants of the text. -/
def PortFits (u : UnicodeDigits) (cs : List Char) : Prop :=
  (∀ c ∈ cs, c.toNat < 128) ∧ cs.length ≤ 5 ∧ denotes u cs ≤ 65535

theorem parsePort_isSome_iff {u : UnicodeDigits} {cs : List Char} (hne : cs ≠ [])
    (hdigits : ∀ c ∈ cs, (u.digit c).isSome = true) :
    (∃ p, parsePort (cs.flatMap encodeChar) = some p) ↔ PortFits u cs := by
  by_cases hascii : ∀ c ∈ cs, c.toNat < 128
  · obtain ⟨hmap, hall, hval⟩ := getStringUTFChars_digits hdigits hascii
    have hne' : cs.flatMap encodeChar ≠ [] := by
      rw [hmap]
      simpa using hne
    have hlen : (cs.flatMap encodeChar).length = cs.length := by rw [hmap, List.length_map]
    rw [parsePort_digits hne' hall, hval, hlen]
    by_cases hfit : cs.length ≤ 5 ∧ denotes u cs ≤ 65535
    · rw [if_pos hfit]
      exact iff_of_true ⟨_, rfl⟩ ⟨hascii, hfit⟩
    · rw [if_neg hfit]
      refine iff_of_false ?_ fun h => hfit h.2
      rintro ⟨p, hp⟩
      cases hp
  · refine iff_of_false ?_ fun h => hascii h.1
    rintro ⟨p, hp⟩
    push Not at hascii
    obtain ⟨c, hc, hhigh⟩ := hascii
    obtain ⟨b, hb, hbhigh⟩ := high_byte_of_char hc (by omega)
    rw [parsePort_high hb hbhigh] at hp
    cases hp

/-- What is accepted is the number that the text denotes. -/
theorem parsePort_denotes {u : UnicodeDigits} {cs : List Char} (hne : cs ≠ [])
    (hdigits : ∀ c ∈ cs, (u.digit c).isSome = true) {p : UInt16}
    (hp : parsePort (cs.flatMap encodeChar) = some p) : p.toNat = denotes u cs := by
  obtain ⟨hascii, hfit⟩ := (parsePort_isSome_iff hne hdigits).mp ⟨p, hp⟩
  obtain ⟨hmap, hall, hval⟩ := getStringUTFChars_digits hdigits hascii
  have hne' : cs.flatMap encodeChar ≠ [] := by
    rw [hmap]
    simpa using hne
  rw [parsePort_digits hne' hall, hval] at hp
  split at hp
  · cases hp
    rw [UInt16.toNat_ofNat']
    omega
  · cases hp

/-! ## The address -/

/-- The texts that the service passes beside the udpgw address. -/
def serviceOptions (udpgwAddr : String) : OptionTexts where
  netifIpaddr := getStringUTFChars "10.0.0.2"
  netifNetmask := getStringUTFChars "255.255.255.0"
  socksServerAddr := getStringUTFChars "127.0.0.1:6666"
  udpgwRemoteServerAddr := some (getStringUTFChars udpgwAddr)

theorem localhost_bytes (text : String) :
    getStringUTFChars ("127.0.0.1:" ++ text) =
      getStringUTFChars "127.0.0.1" ++ 58 :: getStringUTFChars text := by
  have hhost : getStringUTFChars "127.0.0.1:" = getStringUTFChars "127.0.0.1" ++ [58] := by
    decide
  rw [getStringUTFChars_append, hhost, List.append_assoc]
  rfl

theorem bAddrParse2_localhost {getaddrinfo : Getaddrinfo} {ip : List UInt8}
    (hip : getaddrinfo .ipv4 (getStringUTFChars "127.0.0.1") false = some ip) (text : String) :
    bAddrParse2 getaddrinfo (getStringUTFChars ("127.0.0.1:" ++ text)) none false =
      (parsePort (getStringUTFChars text)).map fun p => ⟨⟨.ipv4, ip⟩, p⟩ := by
  rw [localhost_bytes]
  exact bAddrParse2_ipv4 (by decide) (by decide) (by decide) hip

/-- With the service's other texts resolved, only the udpgw address can be refused. -/
theorem processArguments_isSome_iff {getaddrinfo : Getaddrinfo} {ip ip' ip'' : List UInt8}
    (hip : getaddrinfo .ipv4 (getStringUTFChars "127.0.0.1") false = some ip)
    (hif : getaddrinfo .ipv4 (getStringUTFChars "10.0.0.2") false = some ip')
    (hmask : getaddrinfo .ipv4 (getStringUTFChars "255.255.255.0") false = some ip'')
    (addr : String) :
    (processArguments getaddrinfo (serviceOptions addr)).isSome = true ↔
      ∃ a, bAddrParse2 getaddrinfo (getStringUTFChars addr) none false = some a := by
  have hnetif : ∀ {text : String} {ip : List UInt8},
      getaddrinfo .ipv4 (getStringUTFChars text) false = some ip →
      (getStringUTFChars text).head? ≠ some 91 → (getStringUTFChars text).length ≤ 128 →
      resolveNetif getaddrinfo (getStringUTFChars text) = some ⟨.ipv4, ip⟩ := by
    intro text ip htext hhead hlen
    have hbound : ¬ (getStringUTFChars text).length > 128 := by omega
    simp [resolveNetif, bIPAddrResolve, hhead, hbound, htext]
  have hsocks : bAddrParse2 getaddrinfo (getStringUTFChars "127.0.0.1:6666") none false =
      some ⟨⟨.ipv4, ip⟩, 6666⟩ := by
    have hport : parsePort (getStringUTFChars "6666") = some 6666 := by decide
    have h := bAddrParse2_localhost hip "6666"
    rw [hport] at h
    exact h
  simp only [processArguments, serviceOptions, hsocks, hnetif hif (by decide) (by decide),
    hnetif hmask (by decide) (by decide), Option.bind_eq_bind, Option.bind_some]
  cases bAddrParse2 getaddrinfo (getStringUTFChars addr) none false with
  | none => simp
  | some a => simp

/-- The udpgw address that the form let through is accepted with the port that the text
denotes, and `process_arguments` succeeds, if and only if the digits are ASCII, at most five,
and a 16-bit number. -/
theorem udpgw_port_iff (u : UnicodeDigits) (f : Form) (c : StartCommand)
    (hc : f.startVPN u = .ok c) (getaddrinfo : Getaddrinfo) (ip : List UInt8)
    (hip : getaddrinfo .ipv4 (getStringUTFChars "127.0.0.1") false = some ip) :
    ((∃ a, bAddrParse2 getaddrinfo (getStringUTFChars c.udpgwAddr) none false = some a ∧
        a.port.toNat = denotes u f.etUdpgwPort.toList) ↔ PortFits u f.etUdpgwPort.toList) ∧
    (∀ ip' ip'', getaddrinfo .ipv4 (getStringUTFChars "10.0.0.2") false = some ip' →
      getaddrinfo .ipv4 (getStringUTFChars "255.255.255.0") false = some ip'' →
      ((processArguments getaddrinfo (serviceOptions c.udpgwAddr)).isSome = true ↔
        PortFits u f.etUdpgwPort.toList)) := by
  obtain ⟨herr, -, -, haddr, -⟩ := startVPN_ok_iff.mp hc
  obtain ⟨-, -, -, hne, honly⟩ := errors_eq_nil_iff.mp herr
  have hne' : f.etUdpgwPort.toList ≠ [] := by simpa using hne
  have hdigits : ∀ ch ∈ f.etUdpgwPort.toList, (u.digit ch).isSome = true := by
    simpa [isDigitsOnly] using honly
  have hport := parsePort_isSome_iff hne' hdigits
  have hparse := bAddrParse2_localhost hip f.etUdpgwPort
  rw [← haddr] at hparse
  have haccept : (∃ a, bAddrParse2 getaddrinfo (getStringUTFChars c.udpgwAddr) none false =
      some a) ↔ PortFits u f.etUdpgwPort.toList := by
    rw [← hport, hparse]
    constructor
    · rintro ⟨a, ha⟩
      obtain ⟨p, hp, -⟩ := Option.map_eq_some_iff.mp ha
      exact ⟨p, hp⟩
    · rintro ⟨p, hp⟩
      exact ⟨_, by rw [getStringUTFChars, hp]; rfl⟩
  constructor
  · rw [← haccept]
    constructor
    · rintro ⟨a, ha, -⟩
      exact ⟨a, ha⟩
    · rintro ⟨a, ha⟩
      rw [hparse] at ha
      obtain ⟨p, hp, rfl⟩ := Option.map_eq_some_iff.mp ha
      have hval : p.toNat = denotes u f.etUdpgwPort.toList := parsePort_denotes hne' hdigits hp
      exact ⟨_, by rw [hparse, hp]; rfl, hval⟩
  · intro ip' ip'' hif hmask
    rw [← haccept]
    exact processArguments_isSome_iff hip hif hmask c.udpgwAddr

/-- A resolver that knows numeric hosts, here the three that the service names. -/
def numericHosts : Getaddrinfo := fun type host _ =>
  if type ≠ .ipv4 then none
  else if host = getStringUTFChars "127.0.0.1" then some [127, 0, 0, 1]
  else if host = getStringUTFChars "10.0.0.2" then some [10, 0, 0, 2]
  else if host = getStringUTFChars "255.255.255.0" then some [255, 255, 255, 0]
  else none

theorem udpgw_port_7300 : ∃ a,
    bAddrParse2 numericHosts (getStringUTFChars "127.0.0.1:7300") none false = some a ∧
      a.port.toNat = denotes .twoScripts "7300".toList :=
  (udpgw_port_iff .twoScripts ⟨"1.2.3.4", "8388", "7300", "AAAA"⟩
    ⟨⟨"1.2.3.4", 8388, "127.0.0.1:7300"⟩, "AAAA"⟩ (by decide) numericHosts [127, 0, 0, 1]
    (by decide)).1.mpr ⟨by simp, by decide, by decide⟩

/-- A number of 17 bits is let through, and ends the engine before it begins. -/
theorem port_70000_refused :
    (⟨"1.2.3.4", "8388", "70000", "AAAA"⟩ : Form).startVPN .twoScripts =
      .ok ⟨⟨"1.2.3.4", 8388, "127.0.0.1:70000"⟩, "AAAA"⟩ ∧
    bAddrParse2 numericHosts (getStringUTFChars "127.0.0.1:70000") none false = none ∧
    processArguments numericHosts (serviceOptions "127.0.0.1:70000") = none := by
  refine ⟨by decide, by decide, by decide⟩

end Lightsocks.App
