import Lightsocks.Lib.Returns
import Lightsocks.Tunnel.Mtu

/-!
# Packets between `UdpGwClient` and udpgw

A packet is `struct udpgw_header`, an address and the data of a datagram. Both sides write one
with the same statements, into a packet buffer, and read it with the same ones; the client reads
no address but compares it with that of the connection.

Both sides find a connection in a `BAVL` tree, which is `Lib.Avl`: `BAVL_Insert` is `Avl.insert`
in an `ASSERT_EXECUTE`, `BAVL_Remove` is `Avl.remove`, `BAVL_LookupExact` is `Avl.lookupExact`,
and `_BAVL_rebalance`, which calls itself for the parent, is `Avl.rebalance` at each node on the
way up.
-/

namespace Lightsocks.Udpgw

open Lightsocks.Lib
open Lightsocks.Tunnel hiding connectionSend

/-- A packet, as it goes over the wire. -/
def udpPacket (flags : UInt8) (conid : UInt16) (addr : UdpAddr) (data : List UInt8) : List UInt8 :=
  udpgwHeader (addr.flags flags) conid ++ (addr.bytes ++ data)

/-- `uint16_comparator`, of the ids: both sides have one. -/
def uint16Comparator (v1 v2 : UInt16) : Ordering := compare v1 v2

instance : Std.TransCmp uint16Comparator :=
  inferInstanceAs (Std.TransCmp fun v1 v2 : UInt16 => compare v1 v2)

instance : Std.LawfulEqCmp uint16Comparator :=
  inferInstanceAs (Std.LawfulEqCmp fun v1 v2 : UInt16 => compare v1 v2)

/-- The id in the header of a packet. -/
def headerConid (data : List UInt8) : UInt16 :=
  UInt16.ofNat ((data.getD 1 0).toNat + 256 * (data.getD 2 0).toNat)

/-- The address behind the header. -/
def readAddr (flags : UInt8) (data : List UInt8) : UdpAddr :=
  if flags &&& udpgwClientFlagIpv6 ≠ 0 then
    .ipv6 (Vector.ofFn fun i => data.getD i 0) (readBe16 data 16)
  else .ipv4 (readBe32 data 0) (readBe16 data 4)

/-! ## Reading what was written -/

theorem readBe16_be16 (x : UInt16) (rest : List UInt8) : readBe16 (be16 x ++ rest) 0 = x :=
  ofNat_be16 x

theorem readBe16_append {xs ys : List UInt8} {i : Nat} (h : xs.length = i) :
    readBe16 (xs ++ ys) i = readBe16 ys 0 := by
  subst h
  unfold readBe16
  simp [List.getD_eq_getElem?_getD, List.getElem?_append_right]

theorem readBe32_be32 (x : UInt32) (rest : List UInt8) : readBe32 (be32 x ++ rest) 0 = x := by
  have hlt := x.toNat_lt
  apply UInt32.toNat_inj.mp
  simp only [readBe32, readBe16, be32, List.cons_append, List.getD_cons_zero,
    List.getD_cons_succ, UInt32.toNat_ofNat', UInt16.toNat_ofNat', UInt8.toNat_ofNat', Nat.zero_add]
  omega

theorem headerConid_udpgwHeader (flags : UInt8) (conid : UInt16) (rest : List UInt8) :
    headerConid (udpgwHeader flags conid ++ rest) = conid := by
  have hlt := conid.toNat_lt
  apply UInt16.toNat_inj.mp
  simp only [headerConid, udpgwHeader, be16, List.reverse_cons, List.reverse_nil, List.nil_append,
    List.cons_append, List.getD_cons_zero, List.getD_cons_succ, UInt16.toNat_ofNat',
    UInt8.toNat_ofNat']
  omega

/-- A flag that was set. -/
theorem or_and_self (flags flag : UInt8) : (flags ||| flag) &&& flag = flag := by
  apply UInt8.toBitVec_inj.mp
  rw [UInt8.toBitVec_and, UInt8.toBitVec_or]
  ext i hi
  rw [BitVec.getElem_and, BitVec.getElem_or]
  generalize flag.toBitVec[i] = b
  cases b <;> simp

/-- Another flag is set only if it was set before. -/
theorem or_and_eq_zero {flags flags' flag : UInt8} (h : flags &&& flag = 0)
    (h' : flags' &&& flag = 0) : (flags ||| flags') &&& flag = 0 := by
  have hor : (flags ||| flags') &&& flag = flags &&& flag ||| flags' &&& flag := by
    apply UInt8.toBitVec_inj.mp
    simp only [UInt8.toBitVec_and, UInt8.toBitVec_or]
    ext i hi
    simp only [BitVec.getElem_and, BitVec.getElem_or]
    exact Bool.and_or_distrib_right _ _ _
  rw [hor, h, h']
  rfl

/-- The flag for IPv6 is in the packet exactly when the address is one. -/
theorem flags_ipv6 {flags : UInt8} (hflags : flags &&& udpgwClientFlagIpv6 = 0) (addr : UdpAddr) :
    (addr.flags flags &&& udpgwClientFlagIpv6 ≠ 0) ↔ addr.isIpv6 = true := by
  cases addr with
  | ipv4 ip port => simp [UdpAddr.flags, UdpAddr.isIpv6, hflags]
  | ipv6 ip port =>
    simp only [UdpAddr.flags, UdpAddr.isIpv6, or_and_self]
    decide

theorem addrSize_flags {flags : UInt8} (hflags : flags &&& udpgwClientFlagIpv6 = 0)
    (addr : UdpAddr) : addrSize (addr.flags flags) = addr.size := by
  unfold addrSize
  cases addr with
  | ipv4 ip port =>
    have hnot : ¬ (UdpAddr.ipv4 ip port).flags flags &&& udpgwClientFlagIpv6 ≠ 0 := by
      rw [flags_ipv6 hflags]
      exact Bool.false_ne_true
    rw [if_neg hnot]
    rfl
  | ipv6 ip port =>
    rw [if_pos ((flags_ipv6 hflags _).mpr rfl)]
    rfl

theorem readAddr_bytes {flags : UInt8} (hflags : flags &&& udpgwClientFlagIpv6 = 0)
    (addr : UdpAddr) (rest : List UInt8) :
    readAddr (addr.flags flags) (addr.bytes ++ rest) = addr := by
  unfold readAddr
  cases addr with
  | ipv4 ip port =>
    have hnot : ¬ (UdpAddr.ipv4 ip port).flags flags &&& udpgwClientFlagIpv6 ≠ 0 := by
      rw [flags_ipv6 hflags]
      exact Bool.false_ne_true
    rw [if_neg hnot, UdpAddr.bytes, List.append_assoc, readBe32_be32,
      readBe16_append (length_be32 ip), readBe16_be16]
  | ipv6 ip port =>
    rw [if_pos ((flags_ipv6 hflags _).mpr rfl), UdpAddr.bytes, List.append_assoc,
      readBe16_append Vector.length_toList, readBe16_be16]
    congr 1
    apply Vector.ext
    intro i hi
    rw [Vector.getElem_ofFn, List.getD_eq_getElem?_getD,
      List.getElem?_append_left (by rw [Vector.length_toList]; exact hi)]
    simp [hi]

/-- Addresses of one family are told apart by their bytes. -/
theorem bytes_inj {a b : UdpAddr} {xs ys : List UInt8} (hsize : a.size = b.size)
    (h : a.bytes ++ xs = b.bytes ++ ys) : a = b ∧ xs = ys := by
  have hlen : a.bytes.length = b.bytes.length := by
    rw [UdpAddr.length_bytes, UdpAddr.length_bytes, hsize]
  obtain ⟨hbytes, hrest⟩ := List.append_inj h hlen
  refine ⟨?_, hrest⟩
  have hread (addr : UdpAddr) : readAddr (addr.flags 0) (addr.bytes ++ []) = addr :=
    readAddr_bytes (by decide) addr []
  have hflags : a.flags 0 = b.flags 0 := by
    cases a <;> cases b <;> first | rfl | exact absurd hsize (by simp [UdpAddr.size])
  rw [← hread a, ← hread b, hflags, hbytes]

/-! ## Writing and reading -/

/-- The header, the address and the data are written behind each other. -/
theorem copyTo_udpPacket {out data : List UInt8} {addr : UdpAddr}
    (hout : 3 + addr.size + data.length ≤ out.length) (flags : UInt8) (conid : UInt16) :
    ∃ b₁ b₂ b₃, copyTo out 0 (udpgwHeader (addr.flags flags) conid) = .ok b₁ ∧
      copyTo b₁ 3 addr.bytes = .ok b₂ ∧ copyTo b₂ (3 + addr.size) data = .ok b₃ ∧
      b₃.length = out.length ∧
      b₃.take (3 + addr.size + data.length) = udpPacket flags conid addr data := by
  obtain ⟨b₁, hb₁, hlen₁, htake₁⟩ := copyTo_spec out 0 (udpgwHeader (addr.flags flags) conid)
    (by rw [length_udpgwHeader]; omega)
  obtain ⟨b₂, hb₂, hlen₂, htake₂⟩ := copyTo_spec b₁ 3 addr.bytes
    (by rw [UdpAddr.length_bytes]; omega)
  obtain ⟨b₃, hb₃, hlen₃, htake₃⟩ := copyTo_spec b₂ (3 + addr.size) data (by omega)
  rw [length_udpgwHeader, Nat.zero_add, List.take_zero, List.nil_append] at htake₁
  rw [UdpAddr.length_bytes, htake₁] at htake₂
  rw [htake₂, List.append_assoc] at htake₃
  exact ⟨b₁, b₂, b₃, hb₁, hb₂, hb₃, hlen₃.trans (hlen₂.trans hlen₁), htake₃⟩

/-- `connection_send` of the client writes the packet, whatever was in the buffer. -/
theorem connectionSend_eq {udpMtu : Int} {out : List UInt8} (hout : udpMtu + 21 ≤ out.length)
    (hint : udpMtu + 21 ≤ 65535) (flags : UInt8) (conid : UInt16) (addr : UdpAddr)
    {data : List UInt8} (hdata : (data.length : Int) ≤ udpMtu) :
    Tunnel.connectionSend udpMtu out flags conid addr data
      = .ok (udpPacket flags conid addr data) := by
  have hsize := addr.size_le
  have hheader : udpgwHeaderSize = 3 := rfl
  have hroom : 3 + addr.size + data.length ≤ out.length := by omega
  obtain ⟨b₁, b₂, b₃, hb₁, hb₂, hb₃, hlen, htake⟩ :=
    copyTo_udpPacket hroom flags conid
  have hpos : ((udpgwHeaderSize : Int) + addr.size).toNat = 3 + addr.size := by omega
  have hend : ((udpgwHeaderSize : Int) + addr.size + data.length).toNat
      = 3 + addr.size + data.length := by omega
  unfold Tunnel.connectionSend
  rw [assert_ok (decide_eq_true hdata), ok_bind, hb₁, ok_bind, asInt_ok (by omega) (by omega),
    ok_bind, Int.toNat_natCast, hheader, hb₂, ok_bind, ← hheader, asInt_ok (by omega) (by omega),
    ok_bind, hpos, hb₃, ok_bind, asInt_ok (by omega) (by omega), ok_bind, hend,
    slice_ok (by omega), List.drop_zero, htake]

/-- What the client passes on is behind the header and the address of the connection with the
id in the header. -/
theorem recvInterfaceHandlerSend_eq (m : DataModel) {udpMtu udpgwMtu : Int}
    (hint : udpgwMtu ≤ 65535) (find : UInt16 → Option (UdpAddr × UdpAddr)) {data : List UInt8}
    (hdata : (data.length : Int) ≤ udpgwMtu) :
    Returns (Tunnel.recvInterfaceHandlerSend m udpMtu udpgwMtu find data) fun res =>
      ∀ localAddr remoteAddr payload, res = some (localAddr, remoteAddr, payload) →
        find (headerConid data) = some (localAddr, remoteAddr) ∧
        addrSize (data.getD 0 0) = remoteAddr.size ∧
        data = data.take udpgwHeaderSize ++ (remoteAddr.bytes ++ payload) := by
  have hheader : udpgwHeaderSize = 3 := rfl
  unfold Tunnel.recvInterfaceHandlerSend
  apply Returns.bind_eq (assert_ok (decide_eq_true hdata))
  apply Returns.bind_eq (asSize_ok m (by omega) (by omega))
  dsimp only
  split
  · exact Returns.pure (by simp)
  apply Returns.bind_eq (asInt_ok (by omega) (by omega))
  apply Returns.bind_eq (asSize_ok m (by omega) (by omega))
  split
  · exact Returns.pure (by simp)
  have hsize := addrSize_le (data.getD 0 0)
  apply Returns.bind_eq (slice_ok (by omega))
  apply Returns.bind_eq (asInt_ok (by omega) (by omega))
  apply Returns.bind_eq (slice_ok (by omega))
  split
  · exact Returns.pure (by simp)
  split
  · exact Returns.pure (by simp)
  rename_i localAddr remoteAddr hfind
  split
  · exact Returns.pure (by simp)
  rename_i haddr
  apply Returns.pure
  rintro localAddr' remoteAddr' payload heq
  cases heq
  have haddr := not_not.mp haddr
  have hlen := congrArg List.length haddr
  rw [UdpAddr.length_bytes, List.length_take, List.length_drop] at hlen
  refine ⟨hfind, by omega, ?_⟩
  have hrest : ((data.length : Int) - udpgwHeaderSize - addrSize (data.getD 0 0)).toNat
      = (data.drop (udpgwHeaderSize + addrSize (data.getD 0 0))).length := by
    rw [List.length_drop]
    omega
  rw [haddr, hrest, List.take_length, ← List.drop_drop, List.take_append_drop,
    List.take_append_drop]

end Lightsocks.Udpgw
