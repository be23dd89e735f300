import Lightsocks.Tunnel.Intercept
import Lightsocks.Tunnel.Packet

/-!
# The MTU keeps every packet in bounds

`device_write_buf` has as many bytes as the MTU, udpgw takes packets of 16 bits, and the
header sizes are subtracted from the MTU before anything is compared. For every MTU that gets
past the udpgw check, up to `65542`, none of the checked operations of `Tunnel.Packet` fails:
not on a packet read from the device, not on a reply, and not on what lwIP sends.
-/

namespace Lightsocks.Tunnel

open Lightsocks.Lib

/-! ## The two MTUs -/

/-- `INT_MAX`. -/
def intMax : Int := 2147483647

theorem computeUdpMtu_eq {mtu : Int} (h0 : 0 ≤ mtu) (hint : mtu ≤ intMax) :
    computeUdpMtu mtu = .ok (udpMtu mtu) := by
  have hmax : intMax = 2147483647 := rfl
  have hsub : mtu - (ipv4HeaderSize + udpHeaderSize) = mtu - 28 := rfl
  unfold computeUdpMtu
  rw [hsub, asInt_ok (by omega) (by omega), ok_bind]
  by_cases hneg : mtu - 28 < 0
  · rw [if_pos hneg, udpMtu, Int.max_eq_right (by omega)]
    rfl
  · rw [if_neg hneg, udpMtu, Int.max_eq_left (by omega)]
    rfl

theorem bsizeFromint_eq (m : DataModel) {n : Nat} (h : n < 2 ^ 32) :
    bsizeFromint m n = ⟨false, n⟩ := by
  have hpow : (2 : Int) ^ 32 ≤ 2 ^ m.sizeBits := by
    exact_mod_cast Nat.pow_le_pow_right (by decide) m.int_fits
  have hmod : ((n : Int) % 2 ^ m.sizeBits) = n := Int.emod_eq_of_lt (by omega) (by omega)
  have hneg : ¬ (n : Int) < 0 := by omega
  have hbig : ¬ (n : Int) > 2 ^ m.sizeBits - 1 := by omega
  rw [bsizeFromint, hmod, decide_eq_false hneg, decide_eq_false hbig]
  rfl

theorem bsizeAdd_eq (m : DataModel) {a b : Nat} (h : a + b < 2 ^ 32) :
    bsizeAdd m ⟨false, a⟩ ⟨false, b⟩ = ⟨false, a + b⟩ := by
  have hpow : 2 ^ 32 ≤ 2 ^ m.sizeBits := Nat.pow_le_pow_right (by decide) m.int_fits
  have hbig : ¬ b > 2 ^ m.sizeBits - 1 - a := by omega
  have hmod : (a + b) % 2 ^ m.sizeBits = a + b := Nat.mod_eq_of_lt (by omega)
  simp only [bsizeAdd, hmod, decide_eq_false hbig, Bool.or_false]

theorem bsizeToint_eq (n : Nat) :
    (bsizeToint ⟨false, n⟩).getD (-1) = if (n : Int) ≤ 2147483647 then (n : Int) else -1 := by
  by_cases hfit : n > 2147483647
  · rw [if_neg (by omega), bsizeToint, decide_eq_true hfit]
    rfl
  · rw [if_pos (by omega), bsizeToint, decide_eq_false hfit]
    rfl

/-- The flagged `size_t` arithmetic is the sum, as long as that is an `int`. -/
theorem udpgwComputeMtuBsize_eq (m : DataModel) {dgramMtu : Int} (h0 : 0 ≤ dgramMtu)
    (hint : dgramMtu ≤ intMax) : udpgwComputeMtuBsize m dgramMtu = udpgwComputeMtu dgramMtu := by
  have hmax : intMax = 2147483647 := rfl
  obtain ⟨n, rfl⟩ := Int.eq_ofNat_of_zero_le h0
  have hmaxAddr : bsizeMax (bsizeFromsize 6) (bsizeFromsize 18) = ⟨false, 18⟩ := rfl
  have hheader : bsizeFromsize udpgwHeaderSize = ⟨false, 3⟩ := rfl
  rw [udpgwComputeMtuBsize, hmaxAddr, hheader, bsizeFromint_eq m (by omega),
    bsizeAdd_eq m (by omega), bsizeAdd_eq m (by omega), bsizeToint_eq]
  rfl

theorem udpMtu_nonneg (mtu : Int) : 0 ≤ udpMtu mtu := Int.le_max_right _ _

/-- What the check leaves: the sum is computed, and fits into 16 bits. -/
theorem udpgwComputeMtu_of_ok {mtu : Int} (hok : udpgwMtuOk mtu = true) :
    udpgwComputeMtu (udpMtu mtu) = udpMtu mtu + 21 ∧ udpMtu mtu + 21 ≤ 65535 := by
  have hdef : udpgwComputeMtu (udpMtu mtu) =
      if 3 + (18 + udpMtu mtu) ≤ 2147483647 then 3 + (18 + udpMtu mtu) else -1 := rfl
  simp only [udpgwMtuOk, Bool.not_eq_true', Bool.or_eq_false_iff, decide_eq_false_iff_not] at hok
  rw [hdef] at hok ⊢
  split at hok
  · omega
  · omega

/-! ## Headers and checksums -/

@[simp] theorem length_be16 (x : UInt16) : (be16 x).length = 2 := rfl

@[simp] theorem length_be32 (x : UInt32) : (be32 x).length = 4 := rfl

@[simp] theorem Ipv4Header.length_bytes (h : Ipv4Header) : h.bytes.length = 20 := rfl

@[simp] theorem UdpHeader.length_bytes (h : UdpHeader) : h.bytes.length = 8 := rfl

@[simp] theorem UdpAddr.length_bytes (a : UdpAddr) : a.bytes.length = a.size := by
  cases a <;> simp [UdpAddr.bytes, UdpAddr.size]

@[simp] theorem length_udpgwHeader (flags : UInt8) (conid : UInt16) :
    (udpgwHeader flags conid).length = 3 := rfl

/-- The payload of a datagram and its header fit into 16 bits, so neither length is cut. -/
theorem udpChecksum_ok (header : UdpHeader) {payload : List UInt8} (sourceAddr destAddr : UInt32)
    (h : payload.length ≤ 65527) :
    ∃ x, udpChecksum header payload sourceAddr destAddr = .ok x := by
  have hlen : (UInt16.ofNat payload.length).toNat = payload.length := by
    rw [UInt16.toNat_ofNat']
    omega
  unfold udpChecksum
  rw [asU16_ok (by omega) (by omega), ok_bind, Int.toNat_natCast, hlen, udpHeaderSize,
    asU16_ok (by omega) (by omega), ok_bind]
  exact ⟨_, rfl⟩

/-! ## Packets from the device -/

theorem ipv4Check_spec (m : DataModel) {data : List UInt8} (h : (data.length : Int) ≤ intMax) :
    ∃ r, ipv4Check m data = .ok r ∧
      ∀ iph payload, r = some (iph, payload) →
        payload.length + 20 ≤ data.length ∧
        ∃ len, payload = (data.drop ((data.getD 0 0).toNat % 16 * 4)).take len := by
  have hmax : intMax = 2147483647 := rfl
  have hsize : ipv4HeaderSize = 20 := rfl
  unfold ipv4Check
  rw [asSize_ok m (by omega) (by omega), ok_bind, Int.toNat_natCast]
  dsimp only
  split
  · exact ⟨none, rfl, by simp⟩
  split
  · exact ⟨none, rfl, by simp⟩
  split
  · exact ⟨none, rfl, by simp⟩
  split
  · exact ⟨none, rfl, by simp⟩
  split
  · exact ⟨none, rfl, by simp⟩
  split
  · exact ⟨none, rfl, by simp⟩
  -- the header and the total length lie inside the packet
  have htotal := (Ipv4Header.parse data).totalLength.toNat_lt
  rw [slice_ok (by omega), ok_bind]
  split
  · exact ⟨none, rfl, by simp⟩
  rw [asInt_ok (by omega) (by omega), ok_bind, slice_ok (by omega), ok_bind]
  refine ⟨_, rfl, ?_⟩
  rintro iph payload heq
  cases heq
  refine ⟨?_, _, rfl⟩
  rw [List.length_take, List.length_drop]
  omega

theorem udpCheck_spec (m : DataModel) {data : List UInt8} (h : (data.length : Int) ≤ intMax) :
    ∃ r, udpCheck m data = .ok r ∧
      ∀ udph payload, r = some (udph, payload) →
        payload.length + 8 ≤ data.length ∧ payload.length ≤ 65527 ∧
          udph = UdpHeader.parse data := by
  have hmax : intMax = 2147483647 := rfl
  have hsize : udpHeaderSize = 8 := rfl
  unfold udpCheck
  rw [asSize_ok m (by omega) (by omega), ok_bind, Int.toNat_natCast]
  split
  · exact ⟨none, rfl, by simp⟩
  rw [asInt_ok (by omega) (by omega), ok_bind]
  dsimp only
  rw [asSize_ok m (by omega) (by omega), ok_bind]
  split
  · exact ⟨none, rfl, by simp⟩
  split
  · exact ⟨none, rfl, by simp⟩
  have hlength := (UdpHeader.parse data).length.toNat_lt
  rw [asInt_ok (by omega) (by omega), ok_bind, slice_ok (by omega), ok_bind]
  refine ⟨_, rfl, ?_⟩
  rintro udph payload heq
  cases heq
  rw [List.length_take, List.length_drop]
  exact ⟨by omega, by omega, rfl⟩

theorem readBe16_slice {data : List UInt8} {i len offset : Nat}
    (h : i + 1 < ((data.drop offset).take len).length) :
    readBe16 ((data.drop offset).take len) i = readBe16 data (offset + i) := by
  rw [List.length_take] at h
  unfold readBe16
  simp only [List.getD_eq_getElem?_getD]
  rw [List.getElem?_take_of_lt (by omega), List.getElem?_take_of_lt (by omega),
    List.getElem?_drop, List.getElem?_drop, Nat.add_assoc]

/-- A packet from the device is submitted only with a payload that udpgw takes, and with the
checksum that is computed for it. -/
theorem processDeviceUdpPacket_spec (m : DataModel) (d : Device) {data : List UInt8}
    (h : (data.length : Int) ≤ intMax) :
    ∃ r, processDeviceUdpPacket m d data = .ok r ∧
      ∀ p, r = some p → (p.data.length : Int) ≤ d.udpMtu ∧ p.data.length ≤ 65527 ∧
        ∃ udph sourceAddr destAddr, udpChecksum udph p.data sourceAddr destAddr =
          .ok (readBe16 data ((data.getD 0 0).toNat % 16 * 4 + 6)) := by
  have hmax : intMax = 2147483647 := rfl
  unfold processDeviceUdpPacket
  rw [asSize_ok m (by omega) (by omega), ok_bind]
  split
  · exact ⟨none, rfl, by simp⟩
  split
  · exact ⟨none, rfl, by simp⟩
  split
  · exact ⟨none, rfl, by simp⟩
  obtain ⟨r, hr, hlen⟩ := ipv4Check_spec m h
  rw [hr, ok_bind]
  cases r with
  | none => exact ⟨none, rfl, by simp⟩
  | some x =>
    obtain ⟨iph, payload⟩ := x
    obtain ⟨hle, len, hpayload⟩ := hlen iph payload rfl
    obtain ⟨r', hr', hlen'⟩ := udpCheck_spec m (show (payload.length : Int) ≤ intMax by omega)
    dsimp only
    rw [hr', ok_bind]
    cases r' with
    | none => exact ⟨none, rfl, by simp⟩
    | some y =>
      obtain ⟨udph, datagram⟩ := y
      obtain ⟨hle', hword, hudph⟩ := hlen' udph datagram rfl
      obtain ⟨checksum, hchecksum⟩ := udpChecksum_ok { udph with checksum := 0 }
        iph.sourceAddress iph.destinationAddress hword
      dsimp only
      rw [hchecksum, ok_bind]
      split
      · exact ⟨none, rfl, by simp⟩
      rename_i hequal
      rw [asInt_ok (by omega) (by omega), ok_bind]
      split
      · exact ⟨none, rfl, by simp⟩
      · rename_i hfit
        refine ⟨_, rfl, ?_⟩
        rintro p heq
        cases heq
        refine ⟨Int.not_lt.mp hfit, hword, _, _, _, hchecksum.trans ?_⟩
        have hfield : udph.checksum = readBe16 payload 6 := by
          rw [hudph]
          rfl
        rw [← not_not.mp hequal, hfield, hpayload, readBe16_slice]
        rw [← hpayload]
        omega

/-- `pbuf_alloc` gets the length of the packet. -/
theorem deviceReadHandlerSend_spec (m : DataModel) {d : Device} (hquitting : d.quitting = false)
    {data : List UInt8} (h : (data.length : Int) ≤ intMax) :
    ∃ r, deviceReadHandlerSend m d data = .ok r ∧
      (∀ p, r = .submitted p → (p.data.length : Int) ≤ d.udpMtu) ∧
      ∀ length, r = .pbuf length → length.toNat = data.length := by
  have hmax : intMax = 2147483647 := rfl
  obtain ⟨r, hr, hfit⟩ := processDeviceUdpPacket_spec m d h
  unfold deviceReadHandlerSend
  rw [assert_ok (by rw [hquitting]; rfl), ok_bind, hr, ok_bind]
  cases r with
  | some p =>
    refine ⟨_, rfl, ?_, by simp⟩
    rintro p' heq
    cases heq
    exact (hfit p rfl).1
  | none =>
    dsimp only
    rw [asInt_ok (by omega) (by omega), ok_bind]
    split
    · exact ⟨_, rfl, by simp, by simp⟩
    · obtain ⟨x, hx⟩ := asU16_fits (v := data.length) (by omega) (by omega)
      rw [hx, ok_bind]
      refine ⟨_, rfl, by simp, ?_⟩
      rintro length heq
      cases heq
      have hvalue := toNat_of_asU16 hx
      omega

/-! ## Replies -/

def UdpAddr.isIpv6 : UdpAddr → Bool
  | .ipv4 _ _ => false
  | .ipv6 _ _ => true

/-- The two length fields say how long the packet and its datagram are. -/
structure TrueLengths (packet : List UInt8) : Prop where
  total : (Ipv4Header.parse packet).totalLength.toNat = packet.length
  udp : ipv4HeaderSize + (UdpHeader.parse (packet.drop ipv4HeaderSize)).length.toNat =
    packet.length

theorem ofNat_be16 (x : UInt16) :
    UInt16.ofNat (256 * (UInt8.ofNat (x.toNat / 256)).toNat + (UInt8.ofNat x.toNat).toNat) =
      x := by
  have hlt := x.toNat_lt
  apply UInt16.toNat_inj.mp
  rw [UInt16.toNat_ofNat', UInt8.toNat_ofNat', UInt8.toNat_ofNat']
  omega

theorem Ipv4Header.parse_totalLength (h : Ipv4Header) (rest : List UInt8) :
    (Ipv4Header.parse (h.bytes ++ rest)).totalLength = h.totalLength :=
  ofNat_be16 h.totalLength

theorem UdpHeader.parse_length (h : UdpHeader) (rest : List UInt8) :
    (UdpHeader.parse (h.bytes ++ rest)).length = h.length :=
  ofNat_be16 h.length

/-- A packet of two headers whose length fields were stored from its own length. -/
theorem TrueLengths.of_headers {iph : Ipv4Header} {udph : UdpHeader} {data : List UInt8}
    (htotal : (iph.totalLength.toNat : Int) = 28 + data.length)
    (hudp : (udph.length.toNat : Int) = 8 + data.length) :
    TrueLengths (iph.bytes ++ (udph.bytes ++ data)) where
  total := by
    rw [Ipv4Header.parse_totalLength, List.length_append, List.length_append,
      Ipv4Header.length_bytes, UdpHeader.length_bytes]
    omega
  udp := by
    have hdrop : (iph.bytes ++ (udph.bytes ++ data)).drop ipv4HeaderSize = udph.bytes ++ data :=
      List.drop_left' (Ipv4Header.length_bytes iph)
    rw [hdrop, UdpHeader.parse_length, List.length_append, List.length_append,
      Ipv4Header.length_bytes, UdpHeader.length_bytes, ipv4HeaderSize]
    omega

/-- The two headers and the payload, written one behind the other into the buffer. -/
theorem copyPacket (buf : List UInt8) (iph : Ipv4Header) (udph : UdpHeader) (data : List UInt8)
    (h : 28 + data.length ≤ buf.length) :
    ∃ b₁ b₂ b₃, copyTo buf 0 iph.bytes = .ok b₁ ∧ copyTo b₁ 20 udph.bytes = .ok b₂ ∧
      copyTo b₂ 28 data = .ok b₃ ∧
      slice b₃ 0 (28 + data.length) = .ok (iph.bytes ++ (udph.bytes ++ data)) := by
  obtain ⟨b₁, hb₁, hlen₁, htake₁⟩ := copyTo_spec buf 0 iph.bytes
    (by rw [Ipv4Header.length_bytes]; omega)
  obtain ⟨b₂, hb₂, hlen₂, htake₂⟩ := copyTo_spec b₁ 20 udph.bytes
    (by rw [UdpHeader.length_bytes]; omega)
  obtain ⟨b₃, hb₃, hlen₃, htake₃⟩ := copyTo_spec b₂ 28 data (by omega)
  refine ⟨b₁, b₂, b₃, hb₁, hb₂, hb₃, ?_⟩
  rw [Ipv4Header.length_bytes, Nat.zero_add, List.take_zero, List.nil_append] at htake₁
  rw [UdpHeader.length_bytes, htake₁] at htake₂
  rw [slice_ok (by omega), List.drop_zero, htake₃, htake₂, List.append_assoc]

theorem bTapSend_ok {d : Device} {data : List UInt8} (h : (data.length : Int) ≤ d.mtu) :
    bTapSend d data = .ok (some data) := by
  rw [bTapSend, assert_ok (decide_eq_true h), ok_bind]
  rfl

/-- Data that the length fields or the MTU have no room for is not sent. -/
theorem udpSendPacketToDevice_large (m : DataModel) {d : Device} (buf : List UInt8)
    (hmode : d.udpMode ≠ .none) (h0 : 0 ≤ d.mtu) (hint : d.mtu ≤ intMax)
    (localIp remoteIp : UInt32) (localPort remotePort : UInt16) {data : List UInt8}
    (hdata : (data.length : Int) ≤ intMax)
    (hlarge : 65507 < data.length ∨ d.mtu < 28 + data.length) :
    udpSendPacketToDevice m d buf (.ipv4 localIp localPort) (.ipv4 remoteIp remotePort) data =
      .ok none := by
  have hmax : intMax = 2147483647 := rfl
  unfold udpSendPacketToDevice
  rw [assert_ok (bne_iff_ne.mpr hmode), ok_bind]
  dsimp only [ipv4HeaderSize, udpHeaderSize]
  rw [asSize_ok m (by omega) (by omega), ok_bind, asSize_ok m (by omega) (by omega), ok_bind,
    asInt_ok (by omega) (by omega), ok_bind]
  split
  · rfl
  split
  · rfl
  · omega

/-- What is sent otherwise: two headers, with the lengths and the checksums of the packet, and
the data. -/
theorem udpSendPacketToDevice_fits (m : DataModel) {d : Device} {buf : List UInt8}
    (hmode : d.udpMode ≠ .none) (hint : d.mtu ≤ intMax) (hbuf : (buf.length : Int) = d.mtu)
    (localIp remoteIp : UInt32) (localPort remotePort : UInt16) {data : List UInt8}
    (hlimit : data.length ≤ 65507) (hroom : 28 + data.length ≤ d.mtu) :
    ∃ totalLength length checksum, totalLength.toNat = 28 + data.length ∧
      length.toNat = 8 + data.length ∧
      udpChecksum ⟨remotePort, localPort, length, 0⟩ data remoteIp localIp = .ok checksum ∧
      udpSendPacketToDevice m d buf (.ipv4 localIp localPort) (.ipv4 remoteIp remotePort) data =
        .ok (some ((replyIpv4Header totalLength remoteIp localIp).bytes ++
          (UdpHeader.bytes ⟨remotePort, localPort, length, checksum⟩ ++ data))) := by
  have hmax : intMax = 2147483647 := rfl
  have htotal : (((20 : Nat) : Int) + (8 : Nat) + data.length).toNat = 28 + data.length := by
    omega
  have hudp : (((8 : Nat) : Int) + data.length).toNat = 8 + data.length := by omega
  obtain ⟨totalLength, htotalLength⟩ := asU16_fits (v := ((28 + data.length : Nat) : Int))
    (by omega) (by omega)
  obtain ⟨length, hlength⟩ := asU16_fits (v := ((8 + data.length : Nat) : Int))
    (by omega) (by omega)
  let iph := replyIpv4Header totalLength remoteIp localIp
  obtain ⟨checksum, hchecksum⟩ := udpChecksum_ok ⟨remotePort, localPort, length, 0⟩
    iph.sourceAddress iph.destinationAddress (show data.length ≤ 65527 by omega)
  obtain ⟨b₁, b₂, b₃, hb₁, hb₂, hb₃, hpacket⟩ := copyPacket buf iph
    ⟨remotePort, localPort, length, checksum⟩ data (by omega)
  have hlen : (iph.bytes ++
      ((⟨remotePort, localPort, length, checksum⟩ : UdpHeader).bytes ++ data)).length =
        28 + data.length := by
    rw [List.length_append, List.length_append, Ipv4Header.length_bytes, UdpHeader.length_bytes]
    omega
  have htotalValue := toNat_of_asU16 htotalLength
  have hlengthValue := toNat_of_asU16 hlength
  refine ⟨totalLength, length, checksum, by omega, by omega, hchecksum, ?_⟩
  unfold udpSendPacketToDevice
  rw [assert_ok (bne_iff_ne.mpr hmode), ok_bind]
  dsimp only [ipv4HeaderSize, udpHeaderSize]
  rw [asSize_ok m (by omega) (by omega), ok_bind, asSize_ok m (by omega) (by omega), ok_bind,
    asInt_ok (by omega) (by omega), ok_bind, if_neg (by omega), if_neg (by omega),
    asSize_ok m (by omega) (by omega), ok_bind, htotal, htotalLength, ok_bind,
    asSize_ok m (by omega) (by omega), ok_bind, hudp, hlength, ok_bind, hchecksum, ok_bind, hb₁,
    ok_bind, hb₂, ok_bind, hb₃, ok_bind, asInt_ok (by omega) (by omega), ok_bind,
    Int.toNat_natCast, hpacket, ok_bind]
  exact bTapSend_ok (by omega)

/-- A reply is written inside the buffer, with its true lengths, or is not sent. -/
theorem udpSendPacketToDevice_spec (m : DataModel) {d : Device} {buf : List UInt8}
    (hmode : d.udpMode = .udpgw) (hint : d.mtu ≤ intMax) (hbuf : (buf.length : Int) = d.mtu)
    {localAddr remoteAddr : UdpAddr} (hfamily : localAddr.isIpv6 = remoteAddr.isIpv6)
    {data : List UInt8} (hdata : (data.length : Int) ≤ intMax) :
    ∃ r, udpSendPacketToDevice m d buf localAddr remoteAddr data = .ok r ∧
      ∀ packet, r = some packet →
        (packet.length : Int) ≤ d.mtu ∧ packet.length = 28 + data.length ∧
          TrueLengths packet := by
  have hnone : d.udpMode ≠ .none := by
    rw [hmode]
    decide
  cases localAddr with
  | ipv6 _ _ =>
    cases remoteAddr with
    | ipv4 _ _ => cases hfamily
    | ipv6 _ _ =>
      unfold udpSendPacketToDevice
      rw [assert_ok (bne_iff_ne.mpr hnone), ok_bind]
      exact ⟨none, rfl, by simp⟩
  | ipv4 localIp localPort =>
    cases remoteAddr with
    | ipv6 _ _ => cases hfamily
    | ipv4 remoteIp remotePort =>
      by_cases hlarge : 65507 < data.length ∨ d.mtu < 28 + data.length
      · exact ⟨none, udpSendPacketToDevice_large m buf hnone (by omega) hint localIp remoteIp
          localPort remotePort hdata hlarge, by simp⟩
      · obtain ⟨hlimit, hroom⟩ := not_or.mp hlarge
        obtain ⟨totalLength, length, checksum, htotal, hlength, -, hsend⟩ :=
          udpSendPacketToDevice_fits m hnone hint hbuf localIp remoteIp localPort remotePort
            (show data.length ≤ 65507 by omega) (show 28 + data.length ≤ d.mtu by omega)
        refine ⟨_, hsend, ?_⟩
        rintro packet heq
        cases heq
        rw [List.length_append, List.length_append, Ipv4Header.length_bytes,
          UdpHeader.length_bytes]
        refine ⟨by omega, by omega, .of_headers ?_ ?_⟩
        · change (totalLength.toNat : Int) = 28 + data.length
          omega
        · change (length.toNat : Int) = 8 + data.length
          omega

/-! ## Output of lwIP -/

/-- The chunks are written one behind the other, and what has been written is never longer than
the buffer. -/
theorem netifOutputLoop_spec {d : Device} (hint : d.mtu ≤ intMax) (chunks : List (List UInt8))
    {len : Int} {buf : List UInt8} (h0 : 0 ≤ len) (hlen : len ≤ d.mtu)
    (hbuf : (buf.length : Int) = d.mtu) :
    ∃ r, netifOutputLoop d chunks len buf = .ok r ∧
      ∀ buf' len', r = some (buf', len') →
        0 ≤ len' ∧ len' ≤ d.mtu ∧ (buf'.length : Int) = d.mtu ∧
          buf'.take len'.toNat = buf.take len.toNat ++ chunks.flatten := by
  have hmax : intMax = 2147483647 := rfl
  induction chunks generalizing len buf with
  | nil =>
    refine ⟨_, rfl, ?_⟩
    rintro buf' len' heq
    cases heq
    exact ⟨h0, hlen, hbuf, by rw [List.flatten_nil, List.append_nil]⟩
  | cons payload rest ih =>
    unfold netifOutputLoop
    rw [asInt_ok (by omega) (by omega), ok_bind]
    split
    · exact ⟨none, rfl, by simp⟩
    · obtain ⟨out, hout, hlength, htake⟩ := copyTo_spec buf len.toNat payload (by omega)
      have hsum : (len + payload.length).toNat = len.toNat + payload.length := by omega
      rw [hout, ok_bind, asInt_ok (by omega) (by omega), ok_bind]
      obtain ⟨r, hr, hspec⟩ :=
        ih (show 0 ≤ len + payload.length by omega) (by omega)
          (show (out.length : Int) = d.mtu by omega)
      refine ⟨r, hr, fun buf' len' heq => ?_⟩
      obtain ⟨h0', hlen', hbuf', htake'⟩ := hspec buf' len' heq
      refine ⟨h0', hlen', hbuf', ?_⟩
      rw [htake', hsum, htake, List.flatten_cons, List.append_assoc]

/-- lwIP's packet gets to the device whole, or not at all. -/
theorem commonNetifOutput_spec {d : Device} (h0 : 0 ≤ d.mtu) (hint : d.mtu ≤ intMax)
    {buf : List UInt8} (hbuf : (buf.length : Int) = d.mtu) (payload : List UInt8)
    (next : List (List UInt8)) :
    ∃ r, commonNetifOutput d buf payload next = .ok r ∧
      ∀ packet, r = some packet →
        (packet.length : Int) ≤ d.mtu ∧ packet = (payload :: next).flatten := by
  unfold commonNetifOutput
  split
  · exact ⟨none, rfl, by simp⟩
  split
  · rename_i hnext
    split
    · exact ⟨none, rfl, by simp⟩
    · rename_i hfit
      refine ⟨_, bTapSend_ok (by omega), ?_⟩
      rintro packet heq
      cases heq
      refine ⟨by omega, ?_⟩
      rw [hnext, List.flatten_cons, List.flatten_nil, List.append_nil]
  · obtain ⟨r, hr, hspec⟩ := netifOutputLoop_spec hint (payload :: next) (Int.le_refl 0) h0 hbuf
    rw [hr, ok_bind]
    cases r with
    | none => exact ⟨none, rfl, by simp⟩
    | some x =>
      obtain ⟨buf', len'⟩ := x
      obtain ⟨h0', hlen', hbuf', htake⟩ := hspec buf' len' rfl
      have hlength : (buf'.take len'.toNat).length = len'.toNat := by
        rw [List.length_take]
        omega
      dsimp only
      rw [slice_ok (by omega), ok_bind, List.drop_zero]
      refine ⟨_, bTapSend_ok (by omega), ?_⟩
      rintro packet heq
      cases heq
      refine ⟨by omega, ?_⟩
      rw [htake]
      rfl

/-! ## udpgw -/

theorem UdpAddr.size_le (a : UdpAddr) : a.size ≤ 18 := by
  cases a <;> simp [UdpAddr.size]

theorem addrSize_le (flags : UInt8) : addrSize flags ≤ 18 := by
  unfold addrSize
  split <;> omega

/-- A payload within the UDP MTU makes a packet within the MTU of udpgw. -/
theorem connectionSend_spec {udpMtu : Int} {out : List UInt8}
    (hout : (out.length : Int) = udpMtu + 21) (hint : udpMtu + 21 ≤ 65535) (flags : UInt8)
    (conid : UInt16) (remoteAddr : UdpAddr) {data : List UInt8}
    (hdata : (data.length : Int) ≤ udpMtu) :
    ∃ packet, connectionSend udpMtu out flags conid remoteAddr data = .ok packet ∧
      packet.length = udpgwHeaderSize + remoteAddr.size + data.length := by
  have hsize := remoteAddr.size_le
  have hheader : udpgwHeaderSize = 3 := rfl
  unfold connectionSend
  rw [assert_ok (decide_eq_true hdata), ok_bind]
  obtain ⟨b₁, hb₁, hlen₁, -⟩ := copyTo_spec out 0 (udpgwHeader (remoteAddr.flags flags) conid)
    (by rw [length_udpgwHeader]; omega)
  obtain ⟨b₂, hb₂, hlen₂, -⟩ := copyTo_spec b₁ 3 remoteAddr.bytes
    (by rw [UdpAddr.length_bytes]; omega)
  obtain ⟨b₃, hb₃, hlen₃, -⟩ := copyTo_spec b₂ (3 + remoteAddr.size) data (by omega)
  have hpos : ((udpgwHeaderSize : Int) + remoteAddr.size).toNat = 3 + remoteAddr.size := by omega
  rw [hb₁, ok_bind, asInt_ok (by omega) (by omega), ok_bind, Int.toNat_natCast, hheader, hb₂,
    ok_bind, ← hheader, asInt_ok (by omega) (by omega), ok_bind, hpos, hb₃, ok_bind,
    asInt_ok (by omega) (by omega), ok_bind]
  refine ⟨_, slice_ok (by omega), ?_⟩
  rw [List.length_take, List.length_drop]
  omega

/-- A packet of udpgw is passed on with a payload within the UDP MTU, for a connection that
exists. -/
theorem recvInterfaceHandlerSend_spec (m : DataModel) {udpMtu udpgwMtu : Int}
    (hint : udpgwMtu ≤ 65535) (find : UInt16 → Option (UdpAddr × UdpAddr)) {data : List UInt8}
    (hdata : (data.length : Int) ≤ udpgwMtu) :
    ∃ r, recvInterfaceHandlerSend m udpMtu udpgwMtu find data = .ok r ∧
      ∀ localAddr remoteAddr payload, r = some (localAddr, remoteAddr, payload) →
        (payload.length : Int) ≤ udpMtu ∧ ∃ conid, find conid = some (localAddr, remoteAddr) := by
  have hheader : udpgwHeaderSize = 3 := rfl
  unfold recvInterfaceHandlerSend
  rw [assert_ok (decide_eq_true hdata), ok_bind, asSize_ok m (by omega) (by omega), ok_bind]
  dsimp only
  split
  · exact ⟨none, rfl, by simp⟩
  rw [asInt_ok (by omega) (by omega), ok_bind, asSize_ok m (by omega) (by omega), ok_bind]
  split
  · exact ⟨none, rfl, by simp⟩
  have hsize := addrSize_le (data.getD 0 0)
  rw [slice_ok (by omega), ok_bind, asInt_ok (by omega) (by omega), ok_bind,
    slice_ok (by omega), ok_bind]
  split
  · exact ⟨none, rfl, by simp⟩
  rename_i hfit
  split
  · exact ⟨none, rfl, by simp⟩
  rename_i localAddr remoteAddr hfind
  split
  · exact ⟨none, rfl, by simp⟩
  · refine ⟨_, rfl, ?_⟩
    rintro localAddr' remoteAddr' payload heq
    cases heq
    refine ⟨?_, _, hfind⟩
    rw [List.length_take, List.length_drop]
    omega

/-! ## Runs -/

/-- The udpgw check is behind, and `device_write_buf` is not freed. -/
def Pc.afterMtuCheck : Pc → Bool
  | .setup .udpgwClient | .setup .lwipInitJob | .setup .deviceWriteBuf | .setup .tcpTimer
  | .setup .loopState | .cleanup .loopExit => true
  | pc => pc.inLoop

/-- A run with a udpgw server has the mode when it gets to the check, and an MTU that passed
when it is behind the check. -/
structure State.MtuChecked (s : State) : Prop where
  mode : (s.pc = .setup .udpgwMtu ∨ s.pc.afterMtuCheck = true) →
    s.options.udpgwRemoteServerAddr.isSome = true → s.udpMode = .udpgw
  ok : s.pc.afterMtuCheck = true → s.options.udpgwRemoteServerAddr.isSome = true →
    udpgwMtuOk s.options.tunmtu = true

theorem State.MtuChecked.of_not_after {s : State} (hcheck : s.pc ≠ .setup .udpgwMtu)
    (hafter : s.pc.afterMtuCheck = false) : s.MtuChecked where
  mode h := by
    rcases h with h | h
    · exact absurd h hcheck
    · rw [hafter] at h
      cases h
  ok h := by
    rw [hafter] at h
    cases h

/-- A step that stays behind the check, and changes neither the options nor the mode. -/
theorem State.MtuChecked.congr {s s' : State} (hI : s.MtuChecked)
    (hafter : s.pc.afterMtuCheck = true) (hoptions : s'.options = s.options)
    (hmode : s'.udpMode = s.udpMode) : s'.MtuChecked where
  mode _ := by
    rw [hoptions, hmode]
    exact hI.mode (.inr hafter)
  ok _ := by
    rw [hoptions]
    exact hI.ok hafter

theorem State.MtuChecked.step {s s' : State} {e : Event} (hI : s.MtuChecked)
    (he : enabled s e = true) (hstep : Step s e s') : s'.MtuChecked := by
  cases hstep with
  | start options _ => exact .of_not_after (by simp) rfl
  | @setup step hpc _ =>
    cases step with
    | udpMode =>
      by_cases haddr : s.options.udpgwRemoteServerAddr.isSome = true
      · refine ⟨fun _ _ => ?_, fun hafter => ?_⟩
        · simp only [SetupStep.effect, if_pos haddr]
        · simp only [SetupStep.next, if_pos haddr] at hafter
          cases hafter
      · exact ⟨fun _ h => absurd h haddr, fun _ h => absurd h haddr⟩
    | udpgwMtu =>
      -- the step has the outcome of the check
      obtain ⟨-, hend⟩ := Bool.and_eq_true_iff.mp he
      refine ⟨fun _ => hI.mode (.inl hpc), fun _ _ => ?_⟩
      exact (eq_of_beq hend).symm
    | udpgwClient | lwipInitJob | deviceWriteBuf | tcpTimer | loopState =>
      exact hI.congr (by rw [hpc]; rfl) rfl rfl
    | _ => exact .of_not_after (by simp [SetupStep.next]) rfl
  | @setupFails step label _ _ hlabel =>
    refine .of_not_after (by simp) ?_
    cases step <;> cases hlabel <;> rfl
  | @cleanup label held hpc =>
    refine .of_not_after ?_ ?_ <;> cases label <;> simp [Label.next, Pc.afterMtuCheck, Pc.inLoop]
  | exitLoop hpc | iterate hpc | lwipInit _ hpc | handle hpc | waitForEvents hpc
  | lwipInitFail hpc | terminate _ hpc => exact hI.congr (by rw [hpc]; rfl) rfl rfl
  | stop => exact ⟨hI.mode, hI.ok⟩
  | stopStep => exact ⟨hI.mode, hI.ok⟩

theorem mtuChecked_of_runs {es : List Event} {s : State} (h : tunnel.Runs es (.ok s)) :
    s.MtuChecked := by
  refine Machine.Runs.invariant (I := fun _ s => s.MtuChecked) ?_ ?_ h
  · exact .of_not_after (by simp [tunnel, State.initial]) rfl
  · intro es s e s' _ hI he hs'
    exact hI.step he (step_of_exec he hs')

/-! ## Every packet in bounds -/

/-- What the functions of the device read in a state of the tunnel. -/
def State.toDevice (s : State) : Device :=
  ⟨s.options.tunmtu, udpMtu s.options.tunmtu, s.udpMode, s.quitting⟩

/-- The two MTUs are computed without a fault, and so is everything that is done with a packet:
from the device, to udpgw, from udpgw, and to the device from udpgw or from lwIP. -/
structure InBounds (m : DataModel) (d : Device) : Prop where
  udpMtu : computeUdpMtu d.mtu = .ok d.udpMtu ∧ 0 ≤ d.udpMtu
  udpgwMtu : udpgwComputeMtuBsize m d.udpMtu = udpgwComputeMtu d.udpMtu ∧
    udpgwComputeMtu d.udpMtu ≤ 65535
  fromDevice : d.quitting = false → ∀ data : List UInt8, (data.length : Int) ≤ d.mtu →
    ∃ r, deviceReadHandlerSend m d data = .ok r ∧
      (∀ p, r = .submitted p → (p.data.length : Int) ≤ d.udpMtu) ∧
      ∀ length, r = .pbuf length → length.toNat = data.length
  toUdpgw : ∀ (out : List UInt8) (flags : UInt8) (conid : UInt16) (remoteAddr : UdpAddr)
    (data : List UInt8), (out.length : Int) = udpgwComputeMtu d.udpMtu →
    (data.length : Int) ≤ d.udpMtu →
    ∃ packet, connectionSend d.udpMtu out flags conid remoteAddr data = .ok packet ∧
      packet.length = udpgwHeaderSize + remoteAddr.size + data.length ∧
      (packet.length : Int) ≤ udpgwComputeMtu d.udpMtu
  fromUdpgw : ∀ (find : UInt16 → Option (UdpAddr × UdpAddr)) (data : List UInt8),
    (data.length : Int) ≤ udpgwComputeMtu d.udpMtu →
    ∃ r, recvInterfaceHandlerSend m d.udpMtu (udpgwComputeMtu d.udpMtu) find data = .ok r ∧
      ∀ localAddr remoteAddr payload, r = some (localAddr, remoteAddr, payload) →
        (payload.length : Int) ≤ d.udpMtu ∧ ∃ conid, find conid = some (localAddr, remoteAddr)
  reply : ∀ (buf : List UInt8) (localAddr remoteAddr : UdpAddr) (data : List UInt8),
    (buf.length : Int) = d.mtu → localAddr.isIpv6 = remoteAddr.isIpv6 →
    (data.length : Int) ≤ intMax →
    ∃ r, udpSendPacketToDevice m d buf localAddr remoteAddr data = .ok r ∧
      ∀ packet, r = some packet →
        (packet.length : Int) ≤ d.mtu ∧ packet.length = 28 + data.length ∧ TrueLengths packet
  netifOutput : ∀ (buf payload : List UInt8) (next : List (List UInt8)),
    (buf.length : Int) = d.mtu →
    ∃ r, commonNetifOutput d buf payload next = .ok r ∧
      ∀ packet, r = some packet →
        (packet.length : Int) ≤ d.mtu ∧ packet = (payload :: next).flatten

/-- In a run with a udpgw server that got past the check, every packet is in bounds. -/
theorem mtu_in_bounds (m : DataModel) {es : List Event} {s : State}
    (h : tunnel.Runs es (.ok s)) (hafter : s.pc.afterMtuCheck = true)
    (haddr : s.options.udpgwRemoteServerAddr.isSome = true) (h0 : 0 ≤ s.options.tunmtu)
    (hint : s.options.tunmtu ≤ intMax) : InBounds m s.toDevice := by
  have hI := mtuChecked_of_runs h
  have hmode := hI.mode (.inr hafter) haddr
  have hok := hI.ok hafter haddr
  obtain ⟨hsum, hfit⟩ := udpgwComputeMtu_of_ok hok
  have hmax : intMax = 2147483647 := rfl
  have hnonneg := udpMtu_nonneg s.options.tunmtu
  constructor
  case udpMtu => exact ⟨computeUdpMtu_eq h0 hint, hnonneg⟩
  case udpgwMtu =>
    refine ⟨udpgwComputeMtuBsize_eq m hnonneg ?_, ?_⟩
    · change udpMtu s.options.tunmtu ≤ intMax
      omega
    · change udpgwComputeMtu (udpMtu s.options.tunmtu) ≤ 65535
      omega
  case fromDevice =>
    intro hquitting data hdata
    exact deviceReadHandlerSend_spec m hquitting (Int.le_trans hdata hint)
  case toUdpgw =>
    intro out flags conid remoteAddr data hout hdata
    obtain ⟨packet, hpacket, hlen⟩ := connectionSend_spec (hout.trans hsum) hfit flags conid
      remoteAddr hdata
    refine ⟨packet, hpacket, hlen, ?_⟩
    have hheader : udpgwHeaderSize = 3 := rfl
    have hsize := remoteAddr.size_le
    change (packet.length : Int) ≤ udpgwComputeMtu (udpMtu s.options.tunmtu)
    change (data.length : Int) ≤ udpMtu s.options.tunmtu at hdata
    omega
  case fromUdpgw =>
    intro find data hdata
    refine recvInterfaceHandlerSend_spec m ?_ find hdata
    change udpgwComputeMtu (udpMtu s.options.tunmtu) ≤ 65535
    omega
  case reply =>
    intro buf localAddr remoteAddr data hbuf hfamily hdata
    exact udpSendPacketToDevice_spec m hmode hint hbuf hfamily hdata
  case netifOutput =>
    intro buf payload next hbuf
    exact commonNetifOutput_spec h0 hint hbuf payload next

/-- `mtu_in_bounds`, in the loop of a run with an MTU of 1500. -/
theorem mtu_in_bounds_1500 :
    ∃ s, tunnel.Runs upToLoop (.ok s) ∧ InBounds ⟨64, by decide⟩ s.toDevice := by
  have hends : tunnel.ends upToLoop (fun s => s.pc == .loopHead &&
      s.options == ⟨3, 1500, some "127.0.0.1:7300"⟩) = true := by decide
  obtain ⟨s, hr, hs⟩ := Machine.runs_of_ends hends
  obtain ⟨hpc, hoptions⟩ := Bool.and_eq_true_iff.mp hs
  have hoptions := eq_of_beq hoptions
  refine ⟨s, hr, mtu_in_bounds _ hr ?_ ?_ ?_ ?_⟩
  · rw [eq_of_beq hpc]
    rfl
  · rw [hoptions]
    rfl
  · rw [hoptions]
    decide
  · rw [hoptions]
    decide

end Lightsocks.Tunnel
