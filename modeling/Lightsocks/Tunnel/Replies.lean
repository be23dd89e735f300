import Lightsocks.Udpgw.Wire

/-!
# Replies are read back

`udp_send_packet_to_device` writes the headers that `process_device_udp_packet` checks: the
version and the lengths, the checksum of the IP header and that of the datagram. What is written
to the device for a datagram of udpgw would, read from the device, be submitted as the same
datagram in the other direction. Both use `udp_checksum`, so that they agree also where it is not
the checksum of UDP: a checksum of zero is to be written as `0xFFFF`.
-/

namespace Lightsocks.Tunnel

open Lightsocks.Lib
open Udpgw (readBe32_be32 udpPacket headerConid headerConid_udpgwHeader addrSize_flags)

/-! ## Headers -/

theorem Ipv4Header.parse_bytes (h : Ipv4Header) (rest : List UInt8) :
    Ipv4Header.parse (h.bytes ++ rest) = h := by
  have hsource : (Ipv4Header.parse (h.bytes ++ rest)).sourceAddress = h.sourceAddress :=
    readBe32_be32 h.sourceAddress (be32 h.destinationAddress ++ rest)
  have hdestination :
      (Ipv4Header.parse (h.bytes ++ rest)).destinationAddress = h.destinationAddress :=
    readBe32_be32 h.destinationAddress rest
  have hidentification : (Ipv4Header.parse (h.bytes ++ rest)).identification = h.identification :=
    ofNat_be16 h.identification
  have hflags : (Ipv4Header.parse (h.bytes ++ rest)).flags3Fragmentoffset13 =
      h.flags3Fragmentoffset13 := ofNat_be16 h.flags3Fragmentoffset13
  have hchecksum : (Ipv4Header.parse (h.bytes ++ rest)).checksum = h.checksum :=
    ofNat_be16 h.checksum
  have htotal := h.parse_totalLength rest
  cases h
  simp only [Ipv4Header.parse, Ipv4Header.mk.injEq] at *
  exact ⟨rfl, rfl, htotal, hidentification, hflags, rfl, rfl, hchecksum, hsource, hdestination⟩

theorem UdpHeader.parse_bytes (h : UdpHeader) (rest : List UInt8) :
    UdpHeader.parse (h.bytes ++ rest) = h := by
  have hsource : (UdpHeader.parse (h.bytes ++ rest)).sourcePort = h.sourcePort :=
    ofNat_be16 h.sourcePort
  have hdest : (UdpHeader.parse (h.bytes ++ rest)).destPort = h.destPort := ofNat_be16 h.destPort
  have hlength := h.parse_length rest
  have hchecksum : (UdpHeader.parse (h.bytes ++ rest)).checksum = h.checksum :=
    ofNat_be16 h.checksum
  cases h
  simp only [UdpHeader.parse, UdpHeader.mk.injEq] at *
  exact ⟨hsource, hdest, hlength, hchecksum⟩

/-! ## Checks -/

/-- A header of five words, with its own length and checksum, is accepted. -/
theorem ipv4Check_bytes (m : DataModel) {h : Ipv4Header} {payload : List UInt8}
    (hversion : h.version4Ihl4 = 69) (htotal : h.totalLength.toNat = 20 + payload.length)
    (hchecksum : h.checksum = ipv4Checksum { h with checksum := 0 } []) :
    ipv4Check m (h.bytes ++ payload) = .ok (some (h, payload)) := by
  have hsize : ipv4HeaderSize = 20 := rfl
  have hlt := h.totalLength.toNat_lt
  have hlen : (h.bytes ++ payload).length = 20 + payload.length := by
    rw [List.length_append, Ipv4Header.length_bytes]
  have hihl : h.version4Ihl4.toNat = 69 := by
    rw [hversion]
    rfl
  unfold ipv4Check
  rw [asSize_ok m (by omega) (by omega), ok_bind]
  dsimp only
  rw [if_neg (by omega), h.parse_bytes payload, if_neg (by omega), if_neg (by omega),
    if_neg (by omega), if_neg (by omega), if_neg (by omega), slice_ok (by omega), ok_bind]
  -- there are no options behind the header
  have hextra : ((h.bytes ++ payload).drop ipv4HeaderSize).take
      (h.version4Ihl4.toNat % 16 * 4 - ipv4HeaderSize) = [] := by
    rw [hihl, hsize, List.take_zero]
  have hrest : ((h.bytes ++ payload).drop (h.version4Ihl4.toNat % 16 * 4)) = payload := by
    rw [hihl]
    exact List.drop_left' h.length_bytes
  rw [hextra, if_neg (not_not.mpr hchecksum), asInt_ok (by omega) (by omega), ok_bind,
    slice_ok (by omega), ok_bind, hrest, List.take_of_length_le (by omega)]
  rfl

/-- So is a header of a datagram with its length. -/
theorem udpCheck_bytes (m : DataModel) {h : UdpHeader} {payload : List UInt8}
    (hlength : h.length.toNat = 8 + payload.length) :
    udpCheck m (h.bytes ++ payload) = .ok (some (h, payload)) := by
  have hsize : udpHeaderSize = 8 := rfl
  have hlt := h.length.toNat_lt
  have hlen : (h.bytes ++ payload).length = 8 + payload.length := by
    rw [List.length_append, UdpHeader.length_bytes]
  have hrest : (h.bytes ++ payload).drop udpHeaderSize = payload :=
    List.drop_left' h.length_bytes
  unfold udpCheck
  rw [asSize_ok m (by omega) (by omega), ok_bind, if_neg (by omega), h.parse_bytes payload,
    asInt_ok (by omega) (by omega), ok_bind]
  dsimp only
  rw [asSize_ok m (by omega) (by omega), ok_bind, if_neg (by omega), if_neg (by omega),
    asInt_ok (by omega) (by omega), ok_bind, slice_ok (by omega), ok_bind, hrest,
    List.take_of_length_le (by omega)]
  rfl

/-- A datagram that passes both checks is submitted, from the source of the packet to its
destination, when udpgw has room for it. -/
theorem processDeviceUdpPacket_bytes (m : DataModel) {d : Device} (iph : Ipv4Header)
    (udph : UdpHeader) {data : List UInt8} (hmode : d.udpMode ≠ .none)
    (hprotocol : iph.protocol = ipv4ProtocolUdp) (hversion : iph.version4Ihl4 = 69)
    (htotal : iph.totalLength.toNat = 28 + data.length)
    (hiph : iph.checksum = ipv4Checksum { iph with checksum := 0 } [])
    (hlength : udph.length.toNat = 8 + data.length)
    (hudph : udpChecksum { udph with checksum := 0 } data iph.sourceAddress
      iph.destinationAddress = .ok udph.checksum)
    (hroom : (data.length : Int) ≤ d.udpMtu) :
    processDeviceUdpPacket m d (iph.bytes ++ (udph.bytes ++ data)) =
      .ok (some ⟨.ipv4 iph.sourceAddress udph.sourcePort,
        .ipv4 iph.destinationAddress udph.destPort, false, data⟩) := by
  have hsize : ipv4HeaderSize = 20 := rfl
  have hlt := iph.totalLength.toNat_lt
  have hdatagram : (udph.bytes ++ data).length = 8 + data.length := by
    rw [List.length_append, UdpHeader.length_bytes]
  have hlen : (iph.bytes ++ (udph.bytes ++ data)).length = 28 + data.length := by
    rw [List.length_append, Ipv4Header.length_bytes]
    omega
  have hnibble : ((iph.bytes ++ (udph.bytes ++ data)).getD 0 0).toNat / 16 = 4 := by
    change iph.version4Ihl4.toNat / 16 = 4
    rw [hversion]
    rfl
  have hudp : (iph.bytes ++ (udph.bytes ++ data)).getD 9 0 = ipv4ProtocolUdp := hprotocol
  have hnil : iph.bytes ++ (udph.bytes ++ data) ≠ [] := by
    intro hnil
    rw [hnil, List.length_nil] at hlen
    omega
  unfold processDeviceUdpPacket
  rw [asSize_ok m (by omega) (by omega), ok_bind, if_neg hmode,
    if_neg (not_or.mpr ⟨hnil, not_not.mpr hnibble⟩),
    if_neg (not_or.mpr ⟨by omega, not_not.mpr hudp⟩),
    ipv4Check_bytes m hversion (by omega) hiph, ok_bind]
  dsimp only
  rw [udpCheck_bytes m hlength, ok_bind]
  dsimp only
  rw [hudph, ok_bind, if_neg (not_not.mpr rfl), asInt_ok (by omega) (by omega), ok_bind,
    if_neg (by omega)]
  rfl

/-! ## The round trip -/

/-- What is sent is read back as the same datagram, from the remote address to the local one. -/
theorem processDeviceUdpPacket_reply (m : DataModel) {d : Device} {buf : List UInt8}
    (hmode : d.udpMode ≠ .none) (hint : d.mtu ≤ intMax) (hudpMtu : d.udpMtu = udpMtu d.mtu)
    (hbuf : (buf.length : Int) = d.mtu) (localIp remoteIp : UInt32)
    (localPort remotePort : UInt16) {data : List UInt8} (hlimit : data.length ≤ 65507)
    (hroom : 28 + data.length ≤ d.mtu) :
    ∃ packet, udpSendPacketToDevice m d buf (.ipv4 localIp localPort) (.ipv4 remoteIp remotePort)
        data = .ok (some packet) ∧
      processDeviceUdpPacket m d packet = .ok (some ⟨.ipv4 remoteIp remotePort,
        .ipv4 localIp localPort, false, data⟩) := by
  obtain ⟨totalLength, length, checksum, htotal, hlength, hchecksum, hsend⟩ :=
    udpSendPacketToDevice_fits m hmode hint hbuf localIp remoteIp localPort remotePort hlimit
      hroom
  have hfit : (data.length : Int) ≤ d.udpMtu := by
    have hle : d.mtu - 28 ≤ udpMtu d.mtu := Int.le_max_left _ _
    omega
  -- the checksum of the IP header was computed with the field as zero
  exact ⟨_, hsend, processDeviceUdpPacket_bytes m (replyIpv4Header totalLength remoteIp localIp)
    ⟨remotePort, localPort, length, checksum⟩ hmode rfl rfl htotal rfl hlength hchecksum hfit⟩

/-- A reply is sent exactly when the length fields and the MTU have room for it, and is then
read back. -/
theorem reply_round_trip (m : DataModel) {d : Device} {buf : List UInt8}
    (hmode : d.udpMode ≠ .none) (hint : d.mtu ≤ intMax) (hudpMtu : d.udpMtu = udpMtu d.mtu)
    (hbuf : (buf.length : Int) = d.mtu) (localIp remoteIp : UInt32)
    (localPort remotePort : UInt16) {data : List UInt8} (hdata : (data.length : Int) ≤ intMax) :
    ∃ r, udpSendPacketToDevice m d buf (.ipv4 localIp localPort) (.ipv4 remoteIp remotePort) data
        = .ok r ∧
      (r.isSome = true ↔ data.length ≤ 65507 ∧ 28 + data.length ≤ d.mtu) ∧
      ∀ packet, r = some packet →
        processDeviceUdpPacket m d packet = .ok (some ⟨.ipv4 remoteIp remotePort,
          .ipv4 localIp localPort, false, data⟩) := by
  by_cases hlarge : 65507 < data.length ∨ d.mtu < 28 + data.length
  · have hsend := udpSendPacketToDevice_large m buf hmode (by omega) hint localIp remoteIp
      localPort remotePort hdata hlarge
    refine ⟨none, hsend, ⟨fun hsome => absurd hsome (by simp), fun hfits => ?_⟩, by simp⟩
    omega
  · obtain ⟨hlimit, hroom⟩ := not_or.mp hlarge
    have hlimit : data.length ≤ 65507 := Nat.not_lt.mp hlimit
    have hroom : 28 + data.length ≤ d.mtu := Int.not_lt.mp hroom
    obtain ⟨packet, hsend, hread⟩ := processDeviceUdpPacket_reply m hmode hint hudpMtu hbuf
      localIp remoteIp localPort remotePort hlimit hroom
    refine ⟨some packet, hsend, ⟨fun _ => ⟨hlimit, hroom⟩, fun _ => rfl⟩, ?_⟩
    rintro packet' heq
    cases heq
    exact hread

/-- A reply of three bytes through a device with an MTU of 64. -/
theorem reply_round_trip_three :
    ∃ packet, udpSendPacketToDevice ⟨64, by decide⟩ ⟨64, 36, .udpgw, false⟩
        (List.replicate 64 0) (.ipv4 167772161 4000) (.ipv4 134744072 53) [1, 2, 3]
          = .ok (some packet) ∧
      processDeviceUdpPacket ⟨64, by decide⟩ ⟨64, 36, .udpgw, false⟩ packet
        = .ok (some ⟨.ipv4 134744072 53, .ipv4 167772161 4000, false, [1, 2, 3]⟩) := by
  obtain ⟨r, hr, hsome, hread⟩ := @reply_round_trip ⟨64, by decide⟩ ⟨64, 36, .udpgw, false⟩
    (List.replicate 64 0) (by decide) (by decide) (by decide) (by decide) 167772161 134744072
    4000 53 [1, 2, 3] (by decide)
  obtain ⟨packet, rfl⟩ := Option.isSome_iff_exists.mp (hsome.mpr ⟨by decide, by decide⟩)
  exact ⟨packet, hr, hread packet rfl⟩

/-! ## Answers of udpgw -/

/-- An answer with the id and the remote address of a connection is passed on for it. -/
theorem recvInterfaceHandlerSend_udpPacket (m : DataModel) {udpMtu udpgwMtu : Int}
    (hint : udpgwMtu ≤ 65535) (hmtu : udpMtu + 21 ≤ udpgwMtu)
    {find : UInt16 → Option (UdpAddr × UdpAddr)} {flags : UInt8} {conid : UInt16}
    {localAddr remoteAddr : UdpAddr} (hflags : flags &&& udpgwClientFlagIpv6 = 0)
    (hfind : find conid = some (localAddr, remoteAddr)) {data : List UInt8}
    (hdata : (data.length : Int) ≤ udpMtu) :
    recvInterfaceHandlerSend m udpMtu udpgwMtu find (udpPacket flags conid remoteAddr data) =
      .ok (some (localAddr, remoteAddr, data)) := by
  have hheader : udpgwHeaderSize = 3 := rfl
  have hsize := remoteAddr.size_le
  have hlen : (udpPacket flags conid remoteAddr data).length =
      3 + remoteAddr.size + data.length := by
    rw [udpPacket, List.length_append, List.length_append, length_udpgwHeader,
      UdpAddr.length_bytes]
    omega
  have haddrSize : addrSize ((udpPacket flags conid remoteAddr data).getD 0 0) =
      remoteAddr.size := addrSize_flags hflags remoteAddr
  have hconid : headerConid (udpPacket flags conid remoteAddr data) = conid :=
    headerConid_udpgwHeader _ conid _
  have hdrop : (udpPacket flags conid remoteAddr data).drop 3 = remoteAddr.bytes ++ data :=
    List.drop_left' (length_udpgwHeader _ conid)
  have haddr : (remoteAddr.bytes ++ data).take remoteAddr.size = remoteAddr.bytes :=
    List.take_left' remoteAddr.length_bytes
  have hpayload : (udpPacket flags conid remoteAddr data).drop (3 + remoteAddr.size) = data := by
    rw [← List.drop_drop, hdrop]
    exact List.drop_left' remoteAddr.length_bytes
  unfold headerConid at hconid
  unfold recvInterfaceHandlerSend
  rw [assert_ok (decide_eq_true (by omega)), ok_bind, asSize_ok m (by omega) (by omega), ok_bind]
  dsimp only
  rw [if_neg (by omega), asInt_ok (by omega) (by omega), ok_bind,
    asSize_ok m (by omega) (by omega), ok_bind, haddrSize, if_neg (by omega),
    slice_ok (by omega), ok_bind, asInt_ok (by omega) (by omega), ok_bind,
    slice_ok (by omega), ok_bind, if_neg (by omega), hheader, hdrop, haddr, hpayload, hconid,
    hfind, List.take_of_length_le (by omega)]
  dsimp only
  rw [if_neg (not_not.mpr rfl)]
  rfl

/-- An answer within the MTU of udpgw is passed on, and gets to the device as a datagram from
the remote address of its connection, unless the length field of an IP packet cannot hold it. -/
theorem answer_round_trip (m : DataModel) {d : Device} {buf : List UInt8}
    (hmode : d.udpMode ≠ .none) (hmin : 28 ≤ d.mtu) (hint : d.mtu ≤ intMax)
    (hok : udpgwMtuOk d.mtu = true) (hudpMtu : d.udpMtu = udpMtu d.mtu)
    (hbuf : (buf.length : Int) = d.mtu) {find : UInt16 → Option (UdpAddr × UdpAddr)}
    {flags : UInt8} {conid : UInt16} {localIp remoteIp : UInt32} {localPort remotePort : UInt16}
    (hflags : flags &&& udpgwClientFlagIpv6 = 0)
    (hfind : find conid = some (.ipv4 localIp localPort, .ipv4 remoteIp remotePort))
    {data : List UInt8} (hdata : (data.length : Int) ≤ d.udpMtu) :
    recvInterfaceHandlerSend m d.udpMtu (udpgwComputeMtu d.udpMtu) find
        (udpPacket flags conid (.ipv4 remoteIp remotePort) data) =
      .ok (some (.ipv4 localIp localPort, .ipv4 remoteIp remotePort, data)) ∧
    (65507 < data.length → udpSendPacketToDevice m d buf (.ipv4 localIp localPort)
        (.ipv4 remoteIp remotePort) data = .ok none) ∧
    (data.length ≤ 65507 → ∃ packet, udpSendPacketToDevice m d buf (.ipv4 localIp localPort)
        (.ipv4 remoteIp remotePort) data = .ok (some packet) ∧
      processDeviceUdpPacket m d packet = .ok (some ⟨.ipv4 remoteIp remotePort,
        .ipv4 localIp localPort, false, data⟩)) := by
  obtain ⟨hsum, hfit⟩ := udpgwComputeMtu_of_ok hok
  rw [← hudpMtu] at hsum hfit
  have hmax : intMax = 2147483647 := rfl
  -- the UDP MTU is the MTU without the two headers
  have hroom : udpMtu d.mtu = d.mtu - 28 := Int.max_eq_left (by omega)
  refine ⟨recvInterfaceHandlerSend_udpPacket m (by omega) (by omega) hflags hfind hdata,
    fun hlarge => ?_, fun hlimit => ?_⟩
  · exact udpSendPacketToDevice_large m buf hmode (by omega) hint localIp remoteIp localPort
      remotePort (by omega) (.inl hlarge)
  · exact processDeviceUdpPacket_reply m hmode hint hudpMtu hbuf localIp remoteIp localPort
      remotePort hlimit (by omega)

/-- With the largest MTU that the udpgw check lets pass, udpgw may send an answer that the
client passes on and the device is not given. -/
theorem answer_round_trip_refused :
    recvInterfaceHandlerSend ⟨64, by decide⟩ 65514 65535
        (fun _ => some (.ipv4 167772161 4000, .ipv4 134744072 53))
        (udpPacket 0 5 (.ipv4 134744072 53) (List.replicate 65508 7)) =
      .ok (some (.ipv4 167772161 4000, .ipv4 134744072 53, List.replicate 65508 7)) ∧
    udpSendPacketToDevice ⟨64, by decide⟩ ⟨65542, 65514, .udpgw, false⟩
        (List.replicate 65542 0) (.ipv4 167772161 4000) (.ipv4 134744072 53)
        (List.replicate 65508 7) = .ok none := by
  have hlength : (List.replicate 65508 (7 : UInt8)).length = 65508 := List.length_replicate
  have hbuf : ((List.replicate 65542 (0 : UInt8)).length : Int) = 65542 :=
    congrArg Nat.cast List.length_replicate
  have hdata : ((List.replicate 65508 (7 : UInt8)).length : Int) ≤ 65514 := by omega
  obtain ⟨hpassed, hrefused, -⟩ := @answer_round_trip ⟨64, by decide⟩
    ⟨65542, 65514, .udpgw, false⟩ _ (by decide) (by decide) (by decide) (by decide) (by decide)
    hbuf (fun _ => some (.ipv4 167772161 4000, .ipv4 134744072 53)) 0 5 _ _ _ _ (by decide) rfl
    _ hdata
  exact ⟨hpassed, hrefused (by omega)⟩

/-! ## The checksum of all ones -/

theorem checksumSummer_le (data : List UInt8) : 2 * checksumSummer data ≤ 65535 * data.length := by
  fun_induction checksumSummer data with
  | case1 a b rest ih =>
    have ha := a.toNat_lt
    have hb := b.toNat_lt
    simp only [List.length_cons]
    omega
  | case2 data => omega

/-- The sum is folded into 16 bits, and is not zero unless it was. -/
theorem addCarries_bounds {t : Nat} (h0 : 0 < t) (h : t < 2 ^ 32) :
    0 < addCarries 3 t ∧ addCarries 3 t ≤ 65535 := by
  simp only [addCarries]
  split
  · omega
  split
  · omega
  split
  · omega
  · omega

/-- `t` is complemented in 32 bits and so is never zero: the checksum is `0` where it should be
`0xFFFF`. -/
theorem udpChecksum_ne_max (header : UdpHeader) {payload : List UInt8}
    (sourceAddr destAddr : UInt32) (h : payload.length ≤ 65527) :
    Returns (udpChecksum header payload sourceAddr destAddr) fun x => x ≠ 65535 := by
  have hlen : (UInt16.ofNat payload.length).toNat = payload.length := by
    rw [UInt16.toNat_ofNat']
    omega
  have hpayload := checksumSummer_le payload
  have hdropLast := checksumSummer_le payload.dropLast
  have hheader := checksumSummer_le header.bytes
  have hsource := checksumSummer_le (be32 sourceAddr)
  have hdest := checksumSummer_le (be32 destAddr)
  have hlast := (payload.getLast?.getD 0).toNat_lt
  have hprotocol : ipv4ProtocolUdp.toNat = 17 := rfl
  rw [length_be32] at hsource hdest
  rw [UdpHeader.length_bytes] at hheader
  rw [List.length_dropLast] at hdropLast
  have heven : 2 * checksumSummer (if payload.length % 2 = 0 then payload else payload.dropLast) ≤
      65535 * payload.length := by
    split <;> omega
  have hodd : (if payload.length % 2 = 0 then 0 else 256 * (payload.getLast?.getD 0).toNat) ≤
      65280 := by
    split <;> omega
  unfold udpChecksum
  apply Returns.bind_eq (asU16_ok (by omega) (by omega))
  rw [Int.toNat_natCast, hlen, udpHeaderSize]
  apply Returns.bind_eq (asU16_ok (by omega) (by omega))
  apply Returns.pure
  generalize UInt16.ofNat (Int.toNat _) = x
  have hx := x.toNat_lt
  -- the protocol alone makes the sum positive, and it does not overflow
  rw [Nat.mod_eq_of_lt (by omega)]
  obtain ⟨hpos, hfold⟩ := addCarries_bounds
    (t := checksumSummer (be32 sourceAddr) + checksumSummer (be32 destAddr) +
      ipv4ProtocolUdp.toNat + x.toNat + checksumSummer header.bytes +
      checksumSummer (if payload.length % 2 = 0 then payload else payload.dropLast) +
      (if payload.length % 2 = 0 then 0 else 256 * (payload.getLast?.getD 0).toNat))
    (by omega) (by omega)
  rw [if_neg (by omega)]
  intro hmax
  have hvalue := congrArg UInt16.toNat hmax
  rw [UInt16.toNat_ofNat'] at hvalue
  have hword : (65535 : UInt16).toNat = 65535 := rfl
  omega

/-- `udp_checksum` never gives `0xFFFF`, and so no datagram with `0xFFFF` for its checksum is
submitted, although that is how a checksum of zero is written. -/
theorem full_checksum_refused (m : DataModel) (d : Device) {data : List UInt8}
    (hdata : (data.length : Int) ≤ intMax) :
    (∀ (header : UdpHeader) (payload : List UInt8) (sourceAddr destAddr : UInt32),
      payload.length ≤ 65527 →
        Returns (udpChecksum header payload sourceAddr destAddr) fun x => x ≠ 65535) ∧
    (readBe16 data ((data.getD 0 0).toNat % 16 * 4 + 6) = 65535 →
      processDeviceUdpPacket m d data = .ok none) := by
  refine ⟨fun header payload => udpChecksum_ne_max header, fun hfull => ?_⟩
  obtain ⟨r, hr, haccepts⟩ := processDeviceUdpPacket_spec m d hdata
  cases r with
  | none => exact hr
  | some p =>
    obtain ⟨-, hword, udph, sourceAddr, destAddr, hchecksum⟩ := haccepts p rfl
    obtain ⟨x, hx, hne⟩ := udpChecksum_ne_max udph sourceAddr destAddr hword
    cases hx.symm.trans hchecksum
    exact absurd hfull hne

/-- A datagram of two bytes that make the checksum zero: it is computed as another one than
`0xFFFF`, refused with `0xFFFF`, and submitted with the `0` that stands for none. -/
theorem full_checksum_refused_two :
    Returns (udpChecksum ⟨4000, 53, 10, 0⟩ [213, 244] 167772161 134744072) (fun x => x ≠ 65535) ∧
    processDeviceUdpPacket ⟨64, by decide⟩ ⟨1500, 1472, .udpgw, false⟩
      [69, 0, 0, 30, 0, 0, 0, 0, 64, 17, 96, 191, 10, 0, 0, 1, 8, 8, 8, 8,
        15, 160, 0, 53, 0, 10, 255, 255, 213, 244] = .ok none ∧
    processDeviceUdpPacket ⟨64, by decide⟩ ⟨1500, 1472, .udpgw, false⟩
      [69, 0, 0, 30, 0, 0, 0, 0, 64, 17, 96, 191, 10, 0, 0, 1, 8, 8, 8, 8,
        15, 160, 0, 53, 0, 10, 0, 0, 213, 244] =
      .ok (some ⟨.ipv4 167772161 4000, .ipv4 134744072 53, false, [213, 244]⟩) := by
  obtain ⟨hchecksum, hrefused⟩ := @full_checksum_refused ⟨64, by decide⟩
    ⟨1500, 1472, .udpgw, false⟩
    [69, 0, 0, 30, 0, 0, 0, 0, 64, 17, 96, 191, 10, 0, 0, 1, 8, 8, 8, 8,
      15, 160, 0, 53, 0, 10, 255, 255, 213, 244] (by decide)
  exact ⟨hchecksum _ _ _ _ (by decide), hrefused (by decide), by decide +kernel⟩

end Lightsocks.Tunnel
