import Lightsocks.Lib.CInt
import Lightsocks.Tunnel.Engine

/-!
# UDP packets between the device, udpgw and lwIP

`process_device_udp_packet`, `udp_send_packet_to_device` and `common_netif_output` of the
tunnel, and the two functions of `UdpGwClient` that bound what they exchange with udpgw. Every
`int` operation, every comparison with a `size_t` and every store into 16 bits goes through
the checked operations of `Lib.CInt`. A slice of a buffer is the list of its bytes, so
`data_len` is a length.

`startTun2socks` leaves `netif_ip6addr` and `udpgw_transparent_dns` unset.
-/

namespace Lightsocks.Tunnel

open Lightsocks.Lib

/-! ## Addresses and headers -/

/-- A `BAddr` of a datagram. -/
inductive UdpAddr
  | ipv4 (ip : UInt32) (port : UInt16)
  | ipv6 (ip : Vector UInt8 16) (port : UInt16)
  deriving DecidableEq, Repr

def be16 (x : UInt16) : List UInt8 := [UInt8.ofNat (x.toNat / 256), UInt8.ofNat x.toNat]

def be32 (x : UInt32) : List UInt8 :=
  [UInt8.ofNat (x.toNat / 16777216), UInt8.ofNat (x.toNat / 65536),
    UInt8.ofNat (x.toNat / 256), UInt8.ofNat x.toNat]

/-- `badvpn_read_be16` at an offset. -/
def readBe16 (data : List UInt8) (i : Nat) : UInt16 :=
  UInt16.ofNat (256 * (data.getD i 0).toNat + (data.getD (i + 1) 0).toNat)

def readBe32 (data : List UInt8) (i : Nat) : UInt32 :=
  UInt32.ofNat (65536 * (readBe16 data i).toNat + (readBe16 data (i + 2)).toNat)

/-- `struct ipv4_header`, each member as the number it stands for. -/
structure Ipv4Header where
  version4Ihl4 : UInt8
  ds : UInt8
  totalLength : UInt16
  identification : UInt16
  flags3Fragmentoffset13 : UInt16
  ttl : UInt8
  protocol : UInt8
  checksum : UInt16
  sourceAddress : UInt32
  destinationAddress : UInt32
  deriving DecidableEq, Repr

def Ipv4Header.parse (data : List UInt8) : Ipv4Header where
  version4Ihl4 := data.getD 0 0
  ds := data.getD 1 0
  totalLength := readBe16 data 2
  identification := readBe16 data 4
  flags3Fragmentoffset13 := readBe16 data 6
  ttl := data.getD 8 0
  protocol := data.getD 9 0
  checksum := readBe16 data 10
  sourceAddress := readBe32 data 12
  destinationAddress := readBe32 data 16

def Ipv4Header.bytes (h : Ipv4Header) : List UInt8 :=
  [h.version4Ihl4, h.ds] ++ be16 h.totalLength ++ be16 h.identification ++
    be16 h.flags3Fragmentoffset13 ++ [h.ttl, h.protocol] ++ be16 h.checksum ++
    be32 h.sourceAddress ++ be32 h.destinationAddress

/-- `struct udp_header`. -/
structure UdpHeader where
  sourcePort : UInt16
  destPort : UInt16
  length : UInt16
  checksum : UInt16
  deriving DecidableEq, Repr

def UdpHeader.parse (data : List UInt8) : UdpHeader where
  sourcePort := readBe16 data 0
  destPort := readBe16 data 2
  length := readBe16 data 4
  checksum := readBe16 data 6

def UdpHeader.bytes (h : UdpHeader) : List UInt8 :=
  be16 h.sourcePort ++ be16 h.destPort ++ be16 h.length ++ be16 h.checksum

/-- The sizes of `struct ipv4_header` and `struct udp_header`. -/
def ipv4HeaderSize : Nat := 20

def udpHeaderSize : Nat := 8

/-- `IPV4_PROTOCOL_UDP`. -/
def ipv4ProtocolUdp : UInt8 := 17

/-! ## Checksums -/

/-- `udp_checksum_summer`, for an even number of bytes. -/
def checksumSummer : List UInt8 → Nat
  | a :: b :: rest => 256 * a.toNat + b.toNat + checksumSummer rest
  | _ => 0

/-- The loop that adds the carries to the low 16 bits; three rounds are enough for the 32 bits
of the sum. -/
def addCarries : Nat → Nat → Nat
  | 0, t => t
  | rounds + 1, t => if t / 65536 = 0 then t else addCarries rounds (t % 65536 + t / 65536)

/-- `ipv4_checksum`. -/
def ipv4Checksum (header : Ipv4Header) (extra : List UInt8) : UInt16 :=
  let t := (checksumSummer header.bytes + checksumSummer extra) % 2 ^ 32
  UInt16.ofNat (2 ^ 32 - 1 - addCarries 3 t)

/-- `udp_checksum`. The length of the payload is passed as a `uint16_t`, and goes into the sum
with that of the header in another. An odd last byte is the high byte of a word. -/
def udpChecksum (header : UdpHeader) (payload : List UInt8) (sourceAddr destAddr : UInt32) :
    Except CFault UInt16 := do
  let payloadLen ← asU16 payload.length
  let x ← asU16 (udpHeaderSize + payloadLen.toNat)
  let even := if payloadLen.toNat % 2 = 0 then payload else payload.dropLast
  let last := if payloadLen.toNat % 2 = 0 then 0 else 256 * (payload.getLast?.getD 0).toNat
  let t := (checksumSummer (be32 sourceAddr) + checksumSummer (be32 destAddr) +
    ipv4ProtocolUdp.toNat + x.toNat + checksumSummer header.bytes +
    checksumSummer even + last) % 2 ^ 32
  let t := 2 ^ 32 - 1 - addCarries 3 t
  return UInt16.ofNat (if t = 0 then 65535 else t)

/-! ## Parsing -/

/-- `ipv4_check`: the header and the payload. -/
def ipv4Check (m : DataModel) (data : List UInt8) :
    Except CFault (Option (Ipv4Header × List UInt8)) := do
  let size ← asSize m data.length
  if size < ipv4HeaderSize then return none
  else
    let header := Ipv4Header.parse data
    let headerLen := header.version4Ihl4.toNat % 16 * 4
    let totalLength := header.totalLength.toNat
    if header.version4Ihl4.toNat / 16 ≠ 4 then return none
    else if headerLen < ipv4HeaderSize then return none
    else if headerLen > data.length then return none
    else if totalLength < headerLen then return none
    else if totalLength > data.length then return none
    else
      let extra ← slice data ipv4HeaderSize (headerLen - ipv4HeaderSize)
      if header.checksum ≠ ipv4Checksum { header with checksum := 0 } extra then return none
      else
        let payloadLen ← asInt (totalLength - headerLen)
        let payload ← slice data headerLen payloadLen.toNat
        return some (header, payload)

/-- `udp_check`; what is behind the datagram is ignored. -/
def udpCheck (m : DataModel) (data : List UInt8) :
    Except CFault (Option (UdpHeader × List UInt8)) := do
  let size ← asSize m data.length
  if size < udpHeaderSize then return none
  else
    let header := UdpHeader.parse data
    let dataLen ← asInt (data.length - udpHeaderSize)
    let udpLength := header.length.toNat
    let room ← asSize m (udpHeaderSize + dataLen)
    if udpLength < udpHeaderSize then return none
    else if udpLength > room then return none
    else
      let payloadLen ← asInt (udpLength - udpHeaderSize)
      let payload ← slice data udpHeaderSize payloadLen.toNat
      return some (header, payload)

/-! ## The tunnel -/

/-- The statics that the three functions read. -/
structure Device where
  mtu : Int
  udpMtu : Int
  udpMode : UdpMode
  quitting : Bool
  deriving DecidableEq, Repr

/-- The arguments of `SocksUdpGwClient_SubmitPacket`. -/
structure Submission where
  localAddr : UdpAddr
  remoteAddr : UdpAddr
  isDns : Bool
  data : List UInt8
  deriving DecidableEq, Repr

/-- `udp_mtu` as `startTun2socks` computes it. -/
def computeUdpMtu (mtu : Int) : Except CFault Int := do
  let udpMtu ← asInt (mtu - (ipv4HeaderSize + udpHeaderSize))
  return if udpMtu < 0 then 0 else udpMtu

/-- `process_device_udp_packet`: what is submitted to udpgw, if the packet is one for it. -/
def processDeviceUdpPacket (m : DataModel) (d : Device) (data : List UInt8) :
    Except CFault (Option Submission) := do
  let size ← asSize m data.length
  if d.udpMode = .none then return none
  else if data = [] ∨ (data.getD 0 0).toNat / 16 ≠ 4 then
    -- an IPv6 packet is ignored like any other
    return none
  else if size < ipv4HeaderSize ∨ data.getD 9 0 ≠ ipv4ProtocolUdp then return none
  else
    match ← ipv4Check m data with
    | none => return none
    | some (iph, data) =>
      match ← udpCheck m data with
      | none => return none
      | some (udph, data) =>
        let computed ←
          udpChecksum { udph with checksum := 0 } data iph.sourceAddress iph.destinationAddress
        if udph.checksum ≠ computed then return none
        else
          let dataLen ← asInt data.length
          if dataLen > d.udpMtu then return none
          else
            return some {
              localAddr := .ipv4 iph.sourceAddress udph.sourcePort
              remoteAddr := .ipv4 iph.destinationAddress udph.destPort
              isDns := false
              data }

/-- Where a packet from the device goes: to udpgw, or to lwIP in a `pbuf` of this length, if
there is one. -/
inductive Accepted
  | submitted (p : Submission)
  | pbuf (length : UInt16)
  | dropped
  deriving DecidableEq, Repr

/-- `device_read_handler_send`. -/
def deviceReadHandlerSend (m : DataModel) (d : Device) (data : List UInt8) :
    Except CFault Accepted := do
  assert (!d.quitting)
  match ← processDeviceUdpPacket m d data with
  | some p => return .submitted p
  | none =>
    let dataLen ← asInt data.length
    if dataLen > 65535 then return .dropped
    else
      let length ← asU16 dataLen
      return .pbuf length

/-- `BTap_Send`: what is written to the device. -/
def bTapSend (d : Device) (data : List UInt8) : Except CFault (Option (List UInt8)) := do
  assert (decide ((data.length : Int) ≤ d.mtu))
  return some data

/-- The IP header of a packet for the device. -/
def replyIpv4Header (totalLength : UInt16) (sourceAddress destinationAddress : UInt32) :
    Ipv4Header :=
  let iph : Ipv4Header := {
    version4Ihl4 := 69
    ds := 0
    totalLength
    identification := 0
    flags3Fragmentoffset13 := 0
    ttl := 64
    protocol := ipv4ProtocolUdp
    checksum := 0
    sourceAddress
    destinationAddress }
  { iph with checksum := ipv4Checksum iph [] }

/-- `udp_send_packet_to_device`, with `device_write_buf` as it was. -/
def udpSendPacketToDevice (m : DataModel) (d : Device) (buf : List UInt8)
    (localAddr remoteAddr : UdpAddr) (data : List UInt8) :
    Except CFault (Option (List UInt8)) := do
  assert (d.udpMode != .none)
  match localAddr, remoteAddr with
  | .ipv4 localIp localPort, .ipv4 remoteIp remotePort =>
    let size ← asSize m data.length
    let limit ← asSize m (65535 - (ipv4HeaderSize + udpHeaderSize))
    let room ← asInt (d.mtu - (ipv4HeaderSize + udpHeaderSize))
    if size > limit then return none
    else if (data.length : Int) > room then return none
    else
      let total ← asSize m (ipv4HeaderSize + udpHeaderSize + data.length)
      let totalLength ← asU16 total
      let iph := replyIpv4Header totalLength remoteIp localIp
      let udpSize ← asSize m (udpHeaderSize + data.length)
      let length ← asU16 udpSize
      let udph : UdpHeader :=
        { sourcePort := remotePort, destPort := localPort, length, checksum := 0 }
      let checksum ← udpChecksum udph data iph.sourceAddress iph.destinationAddress
      let buf ← copyTo buf 0 iph.bytes
      let buf ← copyTo buf ipv4HeaderSize { udph with checksum }.bytes
      let buf ← copyTo buf (ipv4HeaderSize + udpHeaderSize) data
      let packetLength ← asInt total
      bTapSend d (← slice buf 0 packetLength.toNat)
  | .ipv6 _ _, .ipv6 _ _ =>
    -- "got IPv6 packet but IPv6 is disabled"
    return none
  | _, _ => throw .assertion

/-- The loop of `common_netif_output` over the chunks of a packet: the buffer and the length,
or nothing when there is no space left. -/
def netifOutputLoop (d : Device) : List (List UInt8) → Int → List UInt8 →
    Except CFault (Option (List UInt8 × Int))
  | [], len, buf => return some (buf, len)
  | payload :: rest, len, buf => do
    let room ← asInt (d.mtu - len)
    if (payload.length : Int) > room then return none
    else
      let buf ← copyTo buf len.toNat payload
      let len ← asInt (len + payload.length)
      netifOutputLoop d rest len buf

/-- `common_netif_output`, for a packet of a first chunk and others. -/
def commonNetifOutput (d : Device) (buf payload : List UInt8) (next : List (List UInt8)) :
    Except CFault (Option (List UInt8)) := do
  if d.quitting then return none
  else if next = [] then
    if (payload.length : Int) > d.mtu then return none
    else bTapSend d payload
  else
    match ← netifOutputLoop d (payload :: next) 0 buf with
    | none => return none
    | some (buf, len) => bTapSend d (← slice buf 0 len.toNat)

/-! ## `UdpGwClient` -/

/-- The sizes of `struct udpgw_header` and of the two address structures. -/
def udpgwHeaderSize : Nat := 3

def UdpAddr.size : UdpAddr → Nat
  | .ipv4 _ _ => 6
  | .ipv6 _ _ => 18

def UdpAddr.bytes : UdpAddr → List UInt8
  | .ipv4 ip port => be32 ip ++ be16 port
  | .ipv6 ip port => ip.toList ++ be16 port

/-- `struct udpgw_header`; the connection id is little-endian. -/
def udpgwHeader (flags : UInt8) (conid : UInt16) : List UInt8 := flags :: (be16 conid).reverse

/-- `UDPGW_CLIENT_FLAG_IPV6`. -/
def udpgwClientFlagIpv6 : UInt8 := 8

/-- The flags of a packet to an address. -/
def UdpAddr.flags (flags : UInt8) : UdpAddr → UInt8
  | .ipv4 _ _ => flags
  | .ipv6 _ _ => flags ||| udpgwClientFlagIpv6

/-- The size of the address in a packet with these flags. -/
def addrSize (flags : UInt8) : Nat := if flags &&& udpgwClientFlagIpv6 ≠ 0 then 18 else 6

/-- `connection_send`, into a packet buffer: the packet that is submitted. -/
def connectionSend (udpMtu : Int) (out : List UInt8) (flags : UInt8) (conid : UInt16)
    (remoteAddr : UdpAddr) (data : List UInt8) : Except CFault (List UInt8) := do
  assert (decide ((data.length : Int) ≤ udpMtu))
  let out ← copyTo out 0 (udpgwHeader (remoteAddr.flags flags) conid)
  let outPos ← asInt udpgwHeaderSize
  let out ← copyTo out outPos.toNat remoteAddr.bytes
  let outPos ← asInt (outPos + remoteAddr.size)
  let out ← copyTo out outPos.toNat data
  let outPos ← asInt (outPos + data.length)
  slice out 0 outPos.toNat

/-- `recv_interface_handler_send`: the connection's addresses and the data that are passed on.
`find` is the lookup of a connection by its id. -/
def recvInterfaceHandlerSend (m : DataModel) (udpMtu udpgwMtu : Int)
    (find : UInt16 → Option (UdpAddr × UdpAddr)) (data : List UInt8) :
    Except CFault (Option (UdpAddr × UdpAddr × List UInt8)) := do
  assert (decide ((data.length : Int) ≤ udpgwMtu))
  let size ← asSize m data.length
  if size < udpgwHeaderSize then return none
  else
    let flags := data.getD 0 0
    let conid := UInt16.ofNat ((data.getD 1 0).toNat + 256 * (data.getD 2 0).toNat)
    let dataLen ← asInt (data.length - udpgwHeaderSize)
    let size ← asSize m dataLen
    if size < addrSize flags then return none
    else
      let addr ← slice data udpgwHeaderSize (addrSize flags)
      let dataLen ← asInt (dataLen - addrSize flags)
      let payload ← slice data (udpgwHeaderSize + addrSize flags) dataLen.toNat
      if dataLen > udpMtu then return none
      else
        match find conid with
        | none => return none
        | some (localAddr, remoteAddr) =>
          if remoteAddr.bytes ≠ addr then return none
          else return some (localAddr, remoteAddr, payload)

/-! ## `bsize_t` -/

/-- A `size_t` with a flag. -/
structure BSize where
  isOverflow : Bool
  value : Nat
  deriving DecidableEq, Repr

def bsizeFromsize (v : Nat) : BSize := ⟨false, v⟩

def bsizeFromint (m : DataModel) (v : Int) : BSize :=
  ⟨decide (v < 0) || decide (v > 2 ^ m.sizeBits - 1), (v % 2 ^ m.sizeBits).toNat⟩

def bsizeAdd (m : DataModel) (s1 s2 : BSize) : BSize :=
  ⟨s1.isOverflow || s2.isOverflow || decide (s2.value > 2 ^ m.sizeBits - 1 - s1.value),
    (s1.value + s2.value) % 2 ^ m.sizeBits⟩

def bsizeMax (s1 s2 : BSize) : BSize :=
  ⟨s1.isOverflow || s2.isOverflow, if s1.value > s2.value then s1.value else s2.value⟩

def bsizeToint (s : BSize) : Option Int :=
  if s.isOverflow || decide (s.value > 2147483647) then none else some s.value

/-- `udpgw_compute_mtu` through `bsize_t`. -/
def udpgwComputeMtuBsize (m : DataModel) (dgramMtu : Int) : Int :=
  (bsizeToint (bsizeAdd m (bsizeFromsize udpgwHeaderSize)
    (bsizeAdd m (bsizeMax (bsizeFromsize 6) (bsizeFromsize 18))
      (bsizeFromint m dgramMtu)))).getD (-1)

end Lightsocks.Tunnel
