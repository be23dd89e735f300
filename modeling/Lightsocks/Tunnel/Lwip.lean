import Mathlib.Data.List.Basic

/-!
# lwIP as the tunnel uses it

The statics of lwIP that survive a run of the tunnel (`netif_num`, `netif_list` and the lists
of bound and of listening pcbs), and the functions that `lwip_init_job_hadler` and the cleanup
of `startTun2socks` call on them. `netif_init` does nothing without a loopback interface, and
no other part of `lwip_init` touches these statics.

`tcpInputListener` is the last of the three searches of `tcp_input`, over the listening pcbs.
-/

namespace Lightsocks.Tunnel

/-- `u8_t num` is the number of a netif; `netif_get_index` is one more. -/
structure Netif where
  name : Char × Char
  num : UInt8
  deriving DecidableEq, Repr

def Netif.index (netif : Netif) : UInt8 := netif.num + 1

/-- `NETIF_NO_INDEX`. -/
def netifNoIndex : UInt8 := 0

inductive IpType
  | v4
  | v6
  | any
  deriving DecidableEq, Repr

structure IpAddr where
  type : IpType
  addr : Nat
  deriving DecidableEq, Repr

/-- `ip_addr_isany`. -/
def IpAddr.isAny (a : IpAddr) : Bool := a.addr == 0

/-- The accept callbacks that are ever set. -/
inductive AcceptFn
  | tcpAcceptNull
  | listenerAcceptFunc
  deriving DecidableEq, Repr

/-- A `struct tcp_pcb`, bound or listening, at the address `ptr`. -/
structure TcpPcb where
  ptr : Nat
  localIp : IpAddr
  localPort : UInt16
  boundToNetif : Bool
  localNetif : Char × Char × Char
  netifIdx : UInt8
  accept : AcceptFn
  deriving DecidableEq, Repr

/-- `nextPtr` is an address that no pcb has. -/
structure Lwip where
  netifNum : UInt8
  netifList : List Netif
  boundPcbs : List TcpPcb
  listenPcbs : List TcpPcb
  nextPtr : Nat
  deriving DecidableEq, Repr

def Lwip.initial : Lwip := ⟨0, [], [], [], 0⟩

/-! ## Network interfaces -/

/-- The loops of `netif_add` that look for a number that no netif of the list has. -/
def assignNum (netifList : List Netif) : Nat → UInt8 → UInt8
  | 0, num => num
  | fuel + 1, num =>
    let num := if num = 255 then 0 else num
    if netifList.any (fun netif => netif.num == num) then assignNum netifList fuel (num + 1)
    else num

/-- `netif_init_func`. -/
def netifInitFunc (netif : Netif) : Netif := { netif with name := ('h', 'o') }

/-- `netif_add`, with `netif_init_func`, which does not fail. -/
def netifAdd (lwip : Lwip) (netif : Netif) : Lwip × Netif :=
  let netif := netifInitFunc { netif with num := lwip.netifNum }
  let netif := { netif with num := assignNum lwip.netifList 256 netif.num }
  ({ lwip with
    netifNum := if netif.num = 254 then 0 else netif.num + 1
    netifList := netif :: lwip.netifList }, netif)

/-- `netif_remove`. -/
def netifRemove (lwip : Lwip) (netif : Netif) : Lwip :=
  { lwip with netifList := lwip.netifList.erase netif }

/-- `netif_is_named`. -/
def netifIsNamed (netif : Netif) (name : Char × Char × Char) : Bool :=
  netif.name.1 == name.1 && netif.name.2 == name.2.1 &&
    netif.num == name.2.2.toUInt8 - '0'.toUInt8

/-! ## Listening pcbs -/

/-- `tcp_new_ip_type`, when there is memory. -/
def tcpNewIpType (lwip : Lwip) (type : IpType) : Lwip × TcpPcb :=
  ({ lwip with nextPtr := lwip.nextPtr + 1 },
    { ptr := lwip.nextPtr
      localIp := ⟨type, 0⟩
      localPort := 0
      boundToNetif := false
      localNetif := ('0', '0', '0')
      netifIdx := netifNoIndex
      accept := .tcpAcceptNull })

/-- Another pcb is bound to the interface of this name, for the same kind of address. -/
def netifInUse (lwip : Lwip) (pcb : TcpPcb) (ifname : Char × Char × Char) : Bool :=
  (lwip.listenPcbs ++ lwip.boundPcbs).any fun cpcb =>
    cpcb.boundToNetif && cpcb.localNetif == ifname &&
      (pcb.localIp.type == .any || cpcb.localIp.type == .any ||
        pcb.localIp.type == cpcb.localIp.type)

/-- `tcp_bind_to_netif`; `none` is `ERR_USE`. -/
def tcpBindToNetif (lwip : Lwip) (pcb : TcpPcb) (ifname : Char × Char × Char) : Option Lwip :=
  if netifInUse lwip pcb ifname then none
  else
    let pcb := { pcb with
      boundToNetif := true
      localIp := if pcb.localIp.type = .any then pcb.localIp else ⟨pcb.localIp.type, 0⟩
      localPort := 0
      localNetif := ifname }
    some { lwip with boundPcbs := pcb :: lwip.boundPcbs }

/-- `tcp_bind_netif`. -/
def tcpBindNetif (lwip : Lwip) (ptr : Nat) (netif : Netif) : Lwip :=
  { lwip with
    boundPcbs := lwip.boundPcbs.map fun pcb =>
      if pcb.ptr = ptr then { pcb with netifIdx := netif.index } else pcb }

/-- `tcp_listen`, when there is memory: the bound pcb is replaced by a listening one, which is
restricted to no interface index. -/
def tcpListen (lwip : Lwip) (ptr : Nat) : Lwip × Option Nat :=
  match lwip.boundPcbs.find? (fun pcb => pcb.ptr == ptr) with
  | none => (lwip, none)
  | some pcb =>
    let lpcb := { pcb with
      ptr := lwip.nextPtr
      netifIdx := netifNoIndex
      accept := .tcpAcceptNull }
    ({ lwip with
      boundPcbs := lwip.boundPcbs.eraseP (fun pcb => pcb.ptr == ptr)
      listenPcbs := lpcb :: lwip.listenPcbs
      nextPtr := lwip.nextPtr + 1 }, some lpcb.ptr)

/-- `tcp_accept`. -/
def tcpAccept (lwip : Lwip) (ptr : Nat) (accept : AcceptFn) : Lwip :=
  { lwip with
    listenPcbs := lwip.listenPcbs.map fun pcb =>
      if pcb.ptr = ptr then { pcb with accept } else pcb }

/-- `tcp_close` of a pcb that is bound or listens. -/
def tcpClose (lwip : Lwip) (ptr : Nat) : Lwip :=
  { lwip with
    boundPcbs := lwip.boundPcbs.eraseP (fun pcb => pcb.ptr == ptr)
    listenPcbs := lwip.listenPcbs.eraseP (fun pcb => pcb.ptr == ptr) }

/-! ## Input -/

/-- The destination of a SYN segment. -/
structure Segment where
  dest : IpAddr
  destPort : UInt16
  deriving DecidableEq, Repr

/-- `IP_ADDR_PCB_VERSION_MATCH`. -/
def versionMatch (pcb : TcpPcb) (a : IpAddr) : Bool :=
  pcb.localIp.type == .any || pcb.localIp.type == a.type

/-- The search of `tcp_input` over the listening pcbs, for a segment that came in on `inp`.
`netifPcb` is the last pcb so far that is bound to the interface by its name; it is only used
if no pcb matches the port. -/
def tcpInputListener (inp : Netif) (seg : Segment) : List TcpPcb → Option TcpPcb → Option TcpPcb
  | [], netifPcb => netifPcb
  | lpcb :: rest, netifPcb =>
    if lpcb.netifIdx ≠ netifNoIndex ∧ lpcb.netifIdx ≠ inp.index then
      tcpInputListener inp seg rest netifPcb
    else if lpcb.boundToNetif then
      if versionMatch lpcb seg.dest && netifIsNamed inp lpcb.localNetif then
        tcpInputListener inp seg rest (some lpcb)
      else tcpInputListener inp seg rest netifPcb
    else if lpcb.localPort = seg.destPort then
      if lpcb.localIp.type = .any then some lpcb
      else if lpcb.localIp.type = seg.dest.type then
        if lpcb.localIp = seg.dest ∨ lpcb.localIp.isAny then some lpcb
        else tcpInputListener inp seg rest netifPcb
      else tcpInputListener inp seg rest netifPcb
    else tcpInputListener inp seg rest netifPcb

/-- The part of `tcp_input` for listening pcbs: the pcb that was found is moved to the front
of the list, and its accept callback is the one that will be called. -/
def tcpInput (lwip : Lwip) (inp : Netif) (seg : Segment) : Lwip × Option AcceptFn :=
  match tcpInputListener inp seg lwip.listenPcbs none with
  | none => (lwip, none)
  | some lpcb =>
    ({ lwip with
      listenPcbs := lpcb :: lwip.listenPcbs.eraseP (fun pcb => pcb.ptr == lpcb.ptr) },
      some lpcb.accept)

/-! ## The interface and the listener of a run -/

/-- The listener's side of `lwip_init_job_hadler`. -/
structure LwipInit where
  lwip : Lwip
  theNetif : Netif
  listener : Option Nat

/-- `lwip_init_job_hadler`. The two flags say whether there is memory for the pcb and for the
listening pcb; without a listener the handler has reached its label `fail`. -/
def lwipInitJobHandler (lwip : Lwip) (theNetif : Netif) (newOk listenOk : Bool) : LwipInit :=
  let (lwip, theNetif) := netifAdd lwip theNetif
  if !newOk then ⟨lwip, theNetif, none⟩
  else
    let (lwip, l) := tcpNewIpType lwip .v4
    match tcpBindToNetif lwip l ('h', 'o', '0') with
    | none => ⟨lwip, theNetif, none⟩
    | some lwip =>
      let lwip := tcpBindNetif lwip l.ptr theNetif
      if !listenOk then ⟨tcpClose lwip l.ptr, theNetif, none⟩
      else
        match tcpListen lwip l.ptr with
        | (lwip, none) => ⟨tcpClose lwip l.ptr, theNetif, none⟩
        | (lwip, some listener) =>
          ⟨tcpAccept lwip listener .listenerAcceptFunc, theNetif, some listener⟩

/-- The cleanup of `startTun2socks`: the listener is closed and the netif removed. -/
def lwipCleanup (lwip : Lwip) (theNetif : Netif) (haveNetif : Bool) (listener : Option Nat) :
    Lwip :=
  let lwip := match listener with
    | some ptr => tcpClose lwip ptr
    | none => lwip
  if haveNetif then netifRemove lwip theNetif else lwip

/-! ## Between runs -/

/-- No interface is registered and no pcb is bound or listens, and `n` interfaces have been
added so far. -/
structure Lwip.Clear (lwip : Lwip) (n : Nat) : Prop where
  netifList : lwip.netifList = []
  boundPcbs : lwip.boundPcbs = []
  listenPcbs : lwip.listenPcbs = []
  netifNum : lwip.netifNum = UInt8.ofNat (n % 255)

theorem Lwip.clear_initial : Lwip.initial.Clear 0 := ⟨rfl, rfl, rfl, rfl⟩

theorem assignNum_nil (fuel : Nat) (num : UInt8) (h : num ≠ 255) :
    assignNum [] fuel num = num := by
  cases fuel with
  | zero => rfl
  | succ fuel => simp [assignNum, h]

theorem ofNat_mod_ne (n : Nat) : UInt8.ofNat (n % 255) ≠ 255 := by
  intro h
  have hlt : n % 255 < 255 := Nat.mod_lt n (by decide)
  have := congrArg UInt8.toNat h
  rw [UInt8.toNat_ofNat_of_lt' (by rw [UInt8.size]; omega)] at this
  have h255 : (255 : UInt8).toNat = 255 := rfl
  omega

/-- The number after `n % 255` is `(n + 1) % 255`. -/
theorem next_num (n : Nat) :
    (if UInt8.ofNat (n % 255) = 254 then 0 else UInt8.ofNat (n % 255) + 1) =
      UInt8.ofNat ((n + 1) % 255) := by
  have hlt : n % 255 < 255 := Nat.mod_lt n (by decide)
  have hn : (UInt8.ofNat (n % 255)).toNat = n % 255 :=
    UInt8.toNat_ofNat_of_lt' (by rw [UInt8.size]; omega)
  have hiff : UInt8.ofNat (n % 255) = 254 ↔ n % 255 = 254 := by
    rw [← UInt8.toNat_inj, hn]
    rfl
  by_cases h : n % 255 = 254
  · rw [if_pos (hiff.mpr h)]
    have : (n + 1) % 255 = 0 := by omega
    rw [this]
    rfl
  · rw [if_neg (mt hiff.mp h)]
    have : (n + 1) % 255 = n % 255 + 1 := by omega
    rw [this, UInt8.ofNat_add]
    rfl

theorem netifAdd_clear {lwip : Lwip} {n : Nat} (h : lwip.Clear n) (netif : Netif) :
    netifAdd lwip netif =
      ({ lwip with
        netifNum := UInt8.ofNat ((n + 1) % 255)
        netifList := [⟨('h', 'o'), UInt8.ofNat (n % 255)⟩] },
        ⟨('h', 'o'), UInt8.ofNat (n % 255)⟩) := by
  simp only [netifAdd, netifInitFunc, h.netifList, h.netifNum,
    assignNum_nil 256 _ (ofNat_mod_ne n), next_num]

/-- The interface of the run after `n` others is called `ho0` if `n` is a multiple of 255. -/
theorem netifIsNamed_iff (n : Nat) :
    netifIsNamed ⟨('h', 'o'), UInt8.ofNat (n % 255)⟩ ('h', 'o', '0') = true ↔ n % 255 = 0 := by
  have hlt : n % 255 < 255 := Nat.mod_lt n (by decide)
  have hzero : ('0'.toUInt8 - '0'.toUInt8 : UInt8) = 0 := by decide
  simp only [netifIsNamed, hzero, beq_self_eq_true, Bool.true_and, beq_iff_eq]
  rw [← UInt8.toNat_inj, UInt8.toNat_ofNat_of_lt' (by rw [UInt8.size]; omega)]
  rfl

/-- The listening pcb that `lwip_init_job_hadler` makes. -/
def listenPcb (ptr : Nat) : TcpPcb where
  ptr := ptr
  localIp := ⟨.v4, 0⟩
  localPort := 0
  boundToNetif := true
  localNetif := ('h', 'o', '0')
  netifIdx := netifNoIndex
  accept := .listenerAcceptFunc

/-- The statics of lwIP while the run after `n` others has its interface. -/
structure Lwip.Up (lwip : Lwip) (n : Nat) (theNetif : Netif) (listener : Option Nat) :
    Prop where
  netif_eq : theNetif = ⟨('h', 'o'), UInt8.ofNat (n % 255)⟩
  netifList : lwip.netifList = [theNetif]
  boundPcbs : lwip.boundPcbs = []
  listenPcbs : lwip.listenPcbs = (listener.map listenPcb).toList
  netifNum : lwip.netifNum = UInt8.ofNat ((n + 1) % 255)

theorem lwipInitJobHandler_up {lwip : Lwip} {n : Nat} (h : lwip.Clear n) (theNetif : Netif)
    (newOk listenOk : Bool) :
    let r := lwipInitJobHandler lwip theNetif newOk listenOk
    r.lwip.Up n r.theNetif r.listener ∧ (r.listener.isSome = (newOk && listenOk)) := by
  cases newOk with
  | false =>
    simp only [lwipInitJobHandler, netifAdd_clear h]
    exact ⟨⟨rfl, rfl, h.boundPcbs, h.listenPcbs, rfl⟩, rfl⟩
  | true =>
    cases listenOk with
    | false =>
      simp [lwipInitJobHandler, netifAdd_clear h, tcpNewIpType, tcpBindToNetif, netifInUse,
        h.boundPcbs, h.listenPcbs, tcpBindNetif, tcpClose]
      exact ⟨rfl, rfl, rfl, rfl, rfl⟩
    | true =>
      simp [lwipInitJobHandler, netifAdd_clear h, tcpNewIpType, tcpBindToNetif, netifInUse,
        h.boundPcbs, h.listenPcbs, tcpBindNetif, tcpListen, tcpAccept]
      exact ⟨rfl, rfl, rfl, rfl, rfl⟩

theorem lwipCleanup_clear {lwip : Lwip} {n : Nat} {theNetif : Netif} {listener : Option Nat}
    (h : lwip.Up n theNetif listener) :
    (lwipCleanup lwip theNetif true listener).Clear (n + 1) := by
  cases listener with
  | none =>
    constructor <;>
      simp [lwipCleanup, netifRemove, h.netifList, h.boundPcbs, h.listenPcbs, h.netifNum]
  | some ptr =>
    constructor <;>
      simp [lwipCleanup, netifRemove, tcpClose, h.netifList, h.boundPcbs, h.listenPcbs,
        h.netifNum, listenPcb]

/-- The search over a list of one listener. -/
theorem tcpInputListener_listenPcb (theNetif : Netif) (seg : Segment) (ptr : Nat) :
    tcpInputListener theNetif seg [listenPcb ptr] none =
      if seg.dest.type = .v4 ∧ netifIsNamed theNetif ('h', 'o', '0') = true then
        some (listenPcb ptr)
      else none := by
  cases hv : seg.dest.type <;> cases hn : netifIsNamed theNetif ('h', 'o', '0') <;>
    simp [tcpInputListener, listenPcb, versionMatch, hv, hn]

/-- The listener is found exactly if the interface happens to be called `ho0`. -/
theorem tcpInputListener_up {n ptr : Nat} {theNetif : Netif}
    (h : theNetif = ⟨('h', 'o'), UInt8.ofNat (n % 255)⟩) {seg : Segment}
    (hseg : seg.dest.type = .v4) :
    tcpInputListener theNetif seg [listenPcb ptr] none = some (listenPcb ptr) ↔ n % 255 = 0 := by
  rw [tcpInputListener_listenPcb, ← netifIsNamed_iff, ← h, hseg]
  cases netifIsNamed theNetif ('h', 'o', '0') <;> simp

/-- Input leaves a list of one listener as it is. -/
theorem Lwip.Up.tcpInput {lwip : Lwip} {n : Nat} {theNetif : Netif} {listener : Option Nat}
    (h : lwip.Up n theNetif listener) (seg : Segment) :
    (tcpInput lwip theNetif seg).1 = lwip := by
  cases listener with
  | none => simp [Tunnel.tcpInput, h.listenPcbs, tcpInputListener]
  | some ptr =>
    have hl : lwip.listenPcbs = [listenPcb ptr] := h.listenPcbs
    rw [Tunnel.tcpInput, hl, tcpInputListener_listenPcb]
    split
    · rfl
    · rename_i pcb hpcb
      split at hpcb
      · cases hpcb
        have hrest : [listenPcb ptr].eraseP (fun pcb => pcb.ptr == (listenPcb ptr).ptr) = [] := by
          simp
        simp only [hrest]
        rw [← hl]
      · cases hpcb

end Lightsocks.Tunnel
