import Lightsocks.Lib.Machine
import Lightsocks.Relay.Filter
import Lightsocks.Relay.InetPton

/-!
# The relay as libevent drives it

`bufferevent *` pointers are indices into a heap that never reuses an entry, and each entry
counts the `bufferevent_free` calls it got. Every access of a callback goes through `load`,
which is a fault on an entry that has been freed. A callback argument is a bare pointer, as
in the source.

`Event` lists what libevent can do between two states: accept a client, read from a socket,
write to it, complete a connect, run a read callback, run a filter, deliver an event, and
leave the loop. `enabled` says what libevent is assumed to check before: it delivers nothing
to a bufferevent that has been freed or has no callback, and moves bytes only on a connected
socket. The read callback of the server socket (`be_filter_readcb`) runs the input filter and
then the read callback of the filter; the two are separate events here, so that more can
happen between them than in the source, not less.
-/

namespace Lightsocks.Relay

open Lightsocks.Lib

/-! ## Bufferevents -/

abbrev Ptr := Nat

/-- The connection of a socket bufferevent. -/
inductive SocketState
  | unconnected
  | connecting
  | connected
  deriving DecidableEq, Repr

/-- `be_ops`, with the state that goes with it. -/
inductive Ops
  | socket (state : SocketState)
  | filter (underlying : Ptr)
  deriving DecidableEq, Repr

/-- The read callbacks that are ever installed. -/
inductive DataCb
  | srcReadCb
  | dstReadCb
  | beFilterReadcb
  deriving DecidableEq, Repr

/-- The event callbacks that are ever installed. -/
inductive EventCb
  | proxyEventCb
  | beFilterEventcb
  deriving DecidableEq, Repr

/-- A `struct bufferevent`. The last two fields are history: the bytes read from the socket
and those written to it. -/
structure Bufferevent where
  ops : Ops
  input : List UInt8 := []
  output : List UInt8 := []
  readcb : Option DataCb := none
  errorcb : Option EventCb := none
  cbarg : Option Ptr := none
  freed : Nat := 0
  received : List UInt8 := []
  sent : List UInt8 := []
  deriving DecidableEq, Repr

/-- What `bufferevent_free` leaves: no callbacks, and nothing in the buffers. -/
def Bufferevent.release (b : Bufferevent) : Bufferevent :=
  { b with
    input := []
    output := []
    readcb := none
    errorcb := none
    cbarg := none
    freed := b.freed + 1 }

/-- The three bufferevents of an accepted connection: `src_bev`, `dst_bev` and
`dst_filter_bev`. -/
structure Conn where
  src : Ptr
  dst : Ptr
  filter : Ptr
  deriving DecidableEq, Repr

def Conn.ptrs (c : Conn) : List Ptr := [c.src, c.dst, c.filter]

/-- `struct sockaddr_in`, the address and the port as the numbers that go over the wire. -/
structure SockaddrIn where
  sinAddr : UInt32
  sinPort : UInt16
  deriving DecidableEq, Repr

/-- The globals that `start_proxy_server` sets and the callbacks read. `clientCallback` says
whether the callback is set, and a `string` is the list of its bytes. -/
structure Globals where
  encryptor : ByteCipher
  clientCallback : Bool
  serverIp : List UInt8
  serverPort : Int

/-- `conns` records what `proxy_listener_cb` allocated, `dialled` the addresses it passed to
`bufferevent_socket_connect`, and `reports` the calls of `client_callback`. -/
structure State where
  bevs : List Bufferevent
  conns : List Conn
  dialled : List (Ptr × SockaddrIn)
  reports : List (Int × String)
  returned : Bool
  deriving DecidableEq, Repr

def State.empty : State := ⟨[], [], [], [], false⟩

inductive Fault
  | nullPointer
  | wild (p : Ptr)
  | useAfterFree (p : Ptr)
  | doubleFree (p : Ptr)
  | lookup (f : Cipher.VecFault)
  deriving DecidableEq, Repr

/-- A pointer before it is followed. -/
def deref : Option Ptr → Except Fault Ptr
  | some p => .ok p
  | none => .error .nullPointer

/-- A failed table lookup as a fault of the relay. -/
def liftLookup {α : Type} (r : Except Cipher.VecFault α) : Except Fault α :=
  r.mapError .lookup

namespace State

def load (s : State) (p : Ptr) : Except Fault Bufferevent :=
  match s.bevs[p]? with
  | none => .error (.wild p)
  | some b => if b.freed = 0 then .ok b else .error (.useAfterFree p)

def store (s : State) (p : Ptr) (b : Bufferevent) : State := { s with bevs := s.bevs.set p b }

/-- A new entry of the heap, and the pointer to it. -/
def alloc (s : State) (b : Bufferevent) : State × Ptr :=
  ({ s with bevs := s.bevs ++ [b] }, s.bevs.length)

end State

/-! ## libevent -/

/-- `bufferevent_socket_new`. -/
def buffereventSocketNew (s : State) (state : SocketState) : State × Ptr :=
  s.alloc { ops := .socket state }

/-- `bufferevent_setcb`; no write callback is ever set by the relay. -/
def buffereventSetcb (s : State) (p : Ptr) (readcb : Option DataCb) (errorcb : Option EventCb)
    (cbarg : Option Ptr) : Except Fault State := do
  let b ← s.load p
  return s.store p { b with readcb, errorcb, cbarg }

/-- `bufferevent_filter_new` puts itself behind the callbacks of the underlying
bufferevent. -/
def buffereventFilterNew (s : State) (underlying : Ptr) : Except Fault (State × Ptr) := do
  let (s, p) := s.alloc { ops := .filter underlying }
  let s ← buffereventSetcb s underlying (some .beFilterReadcb) (some .beFilterEventcb) (some p)
  return (s, p)

/-- `bufferevent_socket_connect`. `started` says whether the connect could be begun; when it
could not, the socket is closed again and no event will follow. -/
def buffereventSocketConnect (s : State) (p : Ptr) (addr : SockaddrIn) (started : Bool) :
    Except Fault (State × Int) := do
  let b ← s.load p
  let s := { s with dialled := s.dialled ++ [(p, addr)] }
  if started then return (s.store p { b with ops := .socket .connecting }, 0)
  else return (s, -1)

/-- The part of `bufferevent_free` that every kind of bufferevent has. -/
def releaseBev (s : State) (p : Ptr) : Except Fault (State × Ops) :=
  match s.bevs[p]? with
  | none => .error (.wild p)
  | some b =>
    if b.freed = 0 then .ok (s.store p b.release, b.ops) else .error (.doubleFree p)

/-- `bufferevent_free`. A filter is unlinked by `be_filter_unlink`, which frees the
underlying bufferevent because of `BEV_OPT_CLOSE_ON_FREE`; that one is a socket, which has
nothing to unlink. -/
def buffereventFree (s : State) (p : Ptr) : Except Fault State := do
  let (s, ops) ← releaseBev s p
  match ops with
  | .socket _ => return s
  | .filter underlying =>
    let (s, _) ← releaseBev s underlying
    return s

def bevEventReading : UInt16 := 0x01
def bevEventEof : UInt16 := 0x10
def bevEventError : UInt16 := 0x20
def bevEventConnected : UInt16 := 0x80

/-! ## The callbacks of the relay -/

/-- `htons`, after the conversion of an `int` to `uint16_t`. -/
def htons (port : Int) : UInt16 := UInt16.ofInt port

/-- The address that `proxy_listener_cb` builds: zeroed, then the port, then the parsed
address if the text was one. -/
def Globals.dstAddr (g : Globals) : SockaddrIn where
  sinAddr := (evutilInetPton (cStr g.serverIp)).getD 0
  sinPort := htons g.serverPort

/-- `proxy_listener_cb`. The result of the connect is only logged. -/
def proxyListenerCb (g : Globals) (s : State) (started : Bool) : Except Fault State := do
  let (s, srcBev) := buffereventSocketNew s .connected
  let (s, dstBev) := buffereventSocketNew s .unconnected
  let (s, dstFilterBev) ← buffereventFilterNew s dstBev
  let s ← buffereventSetcb s dstFilterBev (some .dstReadCb) (some .proxyEventCb) (some srcBev)
  let s ← buffereventSetcb s srcBev (some .srcReadCb) (some .proxyEventCb) (some dstFilterBev)
  let (s, _) ← buffereventSocketConnect s dstBev g.dstAddr started
  return { s with conns := s.conns ++ [⟨srcBev, dstBev, dstFilterBev⟩] }

/-- The body of both read callbacks: `evbuffer_add_buffer` from the input of the one
bufferevent to the output of the other. -/
def forward (s : State) (bev arg : Ptr) : Except Fault State := do
  let source ← s.load bev
  let target ← s.load arg
  let s := s.store arg { target with output := target.output ++ source.input }
  let source ← s.load bev
  return s.store bev { source with input := [] }

/-- `src_read_cb`. -/
def srcReadCb (s : State) (bev arg : Ptr) : Except Fault State := forward s bev arg

/-- `dst_read_cb`. -/
def dstReadCb (s : State) (bev arg : Ptr) : Except Fault State := forward s bev arg

/-- The `string error_msg` that is passed to `client_callback`, with its code. -/
def connectionError : Int × String := (-1, "Connection error!")

/-- `proxy_event_cb`. -/
def proxyEventCb (g : Globals) (s : State) (bev : Ptr) (events : UInt16) (arg : Ptr) :
    Except Fault State := do
  let s :=
    if events &&& bevEventError ≠ 0 ∧ g.clientCallback = true then
      { s with reports := s.reports ++ [connectionError] }
    else s
  if events &&& bevEventEof ≠ 0 ∨ events &&& bevEventError ≠ 0 then
    let s ← buffereventFree s bev
    buffereventFree s arg
  else return s

/-! ## The callbacks of the filter -/

/-- `be_filter_process_input`: the input filter, from the input of the underlying bufferevent
to that of the filter. One call empties the source, so its loop ends after one. -/
def beFilterProcessInput (g : Globals) (s : State) (me : Ptr) : Except Fault State := do
  let bevf ← s.load me
  match bevf.ops with
  | .socket _ => return s
  | .filter underlying =>
    let u ← s.load underlying
    let (_, src, dst) ← liftLookup (destFilterIn g.encryptor u.input bevf.input)
    let s := s.store underlying { u with input := src }
    let bevf ← s.load me
    return s.store me { bevf with input := dst }

/-- `be_filter_process_output`: the output filter, from the output of the filter to that of
the underlying bufferevent, if there is something to write. -/
def beFilterProcessOutput (g : Globals) (s : State) (me : Ptr) : Except Fault State := do
  let bevf ← s.load me
  match bevf.ops with
  | .socket _ => return s
  | .filter underlying =>
    if bevf.output.length = 0 then return s
    else
      let u ← s.load underlying
      let (_, src, dst) ← liftLookup (destFilterOut g.encryptor bevf.output u.output)
      let s := s.store me { bevf with output := src }
      let u ← s.load underlying
      return s.store underlying { u with output := dst }

/-- `be_filter_eventcb` tells the event callback of the filter. -/
def beFilterEventcb (g : Globals) (s : State) (me : Ptr) (what : UInt16) :
    Except Fault State := do
  let bevf ← s.load me
  match bevf.errorcb with
  | some .proxyEventCb => proxyEventCb g s me what (← deref bevf.cbarg)
  | _ => return s

/-! ## The loop -/

/-- Run the read callback of a bufferevent. -/
def runReadcb (g : Globals) (s : State) (p : Ptr) : Except Fault State := do
  let b ← s.load p
  match b.readcb with
  | none => return s
  | some .srcReadCb => srcReadCb s p (← deref b.cbarg)
  | some .dstReadCb => dstReadCb s p (← deref b.cbarg)
  | some .beFilterReadcb => beFilterProcessInput g s (← deref b.cbarg)

/-- `bufferevent_run_eventcb_` of a bufferevent. -/
def runEventcb (g : Globals) (s : State) (p : Ptr) (what : UInt16) : Except Fault State := do
  let b ← s.load p
  match b.errorcb with
  | none => return s
  | some .proxyEventCb => proxyEventCb g s p what (← deref b.cbarg)
  | some .beFilterEventcb => beFilterEventcb g s (← deref b.cbarg) what

inductive Event
  /-- A client is accepted; `started` is the outcome of the connect to the server. -/
  | accept (started : Bool)
  /-- `evbuffer_read` appends a chunk to the input. -/
  | arrive (p : Ptr) (chunk : List UInt8)
  /-- `evbuffer_write_atmost` takes `n` bytes from the output. -/
  | drain (p : Ptr) (n : Nat)
  /-- The connect completes, and is reported. -/
  | connected (p : Ptr)
  | read (p : Ptr)
  | output (p : Ptr)
  | event (p : Ptr) (what : UInt16)
  /-- The loop is left, and `start_proxy_server` frees the listener and the base and
  returns. -/
  | exit
  deriving DecidableEq, Repr

/-- The bufferevent an event is about. -/
def Event.target : Event → Option Ptr
  | .arrive p _ | .drain p _ | .connected p | .read p | .output p | .event p _ => some p
  | .accept _ | .exit => none

/-- `p` has not been freed, and satisfies `q`. -/
def State.aliveWith (s : State) (p : Ptr) (q : Bufferevent → Bool) : Bool :=
  match s.bevs[p]? with
  | some b => b.freed == 0 && q b
  | none => false

/-- What libevent checks before it does something. -/
def enabled (s : State) (e : Event) : Bool :=
  !s.returned && match e with
  | .accept _ => true
  | .arrive p _ => s.aliveWith p (fun b => b.ops == .socket .connected)
  | .drain p n =>
    s.aliveWith p (fun b => b.ops == .socket .connected && decide (n ≤ b.output.length))
  | .connected p => s.aliveWith p (fun b => b.ops == .socket .connecting)
  | .read p => s.aliveWith p (fun b => b.readcb.isSome)
  | .output p =>
    s.aliveWith p (fun b => match b.ops with
      | .socket _ => false
      | .filter _ => true)
  | .event p _ =>
    s.aliveWith p (fun b => b.errorcb.isSome && match b.ops with
      | .socket state => state != .unconnected
      | .filter _ => false)
  | .exit => true

def exec (g : Globals) (s : State) : Event → Except Fault State
  | .accept started => proxyListenerCb g s started
  | .arrive p chunk => do
    let b ← s.load p
    return s.store p { b with input := b.input ++ chunk, received := b.received ++ chunk }
  | .drain p n => do
    let b ← s.load p
    return s.store p { b with output := b.output.drop n, sent := b.sent ++ b.output.take n }
  | .connected p => do
    let b ← s.load p
    runEventcb g (s.store p { b with ops := .socket .connected }) p bevEventConnected
  | .read p => runReadcb g s p
  | .output p => beFilterProcessOutput g s p
  | .event p what => runEventcb g s p what
  | .exit => .ok { s with returned := true }

/-- The relay, from the start of the loop on. -/
def relay (g : Globals) : Machine State Event Fault where
  init := .empty
  enabled := enabled
  exec := exec g

end Lightsocks.Relay
