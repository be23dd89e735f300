import Lightsocks.Relay.Model

/-!
# Sessions

A `Session` is what one accepted connection is for: two lanes, one that encrypts from the
client to the server and one that decrypts back, the state of the connect to the server, and
the division of the lanes' contents over the six buffers. It knows no pointers, no callbacks
and no other connection. `Session.Step` lists its transitions; each is an operation of a lane
or moves bytes from one buffer to the next.

`Session.pair` is the image of a session as the three bufferevents that the relay keeps for
it, before or after they have been freed.
-/

namespace Lightsocks.Relay

open Lightsocks.Lib

structure Session (cipher : ByteCipher) where
  server : SocketState
  up : Lane cipher.encrypt
  down : Lane cipher.decrypt
  srcInput : List UInt8
  filterOutput : List UInt8
  up_pending : up.pending = filterOutput ++ srcInput
  srcOutput : List UInt8
  filterInput : List UInt8
  down_ready : down.ready = srcOutput ++ filterInput

namespace Session

variable {cipher : ByteCipher}

/-- A connection just accepted. -/
def start (started : Bool) : Session cipher where
  server := if started then .connecting else .unconnected
  up := Lane.empty
  down := Lane.empty
  srcInput := []
  filterOutput := []
  up_pending := rfl
  srcOutput := []
  filterInput := []
  down_ready := rfl

/-- A chunk arrives from the client. -/
def receiveUp (σ : Session cipher) (chunk : List UInt8) : Session cipher :=
  { σ with
    up := σ.up.receive chunk
    srcInput := σ.srcInput ++ chunk
    up_pending := by simp [Lane.receive, σ.up_pending] }

/-- A chunk arrives from the server. -/
def receiveDown (σ : Session cipher) (chunk : List UInt8) : Session cipher :=
  { σ with down := σ.down.receive chunk }

/-- The server socket accepts the front of the pending output. -/
def writeUp (σ : Session cipher) (n : Nat) : Session cipher :=
  { σ with up := σ.up.write (List.take_append_drop n σ.up.ready).symm }

/-- The client socket accepts the front of the pending output. -/
def writeDown (σ : Session cipher) (n : Nat) : Session cipher :=
  { σ with
    down := σ.down.write (show σ.down.ready =
        σ.srcOutput.take n ++ (σ.srcOutput.drop n ++ σ.filterInput) by
      rw [← List.append_assoc, List.take_append_drop, σ.down_ready])
    srcOutput := σ.srcOutput.drop n
    down_ready := rfl }

def connect (σ : Session cipher) : Session cipher := { σ with server := .connected }

/-- The input of the client moves to the output of the filter. -/
def forwardUp (σ : Session cipher) : Session cipher :=
  { σ with
    srcInput := []
    filterOutput := σ.filterOutput ++ σ.srcInput
    up_pending := by rw [σ.up_pending, List.append_nil] }

/-- The input of the filter moves to the output of the client. -/
def forwardDown (σ : Session cipher) : Session cipher :=
  { σ with
    srcOutput := σ.srcOutput ++ σ.filterInput
    filterInput := []
    down_ready := by rw [σ.down_ready, List.append_nil] }

/-- The output of the filter is encrypted. -/
def transformUp (σ : Session cipher) {out : List UInt8}
    (hout : σ.filterOutput.mapM cipher.encrypt = .ok out) : Session cipher :=
  { σ with
    up := σ.up.transform σ.up_pending hout
    filterOutput := []
    up_pending := rfl }

/-- The input from the server is decrypted. -/
def transformDown (σ : Session cipher) {out : List UInt8}
    (hout : σ.down.pending.mapM cipher.decrypt = .ok out) : Session cipher :=
  { σ with
    down := σ.down.transform (List.append_nil _).symm hout
    filterInput := σ.filterInput ++ out
    down_ready := by simp [Lane.transform, σ.down_ready] }

/-- The transitions of a session. -/
inductive Step (σ : Session cipher) : Session cipher → Prop
  | receiveUp (chunk : List UInt8) : Step σ (σ.receiveUp chunk)
  | receiveDown (chunk : List UInt8) : Step σ (σ.receiveDown chunk)
  | writeUp (n : Nat) : Step σ (σ.writeUp n)
  | writeDown (n : Nat) : Step σ (σ.writeDown n)
  | connect (h : σ.server = .connecting) : Step σ σ.connect
  | forwardUp : Step σ σ.forwardUp
  | forwardDown : Step σ σ.forwardDown
  | transformUp {out : List UInt8} (h : σ.filterOutput.mapM cipher.encrypt = .ok out) :
      Step σ (σ.transformUp h)
  | transformDown {out : List UInt8} (h : σ.down.pending.mapM cipher.decrypt = .ok out) :
      Step σ (σ.transformDown h)
  | idle : Step σ σ

/-- A connect that was not begun never completes, and one that was is not undone. -/
theorem Step.server_unconnected_iff {σ σ' : Session cipher} (h : Step σ σ') :
    σ'.server = .unconnected ↔ σ.server = .unconnected := by
  cases h with
  | connect hc => simp [Session.connect, hc]
  | _ => rfl

/-- Nothing is under way in either direction. -/
def Drained (σ : Session cipher) : Prop :=
  σ.srcInput = [] ∧ σ.filterOutput = [] ∧ σ.up.ready = [] ∧
  σ.down.pending = [] ∧ σ.filterInput = [] ∧ σ.srcOutput = []

/-- Everything that was read from an endpoint has been written to the other. -/
def Delivered (σ : Session cipher) : Prop :=
  σ.up.written.map Except.ok = σ.up.received.map cipher.encrypt ∧
  σ.down.written.map Except.ok = σ.down.received.map cipher.decrypt

theorem delivered_iff (σ : Session cipher) : σ.Delivered ↔ σ.Drained := by
  rw [Delivered, Lane.all_written_iff, Lane.all_written_iff, σ.up_pending, σ.down_ready,
    List.append_eq_nil_iff, List.append_eq_nil_iff, Drained]
  tauto

end Session

/-! ## The bufferevents of a session -/

/-- The three bufferevents of a connection, as values. -/
structure Pair where
  src : Bufferevent
  dst : Bufferevent
  filter : Bufferevent

namespace Session

variable {cipher : ByteCipher}

/-- The bufferevents of the session `σ` at the pointers `c`. -/
def pair (c : Conn) (σ : Session cipher) : Pair where
  src :=
    { ops := .socket .connected
      input := σ.srcInput
      output := σ.srcOutput
      readcb := some .srcReadCb
      errorcb := some .proxyEventCb
      cbarg := some c.filter
      freed := 0
      received := σ.up.received
      sent := σ.down.written }
  dst :=
    { ops := .socket σ.server
      input := σ.down.pending
      output := σ.up.ready
      readcb := some .beFilterReadcb
      errorcb := some .beFilterEventcb
      cbarg := some c.filter
      freed := 0
      received := σ.down.received
      sent := σ.up.written }
  filter :=
    { ops := .filter c.dst
      input := σ.filterInput
      output := σ.filterOutput
      readcb := some .dstReadCb
      errorcb := some .proxyEventCb
      cbarg := some c.src
      freed := 0
      received := []
      sent := [] }

end Session

/-- All three bufferevents freed. -/
def Pair.release (x : Pair) : Pair := ⟨x.src.release, x.dst.release, x.filter.release⟩

end Lightsocks.Relay
