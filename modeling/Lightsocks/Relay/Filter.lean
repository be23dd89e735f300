import Lightsocks.Cipher.Encryptor
import Lightsocks.Lib.Lane

/-!
# The filters of the server side

`dest_filter_in` decrypts what comes from the server and `dest_filter_out` encrypts what goes
to it. Both move their source into their destination through a stack buffer of `BUFFER_SIZE`
bytes, one buffer after another until the source is empty, and look every byte up in the
table of the `encryptor`.
-/

namespace Lightsocks.Relay

open Lightsocks.Cipher Lightsocks.Lib

/-- `BUFFER_SIZE`. -/
def bufferSize : Nat := 65536

/-- `enum bufferevent_filter_result`. -/
inductive BuffereventFilterResult
  | ok
  | needMore
  | error
  deriving DecidableEq, Repr

/-- The two lookups that the relay makes through the global `encryptor`. -/
structure ByteCipher where
  encrypt : UInt8 → Except VecFault UInt8
  decrypt : UInt8 → Except VecFault UInt8

/-- The lookups of an encryptor, where plain `char` is read as the ABI does. -/
def ByteCipher.ofEncryptor (abi : PlainChar) (e : LightsocksAndroidEncryptor) : ByteCipher where
  encrypt := e.encrypt abi
  decrypt := e.decrypt abi

/-- `evbuffer_remove`: at most `datlen` bytes from the front, and what stays. -/
def evbufferRemove (buf : List UInt8) (datlen : Nat) : List UInt8 × List UInt8 :=
  (buf.take datlen, buf.drop datlen)

/-- The `while` loop that both filters run, with the lookup they differ in. The result is
what is left of the source, and the destination. -/
def filterLoop (lookup : UInt8 → Except VecFault UInt8) :
    Nat → List UInt8 → List UInt8 → Except VecFault (List UInt8 × List UInt8)
  | 0, src, dst => .ok (src, dst)
  | fuel + 1, src, dst =>
    let (buffer, src) := evbufferRemove src (bufferSize - 1)
    if buffer.length ≤ 0 then .ok (src, dst)
    else do
      let buffer ← buffer.mapM lookup
      filterLoop lookup fuel src (dst ++ buffer)

/-- A filter: the loop needs at most one iteration for each byte, and one to see the end. -/
def destFilter (lookup : UInt8 → Except VecFault UInt8) (src dst : List UInt8) :
    Except VecFault (BuffereventFilterResult × List UInt8 × List UInt8) :=
  (filterLoop lookup (src.length + 1) src dst).map (.ok, ·)

/-- `dest_filter_in`. -/
def destFilterIn (encryptor : ByteCipher) :=
  destFilter encryptor.decrypt

/-- `dest_filter_out`. -/
def destFilterOut (encryptor : ByteCipher) :=
  destFilter encryptor.encrypt

variable {lookup : UInt8 → Except VecFault UInt8}

/-- However many buffers it takes, the loop transforms the source byte by byte, in order. -/
theorem filterLoop_eq {fuel : Nat} {src dst : List UInt8} (h : src.length < fuel) :
    filterLoop lookup fuel src dst =
      (src.mapM lookup).map (fun out => ([], dst ++ out)) := by
  induction fuel generalizing src dst with
  | zero => omega
  | succ fuel ih =>
    have hsize : bufferSize - 1 = 65535 := rfl
    simp only [filterLoop, evbufferRemove, hsize]
    by_cases hsrc : src = []
    · subst hsrc
      simp only [List.take_nil, List.drop_nil, List.length_nil, Nat.le_refl, if_true,
        List.mapM_nil]
      simp [pure, Except.pure, Except.map]
    · have hpos : 0 < src.length := List.length_pos_iff.mpr hsrc
      have htake : ¬ (src.take 65535).length ≤ 0 := by
        rw [List.length_take]
        omega
      have hdrop : (src.drop 65535).length < fuel := by
        rw [List.length_drop]
        omega
      rw [if_neg htake]
      -- the source is the buffer of this iteration, and the rest
      conv_rhs => rw [← List.take_append_drop 65535 src, List.mapM_append]
      cases hout : (src.take 65535).mapM lookup with
      | error e => rfl
      | ok out =>
        simp only [bind, Except.bind, ih hdrop]
        cases (src.drop 65535).mapM lookup with
        | error e => rfl
        | ok out' => simp [Except.map, pure, Except.pure]

/-- A filter call drains its source and appends the transformed bytes to its destination. -/
theorem destFilter_eq (src dst : List UInt8) :
    destFilter lookup src dst = (src.mapM lookup).map (fun out => (.ok, [], dst ++ out)) := by
  rw [destFilter, filterLoop_eq (Nat.lt_succ_self _)]
  cases src.mapM lookup <;> rfl

end Lightsocks.Relay
