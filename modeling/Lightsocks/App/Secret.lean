import Lightsocks.App.Form
import Lightsocks.Relay.Model
import Lightsocks.Relay.Signedness
import Mathlib.Data.Fintype.EquivFin

/-!
# What becomes of a secret

Between the form and the filters nothing looks at the table that a secret decodes to.
`startVPN` refuses the empty secret; `startProxy` returns nothing and drops what
`start_proxy_server` returns; the constructor copies whatever table it is given. So a secret
that is no permutation of the bytes is used like any other, byte by byte.
-/

namespace Lightsocks.App

open Lightsocks.Lib Lightsocks.Cipher Lightsocks.Relay

/-! ## Tables -/

/-- A table with each byte exactly once. -/
def WellFormed (table : List UInt8) : Prop :=
  table.length = 256 ∧ ∀ b, table.count b = 1

theorem mem_of_vecGet {v : List UInt8} {i : Int} {x : UInt8} (h : vecGet v i = .ok x) :
    x ∈ v := by
  unfold vecGet at h
  split at h
  · split at h
    · rename_i hget
      cases h
      exact List.mem_of_getElem? hget
    · cases h
  · cases h

/-- A table without an entry `255` has none for some byte, or the same one for two bytes,
whatever index the ABI makes of a byte. -/
theorem lookup_fault_or_clash {table : List UInt8} (abi : PlainChar) (h255 : 255 ∉ table) :
    (∃ x fault, vecGet table (abi.toInt x) = .error fault) ∨
      ∃ x y z, x ≠ y ∧ vecGet table (abi.toInt x) = .ok z ∧
        vecGet table (abi.toInt y) = .ok z := by
  have hfinite : Finite UInt8 :=
    Finite.of_injective UInt8.toFin fun _ _ h => UInt8.toFin_inj.mp h
  by_cases hok : ∀ x, ∃ z, vecGet table (abi.toInt x) = .ok z
  · choose f hf using hok
    have hsurj : ¬ Function.Surjective f := by
      intro hs
      obtain ⟨x, hx⟩ := hs 255
      exact h255 (hx ▸ mem_of_vecGet (hf x))
    rw [← Finite.injective_iff_surjective, Function.not_injective_iff] at hsurj
    obtain ⟨x, y, hxy, hne⟩ := hsurj
    exact .inr ⟨x, y, f x, hne, hf x, by rw [hxy, hf y]⟩
  · push Not at hok
    obtain ⟨x, hx⟩ := hok
    cases hget : vecGet table (abi.toInt x) with
    | ok z => exact absurd hget (hx z)
    | error fault => exact .inl ⟨x, fault, hget⟩

/-! ## `startProxy` -/

/-- `startProxy`, up to the loop of `start_proxy_server`: the encryptor is built from the
secret and becomes the global one. -/
def startProxy (abi : PlainChar) (c : StartCommand) : Except VecFault Globals := do
  let encryptor ← LightsocksAndroidEncryptor.new (getStringUTFChars c.secret)
  return {
    encryptor := .ofEncryptor abi encryptor
    clientCallback := true
    serverIp := getStringUTFChars c.socksIp
    serverPort := c.socksPort }

/-- The constructor writes every entry's place in `decrypt_vec`, which has none for `255`. -/
theorem startProxy_ok_iff {abi : PlainChar} {c : StartCommand} :
    (∃ g, startProxy abi c = .ok g) ↔
      255 ∉ base64Decode (getStringUTFChars c.secret) := by
  obtain ⟨table, htable⟩ : ∃ t, t = base64Decode (getStringUTFChars c.secret) := ⟨_, rfl⟩
  have hentries : (∃ dec, LightsocksAndroidEncryptor.initVectors table (List.range table.length)
      (List.replicate mappingSize 0) = .ok dec) ↔ 255 ∉ table := by
    rw [LightsocksAndroidEncryptor.initVectors_ok_iff, List.length_replicate]
    constructor
    · intro h hmem
      obtain ⟨i, hi, hget⟩ := List.mem_iff_getElem.mp hmem
      obtain ⟨x, hx, hlt⟩ := h i (List.mem_range.mpr hi)
      rw [List.getElem?_eq_getElem hi, hget] at hx
      cases hx
      exact absurd hlt (by decide)
    · intro h i hi
      have hlt := List.mem_range.mp hi
      refine ⟨table[i], List.getElem?_eq_getElem hlt, ?_⟩
      have hne : table[i] ≠ 255 := fun heq => h (heq ▸ List.getElem_mem hlt)
      have hne' : table[i].toNat ≠ 255 := fun heq => hne (UInt8.toNat_inj.mp heq)
      have hbyte := table[i].toNat_lt
      rw [mappingSize]
      omega
  rw [← htable, ← hentries]
  constructor
  · rintro ⟨g, hg⟩
    obtain ⟨e, he, -⟩ := bind_ok hg
    obtain ⟨henc, hdec⟩ := (newSized_ok_iff _ _ _).mp he
    rw [htable, ← henc]
    exact ⟨_, hdec⟩
  · rintro ⟨dec, hdec⟩
    have he : LightsocksAndroidEncryptor.new (getStringUTFChars c.secret) = .ok ⟨table, dec⟩ :=
      (newSized_ok_iff _ _ _).mpr ⟨htable, hdec⟩
    exact ⟨_, by rw [startProxy, he]; rfl⟩

/-- The only write of the constructor that can be out of range. -/
theorem initVectors_error {enc dec : List UInt8} {is : List Nat} {f : VecFault}
    (hdec : dec.length = 255) (his : ∀ i ∈ is, i < enc.length)
    (h : LightsocksAndroidEncryptor.initVectors enc is dec = .error f) : f = .write 255 255 := by
  induction is generalizing dec with
  | nil => cases h
  | cons i is ih =>
    have hi := his i (by simp)
    have hget : vecGet enc i = .ok enc[i] :=
      (vecGet_nat enc i).mpr (List.getElem?_eq_getElem hi)
    simp only [LightsocksAndroidEncryptor.initVectors, hget, vecSet_nat, hdec, bind,
      Except.bind] at h
    split at h
    · rename_i f' hset
      split at hset
      · cases hset
      · cases hset
        cases h
        have hlt := enc[i].toNat_lt
        have hval : enc[i].toNat = 255 := by omega
        rw [hval]
        rfl
    · rename_i dec' hset
      split at hset
      · cases hset
        exact ih (by simpa using hdec) (fun j hj => his j (List.mem_cons_of_mem _ hj)) h
      · cases hset

theorem startProxy_error {abi : PlainChar} {c : StartCommand}
    (h : 255 ∈ base64Decode (getStringUTFChars c.secret)) :
    startProxy abi c = .error (.write 255 255) := by
  cases hp : startProxy abi c with
  | ok g => exact absurd h (startProxy_ok_iff.mp ⟨g, hp⟩)
  | error f =>
    simp only [startProxy, LightsocksAndroidEncryptor.new,
      LightsocksAndroidEncryptor.newSized, bind, Except.bind] at hp
    split at hp
    · rename_i f' hnew
      cases hp
      split at hnew
      · rename_i f'' hinit
        cases hnew
        rw [initVectors_error List.length_replicate (fun i hi => List.mem_range.mp hi) hinit]
      · cases hnew
    · cases hp

/-- The table is the decoded secret, whatever that is. -/
theorem startProxy_spec {abi : PlainChar} {c : StartCommand} {g : Globals}
    (h : startProxy abi c = .ok g) :
    ∃ e : LightsocksAndroidEncryptor, g.encryptor = .ofEncryptor abi e ∧
      e.encryptVec = base64Decode (getStringUTFChars c.secret) := by
  obtain ⟨e, he, hg⟩ := bind_ok h
  cases hg
  exact ⟨e, rfl, ((newSized_ok_iff _ _ _).mp he).1⟩

/-! ## The first byte of a connection -/

/-- A client was accepted, the connect to the server begun, and the first byte of the client
moved to the output of the filter. -/
def firstByte (g : Globals) (x : UInt8) : Relay.State where
  bevs := [
    { ops := .socket .connected
      readcb := some .srcReadCb
      errorcb := some .proxyEventCb
      cbarg := some 2
      received := [x] },
    { ops := .socket .connecting
      readcb := some .beFilterReadcb
      errorcb := some .beFilterEventcb
      cbarg := some 2 },
    { ops := .filter 1
      output := [x]
      readcb := some .dstReadCb
      errorcb := some .proxyEventCb
      cbarg := some 0 }]
  conns := [⟨0, 1, 2⟩]
  dialled := [(1, g.dstAddr)]
  reports := []
  returned := false

def firstByteEvents (x : UInt8) : List Relay.Event := [.accept true, .arrive 0 [x], .read 0]

theorem runs_firstByte (g : Globals) (x : UInt8) :
    (relay g).Runs (firstByteEvents x) (.ok (firstByte g x)) :=
  Machine.runs_of_play rfl

/-- The output filter then asks the encryptor for that byte. -/
theorem exec_firstByte {g : Globals} {abi : PlainChar} {e : LightsocksAndroidEncryptor}
    (hg : g.encryptor = .ofEncryptor abi e) (x : UInt8) :
    (relay g).exec (firstByte g x) (.output 2) =
      match vecGet e.encryptVec (abi.toInt x) with
      | .ok y => .ok { firstByte g x with
          bevs := ((firstByte g x).bevs.modify 1 fun b => { b with output := [y] }).modify 2
            fun b => { b with output := [] } }
      | .error f => .error (.lookup f) := by
  change (liftLookup (destFilterOut g.encryptor [x] []) >>= _) = _
  rw [hg, destFilterOut_single]
  cases vecGet e.encryptVec (abi.toInt x) with
  | error f => rfl
  | ok y => rfl

/-- In some run nothing was reported to Java yet, the byte `x` of a client stands at the output
filter, and the filter's call of `encrypt` gives `result`: the byte that goes to the server, or
an access out of range. -/
def EncryptReached (g : Globals) (x : UInt8) (result : Except VecFault UInt8) : Prop :=
  ∃ es s, (relay g).Runs es (.ok s) ∧ s.reports = [] ∧
    (s.bevs[2]?.map Bufferevent.output) = some [x] ∧
    (relay g).enabled s (.output 2) = true ∧
    ((relay g).exec s (.output 2)).map (fun s' => s'.bevs[1]?.map Bufferevent.output) =
      (result.mapError Relay.Fault.lookup).map fun y => some [y]

theorem encryptReached {g : Globals} {abi : PlainChar} {e : LightsocksAndroidEncryptor}
    (hg : g.encryptor = .ofEncryptor abi e) (x : UInt8) :
    EncryptReached g x (vecGet e.encryptVec (abi.toInt x)) := by
  refine ⟨firstByteEvents x, firstByte g x, runs_firstByte g x, rfl, rfl, rfl, ?_⟩
  rw [exec_firstByte hg]
  cases vecGet e.encryptVec (abi.toInt x) with
  | error f => rfl
  | ok y => rfl

/-! ## No secret is refused for its table -/

/-- The empty secret is marked, and no other. Every one that the form lets through is used as
it is. If its table has an entry `255`, the constructor's own write is out of range. Otherwise
the table is malformed, the proxy starts all the same, and `encrypt` is called on the table for
every byte: it gives the byte's entry, and is an access out of range if there is none. For some
byte there is none, or two bytes become one on their way to the server. -/
theorem secret_used_unchecked (u : UnicodeDigits) (abi : PlainChar) (f : Form)
    (c : StartCommand) (hc : f.startVPN u = .ok c) :
    c.secret ≠ "" ∧ (∀ f' : Form, .layoutSecret ∈ f'.errors u ↔ f'.etSecret = "") ∧
    (255 ∈ base64Decode (getStringUTFChars c.secret) →
      startProxy abi c = .error (.write 255 255)) ∧
    (255 ∉ base64Decode (getStringUTFChars c.secret) →
      ¬ WellFormed (base64Decode (getStringUTFChars c.secret)) ∧
      ∃ g, startProxy abi c = .ok g ∧
        (∀ x, EncryptReached g x
          (vecGet (base64Decode (getStringUTFChars c.secret)) (abi.toInt x))) ∧
        ((∃ x fault, EncryptReached g x (.error fault)) ∨
          ∃ x y z, x ≠ y ∧ EncryptReached g x (.ok z) ∧ EncryptReached g y (.ok z))) := by
  obtain ⟨herr, -, -, -, hsecret⟩ := startVPN_ok_iff.mp hc
  refine ⟨?_, fun _ => layoutSecret_mem_iff, startProxy_error, fun h255 => ⟨?_, ?_⟩⟩
  · rw [hsecret]
    exact (errors_eq_nil_iff.mp herr).2.1
  · intro hwf
    apply h255
    rw [← List.one_le_count_iff, hwf.2 255]
  · obtain ⟨g, hg⟩ := startProxy_ok_iff.mpr h255
    obtain ⟨e, henc, hvec⟩ := startProxy_spec hg
    have hreach : ∀ x, EncryptReached g x
        (vecGet (base64Decode (getStringUTFChars c.secret)) (abi.toInt x)) := by
      intro x
      rw [← hvec]
      exact encryptReached henc x
    refine ⟨g, hg, hreach, ?_⟩
    rcases lookup_fault_or_clash abi h255 with ⟨x, fault, hx⟩ | ⟨x, y, z, hne, hx, hy⟩
    · exact .inl ⟨x, fault, hx ▸ hreach x⟩
    · exact .inr ⟨x, y, z, hne, hx ▸ hreach x, hy ▸ hreach y⟩

/-- A form whose secret decodes to three zeros. -/
def shortSecret : Form := ⟨"1.2.3.4", "8388", "7300", "AAAA"⟩

def shortSecretCommand : StartCommand := ⟨⟨"1.2.3.4", 8388, "127.0.0.1:7300"⟩, "AAAA"⟩

theorem shortSecret_startVPN : shortSecret.startVPN .twoScripts = .ok shortSecretCommand := by
  decide

theorem shortSecret_table :
    base64Decode (getStringUTFChars shortSecretCommand.secret) = [0, 0, 0] := by
  decide

/-- Two bytes of three become one, and the sixth is looked for behind the end. -/
theorem secret_used_unchecked_short : ∃ g,
    startProxy .unsigned shortSecretCommand = .ok g ∧
    EncryptReached g 1 (.ok 0) ∧ EncryptReached g 2 (.ok 0) ∧
    EncryptReached g 5 (.error (.read 5 3)) := by
  obtain ⟨-, g, hg, hreach, -⟩ := (secret_used_unchecked .twoScripts .unsigned shortSecret
    shortSecretCommand shortSecret_startVPN).2.2.2 (by rw [shortSecret_table]; decide)
  rw [shortSecret_table] at hreach
  exact ⟨g, hg, hreach 1, hreach 2, hreach 5⟩

/-- The proxy runs on three entries, and looks for a sixth. -/
theorem short_secret_relayed : ∃ c g,
    shortSecret.startVPN .twoScripts = .ok c ∧
    ¬ WellFormed (base64Decode (getStringUTFChars c.secret)) ∧
    startProxy .unsigned c = .ok g ∧
    (relay g).Runs (firstByteEvents 5 ++ [.output 2]) (.error (.lookup (.read 5 3))) := by
  obtain ⟨g, hg⟩ : ∃ g, startProxy .unsigned shortSecretCommand = .ok g :=
    startProxy_ok_iff.mpr (by rw [shortSecret_table]; decide)
  obtain ⟨e, henc, hvec⟩ := startProxy_spec hg
  refine ⟨shortSecretCommand, g, shortSecret_startVPN, ?_, hg, ?_⟩
  · intro h
    rw [shortSecret_table] at h
    exact absurd h.1 (by decide)
  · have hrun := (runs_firstByte g 5).snoc (.output 2) rfl
    rw [exec_firstByte henc, hvec, shortSecret_table] at hrun
    exact hrun

end Lightsocks.App
