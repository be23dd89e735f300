import Lightsocks.App.Form
import Lightsocks.Proxy.Lifecycle
import Lightsocks.Relay.Invariant

/-!
# The address that is dialled

The server's address and port go from the form through the start command and
`start_proxy_server` into two globals, which `proxy_listener_cb` reads for every connection it
accepts. It drops the result of `evutil_inet_pton` over a zeroed address, and `htons` takes
the port modulo `2 ^ 16`; it has no way to start no connect. A `stop_proxy_server` sets the
global port to `0`, and the loop may still be in a callback then.

What a text denotes is said here without the parser: `dottedQuad` is about the characters of the
text, four numbers of one to three digits with dots between them.
-/

namespace Lightsocks.Proxy

open Lightsocks.Lib

/-! ## What the running server was given -/

/-- The arguments of the last `start_proxy_server`, and whether a `stop_proxy_server` has
cleared the port since. -/
structure Configured where
  serverIp : List UInt8
  serverPort : Int
  cleared : Bool
  deriving DecidableEq, Repr

def Configured.port (c : Configured) : Int := if c.cleared then 0 else c.serverPort

def configuredAfter (c : Option Configured) : Event → Option Configured
  | .start serverIp serverPort _ => some ⟨serverIp, serverPort, false⟩
  | .stopStep _ .clearServerPort => c.map fun c => { c with cleared := true }
  | _ => c

def configured (es : List Event) : Option Configured := es.foldl configuredAfter none

/-- The globals are what was configured, and there is something configured while
`start_proxy_server` is running. -/
structure State.Configures (s : State) (c : Option Configured) : Prop where
  globals : ∀ c', c = some c' → s.serverIp = c'.serverIp ∧ s.serverPort = c'.port
  running : s.pc ≠ .idle → c.isSome = true

theorem iterate_server (s : State) (b : EventBase) :
    (iterate s b).serverIp = s.serverIp ∧ (iterate s b).serverPort = s.serverPort := by
  unfold iterate
  split
  · exact ⟨rfl, rfl⟩
  · split
    · exact ⟨rfl, rfl⟩
    · split <;> exact ⟨rfl, rfl⟩

theorem afterCallback_server (s : State) (b : EventBase) :
    (afterCallback s b).serverIp = s.serverIp ∧
      (afterCallback s b).serverPort = s.serverPort := by
  unfold afterCallback
  split <;> exact ⟨rfl, rfl⟩

/-- A step that leaves the two globals alone, of a server that runs already. -/
theorem State.Configures.of_running {s s' : State} {c : Option Configured}
    (h : s.Configures c) (hpc : s.pc ≠ .idle)
    (hserver : s'.serverIp = s.serverIp ∧ s'.serverPort = s.serverPort) : s'.Configures c := by
  refine ⟨fun c' hc => ?_, fun _ => h.running hpc⟩
  rw [hserver.1, hserver.2]
  exact h.globals c' hc

/-- A step that leaves the two globals and the server's position alone. -/
theorem State.Configures.of_same {s s' : State} {c : Option Configured} (h : s.Configures c)
    (hpc : s'.pc = s.pc)
    (hserver : s'.serverIp = s.serverIp ∧ s'.serverPort = s.serverPort) : s'.Configures c := by
  refine ⟨fun c' hc => ?_, fun hne => h.running (hpc ▸ hne)⟩
  rw [hserver.1, hserver.2]
  exact h.globals c' hc

theorem Step.configures {s s' : State} {e : Event} {c : Option Configured}
    (hstep : Step s e s') (h : s.Configures c) : s'.Configures (configuredAfter c e) := by
  cases hstep with
  | start serverIp serverPort localPort hpc =>
    refine ⟨fun c' hc => ?_, fun _ => rfl⟩
    cases hc
    exact ⟨rfl, rfl⟩
  | signal hpc | signalFails hpc | eventBaseNew hpc | eventBaseNewFails hpc
  | evconnlistenerNewBind ok hpc | callback hpc | lookup hpc | processed hpc
  | evconnlistenerFree hpc =>
    exact h.of_running (by rw [hpc]; decide) ⟨rfl, rfl⟩
  | dispatch b hpc hb | eventBaseFree b hpc hb =>
    exact h.of_running (by rw [hpc]; decide) ⟨rfl, rfl⟩
  | iterate b hpc hb => exact h.of_running (by rw [hpc]; decide) (iterate_server s b)
  | wake hpc | wakeFails hpc =>
    exact h.of_running (by rcases hpc with hpc | hpc <;> rw [hpc] <;> decide) ⟨rfl, rfl⟩
  | loopexitCb b b' hpc hb hpos hb' =>
    exact h.of_running (by rw [hpc]; decide) (afterCallback_server _ _)
  | callbackReturns b hpc hb =>
    exact h.of_running (by rw [hpc]; decide) (afterCallback_server _ _)
  | clearServerPort hi hpc =>
    refine ⟨fun c' hc => ?_, fun hne => ?_⟩
    · obtain ⟨c₀, hc₀, rfl⟩ := Option.map_eq_some_iff.mp hc
      exact ⟨(h.globals c₀ hc₀).1, rfl⟩
    · change (c.map _).isSome = true
      rw [Option.isSome_map]
      exact h.running hne
  | stop | loopbreakNull | loopbreak | loopexitNull | loopexit | clearEncryptor
  | clearClientCallback => exact h.of_same rfl ⟨rfl, rfl⟩

theorem configures_of_runs {es : List Event} {s : State} (h : proxy.Runs es (.ok s)) :
    s.Configures (configured es) := by
  refine Machine.Runs.invariant (I := fun es s => s.Configures (configured es)) ?_ ?_ h
  · exact ⟨fun c' hc => (by cases hc), fun hne => absurd rfl hne⟩
  · intro es s e s' _ hI he hs'
    have hnext := (step_of_exec he hs').configures hI
    rw [configured, List.foldl_append]
    exact hnext

/-- The globals as the callbacks of the relay read them. -/
def State.globals (s : State) (encryptor : Relay.ByteCipher) : Relay.Globals where
  encryptor := encryptor
  clientCallback := s.clientCallback
  serverIp := s.serverIp
  serverPort := s.serverPort

end Lightsocks.Proxy

namespace Lightsocks.App

open Lightsocks.Lib Lightsocks.Relay

/-! ## A port that survives `htons` -/

theorem htons_exact_iff (port : Int) :
    (((htons port).toNat : Int) = port) ↔ 0 ≤ port ∧ port ≤ 65535 := by
  have hval : ((htons port).toNat : Int) = port % 65536 := by
    rw [htons, UInt16.ofInt, UInt16.toNat_ofNat']
    omega
  rw [hval]
  omega

/-! ## Dotted quads -/

/-- One to three decimal digits that write a number up to `255`. -/
def octet (cs : List Char) : Option Nat :=
  let n := cs.foldl (fun n c => 10 * n + (c.toNat - 48)) 0
  if cs ≠ [] ∧ cs.length ≤ 3 ∧ cs.all Char.isDigit ∧ n ≤ 255 then some n else none

/-- The IPv4 address that a text denotes in dotted-quad form. -/
def dottedQuad (text : String) : Option UInt32 :=
  match (text.toList.splitOn '.').map octet with
  | [some a, some b, some c, some d] =>
    some (UInt32.ofNat (2 ^ 24 * a + (2 ^ 16 * b + (2 ^ 8 * c + d))))
  | _ => none

/-- The bytes of an octet. -/
theorem octet_bytes {cs : List Char} {n : Nat} (h : octet cs = some n) :
    Octet (cs.flatMap encodeChar) ∧ decimal (cs.flatMap encodeChar) = n := by
  unfold octet at h
  dsimp only at h
  split at h
  case isFalse => cases h
  rename_i hoctet
  obtain ⟨hne, -, hdigits, hle⟩ := hoctet
  have hvalue := Option.some.inj h
  have hrange : ∀ c ∈ cs, 48 ≤ c.toNat ∧ c.toNat ≤ 57 := by
    intro c hc
    have hdigit := List.all_eq_true.mp hdigits c hc
    simp only [Char.isDigit, Bool.and_eq_true, decide_eq_true_eq] at hdigit
    exact hdigit
  have hbytes : cs.flatMap encodeChar = cs.map (fun c => UInt8.ofNat c.toNat) := by
    rw [← List.flatMap_singleton' (cs.map _), List.flatMap_map]
    apply List.flatMap_congr
    intro c hc
    have hrange := hrange c hc
    exact encodeChar_ascii (by omega) (by omega)
  have hbyte : ∀ c ∈ cs, (UInt8.ofNat c.toNat).toNat = c.toNat := by
    intro c hc
    have hrange := hrange c hc
    rw [UInt8.toNat_ofNat']
    omega
  have hdecimal : decimal (cs.flatMap encodeChar) = n := by
    rw [hbytes, decimal, List.foldl_map, ← hvalue]
    apply List.foldl_ext
    intro n c hc
    rw [hbyte c hc]
  refine ⟨⟨?_, ?_, ?_⟩, hdecimal⟩
  · rw [hbytes]
    simpa using hne
  · rw [hbytes]
    intro b hb
    obtain ⟨c, hc, rfl⟩ := List.mem_map.mp hb
    simpa [isdigit, hbyte c hc] using hrange c hc
  · omega

/-- The parser reads every dotted quad as the address it denotes. -/
theorem evutilInetPton_dottedQuad {text : String} {a : UInt32} (h : dottedQuad text = some a) :
    evutilInetPton (cStr (getStringUTFChars text)) = some a := by
  unfold dottedQuad at h
  split at h
  case h_2 => cases h
  rename_i a b c d hsplit
  have haddr := Option.some.inj h
  obtain ⟨as, bs, cs, ds, hparts, ha, hb, hc, hd⟩ : ∃ as bs cs ds,
      text.toList.splitOn '.' = [as, bs, cs, ds] ∧ octet as = some a ∧ octet bs = some b ∧
        octet cs = some c ∧ octet ds = some d := by
    simpa [List.map_eq_cons_iff, and_assoc] using hsplit
  have htext : text.toList = as ++ '.' :: (bs ++ '.' :: (cs ++ '.' :: ds)) := by
    have hjoin : ['.'].intercalate (text.toList.splitOn '.') = text.toList :=
      List.intercalate_splitOn '.'
    rw [hparts] at hjoin
    simpa [List.intercalate] using hjoin.symm
  obtain ⟨hA, hAn⟩ := octet_bytes ha
  obtain ⟨hB, hBn⟩ := octet_bytes hb
  obtain ⟨hC, hCn⟩ := octet_bytes hc
  obtain ⟨hD, hDn⟩ := octet_bytes hd
  have hdot : encodeChar '.' = [46] := by decide
  have hbytes : getStringUTFChars text = as.flatMap encodeChar ++ 46 :: (bs.flatMap encodeChar ++
      46 :: (cs.flatMap encodeChar ++ 46 :: ds.flatMap encodeChar)) := by
    rw [getStringUTFChars, htext]
    simp [hdot]
  have hzero : ∀ x ∈ getStringUTFChars text, (x != 0) = true := by
    have hdigit : ∀ {xs : List UInt8}, Octet xs → ∀ x ∈ xs, (x != 0) = true := by
      rintro xs hxs x hx
      have hd := hxs.digits x hx
      rw [bne_iff_ne]
      rintro rfl
      cases hd
    intro x hx
    simp only [hbytes, List.mem_append, List.mem_cons] at hx
    rcases hx with hx | rfl | hx | rfl | hx | rfl | hx
    · exact hdigit hA x hx
    · rfl
    · exact hdigit hB x hx
    · rfl
    · exact hdigit hC x hx
    · rfl
    · exact hdigit hD x hx
  rw [cStr, List.takeWhile_eq_self_iff.mpr hzero, hbytes, evutilInetPton_quad hA hB hC hD, hAn,
    hBn, hCn, hDn, haddr]

/-! ## The connect of an accepted connection -/

/-- The callback either begins no connect, or one to the address that the text denotes and to
the port, neither cut short. -/
def DialsExactly (c : StartCommand) (s s' : Relay.State) : Prop :=
  s'.dialled = s.dialled ∨
    ∃ p a port, dottedQuad c.socksIp = some a ∧ ((port : UInt16).toNat : Int) = c.socksPort ∧
      s'.dialled = s.dialled ++ [(p, ⟨a, port⟩)]

/-- Every accepted connection adds one dialled address, the one that `Globals.dstAddr`
builds. -/
theorem proxyListenerCb_dials (g : Globals) (s : Relay.State) : ∃ s',
    proxyListenerCb g s true = .ok s' ∧ s'.dialled = s.dialled ++ [(s.next.dst, g.dstAddr)] :=
  ⟨_, proxyListenerCb_eq s true, rfl⟩

theorem dialsExactly_iff {c : StartCommand} {g : Globals} {s s' : Relay.State}
    (hip : g.serverIp = getStringUTFChars c.socksIp) (hs' : proxyListenerCb g s true = .ok s') :
    DialsExactly c s s' ↔ (dottedQuad c.socksIp).isSome = true ∧
      ((htons g.serverPort).toNat : Int) = c.socksPort := by
  obtain ⟨s₀, hs₀, hdial⟩ := proxyListenerCb_dials g s
  cases hs₀.symm.trans hs'
  rw [DialsExactly, hdial]
  constructor
  · rintro (hsame | ⟨p, a, port, ha, hport, happ⟩)
    · simp at hsame
    · have haddr : (s.next.dst, g.dstAddr) = (p, ⟨a, port⟩) := by simpa using happ
      have hsin : g.dstAddr.sinPort = port := congrArg (fun x => x.2.sinPort) haddr
      refine ⟨by rw [ha]; rfl, ?_⟩
      rw [← hport, ← hsin]
      rfl
  · rintro ⟨hsome, hport⟩
    obtain ⟨a, ha⟩ := Option.isSome_iff_exists.mp hsome
    refine Or.inr ⟨s.next.dst, a, htons g.serverPort, ha, hport, ?_⟩
    have haddr : g.dstAddr = ⟨a, htons g.serverPort⟩ := by
      rw [Globals.dstAddr, hip, evutilInetPton_dottedQuad ha]
      rfl
    rw [haddr]

/-- In every callback of every run a server is configured. If it is what the form let through,
an accepted connection goes to exactly that server, or nowhere, if and only if the text is a
dotted quad, the port fits in 16 bits, and no stop has cleared the port under the loop. -/
theorem dials_configured_iff (encryptor : ByteCipher) {es : List Proxy.Event} {s : Proxy.State}
    (hrun : Proxy.proxy.Runs es (.ok s)) (hpc : s.pc = .callback) :
    ∃ cfg, Proxy.configured es = some cfg ∧
      ∀ (u : UnicodeDigits) (f : Form) (c : StartCommand), f.startVPN u = .ok c →
        cfg.serverIp = getStringUTFChars c.socksIp → cfg.serverPort = c.socksPort →
        ∀ r r' : Relay.State, proxyListenerCb (s.globals encryptor) r true = .ok r' →
          (DialsExactly c r r' ↔
            (dottedQuad c.socksIp).isSome = true ∧ 0 ≤ c.socksPort ∧ c.socksPort ≤ 65535 ∧
            (cfg.cleared = true → c.socksPort = 0)) := by
  have hconf := Proxy.configures_of_runs hrun
  obtain ⟨cfg, hcfg⟩ := Option.isSome_iff_exists.mp (hconf.running (by rw [hpc]; decide))
  obtain ⟨hip, hport⟩ := hconf.globals cfg hcfg
  refine ⟨cfg, hcfg, ?_⟩
  intro u f c _ hcip hcport r r' hr'
  have hdial : DialsExactly c r r' ↔ (dottedQuad c.socksIp).isSome = true ∧
      ((htons s.serverPort).toNat : Int) = c.socksPort :=
    dialsExactly_iff (g := s.globals encryptor) (hip.trans hcip) hr'
  rw [hdial, hport, Proxy.Configured.port, hcport, and_congr_right_iff]
  intro _
  cases cfg.cleared with
  | false =>
    rw [if_neg (by decide), htons_exact_iff]
    simp
  | true =>
    have hzero : ((htons 0).toNat : Int) = 0 := by decide
    rw [if_pos rfl, hzero]
    constructor
    · intro h
      rw [← h]
      simp
    · rintro ⟨-, -, h⟩
      exact (h rfl).symm

/-- The way of a run into its first callback. -/
def toCallback (serverIp : List UInt8) (serverPort : Int) : List Proxy.Event :=
  [.start serverIp serverPort 6666, .signal true, .eventBaseNew true,
    .evconnlistenerNewBind true, .dispatch, .iterate, .wake true, .callback]

def inCallback (serverIp : List UInt8) (serverPort : Int) : Proxy.State :=
  { Proxy.State.initial with
    serverIp, serverPort
    localPort := 6666
    base := .live ⟨false, false, 0⟩
    encryptor := true
    clientCallback := true
    pc := .callback
    listener := true }

theorem runs_toCallback (serverIp : List UInt8) (serverPort : Int) :
    Proxy.proxy.Runs (toCallback serverIp serverPort) (.ok (inCallback serverIp serverPort)) :=
  Machine.runs_of_play rfl

/-- A form with a dotted quad, and one with a name and a port too large. -/
def quadForm : Form := ⟨"1.2.3.4", "8388", "7300", "AAAA"⟩

def nameForm : Form := ⟨"localhost", "70000", "7300", "AAAA"⟩

/-- The globals in the first callback of a run with this server. -/
def callbackGlobals (ip : String) (port : Int) : Globals :=
  (inCallback (getStringUTFChars ip) port).globals ⟨.ok, .ok⟩

theorem dials_configured_of_quad : ∃ r',
    proxyListenerCb (callbackGlobals "1.2.3.4" 8388) .empty true = .ok r' ∧
    DialsExactly ⟨⟨"1.2.3.4", 8388, "127.0.0.1:7300"⟩, "AAAA"⟩ .empty r' ∧
    r'.dialled = [(1, ⟨0x01020304, 8388⟩)] := by
  obtain ⟨cfg, hcfg, hexact⟩ := dials_configured_iff ⟨.ok, .ok⟩
    (runs_toCallback (getStringUTFChars "1.2.3.4") 8388) rfl
  cases hcfg
  obtain ⟨r', hr', hdial⟩ := proxyListenerCb_dials (callbackGlobals "1.2.3.4" 8388) .empty
  refine ⟨r', hr', (hexact .twoScripts quadForm _ ?_ rfl rfl _ r' hr').mpr ?_, ?_⟩
  · decide
  · decide
  · rw [hdial]
    decide

/-- The name is dialled as `0.0.0.0`, and the port modulo `2 ^ 16`. -/
theorem name_dialled_as_zero :
    nameForm.startVPN .twoScripts = .ok ⟨⟨"localhost", 70000, "127.0.0.1:7300"⟩, "AAAA"⟩ ∧
    Proxy.proxy.Runs (toCallback (getStringUTFChars "localhost") 70000)
      (.ok (inCallback (getStringUTFChars "localhost") 70000)) ∧
    ∃ r', proxyListenerCb (callbackGlobals "localhost" 70000) .empty true = .ok r' ∧
      r'.dialled = [(1, ⟨0, 4464⟩)] ∧
      ¬ DialsExactly ⟨⟨"localhost", 70000, "127.0.0.1:7300"⟩, "AAAA"⟩ .empty r' := by
  obtain ⟨r', hr', hdial⟩ := proxyListenerCb_dials (callbackGlobals "localhost" 70000) .empty
  refine ⟨by decide, runs_toCallback _ _, r', hr', ?_, ?_⟩
  · rw [hdial]
    decide
  · intro h
    have hsome : (dottedQuad "localhost").isSome = true := ((dialsExactly_iff rfl hr').mp h).1
    exact absurd hsome (by decide)

/-- What the parser takes for an address, though it is no dotted quad: a blank in front, and a
number that is one modulo `2 ^ 32`. -/
example : (dottedQuad " 1.2.3.4" = none ∧ dottedQuad "4294967297.2.3.4" = none) ∧
    evutilInetPton (cStr (getStringUTFChars " 1.2.3.4")) = some 0x01020304 ∧
    evutilInetPton (cStr (getStringUTFChars "4294967297.2.3.4")) = some 0x01020304 := by
  decide

end Lightsocks.App
