import Lightsocks.App.Service
import Mathlib.Algebra.Group.Int.Defs
import Mathlib.Algebra.Group.Nat.Defs

/-!
# The form

`startVPN` of the activity reads four texts, refuses some of them, and puts the others into
the start command. Kotlin tests digits by their Unicode class, so the class is a parameter
here, of which only the ASCII part is fixed.
-/

namespace Lightsocks.App

/-! ## Digits -/

/-- `Character.digit(c, 10)`: the value of a decimal digit of any script. -/
structure UnicodeDigits where
  digit : Char → Option Nat
  digit_lt : ∀ c d, digit c = some d → d < 10
  digit_ascii : ∀ c, c.toNat < 128 →
    digit c = if 48 ≤ c.toNat ∧ c.toNat ≤ 57 then some (c.toNat - 48) else none

/-- The digits of two scripts, ASCII and Arabic-Indic, as values to compute with. -/
def UnicodeDigits.twoScripts : UnicodeDigits where
  digit c :=
    if 48 ≤ c.toNat ∧ c.toNat ≤ 57 then some (c.toNat - 48)
    else if 0x660 ≤ c.toNat ∧ c.toNat ≤ 0x669 then some (c.toNat - 0x660)
    else none
  digit_lt c d h := by
    split at h
    · have hd := Option.some.inj h
      omega
    · split at h
      · have hd := Option.some.inj h
        omega
      · cases h
  digit_ascii c hc := by
    split
    · rfl
    · rw [if_neg (by omega)]

/-- `CharSequence.isDigitsOnly`. -/
def isDigitsOnly (u : UnicodeDigits) (text : String) : Bool :=
  text.toList.all fun c => (u.digit c).isSome

/-- The number that digits write. -/
def denotes (u : UnicodeDigits) (cs : List Char) : Nat :=
  cs.foldl (fun n c => 10 * n + (u.digit c).getD 0) 0

/-- `digitOf` sees one UTF-16 unit at a time, so no digit outside the basic plane. -/
def digitOf (u : UnicodeDigits) (c : Char) : Option Nat :=
  if c.toNat < 0x10000 then u.digit c else none

/-- The digits behind the sign, up to `limit`. -/
def digitsToInt (u : UnicodeDigits) (limit : Nat) (cs : List Char) : Option Nat :=
  if cs.all (fun c => (digitOf u c).isSome) ∧ denotes u cs ≤ limit then some (denotes u cs)
  else none

/-- `String.toIntOrNull`. -/
def toIntOrNull (u : UnicodeDigits) (text : String) : Option Int :=
  match text.toList with
  | [] => none
  | c :: cs =>
    if c.toNat < 48 then
      if cs = [] then none
      else if c = '-' then (digitsToInt u (2 ^ 31) cs).map fun n => -Int.ofNat n
      else if c = '+' then (digitsToInt u (2 ^ 31 - 1) cs).map Int.ofNat
      else none
    else (digitsToInt u (2 ^ 31 - 1) (c :: cs)).map Int.ofNat

/-! ## `startVPN` -/

/-- The texts of the four fields. -/
structure Form where
  etSocks5Ip : String
  etSocks5Port : String
  etUdpgwPort : String
  etSecret : String
  deriving DecidableEq, Repr

/-- The fields that can be marked. -/
inductive Layout
  | layoutSocks5Ip
  | layoutSecret
  | layoutSocks5Port
  | layoutUdpgwPort
  deriving DecidableEq, Repr

/-- What a marked field says. -/
def Layout.error : Layout → String
  | .layoutSocks5Ip => "请输入lightsocks-server的ip地址"
  | .layoutSecret => "请输入lightsocks-server的password"
  | .layoutSocks5Port => "请输入lightsocks-server的端口"
  | .layoutUdpgwPort =>
    "请输入udpgw的端口；注意udpgw是运行在lightsocks相同服务器上的另一个服务，用于远程dns解析"

/-- The extras of the start command, all four. -/
structure StartCommand extends Intent where
  secret : String
  deriving DecidableEq, Repr

/-- The fields that `startVPN` marks. -/
def Form.errors (u : UnicodeDigits) (f : Form) : List Layout :=
  (if f.etSocks5Ip = "" then [.layoutSocks5Ip] else []) ++
  (if f.etSecret = "" then [.layoutSecret] else []) ++
  (if (toIntOrNull u f.etSocks5Port).isNone then [.layoutSocks5Port] else []) ++
  (if f.etUdpgwPort = "" || !isDigitsOnly u f.etUdpgwPort then [.layoutUdpgwPort] else [])

/-- `startVPN`, up to the start of the service. -/
def Form.startVPN (u : UnicodeDigits) (f : Form) : Except (List Layout) StartCommand :=
  match f.errors u, toIntOrNull u f.etSocks5Port with
  | [], some serverPort => .ok {
      socksIp := f.etSocks5Ip
      socksPort := serverPort
      udpgwAddr := "127.0.0.1:" ++ f.etUdpgwPort
      secret := f.etSecret }
  | errors, _ => .error errors

theorem errors_eq_nil_iff {u : UnicodeDigits} {f : Form} :
    f.errors u = [] ↔ f.etSocks5Ip ≠ "" ∧ f.etSecret ≠ "" ∧
      (toIntOrNull u f.etSocks5Port).isNone = false ∧
      f.etUdpgwPort ≠ "" ∧ isDigitsOnly u f.etUdpgwPort = true := by
  have hmark : ∀ {c : Prop} [Decidable c] {l : Layout},
      (if c then [l] else []) = [] ↔ ¬ c := by
    intro c _ l
    by_cases hc : c <;> simp [hc]
  simp only [Form.errors, List.append_eq_nil_iff, hmark, Bool.or_eq_true, decide_eq_true_eq,
    Bool.not_eq_true', not_or, Bool.not_eq_true, Bool.not_eq_false, ne_eq, and_assoc]

/-- A secret is looked at for its emptiness only. -/
theorem layoutSecret_mem_iff {u : UnicodeDigits} {f : Form} :
    .layoutSecret ∈ f.errors u ↔ f.etSecret = "" := by
  simp only [Form.errors, List.mem_append]
  constructor
  · rintro (((h | h) | h) | h)
    all_goals split at h <;> simp_all
  · intro h
    rw [if_pos h]
    exact .inl (.inl (.inr List.mem_cons_self))

/-- The texts that are accepted, and what becomes of them. -/
theorem startVPN_ok_iff {u : UnicodeDigits} {f : Form} {c : StartCommand} :
    f.startVPN u = .ok c ↔ f.errors u = [] ∧
      toIntOrNull u f.etSocks5Port = some c.socksPort ∧ c.socksIp = f.etSocks5Ip ∧
      c.udpgwAddr = "127.0.0.1:" ++ f.etUdpgwPort ∧ c.secret = f.etSecret := by
  obtain ⟨⟨ip, port, addr⟩, secret⟩ := c
  unfold Form.startVPN
  constructor
  · intro h
    split at h
    · rename_i p herr hport
      cases h
      exact ⟨herr, hport, rfl, rfl, rfl⟩
    · cases h
  · rintro ⟨herr, hport, rfl, rfl, rfl⟩
    rw [herr, hport]

end Lightsocks.App
