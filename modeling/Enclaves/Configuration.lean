import Mathlib.Data.List.Basic
import Mathlib.Data.Nat.Digits
import Enclaves.Task
/-!
# Configuration (`configuration.rs`, the config server's routes)

The data plane reads its egress settings from the environment: `EGRESS_PORTS`, a list of
ports joined by commas (by default `443`), each piece parsed as a `u16`, a piece that
does not parse being fatal; `EGRESS_ALLOW_LIST`, a list of names joined by commas (by
default empty). We model the variable as an `Option String` (unset, or its text), Rust's
`split(',')` as `List.splitOn`, and `u16::from_str` digit by digit.

The ports are read back from their decimal text (`getEgressPorts_joinComma`), the texts
accepted are exactly an optional `+` then decimal digits of a `u16`
(`getEgressPorts_eq_ok_iff`), and a bad piece panics with its own text
(`collectPorts_cases`), so that the reading panics exactly when a piece is not such a
text, an empty variable included (`getEgressPorts_eq_panic_iff`); the allow list is the
variable cut at commas, never empty (`getEgressAllowList_roundTrip`).
-/

namespace Enclaves.Configuration

/-! ## The model -/

/-- `str::split(',')`: the pieces between commas, empty ones included. -/
def splitComma (s : String) : List String := (s.toList.splitOn ',').map String.mk

/-- The text of `parts` joined by commas. -/
def joinComma (parts : List String) : String := String.mk ([','].intercalate (parts.map String.toList))

/-- The digit loop of `u16::from_str_radix(_, 10)`: every byte a decimal digit, the value
kept within `u16::MAX` (`checked_mul`, `checked_add`). -/
def parseDigits : Nat → List Char → Option Nat
  | acc, [] => some acc
  | acc, c :: cs =>
    if c.isDigit ∧ acc * 10 + (c.toNat - 48) ≤ 65535 then parseDigits (acc * 10 + (c.toNat - 48)) cs
    else none

/-- `u16::from_str`: an optional `+`, then the digits; the empty text and a sign alone
are errors. -/
def parseU16 (s : String) : Option UInt16 :=
  match s.toList with
  | [] | ['+'] | ['-'] => none
  | '+' :: digits => (parseDigits 0 digits).map Nat.toUInt16
  | digits => (parseDigits 0 digits).map Nat.toUInt16

/-- The collecting of `get_egress_ports`: the pieces parsed in order, the first that does
not parse panicking with its text. -/
def collectPorts : List String → Outcome Empty (List UInt16)
  | [] => .ok []
  | port :: rest =>
    match parseU16 port with
    | some p => do
      let ps ← collectPorts rest
      pure (p :: ps)
    | none => .panic ("Could not parse egress port as u16: " ++ port)

/-- `get_egress_ports`: `EGRESS_PORTS` (`none` when unset), by default `"443"`. -/
def getEgressPorts (egressPorts : Option String) : Outcome Empty (List UInt16) :=
  collectPorts (splitComma (egressPorts.getD "443"))

/-- `get_egress_allow_list`: `EGRESS_ALLOW_LIST` (`none` when unset), by default empty. -/
def getEgressAllowList (egressAllowList : Option String) : List String :=
  splitComma (egressAllowList.getD "")

/-! ## Splitting at commas -/

theorem splitComma_joinComma (parts : List String) (hne : parts ≠ [])
    (hc : ∀ p ∈ parts, ',' ∉ p.toList) : splitComma (joinComma parts) = parts := by
  have hx : ∀ l ∈ parts.map String.toList, ',' ∉ l := by simpa using hc
  rw [splitComma, joinComma, String.toList, List.splitOn_intercalate _ ',' hx (by simpa using hne),
    List.map_map]
  exact List.map_id'' (fun _ => rfl) parts

theorem joinComma_splitComma (s : String) : joinComma (splitComma s) = s := by
  have h : (splitComma s).map String.toList = s.toList.splitOn ',' := by
    rw [splitComma, List.map_map]
    exact List.map_id'' (fun _ => rfl) _
  rw [joinComma, h, List.intercalate_splitOn]
  rfl

theorem splitComma_ne_nil (s : String) : splitComma s ≠ [] := by
  simpa [splitComma, List.splitOn] using List.splitOnP_ne_nil _ _

/-! ## Ports -/

theorem toNat_le_65535 (p : UInt16) : p.toNat ≤ 65535 := Nat.le_of_lt_succ p.toNat_lt_size

theorem digitChar_digit (k : Nat) (hk : k < 10) :
    (Nat.digitChar k).isDigit = true ∧ (Nat.digitChar k).toNat - 48 = k := by
  have h : ∀ k : Fin 10, (Nat.digitChar k).isDigit = true ∧ (Nat.digitChar k).toNat - 48 = k := by
    decide
  exact h ⟨k, hk⟩

/-- Reading the decimal digits core prints gives the number back. -/
theorem parseDigits_toDigitsCore (f n : Nat) (acc : List Char) (hf : n < f) (hn : n ≤ 65535) :
    parseDigits 0 (Nat.toDigitsCore 10 f n acc) = parseDigits n acc := by
  induction f generalizing n acc with
  | zero => omega
  | succ f ih =>
    obtain ⟨hd, hv⟩ := digitChar_digit (n % 10) (Nat.mod_lt _ (by omega))
    rw [Nat.toDigitsCore]
    split
    next h0 =>
      simp only [parseDigits, hd, hv, true_and, Nat.zero_mul, Nat.zero_add]
      rw [if_pos (by omega), Nat.mod_eq_of_lt (by omega : n < 10)]
    next h0 =>
      rw [ih (n / 10) _ (by omega) (by omega)]
      have : n / 10 * 10 + n % 10 = n := Nat.div_add_mod' n 10
      simp [parseDigits, hd, hv, this, hn]

theorem toDigitsCore_head (f n : Nat) (acc : List Char) :
    ∃ k < 10, ∃ rest, Nat.toDigitsCore 10 (f + 1) n acc = Nat.digitChar k :: rest := by
  induction f generalizing n acc with
  | zero => exact ⟨n % 10, Nat.mod_lt _ (by omega), acc, by simp [Nat.toDigitsCore]⟩
  | succ f ih =>
    rw [Nat.toDigitsCore]
    split
    · exact ⟨n % 10, Nat.mod_lt _ (by omega), acc, rfl⟩
    · exact ih _ _

theorem mem_toDigitsCore (f n : Nat) (acc : List Char) (c : Char)
    (h : c ∈ Nat.toDigitsCore 10 f n acc) : c ∈ acc ∨ ∃ k < 10, c = Nat.digitChar k := by
  induction f generalizing n acc with
  | zero => exact .inl h
  | succ f ih =>
    rw [Nat.toDigitsCore] at h
    have hd : ∃ k < 10, Nat.digitChar (n % 10) = Nat.digitChar k := ⟨n % 10, Nat.mod_lt _ (by omega), rfl⟩
    split at h
    · rcases List.mem_cons.1 h with rfl | h
      · exact .inr hd
      · exact .inl h
    · rcases ih _ _ h with h | h
      · rcases List.mem_cons.1 h with rfl | h
        · exact .inr hd
        · exact .inl h
      · exact .inr h

/-- Past an optional `+`, `u16::from_str` is the digit loop; a lone `-` fails in the loop
as it fails in the match. -/
theorem parseU16_cons (c : Char) (cs : List Char) (hc : c ≠ '+') :
    parseU16 ⟨c :: cs⟩ = (parseDigits 0 (c :: cs)).map Nat.toUInt16 := by
  unfold parseU16
  split <;> simp_all [parseDigits]

theorem parseU16_plus (d : Char) (ds : List Char) :
    parseU16 ⟨'+' :: d :: ds⟩ = (parseDigits 0 (d :: ds)).map Nat.toUInt16 := rfl

theorem parseU16_toString (p : UInt16) : parseU16 (toString p) = some p := by
  obtain ⟨k, hk, rest, h⟩ := toDigitsCore_head p.toNat p.toNat []
  show parseU16 ⟨Nat.toDigitsCore 10 (p.toNat + 1) p.toNat []⟩ = some p
  have hplus : Nat.digitChar k ≠ '+' := fun he => by simpa [he] using (digitChar_digit k hk).1
  rw [h, parseU16_cons _ _ hplus, ← h,
    parseDigits_toDigitsCore _ _ _ (by omega) (toNat_le_65535 p)]
  simp only [parseDigits, Option.map_some']
  exact congrArg some (UInt16.toNat.inj (UInt16.toNat_ofNat_of_lt p.toNat_lt_size))

theorem comma_not_mem_toString (p : UInt16) : ',' ∉ (toString p).toList := by
  intro h
  rcases mem_toDigitsCore _ _ _ _ h with h | ⟨k, hk, hc⟩
  · simp at h
  · have : ∀ k : Fin 10, ',' ≠ Nat.digitChar k := by decide
    exact this ⟨k, hk⟩ hc

theorem collectPorts_map_toString (ports : List UInt16) :
    collectPorts (ports.map toString) = .ok ports := by
  induction ports with
  | nil => rfl
  | cons p ps ih => simp [collectPorts, parseU16_toString, ih]

/-- `get_egress_ports` reads back every non-empty list of ports written in decimal and
joined by commas. -/
theorem getEgressPorts_joinComma (ports : List UInt16) (h : ports ≠ []) :
    getEgressPorts (some (joinComma (ports.map toString))) = .ok ports := by
  have hc : ∀ s ∈ ports.map toString, ',' ∉ s.toList := by
    simpa using fun p _ => comma_not_mem_toString p
  rw [getEgressPorts, Option.getD_some, splitComma_joinComma _ (by simpa using h) hc,
    collectPorts_map_toString]

theorem getEgressPorts_443_8443 :
    [(443 : UInt16), 8443] ≠ [] ∧ getEgressPorts (some "443,8443") = .ok [443, 8443] :=
  have hj : joinComma ([(443 : UInt16), 8443].map toString) = "443,8443" := by decide
  ⟨by simp, hj ▸ getEgressPorts_joinComma [443, 8443] (by simp)⟩

/-- Every piece parses, and the ports are returned in order; or the collecting panics with
the text of the first piece that does not parse. -/
theorem collectPorts_cases (pieces : List String) :
    (∃ ports, pieces.map parseU16 = ports.map some ∧ collectPorts pieces = .ok ports) ∨
    ∃ pre port post, pieces = pre ++ port :: post ∧ (∀ q ∈ pre, parseU16 q ≠ none) ∧
      parseU16 port = none ∧
      collectPorts pieces = .panic ("Could not parse egress port as u16: " ++ port) := by
  induction pieces with
  | nil => exact .inl ⟨[], rfl, rfl⟩
  | cons q qs ih =>
    rcases hq : parseU16 q with _ | p
    · exact .inr ⟨[], q, qs, rfl, by simp, hq, by simp [collectPorts, hq]⟩
    rcases ih with ⟨ports, hm, hc⟩ | ⟨pre, port, post, he, hpre, hp, hc⟩
    · exact .inl ⟨p :: ports, by simp [hq, hm], by simp [collectPorts, hq, hc]⟩
    · refine .inr ⟨q :: pre, port, post, by simp [he], ?_, hp, by simp [collectPorts, hq, hc]⟩
      simpa [hq] using hpre

theorem collectPorts_cons_eq_panic (q : String) (qs : List String) (m : String) :
    collectPorts (q :: qs) = .panic m ↔
      parseU16 q = none ∧ m = "Could not parse egress port as u16: " ++ q ∨
      parseU16 q ≠ none ∧ collectPorts qs = .panic m := by
  rcases hq : parseU16 q with _ | p
  · simp [collectPorts, hq, eq_comm]
  · rcases hc : collectPorts qs <;> simp [collectPorts, hq, hc]

theorem collectPorts_eq_panic_iff (pieces : List String) (m : String) :
    collectPorts pieces = .panic m ↔
      ∃ pre port post, pieces = pre ++ port :: post ∧ (∀ q ∈ pre, parseU16 q ≠ none) ∧
        parseU16 port = none ∧ m = "Could not parse egress port as u16: " ++ port := by
  induction pieces with
  | nil => simp [collectPorts]
  | cons q qs ih =>
    rw [collectPorts_cons_eq_panic, ih]
    constructor
    · rintro (⟨hq, rfl⟩ | ⟨hq, pre, port, post, rfl, hpre, hp, rfl⟩)
      · exact ⟨[], q, qs, rfl, by simp, hq, rfl⟩
      · exact ⟨q :: pre, port, post, rfl, by simpa [hq] using hpre, hp, rfl⟩
    · rintro ⟨_ | ⟨q', pre⟩, port, post, he, hpre, hp, rfl⟩ <;> simp only [List.nil_append, List.cons_append,
        List.cons.injEq] at he <;> obtain ⟨rfl, rfl⟩ := he
      · exact .inl ⟨hp, rfl⟩
      · exact .inr ⟨hpre _ (List.mem_cons_self _ _), pre, port, post, rfl,
          fun q hq => hpre q (List.mem_cons_of_mem _ hq), hp, rfl⟩

/-! ## Which texts are ports -/

/-- The value of decimal digits, most significant first, from `acc`. -/
def decimalValue (acc : Nat) (digits : List Char) : Nat :=
  digits.foldl (fun acc c => acc * 10 + (c.toNat - 48)) acc

/-- What `u16::from_str` reads as `p`: one or more decimal digits whose value is `p`, after
an optional `+`. -/
def PortText (s : String) (p : UInt16) : Prop :=
  ∃ digits, (s.toList = digits ∨ s.toList = '+' :: digits) ∧ digits ≠ [] ∧
    (∀ c ∈ digits, c.isDigit) ∧ decimalValue 0 digits = p.toNat

theorem le_decimalValue (acc : Nat) (digits : List Char) : acc ≤ decimalValue acc digits := by
  induction digits generalizing acc with
  | nil => exact le_rfl
  | cons c cs ih => exact le_trans (show acc ≤ acc * 10 + (c.toNat - 48) by omega) (ih _)

/-- The digit loop's bound check at every step is the bound on the final value, since the
value only grows. -/
theorem parseDigits_eq_some_iff (acc n : Nat) (digits : List Char) (hacc : acc ≤ 65535) :
    parseDigits acc digits = some n ↔
      (∀ c ∈ digits, c.isDigit) ∧ decimalValue acc digits = n ∧ n ≤ 65535 := by
  induction digits generalizing acc with
  | nil =>
    simp only [parseDigits, decimalValue, Option.some.injEq, List.foldl_nil, List.not_mem_nil,
      false_implies, implies_true, true_and]
    omega
  | cons c cs ih =>
    simp only [parseDigits, List.mem_cons, forall_eq_or_imp]
    split
    next h => rw [ih _ h.2]; simp [h.1, decimalValue]
    next h =>
      simp only [reduceCtorEq, false_iff]
      rintro ⟨⟨hc, -⟩, rfl, hn⟩
      exact h ⟨hc, le_trans (le_decimalValue _ cs) hn⟩

theorem parseDigits_map_eq_some_iff (digits : List Char) (p : UInt16) :
    (parseDigits 0 digits).map Nat.toUInt16 = some p ↔
      (∀ c ∈ digits, c.isDigit) ∧ decimalValue 0 digits = p.toNat := by
  rw [Option.map_eq_some']
  simp only [parseDigits_eq_some_iff 0 _ digits (Nat.zero_le _)]
  constructor
  · rintro ⟨n, ⟨hd, rfl, hn⟩, rfl⟩
    exact ⟨hd, (UInt16.toNat_ofNat_of_lt (by simp only [UInt16.size]; omega)).symm⟩
  · rintro ⟨hd, hv⟩
    exact ⟨_, ⟨hd, hv, hv ▸ toNat_le_65535 p⟩, UInt16.toNat.inj (UInt16.toNat_ofNat_of_lt p.toNat_lt_size)⟩

/-- `u16::from_str` reads exactly the port texts. -/
theorem parseU16_eq_some_iff (s : String) (p : UInt16) : parseU16 s = some p ↔ PortText s p := by
  obtain ⟨cs⟩ := s
  constructor
  · intro h
    rcases cs with _ | ⟨c, cs⟩
    · cases h
    by_cases hc : c = '+'
    · subst hc
      rcases cs with _ | ⟨d, ds⟩
      · cases h
      rw [parseU16_plus, parseDigits_map_eq_some_iff] at h
      exact ⟨d :: ds, .inr rfl, List.cons_ne_nil _ _, h⟩
    · rw [parseU16_cons _ _ hc, parseDigits_map_eq_some_iff] at h
      exact ⟨c :: cs, .inl rfl, List.cons_ne_nil _ _, h⟩
  · rintro ⟨digits, hs | hs, hne, hd, hv⟩ <;> change cs = _ at hs <;> subst hs <;>
      obtain ⟨d, ds, rfl⟩ := List.exists_cons_of_ne_nil hne
    · rw [parseU16_cons _ _ fun he => by simpa [he] using hd d (List.mem_cons_self _ _),
        parseDigits_map_eq_some_iff]
      exact ⟨hd, hv⟩
    · rw [parseU16_plus, parseDigits_map_eq_some_iff]
      exact ⟨hd, hv⟩

theorem collectPorts_eq_ok_iff (pieces : List String) (ports : List UInt16) :
    collectPorts pieces = .ok ports ↔ List.Forall₂ PortText pieces ports := by
  induction pieces generalizing ports with
  | nil => cases ports <;> simp [collectPorts]
  | cons q qs ih =>
    simp only [List.forall₂_cons_left_iff, ← parseU16_eq_some_iff, ← ih]
    rcases hq : parseU16 q with _ | p
    · simp [collectPorts, hq]
    · rcases hc : collectPorts qs with ps | e | m <;>
        simp [collectPorts, hq, hc, eq_comm]

/-- `get_egress_ports` returns `ports` exactly when the pieces of `EGRESS_PORTS` (by
default `443`) between commas are, in order, texts of those ports: a piece with a blank,
an empty piece, a sign other than `+` or a value past `u16::MAX` is fatal. -/
theorem getEgressPorts_eq_ok_iff (egressPorts : Option String) (ports : List UInt16) :
    getEgressPorts egressPorts = .ok ports ↔
      List.Forall₂ PortText (splitComma (egressPorts.getD "443")) ports :=
  collectPorts_eq_ok_iff _ ports

example : getEgressPorts (some "+443,0080") = .ok [443, 80] := by decide

/-- `get_egress_ports` panics exactly when a piece of `EGRESS_PORTS` between commas is not
the text of a port, naming the first such piece, every piece before it being one. -/
theorem getEgressPorts_eq_panic_iff (egressPorts : Option String) (m : String) :
    getEgressPorts egressPorts = .panic m ↔
      ∃ pre port post, splitComma (egressPorts.getD "443") = pre ++ port :: post ∧
        (∀ q ∈ pre, ∃ p, PortText q p) ∧ (∀ p, ¬PortText port p) ∧
        m = "Could not parse egress port as u16: " ++ port := by
  simp only [getEgressPorts, collectPorts_eq_panic_iff, ← parseU16_eq_some_iff, ne_eq,
    Option.eq_none_iff_forall_not_mem, Option.mem_def, not_forall, not_not]

/-- An empty `EGRESS_PORTS` is one empty piece, which is fatal. -/
theorem getEgressPorts_empty_panics :
    getEgressPorts (some "") = .panic "Could not parse egress port as u16: " :=
  (getEgressPorts_eq_panic_iff (some "") _).2 ⟨[], "", [], rfl, by simp, fun p h => by simp [PortText] at h, rfl⟩

/-! ## The allow list -/

/-- `get_egress_allow_list` only splits the variable at commas: joined again, its entries
give the variable back, so it is never empty (unset, it is one empty name), and it reads
back every non-empty list of names without commas. -/
theorem getEgressAllowList_roundTrip :
    (∀ v, joinComma (getEgressAllowList v) = v.getD "" ∧ getEgressAllowList v ≠ []) ∧
    (∀ names, names ≠ [] → (∀ n ∈ names, ',' ∉ n.toList) →
      getEgressAllowList (some (joinComma names)) = names) :=
  ⟨fun _ => ⟨joinComma_splitComma _, splitComma_ne_nil _⟩, fun names hne hc => splitComma_joinComma names hne hc⟩

example : getEgressAllowList none = [""] := rfl

/-! ## The config server's routes -/

/-- `ConfigServerPath`: the routes of the config server. -/
inductive ConfigServerPath where
  | getCertToken
  | postTrxLogs
  deriving DecidableEq, Repr

/-- `ConfigServerPath::from_str`. `ServerError` is not in the source; its `InvalidPath`
variant is the parameter `invalidPath`. -/
def ConfigServerPath.fromStr {ε : Type} (invalidPath : String → ε) (input : String) :
    Except ε ConfigServerPath :=
  match input with
  | "/cert/token" => .ok .getCertToken
  | "/trx/logs" => .ok .postTrxLogs
  | _ => .error (invalidPath input)

/-- `Display for ConfigServerPath`. -/
def ConfigServerPath.fmt : ConfigServerPath → String
  | .getCertToken => "/cert/token"
  | .postTrxLogs => "/trx/logs"

end Enclaves.Configuration
