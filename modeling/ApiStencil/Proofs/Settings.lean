import ApiStencil.Config.Settings
import ApiStencil.Decimal.Read
import ApiStencil.Script.Place
/-!
What the three formats of configurations have in common: digits that are read back as their number, and
settings that the configuration can be put together from again.
-/
set_option autoImplicit false

namespace ApiStencil.Decimal

theorem naturalOf_toDigits (n : Nat) : naturalOf (Nat.toDigits 10 n) = n :=
  Nat.ofDigitChars_ten_toDigits

theorem isDigit_of_mem_toDigits {n : Nat} {c : Char} (h : c ∈ Nat.toDigits 10 n) : c.isDigit = true :=
  Nat.isDigit_of_mem_toDigits (by decide) (by decide) h

/-- The first digit of a number. -/
theorem toDigits_cons (n : Nat) : ∃ c cs, Nat.toDigits 10 n = c :: cs ∧ c.isDigit = true := by
  obtain ⟨c, cs, hcs⟩ := List.exists_cons_of_ne_nil (Nat.toDigits_ne_nil (b := 10) (n := n))
  exact ⟨c, cs, hcs, isDigit_of_mem_toDigits (n := n) (by simp [hcs])⟩

theorem ne_of_isDigit {c d : Char} (hc : c.isDigit = true) (hd : d.isDigit = false) : c ≠ d :=
  fun h => by simp [h, hd] at hc

theorem toDigits_ne_nil (n : Nat) : Nat.toDigits 10 n ≠ [] :=
  Nat.toDigits_ne_nil

/-- Either the only digit is a zero, or the first one is none. -/
theorem toDigits_front (n : Nat) :
    Nat.toDigits 10 n = ['0'] ∨ ∃ c cs, Nat.toDigits 10 n = c :: cs ∧ c ≠ '0' := by
  rcases Nat.eq_zero_or_pos n with rfl | hn
  · exact .inl rfl
  · exact .inr (Script.Key.toDigits_head n hn)

theorem digitOfBase?_ten {c : Char} (h : c.isDigit = true) : digitOfBase? 10 c = some (digitValue c) := by
  obtain ⟨lo, hi⟩ := Script.Key.digit_toNat h
  have hlo : '0' ≤ c := Char.le_def.mpr (UInt32.le_iff_toNat_le.mpr lo)
  have hhi : c ≤ '9' := Char.le_def.mpr (UInt32.le_iff_toNat_le.mpr hi)
  have hv : c.toNat - 48 < 10 := by omega
  simp [digitOfBase?, digitValue, hlo, hhi, hv]

theorem foldl_digitOfBase? (cs : List Char) (h : ∀ c ∈ cs, c.isDigit = true) (n : Nat) :
    cs.foldl (fun acc c => acc.bind fun n => (digitOfBase? 10 c).map (10 * n + ·)) (some n) =
      some (cs.foldl (fun n c => 10 * n + digitValue c) n) := by
  induction cs generalizing n with
  | nil => rfl
  | cons c cs ih =>
    rw [List.foldl_cons, Option.bind_some, digitOfBase?_ten (h c (by simp)), Option.map_some,
      ih (fun d hd => h d (by simp [hd])), List.foldl_cons]

/-- A run of decimal digits is read in the same way wherever only digits may stand. -/
theorem ofBase?_ten (n : Nat) : ofBase? 10 (Nat.toDigits 10 n) = some n := by
  have hne : (Nat.toDigits 10 n).isEmpty = false := List.isEmpty_eq_false_iff.mpr (toDigits_ne_nil n)
  rw [ofBase?, hne, if_neg Bool.false_ne_true, foldl_digitOfBase? _ fun c => isDigit_of_mem_toDigits]
  exact congrArg some (naturalOf_toDigits n)

end ApiStencil.Decimal

/-!
The settings of a configuration: each is of the kind that its name asks for, and no name stands twice.
-/

namespace ApiStencil.Config

theorem Key.name_inj {k l : Key} (h : k.name = l.name) : k = l := by
  cases k <;> cases l <;> first | rfl | exact absurd h (by decide)

theorem Key.ofName?_name (k : Key) : Key.ofName? k.name = some k := by
  cases k <;> decide

/-- The largest number of 64 bits. -/
def maxCount : Nat := 18446744073709551615

namespace Setting

def kind : Setting → Kind
  | .text _ => .text
  | .flag _ => .flag
  | .texts _ => .texts
  | .count _ => .count

/-- Whether the setting is no number above a bound. -/
def Within (bound : Nat) : Setting → Prop
  | .count (some n) => n ≤ bound
  | _ => True

end Setting

variable {c : Config}

theorem keys_nodup : (c.settings.map (·.1)).Nodup := by
  show Key.all.Nodup
  decide

theorem settings_kind : ∀ e ∈ c.settings, e.2.kind = e.1.kind := by
  simp [settings, Setting.kind, Key.kind]

theorem settings_within {bound : Nat} (h : ∀ n ∈ c.scriptTimeoutMs, n ≤ bound) :
    ∀ e ∈ c.settings, e.2.Within bound := by
  obtain ⟨document, templates, output, verify, extension, scripts, timeout⟩ := c
  cases timeout with
  | none => simp [settings, Setting.Within]
  | some n => simpa [settings, Setting.Within] using h

/-- Readers hold the setting that they found last in front. -/
theorem ofSettings_reverse (c : Config) : ofSettings c.settings.reverse = .ok c := rfl

end ApiStencil.Config
