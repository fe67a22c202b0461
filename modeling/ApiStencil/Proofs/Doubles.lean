import ApiStencil.Script.Marshal
import Mathlib
/-!
Integers as doubles. One of less than 2 ^ 53 keeps all its digits: it is shifted until they fill the mantissa,
and shifted back when its integer part is taken.
-/
set_option autoImplicit false

namespace ApiStencil.Number

open Float.Model (Format totalExponent UnpackedFloat)
open Float.Model.UnpackedFloat

/-- The mantissa that the digits of a number fill. -/
def mantissa (n : Nat) : Nat := n * Nat.pow 2 (52 - n.log2)

theorem log2_le {n : Nat} (h0 : n ≠ 0) (h : n < 9007199254740992) : n.log2 ≤ 52 := by
  have := (Nat.log2_lt h0 (k := 53)).mpr (by omega)
  omega

theorem mantissa_bounds {n : Nat} (h0 : n ≠ 0) (h : n < 9007199254740992) :
    4503599627370496 ≤ mantissa n ∧ mantissa n < 9007199254740992 := by
  have hlog := log2_le h0 h
  have hlow := Nat.log2_self_le h0
  have hhigh := Nat.lt_log2_self (n := n)
  have hpow : Nat.pow 2 n.log2 * Nat.pow 2 (52 - n.log2) = 4503599627370496 := by
    show 2 ^ n.log2 * 2 ^ (52 - n.log2) = _
    rw [← Nat.pow_add, show n.log2 + (52 - n.log2) = 52 by omega]
  constructor
  · rw [← hpow]
    exact Nat.mul_le_mul_right _ hlow
  · calc mantissa n < 2 ^ (n.log2 + 1) * Nat.pow 2 (52 - n.log2) :=
          Nat.mul_lt_mul_of_pos_right hhigh (Nat.pow_pos (by decide))
      _ = 2 * (Nat.pow 2 n.log2 * Nat.pow 2 (52 - n.log2)) := by
          rw [Nat.pow_succ, Nat.mul_comm (2 ^ n.log2) 2, Nat.mul_assoc]
          rfl
      _ = 9007199254740992 := by rw [hpow]

theorem targetExponent_eq (e : Int) : Format.binary64.targetExponent e = max (e - 53) (-1074) := by
  simp only [Format.targetExponent]
  rfl

/-- Where all digits fit in the mantissa, none is shifted out. -/
theorem shift_exact {m : Nat} {e : Int} (hm : m < 9007199254740992) (he : -1074 ≤ e) :
    shiftToTargetExponent Format.binary64 m e .exact = (⟨m, false, false⟩, e) := by
  have hlog : m.log2 ≤ 52 := by
    by_cases h0 : m = 0
    · simp [h0]
    · exact log2_le h0 hm
  have hnone : (Format.binary64.targetExponent (totalExponent m e) - e).toNat = 0 := by
    rw [targetExponent_eq, totalExponent]
    omega
  simp [shiftToTargetExponent, shiftToExponent, hnone, HShiftRight.hShiftRight, Nat.repeat,
    ExtendedMantissa.ofMantissaAndAccuracy]

theorem round_eq (s : Sign) {n : Nat} (h0 : n ≠ 0) (h : n < 9007199254740992) :
    UnpackedFloat.round Format.binary64 s n 0 =
      .finite s (mantissa n) ((n.log2 : Int) - 52) (by have := mantissa_bounds h0 h; omega) := by
  have hlog := log2_le h0 h
  have htarget : Format.binary64.targetExponent (totalExponent n 0) = (n.log2 : Int) - 52 := by
    rw [targetExponent_eq, totalExponent]
    omega
  have hfill : decreaseExponent n 0 ((n.log2 : Int) - 52) = (mantissa n, (n.log2 : Int) - 52) := by
    have hshift : (0 - ((n.log2 : Int) - 52)).toNat = 52 - n.log2 := by omega
    simp only [decreaseExponent, hshift, Nat.shiftLeft_eq, mantissa, Prod.mk.injEq]
    exact ⟨rfl, by omega⟩
  obtain ⟨hlow, hhigh⟩ := mantissa_bounds h0 h
  have hexact := shift_exact (e := (n.log2 : Int) - 52) hhigh (by omega)
  rw [UnpackedFloat.round, htarget]
  simp only [hfill, roundWithAccuracy, hexact, ExtendedMantissa.roundedMantissa, ExtendedMantissa.accuracy,
    Accuracy.roundToNearestEven]
  rw [dif_neg (by omega)]

theorem exponentBias_eq : Format.binary64.exponentBias = 1023 := rfl

theorem ofBitVec_unpackSign (s : Sign) (e : BitVec 11) (m : BitVec 52) :
    Sign.ofBitVec (unpackSign (packComponents Format.binary64 s e m)) = s := by
  simp only [unpackSign, packComponents, BitVec.extractLsb]
  rw [BitVec.extractLsb'_append_eq_of_le (by omega), BitVec.extractLsb'_append_eq_of_le (by omega)]
  cases s <;> rfl

section Pack

variable {m k : Nat} (s : Sign) (hlow : 4503599627370496 ≤ m) (hhigh : m < 9007199254740992) (hk : k ≤ 52)

include hlow hhigh hk

theorem pack_eq (hm : 0 < m) : pack Format.binary64 (.finite s m ((k : Int) - 52) hm) =
    packComponents Format.binary64 s (BitVec.ofNat 11 (k + 1023)) (BitVec.ofNat 52 m) := by
  have hlog : m.log2 = 52 := (Nat.log2_eq_iff (by omega)).mpr ⟨hlow, hhigh⟩
  have hbiased : ((k : Int) - 52 + Format.binary64.exponentBias + Format.binary64.mantissaBitsWithoutImplicit).toNat =
      k + 1023 := by
    rw [exponentBias_eq]
    show ((k : Int) - 52 + (1023 : Nat) + (52 : Nat)).toNat = _
    omega
  simp only [pack, hbiased, hlog]
  rw [if_neg (by omega), if_pos (show 52 + 1 = Format.binary64.mantissaBits from rfl)]

/-- What has been packed is found again. -/
theorem unpack_pack (hm : 0 < m) : unpack Format.binary64 (pack Format.binary64 (.finite s m ((k : Int) - 52) hm)) =
    .finite s m ((k : Int) - 52) hm := by
  have hexponent : (BitVec.ofNat 11 (k + 1023)).toNat = k + 1023 := by
    rw [BitVec.toNat_ofNat, Nat.mod_eq_of_lt (by omega)]
  have hfinite : BitVec.ofNat 11 (k + 1023) ≠ -1#11 := by
    intro h
    have := congrArg BitVec.toNat h
    rw [hexponent, show (-1#11 : BitVec 11).toNat = 2047 from rfl] at this
    omega
  have hnormal : BitVec.ofNat 11 (k + 1023) ≠ 0#11 := by
    intro h
    have := congrArg BitVec.toNat h
    rw [hexponent, show (0#11 : BitVec 11).toNat = 0 from rfl] at this
    omega
  have hmantissa : (1#1 ++ BitVec.ofNat 52 m).toNat = m := by
    rw [BitVec.toNat_append, ← Nat.shiftLeft_add_eq_or_of_lt (BitVec.isLt _), BitVec.toNat_ofNat, Nat.shiftLeft_eq]
    show 1 * 4503599627370496 + m % 4503599627370496 = m
    omega
  rw [pack_eq s hlow hhigh hk hm]
  simp only [unpack, unpackMantissa_packComponents, unpackExponent_packComponents, ofBitVec_unpackSign,
    hfinite, hnormal, if_false, hmantissa, hexponent, exponentBias_eq]
  simp only [UnpackedFloat.finite.injEq, true_and]
  omega

theorem toNat_pack (hm : 0 < m) : (pack Format.binary64 (.finite s m ((k : Int) - 52) hm)).toNat =
    (s.toBitVec.toNat * 2048 + (k + 1023)) * 4503599627370496 + (m - 4503599627370496) := by
  rw [pack_eq s hlow hhigh hk hm, packComponents, BitVec.toNat_append, BitVec.toNat_append,
    ← Nat.shiftLeft_add_eq_or_of_lt (BitVec.isLt _), ← Nat.shiftLeft_add_eq_or_of_lt (BitVec.isLt _),
    BitVec.toNat_ofNat, BitVec.toNat_ofNat, Nat.shiftLeft_eq, Nat.shiftLeft_eq]
  show (s.toBitVec.toNat * 2048 + (k + 1023) % 2048) * 4503599627370496 + m % 4503599627370496 = _
  rw [Nat.mod_eq_of_lt (by omega)]
  omega

end Pack

def signOf (n : Int) : Sign := if n < 0 then .negative else .positive

theorem ofInt_eq {n : Int} (h0 : n.natAbs ≠ 0) (h : n.natAbs < 9007199254740992) :
    UnpackedFloat.ofInt Format.binary64 n = .finite (signOf n) (mantissa n.natAbs) ((n.natAbs.log2 : Int) - 52)
      (by have := mantissa_bounds h0 h; omega) := by
  unfold UnpackedFloat.ofInt UnpackedFloat.normalize
  rcases Int.lt_trichotomy n 0 with hn | hn | hn
  · rw [compare_lt_iff_lt.mpr hn, signOf, if_pos hn, show (-n).toNat = n.natAbs by omega]
    exact round_eq _ h0 h
  · omega
  · rw [compare_gt_iff_gt.mpr hn, signOf, if_neg (by omega), show n.toNat = n.natAbs by omega]
    exact round_eq _ h0 h

theorem unpack_nearest {n : Int} (h0 : n.natAbs ≠ 0) (h : n.natAbs < 9007199254740992) :
    (nearest n).toModel.unpack = .finite (signOf n) (mantissa n.natAbs) ((n.natAbs.log2 : Int) - 52)
      (by have := mantissa_bounds h0 h; omega) := by
  obtain ⟨hlow, hhigh⟩ := mantissa_bounds h0 h
  show UnpackedFloat.unpack Format.binary64 (UnpackedFloat.pack Format.binary64 (UnpackedFloat.ofInt Format.binary64 n)) = _
  rw [ofInt_eq h0 h]
  exact unpack_pack _ hlow hhigh (log2_le h0 h) _

theorem toBits_nearest {n : Int} (h0 : n.natAbs ≠ 0) (h : n.natAbs < 9007199254740992) :
    (nearest n).toBits.toNat = ((signOf n).toBitVec.toNat * 2048 + (n.natAbs.log2 + 1023)) * 4503599627370496 +
      (mantissa n.natAbs - 4503599627370496) := by
  obtain ⟨hlow, hhigh⟩ := mantissa_bounds h0 h
  show (UnpackedFloat.pack Format.binary64 (UnpackedFloat.ofInt Format.binary64 n)).toNat = _
  rw [ofInt_eq h0 h]
  exact toNat_pack _ hlow hhigh (log2_le h0 h) _

theorem isFinite_nearest {n : Int} (h : n.natAbs < 9007199254740992) :
    (nearest n).isNaN = false ∧ (nearest n).isInf = false := by
  by_cases h0 : n.natAbs = 0
  · obtain rfl : n = 0 := by omega
    exact ⟨rfl, rfl⟩
  · show (nearest n).toModel.unpack.isNaN = false ∧ (nearest n).toModel.unpack.isInf = false
    rw [unpack_nearest h0 h]
    exact ⟨rfl, rfl⟩

theorem beq_nearest {n : Int} (h : n.natAbs < 9007199254740992) : (nearest n == nearest n) = true := by
  by_cases h0 : n.natAbs = 0
  · obtain rfl : n = 0 := by omega
    rfl
  · show (nearest n).toModel.unpack.beq (nearest n).toModel.unpack = true
    rw [unpack_nearest h0 h, UnpackedFloat.beq]
    cases signOf n <;> simp [UnpackedFloat.compare]

theorem ofFloat_nearest {n : Int} (h0 : n.natAbs ≠ 0) (h : n.natAbs < 9007199254740992) :
    Decimal.Binary.ofFloat (nearest n) = ⟨mantissa n.natAbs, (n.natAbs.log2 : Int) - 52⟩ := by
  have hbits := toBits_nearest h0 h
  obtain ⟨hlow, hhigh⟩ := mantissa_bounds h0 h
  have hlog := log2_le h0 h
  have hfraction : (nearest n).toBits.toNat % Nat.pow 2 52 = mantissa n.natAbs - 4503599627370496 := by
    show (nearest n).toBits.toNat % 4503599627370496 = _
    omega
  have hbiased : (nearest n).toBits.toNat / Nat.pow 2 52 % Nat.pow 2 11 = n.natAbs.log2 + 1023 := by
    show (nearest n).toBits.toNat / 4503599627370496 % 2048 = _
    omega
  simp only [Decimal.Binary.ofFloat, hfraction, hbiased]
  rw [if_neg (by simp)]
  simp only [Decimal.Binary.mk.injEq]
  refine ⟨?_, by omega⟩
  show mantissa n.natAbs - 4503599627370496 + 4503599627370496 = _
  omega

theorem isNegative_nearest {n : Int} (h0 : n.natAbs ≠ 0) (h : n.natAbs < 9007199254740992) :
    Decimal.isNegative (nearest n) = decide (n < 0) := by
  have hbits := toBits_nearest h0 h
  obtain ⟨hlow, hhigh⟩ := mantissa_bounds h0 h
  have hlog := log2_le h0 h
  rw [Decimal.isNegative, decide_eq_decide]
  show 9223372036854775808 ≤ (nearest n).toBits.toNat ↔ n < 0
  by_cases hn : n < 0
  · rw [signOf, if_pos hn, show Sign.negative.toBitVec.toNat = 1 from rfl] at hbits
    omega
  · rw [signOf, if_neg hn, show Sign.positive.toBitVec.toNat = 0 from rfl] at hbits
    omega

/-- The integer part of an integer is the integer. -/
theorem truncated_nearest {n : Int} (h : n.natAbs < 9007199254740992) : Script.truncated (nearest n) = n := by
  by_cases h0 : n.natAbs = 0
  · obtain rfl : n = 0 := by omega
    decide +kernel
  · have hlog := log2_le h0 h
    have hmagnitude : (if (n.natAbs.log2 : Int) - 52 ≥ 0 then mantissa n.natAbs * Nat.pow 2 ((n.natAbs.log2 : Int) - 52).toNat
        else mantissa n.natAbs / Nat.pow 2 (-((n.natAbs.log2 : Int) - 52)).toNat) = n.natAbs := by
      split
      · rw [mantissa, show 52 - n.natAbs.log2 = 0 by omega, show ((n.natAbs.log2 : Int) - 52).toNat = 0 by omega]
        exact (Nat.mul_one _).trans (Nat.mul_one _)
      · rw [mantissa, show (-((n.natAbs.log2 : Int) - 52)).toNat = 52 - n.natAbs.log2 by omega]
        exact Nat.mul_div_cancel _ (Nat.pow_pos (by decide))
    simp only [Script.truncated, ofFloat_nearest h0 h, hmagnitude, isNegative_nearest h0 h, decide_eq_true_eq]
    split <;> omega

/-- A number that a script hands back as it is: an integer of less than 2 ^ 53, or a double that is none of these. -/
def Kept : Number → Prop
  | .int n => n.natAbs < 9007199254740992
  | .float x => x.isNaN = false ∧ x.isInf = false ∧ ∀ n : Int, n.natAbs < 9007199254740992 → (nearest n == x) = false

/-- A double below one or from 2 ^ 53 on is none of these integers. -/
theorem kept_of_exponent {x : Float} {s : Sign} {m : Nat} {e : Int} {hm : 0 < m}
    (hx : x.toModel.unpack = .finite s m e hm) (he : e < -52 ∨ 0 < e) : Kept (.float x) := by
  refine ⟨?_, ?_, fun n hn => ?_⟩
  · show x.toModel.unpack.isNaN = false
    rw [hx]
    rfl
  · show x.toModel.unpack.isInf = false
    rw [hx]
    rfl
  · show (nearest n).toModel.unpack.beq x.toModel.unpack = false
    by_cases h0 : n.natAbs = 0
    · obtain rfl : n = 0 := by omega
      rw [hx, show (nearest 0).toModel.unpack = .zero .positive from rfl]
      cases s <;> rfl
    · have hlog := log2_le h0 hn
      have hne : compare ((n.natAbs.log2 : Int) - 52) e ≠ .eq := by
        rw [ne_eq, compare_eq_iff_eq]
        omega
      rw [hx, unpack_nearest h0 hn, UnpackedFloat.beq]
      cases signOf n <;> cases s <;> simp [UnpackedFloat.compare, hne]

theorem numberJson_nearest {n : Int} (h : n.natAbs < 9007199254740992) :
    Script.M.numberJson (nearest n) = .number (.int n) := by
  obtain ⟨hnan, hinf⟩ := isFinite_nearest h
  have hwhole : ((Script.truncated (nearest n)).natAbs < 9007199254740992 &&
      nearest (Script.truncated (nearest n)) == nearest n) = true := by
    rw [truncated_nearest h, beq_nearest h, Bool.and_true, decide_eq_true_eq]
    exact h
  rw [Script.M.numberJson, hnan, hinf, Bool.or_self, if_neg Bool.false_ne_true, if_pos hwhole, truncated_nearest h]

theorem numberJson_of_kept {m : Number} (h : m.Kept) : Script.M.numberJson m.toFloat = .number m := by
  cases m with
  | int n => exact numberJson_nearest h
  | float x =>
    obtain ⟨hnan, hinf, hnone⟩ := h
    have hwhole : ¬((Script.truncated x).natAbs < 9007199254740992 && nearest (Script.truncated x) == x) = true := by
      intro hwhole
      rw [Bool.and_eq_true, decide_eq_true_eq] at hwhole
      rw [hnone _ hwhole.1] at hwhole
      exact absurd hwhole.2 (by simp)
    show Script.M.numberJson x = _
    simp only [Script.M.numberJson, hnan, hinf, Bool.or_self, Bool.false_eq_true, if_false, if_neg hwhole]

/-- What a number has become is handed back as it is. -/
theorem numberJson_stable (x : Float) :
    Script.M.numberJson x = .null ∨
      ∃ m, Script.M.numberJson x = .number m ∧ Script.M.numberJson m.toFloat = .number m := by
  by_cases hfinite : (x.isNaN || x.isInf) = true
  · exact .inl (by rw [Script.M.numberJson, if_pos hfinite])
  · right
    by_cases hwhole : ((Script.truncated x).natAbs < 9007199254740992 && nearest (Script.truncated x) == x) = true
    · refine ⟨.int (Script.truncated x), by simp only [Script.M.numberJson, if_neg hfinite, if_pos hwhole], ?_⟩
      rw [Bool.and_eq_true, decide_eq_true_eq] at hwhole
      exact numberJson_nearest hwhole.1
    · have hx : Script.M.numberJson x = .number (.float x) := by
        simp only [Script.M.numberJson, if_neg hfinite, if_neg hwhole]
      exact ⟨.float x, hx, hx⟩

end ApiStencil.Number
