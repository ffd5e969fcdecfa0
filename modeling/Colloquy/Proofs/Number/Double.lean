import Colloquy.Number.Binary
import Mathlib

/-!
# Numbers of double precision

How numbers of double precision are ordered, and which integers are among them. Every two of them have an order unless
one is `nan`, which has none. An integer is in range until the number nearest to it would be the power of two after the
greatest finite number.
-/

namespace Colloquy.Number

open Float.Model UnpackedFloat

section Order

private theorem compare_swap (a b : UnpackedFloat) : b.compare a = (a.compare b).map Ordering.swap := by
  cases a with
  | notANumber => cases b <;> rfl
  | infinity s =>
    cases b with
    | infinity t => cases s <;> cases t <;> rfl
    | _ => cases s <;> rfl
  | zero s =>
    cases b with
    | finite t _ _ => cases t <;> rfl
    | infinity t => cases t <;> rfl
    | _ => rfl
  | finite s _ _ =>
    cases b with
    | finite t _ _ =>
      cases s <;> cases t <;>
        simp [UnpackedFloat.compare, Ordering.swap_then, Int.compare_swap, Nat.compare_swap]
    | infinity t => cases s <;> cases t <;> rfl
    | _ => cases s <;> rfl

private theorem compare_isSome {a b : UnpackedFloat} (ha : a.isNaN = false) (hb : b.isNaN = false) :
    ∃ o, a.compare b = some o := by
  cases a with
  | notANumber => cases ha
  | infinity s =>
    cases b with
    | notANumber => cases hb
    | infinity t => exact ⟨_, rfl⟩
    | _ => cases s <;> exact ⟨_, rfl⟩
  | zero s =>
    cases b with
    | notANumber => cases hb
    | infinity t => cases t <;> exact ⟨_, rfl⟩
    | zero t => exact ⟨_, rfl⟩
    | finite t _ _ => cases t <;> exact ⟨_, rfl⟩
  | finite s _ _ =>
    cases b with
    | notANumber => cases hb
    | infinity t => cases t <;> exact ⟨_, rfl⟩
    | zero t => cases s <;> exact ⟨_, rfl⟩
    | finite t _ _ => cases s <;> cases t <;> exact ⟨_, rfl⟩

private theorem compare_eq_none {a b : UnpackedFloat} (h : a.isNaN = true) : a.compare b = none := by
  cases a with
  | notANumber => cases b <;> rfl
  | _ => cases h

variable {x y : Float}

private theorem lt_iff : x < y ↔ x.toModel.unpack.compare y.toModel.unpack = some .lt := by
  change decide (x.toModel < y.toModel) = true ↔ _
  rw [decide_eq_true_iff]
  exact beq_iff_eq

private theorem le_iff : x ≤ y ↔ ∃ o, x.toModel.unpack.compare y.toModel.unpack = some o ∧ o.isLE = true := by
  change decide (x.toModel ≤ y.toModel) = true ↔ _
  rw [decide_eq_true_iff]
  exact Option.any_eq_true _ _

theorem le_of_not_lt (hx : x.isNaN = false) (hy : y.isNaN = false) (h : ¬y < x) : x ≤ y := by
  obtain ⟨o, ho⟩ := compare_isSome hx hy
  refine le_iff.mpr ⟨o, ho, ?_⟩
  rw [lt_iff, compare_swap, ho] at h
  cases o with
  | gt => exact absurd rfl h
  | _ => rfl

theorem isNaN_of_le (h : x ≤ y) : x.isNaN = false ∧ y.isNaN = false := by
  obtain ⟨o, ho, -⟩ := le_iff.mp h
  constructor
  · apply Bool.eq_false_iff.mpr
    intro hnan
    rw [compare_eq_none hnan] at ho
    cases ho
  · apply Bool.eq_false_iff.mpr
    intro hnan
    rw [compare_swap, compare_eq_none hnan] at ho
    cases ho

theorem not_lt_of_le (h : x ≤ y) : ¬y < x := by
  obtain ⟨o, ho, hle⟩ := le_iff.mp h
  rw [lt_iff, compare_swap, ho]
  cases o with
  | gt => cases hle
  | _ => exact nofun

theorem not_lt_self : ¬x < x := by
  intro h
  have hswap := compare_swap x.toModel.unpack x.toModel.unpack
  rw [lt_iff.mp h] at hswap
  cases hswap

theorem not_lt_of_isNaN (h : x.isNaN = true) : ¬x < y ∧ ¬y < x := by
  constructor
  · rw [lt_iff, compare_eq_none h]
    exact nofun
  · rw [lt_iff, compare_swap, compare_eq_none h]
    exact nofun

end Order

private theorem toBits_ofBits {bits : Nat} (h : bits < 2 ^ 64)
    (hfield : bits / 2 ^ 52 % 2048 = 2047 → bits % 2 ^ 52 = 0) :
    (Float.ofBits (UInt64.ofNat bits)).toBits.toNat = bits := by
  have hto : (UInt64.ofNat bits).toBitVec.toNat = bits := (BitVec.toNat_ofNat bits 64).trans (Nat.mod_eq_of_lt h)
  have hexponent : (@unpackExponent .binary64 (UInt64.ofNat bits).toBitVec).toNat = bits / 2 ^ 52 % 2048 := by
    simp only [unpackExponent, BitVec.extractLsb, BitVec.toNat_cast]
    rw [BitVec.extractLsb'_toNat, hto, Nat.shiftRight_eq_div_pow]
  have hmantissa : (@unpackMantissa .binary64 (UInt64.ofNat bits).toBitVec).toNat = bits % 2 ^ 52 := by
    simp only [unpackMantissa, BitVec.extractLsb, BitVec.toNat_cast]
    rw [BitVec.extractLsb'_toNat, hto, Nat.shiftRight_zero]
  have hnumber : ¬@isNaNBits .binary64 (UInt64.ofNat bits).toBitVec = true := by
    intro hnan
    obtain ⟨htop, hrest⟩ := of_decide_eq_true hnan
    have htop' : bits / 2 ^ 52 % 2048 = 2047 := by
      rw [← hexponent, htop]
      decide
    refine hrest (BitVec.eq_of_toNat_eq ?_)
    rw [hmantissa, hfield htop']
    rfl
  change (UnpackedFloat.pack .binary64 (UnpackedFloat.unpack .binary64 (UInt64.ofNat bits).toBitVec)).toNat = bits
  rw [UnpackedFloat.pack_unpack, if_neg hnumber, hto]

private theorem isFinite_eq (x : Float) : isFinite x = decide (x.toBits.toNat / 2 ^ 52 % 2048 ≠ 2047) := by
  unfold isFinite Binary.ofFloat
  simp only [Nat.pow_eq]
  by_cases htop : x.toBits.toNat / 2 ^ 52 % 2048 = 2047
  · by_cases hnone : x.toBits.toNat % 2 ^ 52 = 0 <;> simp only [htop, hnone, if_true, if_false] <;> rfl
  · simp only [decide_eq_true htop, htop, if_false]
    by_cases hzero : x.toBits.toNat / 2 ^ 52 % 2048 = 0 <;> simp only [hzero, if_true, if_false]

private theorem isFinite_withSign (negative : Bool) {bits : Nat} (h : bits < 2 ^ 63)
    (hfield : bits / 2 ^ 52 = 2047 → bits % 2 ^ 52 = 0) :
    isFinite (Binary.withSign negative bits) = decide (bits / 2 ^ 52 ≠ 2047) := by
  unfold Binary.withSign
  rw [isFinite_eq]
  cases negative with
  | false =>
    simp only [Bool.false_eq_true, if_false]
    rw [toBits_ofBits (by omega) fun htop => hfield (by omega)]
    have hexponent : bits / 2 ^ 52 % 2048 = bits / 2 ^ 52 := by omega
    rw [hexponent]
  | true =>
    have hexponent : (bits + 2 ^ 63) / 2 ^ 52 % 2048 = bits / 2 ^ 52 := by omega
    simp only [if_true, Nat.pow_eq]
    rw [toBits_ofBits (by omega) fun htop => ?_, hexponent]
    have hrest := hfield (hexponent.symm.trans htop)
    omega

private theorem roundDiv_cases (num den : Nat) :
    Binary.roundDiv num den = num / den ∨ Binary.roundDiv num den = num / den + 1 := by
  unfold Binary.roundDiv
  dsimp only
  split
  · exact .inr rfl
  · exact .inl rfl

private theorem roundDiv_eq_top {num unit : Nat} (hunit : 0 < unit) (hlt : num / (2 * unit) < 2 ^ 53) :
    Binary.roundDiv num (2 * unit) = 2 ^ 53 ↔ (2 ^ 54 - 1) * unit ≤ num := by
  have hsplit := Nat.div_add_mod num (2 * unit)
  have hrest := Nat.mod_lt num (y := 2 * unit) (by omega)
  unfold Binary.roundDiv
  dsimp only
  generalize num / (2 * unit) = q at *
  generalize num % (2 * unit) = r at *
  by_cases hq : q = 2 ^ 53 - 1
  · subst hq
    split <;> omega
  · have hle : 2 * unit * (q + 1) ≤ 2 * unit * (2 ^ 53 - 1) := Nat.mul_le_mul_left _ (by omega)
    rw [Nat.mul_add] at hle
    split <;> omega

private theorem isFinite_assembled (negative : Bool) {q : Nat} {biased : Int} (hq : 2 ^ 52 ≤ q) (hlt : q < 2 ^ 53)
    (hbiased : 0 ≤ biased) :
    isFinite (if 2047 ≤ biased then Binary.withSign negative (2047 * Nat.pow 2 52)
      else Binary.withSign negative (biased.toNat * Nat.pow 2 52 + (q - Nat.pow 2 52))) = decide (biased < 2047) := by
  simp only [Nat.pow_eq]
  split
  · rw [isFinite_withSign negative (by omega) (by omega), decide_eq_decide]
    omega
  · have hexponent : (biased.toNat * 2 ^ 52 + (q - 2 ^ 52)) / 2 ^ 52 = biased.toNat := by omega
    rw [isFinite_withSign negative (by omega) (by omega), hexponent, decide_eq_decide]
    omega

private theorem binaryExponent_one {num : Nat} (hnum : num ≠ 0) : Binary.binaryExponent num 1 = num.log2 := by
  have hlog : Nat.log2 1 = 0 := by decide
  have hle := Nat.log2_self_le hnum
  unfold Binary.binaryExponent
  simp [hlog, hle]

private theorem roundDiv_one (num : Nat) : Binary.roundDiv num 1 = num := by
  simp [Binary.roundDiv, Nat.mod_one]

section Range

variable {num exponent k : Nat} (hlow : 2 ^ exponent ≤ num) (hhigh : num < 2 ^ (exponent + 1))
include hlow hhigh

private theorem mantissa_bounds {q : Nat} {unit : Int} (hunit : unit = (exponent : Int) - 52)
    (hq : q = Binary.roundDiv (num * 2 ^ (-unit).toNat) (1 * 2 ^ unit.toNat)) : 2 ^ 52 ≤ q ∧ q ≤ 2 ^ 53 := by
  by_cases hsmall : exponent < 52
  · have hshift : (-unit).toNat = 52 - exponent := by omega
    have hnone : unit.toNat = 0 := by omega
    have hle : 2 ^ exponent * 2 ^ (52 - exponent) ≤ num * 2 ^ (52 - exponent) := Nat.mul_le_mul_right _ hlow
    have hlt : num * 2 ^ (52 - exponent) < 2 ^ (exponent + 1) * 2 ^ (52 - exponent) :=
      Nat.mul_lt_mul_of_pos_right hhigh (Nat.two_pow_pos _)
    rw [← Nat.pow_add] at hle hlt
    rw [hshift, hnone, Nat.pow_zero, Nat.mul_one, roundDiv_one] at hq
    rw [show exponent + (52 - exponent) = 52 by omega] at hle
    rw [show exponent + 1 + (52 - exponent) = 53 by omega] at hlt
    omega
  · have hshift : unit.toNat = exponent - 52 := by omega
    have hnone : (-unit).toNat = 0 := by omega
    have hpos := Nat.two_pow_pos (exponent - 52)
    have hle : 2 ^ 52 ≤ num / 2 ^ (exponent - 52) := by
      rw [Nat.le_div_iff_mul_le hpos, ← Nat.pow_add, show 52 + (exponent - 52) = exponent by omega]
      exact hlow
    have hlt : num / 2 ^ (exponent - 52) < 2 ^ 53 := by
      rw [Nat.div_lt_iff_lt_mul hpos, ← Nat.pow_add, show 53 + (exponent - 52) = exponent + 1 by omega]
      exact hhigh
    rw [hshift, hnone, Nat.pow_zero, Nat.mul_one, Nat.one_mul] at hq
    rcases roundDiv_cases num (2 ^ (exponent - 52)) with h | h <;> omega

private theorem lt_limit_iff (hk : k = 970) : num < (2 ^ 54 - 1) * 2 ^ k ↔
    exponent < 1023 ∨ exponent = 1023 ∧ Binary.roundDiv num (2 * 2 ^ k) ≠ 2 ^ 53 := by
  have hpos := Nat.two_pow_pos k
  rcases Nat.lt_trichotomy exponent 1023 with hless | hequal | hgreater
  · have hle : 2 ^ (exponent + 1) ≤ 2 ^ (53 + k) := Nat.pow_le_pow_right (by decide) (by omega)
    rw [Nat.pow_add 2 53 k] at hle
    exact iff_of_true (by omega) (.inl hless)
  · rw [hequal, show 1023 + 1 = 54 + k by omega, Nat.pow_add] at hhigh
    have hlt : num / (2 * 2 ^ k) < 2 ^ 53 := by
      rw [Nat.div_lt_iff_lt_mul (by omega)]
      omega
    have htop := roundDiv_eq_top hpos hlt
    omega
  · have hle : 2 ^ (54 + k) ≤ 2 ^ exponent := Nat.pow_le_pow_right (by decide) (by omega)
    rw [Nat.pow_add] at hle
    exact iff_of_false (by omega) (by omega)

end Range

/-- An integer is in the range of double precision if it is nearer to the greatest finite number than to the power of two
after it. -/
theorem isFinite_ofRatio_one (negative : Bool) (num : Nat) {k : Nat} (hk : k = 970) :
    isFinite (Binary.ofRatio negative num 1) = decide (num < (2 ^ 54 - 1) * 2 ^ k) := by
  unfold Binary.ofRatio
  split
  · rename_i hzero
    subst hzero
    rw [isFinite_withSign negative (by decide) (by decide), decide_eq_decide]
    exact iff_of_true (by decide) (Nat.mul_pos (by decide) (Nat.two_pow_pos k))
  · rename_i hnum
    have hlow : 2 ^ num.log2 ≤ num := Nat.log2_self_le hnum
    have hhigh : num < 2 ^ (num.log2 + 1) := Nat.lt_log2_self
    rw [binaryExponent_one hnum]
    generalize num.log2 = exponent at *
    have hunit : max ((exponent : Int) - 52) (-1074) = exponent - 52 := by omega
    have hlimit := lt_limit_iff hlow hhigh hk
    simp only [Nat.pow_eq, hunit]
    obtain ⟨hq, hq'⟩ := mantissa_bounds hlow hhigh rfl rfl
    have htop : exponent = 1023 → Binary.roundDiv (num * 2 ^ (-((exponent : Int) - 52)).toNat)
        (1 * 2 ^ ((exponent : Int) - 52).toNat) = Binary.roundDiv num (2 * 2 ^ k) := by
      rintro rfl
      have h1 : (-(((1023 : Nat) : Int) - 52)).toNat = 0 := by decide
      have h2 : (((1023 : Nat) : Int) - 52).toNat = 1 + k := by omega
      rw [h1, h2, Nat.pow_add, Nat.pow_zero, Nat.mul_one, Nat.one_mul, Nat.pow_one]
    generalize Binary.roundDiv (num * _) _ = q at *
    rw [if_neg (by omega)]
    by_cases hq53 : q = 2 ^ 53
    · simp only [hq53, if_true]
      rw [isFinite_assembled negative (by decide) (by decide) (by omega), decide_eq_decide]
      omega
    · simp only [hq53, if_false]
      rw [isFinite_assembled negative (by omega) (by omega) (by omega), decide_eq_decide]
      omega

/-- The least size from which on integers are out of the range of double precision. -/
def intLimit : Nat := (2 ^ 54 - 1) * 2 ^ 970

theorem one_lt_intLimit : 1 < intLimit := by
  have hpos (k : Nat) : 2 ^ 54 - 1 ≤ (2 ^ 54 - 1) * 2 ^ k := Nat.le_mul_of_pos_right _ (Nat.two_pow_pos k)
  exact Nat.lt_of_lt_of_le (by decide) (hpos 970)

theorem isFinite_floatOfInt (n : Int) : isFinite (floatOfInt n) = true ↔ n.natAbs < intLimit := by
  unfold floatOfInt intLimit
  rw [isFinite_ofRatio_one _ _ rfl, decide_eq_true_iff]

end Colloquy.Number
