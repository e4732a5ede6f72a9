import DesignCompiler.Number.Binary64
import Mathlib

set_option autoImplicit false

namespace DesignCompiler.Binary64

theorem isNaN_of_isFinite {x : Binary64} (h : x.isFinite = true) : x.isNaN = false := by
  rw [isNaN, h]
  rfl

theorem isInfinite_of_isFinite {x : Binary64} (h : x.isFinite = true) : x.isInfinite = false := by
  rw [isInfinite, h]
  rfl

section Words
variable {negative : Bool} {word : Nat}

theorem infinityWord_eq : infinityWord = 2047 * 2 ^ 52 := rfl

theorem toNat_withSign (h : word < 2 ^ 63) :
    (withSign negative word).bits.toNat = (if negative then 2 ^ 63 else 0) + word := by
  unfold withSign
  rw [UInt64.toNat_ofNat', Nat.pow_eq]
  cases negative with
  | true =>
    apply Nat.mod_eq_of_lt
    simp only [ite_true]
    omega
  | false =>
    simp only [Bool.false_eq_true, ite_false, Nat.zero_add]
    apply Nat.mod_eq_of_lt
    omega

theorem exponentField_withSign (h : word < 2 ^ 63) :
    (withSign negative word).exponentField = word / 2 ^ 52 := by
  unfold exponentField
  rw [toNat_withSign h]
  simp only [Nat.pow_eq]
  split <;> omega

theorem fraction_withSign (h : word < 2 ^ 63) :
    (withSign negative word).fraction = word % 2 ^ 52 := by
  unfold fraction
  rw [toNat_withSign h]
  simp only [Nat.pow_eq]
  split <;> omega

theorem isFinite_withSign (h : word < infinityWord) : (withSign negative word).isFinite = true := by
  rw [infinityWord_eq] at h
  unfold isFinite
  rw [exponentField_withSign (by omega), bne_iff_ne]
  omega

theorem isInfinite_infinity : (infinity negative).isInfinite = true := by
  have hlt : infinityWord < 2 ^ 63 := by decide
  unfold infinity isInfinite isFinite
  rw [exponentField_withSign hlt, fraction_withSign hlt]
  decide

/-- A significand that is carried into the exponent has the same magnitude. -/
theorem magnitude_withSign {u q : Nat} (hword : u * 2 ^ 52 + q < infinityWord) (hq : q ≤ 2 ^ 53)
    (hnormal : u = 0 ∨ 2 ^ 52 ≤ q) :
    (withSign negative (u * 2 ^ 52 + q)).magnitude = q * 2 ^ u := by
  rw [infinityWord_eq] at hword
  have hlt : u * 2 ^ 52 + q < 2 ^ 63 := by omega
  unfold magnitude significand unit
  rw [exponentField_withSign hlt, fraction_withSign hlt]
  simp only [Nat.pow_eq]
  by_cases hsmall : q < 2 ^ 52
  · obtain rfl : u = 0 := by omega
    have hfield : (0 * 2 ^ 52 + q) / 2 ^ 52 = 0 := by omega
    rw [if_pos hfield, hfield]
    have hmod : (0 * 2 ^ 52 + q) % 2 ^ 52 = q := by omega
    rw [hmod]
  · by_cases hcarry : q = 2 ^ 53
    · subst hcarry
      have hfield : (u * 2 ^ 52 + 2 ^ 53) / 2 ^ 52 = u + 2 := by omega
      have hmod : (u * 2 ^ 52 + 2 ^ 53) % 2 ^ 52 = 0 := by omega
      rw [hfield, hmod, if_neg (by omega)]
      have hunit : u + 2 - 1 = u + 1 := by omega
      rw [hunit, pow_succ]
      ring
    · have hfield : (u * 2 ^ 52 + q) / 2 ^ 52 = u + 1 := by omega
      have hmod : (u * 2 ^ 52 + q) % 2 ^ 52 = q - 2 ^ 52 := by omega
      rw [hfield, hmod, if_neg (by omega), Nat.add_sub_cancel]
      have hsum : 2 ^ 52 + (q - 2 ^ 52) = q := by omega
      rw [hsum]

end Words

section Round
variable {num den : Nat}

theorem roundDiv_le {b : Nat} (hden : 0 < den) (h : num ≤ den * b) : roundDiv num den ≤ b := by
  have hdiv : num / den ≤ b := Nat.div_le_of_le_mul h
  have hsplit := Nat.div_add_mod num den
  rcases Nat.lt_or_eq_of_le hdiv with hlt | heq
  · unfold roundDiv
    dsimp only
    split
    · exact hdiv
    · split <;> omega
  · have hzero : num % den = 0 := by
      rw [heq] at hsplit
      omega
    unfold roundDiv
    dsimp only
    rw [hzero, if_pos (by omega)]
    exact hdiv

theorem le_roundDiv {a : Nat} (hden : 0 < den) (h : den * a ≤ num) : a ≤ roundDiv num den := by
  have hdiv : a ≤ num / den := (Nat.le_div_iff_mul_le hden).2 (Nat.mul_comm den a ▸ h)
  unfold roundDiv
  dsimp only
  split
  · exact hdiv
  · split <;> omega

theorem lt_unitOf (hden : 0 < den) : num < den * 2 ^ (unitOf num den + 53) := by
  have hnum : num < 2 ^ (num.log2 + 1) := Nat.lt_log2_self
  have hlow : 2 ^ den.log2 ≤ den := Nat.log2_self_le (Nat.pos_iff_ne_zero.1 hden)
  -- The quotient of the leading powers of two is off by one at most.
  have hbound {u : Nat} (hu : num.log2 + 1 ≤ den.log2 + (u + 53)) : num < den * 2 ^ (u + 53) := by
    calc num < 2 ^ (num.log2 + 1) := hnum
      _ ≤ 2 ^ (den.log2 + (u + 53)) := Nat.pow_le_pow_right (by omega) hu
      _ = 2 ^ den.log2 * 2 ^ (u + 53) := Nat.pow_add _ _ _
      _ ≤ den * 2 ^ (u + 53) := Nat.mul_le_mul_right _ hlow
  unfold unitOf
  dsimp only
  split
  · rename_i h
    obtain ⟨hu, hlt⟩ := h
    have hexp : num.log2 - den.log2 - 52 - 1 + 53 = num.log2 - den.log2 - 52 + 52 := by omega
    rw [hexp]
    exact hlt
  · exact hbound (by omega)

theorem le_of_unitOf (hu : unitOf num den ≠ 0) :
    den * 2 ^ (unitOf num den + 52) ≤ num := by
  have hhigh : den < 2 ^ (den.log2 + 1) := Nat.lt_log2_self
  unfold unitOf at *
  dsimp only at *
  split at hu
  · rename_i h
    rw [if_pos h]
    have hne : num ≠ 0 := by
      rintro rfl
      simp at hu
    calc den * 2 ^ (num.log2 - den.log2 - 52 - 1 + 52)
        ≤ 2 ^ (den.log2 + 1) * 2 ^ (num.log2 - den.log2 - 52 - 1 + 52) :=
          Nat.mul_le_mul_right _ (Nat.le_of_lt hhigh)
      _ = 2 ^ (den.log2 + 1 + (num.log2 - den.log2 - 52 - 1 + 52)) := (Nat.pow_add _ _ _).symm
      _ = 2 ^ num.log2 := by congr 1; omega
      _ ≤ num := Nat.log2_self_le hne
  · rename_i h
    rw [if_neg h]
    by_contra hlt
    exact h ⟨hu, Nat.lt_of_not_le hlt⟩

theorem round_finite_or_infinite (negative : Bool) (num den : Nat) :
    (round negative num den).isFinite = true ∨ (round negative num den).isInfinite = true := by
  unfold round
  dsimp only
  split
  · rename_i h
    exact .inl (isFinite_withSign h)
  · exact .inr isInfinite_infinity

theorem roundDiv_unitOf_le (hden : 0 < den) :
    roundDiv num (den * 2 ^ unitOf num den) ≤ 2 ^ 53 := by
  apply roundDiv_le (Nat.mul_pos hden (Nat.two_pow_pos _))
  rw [Nat.mul_assoc, ← Nat.pow_add]
  exact Nat.le_of_lt (lt_unitOf hden)

theorem le_roundDiv_unitOf (hden : 0 < den) :
    unitOf num den = 0 ∨ 2 ^ 52 ≤ roundDiv num (den * 2 ^ unitOf num den) := by
  by_cases hzero : unitOf num den = 0
  · exact .inl hzero
  · right
    apply le_roundDiv (Nat.mul_pos hden (Nat.two_pow_pos _))
    rw [Nat.mul_assoc, ← Nat.pow_add]
    exact le_of_unitOf hzero

theorem magnitude_round (negative : Bool) (hden : 0 < den)
    (h : (round negative num den).isFinite = true) : (round negative num den).magnitude =
      roundDiv num (den * 2 ^ unitOf num den) * 2 ^ unitOf num den := by
  have hle := @roundDiv_unitOf_le num den hden
  have hnormal := @le_roundDiv_unitOf num den hden
  unfold round at *
  dsimp only at *
  simp only [Nat.pow_eq] at *
  split at h
  · rename_i hword
    rw [if_pos hword]
    exact magnitude_withSign hword hle hnormal
  · exact absurd isInfinite_infinity (Bool.eq_false_iff.1 (isInfinite_of_isFinite h))

theorem le_magnitude_round (negative : Bool) {k : Nat} (hden : 0 < den) (h : den * 2 ^ k ≤ num)
    (hfinite : (round negative num den).isFinite = true) :
    2 ^ k ≤ (round negative num den).magnitude := by
  rw [magnitude_round negative hden hfinite]
  by_cases hk : k < unitOf num den
  · have hnormal := (@le_roundDiv_unitOf num den hden).resolve_left (by omega)
    calc 2 ^ k ≤ 1 * 2 ^ unitOf num den := by
          rw [Nat.one_mul]
          exact Nat.pow_le_pow_right (by omega) (Nat.le_of_lt hk)
      _ ≤ _ := Nat.mul_le_mul_right _ (by omega)
  · have hsum : unitOf num den + (k - unitOf num den) = k := by omega
    have hq : 2 ^ (k - unitOf num den) ≤ roundDiv num (den * 2 ^ unitOf num den) := by
      apply le_roundDiv (Nat.mul_pos hden (Nat.two_pow_pos _))
      rw [Nat.mul_assoc, ← Nat.pow_add, hsum]
      exact h
    calc 2 ^ k = 2 ^ (k - unitOf num den) * 2 ^ unitOf num den := by
          rw [← Nat.pow_add, Nat.add_comm, hsum]
      _ ≤ _ := Nat.mul_le_mul_right _ hq

theorem round_bounded (negative : Bool) {k : Nat} (hden : 0 < den) (h : num ≤ den * 2 ^ k)
    (hk : k ≤ 2096) :
    (round negative num den).isFinite = true ∧ (round negative num den).magnitude ≤ 2 ^ k := by
  have hu : unitOf num den = 0 ∨ unitOf num den + 52 ≤ k := by
    by_cases hzero : unitOf num den = 0
    · exact .inl hzero
    · have hle : den * 2 ^ (unitOf num den + 52) ≤ den * 2 ^ k := (le_of_unitOf hzero).trans h
      exact .inr ((Nat.pow_le_pow_iff_right (by omega)).1 (Nat.le_of_mul_le_mul_left hle hden))
  have hsignificand := @roundDiv_unitOf_le num den hden
  have hfinite : (round negative num den).isFinite = true := by
    unfold round
    dsimp only
    rw [Nat.pow_eq, Nat.pow_eq, if_pos]
    · apply isFinite_withSign
      rw [infinityWord_eq]
      omega
    · rw [infinityWord_eq]
      omega
  refine ⟨hfinite, ?_⟩
  rw [magnitude_round negative hden hfinite]
  by_cases hku : unitOf num den ≤ k
  · have hsum : unitOf num den + (k - unitOf num den) = k := by omega
    have hq : roundDiv num (den * 2 ^ unitOf num den) ≤ 2 ^ (k - unitOf num den) := by
      apply roundDiv_le (Nat.mul_pos hden (Nat.two_pow_pos _))
      rw [Nat.mul_assoc, ← Nat.pow_add, hsum]
      exact h
    calc _ ≤ 2 ^ (k - unitOf num den) * 2 ^ unitOf num den := Nat.mul_le_mul_right _ hq
      _ = 2 ^ k := by rw [← Nat.pow_add, Nat.add_comm, hsum]
  · omega

theorem exists_scale_eq : ∃ e, e < 1075 ∧ scale = 2 ^ e := by
  unfold scale
  generalize he : 1074 = e
  exact ⟨e, by omega, Nat.pow_eq⟩

-- What follows is about any such number: it need not be computed.
attribute [local irreducible] scale

theorem scale_pos : 0 < scale := by
  obtain ⟨e, -, hscale⟩ := exists_scale_eq
  rw [hscale]
  exact Nat.two_pow_pos e

theorem scale_le_magnitude_round (negative : Bool) (hden : 0 < den) (h : den * scale ≤ num)
    (hfinite : (round negative num den).isFinite = true) :
    scale ≤ (round negative num den).magnitude := by
  obtain ⟨e, -, hscale⟩ := exists_scale_eq
  rw [hscale] at h ⊢
  exact le_magnitude_round negative hden h hfinite

theorem round_bounded_scale (negative : Bool) {k : Nat} (hden : 0 < den)
    (h : num ≤ den * (2 ^ k * scale)) (hk : k ≤ 1022) :
    (round negative num den).isFinite = true ∧
      (round negative num den).magnitude ≤ 2 ^ k * scale := by
  obtain ⟨e, he, hscale⟩ := exists_scale_eq
  rw [hscale, ← Nat.pow_add] at h ⊢
  exact round_bounded negative hden h (by omega)

theorem round_whole_bounded (negative : Bool) {n k : Nat} (h : n ≤ 2 ^ k) (hk : k ≤ 1022) :
    (round negative (n * scale) 1).isFinite = true ∧
      (round negative (n * scale) 1).magnitude ≤ 2 ^ k * scale := by
  apply round_bounded_scale negative Nat.one_pos _ hk
  rw [Nat.one_mul]
  exact Nat.mul_le_mul_right _ h

theorem ofNat_bounded {n k : Nat} (h : n ≤ 2 ^ k) (hk : k ≤ 1022) :
    (ofNat n).isFinite = true ∧ (ofNat n).magnitude ≤ 2 ^ k * scale := by
  unfold ofNat
  exact round_whole_bounded false h hk

theorem ofInt_bounded {n : Int} {k : Nat} (h : n.natAbs ≤ 2 ^ k) (hk : k ≤ 1022) :
    (ofInt n).isFinite = true ∧ (ofInt n).magnitude ≤ 2 ^ k * scale := by
  unfold ofInt
  exact round_whole_bounded _ h hk

end Round

theorem isFinite_neg (x : Binary64) : x.neg.isFinite = x.isFinite := by
  have hfield : x.neg.exponentField = x.exponentField := by
    unfold exponentField neg
    simp only [Nat.pow_eq, UInt64.toNat_xor]
    apply Nat.eq_of_testBit_eq
    intro i
    simp only [Nat.testBit_mod_two_pow, Nat.testBit_div_two_pow, Nat.testBit_xor]
    by_cases hi : i < 11
    · -- Of the bits of the sign only the last one is set, behind those of the exponent.
      have hsign : Nat.testBit (0x8000000000000000 : UInt64).toNat (i + 52) = false := by
        have hpow : (0x8000000000000000 : UInt64).toNat = 2 ^ 63 := rfl
        rw [hpow, Nat.testBit_two_pow]
        exact decide_eq_false (by omega)
      rw [hsign, Bool.xor_false]
    · simp [hi]
  rw [isFinite, isFinite, hfield]

theorem isFinite_zero (negative : Bool) : (zero negative).isFinite = true := by
  cases negative <;> decide

section Arithmetic
variable {x y : Binary64}

theorem mul_eq_round (hx : x.isFinite = true) (hy : y.isFinite = true) :
    x.mul y = round (x.negative != y.negative) (x.magnitude * y.magnitude) scale := by
  unfold mul
  dsimp only
  rw [isNaN_of_isFinite hx, isNaN_of_isFinite hy, isInfinite_of_isFinite hx,
    isInfinite_of_isFinite hy, Bool.or_self, if_neg Bool.false_ne_true]
  exact if_neg Bool.false_ne_true

theorem isFinite_mul (hx : x.isFinite = true) (hy : y.isFinite = true)
    (h : (x.mul y).isInfinite = false) : (x.mul y).isFinite = true := by
  rw [mul_eq_round hx hy] at *
  rcases round_finite_or_infinite (x.negative != y.negative) (x.magnitude * y.magnitude) scale with
    hfinite | hinfinite
  · exact hfinite
  · exact absurd hinfinite (Bool.eq_false_iff.1 h)

theorem div_eq_round (hx : x.isFinite = true) (hy : y.isFinite = true) (hpos : 0 < y.magnitude) :
    x.div y = round (x.negative != y.negative) (x.magnitude * scale) y.magnitude := by
  have hzero : y.isZero = false := by
    have hne : y.significand ≠ 0 := by
      intro he
      rw [magnitude, he, Nat.zero_mul] at hpos
      exact Nat.lt_irrefl 0 hpos
    rw [isZero, beq_eq_false_iff_ne.2 hne, Bool.and_false]
  unfold div
  dsimp only
  rw [isNaN_of_isFinite hx, isNaN_of_isFinite hy, isInfinite_of_isFinite hx,
    isInfinite_of_isFinite hy, hzero, Bool.or_self, if_neg Bool.false_ne_true,
    if_neg Bool.false_ne_true, if_neg Bool.false_ne_true]
  exact if_neg Bool.false_ne_true

theorem div_bounded {k : Nat} (hk : k ≤ 1022) (hx : x.isFinite = true)
    (hbound : x.magnitude ≤ 2 ^ k * scale) (hy : y.isFinite = true) (hone : scale ≤ y.magnitude) :
    (x.div y).isFinite = true ∧ (x.div y).magnitude ≤ 2 ^ k * scale := by
  have hpos : 0 < y.magnitude := Nat.lt_of_lt_of_le scale_pos hone
  rw [div_eq_round hx hy hpos]
  apply round_bounded_scale _ hpos _ hk
  rw [Nat.mul_comm y.magnitude]
  exact Nat.mul_le_mul hbound hone

end Arithmetic

theorem pow_ten_bounds {k : Nat} (h : k ≤ 308) : (ofNat (Nat.pow 10 k)).isFinite = true ∧
    scale ≤ (ofNat (Nat.pow 10 k)).magnitude := by
  have hfinite : (ofNat (Nat.pow 10 k)).isFinite = true := by
    by_cases hk : k = 308
    · subst hk
      decide +kernel
    · have hten : 10 ^ k ≤ 2 ^ 1020 := by
        calc 10 ^ k ≤ 10 ^ 307 := Nat.pow_le_pow_right (by decide) (by omega)
          _ ≤ 2 ^ 1020 := by decide +kernel
      exact (ofNat_bounded hten (by decide)).1
  refine ⟨hfinite, ?_⟩
  unfold ofNat at *
  apply scale_le_magnitude_round false Nat.one_pos _ hfinite
  rw [Nat.one_mul]
  exact Nat.le_mul_of_pos_left _ (Nat.pow_pos (by decide))

end DesignCompiler.Binary64
