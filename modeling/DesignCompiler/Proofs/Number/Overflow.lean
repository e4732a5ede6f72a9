import DesignCompiler.Proofs.Number.Printing

set_option autoImplicit false

namespace DesignCompiler.Binary64

attribute [local irreducible] scale

section Round
variable {num den : Nat}

theorem roundDiv_lt_iff {k : Nat} (hden : 0 < den) (hpos : 0 < k) (heven : k % 2 = 0) :
    roundDiv num den < k ↔ 2 * num < den * (2 * k - 1) := by
  have hsplit := Nat.div_add_mod num den
  have hrest := Nat.mod_lt num hden
  have hleft : den * (2 * k - 1) = 2 * (den * (k - 1)) + den := by
    obtain ⟨j, rfl⟩ : ∃ j, k = j + 1 := ⟨k - 1, by omega⟩
    rw [Nat.add_sub_cancel]
    have hodd : 2 * (j + 1) - 1 = 2 * j + 1 := by omega
    rw [hodd]
    ring
  rw [hleft]
  rcases Nat.lt_trichotomy (num / den) (k - 1) with hlt | heq | hgt
  · have hstep : den * (num / den) + den ≤ den * (k - 1) := by
      rw [← Nat.mul_succ]
      exact Nat.mul_le_mul_left _ hlt
    refine iff_of_true ?_ (by omega)
    unfold roundDiv
    dsimp only
    split
    · omega
    · split <;> omega
  · rw [heq] at hsplit
    unfold roundDiv
    dsimp only
    rw [heq]
    split
    · omega
    · split <;> omega
  · have hstep : den * (k - 1) + den ≤ den * (num / den) := by
      rw [← Nat.mul_succ]
      exact Nat.mul_le_mul_left _ hgt
    refine iff_of_false ?_ (by omega)
    have hle : num / den ≤ roundDiv num den := le_roundDiv hden (Nat.mul_div_le num den)
    omega

theorem isFinite_round_iff_word (negative : Bool) : (round negative num den).isFinite = true ↔
    unitOf num den * 2 ^ 52 + roundDiv num (den * 2 ^ unitOf num den) < infinityWord := by
  unfold round
  dsimp only
  rw [Nat.pow_eq, Nat.pow_eq]
  split
  · rename_i hword
    exact iff_of_true (isFinite_withSign hword) hword
  · rename_i hword
    refine iff_of_false (fun hfinite => ?_) hword
    exact absurd isInfinite_infinity (Bool.eq_false_iff.1 (isInfinite_of_isFinite hfinite))

/-- What rounds to a finite number is below the half way to the next power of two. -/
theorem isFinite_round_iff (negative : Bool) (hden : 0 < den) :
    (round negative num den).isFinite = true ↔ num < den * ((2 ^ 54 - 1) * 2 ^ 2044) := by
  have hlow := @le_of_unitOf num den
  have hhigh := @lt_unitOf num den hden
  have hsmall := @roundDiv_unitOf_le num den hden
  have hnormal := @le_roundDiv_unitOf num den hden
  rw [isFinite_round_iff_word, infinityWord_eq]
  -- The exponent of the largest unit is one more than this; its powers are not to be computed.
  generalize hlast : 2044 = e
  rcases Nat.lt_trichotomy (unitOf num den) (e + 1) with hlt | heq | hgt
  · refine iff_of_true (by omega) (hhigh.trans_le (Nat.mul_le_mul_left _ ?_))
    calc 2 ^ (unitOf num den + 53) ≤ 2 ^ (53 + e) := Nat.pow_le_pow_right (by decide) (by omega)
      _ = 2 ^ 53 * 2 ^ e := Nat.pow_add _ _ _
      _ ≤ (2 ^ 54 - 1) * 2 ^ e := Nat.mul_le_mul_right _ (by decide)
  · have hword (q : Nat) : (e + 1) * 2 ^ 52 + q < 2047 * 2 ^ 52 ↔ q < 2 ^ 53 := by omega
    have hdouble : den * 2 ^ (e + 1) * (2 * 2 ^ 53 - 1) = 2 * (den * ((2 ^ 54 - 1) * 2 ^ e)) := by
      have hodd : 2 * 2 ^ 53 - 1 = 2 ^ 54 - 1 := rfl
      rw [hodd, Nat.pow_add_one]
      generalize 2 ^ 54 - 1 = c
      ring
    rw [heq, hword, roundDiv_lt_iff (Nat.mul_pos hden (Nat.two_pow_pos _)) (by decide) (by decide),
      hdouble]
    exact Nat.mul_lt_mul_left (by decide)
  · refine iff_of_false (by omega) (Nat.not_lt.2 ?_)
    calc den * ((2 ^ 54 - 1) * 2 ^ e) ≤ den * (2 ^ 54 * 2 ^ e) :=
          Nat.mul_le_mul_left _ (Nat.mul_le_mul_right _ (by decide))
      _ = den * 2 ^ (54 + e) := by rw [Nat.pow_add]
      _ ≤ den * 2 ^ (unitOf num den + 52) :=
          Nat.mul_le_mul_left _ (Nat.pow_le_pow_right (by decide) (by omega))
      _ ≤ num := hlow (by omega)

theorem lt_overflow_iff {n : Nat} :
    n < (2 ^ 54 - 1) * 2 ^ 2044 ↔ (n / scale : ℚ) < 2 ^ 1024 - 2 ^ 970 := by
  rw [div_lt_iff₀ cast_scale_pos, ← overflow_eq]
  generalize 2044 = e
  have hcast : (((2 ^ 54 - 1) * 2 ^ e : Nat) : ℚ) = (2 ^ 54 - 1) * 2 ^ e := by
    rw [Nat.cast_mul, Nat.cast_pow]
    norm_num
  rw [← hcast, Nat.cast_lt]

end Round

section Arithmetic
variable {x y : Binary64}

theorem magnitude_le_greatest (hx : x.isFinite = true) :
    x.magnitude ≤ (2 ^ 54 - 2) * 2 ^ 2044 := by
  have hsignificand := x.significand_lt
  have hunit := unit_le hx
  generalize hlast : 2044 = e
  calc x.significand * 2 ^ x.unit ≤ (2 ^ 53 - 1) * 2 ^ (e + 1) :=
        Nat.mul_le_mul (by omega) (Nat.pow_le_pow_right (by decide) (by omega))
    _ = (2 ^ 53 - 1) * 2 * 2 ^ e := by rw [pow_succ' 2 e, Nat.mul_assoc]
    _ = (2 ^ 54 - 2) * 2 ^ e := congrArg (· * 2 ^ e) (by decide)

theorem isFinite_add (hx : x.isFinite = true) (hy : y.isFinite = true)
    (h : y.magnitude < 2 ^ 2044) : (x.add y).isFinite = true := by
  unfold add
  dsimp only
  rw [isNaN_of_isFinite hx, isNaN_of_isFinite hy, isInfinite_of_isFinite hx,
    isInfinite_of_isFinite hy, Bool.or_self, if_neg Bool.false_ne_true, if_neg Bool.false_ne_true,
    if_neg Bool.false_ne_true]
  split
  · exact isFinite_zero _
  · rw [isFinite_round_iff _ Nat.one_pos, Nat.one_mul]
    have hsum := Int.natAbs_add_le x.scaled y.scaled
    have hgreatest := magnitude_le_greatest hx
    rw [← magnitude_eq_natAbs, ← magnitude_eq_natAbs] at hsum
    generalize hlast : 2044 = e at *
    have hlimit : (2 ^ 54 - 1) * 2 ^ e = (2 ^ 54 - 2) * 2 ^ e + 2 ^ e := by
      have hstep : 2 ^ 54 - 1 = 2 ^ 54 - 2 + 1 := by decide
      rw [hstep, Nat.add_one_mul]
    omega

theorem isFinite_of_isInfinite (h : x.isInfinite = true) : x.isFinite = false := by
  rw [isInfinite, Bool.and_eq_true, Bool.not_eq_true'] at h
  exact h.1

theorem isNaN_of_isInfinite (h : x.isInfinite = true) : x.isNaN = false := by
  rw [isInfinite, Bool.and_eq_true, beq_iff_eq] at h
  rw [isNaN, h.2]
  exact Bool.and_false _

theorem add_of_isInfinite (hx : x.isInfinite = true) (hy : y.isFinite = true) : x.add y = x := by
  unfold add
  dsimp only
  rw [isNaN_of_isInfinite hx, isNaN_of_isFinite hy, isInfinite_of_isFinite hy, hx, Bool.or_self,
    if_neg Bool.false_ne_true, if_pos rfl]
  rfl

theorem format_of_isInfinite (h : x.isInfinite = true) :
    x.format = if x.negative then "-inf".toList else "inf".toList := by
  rw [format, isWhole, isFinite_of_isInfinite h, Bool.false_and, if_neg Bool.false_ne_true, plain,
    textWith, isNaN_of_isInfinite h, if_neg Bool.false_ne_true, h]
  rfl

end Arithmetic

section Floor
variable {x : Binary64}

theorem roundDiv_mul_cancel (k : Nat) {d : Nat} (hd : 0 < d) : roundDiv (k * d) d = k := by
  unfold roundDiv
  dsimp only
  rw [Nat.mul_mod_left, Nat.mul_div_cancel k hd, if_pos (by omega)]

theorem isWhole_ofInt {n : Int} (h : (ofInt n).isFinite = true) : (ofInt n).isWhole = true := by
  obtain ⟨e, -, hscale⟩ := exists_scale_eq
  have hmagnitude : scale ∣ (ofInt n).magnitude := by
    unfold ofInt at h ⊢
    rw [magnitude_round _ Nat.one_pos h, Nat.one_mul, hscale]
    generalize unitOf (n.natAbs * 2 ^ e) 1 = u
    by_cases hle : e ≤ u
    · exact Dvd.dvd.mul_left (pow_dvd_pow 2 hle) _
    · have hsplit : n.natAbs * 2 ^ e = n.natAbs * 2 ^ (e - u) * 2 ^ u := by
        rw [Nat.mul_assoc, ← Nat.pow_add, Nat.sub_add_cancel (by omega)]
      rw [hsplit, roundDiv_mul_cancel _ (Nat.two_pow_pos u), ← hsplit]
      exact Nat.dvd_mul_left _ _
  rw [isWhole, h, Nat.mod_eq_zero_of_dvd hmagnitude]
  rfl

theorem isWhole_floor (hx : x.isFinite = true) : x.floor.isWhole = true := by
  by_cases h : x.isWhole = true
  · rw [floor, hx, h, Bool.or_true, if_pos rfl, h]
  · have hbelow : x.wholeBelow.natAbs ≤ 2 ^ 52 := by
      have hlt := abs_value_lt_of_not_isWhole hx (Bool.eq_false_iff.2 h)
      rw [abs_value, div_lt_iff₀ cast_scale_pos, magnitude_eq_natAbs] at hlt
      have hscaled : x.scaled.natAbs < 2 ^ 52 * scale := by exact_mod_cast hlt
      have hscale : (0 : Int) < scale := by exact_mod_cast scale_pos
      have hlow : -2 ^ 52 ≤ x.scaled / scale := by
        rw [Int.le_ediv_iff_mul_le hscale]
        omega
      have hhigh : x.scaled / scale < 2 ^ 52 := by
        rw [Int.ediv_lt_iff_lt_mul hscale]
        omega
      rw [wholeBelow, Int.fdiv_eq_ediv_of_nonneg _ hscale.le]
      omega
    rw [floor, hx, Bool.eq_false_iff.2 h, Bool.not_true, Bool.or_self, if_neg Bool.false_ne_true]
    exact isWhole_ofInt (ofInt_bounded hbelow (by decide)).1

theorem isFinite_of_isWhole (h : x.isWhole = true) : x.isFinite = true := by
  unfold isWhole at h
  exact (Bool.and_eq_true_iff.1 h).1

theorem floor_of_not_isFinite (h : x.isFinite = false) : x.floor = x := by
  unfold floor
  rw [h]
  rfl

end Floor
end DesignCompiler.Binary64
