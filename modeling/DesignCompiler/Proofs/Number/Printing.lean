import DesignCompiler.Proofs.Number.Shortest

set_option autoImplicit false

namespace DesignCompiler.Binary64

attribute [local irreducible] scale

section Whole
variable {x : Binary64}

theorem value_mul_scale (x : Binary64) : x.value * scale = x.scaled :=
  div_mul_cancel₀ _ cast_scale_pos.ne'

theorem magnitude_eq_natAbs (x : Binary64) : x.magnitude = x.scaled.natAbs := by
  have habs := x.abs_scaled
  rw [Int.abs_eq_natAbs] at habs
  exact_mod_cast habs.symm

theorem dvd_scaled_of_isWhole (h : x.isWhole = true) : (scale : Int) ∣ x.scaled := by
  unfold isWhole at h
  rw [Bool.and_eq_true, beq_iff_eq] at h
  have hdvd := Nat.dvd_of_mod_eq_zero h.2
  rw [magnitude_eq_natAbs] at hdvd
  exact Int.natCast_dvd.2 hdvd

theorem value_eq_wholeBelow (h : x.isWhole = true) : x.value = x.wholeBelow := by
  have hscale : (scale : Int) ≠ 0 := by exact_mod_cast scale_pos.ne'
  have hscaled : x.scaled = x.wholeBelow * scale := by
    rw [wholeBelow, Int.fdiv_eq_ediv_of_nonneg _ (Int.natCast_nonneg _),
      Int.ediv_mul_cancel (dvd_scaled_of_isWhole h)]
  rw [value, hscaled, Int.cast_mul, Int.cast_natCast, mul_div_cancel_right₀ _ cast_scale_pos.ne']

theorem isWhole_iff (hx : x.isFinite = true) : x.isWhole = true ↔ ∃ n : Int, x.value = n := by
  constructor
  · exact fun h => ⟨_, value_eq_wholeBelow h⟩
  · rintro ⟨n, hn⟩
    have hscaled : x.scaled = n * scale := by
      have hcast := x.value_mul_scale
      rw [hn] at hcast
      exact_mod_cast hcast.symm
    rw [isWhole, hx, magnitude_eq_natAbs, hscaled, Int.natAbs_mul, Int.natAbs_natCast,
      Nat.mul_mod_left]
    rfl

theorem abs_value_lt_of_not_isWhole (hx : x.isFinite = true) (h : x.isWhole = false) :
    |x.value| < 2 ^ 52 := by
  obtain ⟨e, -, hscale⟩ := exists_scale_eq
  rw [isWhole, hx, Bool.true_and, beq_eq_false_iff_ne, hscale] at h
  have hunit : x.unit < e := by
    by_contra hle
    exact h (Nat.mod_eq_zero_of_dvd (two_pow_dvd_magnitude (not_lt.1 hle)))
  rw [abs_value, div_lt_iff₀ cast_scale_pos, hscale]
  exact_mod_cast magnitude_lt_of_unit_lt hunit

end Whole

section Printing
variable {x : Binary64}

def printed (x : Binary64) : ℚ :=
  if x.isWhole then clampInteger x.wholeBelow
  else if x.negative then -x.shortest.value else x.shortest.value

theorem plain_of_isFinite (hx : x.isFinite = true) : x.plain =
    if x.negative then '-' :: x.shortest.positional else x.shortest.positional := by
  unfold plain textWith
  rw [isNaN_of_isFinite hx, isInfinite_of_isFinite hx]
  rfl

theorem isWhole_of_magnitude_eq_zero (hx : x.isFinite = true) (h : x.magnitude = 0) :
    x.isWhole = true := by
  rw [isWhole, hx, h, Nat.zero_mod]
  rfl

theorem magnitude_pos_of_not_isWhole (hx : x.isFinite = true) (h : x.isWhole = false) :
    0 < x.magnitude := by
  rw [Nat.pos_iff_ne_zero]
  intro hzero
  rw [isWhole_of_magnitude_eq_zero hx hzero] at h
  exact absurd h (by decide)

theorem exists_numeral_format (hx : x.isFinite = true) : ∃ m : Numeral, m.text = x.format ∧
    (x.isWhole = true → m.IsInteger) ∧ m.value = x.printed := by
  unfold format printed
  cases h : x.isWhole with
  | true =>
    obtain ⟨m, htext, hinteger, hvalue⟩ := exists_numeral_decimalInt (clampInteger x.wholeBelow)
    exact ⟨m, htext, fun _ => hinteger, hvalue⟩
  | false =>
    obtain ⟨m, htext, hvalue⟩ := x.shortest.exists_numeral_positional x.negative
      (digits_shortest (magnitude_pos_of_not_isWhole hx h))
    exact ⟨m, htext.trans (plain_of_isFinite hx).symm, nofun, hvalue⟩

/-- The text of a number is a numeral that rounds to it, an integer if the number is whole. -/
def PrintsBack (x : Binary64) : Prop :=
  ∃ m : Numeral, m.text = x.format ∧ ((∃ n : Int, x.value = n) → m.IsInteger) ∧ RoundsTo m.value x

theorem printsBack_iff_roundsTo (hx : x.isFinite = true) : x.PrintsBack ↔ RoundsTo x.printed x := by
  obtain ⟨m, htext, hinteger, hvalue⟩ := exists_numeral_format hx
  constructor
  · rintro ⟨n, hn, -, hrounds⟩
    rwa [← hvalue, ← Numeral.text_injective (hn.trans htext.symm)]
  · intro hrounds
    rw [isWhole_iff hx] at hinteger
    exact ⟨m, htext, hinteger, hvalue ▸ hrounds⟩

theorem roundsTo_printed_of_not_isWhole (hx : x.isFinite = true) (h : x.isWhole = false) :
    RoundsTo x.printed x := by
  unfold printed
  rw [if_neg (Bool.eq_false_iff.1 h)]
  exact roundsTo_of_near hx (near_shortest (magnitude_pos_of_not_isWhole hx h))

def pastIntegers (negative : Bool) : Binary64 := withSign negative (1086 * 2 ^ 52)

theorem isFinite_pastIntegers (negative : Bool) : (pastIntegers negative).isFinite = true := by
  cases negative <;> decide

theorem value_pastIntegers (negative : Bool) :
    (pastIntegers negative).value = if negative then -2 ^ 63 else 2 ^ 63 := by
  have hscaled : (pastIntegers negative).scaled =
      (if negative then -2 ^ 63 else 2 ^ 63) * scale := by
    cases negative <;> decide +kernel
  rw [value, hscaled, Int.cast_mul, Int.cast_natCast, mul_div_cancel_right₀ _ cast_scale_pos.ne']
  cases negative <;> norm_num

theorem not_roundsTo_of_nearer {q : ℚ} (y : Binary64) (hy : y.isFinite = true)
    (h : |q - y.value| < |q - x.value|) : ¬ RoundsTo q x :=
  fun hrounds => not_lt.2 (hrounds.nearest y hy) h

theorem roundsTo_of_within {q : ℚ} (hx : x.isFinite = true) (hpos : 0 < x.magnitude)
    (h : 2 * |q * scale - x.magnitude| < x.gapBelow) :
    RoundsTo (if x.negative then -q else q) x :=
  roundsTo_of_near hx (near_of_lt hpos h)

theorem value_eq_magnitude (x : Binary64) :
    x.value = if x.negative then -(x.magnitude / scale : ℚ) else x.magnitude / scale := by
  unfold value scaled
  split
  · rw [Int.cast_neg, Int.cast_natCast, neg_div]
  · rw [Int.cast_natCast]

theorem roundsTo_value (hx : x.isFinite = true) : RoundsTo x.value x := by
  by_cases hzero : x.magnitude = 0
  · have hvalue : x.value = 0 := by rw [value_eq_magnitude, hzero]; simp
    refine ⟨hx, ?_, fun y _ => ?_, fun y _ htie hne => ?_⟩
    · rw [hvalue, abs_zero, sub_pos]
      exact pow_lt_pow_right₀ (by norm_num) (by norm_num)
    · rw [sub_self, abs_zero]
      exact abs_nonneg _
    · rw [sub_self, abs_zero, abs_eq_zero, sub_eq_zero] at htie
      exact absurd htie.symm hne
  · rw [value_eq_magnitude]
    apply roundsTo_of_within hx (Nat.pos_of_ne_zero hzero)
    rw [div_mul_cancel₀ _ cast_scale_pos.ne', sub_self, abs_zero, mul_zero]
    exact Nat.cast_pos.2 x.gapBelow_pos

/-- The last integer of 64 bits rounds to the power of two behind it. -/
theorem roundsTo_pastIntegers (hx : x.isFinite = true) (h : x.value = 2 ^ 63) :
    RoundsTo (2 ^ 63 - 1) x := by
  have hscale := cast_scale_pos
  have hmagnitude : (x.magnitude : ℚ) = 2 ^ 63 * scale := by
    have habs := x.abs_value
    rw [h, abs_of_pos (by norm_num), eq_div_iff hscale.ne'] at habs
    exact habs.symm
  have hpos : 0 < x.magnitude := by
    have hcast : (0 : ℚ) < x.magnitude := by rw [hmagnitude]; positivity
    exact Nat.cast_pos.1 hcast
  have hsign : x.negative = false := by
    rw [Bool.eq_false_iff]
    intro hnegative
    rw [value_eq_magnitude, if_pos hnegative] at h
    have hnonneg : (0 : ℚ) ≤ x.magnitude / scale := by positivity
    linarith
  have hgap : (x.magnitude : ℚ) ≤ 2 ^ 53 * x.gapBelow := by exact_mod_cast x.magnitude_le_gapBelow
  have hwithin := @roundsTo_of_within x (2 ^ 63 - 1) hx hpos (by
    rw [hmagnitude, ← sub_mul, sub_sub_cancel_left, abs_mul, abs_neg, abs_one, one_mul,
      abs_of_pos hscale]
    linarith)
  rwa [hsign, if_neg Bool.false_ne_true] at hwithin

theorem not_roundsTo_least (h : x.value < -2 ^ 63) : ¬ RoundsTo (-2 ^ 63) x := by
  apply not_roundsTo_of_nearer _ (isFinite_pastIntegers true)
  rw [value_pastIntegers, if_pos rfl, sub_self, abs_zero]
  exact abs_pos.2 (by linarith)

theorem not_roundsTo_greatest (h : 2 ^ 63 < x.value) : ¬ RoundsTo (2 ^ 63 - 1) x := by
  apply not_roundsTo_of_nearer _ (isFinite_pastIntegers false)
  rw [value_pastIntegers, if_neg Bool.false_ne_true, sub_sub_cancel_left, abs_neg, abs_one,
    abs_sub_comm, abs_of_pos (by linarith)]
  linarith

theorem clampInteger_eq (n : Int) : clampInteger n =
    if n < -2 ^ 63 then -2 ^ 63 else if 2 ^ 63 ≤ n then 2 ^ 63 - 1 else n := by
  have hleast : leastInteger = -2 ^ 63 := rfl
  have hgreatest : greatestInteger = 2 ^ 63 - 1 := rfl
  unfold clampInteger
  rw [hleast, hgreatest]
  split_ifs <;> omega

theorem roundsTo_printed_of_isWhole (hx : x.isFinite = true) (h : x.isWhole = true) :
    RoundsTo x.printed x ↔ |x.value| ≤ 2 ^ 63 := by
  have hvalue := value_eq_wholeBelow h
  have hprinted : x.printed = clampInteger x.wholeBelow := if_pos h
  rw [hprinted, clampInteger_eq, abs_le]
  generalize x.wholeBelow = n at *
  split_ifs with hlow hhigh
  · have hlt : x.value < -2 ^ 63 := by
      rw [hvalue]
      exact_mod_cast hlow
    rw [Int.cast_neg, Int.cast_pow, Int.cast_ofNat]
    exact iff_of_false (not_roundsTo_least hlt) fun hle => by linarith [hle.1]
  · have hle : 2 ^ 63 ≤ x.value := by
      rw [hvalue]
      exact_mod_cast hhigh
    rw [Int.cast_sub, Int.cast_pow, Int.cast_ofNat, Int.cast_one]
    -- The number right behind the last integer still rounds back.
    rcases hle.eq_or_lt with heq | hlt
    · exact iff_of_true (roundsTo_pastIntegers hx heq.symm) ⟨by linarith, heq.ge⟩
    · exact iff_of_false (not_roundsTo_greatest hlt) fun hle => by linarith [hle.2]
  · rw [← hvalue]
    have hbounds : -2 ^ 63 ≤ x.value ∧ x.value ≤ 2 ^ 63 := by
      rw [hvalue]
      constructor
      · exact_mod_cast not_lt.1 hlow
      · exact_mod_cast (not_le.1 hhigh).le
    exact iff_of_true (roundsTo_value hx) hbounds

/-- A finite number is printed as a plain numeral, and as an integer if it is whole; the numeral
rounds to the number exactly if the number is within the integers of 64 bits, the first power of two
behind them included. -/
theorem printsBack_iff (hx : x.isFinite = true) :
    (∃ m : Numeral, m.text = x.format ∧ ((∃ n : Int, x.value = n) → m.IsInteger)) ∧
      (x.PrintsBack ↔ |x.value| ≤ 2 ^ 63) := by
  obtain ⟨m, htext, hinteger, -⟩ := exists_numeral_format hx
  rw [isWhole_iff hx] at hinteger
  refine ⟨⟨m, htext, hinteger⟩, ?_⟩
  rw [printsBack_iff_roundsTo hx]
  cases h : x.isWhole with
  | true => exact roundsTo_printed_of_isWhole hx h
  | false =>
    have hlt := abs_value_lt_of_not_isWhole hx h
    exact iff_of_true (roundsTo_printed_of_not_isWhole hx h) (hlt.le.trans (by norm_num))

/-- The power of two behind the integers is printed as the last integer, and read back. -/
theorem printsBack_of_pastIntegers :
    let x : Binary64 := ⟨0x43e0000000000000⟩
    x.isFinite = true ∧ x.value = 2 ^ 63 ∧ x.format = "9223372036854775807".toList ∧
      x.PrintsBack := by
  intro x
  have hvalue : x.value = 2 ^ 63 := value_pastIntegers false
  have hx : x.isFinite = true := by decide
  refine ⟨hx, hvalue, by decide +kernel, (printsBack_iff hx).2.2 ?_⟩
  rw [hvalue]
  norm_num

/-- Ten to the nineteenth is printed as the last integer too, which is another number. -/
theorem not_printsBack_of_large :
    let x : Binary64 := ⟨0x43e158e460913d00⟩
    x.isFinite = true ∧ x.value = 10 ^ 19 ∧ x.format = "9223372036854775807".toList ∧
      ¬ x.PrintsBack := by
  intro x
  have hx : x.isFinite = true := by decide
  have hwhole : x.isWhole = true := by decide +kernel
  have hvalue : x.value = 10 ^ 19 := by
    have hbelow : x.wholeBelow = 10 ^ 19 := by decide +kernel
    rw [value_eq_wholeBelow hwhole, hbelow]
    norm_num
  refine ⟨hx, hvalue, by decide +kernel, fun hprints => ?_⟩
  rw [printsBack_iff_roundsTo hx, roundsTo_printed_of_isWhole hx hwhole, hvalue] at hprints
  norm_num at hprints

end Printing
end DesignCompiler.Binary64
