import DesignCompiler.Proofs.Number.Nearest
import DesignCompiler.Proofs.Number.Numeral

set_option autoImplicit false

/-!
# The shortest decimal

A decimal that a number admits lies within half the gaps around its magnitude. Of seventeen digits
the nearest decimal always does, for a step of the seventeenth digit is smaller than the gap. So the
search for a shortest one ends with a decimal that rounds to the number.
-/
namespace DesignCompiler

theorem lt_pow_digitCount (n : Nat) : n < 10 ^ digitCount n := by
  induction n using Nat.strongRecOn with
  | ind n ih =>
    rw [digitCount]
    split
    · omega
    · have hlt := ih (n / 10) (by omega)
      rw [Nat.pow_succ]
      omega

theorem pow_digitCount_le {n : Nat} (h : 0 < n) : 10 ^ (digitCount n - 1) ≤ n := by
  induction n using Nat.strongRecOn with
  | ind n ih =>
    rw [digitCount, if_neg (by omega), Nat.add_sub_cancel]
    by_cases hten : n / 10 = 0
    · rw [hten, digitCount, if_pos rfl]
      exact h
    · have hle := ih (n / 10) (by omega) (by omega)
      have hcount : digitCount (n / 10) = digitCount (n / 10) - 1 + 1 := by
        have hpos : digitCount (n / 10) ≠ 0 := by
          rw [digitCount, if_neg hten]
          exact Nat.succ_ne_zero _
        omega
      rw [hcount, Nat.pow_succ]
      omega

theorem digitCount_pos {n : Nat} (h : 0 < n) : 0 < digitCount n := by
  rw [digitCount, if_neg (by omega)]
  exact Nat.succ_pos _

theorem pow_decimalExponent_le {num den : Nat} (hnum : 0 < num) (hden : 0 < den) :
    (10 : ℚ) ^ (decimalExponent num den - 1) ≤ num / den := by
  have hnumQ : (0 : ℚ) < num := Nat.cast_pos.2 hnum
  have hdenQ : (0 : ℚ) < den := Nat.cast_pos.2 hden
  unfold decimalExponent
  split
  · rename_i hle
    have hquotient : 0 < num / den := Nat.div_pos hle hden
    have hcount := digitCount_pos hquotient
    have hexponent : (digitCount (num / den) : Int) - 1 = (digitCount (num / den) - 1 : Nat) := by
      omega
    rw [hexponent, zpow_natCast]
    calc (10 : ℚ) ^ (digitCount (num / den) - 1) ≤ (num / den : Nat) := by
          exact_mod_cast pow_digitCount_le hquotient
      _ ≤ num / den := Nat.cast_div_le
  · have hlt := lt_pow_digitCount ((den - 1) / num)
    rw [Nat.div_lt_iff_lt_mul hnum] at hlt
    have hle : den ≤ 10 ^ digitCount ((den - 1) / num) * num := by omega
    have hexponent : 1 - (digitCount ((den - 1) / num) : Int) - 1 =
        -(digitCount ((den - 1) / num) : Int) := by omega
    rw [hexponent, zpow_neg, zpow_natCast, inv_le_comm₀ (by positivity) (by positivity), inv_div,
      div_le_iff₀ hnumQ]
    exact_mod_cast hle

namespace Decimal

theorem value_reduce (digits : Nat) (exponent : Int) :
    (reduce digits exponent).value = digits * 10 ^ exponent := by
  fun_induction reduce digits exponent with
  | case1 digits exponent h ih =>
    obtain ⟨k, rfl⟩ := Nat.dvd_of_mod_eq_zero h.2
    rw [ih, Nat.mul_div_cancel_left k (by decide), zpow_add_one₀ (by norm_num)]
    push_cast
    ring
  | case2 => rfl

theorem digits_reduce {digits : Nat} (exponent : Int) (h : digits ≠ 0) :
    (reduce digits exponent).digits % 10 ≠ 0 := by
  fun_induction reduce digits exponent with
  | case1 digits exponent hten ih => exact ih (by omega)
  | case2 digits exponent hten => exact fun hzero => hten ⟨h, hzero⟩

end Decimal

namespace Binary64

attribute [local irreducible] scale

section Admits
variable {x : Binary64} {d : Decimal} {t : ℚ}

theorem unit_le_magnitude (h : 0 < x.magnitude) : 2 ^ x.unit ≤ x.magnitude := by
  rw [magnitude_eq] at h ⊢
  exact Nat.le_mul_of_pos_left _ (Nat.pos_of_mul_pos_right h)

theorem gapBelow_le_magnitude (h : 0 < x.magnitude) : x.gapBelow ≤ x.magnitude :=
  x.gapBelow_le.trans (unit_le_magnitude h)

theorem near_of_lt (hx : 0 < x.magnitude) (h : 2 * |t - x.magnitude| < x.gapBelow) : x.Near t := by
  have hunit : (x.gapBelow : ℚ) ≤ 2 ^ x.unit := by exact_mod_cast x.gapBelow_le
  have hmagnitude : (x.gapBelow : ℚ) ≤ x.magnitude := by exact_mod_cast gapBelow_le_magnitude hx
  have hlow := neg_abs_le (t - x.magnitude)
  have hhigh := le_abs_self (t - x.magnitude)
  have hpos : (0 : ℚ) < x.gapBelow := Nat.cast_pos.2 x.gapBelow_pos
  constructor
  case pos => linarith
  case low => linarith
  case high => linarith
  case strict => exact fun _ => ⟨by linarith, by linarith⟩

theorem two_mul_gapBelow (x : Binary64) :
    (if x.significand = Nat.pow 2 52 ∧ x.unit ≠ 0 then Nat.pow 2 x.unit
      else 2 * Nat.pow 2 x.unit) = 2 * x.gapBelow := by
  unfold gapBelow
  simp only [Nat.pow_eq]
  split
  · rename_i hleast
    rw [← Nat.pow_succ', Nat.succ_eq_add_one, Nat.sub_add_cancel (Nat.pos_of_ne_zero hleast.2)]
  · rfl

theorem cast_compare {a b : Nat} {p q c : ℚ} (hc : 0 < c) (ha : a = p * c) (hb : b = q * c) :
    (a ≤ b ↔ p ≤ q) ∧ (a < b ↔ p < q) := by
  rw [← Nat.cast_le (α := ℚ), ← Nat.cast_lt (α := ℚ), ha, hb]
  exact ⟨mul_le_mul_iff_left₀ hc, mul_lt_mul_iff_left₀ hc⟩

theorem near_of_admits (hx : 0 < x.magnitude) (h : x.admits d = true) :
    x.Near (d.value * scale) := by
  have hden : (0 : ℚ) < d.den := Nat.cast_pos.2 (Nat.pow_pos (by decide))
  have hvalue : (4 * scale * d.num : Nat) = 2 * (d.value * scale) * (2 * d.den) := by
    rw [Decimal.value_eq_num_div_den]
    push_cast
    field_simp
    ring
  have hlow : ((4 * x.magnitude - 2 * x.gapBelow) * d.den : Nat) =
      (2 * x.magnitude - x.gapBelow) * (2 * d.den : ℚ) := by
    have hle : 2 * x.gapBelow ≤ 4 * x.magnitude := by
      have hgap := gapBelow_le_magnitude hx
      omega
    rw [Nat.cast_mul, Nat.cast_sub hle]
    push_cast
    ring
  have hhigh : ((4 * x.magnitude + 2 * Nat.pow 2 x.unit) * d.den : Nat) =
      (2 * x.magnitude + 2 ^ x.unit) * (2 * d.den : ℚ) := by
    rw [Nat.pow_eq]
    push_cast
    ring
  have hlows := cast_compare (by positivity) hlow hvalue
  have hhighs := cast_compare (by positivity) hvalue hhigh
  have hpos : 0 < 2 * x.magnitude - (x.gapBelow : ℚ) := by
    have hgap : (x.gapBelow : ℚ) ≤ x.magnitude := by exact_mod_cast gapBelow_le_magnitude hx
    have hx : (0 : ℚ) < x.magnitude := Nat.cast_pos.2 hx
    linarith
  unfold admits at h
  dsimp only at h
  rw [two_mul_gapBelow] at h
  split at h
  · rename_i heven
    rw [Bool.and_eq_true, decide_eq_true_eq, decide_eq_true_eq, hlows.1, hhighs.1] at h
    exact ⟨by linarith, h.1, h.2, fun hodd => by omega⟩
  · rw [Bool.and_eq_true, decide_eq_true_eq, decide_eq_true_eq, hlows.2, hhighs.2] at h
    exact ⟨by linarith, h.1.le, h.2.le, fun _ => ⟨h.1.ne, h.2.ne⟩⟩

end Admits

section Search
variable {x : Binary64}

def nearerWhole (num den : Nat) : Nat :=
  if 2 * (num % den) < den then num / den else num / den + 1

theorem two_mul_abs_nearerWhole_le {num den : Nat} (hden : 0 < den) :
    2 * |(nearerWhole num den * den : ℚ) - num| ≤ den := by
  have hsplit : (num : ℚ) = den * (num / den : Nat) + (num % den : Nat) := by
    exact_mod_cast (Nat.div_add_mod num den).symm
  have hrest : (num % den : Nat) < (den : ℚ) := by exact_mod_cast Nat.mod_lt num hden
  unfold nearerWhole
  split
  · rename_i hnear
    have hle : 2 * ((num % den : Nat) : ℚ) ≤ den := by exact_mod_cast hnear.le
    rw [hsplit, abs_sub_comm, abs_of_nonneg] <;> linarith
  · rename_i hfar
    have hle : (den : ℚ) ≤ 2 * (num % den : Nat) := by exact_mod_cast Nat.le_of_not_lt hfar
    rw [hsplit, Nat.cast_add_one, abs_of_nonneg] <;> linarith

theorem fst_neighbours (x : Binary64) (exponent : Int) : (x.neighbours exponent).1 =
    ⟨nearerWhole (x.magnitude * 10 ^ (-exponent).toNat) (scale * 10 ^ exponent.toNat),
      exponent⟩ := by
  unfold neighbours nearerWhole
  simp only [Nat.pow_eq]
  split <;> rfl

theorem abs_neighbour_sub_le (x : Binary64) (exponent : Int) :
    2 * |(x.neighbours exponent).1.value * scale - x.magnitude| ≤ 10 ^ exponent * scale := by
  have hscale := cast_scale_pos
  have hden : 0 < scale * 10 ^ exponent.toNat := Nat.mul_pos scale_pos (Nat.pow_pos (by decide))
  have hnearer := @two_mul_abs_nearerWhole_le (x.magnitude * 10 ^ (-exponent).toNat) _ hden
  rw [fst_neighbours, Decimal.value]
  dsimp only
  generalize nearerWhole _ _ = digits at *
  -- Both sides are seen in steps of the denominator.
  have hpos : (0 : ℚ) < 10 ^ (-exponent).toNat := by positivity
  have hdistance : (digits * (scale * 10 ^ exponent.toNat : Nat) : ℚ) -
      (x.magnitude * 10 ^ (-exponent).toNat : Nat) =
        (digits * 10 ^ exponent * scale - x.magnitude) * 10 ^ (-exponent).toNat := by
    rw [ten_zpow_eq]
    push_cast
    field_simp
  have hstep : ((scale * 10 ^ exponent.toNat : Nat) : ℚ) =
      10 ^ exponent * scale * 10 ^ (-exponent).toNat := by
    rw [ten_zpow_eq]
    push_cast
    field_simp
  rw [hdistance, hstep, abs_mul, abs_of_pos hpos, ← mul_assoc] at hnearer
  exact le_of_mul_le_mul_right hnearer hpos

/-- A step of the seventeenth digit is smaller than the gap. -/
theorem pow_lt_gapBelow (hx : 0 < x.magnitude) :
    (10 : ℚ) ^ (decimalExponent x.magnitude scale - 17) * scale < x.gapBelow := by
  have hscale : (0 : ℚ) < scale := cast_scale_pos
  have hlead := pow_decimalExponent_le hx scale_pos
  rw [le_div_iff₀ hscale] at hlead
  have hgap : (x.magnitude : ℚ) ≤ 2 ^ 53 * x.gapBelow := by exact_mod_cast x.magnitude_le_gapBelow
  have hpos : (0 : ℚ) < x.gapBelow := Nat.cast_pos.2 x.gapBelow_pos
  have hexponent : decimalExponent x.magnitude scale - 17 =
      decimalExponent x.magnitude scale - 1 + -16 := by omega
  rw [hexponent, zpow_add₀ (by norm_num)]
  calc (10 : ℚ) ^ (decimalExponent x.magnitude scale - 1) * 10 ^ (-16 : Int) * scale
      = 10 ^ (decimalExponent x.magnitude scale - 1) * scale * 10 ^ (-16 : Int) := by ring
    _ ≤ 2 ^ 53 * x.gapBelow * 10 ^ (-16 : Int) :=
        mul_le_mul_of_nonneg_right (hlead.trans hgap) (by positivity)
    _ = 2 ^ 53 * 10 ^ (-16 : Int) * x.gapBelow := by ring
    _ < x.gapBelow := mul_lt_of_lt_one_left hpos (by norm_num)

theorem admits_of_decimalOfLength? {length : Nat} {d : Decimal}
    (h : x.decimalOfLength? length = some d) : x.admits d = true := by
  unfold decimalOfLength? at h
  dsimp only at h
  split at h
  · rename_i hadmits
    cases h
    exact hadmits
  · split at h
    · rename_i hadmits
      cases h
      exact hadmits
    · exact nomatch h

theorem near_shortestFrom (hx : 0 < x.magnitude) {length tries : Nat}
    (h : length + tries = 17) : x.Near ((x.shortestFrom length tries).value * scale) := by
  induction tries generalizing length with
  | zero =>
    obtain rfl : length = 17 := h
    exact near_of_lt hx ((x.abs_neighbour_sub_le _).trans_lt (pow_lt_gapBelow hx))
  | succ tries ih =>
    rw [shortestFrom]
    cases hfound : x.decimalOfLength? length with
    | none => exact ih (by omega)
    | some d => exact near_of_admits hx (admits_of_decimalOfLength? hfound)

theorem near_shortest (hx : 0 < x.magnitude) : x.Near (x.shortest.value * scale) := by
  have hnear := near_shortestFrom hx (rfl : 1 + 16 = 17)
  unfold shortest
  rw [if_neg (Nat.pos_iff_ne_zero.1 hx)]
  dsimp only
  rwa [Decimal.value_reduce]

theorem digits_shortest (hx : 0 < x.magnitude) : x.shortest.digits % 10 ≠ 0 := by
  have hnear := near_shortestFrom hx (rfl : 1 + 16 = 17)
  unfold shortest
  rw [if_neg (Nat.pos_iff_ne_zero.1 hx)]
  apply Decimal.digits_reduce
  intro hzero
  have hpos := hnear.pos
  rw [Decimal.value, hzero, Nat.cast_zero, zero_mul, zero_mul] at hpos
  exact lt_irrefl 0 hpos

end Search
end Binary64
end DesignCompiler
