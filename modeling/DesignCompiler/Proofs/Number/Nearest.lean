import DesignCompiler.Proofs.Number.Rounding

set_option autoImplicit false

/-!
# The nearest number

Rounding is said without an algorithm: no finite number is nearer, and of two that are equally near
the one with the even significand is taken. What is at most half way to the neighbours of a number
rounds to it, where the neighbour below a power of two is half as far away as the one above.
-/
namespace DesignCompiler.Binary64

attribute [local irreducible] scale

section Gaps
variable {x y : Binary64}

theorem significand_lt (x : Binary64) : x.significand < 2 ^ 53 := by
  have hfraction : x.fraction < 2 ^ 52 := Nat.mod_lt _ (Nat.two_pow_pos 52)
  unfold significand
  rw [Nat.pow_eq]
  split <;> omega

theorem le_significand (h : x.unit ≠ 0) : 2 ^ 52 ≤ x.significand := by
  unfold unit at h
  unfold significand
  rw [if_neg (by omega), Nat.pow_eq]
  exact Nat.le_add_right _ _

theorem unit_le (h : x.isFinite = true) : x.unit ≤ 2045 := by
  have hfield : x.exponentField < 2 ^ 11 := Nat.mod_lt _ (Nat.two_pow_pos 11)
  unfold isFinite at h
  rw [bne_iff_ne] at h
  unfold unit
  omega

theorem magnitude_eq (x : Binary64) : x.magnitude = x.significand * 2 ^ x.unit := rfl

theorem magnitude_lt (x : Binary64) : x.magnitude < 2 ^ 53 * 2 ^ x.unit :=
  Nat.mul_lt_mul_of_pos_right x.significand_lt (Nat.two_pow_pos _)

theorem two_pow_dvd_magnitude {u : Nat} (h : u ≤ x.unit) : 2 ^ u ∣ x.magnitude :=
  Dvd.dvd.mul_left (pow_dvd_pow 2 h) x.significand

theorem magnitude_lt_of_unit_lt {u : Nat} (h : x.unit < u) : x.magnitude < 2 ^ 52 * 2 ^ u := by
  calc x.magnitude < 2 ^ 53 * 2 ^ x.unit := x.magnitude_lt
    _ = 2 ^ 52 * 2 ^ (x.unit + 1) := by rw [Nat.pow_succ']; ring
    _ ≤ 2 ^ 52 * 2 ^ u := Nat.mul_le_mul_left _ (Nat.pow_le_pow_right (by decide) h)

theorem add_le_of_dvd {a b g : Nat} (ha : g ∣ a) (hb : g ∣ b) (h : a < b) : a + g ≤ b := by
  have hmod : a ≡ b [MOD g] :=
    (Nat.modEq_zero_iff_dvd.2 ha).trans (Nat.modEq_zero_iff_dvd.2 hb).symm
  exact hmod.add_le_of_lt h

theorem magnitude_add_unit_le (h : x.magnitude < y.magnitude) :
    x.magnitude + 2 ^ x.unit ≤ y.magnitude := by
  by_cases hunit : x.unit ≤ y.unit
  · exact add_le_of_dvd (two_pow_dvd_magnitude le_rfl) (two_pow_dvd_magnitude hunit) h
  · have hnormal : 2 ^ 52 * 2 ^ x.unit ≤ x.magnitude :=
      Nat.mul_le_mul_right _ (le_significand (by omega))
    have hy := @magnitude_lt_of_unit_lt y x.unit (by omega)
    omega

/-- The distance to the next smaller magnitude. -/
def gapBelow (x : Binary64) : Nat :=
  if x.significand = 2 ^ 52 ∧ x.unit ≠ 0 then 2 ^ (x.unit - 1) else 2 ^ x.unit

theorem gapBelow_pos (x : Binary64) : 0 < x.gapBelow := by
  unfold gapBelow
  split <;> exact Nat.two_pow_pos _

theorem gapBelow_le (x : Binary64) : x.gapBelow ≤ 2 ^ x.unit := by
  unfold gapBelow
  split
  · exact Nat.pow_le_pow_right (by decide) (Nat.sub_le _ _)
  · exact le_rfl

theorem magnitude_add_gapBelow_le (h : y.magnitude < x.magnitude) :
    y.magnitude + x.gapBelow ≤ x.magnitude := by
  unfold gapBelow
  split
  · -- In the binade below, the same magnitude has twice the significand.
    rename_i hleast
    obtain ⟨hsignificand, hunit⟩ := hleast
    by_cases hy : x.unit - 1 ≤ y.unit
    · exact add_le_of_dvd (two_pow_dvd_magnitude hy) (two_pow_dvd_magnitude (Nat.sub_le _ _)) h
    · have hlt := @magnitude_lt_of_unit_lt y (x.unit - 1) (by omega)
      have hx : x.magnitude = 2 ^ 53 * 2 ^ (x.unit - 1) := by
        rw [magnitude_eq, hsignificand, ← Nat.pow_add, ← Nat.pow_add]
        congr 1
        omega
      omega
  · rename_i hleast
    by_cases hy : x.unit ≤ y.unit
    · exact add_le_of_dvd (two_pow_dvd_magnitude hy) (two_pow_dvd_magnitude le_rfl) h
    · have hnormal := @le_significand x (by omega)
      have hlt := @magnitude_lt_of_unit_lt y x.unit (by omega)
      have hx : (2 ^ 52 + 1) * 2 ^ x.unit ≤ x.magnitude := Nat.mul_le_mul_right _ (by omega)
      omega

theorem magnitude_le_gapBelow (x : Binary64) : x.magnitude ≤ 2 ^ 53 * x.gapBelow := by
  unfold gapBelow
  split
  · rename_i hleast
    obtain ⟨hsignificand, hunit⟩ := hleast
    rw [magnitude_eq, hsignificand, ← Nat.pow_add, ← Nat.pow_add]
    exact Nat.pow_le_pow_right (by decide) (by omega)
  · exact Nat.le_of_lt x.magnitude_lt

end Gaps

def value (x : Binary64) : ℚ := x.scaled / scale

/-- A magnitude, in multiples of the smallest positive number, that is at most half way to the
neighbours of a finite number; the ends count when the significand is even. -/
structure Near (x : Binary64) (t : ℚ) : Prop where
  pos : 0 < t
  low : 2 * x.magnitude - x.gapBelow ≤ 2 * t
  high : 2 * t ≤ 2 * x.magnitude + 2 ^ x.unit
  strict : x.significand % 2 = 1 →
    2 * x.magnitude - x.gapBelow ≠ 2 * t ∧ 2 * t ≠ 2 * x.magnitude + 2 ^ x.unit

/-- An exact number rounds to a finite one: it is below the half way to overflow, no finite number
is nearer, and if another one is equally near then the significand is even. -/
structure RoundsTo (q : ℚ) (x : Binary64) : Prop where
  isFinite : x.isFinite = true
  bounded : |q| < 2 ^ 1024 - 2 ^ 970
  nearest : ∀ y : Binary64, y.isFinite = true → |q - x.value| ≤ |q - y.value|
  even : ∀ y : Binary64, y.isFinite = true → |q - y.value| = |q - x.value| → y.value ≠ x.value →
    x.significand % 2 = 0

section Near
variable {x y : Binary64} {t : ℚ}

theorem Near.even_of_end (h : x.Near t) (hend : 2 * (x.magnitude : ℚ) - x.gapBelow = 2 * t ∨
    2 * t = 2 * x.magnitude + 2 ^ x.unit) : x.significand % 2 = 0 := by
  by_contra hodd
  obtain ⟨hlow, hhigh⟩ := h.strict (by omega)
  exact hend.elim hlow hhigh

theorem Near.nearest (h : x.Near t) (y : Binary64) :
    |t - x.magnitude| ≤ |t - y.magnitude| ∧
      (|t - y.magnitude| = |t - x.magnitude| → y.magnitude ≠ x.magnitude →
        x.significand % 2 = 0) := by
  have hlow := h.low
  have hhigh := h.high
  have hgap : (0 : ℚ) < x.gapBelow := Nat.cast_pos.2 x.gapBelow_pos
  have hunit : (0 : ℚ) < 2 ^ x.unit := by positivity
  rcases lt_trichotomy x.magnitude y.magnitude with hlt | heq | hgt
  · have hnext : (x.magnitude : ℚ) + 2 ^ x.unit ≤ y.magnitude := by
      exact_mod_cast magnitude_add_unit_le hlt
    have hy : |t - y.magnitude| = y.magnitude - t := by
      rw [abs_sub_comm, abs_of_nonneg (by linarith)]
    rw [hy]
    refine ⟨abs_sub_le_iff.2 ⟨by linarith, by linarith⟩, fun htie _ => h.even_of_end (.inr ?_)⟩
    rcases abs_choice (t - x.magnitude) with habs | habs <;> linarith
  · rw [heq]
    exact ⟨le_rfl, fun _ hne => absurd rfl hne⟩
  · have hnext : (y.magnitude : ℚ) + x.gapBelow ≤ x.magnitude := by
      exact_mod_cast magnitude_add_gapBelow_le hgt
    have hy : |t - y.magnitude| = t - y.magnitude := abs_of_nonneg (by linarith)
    rw [hy]
    refine ⟨abs_sub_le_iff.2 ⟨by linarith, by linarith⟩, fun htie _ => h.even_of_end (.inl ?_)⟩
    rcases abs_choice (t - x.magnitude) with habs | habs <;> linarith

theorem Near.lt_overflow (h : x.Near t) (hx : x.isFinite = true) :
    t < (2 ^ 54 - 1) * 2 ^ 2044 := by
  have hpos : (0 : ℚ) < 2 ^ x.unit := by positivity
  have hhigh : 2 * t ≤ (2 * x.significand + 1) * 2 ^ x.unit := by
    refine h.high.trans_eq ?_
    rw [magnitude_eq]
    push_cast
    ring
  have hlt := x.significand_lt
  have hbound : 2 * t < (2 ^ 54 - 1) * 2 ^ x.unit := by
    by_cases hodd : x.significand % 2 = 1
    · have hne : 2 * t ≠ (2 * x.significand + 1) * 2 ^ x.unit := by
        have hend := (h.strict hodd).2
        rw [magnitude_eq] at hend
        push_cast at hend
        exact fun heq => hend (heq.trans (by ring))
      have hle : (2 * x.significand + 1 : ℚ) ≤ 2 ^ 54 - 1 := by
        have hcast : (x.significand + 1 : ℚ) ≤ 2 ^ 53 := by exact_mod_cast hlt
        linarith
      exact (lt_of_le_of_ne hhigh hne).trans_le (mul_le_mul_of_nonneg_right hle hpos.le)
    · have heven : (2 * x.significand + 1 : ℚ) < 2 ^ 54 - 1 := by
        have hnat : x.significand + 2 ≤ 2 ^ 53 := by omega
        have hcast : (x.significand + 2 : ℚ) ≤ 2 ^ 53 := by exact_mod_cast hnat
        linarith
      exact hhigh.trans_lt (mul_lt_mul_of_pos_right heven hpos)
  have hunit : (2 : ℚ) ^ x.unit ≤ 2 * 2 ^ 2044 := by
    rw [← pow_succ']
    exact pow_le_pow_right₀ (by norm_num) (unit_le hx)
  have htwo : 2 * t < 2 * ((2 ^ 54 - 1) * 2 ^ 2044) := by
    calc 2 * t < (2 ^ 54 - 1) * 2 ^ x.unit := hbound
      _ ≤ (2 ^ 54 - 1) * (2 * 2 ^ 2044) := mul_le_mul_of_nonneg_left hunit (by norm_num)
      _ = 2 * ((2 ^ 54 - 1) * 2 ^ 2044) := mul_left_comm _ _ _
  exact lt_of_mul_lt_mul_left htwo (by norm_num)

end Near

theorem abs_scaled (x : Binary64) : |x.scaled| = x.magnitude := by
  unfold scaled
  split
  · rw [abs_neg, Nat.abs_cast]
  · exact Nat.abs_cast _

theorem abs_value (x : Binary64) : |x.value| = x.magnitude / scale := by
  rw [value, abs_div, Nat.abs_cast, ← Int.cast_abs, abs_scaled, Int.cast_natCast]

theorem cast_scale : (scale : ℚ) = 2 ^ 1074 := by
  unfold scale
  generalize 1074 = e
  rw [Nat.pow_eq, Nat.cast_pow, Nat.cast_ofNat]

theorem cast_scale_pos : (0 : ℚ) < scale := Nat.cast_pos.2 scale_pos

theorem overflow_eq : ((2 ^ 54 - 1) * 2 ^ 2044 : ℚ) = (2 ^ 1024 - 2 ^ 970) * scale := by
  simp only [cast_scale, sub_mul, one_mul, ← pow_add, Nat.reduceAdd]

section Facing
variable (x y : Binary64)

/-- A number as it is seen from the sign of another one. -/
def facing : Int := if x.negative then -y.scaled else y.scaled

theorem abs_facing : |x.facing y| = y.magnitude := by
  rw [facing, apply_ite abs, abs_neg, ite_self, abs_scaled]

theorem facing_self : x.facing x = x.magnitude := by
  unfold facing scaled
  split
  · exact neg_neg _
  · rfl

theorem value_eq_of_facing_eq {x y : Binary64} (h : x.facing y = x.facing x) :
    y.value = x.value := by
  unfold facing at h
  unfold value
  split at h
  · rw [neg_inj.1 h]
  · rw [h]

theorem distance_eq (q : ℚ) : |(if x.negative then -q else q) - y.value| * scale =
    |q * scale - x.facing y| := by
  have hy : y.value * scale = y.scaled := div_mul_cancel₀ _ cast_scale_pos.ne'
  nth_rewrite 1 [← abs_of_pos cast_scale_pos]
  rw [← abs_mul, sub_mul, hy, facing]
  split
  · rw [← abs_neg]
    push_cast
    ring_nf
  · rfl

theorem distance_self (q : ℚ) : |(if x.negative then -q else q) - x.value| * scale =
    |q * scale - x.magnitude| := by
  rw [distance_eq, facing_self, Int.cast_natCast]

theorem distance_magnitude_le {t : ℚ} (ht : 0 < t) : |t - y.magnitude| ≤ |t - x.facing y| := by
  have hsides := abs_abs_sub_abs_le t (x.facing y : ℚ)
  rwa [← Int.cast_abs, abs_facing, Int.cast_natCast, abs_of_pos ht] at hsides

end Facing

theorem facing_eq_of_tie {x y : Binary64} {t : ℚ} (ht : 0 < t) (hy : y.magnitude = x.magnitude)
    (h : |t - x.facing y| = |t - x.magnitude|) : x.facing y = x.magnitude := by
  have habs : |x.facing y| = (x.magnitude : Int) := by rw [abs_facing, hy]
  refine (eq_or_eq_neg_of_abs_eq habs).elim id fun hopposite => ?_
  have hnonneg : (0 : ℚ) ≤ x.magnitude := Nat.cast_nonneg _
  rw [hopposite, Int.cast_neg, Int.cast_natCast, sub_neg_eq_add, abs_of_nonneg (by linarith)] at h
  have hzero : (x.magnitude : ℚ) = 0 := by
    rcases abs_choice (t - x.magnitude) with hsame | hsame <;> linarith
  rw [hopposite, Nat.cast_eq_zero.1 hzero]
  rfl

/-- What is near the magnitude rounds to the number, once it has its sign. -/
theorem roundsTo_of_near {x : Binary64} {q : ℚ} (hx : x.isFinite = true) (h : x.Near (q * scale)) :
    RoundsTo (if x.negative then -q else q) x := by
  have hscale := cast_scale_pos
  have hq : 0 < q := pos_of_mul_pos_left h.pos hscale.le
  refine ⟨hx, ?_, fun y hy => ?_, fun y hy htie hne => ?_⟩
  · rw [apply_ite abs, abs_neg, ite_self, abs_of_pos hq]
    exact lt_of_mul_lt_mul_right (overflow_eq ▸ h.lt_overflow hx) hscale.le
  · refine le_of_mul_le_mul_right ?_ hscale
    rw [distance_self, distance_eq]
    exact (h.nearest y).1.trans (x.distance_magnitude_le y h.pos)
  · have hequal : |q * scale - x.facing y| = |q * scale - x.magnitude| := by
      rw [← distance_self, ← distance_eq, htie]
    by_cases hmagnitude : y.magnitude = x.magnitude
    · refine absurd (value_eq_of_facing_eq ?_) hne
      rw [facing_eq_of_tie h.pos hmagnitude hequal, facing_self]
    · have hle := (x.distance_magnitude_le y h.pos).trans_eq hequal
      exact (h.nearest y).2 (hle.antisymm (h.nearest y).1) hmagnitude

end DesignCompiler.Binary64
