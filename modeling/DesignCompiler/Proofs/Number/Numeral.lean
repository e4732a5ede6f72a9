import DesignCompiler.Proofs.Number.Characters
import Mathlib

set_option autoImplicit false

namespace DesignCompiler

/-- A decimal numeral without an exponent. -/
@[ext]
structure Numeral where
  negative : Bool
  whole : List Char
  fraction : List Char
  whole_ne_nil : whole ≠ []
  isDigit_whole : ∀ c ∈ whole, c.isDigit = true
  isDigit_fraction : ∀ c ∈ fraction, c.isDigit = true
  getLast?_fraction : fraction.getLast? ≠ some '0'

namespace Numeral

def tail (m : Numeral) : List Char := if m.fraction = [] then [] else '.' :: m.fraction

def magnitudeText (m : Numeral) : List Char := m.whole ++ m.tail

def text (m : Numeral) : List Char :=
  if m.negative then '-' :: m.magnitudeText else m.magnitudeText

def magnitude (m : Numeral) : ℚ :=
  Nat.ofDigitChars 10 m.whole 0 + Nat.ofDigitChars 10 m.fraction 0 / 10 ^ m.fraction.length

def value (m : Numeral) : ℚ := if m.negative then -m.magnitude else m.magnitude

def IsInteger (m : Numeral) : Prop := m.fraction = []

theorem takeWhile_magnitudeText (m : Numeral) :
    m.magnitudeText.takeWhile Char.isDigit = m.whole := by
  have htail : m.tail.takeWhile Char.isDigit = [] := by
    unfold tail
    split
    · rfl
    · exact List.takeWhile_cons_of_neg (by decide)
  rw [magnitudeText, List.takeWhile_append_of_pos m.isDigit_whole, htail, List.append_nil]

theorem tail_injective {m n : Numeral} (h : m.tail = n.tail) : m.fraction = n.fraction := by
  unfold tail at h
  split_ifs at h with hm hn hn
  · rw [hm, hn]
  · exact (List.cons.inj h).2

theorem head?_magnitudeText (m : Numeral) : m.magnitudeText.head? ≠ some '-' := by
  obtain ⟨c, cs, hwhole⟩ := List.exists_cons_of_ne_nil m.whole_ne_nil
  have hdigit := m.isDigit_whole c (hwhole ▸ List.mem_cons_self)
  rw [magnitudeText, hwhole, List.cons_append, List.head?_cons, Ne, Option.some.injEq]
  rintro rfl
  exact absurd hdigit (by decide)

theorem negative_iff (m : Numeral) : m.negative = true ↔ m.text.head? = some '-' := by
  unfold text
  split_ifs with h
  · simp [h]
  · simp [h, m.head?_magnitudeText]

theorem text_injective {m n : Numeral} (h : m.text = n.text) : m = n := by
  have hnegative : m.negative = n.negative := by
    rw [Bool.eq_iff_iff, negative_iff, negative_iff, h]
  have hmagnitude : m.magnitudeText = n.magnitudeText := by
    unfold text at h
    rw [hnegative] at h
    split_ifs at h
    · exact (List.cons.inj h).2
    · exact h
  have hwhole : m.whole = n.whole := by
    rw [← takeWhile_magnitudeText, hmagnitude, takeWhile_magnitudeText]
  have htail : m.tail = n.tail := by
    rw [magnitudeText, magnitudeText, hwhole] at hmagnitude
    exact List.append_cancel_left hmagnitude
  exact Numeral.ext hnegative hwhole (tail_injective htail)

end Numeral

theorem decimal_eq_toDigits (n : Nat) : decimal n = Nat.toDigits 10 n := by
  have hdigit : ∀ d < 10, Char.ofNat (48 + d) = d.digitChar := by decide
  induction n using Nat.strongRecOn with
  | ind n ih =>
    rw [decimal, Nat.toDigits_eq_if (by decide)]
    split
    · rename_i hn
      rw [hdigit n hn]
    · rw [ih (n / 10) (by omega), hdigit (n % 10) (Nat.mod_lt n (by decide))]

theorem ofDigitChars_decimal (n : Nat) : Nat.ofDigitChars 10 (decimal n) 0 = n := by
  rw [decimal_eq_toDigits, Nat.ofDigitChars_ten_toDigits]

theorem decimal_ne_nil (n : Nat) : decimal n ≠ [] := by
  rw [decimal_eq_toDigits]
  exact Nat.toDigits_ne_nil

theorem getLast?_decimal {n : Nat} (h : n % 10 ≠ 0) : (decimal n).getLast? ≠ some '0' := by
  have hdigit : ∀ d < 10, d ≠ 0 → Char.ofNat (48 + d) ≠ '0' := by decide
  rw [decimal]
  split
  · rename_i hn
    rw [List.getLast?_singleton, Ne, Option.some.injEq]
    exact hdigit n hn (by omega)
  · rw [List.getLast?_concat, Ne, Option.some.injEq]
    exact hdigit (n % 10) (Nat.mod_lt n (by decide)) h

theorem exists_numeral_decimalInt (n : Int) :
    ∃ m : Numeral, m.text = decimalInt n ∧ m.IsInteger ∧ m.value = n := by
  refine ⟨⟨decide (n < 0), decimal n.natAbs, [], decimal_ne_nil _, isDigit_of_mem_decimal _,
    List.forall_mem_nil _, nofun⟩, ?_, rfl, ?_⟩
  · simp [Numeral.text, Numeral.magnitudeText, Numeral.tail, decimalInt]
  · have habs : ((n.natAbs : Nat) : ℚ) = |(n : ℚ)| := by rw [Nat.cast_natAbs, Int.cast_abs]
    simp only [Numeral.value, Numeral.magnitude, ofDigitChars_decimal, habs, decide_eq_true_eq,
      Nat.ofDigitChars_nil, Nat.cast_zero, zero_div, add_zero]
    split
    · rename_i hn
      rw [abs_of_neg (Int.cast_lt_zero.2 hn), neg_neg]
    · rename_i hn
      rw [abs_of_nonneg (Int.cast_nonneg (not_lt.1 hn))]

theorem ten_zpow_eq (exponent : Int) :
    (10 : ℚ) ^ exponent = 10 ^ exponent.toNat / 10 ^ (-exponent).toNat := by
  by_cases h : 0 ≤ exponent
  · have hzero : (-exponent).toNat = 0 := by omega
    rw [hzero, pow_zero, div_one, ← zpow_natCast, Int.toNat_of_nonneg h]
  · have hzero : exponent.toNat = 0 := by omega
    rw [hzero, pow_zero, one_div, ← zpow_natCast, ← zpow_neg, Int.toNat_of_nonneg (by omega),
      neg_neg]

namespace Decimal

def value (d : Decimal) : ℚ := d.digits * 10 ^ d.exponent

def places (d : Decimal) : Nat := (-d.exponent).toNat

/-- All digits of the positional notation, with zeros up to the point on either side. -/
def padded (d : Decimal) : List Char :=
  List.replicate (d.places + 1 - (decimal d.digits).length) '0' ++
    (decimal d.digits ++ List.replicate d.exponent.toNat '0')

def wholePart (d : Decimal) : List Char := d.padded.take (d.padded.length - d.places)

def fractionPart (d : Decimal) : List Char := d.padded.drop (d.padded.length - d.places)

section
variable (d : Decimal)

theorem value_eq_num_div_den : d.value = d.num / d.den := by
  unfold value num den
  rw [ten_zpow_eq, Nat.pow_eq, Nat.pow_eq, mul_div_assoc']
  push_cast
  rfl

theorem places_lt_length_padded : d.places < d.padded.length := by
  unfold padded
  rw [List.length_append, List.length_append, List.length_replicate]
  omega

theorem isDigit_padded : ∀ c ∈ d.padded, c.isDigit = true := by
  have hzeros (n : Nat) : ∀ c ∈ List.replicate n '0', c.isDigit = true := by
    intro c hc
    rw [List.eq_of_mem_replicate hc]
    rfl
  intro c hc
  rcases List.mem_append.1 hc with hc | hc
  · exact hzeros _ c hc
  · exact (List.mem_append.1 hc).elim (isDigit_of_mem_decimal d.digits c) (hzeros _ c)

theorem ofDigitChars_padded : Nat.ofDigitChars 10 d.padded 0 = d.num := by
  unfold padded num
  rw [Nat.ofDigitChars_append, Nat.ofDigitChars_replicate_zero, Nat.mul_zero,
    Nat.ofDigitChars_append, ofDigitChars_decimal, Nat.ofDigitChars_replicate_zero, Nat.pow_eq,
    Nat.mul_comm]

theorem length_fractionPart : d.fractionPart.length = d.places := by
  have hlength := d.places_lt_length_padded
  rw [fractionPart, List.length_drop]
  omega

theorem value_eq_parts : (Nat.ofDigitChars 10 d.wholePart 0 : ℚ) +
    Nat.ofDigitChars 10 d.fractionPart 0 / 10 ^ d.fractionPart.length = d.value := by
  have hparts : 10 ^ d.places * Nat.ofDigitChars 10 d.wholePart 0 +
      Nat.ofDigitChars 10 d.fractionPart 0 = d.num := by
    rw [← ofDigitChars_padded, ← List.take_append_drop (d.padded.length - d.places) d.padded,
      Nat.ofDigitChars_append]
    exact (d.length_fractionPart ▸ Nat.ofDigitChars_eq_ofDigitChars_zero).symm
  have hden : (d.den : ℚ) = 10 ^ d.places := by
    rw [den, places, Nat.pow_eq]
    push_cast
    rfl
  have hpos : (0 : ℚ) < 10 ^ d.places := by positivity
  rw [value_eq_num_div_den, hden, length_fractionPart, ← hparts]
  push_cast
  field_simp

theorem padded_eq (h : d.exponent < 0) : d.padded =
    List.replicate (d.places + 1 - (decimal d.digits).length) '0' ++ decimal d.digits := by
  have hnone : d.exponent.toNat = 0 := by omega
  rw [padded, hnone, List.replicate_zero, List.append_nil]

theorem positional_eq_parts : d.positional =
    d.wholePart ++ if d.fractionPart = [] then [] else '.' :: d.fractionPart := by
  have hlength := d.length_fractionPart
  unfold positional
  dsimp only
  by_cases hexponent : 0 ≤ d.exponent
  · have hplaces : d.places = 0 := by unfold places; omega
    have hdigits : 0 < (decimal d.digits).length := List.length_pos_of_ne_nil (decimal_ne_nil _)
    have hnone : 0 + 1 - (decimal d.digits).length = 0 := by omega
    rw [if_pos hexponent, if_pos (List.length_eq_zero_iff.1 (hlength.trans hplaces)),
      List.append_nil, wholePart, hplaces, Nat.sub_zero, List.take_length, padded, hplaces, hnone]
    rfl
  · have hplaces : 0 < d.places := by unfold places; omega
    have hne : d.fractionPart ≠ [] := List.ne_nil_of_length_pos (hlength ▸ hplaces)
    rw [if_neg hexponent, if_neg hne, wholePart, fractionPart, d.padded_eq (by omega)]
    change (if d.places < _ then _ else _) = _
    split
    · rename_i hinside
      have hnone : d.places + 1 - (decimal d.digits).length = 0 := by omega
      rw [hnone]
      rfl
    · rename_i hinside
      have hsome : d.places + 1 - (decimal d.digits).length =
          d.places - (decimal d.digits).length + 1 := by omega
      have hfirst : d.places - (decimal d.digits).length + 1 + (decimal d.digits).length -
          d.places = 1 := by omega
      rw [hsome, List.length_append, List.length_replicate, hfirst, List.replicate_succ]
      rfl

theorem getLast?_fractionPart (h : d.digits % 10 ≠ 0) : d.fractionPart.getLast? ≠ some '0' := by
  have hlength := d.length_fractionPart
  by_cases hexponent : d.exponent < 0
  · have hnot : ¬ d.padded.length ≤ d.padded.length - d.places := by
      have hlt := d.places_lt_length_padded
      unfold places at *
      omega
    rw [fractionPart, List.getLast?_drop, if_neg hnot, d.padded_eq hexponent,
      List.getLast?_append_of_ne_nil _ (decimal_ne_nil d.digits)]
    exact getLast?_decimal h
  · have hplaces : d.places = 0 := by unfold places; omega
    rw [List.length_eq_zero_iff.1 (hlength.trans hplaces)]
    exact nofun

theorem exists_numeral_positional (negative : Bool) (h : d.digits % 10 ≠ 0) :
    ∃ m : Numeral, m.text = (if negative then '-' :: d.positional else d.positional) ∧
      m.value = if negative then -d.value else d.value := by
  have hlength := d.places_lt_length_padded
  have hne : d.wholePart ≠ [] := by
    apply List.ne_nil_of_length_pos
    rw [wholePart, List.length_take]
    omega
  refine ⟨⟨negative, d.wholePart, d.fractionPart, hne,
    fun c hc => d.isDigit_padded c (List.mem_of_mem_take hc),
    fun c hc => d.isDigit_padded c (List.mem_of_mem_drop hc), d.getLast?_fractionPart h⟩, ?_, ?_⟩
  · rw [positional_eq_parts]
    rfl
  · rw [← value_eq_parts]
    rfl

end
end Decimal
end DesignCompiler
