import DesignCompiler.Number.Text

set_option autoImplicit false

namespace DesignCompiler

theorem isDigit_ofNat (n : Nat) (h : n < 10) : (Char.ofNat (48 + n)).isDigit = true := by
  revert n
  decide

theorem isDigit_of_mem_decimal (n : Nat) : ∀ c ∈ decimal n, c.isDigit = true := by
  induction n using Nat.strongRecOn with
  | ind n ih =>
    intro c hc
    rw [decimal] at hc
    split at hc
    · rename_i hn
      rw [List.mem_singleton.1 hc]
      exact isDigit_ofNat n hn
    · rename_i hn
      rcases List.mem_append.1 hc with hc | hc
      · exact ih (n / 10) (by omega) c hc
      · rw [List.mem_singleton.1 hc]
        exact isDigit_ofNat (n % 10) (by omega)

def isNumberChar (c : Char) : Bool := c.isDigit || "-.infNa".toList.contains c

theorem isNumberChar_of_mem_decimal (n : Nat) : ∀ c ∈ decimal n, isNumberChar c = true :=
  fun c hc => by simp [isNumberChar, isDigit_of_mem_decimal n c hc]

theorem isNumberChar_of_mem_decimalInt (n : Int) : ∀ c ∈ decimalInt n, isNumberChar c = true := by
  intro c hc
  rw [decimalInt] at hc
  split at hc
  · rcases List.mem_cons.1 hc with rfl | hc
    · rfl
    · exact isNumberChar_of_mem_decimal _ c hc
  · exact isNumberChar_of_mem_decimal _ c hc

theorem isNumberChar_of_mem_positional (d : Decimal) :
    ∀ c ∈ d.positional, isNumberChar c = true := by
  have hdigits := isNumberChar_of_mem_decimal d.digits
  have hzeros (n : Nat) : ∀ c ∈ List.replicate n '0', isNumberChar c = true := by
    intro c hc
    rw [List.eq_of_mem_replicate hc]
    rfl
  intro c hc
  simp only [Decimal.positional] at hc
  split at hc
  · exact (List.mem_append.1 hc).elim (hdigits c) (hzeros _ c)
  · split at hc
    · rcases List.mem_append.1 hc with hc | hc
      · exact hdigits c (List.mem_of_mem_take hc)
      · rcases List.mem_cons.1 hc with rfl | hc
        · rfl
        · exact hdigits c (List.mem_of_mem_drop hc)
    · rcases List.mem_cons.1 hc with rfl | hc
      · rfl
      · rcases List.mem_cons.1 hc with rfl | hc
        · rfl
        · exact (List.mem_append.1 hc).elim (hzeros _ c) (hdigits c)

namespace Binary64

theorem isNumberChar_of_mem_plain (x : Binary64) : ∀ c ∈ x.plain, isNumberChar c = true := by
  have hmagnitude : ∀ c ∈ if x.isInfinite then "inf".toList else x.shortest.positional,
      isNumberChar c = true := by
    split
    · exact List.all_eq_true.1 (by decide)
    · exact isNumberChar_of_mem_positional x.shortest
  intro c hc
  simp only [plain, textWith] at hc
  split at hc
  · exact List.all_eq_true.1 (by decide) c hc
  · split at hc
    · rcases List.mem_cons.1 hc with rfl | hc
      · rfl
      · exact hmagnitude c hc
    · exact hmagnitude c hc

theorem isNumberChar_of_mem_format (x : Binary64) : ∀ c ∈ x.format, isNumberChar c = true := by
  rw [format]
  split
  · exact isNumberChar_of_mem_decimalInt _
  · exact x.isNumberChar_of_mem_plain

end Binary64
end DesignCompiler
