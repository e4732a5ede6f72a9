import DesignCompiler.Proofs.Text.Utf8
import DesignCompiler.Url.Percent

set_option autoImplicit false

namespace DesignCompiler.Url

def IsGraphic (c : Char) : Prop := 0x21 ≤ c.toNat ∧ c.toNat ≤ 0x7E

instance : DecidablePred IsGraphic := fun _ => inferInstanceAs (Decidable (_ ∧ _))

theorem IsGraphic.toNat_lt {c : Char} (h : IsGraphic c) : c.toNat < 0x80 :=
  Nat.lt_of_le_of_lt h.2 (by decide)

theorem isGraphic_of_isAlphanum {c : Char} (h : c.isAlphanum = true) : IsGraphic c := by
  delta Char.isAlphanum Char.isAlpha Char.isUpper Char.isLower Char.isDigit at h
  simp only [Bool.or_eq_true, Bool.and_eq_true, decide_eq_true_eq, ge_iff_le,
    UInt32.le_iff_toNat_le] at h
  have hranges : (65 ≤ c.toNat ∧ c.toNat ≤ 90 ∨ 97 ≤ c.toNat ∧ c.toNat ≤ 122) ∨
      48 ≤ c.toNat ∧ c.toNat ≤ 57 := h
  rw [IsGraphic]
  omega

theorem inPathSet_eq_false_iff {c : Char} : inPathSet c = false ↔
    IsGraphic c ∧ c ∉ ['"', '#', '<', '>', '?', '\x60', '{', '}'] := by
  have hblank : c = ' ' ↔ c.toNat = 0x20 := by
    rw [← Char.toNat_inj]
    rfl
  have hgraphic : isControl c = false ∧ c ≠ ' ' ↔ IsGraphic c := by
    rw [IsGraphic, isControl, Bool.or_eq_false_iff, decide_eq_false_iff_not, decide_eq_false_iff_not, ne_eq,
      hblank]
    omega
  rw [← hgraphic]
  simp only [inPathSet, Bool.or_eq_false_iff, decide_eq_false_iff_not, ne_eq, List.mem_cons,
    List.not_mem_nil, or_false, not_or, and_assoc]

theorem inPathSet_hexDigitUpper : ∀ n < 16,
    inPathSet (hexDigitUpper n) = false ∧ hexDigitUpper n ≠ '/' := by
  decide

theorem inPathSet_of_mem_percentByte {b : UInt8} {c : Char} (h : c ∈ percentByte b) :
    inPathSet c = false ∧ c ≠ '/' := by
  have hb : b.toNat < 256 := b.toNat_lt
  simp only [percentByte, List.mem_cons, List.not_mem_nil, or_false] at h
  rcases h with rfl | rfl | rfl
  · decide
  · exact inPathSet_hexDigitUpper _ (by omega)
  · exact inPathSet_hexDigitUpper _ (by omega)

theorem inPathSet_of_mem_percentEncode {cs : List Char} (hcs : '/' ∉ cs) {c : Char}
    (h : c ∈ percentEncode inPathSet cs) : inPathSet c = false ∧ c ≠ '/' := by
  obtain ⟨d, hd, hc⟩ := List.mem_flatMap.1 h
  split at hc
  · obtain ⟨b, -, hc⟩ := List.mem_flatMap.1 hc
    exact inPathSet_of_mem_percentByte hc
  · rename_i hkept
    obtain rfl := List.mem_singleton.1 hc
    exact ⟨by simpa using hkept, fun hslash => hcs (hslash ▸ hd)⟩

theorem percentEncode_eq_self {p : Char → Bool} {cs : List Char} (h : ∀ c ∈ cs, p c = false) :
    percentEncode p cs = cs := by
  induction cs with
  | nil => rfl
  | cons c cs ih =>
    rw [percentEncode, List.flatMap_cons, ← percentEncode, h c List.mem_cons_self,
      ih fun d hd => h d (List.mem_cons_of_mem c hd)]
    rfl

theorem hexDigitValue?_eq_some {b v : UInt8} (h : hexDigitValue? b = some v) :
    v.toNat < 10 ∧ b.toNat = v.toNat + 48 ∨
      (10 ≤ v.toNat ∧ v.toNat < 16) ∧ (b.toNat = v.toNat + 55 ∨ b.toNat = v.toNat + 87) := by
  have hsub (n : UInt8) (hlow : n.toNat ≤ b.toNat) : (b - n).toNat = b.toNat - n.toNat :=
    UInt8.toNat_sub_of_le b n hlow
  simp only [hexDigitValue?, Bool.and_eq_true, decide_eq_true_eq] at h
  split at h
  · rename_i hrange
    have hbounds : 48 ≤ b.toNat ∧ b.toNat ≤ 57 := hrange
    have hvalue : (b - 48).toNat = b.toNat - 48 := hsub 48 hbounds.1
    obtain rfl := Option.some.inj h
    omega
  · split at h
    · rename_i hrange
      have hbounds : 65 ≤ b.toNat ∧ b.toNat ≤ 70 := hrange
      have hvalue : (b - 55).toNat = b.toNat - 55 := hsub 55 (Nat.le_trans (by decide) hbounds.1)
      obtain rfl := Option.some.inj h
      omega
    · split at h
      · rename_i hrange
        have hbounds : 97 ≤ b.toNat ∧ b.toNat ≤ 102 := hrange
        have hvalue : (b - 87).toNat = b.toNat - 87 := hsub 87 (Nat.le_trans (by decide) hbounds.1)
        obtain rfl := Option.some.inj h
        omega
      · cases h

theorem hexByte?_eq_some {high low b : UInt8} (h : hexByte? high low = some b) :
    ∃ v w : UInt8, hexDigitValue? high = some v ∧ hexDigitValue? low = some w ∧
      b.toNat = v.toNat * 16 + w.toNat := by
  unfold hexByte? at h
  cases hv : hexDigitValue? high with
  | none => simp [hv] at h
  | some v =>
    cases hw : hexDigitValue? low with
    | none => simp [hv, hw] at h
    | some w =>
      refine ⟨v, w, rfl, rfl, ?_⟩
      have hvalue : v * 16 + w = b := by simpa [hv, hw] using h
      have hvlt := hexDigitValue?_eq_some hv
      have hwlt := hexDigitValue?_eq_some hw
      rw [← hvalue, UInt8.toNat_add, UInt8.toNat_mul]
      simp only [UInt8.reduceToNat]
      omega

/-- The writings of a byte: the byte itself, or a percent sign and two digits. -/
inductive WritesByte (b : UInt8) : List UInt8 → Prop where
  | plain : WritesByte b [b]
  | digits {high low : UInt8} (h : hexByte? high low = some b) : WritesByte b [37, high, low]

theorem exists_writesByte {bs : List UInt8} {b : UInt8} {rest : List UInt8}
    (h : percentDecode bs = b :: rest) :
    ∃ written tail, bs = written ++ tail ∧ WritesByte b written ∧ percentDecode tail = rest := by
  unfold percentDecode at h
  split at h
  · cases h
  · split at h
    · rename_i first behind hpercent
      split at h
      · split at h
        · rename_i x hx
          obtain ⟨rfl, hrest⟩ := List.cons.inj h
          exact ⟨_, _, by rw [hpercent]; rfl, .digits hx, hrest⟩
        · obtain ⟨rfl, hrest⟩ := List.cons.inj h
          exact ⟨[first], _, rfl, .plain, hrest⟩
      · obtain ⟨rfl, hrest⟩ := List.cons.inj h
        exact ⟨[first], _, rfl, .plain, hrest⟩
    · obtain ⟨rfl, hrest⟩ := List.cons.inj h
      exact ⟨_, _, rfl, .plain, hrest⟩

theorem percentDecode_eq_nil {bs : List UInt8} (h : percentDecode bs = []) : bs = [] := by
  unfold percentDecode at h
  split at h
  · rfl
  · split at h
    · split at h
      · split at h <;> cases h
      · cases h
    · cases h

theorem percentDecode_cons {b : UInt8} (hb : b ≠ 37) (bs : List UInt8) :
    percentDecode (b :: bs) = b :: percentDecode bs := by
  rw [percentDecode.eq_def]
  exact if_neg hb

theorem percentDecode_digits {high low b : UInt8} (h : hexByte? high low = some b)
    (bs : List UInt8) : percentDecode (37 :: high :: low :: bs) = b :: percentDecode bs := by
  rw [percentDecode, if_pos rfl]
  simp only [h]

theorem percentDecode_encode_cons {c : Char} (hc : c.toNat < 0x80) (hpercent : c ≠ '%')
    (cs : List Char) : percentDecode (Text.encode (c :: cs)) =
      UInt8.ofNat c.toNat :: percentDecode (Text.encode cs) := by
  have hbyte : UInt8.ofNat c.toNat ≠ 37 := fun h => hpercent <| Char.toNat_inj.1 <| by
    have hvalue : (UInt8.ofNat c.toNat).toNat = 37 := congrArg UInt8.toNat h
    rw [UInt8.toNat_ofNat'] at hvalue
    change c.toNat = 37
    omega
  rw [Text.encode_cons_of_lt hc, percentDecode_cons hbyte]

inductive HexDigit (n : Nat) : Char → Prop where
  | capital : HexDigit n (hexDigitUpper n)
  | small : HexDigit n (hexDigitUpper n).toLower

/-- The texts in which every byte is written as a percent sign and two digits. -/
inductive Escapes : List UInt8 → List Char → Prop where
  | nil : Escapes [] []
  | cons {b : UInt8} {bs : List UInt8} {high low : Char} {text : List Char}
      (hhigh : HexDigit (b.toNat / 16) high) (hlow : HexDigit (b.toNat % 16) low)
      (h : Escapes bs text) : Escapes (b :: bs) ('%' :: high :: low :: text)

theorem hexDigitUpper_spec : ∀ n < 16, (hexDigitUpper n).isAlphanum = true ∧
    hexDigitValue? (UInt8.ofNat (hexDigitUpper n).toNat) = some (UInt8.ofNat n) := by
  decide

theorem hexDigitLower_spec : ∀ n < 16, (hexDigitUpper n).toLower.isAlphanum = true ∧
    hexDigitValue? (UInt8.ofNat (hexDigitUpper n).toLower.toNat) = some (UInt8.ofNat n) := by
  decide

theorem HexDigit.spec {n : Nat} {c : Char} (h : HexDigit n c) (hn : n < 16) :
    c.isAlphanum = true ∧ hexDigitValue? (UInt8.ofNat c.toNat) = some (UInt8.ofNat n) := by
  cases h with
  | capital => exact hexDigitUpper_spec n hn
  | small => exact hexDigitLower_spec n hn

theorem HexDigit.toNat_lt {n : Nat} {c : Char} (h : HexDigit n c) (hn : n < 16) :
    c.toNat < 0x80 :=
  (isGraphic_of_isAlphanum (h.spec hn).1).toNat_lt

theorem Escapes.isAlphanum {bs : List UInt8} {text : List Char} (h : Escapes bs text) :
    ∀ c ∈ text, c.isAlphanum = true ∨ c = '%' := by
  induction h with
  | nil => exact fun _ hc => nomatch hc
  | @cons b bs high low text hhigh hlow _ ih =>
    have hb : b.toNat < 256 := b.toNat_lt
    have hdigits : high.isAlphanum = true ∧ low.isAlphanum = true :=
      ⟨(hhigh.spec (by omega)).1, (hlow.spec (by omega)).1⟩
    exact List.forall_mem_cons.2 ⟨.inr rfl, List.forall_mem_cons.2 ⟨.inl hdigits.1,
      List.forall_mem_cons.2 ⟨.inl hdigits.2, ih⟩⟩⟩

theorem escapes_percentByte (bs : List UInt8) : Escapes bs (bs.flatMap percentByte) := by
  induction bs with
  | nil => exact .nil
  | cons b bs ih => exact .cons .capital .capital ih

theorem hexByte?_of_hexDigit {b : UInt8} {high low : Char} (hhigh : HexDigit (b.toNat / 16) high)
    (hlow : HexDigit (b.toNat % 16) low) :
    hexByte? (UInt8.ofNat high.toNat) (UInt8.ofNat low.toNat) = some b := by
  have hb : b.toNat < 256 := b.toNat_lt
  rw [hexByte?, (hhigh.spec (by omega)).2, (hlow.spec (by omega)).2]
  refine congrArg some (UInt8.toNat_inj.1 ?_)
  rw [UInt8.toNat_add, UInt8.toNat_mul, UInt8.toNat_ofNat', UInt8.toNat_ofNat']
  simp only [UInt8.reduceToNat]
  omega

theorem percentDecode_encode_append {bs : List UInt8} {text : List Char} (h : Escapes bs text)
    (cs : List Char) : percentDecode (Text.encode (text ++ cs)) =
      bs ++ percentDecode (Text.encode cs) := by
  induction h with
  | nil => rfl
  | @cons b bs high low text hhigh hlow _ ih =>
    have hb : b.toNat < 256 := b.toNat_lt
    rw [List.cons_append, List.cons_append, List.cons_append, Text.encode_cons_of_lt (by decide),
      Text.encode_cons_of_lt (hhigh.toNat_lt (by omega)),
      Text.encode_cons_of_lt (hlow.toNat_lt (by omega))]
    exact (percentDecode_digits (hexByte?_of_hexDigit hhigh hlow) _).trans (congrArg (b :: ·) ih)

end DesignCompiler.Url
