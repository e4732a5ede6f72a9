import DesignCompiler.Text.Utf8

set_option autoImplicit false

namespace DesignCompiler.Text

theorem takeTails_tail (count : Nat) {low high : UInt8} (code v : Nat) (bs : List UInt8)
    (hlow : low.toNat ≤ v % 64 + 128) (hhigh : v % 64 + 128 ≤ high.toNat) :
    takeTails (count + 1) low high code (UInt8.ofNat (v % 64 + 128) :: bs) =
      takeTails count 0x80 0xBF (code * 64 + v % 64) bs := by
  have hbyte : (UInt8.ofNat (v % 64 + 128)).toNat = v % 64 + 128 := by
    rw [UInt8.toNat_ofNat']
    omega
  have hrange : (low ≤ UInt8.ofNat (v % 64 + 128) && UInt8.ofNat (v % 64 + 128) ≤ high) = true := by
    rw [Bool.and_eq_true, decide_eq_true_eq, decide_eq_true_eq, UInt8.le_iff_toNat_le,
      UInt8.le_iff_toNat_le, hbyte]
    exact ⟨hlow, hhigh⟩
  rw [takeTails, if_pos hrange, hbyte, Nat.add_sub_cancel]

theorem leadOf?_two : ∀ k < 30,
    leadOf? (UInt8.ofNat (k + 2 + 192)) = some (1, 0x80, 0xBF, k + 2) := by
  decide

theorem leadOf?_three : ∀ k < 16, leadOf? (UInt8.ofNat (k + 224)) =
    some (2, if k = 0 then 0xA0 else 0x80, if k = 13 then 0x9F else 0xBF, k) := by
  decide

theorem leadOf?_four : ∀ k < 5, leadOf? (UInt8.ofNat (k + 240)) =
    some (3, if k = 0 then 0x90 else 0x80, if k = 4 then 0x8F else 0xBF, k) := by
  decide

theorem decodeStep_lead {n : Nat} (hn : 128 ≤ n) (hbyte : n < 256) {count code : Nat}
    {low high : UInt8} (h : leadOf? (UInt8.ofNat n) = some (count, low, high, code))
    (bs : List UInt8) : decodeStep (UInt8.ofNat n) bs = takeTails count low high code bs := by
  have hlarge : ¬ UInt8.ofNat n < 0x80 := by
    rw [UInt8.lt_iff_toNat_lt, UInt8.toNat_ofNat', Nat.mod_eq_of_lt hbyte]
    exact Nat.not_lt.2 hn
  rw [decodeStep, if_neg hlarge, h]

theorem decode_two {v : Nat} (hlow : 0x7F < v) (hhigh : v ≤ 0x7FF) (rest : List UInt8) :
    decodeStep (UInt8.ofNat (v / 64 % 32 + 192)) (UInt8.ofNat (v % 64 + 128) :: rest) =
      (some (Char.ofNat v), rest) := by
  have hlead := leadOf?_two (v / 64 % 32 - 2) (by omega)
  rw [show v / 64 % 32 - 2 + 2 = v / 64 % 32 by omega] at hlead
  rw [decodeStep_lead (by omega) (by omega) hlead,
    takeTails_tail 0 _ v rest (Nat.le_add_left _ _) (by change _ ≤ 191; omega), takeTails,
    show v / 64 % 32 * 64 + v % 64 = v by omega]

theorem decode_three {v : Nat} (hlow : 0x7FF < v) (hhigh : v ≤ 0xFFFF)
    (hvalid : v < 0xD800 ∨ 0xDFFF < v) (rest : List UInt8) :
    decodeStep (UInt8.ofNat (v / 4096 % 16 + 224))
        (UInt8.ofNat (v / 64 % 64 + 128) :: UInt8.ofNat (v % 64 + 128) :: rest) =
      (some (Char.ofNat v), rest) := by
  have hlead := leadOf?_three (v / 4096 % 16) (by omega)
  rw [decodeStep_lead (by omega) (by omega) hlead, takeTails_tail 1 _ (v / 64) _ ?_ ?_,
    takeTails_tail 0 _ v rest (Nat.le_add_left _ _) (by change _ ≤ 191; omega), takeTails,
    show (v / 4096 % 16 * 64 + v / 64 % 64) * 64 + v % 64 = v by omega]
  · split
    · change 160 ≤ _
      omega
    · exact Nat.le_add_left _ _
  · split
    · change _ ≤ 159
      omega
    · change _ ≤ 191
      omega

theorem decode_four {v : Nat} (hlow : 0xFFFF < v) (hhigh : v < 0x110000) (rest : List UInt8) :
    decodeStep (UInt8.ofNat (v / 262144 % 8 + 240))
        (UInt8.ofNat (v / 4096 % 64 + 128) :: UInt8.ofNat (v / 64 % 64 + 128) ::
          UInt8.ofNat (v % 64 + 128) :: rest) =
      (some (Char.ofNat v), rest) := by
  have hlead := leadOf?_four (v / 262144 % 8) (by omega)
  rw [decodeStep_lead (by omega) (by omega) hlead, takeTails_tail 2 _ (v / 4096) _ ?_ ?_,
    takeTails_tail 1 _ (v / 64) _ (Nat.le_add_left _ _) (by change _ ≤ 191; omega),
    takeTails_tail 0 _ v rest (Nat.le_add_left _ _) (by change _ ≤ 191; omega), takeTails,
    show ((v / 262144 % 8 * 64 + v / 4096 % 64) * 64 + v / 64 % 64) * 64 + v % 64 = v by omega]
  · split
    · change 144 ≤ _
      omega
    · exact Nat.le_add_left _ _
  · split
    · change _ ≤ 143
      omega
    · change _ ≤ 191
      omega

theorem exists_decodeStep (c : Char) : ∃ b bs, String.utf8EncodeChar c = b :: bs ∧
    ∀ rest, decodeStep b (bs ++ rest) = (some c, rest) := by
  have hvalid : c.val.toNat < 0xD800 ∨ 0xDFFF < c.val.toNat ∧ c.val.toNat < 0x110000 := c.valid
  have hc : Char.ofNat c.val.toNat = c := c.ofNat_toNat
  rw [String.utf8EncodeChar]
  generalize c.val.toNat = v at *
  subst hc
  split
  · rename_i hone
    refine ⟨_, _, rfl, fun rest => ?_⟩
    have hbyte : (UInt8.ofNat v).toNat = v := by
      rw [UInt8.toNat_ofNat']
      omega
    have hsmall : UInt8.ofNat v < 0x80 := by
      rw [UInt8.lt_iff_toNat_lt, hbyte]
      exact Nat.lt_succ_of_le hone
    rw [decodeStep, if_pos hsmall, hbyte]
    rfl
  · split
    · exact ⟨_, _, rfl, decode_two (by omega) (by omega)⟩
    · split
      · exact ⟨_, _, rfl, decode_three (by omega) (by omega) (by omega)⟩
      · exact ⟨_, _, rfl, decode_four (by omega) (by omega)⟩

theorem decodeParts_encode (cs : List Char) : decodeParts (encode cs) = cs.map some := by
  induction cs with
  | nil => rw [encode, List.flatMap_nil, decodeParts, List.map_nil]
  | cons c cs ih =>
    obtain ⟨b, bs, hbytes, hstep⟩ := exists_decodeStep c
    rw [encode, List.flatMap_cons, ← encode, hbytes, List.cons_append, decodeParts, hstep, ih,
      List.map_cons]

theorem decode?_encode (cs : List Char) : decode? (encode cs) = some cs := by
  rw [decode?, decodeParts_encode]
  induction cs with
  | nil => rfl
  | cons c cs ih => simp [ih]

theorem decodeLenient_encode (cs : List Char) : decodeLenient (encode cs) = cs := by
  rw [decodeLenient, decodeParts_encode, List.map_map]
  exact List.map_id cs

theorem encode_injective {as bs : List Char} (h : encode as = encode bs) : as = bs :=
  Option.some.inj (by rw [← decode?_encode, h, decode?_encode])

theorem encode_cons_of_lt {c : Char} (hc : c.toNat < 0x80) (cs : List Char) :
    encode (c :: cs) = UInt8.ofNat c.toNat :: encode cs := by
  have hone : String.utf8EncodeChar c = [UInt8.ofNat c.toNat] := by
    rw [String.utf8EncodeChar]
    exact if_pos (Nat.le_of_lt_succ hc)
  rw [encode, List.flatMap_cons, hone, ← encode]
  rfl

theorem encode_append (as bs : List Char) : encode (as ++ bs) = encode as ++ encode bs :=
  List.flatMap_append

theorem ofNat_cons_lt {x y : Nat} (hx : x < 256) (hy : y < 256) {xs ys : List UInt8} :
    UInt8.ofNat x :: xs < UInt8.ofNat y :: ys ↔ x < y ∨ x = y ∧ xs < ys := by
  rw [List.cons_lt_cons_iff, UInt8.lt_iff_toNat_lt, ← UInt8.toNat_inj, UInt8.toNat_ofNat',
    UInt8.toNat_ofNat', Nat.mod_eq_of_lt hx, Nat.mod_eq_of_lt hy]

theorem encodeChar_lt {c d : Char} (h : c < d) (as bs : List UInt8) :
    String.utf8EncodeChar c ++ as < String.utf8EncodeChar d ++ bs := by
  have hd : d.val.toNat < 0xD800 ∨ 0xDFFF < d.val.toNat ∧ d.val.toNat < 0x110000 := d.valid
  have hlt : c.val.toNat < d.val.toNat := h
  have hdigits (n : Nat) : n / 4096 = n / 64 / 64 ∧ n / 262144 = n / 64 / 64 / 64 := by omega
  rw [String.utf8EncodeChar, String.utf8EncodeChar]
  generalize c.val.toNat = v at *
  generalize d.val.toNat = w at *
  rw [(hdigits v).1, (hdigits v).2, (hdigits w).1, (hdigits w).2]
  -- The first byte tells the number of bytes; of as many bytes the first that differs decides.
  repeat' split
  all_goals
    simp (disch := omega) only [List.cons_append, List.nil_append, ofNat_cons_lt]
    omega

theorem encode_lt {as bs : List Char} (h : as < bs) : encode as < encode bs := by
  induction as generalizing bs with
  | nil =>
    cases bs with
    | nil => exact absurd h (List.lt_irrefl _)
    | cons b bs =>
      obtain ⟨x, xs, hbytes, -⟩ := exists_decodeStep b
      rw [encode, encode, List.flatMap_cons, hbytes]
      exact List.nil_lt_cons _ _
  | cons a as ih =>
    cases bs with
    | nil => exact absurd h (List.not_lt_nil _)
    | cons b bs =>
      rw [encode, encode, List.flatMap_cons, List.flatMap_cons, ← encode, ← encode]
      rcases List.cons_lt_cons_iff.1 h with hlt | ⟨rfl, hlt⟩
      · exact encodeChar_lt hlt _ _
      · exact List.append_left_lt (ih hlt)

end DesignCompiler.Text
