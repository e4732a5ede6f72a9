import DesignCompiler.Proofs.Json.Locality
import DesignCompiler.Proofs.Json.Members
import DesignCompiler.Proofs.Number.Rounding

set_option autoImplicit false

namespace DesignCompiler.Json

def Number.Proper : Number → Prop
  | .natural n => n ≤ greatestNatural
  | .negative n => -2 ^ 63 ≤ n ∧ n < 0
  | .real x => x.isFinite = true

theorem greatestNatural_lt : greatestNatural < 2 ^ 64 := by
  unfold greatestNatural
  rw [Nat.pow_eq]
  omega

theorem Number.Proper.isFinite {n : Number} (h : n.Proper) : n.toBinary64.isFinite = true := by
  cases n with
  | natural n =>
    have hle : n ≤ 2 ^ 64 := Nat.le_of_lt (Nat.lt_of_le_of_lt h greatestNatural_lt)
    exact (Binary64.ofNat_bounded hle (by decide)).1
  | negative n =>
    obtain ⟨hlow, hhigh⟩ := h
    have hle : n.natAbs ≤ 2 ^ 64 := by omega
    exact (Binary64.ofInt_bounded hle (by decide)).1
  | real x => exact h

section Numbers
variable {negative : Bool} {significand : Nat}

theorem absorb_le (h : significand ≤ greatestNatural) (ds : List Char) :
    (absorb significand ds).1 ≤ greatestNatural := by
  induction ds generalizing significand with
  | nil => exact h
  | cons d ds ih =>
    rw [absorb]
    split
    · rename_i hle
      exact ih hle
    · exact h

theorem isFinite_of_scaleByTen {x y : Binary64} {exponent : Int} (hx : x.isFinite = true)
    (hbound : x.magnitude ≤ 2 ^ 64 * Binary64.scale) (h : scaleByTen x exponent = some y) :
    y.isFinite = true := by
  induction hn : exponent.natAbs using Nat.strongRecOn generalizing x exponent with
  | _ n ih =>
    subst hn
    rw [scaleByTen] at h
    by_cases hsmall : exponent.natAbs ≤ 308
    · obtain ⟨hten, hone⟩ := Binary64.pow_ten_bounds hsmall
      rw [if_pos hsmall] at h
      by_cases hsign : 0 ≤ exponent
      · simp only [if_pos hsign] at h
        split at h
        · exact nomatch h
        · rename_i hinfinite
          cases h
          exact Binary64.isFinite_mul hx hten (Bool.eq_false_iff.2 hinfinite)
      · rw [if_neg hsign] at h
        cases h
        exact (Binary64.div_bounded (by decide) hx hbound hten hone).1
    · rw [if_neg hsmall] at h
      by_cases hzero : x.isZero = true
      · rw [if_pos hzero] at h
        cases h
        exact hx
      · rw [if_neg hzero] at h
        by_cases hsign : 0 ≤ exponent
        · rw [if_pos hsign] at h
          exact nomatch h
        · rw [if_neg hsign] at h
          generalize hk : 308 = k at h
          obtain ⟨hten, hone⟩ := @Binary64.pow_ten_bounds k (Nat.le_of_eq hk.symm)
          obtain ⟨hfinite, hle⟩ := Binary64.div_bounded (by decide) hx hbound hten hone
          exact ih _ (by omega) hfinite hle h rfl

theorem proper_signed {x : Binary64} (h : x.isFinite = true) :
    (Number.real (signed negative x)).Proper := by
  cases negative with
  | true => exact (Binary64.isFinite_neg x).trans h
  | false => exact h

theorem proper_wholeOfParts (h : significand ≤ greatestNatural) :
    (wholeOfParts negative significand).Proper := by
  have hlt := Nat.lt_of_le_of_lt h greatestNatural_lt
  unfold wholeOfParts
  split
  · exact h
  · split
    · have hfinite := (Binary64.ofNat_bounded (Nat.le_of_lt hlt) (by decide)).1
      exact (Binary64.isFinite_neg _).trans hfinite
    · rename_i hwhole
      rw [Nat.pow_eq] at hwhole
      exact ⟨by omega, by omega⟩

variable {r : List Char} {n : Number}

theorem proper_of_realOfParts {exponent : Int} {s : List Char} (h : significand ≤ greatestNatural)
    (hread : realOfParts negative significand exponent s = .ok (n, r)) : n.Proper := by
  have hlt := Nat.lt_of_le_of_lt h greatestNatural_lt
  obtain ⟨hfinite, hbound⟩ :=
    Binary64.ofNat_bounded (Nat.le_of_lt hlt) (by decide : 64 ≤ 1022)
  unfold realOfParts at hread
  split at hread
  · rename_i x hx
    cases hread
    exact proper_signed (isFinite_of_scaleByTen hfinite hbound hx)
  · cases hread

theorem proper_of_readExponent {start : Int} {s : List Char} (h : significand ≤ greatestNatural)
    (hread : readExponent negative significand start s = .ok (n, r)) : n.Proper := by
  unfold readExponent at hread
  dsimp only at hread
  split at hread
  · cases hread
  · split at hread
    · split at hread
      · exact proper_of_realOfParts h hread
      · -- Without digits of use the sign tells zero from what is out of range.
        split at hread
        all_goals split at hread
        all_goals cases hread
        all_goals exact Binary64.isFinite_zero negative
    · cases hread

theorem proper_of_readFraction {start : Int} {s : List Char} (h : significand ≤ greatestNatural)
    (hread : readFraction negative significand start s = .ok (n, r)) : n.Proper := by
  have hle := absorb_le h (s.takeWhile isDigit)
  unfold readFraction at hread
  dsimp only at hread
  split at hread
  · split at hread <;> cases hread
  · split at hread
    · split at hread
      · exact proper_of_readExponent hle hread
      · exact proper_of_realOfParts hle hread
    · exact proper_of_realOfParts hle hread

theorem proper_of_readTail {unused : Nat} {s : List Char} (h : significand ≤ greatestNatural)
    (hread : readTail negative significand unused s = .ok (n, r)) : n.Proper := by
  have hwhole := @proper_wholeOfParts negative significand h
  unfold readTail at hread
  split at hread
  · split at hread
    · exact proper_of_readFraction h hread
    · split at hread
      · exact proper_of_readExponent h hread
      · split at hread
        · cases hread
          exact hwhole
        · exact proper_of_realOfParts h hread
  · split at hread
    · cases hread
      exact hwhole
    · exact proper_of_realOfParts h hread

theorem proper_of_readUnsigned {s : List Char}
    (hread : readUnsigned negative s = .ok (n, r)) : n.Proper := by
  have hzero : 0 ≤ greatestNatural := Nat.zero_le _
  unfold readUnsigned at hread
  split at hread
  · cases hread
  · split at hread
    · split at hread
      · split at hread
        · cases hread
        · exact proper_of_readTail hzero hread
      · exact proper_of_readTail hzero hread
    · split at hread
      · exact proper_of_readTail (absorb_le hzero _) hread
      · cases hread

theorem proper_of_readNumber {s : List Char} (hread : readNumber s = .ok (n, r)) : n.Proper := by
  unfold readNumber at hread
  split at hread
  · exact proper_of_readUnsigned hread
  · exact proper_of_readUnsigned hread

end Numbers

/-- What a JSON value is by its construction. -/
inductive Value.Proper : Value → Prop
  | null : Value.Proper .null
  | boolean (b : Bool) : Value.Proper (.boolean b)
  | number {n : Number} (h : n.Proper) : Value.Proper (.number n)
  | string (s : String) : Value.Proper (.string s)
  | array {items : List Value} (h : ∀ v ∈ items, Value.Proper v) : Value.Proper (.array items)
  | object {members : List (String × Value)} (ascending : Ascending members)
      (h : ∀ m ∈ members, Value.Proper m.2) : Value.Proper (.object members)

theorem Outline.Spells.proper_of_number {s r t u : List Char} {n : Number}
    (h : Spells s (.number (.ok n) t u) r) : n.Proper := by
  obtain ⟨c, t, -, ⟨-, os, -, ho⟩ | ⟨-, ms, -, ho⟩ | ⟨-, -, hscalar⟩⟩ := spells_iff.1 h
  · exact nomatch ho
  · exact nomatch ho
  · rcases ofScalar_to.1 hscalar with ⟨-, -, ho⟩ | ⟨-, -, ho⟩ | ⟨-, -, ho⟩ | ⟨-, -, ho⟩ |
      ⟨-, -, ho⟩
    · exact nomatch ho
    · exact nomatch ho
    · exact nomatch ho
    · exact nomatch ho
    · injection ho with hnumber
      obtain ⟨x, hread, rfl⟩ := map_eq_ok.1 hnumber
      exact proper_of_readNumber hread

theorem Outline.Spells.proper {depth : Nat} {s r : List Char} {o : Outline} {v : Value}
    (h : Spells s o r) (hv : Value.ofOutline depth o = .ok v) : v.Proper := by
  induction depth using Nat.strongRecOn generalizing s o r v with
  | _ depth ih =>
    rcases Value.ofOutline_cases hv with ⟨_, _, rfl, rfl⟩ | ⟨b, _, _, rfl, rfl⟩ |
      ⟨n, _, _, rfl, rfl⟩ | ⟨t, _, _, rfl, rfl⟩ | ⟨d, _, items, _, vs, rfl, rfl, rfl, hall⟩ |
      ⟨d, _, members, _, xs, rfl, rfl, rfl, hall⟩
    · exact .null
    · exact .boolean b
    · exact .number h.proper_of_number
    · exact .string t
    · apply Value.Proper.array
      intro w hw
      obtain ⟨i, hi, hread⟩ := exists_of_forall₂ hall.flip hw
      obtain ⟨t, u, -, hspells, -⟩ := h.exists_inner hi
      exact ih d (Nat.lt_succ_self d) hspells hread
    · apply Value.Proper.object (ascending_sortMembers xs)
      intro x hx
      obtain ⟨m, hm, -, hread⟩ := exists_of_forall₂ hall.flip (mem_of_mem_sortMembers hx)
      obtain ⟨t, u, -, hspells, -⟩ := h.exists_inner (List.mem_map_of_mem hm)
      exact ih d (Nat.lt_succ_self d) hspells hread

theorem Value.proper_of_ofText {text : List Char} {v : Value} (h : Value.ofText text = .ok v) :
    v.Proper := by
  obtain ⟨hroot, hafter⟩ := readText_eq_ok.1 h
  obtain ⟨r, hspells, -⟩ := Document.spells_of_after hafter
  exact hspells.proper hroot

end DesignCompiler.Json
