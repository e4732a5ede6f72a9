import DesignCompiler.Json.Outline
import DesignCompiler.Proofs.Json.Strings

set_option autoImplicit false

namespace DesignCompiler.Json

def Ahead.To {s : List Char} (a : Ahead s) (r : List Char) : Prop := ∃ h, a = .ok ⟨r, h⟩

section Ahead
variable {s r : List Char}

@[simp]
theorem Ahead.to_error {f : Fault} : ¬ Ahead.To (.error f : Ahead s) r := by simp [To]

@[simp]
theorem Ahead.to_ok {x : Rest s} : Ahead.To (.ok x : Ahead s) r ↔ x.1 = r := by
  obtain ⟨t, ht⟩ := x
  simp only [To, Except.ok.injEq, Subtype.mk.injEq]
  constructor
  · rintro ⟨-, h⟩
    exact h
  · rintro rfl
    exact ⟨ht, rfl⟩

@[simp]
theorem Ahead.to_widen {t : List Char} {h : s.length ≤ t.length} {a : Ahead s} :
    (a.widen h).To r ↔ a.To r := by
  cases a with
  | error f => exact iff_of_false to_error to_error
  | ok x =>
    have hx : Ahead.widen h (.ok x : Ahead s) = .ok ⟨x.1, Nat.lt_of_lt_of_le x.2 h⟩ := rfl
    rw [hx, to_ok, to_ok]

end Ahead

namespace Outline

/-- The value `o` comes next in `s`, and `r` remains behind it. -/
def Spells (s : List Char) (o : Outline) (r : List Char) : Prop :=
  (next s).1 = o ∧ (next s).2.To r

def SpellsItems (first : Bool) (s : List Char) (os : List Outline) (r : List Char) : Prop :=
  (items first s).1 = os ∧ (items first s).2.2.To r

def SpellsItem (s : List Char) (os : List Outline) (r : List Char) : Prop :=
  (item s).1 = os ∧ (item s).2.2.To r

def SpellsMembers (first : Bool) (s : List Char) (ms : List (Key × Outline)) (r : List Char) :
    Prop := (members first s).1 = ms ∧ (members first s).2.2.To r

def SpellsMember (s : List Char) (ms : List (Key × Outline)) (r : List Char) : Prop :=
  (member s).1 = ms ∧ (member s).2.2.To r

def Ends {s : List Char} (close : Close) (ahead : Ahead s) : Prop :=
  match ahead with
  | .ok x => close = .closed x.1
  | .error f => close = .broken f

theorem Ends.widen {s t : List Char} {close : Close} {ahead : Ahead s} (h : Ends close ahead)
    (hle : s.length ≤ t.length) : Ends close (ahead.widen hle) := by
  cases ahead <;> exact h

theorem Ends.eq_closed {s r : List Char} {close : Close} {ahead : Ahead s} (h : Ends close ahead)
    (hr : ahead.To r) : close = .closed r := by
  obtain ⟨hlt, rfl⟩ := hr
  exact h

mutual

theorem ends_items (first : Bool) (s : List Char) :
    Ends (items first s).2.1 (items first s).2.2 := by
  rw [items.eq_def]
  split
  · rfl
  · rename_i c r h
    have hlen := length_lt_of_skipSpace h
    dsimp only
    split
    · rfl
    · split
      · exact (ends_item (c :: r)).widen hlen
      · split
        · split
          · rfl
          · rename_i d r' h'
            have hlen' := length_lt_of_skipSpace h'
            split
            · rfl
            · exact (ends_item (d :: r')).widen (Nat.le_trans hlen' (Nat.le_of_lt hlen))
        · rfl
termination_by 3 * s.length + 2
decreasing_by
  all_goals simp only [List.length_cons]
  all_goals omega

theorem ends_item (s : List Char) : Ends (item s).2.1 (item s).2.2 := by
  rw [item.eq_def]
  split
  · rfl
  · rename_i o r h he
    exact (ends_items false r).widen (Nat.le_of_lt h)
termination_by 3 * s.length + 1
decreasing_by omega

end

mutual

theorem ends_members (first : Bool) (s : List Char) :
    Ends (members first s).2.1 (members first s).2.2 := by
  rw [members.eq_def]
  split
  · rfl
  · rename_i c r h
    have hlen := length_lt_of_skipSpace h
    dsimp only
    split
    · rfl
    · split
      · split
        · exact (ends_member r).widen (Nat.le_of_lt hlen)
        · rfl
      · split
        · split
          · rfl
          · rename_i d r' h'
            have hlen' := length_lt_of_skipSpace h'
            split
            · exact (ends_member r').widen (Nat.le_of_lt (Nat.lt_trans hlen' hlen))
            · split <;> rfl
        · rfl
termination_by 3 * s.length + 2
decreasing_by all_goals omega

theorem ends_member (s : List Char) : Ends (member s).2.1 (member s).2.2 := by
  rw [member.eq_def]
  split
  · rfl
  · rename_i text r h he
    split
    · rfl
    · rename_i c r₁ h'
      have hr := length_lt_of_skipSpace h'
      dsimp only
      split
      · split
        · rfl
        · rename_i o r₂ h₂ hn
          exact (ends_members false r₂).widen
            (Nat.le_of_lt (Nat.lt_trans (Nat.lt_trans h₂ hr) h))
      · rfl
termination_by 3 * s.length + 1
decreasing_by omega

end

theorem spellsItem_iff {s r : List Char} {os : List Outline} : SpellsItem s os r ↔
    ∃ o os' t, o :: os' = os ∧ Spells s o t ∧ SpellsItems false t os' r := by
  unfold SpellsItem Spells SpellsItems
  rw [item.eq_def]
  split
  · rename_i o f h
    simp [h]
  · rename_i o t ht h
    simp [h]

theorem spellsItems_iff {first : Bool} {s r : List Char} {os : List Outline} :
    SpellsItems first s os r ↔ ∃ c t, skipSpace s = c :: t ∧
      ((c = ']' ∧ [] = os ∧ t = r) ∨ (c ≠ ']' ∧ first = true ∧ SpellsItem (c :: t) os r) ∨
        (c = ',' ∧ first = false ∧ ∃ d u, skipSpace t = d :: u ∧ d ≠ ']' ∧
          SpellsItem (d :: u) os r)) := by
  unfold SpellsItems SpellsItem
  rw [items.eq_def]
  split
  · rename_i h
    simp [h]
  · rename_i c t h
    by_cases hc : c = ']'
    · simp [h, hc]
    · cases first with
      | true => simp [h, hc]
      | false =>
        by_cases hd : c = ','
        · dsimp only
          rw [if_neg hc, if_neg Bool.false_ne_true, if_pos hd]
          split
          · rename_i h'
            simp [h, hc, h']
          · rename_i d u h'
            by_cases hd' : d = ']' <;> simp [h, hd, h', hd']
        · simp [h, hc, hd]

theorem spellsMembers_iff {first : Bool} {s r : List Char} {ms : List (Key × Outline)} :
    SpellsMembers first s ms r ↔ ∃ c t, skipSpace s = c :: t ∧
      ((c = '}' ∧ [] = ms ∧ t = r) ∨ (c = '"' ∧ first = true ∧ SpellsMember t ms r) ∨
        (c = ',' ∧ first = false ∧ ∃ u, skipSpace t = '"' :: u ∧ SpellsMember u ms r)) := by
  unfold SpellsMembers SpellsMember
  rw [members.eq_def]
  split
  · rename_i h
    simp [h]
  · rename_i c t h
    by_cases hc : c = '}'
    · simp [h, hc]
    · cases first with
      | true =>
        by_cases hq : c = '"' <;> simp [h, hc, hq]
      | false =>
        by_cases hd : c = ','
        · dsimp only
          rw [if_neg hc, if_neg Bool.false_ne_true, if_pos hd]
          split
          · rename_i h'
            simp [h, hc, h']
          · rename_i d u h'
            by_cases hq : d = '"'
            · simp [h, hd, h', hq]
            · by_cases hb : d = '}' <;> simp [h, hd, h', hq, hb]
        · simp [h, hc, hd]

def keyBefore (s r : List Char) : Key := ⟨(Json.readString s).map fun x => String.ofList x.1, r⟩

theorem passed_of_keyOf {s : List Char} {text : Except Issue String} {t : Rest s}
    (h : keyOf s = .ok (text, t)) : passed (skipString s) = .ok t.1 ∧
      text = (Json.readString s).map fun x => String.ofList x.1 := by
  unfold keyOf at h
  split at h
  · rename_i u hu
    cases h
    exact ⟨by rw [hu]; rfl, rfl⟩
  · split at h <;> exact nomatch h

theorem passed_of_keyOf_error {s : List Char} {f : Fault} (h : keyOf s = .error f)
    (t : List Char) : passed (skipString s) ≠ .ok t := by
  unfold keyOf at h
  split at h
  · exact nomatch h
  · rename_i i hi
    rw [hi]
    exact fun he => nomatch he

theorem spellsMember_iff {s r : List Char} {ms : List (Key × Outline)} : SpellsMember s ms r ↔
    ∃ t u v o ms', passed (skipString s) = .ok t ∧ skipSpace t = ':' :: u ∧ Spells u o v ∧
      SpellsMembers false v ms' r ∧ (keyBefore s (':' :: u), o) :: ms' = ms := by
  unfold SpellsMember Spells SpellsMembers
  rw [member.eq_def]
  split
  · rename_i f hk
    simp [passed_of_keyOf_error hk]
  · rename_i text t ht hk
    obtain ⟨hpassed, rfl⟩ := passed_of_keyOf hk
    rw [hpassed]
    split
    · rename_i h
      simp [h]
    · rename_i c u h
      by_cases hc : c = ':'
      · subst hc
        dsimp only
        rw [if_pos rfl]
        split
        · rename_i o f hn
          simp [h, hn]
        · rename_i o v hv hn
          simp [h, hn, keyBefore, and_comm]
      · simp [h, hc]

theorem spells_iff {s r : List Char} {o : Outline} : Spells s o r ↔ ∃ c t, skipSpace s = c :: t ∧
    ((c = '[' ∧ ∃ os, SpellsItems true t os r ∧ .array (c :: t) os (.closed r) = o) ∨
      (c = '{' ∧ ∃ ms, SpellsMembers true t ms r ∧ .object (c :: t) ms (.closed r) = o) ∨
      (c ≠ '[' ∧ c ≠ '{' ∧ (ofScalar c t).1 = o ∧ (ofScalar c t).2.To r)) := by
  unfold Spells SpellsItems SpellsMembers
  rw [next.eq_def]
  split
  · rename_i h
    simp [h, stuck]
  · rename_i c t h
    by_cases hc : c = '['
    · subst hc
      have hends := ends_items true t
      have hclose : (items true t).2.2.To r →
          (array ('[' :: t) (items true t).1 (items true t).2.1 = o ↔
            array ('[' :: t) (items true t).1 (.closed r) = o) := by
        intro hr
        rw [hends.eq_closed hr]
      simp [h]
      rw [and_comm]
      exact and_congr_right hclose
    · by_cases hb : c = '{'
      · subst hb
        have hends := ends_members true t
        have hclose : (members true t).2.2.To r →
            (object ('{' :: t) (members true t).1 (members true t).2.1 = o ↔
              object ('{' :: t) (members true t).1 (.closed r) = o) := by
          intro hr
          rw [hends.eq_closed hr]
        simp [h]
        rw [and_comm]
        exact and_congr_right hclose
      · simp [h, hc, hb]

theorem Spells.length_lt {s r : List Char} {o : Outline} (h : Spells s o r) :
    r.length < s.length := by
  obtain ⟨-, hlt, -⟩ := h
  exact hlt

theorem ofWord_to {c : Char} {t word r : List Char} {make : List Char → List Char → Outline}
    {o : Outline} {h : t.length < (c :: t).length} :
    ((ofWord (c :: t) t word h make).1 = o ∧ (ofWord (c :: t) t word h make).2.To r) ↔
      t = word ++ r ∧ make (c :: t) r = o := by
  unfold ofWord
  split
  · rename_i u hu
    have ht := readWord_eq_ok.1 hu
    simp only [Ahead.to_ok]
    constructor
    · rintro ⟨rfl, rfl⟩
      exact ⟨ht, rfl⟩
    · rintro ⟨ht', rfl⟩
      obtain rfl : u = r := List.append_cancel_left (ht.symm.trans ht')
      exact ⟨rfl, rfl⟩
  · rename_i i hi
    refine iff_of_false (fun h => Ahead.to_error h.2) ?_
    rintro ⟨ht, -⟩
    rw [readWord_eq_ok.2 ht] at hi
    exact nomatch hi

theorem ofNumber_to {s r : List Char} {o : Outline} :
    ((ofNumber s).1 = o ∧ (ofNumber s).2.To r) ↔
      skipNumber s = .ok r ∧ .number ((readNumber s).map Prod.fst) s r = o := by
  unfold ofNumber
  split
  · rename_i u hu
    simp only [Ahead.to_ok]
    rw [hu, Except.ok.injEq]
    constructor
    · rintro ⟨rfl, rfl⟩
      exact ⟨rfl, rfl⟩
    · rintro ⟨rfl, rfl⟩
      exact ⟨rfl, rfl⟩
  · rename_i i hi
    refine iff_of_false (fun h => ?_) fun h => nomatch hi.symm.trans h.1
    split at h <;> exact Ahead.to_error h.2

theorem ofString_to {c : Char} {t r : List Char} {o : Outline} :
    ((ofString c t).1 = o ∧ (ofString c t).2.To r) ↔ passed (skipString t) = .ok r ∧
      .string ((Json.readString t).map fun x => String.ofList x.1) (c :: t) r = o := by
  unfold ofString
  split
  · rename_i u hlt hu
    rw [hu]
    simp only [Ahead.to_ok, passed, map_eq_ok, Except.ok.injEq, exists_eq_left']
    constructor
    · rintro ⟨rfl, rfl⟩
      exact ⟨rfl, rfl⟩
    · rintro ⟨rfl, rfl⟩
      exact ⟨rfl, rfl⟩
  · rename_i i hi
    rw [hi]
    refine iff_of_false (fun h => ?_) ?_
    · split at h <;> exact Ahead.to_error h.2
    · rintro ⟨h, -⟩
      cases h

theorem ofScalar_to {c : Char} {t r : List Char} {o : Outline} :
    ((ofScalar c t).1 = o ∧ (ofScalar c t).2.To r) ↔
      (c = 'n' ∧ t = ['u', 'l', 'l'] ++ r ∧ .null (c :: t) r = o) ∨
      (c = 't' ∧ t = ['r', 'u', 'e'] ++ r ∧ .boolean true (c :: t) r = o) ∨
      (c = 'f' ∧ t = ['a', 'l', 's', 'e'] ++ r ∧ .boolean false (c :: t) r = o) ∨
      (c = '"' ∧ passed (skipString t) = .ok r ∧
        .string ((Json.readString t).map fun x => String.ofList x.1) (c :: t) r = o) ∨
      ((c = '-' || isDigit c) = true ∧ skipNumber (c :: t) = .ok r ∧
        .number ((readNumber (c :: t)).map Prod.fst) (c :: t) r = o) := by
  unfold ofScalar
  by_cases hn : c = 'n'
  · subst hn
    rw [if_pos rfl, ofWord_to]
    simp [isDigit]
  rw [if_neg hn]
  by_cases ht : c = 't'
  · subst ht
    rw [if_pos rfl, ofWord_to]
    simp [isDigit]
  rw [if_neg ht]
  by_cases hf : c = 'f'
  · subst hf
    rw [if_pos rfl, ofWord_to]
    simp [isDigit]
  rw [if_neg hf]
  by_cases hq : c = '"'
  · subst hq
    rw [if_pos rfl, ofString_to]
    simp [isDigit]
  rw [if_neg hq]
  by_cases hd : (c = '-' || isDigit c) = true
  · rw [if_pos hd, ofNumber_to]
    simp only [hn, ht, hf, hq, hd, false_and, false_or, true_and]
  · rw [if_neg hd]
    simp only [hn, ht, hf, hq, hd, false_and, false_or, stuck, Ahead.to_error, and_false,
      Bool.false_eq_true]

end Outline
end DesignCompiler.Json
