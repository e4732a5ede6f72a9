import DesignCompiler.Proofs.Json.Bare
import DesignCompiler.Proofs.Json.Grammar

set_option autoImplicit false

/-!
# What a value says wherever it stands

A value that is closed ends at the same place, and its bare outline is the same, whatever comes
behind it that cannot go on a number. So what is read of a value of a text is what is read of the
part of the text that it is.
-/
namespace DesignCompiler.Json

theorem skipSpace_eq_cons {s t : List Char} {c : Char} : skipSpace s = c :: t ↔
    ∃ w, s = w ++ c :: t ∧ (∀ d ∈ w, isSpace d = true) ∧ isSpace c = false := by
  unfold skipSpace
  constructor
  · intro h
    refine ⟨s.takeWhile isSpace, ?_, fun d hd => List.mem_takeWhile_imp hd, ?_⟩
    · rw [← h, List.takeWhile_append_dropWhile]
    · have hhead := List.head?_dropWhile_not isSpace s
      rw [h] at hhead
      simpa using hhead
  · rintro ⟨w, rfl, hw, hc⟩
    rw [List.dropWhile_append_of_pos hw]
    simp [hc]

theorem skipSpace_cons_of_not {c : Char} (hc : isSpace c = false) (t : List Char) :
    skipSpace (c :: t) = c :: t := by simp [skipSpace, hc]

theorem stops_of_isSpace {c : Char} {r : List Char} (h : isSpace c = true) : Stops (c :: r) := by
  simp only [isSpace, Bool.or_eq_true, decide_eq_true_eq] at h
  rw [stops_cons]
  rcases h with ((rfl | rfl) | rfl) | rfl <;> decide

theorem stops_of_skipSpace {s t : List Char} {c : Char} (h : skipSpace s = c :: t)
    (hc : Stops (c :: t)) : Stops s := by
  obtain ⟨w, rfl, hw, -⟩ := skipSpace_eq_cons.1 h
  cases w with
  | nil => exact hc
  | cons d w => exact stops_of_isSpace (hw d List.mem_cons_self)

theorem skipSpace_eq_nil {s : List Char} :
    skipSpace s = [] ↔ ∀ c ∈ s, isSpace c = true := List.dropWhile_eq_nil_iff

theorem stops_of_skipSpace_nil {s : List Char} (h : skipSpace s = []) : Stops s := by
  cases s with
  | nil => exact stops_nil
  | cons c s => exact stops_of_isSpace (skipSpace_eq_nil.1 h c List.mem_cons_self)

theorem skipSpace_append_cons {s t : List Char} {c : Char} (h : skipSpace s = [])
    (hc : isSpace c = false) : skipSpace (s ++ c :: t) = c :: t :=
  skipSpace_eq_cons.2 ⟨s, rfl, skipSpace_eq_nil.1 h, hc⟩

theorem Stops.append {p r : List Char} (h : Stops (p ++ r)) (hp : p ≠ []) (r' : List Char) :
    Stops (p ++ r') := by
  cases p with
  | nil => exact absurd rfl hp
  | cons c p => exact h

namespace Outline

theorem SpellsItems.stops {s r : List Char} {os : List Outline} (h : SpellsItems false s os r) :
    Stops s := by
  obtain ⟨c, t, hs, ⟨rfl, -⟩ | ⟨-, hf, -⟩ | ⟨rfl, -⟩⟩ := spellsItems_iff.1 h
  · exact stops_of_skipSpace hs (stops_cons.2 (by decide))
  · exact nomatch hf
  · exact stops_of_skipSpace hs (stops_cons.2 (by decide))

theorem SpellsMembers.stops {s r : List Char} {ms : List (Key × Outline)}
    (h : SpellsMembers false s ms r) : Stops s := by
  obtain ⟨c, t, hs, ⟨rfl, -⟩ | ⟨-, hf, -⟩ | ⟨rfl, -⟩⟩ := spellsMembers_iff.1 h
  · exact stops_of_skipSpace hs (stops_cons.2 (by decide))
  · exact nomatch hf
  · exact stops_of_skipSpace hs (stops_cons.2 (by decide))

theorem exists_of_cons_eq_append {c : Char} {t p r : List Char} (h : c :: t = p ++ r)
    (hp : p ≠ []) : ∃ q, p = c :: q ∧ t = q ++ r := by
  cases p with
  | nil => exact absurd rfl hp
  | cons d q =>
    obtain ⟨rfl, ht⟩ := List.cons.inj h
    exact ⟨q, rfl, ht⟩

theorem unplaced_map_of_valueOf {α β γ δ : Type} {x : Except Issue (α × β)}
    {y : Except Issue (α × γ)} (h : valueOf x = valueOf y) (f : α → δ) :
    unplaced (x.map fun a => f a.1) = unplaced (y.map fun a => f a.1) := by
  have htoOption {ε : Type} (z : Except Issue (α × ε)) :
      (z.map fun a => f a.1).toOption = (valueOf z).map f := by
    cases z <;> rfl
  apply unplaced_eq_of_toOption
  rw [htoOption, htoOption, h]

theorem scalar_local {c : Char} {t r : List Char} {o : Outline}
    (h : (ofScalar c t).1 = o ∧ (ofScalar c t).2.To r) (hr : Stops r) :
    ∃ p, t = p ++ r ∧ ∀ r', Stops r' → (ofScalar c (p ++ r')).2.To r' ∧
      (ofScalar c (p ++ r')).1.bare = o.bare := by
  have hto {p r' : List Char} {o' : Outline} (h' : (ofScalar c (p ++ r')).1 = o' ∧
      (ofScalar c (p ++ r')).2.To r') (hbare : o'.bare = o.bare) :
      (ofScalar c (p ++ r')).2.To r' ∧ (ofScalar c (p ++ r')).1.bare = o.bare :=
    ⟨h'.2, by rw [h'.1, hbare]⟩
  rcases ofScalar_to.1 h with ⟨hc, rfl, rfl⟩ | ⟨hc, rfl, rfl⟩ | ⟨hc, rfl, rfl⟩ | ⟨hc, ht, rfl⟩ |
    ⟨hc, ht, rfl⟩
  · exact ⟨_, rfl, fun r' _ => hto (ofScalar_to.2 (.inl ⟨hc, rfl, rfl⟩)) rfl⟩
  · exact ⟨_, rfl, fun r' _ => hto (ofScalar_to.2 (.inr (.inl ⟨hc, rfl, rfl⟩))) rfl⟩
  · exact ⟨_, rfl, fun r' _ => hto (ofScalar_to.2 (.inr (.inr (.inl ⟨hc, rfl, rfl⟩)))) rfl⟩
  · obtain ⟨p, rfl, -, hp⟩ := string_local ht
    refine ⟨p, rfl, fun r' _ => ?_⟩
    obtain ⟨hpassed, hvalue⟩ := hp r'
    refine hto (ofScalar_to.2 (.inr (.inr (.inr (.inl ⟨hc, hpassed, rfl⟩))))) ?_
    rw [bare, bare, unplaced_map_of_valueOf hvalue String.ofList]
  · obtain ⟨p, hp, hne, hskip, v, hv⟩ := number_local ht
    obtain ⟨q, rfl, rfl⟩ := exists_of_cons_eq_append hp hne
    refine ⟨q, rfl, fun r' hr' => ?_⟩
    refine hto (ofScalar_to.2 (.inr (.inr (.inr (.inr ⟨hc, hskip r' hr', rfl⟩))))) ?_
    have hvalue := (hv r' hr').trans (hv r hr).symm
    rw [bare, bare]
    exact congrArg (number · [] []) (unplaced_map_of_valueOf hvalue id)

mutual

theorem spells_local {s r : List Char} {o : Outline} (h : Spells s o r) (hr : Stops r) :
    ∃ p, s = p ++ r ∧ p ≠ [] ∧ ∀ r', Stops r' → ∃ o', Spells (p ++ r') o' r' ∧
      o'.bare = o.bare := by
  -- The induction is on the length of the text; the white space in front goes along.
  obtain ⟨c, t, hs, hcases⟩ := spells_iff.1 h
  have hlen := length_lt_of_skipSpace hs
  obtain ⟨w, rfl, hw, hc⟩ := skipSpace_eq_cons.1 hs
  have hspace (u : List Char) : skipSpace (w ++ c :: u) = c :: u :=
    skipSpace_eq_cons.2 ⟨w, rfl, hw, hc⟩
  have hne (p : List Char) : w ++ c :: p ≠ [] := by simp
  rcases hcases with ⟨rfl, os, hos, rfl⟩ | ⟨rfl, ms, hms, rfl⟩ | ⟨hb, hm, hscalar⟩
  · obtain ⟨p, rfl, -, hp⟩ := spellsItems_local hos
    refine ⟨w ++ '[' :: p, by simp, hne p, fun r' _ => ?_⟩
    obtain ⟨os', hos', hbare⟩ := hp r'
    rw [List.append_assoc, List.cons_append]
    refine ⟨_, spells_iff.2 ⟨'[', _, hspace _, .inl ⟨rfl, os', hos', rfl⟩⟩, ?_⟩
    rw [bare, bare, hbare]
    rfl
  · obtain ⟨p, rfl, -, hp⟩ := spellsMembers_local hms
    refine ⟨w ++ '{' :: p, by simp, hne p, fun r' _ => ?_⟩
    obtain ⟨ms', hms', hbare⟩ := hp r'
    rw [List.append_assoc, List.cons_append]
    refine ⟨_, spells_iff.2 ⟨'{', _, hspace _, .inr (.inl ⟨rfl, ms', hms', rfl⟩)⟩, ?_⟩
    rw [bare, bare, hbare]
    rfl
  · obtain ⟨p, rfl, hp⟩ := scalar_local hscalar hr
    refine ⟨w ++ c :: p, by simp, hne p, fun r' hr' => ?_⟩
    obtain ⟨hto, hbare⟩ := hp r' hr'
    rw [List.append_assoc, List.cons_append]
    exact ⟨_, spells_iff.2 ⟨c, _, hspace _, .inr (.inr ⟨hb, hm, rfl, hto⟩)⟩, hbare⟩
termination_by 3 * s.length
decreasing_by all_goals omega

theorem spellsItems_local {first : Bool} {s r : List Char} {os : List Outline}
    (h : SpellsItems first s os r) : ∃ p, s = p ++ r ∧ p ≠ [] ∧ ∀ r', ∃ os',
      SpellsItems first (p ++ r') os' r' ∧ bareItems os' = bareItems os := by
  obtain ⟨c, t, hs, hcases⟩ := spellsItems_iff.1 h
  have hlen := length_lt_of_skipSpace hs
  obtain ⟨w, rfl, hw, hc⟩ := skipSpace_eq_cons.1 hs
  have hspace (u : List Char) : skipSpace (w ++ c :: u) = c :: u :=
    skipSpace_eq_cons.2 ⟨w, rfl, hw, hc⟩
  have hne (p : List Char) : w ++ c :: p ≠ [] := by simp
  rcases hcases with ⟨rfl, rfl, rfl⟩ | ⟨hb, hf, hitem⟩ | ⟨rfl, hf, d, u, ht, hd, hitem⟩
  · refine ⟨w ++ [']'], by simp, hne [], fun r' => ⟨[], ?_, rfl⟩⟩
    rw [List.append_assoc]
    exact spellsItems_iff.2 ⟨']', r', hspace _, .inl ⟨rfl, rfl, rfl⟩⟩
  · obtain ⟨p, hp, hnil, hlocal⟩ := spellsItem_local hitem
    obtain ⟨q, rfl, rfl⟩ := exists_of_cons_eq_append hp hnil
    refine ⟨w ++ c :: q, by simp, hne q, fun r' => ?_⟩
    obtain ⟨os', hos', hbare⟩ := hlocal r'
    refine ⟨os', ?_, hbare⟩
    rw [List.append_assoc]
    exact spellsItems_iff.2 ⟨c, _, hspace _, .inr (.inl ⟨hb, hf, hos'⟩)⟩
  · have hlen' := length_lt_of_skipSpace ht
    obtain ⟨p, hp, hnil, hlocal⟩ := spellsItem_local hitem
    obtain ⟨v, rfl, hv, hdv⟩ := skipSpace_eq_cons.1 ht
    obtain ⟨q, rfl, rfl⟩ := exists_of_cons_eq_append hp hnil
    refine ⟨w ++ ',' :: (v ++ d :: q), by simp, hne _, fun r' => ?_⟩
    obtain ⟨os', hos', hbare⟩ := hlocal r'
    refine ⟨os', ?_, hbare⟩
    have hspace' : skipSpace (v ++ d :: (q ++ r')) = d :: (q ++ r') :=
      skipSpace_eq_cons.2 ⟨v, rfl, hv, hdv⟩
    rw [List.append_assoc, List.cons_append, List.append_assoc]
    exact spellsItems_iff.2
      ⟨',', _, hspace _, .inr (.inr ⟨rfl, hf, d, q ++ r', hspace', hd, hos'⟩)⟩
termination_by 3 * s.length + 2
decreasing_by
  all_goals simp only [List.length_cons, List.length_append] at *
  all_goals omega

theorem spellsItem_local {s r : List Char} {os : List Outline} (h : SpellsItem s os r) :
    ∃ p, s = p ++ r ∧ p ≠ [] ∧ ∀ r', ∃ os',
      SpellsItem (p ++ r') os' r' ∧ bareItems os' = bareItems os := by
  obtain ⟨o, os, t, rfl, ho, hos⟩ := spellsItem_iff.1 h
  have hlen := ho.length_lt
  -- The comma or the bracket that comes next stops the item, here and wherever it stands.
  obtain ⟨p, rfl, hne, hp⟩ := spells_local ho hos.stops
  obtain ⟨q, rfl, hne', hq⟩ := spellsItems_local hos
  refine ⟨p ++ q, by simp, by simp [hne], fun r' => ?_⟩
  obtain ⟨os', hos', hbare'⟩ := hq r'
  obtain ⟨o', ho', hbare⟩ := hp (q ++ r') (hos.stops.append hne' r')
  rw [List.append_assoc]
  refine ⟨o' :: os', spellsItem_iff.2 ⟨o', os', _, rfl, ho', hos'⟩, ?_⟩
  rw [bareItems, bareItems, hbare, hbare']
termination_by 3 * s.length + 1
decreasing_by all_goals omega

theorem spellsMembers_local {first : Bool} {s r : List Char} {ms : List (Key × Outline)}
    (h : SpellsMembers first s ms r) : ∃ p, s = p ++ r ∧ p ≠ [] ∧ ∀ r', ∃ ms',
      SpellsMembers first (p ++ r') ms' r' ∧ bareMembers ms' = bareMembers ms := by
  obtain ⟨c, t, hs, hcases⟩ := spellsMembers_iff.1 h
  have hlen := length_lt_of_skipSpace hs
  obtain ⟨w, rfl, hw, hc⟩ := skipSpace_eq_cons.1 hs
  have hspace (u : List Char) : skipSpace (w ++ c :: u) = c :: u :=
    skipSpace_eq_cons.2 ⟨w, rfl, hw, hc⟩
  have hne (p : List Char) : w ++ c :: p ≠ [] := by simp
  rcases hcases with ⟨rfl, rfl, rfl⟩ | ⟨rfl, hf, hmember⟩ | ⟨rfl, hf, u, ht, hmember⟩
  · refine ⟨w ++ ['}'], by simp, hne [], fun r' => ⟨[], ?_, rfl⟩⟩
    rw [List.append_assoc]
    exact spellsMembers_iff.2 ⟨'}', r', hspace _, .inl ⟨rfl, rfl, rfl⟩⟩
  · obtain ⟨p, rfl, -, hlocal⟩ := spellsMember_local hmember
    refine ⟨w ++ '"' :: p, by simp, hne p, fun r' => ?_⟩
    obtain ⟨ms', hms', hbare⟩ := hlocal r'
    refine ⟨ms', ?_, hbare⟩
    rw [List.append_assoc]
    exact spellsMembers_iff.2 ⟨'"', _, hspace _, .inr (.inl ⟨rfl, hf, hms'⟩)⟩
  · have hlen' := length_lt_of_skipSpace ht
    obtain ⟨p, rfl, -, hlocal⟩ := spellsMember_local hmember
    obtain ⟨v, rfl, hv, hdv⟩ := skipSpace_eq_cons.1 ht
    refine ⟨w ++ ',' :: (v ++ '"' :: p), by simp, hne _, fun r' => ?_⟩
    obtain ⟨ms', hms', hbare⟩ := hlocal r'
    refine ⟨ms', ?_, hbare⟩
    have hspace' : skipSpace (v ++ '"' :: (p ++ r')) = '"' :: (p ++ r') :=
      skipSpace_eq_cons.2 ⟨v, rfl, hv, hdv⟩
    rw [List.append_assoc, List.cons_append, List.append_assoc]
    exact spellsMembers_iff.2
      ⟨',', _, hspace _, .inr (.inr ⟨rfl, hf, p ++ r', hspace', hms'⟩)⟩
termination_by 3 * s.length + 2
decreasing_by
  all_goals simp only [List.length_cons, List.length_append] at *
  all_goals omega

theorem spellsMember_local {s r : List Char} {ms : List (Key × Outline)}
    (h : SpellsMember s ms r) : ∃ p, s = p ++ r ∧ p ≠ [] ∧ ∀ r', ∃ ms',
      SpellsMember (p ++ r') ms' r' ∧ bareMembers ms' = bareMembers ms := by
  obtain ⟨t, u, v, o, ms, hkey, hcolon, ho, hms, rfl⟩ := spellsMember_iff.1 h
  have ht := length_lt_of_passed hkey
  have hu := length_lt_of_skipSpace hcolon
  have hv := ho.length_lt
  obtain ⟨k, rfl, hne, hk⟩ := string_local hkey
  obtain ⟨w, rfl, hw, hc⟩ := skipSpace_eq_cons.1 hcolon
  obtain ⟨p, rfl, -, hp⟩ := spells_local ho hms.stops
  obtain ⟨q, rfl, hne', hq⟩ := spellsMembers_local hms
  refine ⟨k ++ w ++ ':' :: (p ++ q), by simp, by simp [hne], fun r' => ?_⟩
  obtain ⟨ms', hms', hbare'⟩ := hq r'
  obtain ⟨o', ho', hbare⟩ := hp (q ++ r') (hms.stops.append hne' r')
  obtain ⟨hpassed, hvalue⟩ := hk (w ++ ':' :: (p ++ (q ++ r')))
  have hcolon' : skipSpace (w ++ ':' :: (p ++ (q ++ r'))) = ':' :: (p ++ (q ++ r')) :=
    skipSpace_eq_cons.2 ⟨w, rfl, hw, hc⟩
  have happend : k ++ w ++ ':' :: (p ++ q) ++ r' = k ++ (w ++ ':' :: (p ++ (q ++ r'))) := by simp
  rw [happend]
  refine ⟨_, spellsMember_iff.2 ⟨_, _, _, o', ms', hpassed, hcolon', ho', hms', rfl⟩, ?_⟩
  rw [bareMembers, bareMembers, hbare, hbare', Key.bare, Key.bare, keyBefore, keyBefore,
    unplaced_map_of_valueOf hvalue String.ofList]
termination_by 3 * s.length + 1
decreasing_by
  all_goals simp only [List.length_cons, List.length_append] at *
  all_goals omega

end

def rest? : Outline → Option (List Char)
  | .null _ r => some r
  | .boolean _ _ r => some r
  | .number _ _ r => some r
  | .string _ _ r => some r
  | .array _ _ (.closed r) => some r
  | .object _ _ (.closed r) => some r
  | _ => none

/-- The part of the text that a closed value is. -/
def slice (o : Outline) : List Char := o.start.take (o.start.length - (o.rest?.getD []).length)

theorem Spells.start_rest {s r : List Char} {o : Outline} (h : Spells s o r) :
    skipSpace s = o.start ∧ o.rest? = some r := by
  obtain ⟨c, t, hs, ⟨rfl, os, -, rfl⟩ | ⟨rfl, ms, -, rfl⟩ | ⟨-, -, hscalar⟩⟩ := spells_iff.1 h
  · exact ⟨hs, rfl⟩
  · exact ⟨hs, rfl⟩
  · rcases ofScalar_to.1 hscalar with ⟨-, -, rfl⟩ | ⟨-, -, rfl⟩ | ⟨-, -, rfl⟩ | ⟨-, -, rfl⟩ |
      ⟨-, -, rfl⟩
    all_goals exact ⟨hs, rfl⟩

theorem Spells.start_eq {s r : List Char} {o : Outline} (h : Spells s o r) :
    Spells o.start o r ∧ o.start <:+ s := by
  obtain ⟨hstart, -⟩ := h.start_rest
  obtain ⟨c, t, hs, hcases⟩ := spells_iff.1 h
  obtain ⟨w, hw, -, hc⟩ := skipSpace_eq_cons.1 hs
  rw [← hstart, hs]
  exact ⟨spells_iff.2 ⟨c, t, skipSpace_cons_of_not hc t, hcases⟩, w, hw.symm⟩

theorem Spells.slice_append {s r : List Char} {o : Outline} (h : Spells s o r) (hr : Stops r) :
    o.start = o.slice ++ r := by
  obtain ⟨p, hp, -⟩ := spells_local h.start_eq.1 hr
  have htake : o.slice = p := by
    rw [slice, h.start_rest.2, Option.getD_some, hp, List.length_append, Nat.add_sub_cancel,
      List.take_left]
  rw [htake, hp]

/-- The part of a text that a value is has the same bare outline by itself. -/
theorem Spells.spells_slice {s r : List Char} {o : Outline} (h : Spells s o r) (hr : Stops r)
    (r' : List Char) (hr' : Stops r') :
    ∃ o', Spells (o.slice ++ r') o' r' ∧ o'.bare = o.bare := by
  obtain ⟨p, hp, -, hlocal⟩ := spells_local h.start_eq.1 hr
  have hslice := h.slice_append hr
  obtain rfl : o.slice = p := List.append_cancel_right (hslice.symm.trans hp)
  exact hlocal r' hr'

theorem suffix_of_skipSpace {s t : List Char} {c : Char} (h : skipSpace s = c :: t) :
    c :: t <:+ s := by
  obtain ⟨w, hw, -⟩ := skipSpace_eq_cons.1 h
  exact ⟨w, hw.symm⟩

theorem Spells.suffix {s r : List Char} {o : Outline} (h : Spells s o r) (hr : Stops r) :
    r <:+ s := by
  obtain ⟨p, rfl, -⟩ := spells_local h hr
  exact List.suffix_append p r

theorem SpellsItems.exists_item {first : Bool} {s r : List Char} {o : Outline}
    {os : List Outline} (h : SpellsItems first s (o :: os) r) :
    ∃ t u, t <:+ s ∧ Spells t o u ∧ SpellsItems false u os r := by
  obtain ⟨c, t, hs, ⟨-, he, -⟩ | ⟨-, -, hitem⟩ | ⟨rfl, -, d, u, ht, -, hitem⟩⟩ :=
    spellsItems_iff.1 h
  · exact nomatch he
  · obtain ⟨o, os, v, ⟨⟩, ho, hos⟩ := spellsItem_iff.1 hitem
    exact ⟨_, v, suffix_of_skipSpace hs, ho, hos⟩
  · obtain ⟨o, os, v, ⟨⟩, ho, hos⟩ := spellsItem_iff.1 hitem
    have hsuffix := (suffix_of_skipSpace ht).trans (List.suffix_cons ',' t)
    exact ⟨_, v, hsuffix.trans (suffix_of_skipSpace hs), ho, hos⟩

theorem SpellsMembers.exists_member {first : Bool} {s r : List Char} {m : Key × Outline}
    {ms : List (Key × Outline)} (h : SpellsMembers first s (m :: ms) r) :
    ∃ t u, t <:+ s ∧ Spells t m.2 u ∧ SpellsMembers false u ms r := by
  have hmember {t : List Char} (ht : t <:+ s) (hm : SpellsMember t (m :: ms) r) :
      ∃ t u, t <:+ s ∧ Spells t m.2 u ∧ SpellsMembers false u ms r := by
    obtain ⟨k, u, v, o, ms', hkey, hcolon, ho, hms, he⟩ := spellsMember_iff.1 hm
    cases he
    obtain ⟨p, rfl, -⟩ := skipString_local hkey
    have hu := (List.suffix_cons ':' u).trans (suffix_of_skipSpace hcolon)
    exact ⟨u, v, (hu.trans (List.suffix_append p k)).trans ht, ho, hms⟩
  obtain ⟨c, t, hs, ⟨-, he, -⟩ | ⟨rfl, -, hm⟩ | ⟨rfl, -, u, ht, hm⟩⟩ := spellsMembers_iff.1 h
  · exact nomatch he
  · exact hmember ((List.suffix_cons '"' t).trans (suffix_of_skipSpace hs)) hm
  · have hu := (List.suffix_cons '"' u).trans (suffix_of_skipSpace ht)
    exact hmember ((hu.trans (List.suffix_cons ',' t)).trans (suffix_of_skipSpace hs)) hm

theorem SpellsItems.exists_spells {first : Bool} {s r : List Char} {os : List Outline}
    (h : SpellsItems first s os r) {o : Outline} (ho : o ∈ os) :
    ∃ t u, t <:+ s ∧ Spells t o u ∧ Stops u := by
  induction os generalizing first s with
  | nil => exact nomatch ho
  | cons o' os ih =>
    obtain ⟨t, u, ht, ho', hos⟩ := h.exists_item
    rcases List.mem_cons.1 ho with rfl | ho
    · exact ⟨t, u, ht, ho', hos.stops⟩
    · obtain ⟨v, w, hv, hspells⟩ := ih hos ho
      exact ⟨v, w, (hv.trans (ho'.suffix hos.stops)).trans ht, hspells⟩

theorem SpellsMembers.exists_spells {first : Bool} {s r : List Char} {ms : List (Key × Outline)}
    (h : SpellsMembers first s ms r) {m : Key × Outline} (hm : m ∈ ms) :
    ∃ t u, t <:+ s ∧ Spells t m.2 u ∧ Stops u := by
  induction ms generalizing first s with
  | nil => exact nomatch hm
  | cons m' ms ih =>
    obtain ⟨t, u, ht, hm', hms⟩ := h.exists_member
    rcases List.mem_cons.1 hm with rfl | hm
    · exact ⟨t, u, ht, hm', hms.stops⟩
    · obtain ⟨v, w, hv, hspells⟩ := ih hms hm
      exact ⟨v, w, (hv.trans (hm'.suffix hms.stops)).trans ht, hspells⟩

def inner : Outline → List Outline
  | .array _ items _ => items
  | .object _ members _ => members.map Prod.snd
  | _ => []

theorem Spells.exists_inner {s r : List Char} {o i : Outline} (h : Spells s o r)
    (hi : i ∈ inner o) : ∃ t u, t <:+ s ∧ Spells t i u ∧ Stops u := by
  obtain ⟨c, t, hs, ⟨rfl, os, hos, rfl⟩ | ⟨rfl, ms, hms, rfl⟩ | ⟨-, -, hscalar⟩⟩ := spells_iff.1 h
  · obtain ⟨u, v, hu, hspells⟩ := hos.exists_spells hi
    exact ⟨u, v, (hu.trans (List.suffix_cons '[' t)).trans (suffix_of_skipSpace hs), hspells⟩
  · obtain ⟨m, hm, rfl⟩ := List.mem_map.1 hi
    obtain ⟨u, v, hu, hspells⟩ := hms.exists_spells hm
    exact ⟨u, v, (hu.trans (List.suffix_cons '{' t)).trans (suffix_of_skipSpace hs), hspells⟩
  · rcases ofScalar_to.1 hscalar with ⟨-, -, rfl⟩ | ⟨-, -, rfl⟩ | ⟨-, -, rfl⟩ | ⟨-, -, rfl⟩ |
      ⟨-, -, rfl⟩
    all_goals exact nomatch hi

end Outline

namespace Document

theorem spells_of_after {s : List Char} (h : (ofText s).after = .ok []) :
    ∃ r, Outline.Spells s (ofText s).root r ∧ skipSpace r = [] := by
  unfold ofText at h
  dsimp only at h
  cases hnext : (Outline.next s).2 with
  | error f =>
    rw [hnext] at h
    exact nomatch h
  | ok x =>
    rw [hnext] at h
    exact ⟨x.1, ⟨rfl, x.2, hnext⟩, Except.ok.inj h⟩

theorem ofText_of_spells {s r : List Char} {o : Outline} (h : Outline.Spells s o r)
    (hr : skipSpace r = []) : ofText s = ⟨o, .ok []⟩ := by
  obtain ⟨rfl, hlt, hnext⟩ := h
  unfold ofText
  dsimp only
  rw [hnext]
  exact congrArg _ (congrArg _ hr)

end Document
end DesignCompiler.Json
