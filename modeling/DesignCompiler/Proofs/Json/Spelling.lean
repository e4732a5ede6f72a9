import DesignCompiler.Proofs.Json.Locality
import DesignCompiler.Proofs.Json.Tokens

set_option autoImplicit false

/-!
# Spellings

A spelling is what a text says without the white space between its tokens: numbers and strings by
their characters, members in their order. Every text that is one value writes a spelling, and what is
read of the text depends on the spelling only.
-/
namespace DesignCompiler.Json

/-- A value as it is spelled. Strings and keys are what stands between their quotes. -/
inductive Spelling where
  | null
  | boolean (value : Bool)
  | number (digits : List Char)
  | string (body : List Char)
  | array (items : List Spelling)
  | object (members : List (List Char × Spelling))

def Space (w : List Char) : Prop := ∀ c ∈ w, isSpace c = true

def Separates (first : Bool) (s : List Char) : Prop :=
  if first then s = [] else ∃ w, Space w ∧ s = w ++ [',']

namespace Spelling

mutual

inductive Writes : Spelling → List Char → Prop
  | null : Writes .null ['n', 'u', 'l', 'l']
  | yes : Writes (.boolean true) ['t', 'r', 'u', 'e']
  | no : Writes (.boolean false) ['f', 'a', 'l', 's', 'e']
  | number {digits : List Char} (h : IsNumber digits) : Writes (.number digits) digits
  | string {body : List Char} (h : IsBody body) : Writes (.string body) ('"' :: (body ++ ['"']))
  | array {items : List Spelling} {text : List Char} (h : WritesItems true items text) :
      Writes (.array items) ('[' :: text)
  | object {members : List (List Char × Spelling)} {text : List Char}
      (h : WritesMembers true members text) : Writes (.object members) ('{' :: text)

inductive WritesItems : Bool → List Spelling → List Char → Prop
  | close {first : Bool} {w : List Char} (hw : Space w) : WritesItems first [] (w ++ [']'])
  | item {first : Bool} {sep w a rest : List Char} {t : Spelling} {ts : List Spelling}
      (hsep : Separates first sep) (hw : Space w) (h : Writes t a)
      (hrest : WritesItems false ts rest) :
      WritesItems first (t :: ts) (sep ++ (w ++ (a ++ rest)))

inductive WritesMembers : Bool → List (List Char × Spelling) → List Char → Prop
  | close {first : Bool} {w : List Char} (hw : Space w) : WritesMembers first [] (w ++ ['}'])
  | member {first : Bool} {sep w k u v a rest : List Char} {t : Spelling}
      {ts : List (List Char × Spelling)} (hsep : Separates first sep) (hw : Space w)
      (hk : IsBody k) (hu : Space u) (hv : Space v) (h : Writes t a)
      (hrest : WritesMembers false ts rest) : WritesMembers first ((k, t) :: ts)
        (sep ++ (w ++ '"' :: (k ++ '"' :: (u ++ ':' :: (v ++ (a ++ rest))))))

end

def WritesText (t : Spelling) (text : List Char) : Prop :=
  ∃ w a v, Space w ∧ Writes t a ∧ Space v ∧ text = w ++ (a ++ v)

def textOf (body : List Char) : Except Issue String :=
  (readString (body ++ ['"'])).map fun x => String.ofList x.1

mutual

def bare : Spelling → Outline
  | .null => .null [] []
  | .boolean b => .boolean b [] []
  | .number digits => .number (unplaced ((readNumber digits).map Prod.fst)) [] []
  | .string body => .string (unplaced (textOf body)) [] []
  | .array items => .array [] (bareItems items) (.closed [])
  | .object members => .object [] (bareMembers members) (.closed [])

def bareItems : List Spelling → List Outline
  | [] => []
  | t :: ts => t.bare :: bareItems ts

def bareMembers : List (List Char × Spelling) → List (Key × Outline)
  | [] => []
  | (k, t) :: ts => (⟨unplaced (textOf k), []⟩, t.bare) :: bareMembers ts

end

def bareMember (m : List Char × Spelling) : Key × Outline := (⟨unplaced (textOf m.1), []⟩, m.2.bare)

theorem bareItems_eq_map (ts : List Spelling) : bareItems ts = ts.map bare := by
  induction ts with
  | nil => rfl
  | cons t ts ih => rw [bareItems, ih, List.map_cons]

theorem bareMembers_eq_map (ms : List (List Char × Spelling)) :
    bareMembers ms = ms.map bareMember := by
  induction ms with
  | nil => rfl
  | cons m ms ih => rw [bareMembers, ih, List.map_cons, bareMember]

mutual

theorem skip_bare : (t : Spelling) → t.bare.skip = .ok ()
  | .null => rfl
  | .boolean _ => rfl
  | .number _ => rfl
  | .string _ => rfl
  | .array items => by
    rw [bare, Outline.skip]
    exact Outline.skipItems_eq_ok.2 ⟨rfl, skip_bareItems items⟩
  | .object members => by
    rw [bare, Outline.skip]
    exact Outline.skipMembers_eq_ok.2 ⟨rfl, skip_bareMembers members⟩

theorem skip_bareItems : (ts : List Spelling) → ∀ o ∈ bareItems ts, o.skip = .ok ()
  | [] => by simp [bareItems]
  | t :: ts => by
    rw [bareItems]
    exact List.forall_mem_cons.2 ⟨skip_bare t, skip_bareItems ts⟩

theorem skip_bareMembers : (ms : List (List Char × Spelling)) →
    ∀ m ∈ bareMembers ms, m.2.skip = .ok ()
  | [] => by simp [bareMembers]
  | (_, t) :: ms => by
    rw [bareMembers]
    exact List.forall_mem_cons.2 ⟨skip_bare t, skip_bareMembers ms⟩

end

section Tokens
variable {w s t r : List Char}

theorem skipSpace_append (hw : Space w) (s : List Char) : skipSpace (w ++ s) = skipSpace s :=
  List.dropWhile_append_of_pos hw

theorem spells_append (hw : Space w) {o : Outline} (h : Outline.Spells s o r) :
    Outline.Spells (w ++ s) o r := by
  rw [Outline.spells_iff, skipSpace_append hw]
  exact Outline.spells_iff.1 h

theorem valueOf_readString {b : List Char} (h : IsBody b) (r : List Char) :
    valueOf (readString (b ++ '"' :: r)) = valueOf (readString (b ++ ['"'])) := by
  obtain ⟨p, hp, -, hlocal⟩ := string_local (skipString_of_isBody h [])
  rw [List.append_nil] at hp
  have happend : b ++ '"' :: r = p ++ r := by rw [← hp, List.append_assoc]; rfl
  rw [happend]
  exact (hlocal r).2

theorem unplaced_textOf {b : List Char} (h : IsBody b) (r : List Char) :
    unplaced ((readString (b ++ '"' :: r)).map fun x => String.ofList x.1) =
      unplaced (textOf b) :=
  Outline.unplaced_map_of_valueOf (valueOf_readString h r) String.ofList

theorem unplaced_readNumber {d : List Char} (h : IsNumber d) (hr : Stops r) :
    unplaced ((readNumber (d ++ r)).map Prod.fst) = unplaced ((readNumber d).map Prod.fst) := by
  have hskip := skipNumber_of_isNumber h stops_nil
  rw [List.append_nil] at hskip
  obtain ⟨p, hp, -, -, v, hv⟩ := number_local hskip
  rw [List.append_nil] at hp
  subst hp
  have hvalue : valueOf (readNumber (d ++ r)) = valueOf (readNumber d) := by
    rw [hv r hr]
    have hnil := hv [] stops_nil
    rw [List.append_nil] at hnil
    exact hnil.symm
  exact Outline.unplaced_map_of_valueOf hvalue id

theorem IsNumber.head {d : List Char} (h : IsNumber d) :
    ∃ c s, d = c :: s ∧ (c = '-' ∨ isDigit c = true) := by
  obtain ⟨hsign, hwhole, -, -⟩ := h
  simp only [List.mem_cons, List.not_mem_nil, or_false] at hsign
  rcases hsign with rfl | rfl
  · cases hwhole with
    | zero => exact ⟨'0', _, rfl, .inr (by decide)⟩
    | digits _ hc => exact ⟨_, _, rfl, .inr hc⟩
  · exact ⟨'-', _, rfl, .inl rfl⟩

theorem Writes.head {t : Spelling} {a : List Char} (h : Writes t a) :
    ∃ c s, a = c :: s ∧ isSpace c = false ∧ c ≠ ']' := by
  cases h with
  | number h =>
    obtain ⟨c, s, rfl, rfl | hc⟩ := IsNumber.head h
    · exact ⟨_, _, rfl, by decide, by decide⟩
    · refine ⟨c, s, rfl, ?_, ?_⟩
      · refine Bool.eq_false_iff.2 fun hspace => ?_
        simp only [isSpace, Bool.or_eq_true, decide_eq_true_eq] at hspace
        rcases hspace with ((rfl | rfl) | rfl) | rfl <;> exact absurd hc (by decide)
      · rintro rfl
        exact absurd hc (by decide)
  | _ => exact ⟨_, _, rfl, by decide, by decide⟩

theorem spells_of_scalar {c : Char} {o : Outline} (hspace : isSpace c = false) (hb : c ≠ '[')
    (hm : c ≠ '{') (h : (Outline.ofScalar c t).1 = o ∧ (Outline.ofScalar c t).2.To r) :
    Outline.Spells (c :: t) o r :=
  Outline.spells_iff.2 ⟨c, t, skipSpace_cons_of_not hspace t, .inr (.inr ⟨hb, hm, h⟩)⟩

theorem spellsItems_of_item {first : Bool} {sep : List Char} (hsep : Separates first sep)
    (hw : Space w) {c : Char} (hc : isSpace c = false) (hclose : c ≠ ']') {os : List Outline}
    (h : Outline.SpellsItem (c :: s) os r) :
    Outline.SpellsItems first (sep ++ (w ++ c :: s)) os r := by
  have hspace : skipSpace (w ++ c :: s) = c :: s := skipSpace_eq_cons.2 ⟨w, rfl, hw, hc⟩
  cases first with
  | true =>
    obtain rfl : sep = [] := hsep
    exact Outline.spellsItems_iff.2 ⟨c, s, hspace, .inr (.inl ⟨hclose, rfl, h⟩)⟩
  | false =>
    obtain ⟨v, hv, rfl⟩ := hsep
    have hcomma : skipSpace (v ++ [','] ++ (w ++ c :: s)) = ',' :: (w ++ c :: s) :=
      skipSpace_eq_cons.2 ⟨v, by simp, hv, by decide⟩
    exact Outline.spellsItems_iff.2
      ⟨',', _, hcomma, .inr (.inr ⟨rfl, rfl, c, s, hspace, hclose, h⟩)⟩

theorem spellsMembers_of_member {first : Bool} {sep : List Char} (hsep : Separates first sep)
    (hw : Space w) {ms : List (Key × Outline)} (h : Outline.SpellsMember s ms r) :
    Outline.SpellsMembers first (sep ++ (w ++ '"' :: s)) ms r := by
  have hspace : skipSpace (w ++ '"' :: s) = '"' :: s :=
    skipSpace_eq_cons.2 ⟨w, rfl, hw, by decide⟩
  cases first with
  | true =>
    obtain rfl : sep = [] := hsep
    exact Outline.spellsMembers_iff.2 ⟨'"', s, hspace, .inr (.inl ⟨rfl, rfl, h⟩)⟩
  | false =>
    obtain ⟨v, hv, rfl⟩ := hsep
    have hcomma : skipSpace (v ++ [','] ++ (w ++ '"' :: s)) = ',' :: (w ++ '"' :: s) :=
      skipSpace_eq_cons.2 ⟨v, by simp, hv, by decide⟩
    exact Outline.spellsMembers_iff.2 ⟨',', _, hcomma, .inr (.inr ⟨rfl, rfl, s, hspace, h⟩)⟩

end Tokens

mutual

theorem exists_spells : (t : Spelling) → {a : List Char} → Writes t a → (r : List Char) →
    Stops r → ∃ o, Outline.Spells (a ++ r) o r ∧ o.bare = t.bare
  | .null, _, h, r, _ => by
    cases h
    exact ⟨.null (['n', 'u', 'l', 'l'] ++ r) r, spells_of_scalar (by decide) (by decide) (by decide)
      (Outline.ofScalar_to.2 (.inl ⟨rfl, rfl, rfl⟩)), rfl⟩
  | .boolean true, _, h, r, _ => by
    cases h
    exact ⟨.boolean true (['t', 'r', 'u', 'e'] ++ r) r,
      spells_of_scalar (by decide) (by decide) (by decide)
        (Outline.ofScalar_to.2 (.inr (.inl ⟨rfl, rfl, rfl⟩))), rfl⟩
  | .boolean false, _, h, r, _ => by
    cases h
    exact ⟨.boolean false (['f', 'a', 'l', 's', 'e'] ++ r) r,
      spells_of_scalar (by decide) (by decide) (by decide)
        (Outline.ofScalar_to.2 (.inr (.inr (.inl ⟨rfl, rfl, rfl⟩)))), rfl⟩
  | .number d, _, h, r, hr => by
    have hhead := h.head
    cases h with
    | number h =>
      have hskip := skipNumber_of_isNumber h hr
      have hvalue := unplaced_readNumber h hr
      obtain ⟨c, s, rfl, hc⟩ := IsNumber.head h
      obtain ⟨_, _, ⟨⟩, hspace, -⟩ := hhead
      have hopen : c ≠ '[' ∧ c ≠ '{' := by
        constructor
        · rintro rfl
          exact nomatch hc.resolve_left (by decide)
        · rintro rfl
          exact nomatch hc.resolve_left (by decide)
      have hdigit : (c = '-' || isDigit c) = true := by simpa using hc
      refine ⟨.number ((readNumber (c :: s ++ r)).map Prod.fst) (c :: s ++ r) r,
        spells_of_scalar hspace hopen.1 hopen.2
          (Outline.ofScalar_to.2 (.inr (.inr (.inr (.inr ⟨hdigit, hskip, rfl⟩))))), ?_⟩
      rw [Outline.bare, bare, hvalue]
  | .string b, _, h, r, _ => by
    cases h with
    | string h =>
      have happend : b ++ ['"'] ++ r = b ++ '"' :: r := by simp
      have hskip := skipString_of_isBody h r
      rw [List.cons_append, happend]
      refine ⟨_, spells_of_scalar (by decide) (by decide) (by decide)
        (Outline.ofScalar_to.2 (.inr (.inr (.inr (.inl ⟨rfl, hskip, rfl⟩))))), ?_⟩
      rw [Outline.bare, bare, unplaced_textOf h]
  | .array items, _, h, r, _ => by
    cases h with
    | array h =>
      obtain ⟨os, hos, hbare⟩ := exists_spellsItems items h r
      refine ⟨_, Outline.spells_iff.2 ⟨'[', _, skipSpace_cons_of_not (by decide) _,
        .inl ⟨rfl, os, hos, rfl⟩⟩, ?_⟩
      rw [Outline.bare, bare, hbare]
      rfl
  | .object members, _, h, r, _ => by
    cases h with
    | object h =>
      obtain ⟨ms, hms, hbare⟩ := exists_spellsMembers members h r
      refine ⟨_, Outline.spells_iff.2 ⟨'{', _, skipSpace_cons_of_not (by decide) _,
        .inr (.inl ⟨rfl, ms, hms, rfl⟩)⟩, ?_⟩
      rw [Outline.bare, bare, hbare]
      rfl

theorem exists_spellsItems : (ts : List Spelling) → {first : Bool} → {text : List Char} →
    WritesItems first ts text → (r : List Char) →
      ∃ os, Outline.SpellsItems first (text ++ r) os r ∧ Outline.bareItems os = bareItems ts
  | [], first, _, h, r => by
    cases h with
    | @close _ w hw =>
      have hclose : skipSpace (w ++ [']'] ++ r) = ']' :: r :=
        skipSpace_eq_cons.2 ⟨w, by simp, hw, by decide⟩
      exact ⟨[], Outline.spellsItems_iff.2 ⟨']', r, hclose, .inl ⟨rfl, rfl, rfl⟩⟩, rfl⟩
  | t :: ts, first, _, h, r => by
    cases h with
    | @item _ sep w a rest _ _ hsep hw h hrest =>
      obtain ⟨os, hos, hbares⟩ := exists_spellsItems ts hrest r
      obtain ⟨o, ho, hbare⟩ := exists_spells t h (rest ++ r) hos.stops
      have hitem := Outline.spellsItem_iff.2 ⟨o, os, _, rfl, ho, hos⟩
      obtain ⟨c, s, rfl, hspace, hclose⟩ := h.head
      have happend : sep ++ (w ++ (c :: s ++ rest)) ++ r = sep ++ (w ++ c :: (s ++ (rest ++ r))) := by
        simp
      rw [happend]
      refine ⟨o :: os, spellsItems_of_item hsep hw hspace hclose hitem, ?_⟩
      rw [Outline.bareItems, bareItems, hbare, hbares]

theorem exists_spellsMembers : (ts : List (List Char × Spelling)) → {first : Bool} →
    {text : List Char} → WritesMembers first ts text → (r : List Char) →
      ∃ ms, Outline.SpellsMembers first (text ++ r) ms r ∧ Outline.bareMembers ms = bareMembers ts
  | [], first, _, h, r => by
    cases h with
    | @close _ w hw =>
      have hclose : skipSpace (w ++ ['}'] ++ r) = '}' :: r :=
        skipSpace_eq_cons.2 ⟨w, by simp, hw, by decide⟩
      exact ⟨[], Outline.spellsMembers_iff.2 ⟨'}', r, hclose, .inl ⟨rfl, rfl, rfl⟩⟩, rfl⟩
  | (k, t) :: ts, first, _, h, r => by
    cases h with
    | @member _ sep w _ u v a rest _ _ hsep hw hk hu hv h hrest =>
      obtain ⟨ms, hms, hbares⟩ := exists_spellsMembers ts hrest r
      obtain ⟨o, ho, hbare⟩ := exists_spells t h (rest ++ r) hms.stops
      have hcolon : skipSpace (u ++ ':' :: (v ++ (a ++ (rest ++ r)))) =
          ':' :: (v ++ (a ++ (rest ++ r))) := skipSpace_eq_cons.2 ⟨u, rfl, hu, by decide⟩
      have hmember := Outline.spellsMember_iff.2
        ⟨_, _, _, o, ms, skipString_of_isBody hk _, hcolon, spells_append hv ho, hms, rfl⟩
      have happend : sep ++ (w ++ '"' :: (k ++ '"' :: (u ++ ':' :: (v ++ (a ++ rest))))) ++ r =
          sep ++ (w ++ '"' :: (k ++ '"' :: (u ++ ':' :: (v ++ (a ++ (rest ++ r)))))) := by
        simp
      rw [happend]
      refine ⟨_, spellsMembers_of_member hsep hw hmember, ?_⟩
      rw [Outline.bareMembers, bareMembers, hbare, hbares, Key.bare, Outline.keyBefore,
        unplaced_textOf hk]

end

theorem Space.append {w v : List Char} (hw : Space w) (hv : Space v) : Space (w ++ v) := by
  intro c hc
  rcases List.mem_append.1 hc with hc | hc
  · exact hw c hc
  · exact hv c hc

theorem separates_true : Separates true [] := rfl

theorem separates_comma {w : List Char} (hw : Space w) : Separates false (w ++ [',']) :=
  ⟨w, hw, rfl⟩

theorem exists_writes_scalar {c : Char} {t r : List Char} {o : Outline}
    (h : (Outline.ofScalar c t).1 = o ∧ (Outline.ofScalar c t).2.To r) :
    ∃ a x, c :: t = a ++ r ∧ Writes x a := by
  rcases Outline.ofScalar_to.1 h with ⟨rfl, rfl, -⟩ | ⟨rfl, rfl, -⟩ | ⟨rfl, rfl, -⟩ | ⟨rfl, ht, -⟩ |
    ⟨-, ht, -⟩
  · exact ⟨_, .null, rfl, .null⟩
  · exact ⟨_, .boolean true, rfl, .yes⟩
  · exact ⟨_, .boolean false, rfl, .no⟩
  · obtain ⟨b, rfl, hb⟩ := isBody_of_skipString ht
    exact ⟨_, .string b, by simp, .string hb⟩
  · obtain ⟨d, hd, hnumber⟩ := isNumber_of_skipNumber ht
    exact ⟨d, .number d, hd, .number hnumber⟩

mutual

/-- By induction on the length of the text, as it is taken apart. -/
theorem exists_writes {s r : List Char} {o : Outline} (h : Outline.Spells s o r) :
    ∃ w a t, s = w ++ (a ++ r) ∧ Space w ∧ Writes t a := by
  obtain ⟨c, t, hs, hcases⟩ := Outline.spells_iff.1 h
  have hlen := length_lt_of_skipSpace hs
  obtain ⟨w, rfl, hw, -⟩ := skipSpace_eq_cons.1 hs
  rcases hcases with ⟨rfl, os, hos, -⟩ | ⟨rfl, ms, hms, -⟩ | ⟨-, -, hscalar⟩
  · obtain ⟨text, ts, rfl, htext⟩ := exists_writesItems hos
    exact ⟨w, '[' :: text, .array ts, rfl, hw, .array htext⟩
  · obtain ⟨text, ts, rfl, htext⟩ := exists_writesMembers hms
    exact ⟨w, '{' :: text, .object ts, rfl, hw, .object htext⟩
  · obtain ⟨a, x, ha, hx⟩ := exists_writes_scalar hscalar
    exact ⟨w, a, x, by rw [ha], hw, hx⟩
termination_by 3 * s.length
decreasing_by all_goals omega

theorem exists_writesItems {first : Bool} {s r : List Char} {os : List Outline}
    (h : Outline.SpellsItems first s os r) :
    ∃ text ts, s = text ++ r ∧ WritesItems first ts text := by
  obtain ⟨c, t, hs, hcases⟩ := Outline.spellsItems_iff.1 h
  have hlen := length_lt_of_skipSpace hs
  obtain ⟨w, rfl, hw, -⟩ := skipSpace_eq_cons.1 hs
  rcases hcases with ⟨rfl, -, rfl⟩ | ⟨-, rfl, hitem⟩ | ⟨rfl, rfl, d, u, ht, -, hitem⟩
  · exact ⟨w ++ [']'], [], by simp, .close hw⟩
  · obtain ⟨v, a, x, text, ts, hv, hx, htext, he⟩ := exists_writesItem hitem
    refine ⟨[] ++ ((w ++ v) ++ (a ++ text)), x :: ts, ?_,
      .item separates_true (Space.append hw hv) hx htext⟩
    rw [he]
    simp
  · have hlen' := length_lt_of_skipSpace ht
    obtain ⟨v, a, x, text, ts, hv, hx, htext, he⟩ := exists_writesItem hitem
    obtain ⟨z, rfl, hz, -⟩ := skipSpace_eq_cons.1 ht
    refine ⟨(w ++ [',']) ++ ((z ++ v) ++ (a ++ text)), x :: ts, ?_,
      .item (separates_comma hw) (Space.append hz hv) hx htext⟩
    rw [he]
    simp
termination_by 3 * s.length + 2
decreasing_by
  all_goals simp only [List.length_cons, List.length_append] at *
  all_goals omega

theorem exists_writesItem {s r : List Char} {os : List Outline} (h : Outline.SpellsItem s os r) :
    ∃ w a t text ts, Space w ∧ Writes t a ∧ WritesItems false ts text ∧
      s = w ++ (a ++ (text ++ r)) := by
  obtain ⟨o, os, u, rfl, ho, hos⟩ := Outline.spellsItem_iff.1 h
  have hlen := ho.length_lt
  obtain ⟨w, a, t, rfl, hw, ht⟩ := exists_writes ho
  obtain ⟨text, ts, rfl, htext⟩ := exists_writesItems hos
  exact ⟨w, a, t, text, ts, hw, ht, htext, rfl⟩
termination_by 3 * s.length + 1
decreasing_by all_goals omega

theorem exists_writesMembers {first : Bool} {s r : List Char} {ms : List (Key × Outline)}
    (h : Outline.SpellsMembers first s ms r) :
    ∃ text ts, s = text ++ r ∧ WritesMembers first ts text := by
  obtain ⟨c, t, hs, hcases⟩ := Outline.spellsMembers_iff.1 h
  have hlen := length_lt_of_skipSpace hs
  obtain ⟨w, rfl, hw, -⟩ := skipSpace_eq_cons.1 hs
  rcases hcases with ⟨rfl, -, rfl⟩ | ⟨rfl, rfl, hmember⟩ | ⟨rfl, rfl, u, ht, hmember⟩
  · exact ⟨w ++ ['}'], [], by simp, .close hw⟩
  · obtain ⟨k, u, v, a, x, text, ts, hk, hu, hv, hx, htext, rfl⟩ := exists_writesMember hmember
    exact ⟨_, (k, x) :: ts, by simp, .member separates_true hw hk hu hv hx htext⟩
  · have hlen' := length_lt_of_skipSpace ht
    obtain ⟨k, y, v, a, x, text, ts, hk, hy, hv, hx, htext, rfl⟩ := exists_writesMember hmember
    obtain ⟨z, rfl, hz, -⟩ := skipSpace_eq_cons.1 ht
    exact ⟨_, (k, x) :: ts, by simp, .member (separates_comma hw) hz hk hy hv hx htext⟩
termination_by 3 * s.length + 2
decreasing_by
  all_goals simp only [List.length_cons, List.length_append] at *
  all_goals omega

theorem exists_writesMember {s r : List Char} {ms : List (Key × Outline)}
    (h : Outline.SpellsMember s ms r) : ∃ k u v a t text ts, IsBody k ∧ Space u ∧ Space v ∧
      Writes t a ∧ WritesMembers false ts text ∧
        s = k ++ '"' :: (u ++ ':' :: (v ++ (a ++ (text ++ r)))) := by
  obtain ⟨t, x, y, o, ms, hkey, hcolon, ho, hms, -⟩ := Outline.spellsMember_iff.1 h
  have ht := length_lt_of_passed hkey
  have hx := length_lt_of_skipSpace hcolon
  have hy := ho.length_lt
  obtain ⟨k, rfl, hk⟩ := isBody_of_skipString hkey
  obtain ⟨u, rfl, hu, -⟩ := skipSpace_eq_cons.1 hcolon
  obtain ⟨v, a, t, rfl, hv, hwrites⟩ := exists_writes ho
  obtain ⟨text, ts, rfl, htext⟩ := exists_writesMembers hms
  exact ⟨k, u, v, a, t, text, ts, hk, hu, hv, hwrites, htext, rfl⟩
termination_by 3 * s.length + 1
decreasing_by
  all_goals simp only [List.length_cons, List.length_append] at *
  all_goals omega

end

theorem WritesText.exists_root {t : Spelling} {text : List Char} (h : t.WritesText text) :
    ∃ o, Document.ofText text = ⟨o, .ok []⟩ ∧ o.bare = t.bare := by
  obtain ⟨w, a, v, hw, ha, hv, rfl⟩ := h
  have hend : skipSpace v = [] := skipSpace_eq_nil.2 hv
  obtain ⟨o, ho, hbare⟩ := exists_spells t ha v (stops_of_skipSpace_nil hend)
  exact ⟨o, Document.ofText_of_spells (spells_append hw ho) hend, hbare⟩

theorem exists_writesText {text : List Char} (h : (Document.ofText text).after = .ok []) :
    ∃ t : Spelling, t.WritesText text := by
  obtain ⟨v, hspells, hend⟩ := Document.spells_of_after h
  obtain ⟨w, a, t, htext, hw, ha⟩ := exists_writes hspells
  exact ⟨t, w, a, v, hw, ha, skipSpace_eq_nil.1 hend, htext⟩

/-- What is read of a text is what is read of the bare outline of its spelling. -/
theorem WritesText.readText_eq_ok {α : Type} {read : Outline → Except Issue α}
    (hread : Outline.Respects read) {t : Spelling} {text : List Char} (h : t.WritesText text)
    {x : α} : readText read text = .ok x ↔ read t.bare = .ok x := by
  obtain ⟨o, ho, hbare⟩ := h.exists_root
  rw [Json.readText_eq_ok, ho, ← hbare, hread o x]
  exact and_iff_left rfl

end Spelling
end DesignCompiler.Json
