import DesignCompiler.Json.Writer
import DesignCompiler.Proofs.Json.Locality

set_option autoImplicit false

namespace DesignCompiler.Json
namespace Outline

theorem spells_writeString (cs r : List Char) :
    ∃ o, Spells (writeString cs ++ r) o r ∧ o.readString = .ok (String.ofList cs) := by
  have hread := readString_writeString cs r
  have hscalar := ofScalar_to.2 (.inr (.inr (.inr (.inl
    ⟨rfl, skipString_of_readString hread, rfl⟩))))
  have htext : writeString cs ++ r = '"' :: (cs.flatMap escapeChar ++ '"' :: r) := by
    simp [writeString]
  rw [htext]
  refine ⟨_, spells_iff.2 ⟨'"', _, skipSpace_cons_of_not (by decide) _,
    .inr (.inr ⟨by decide, by decide, hscalar⟩)⟩, ?_⟩
  obtain ⟨x, hx, hvalue⟩ := map_eq_ok.1 hread
  rw [readString, hx]
  simp only [Except.map, (Prod.mk.inj hvalue).1]

theorem spells_writeOption (x : Option String) (r : List Char) :
    ∃ o, Spells (writeOption x ++ r) o r ∧ readOption readString o = .ok x := by
  cases x with
  | none =>
    have hscalar : (ofScalar 'n' (['u', 'l', 'l'] ++ r)).1 = .null (writeOption none ++ r) r ∧
        (ofScalar 'n' (['u', 'l', 'l'] ++ r)).2.To r :=
      ofScalar_to.2 (.inl ⟨rfl, rfl, rfl⟩)
    exact ⟨_, spells_iff.2 ⟨'n', _, skipSpace_cons_of_not (by decide) _,
      .inr (.inr ⟨by decide, by decide, hscalar⟩)⟩, rfl⟩
  | some s =>
    obtain ⟨o, ho, hread⟩ := spells_writeString s.toList r
    rw [String.ofList_toList] at hread
    obtain ⟨start, rest, rfl⟩ := readString_eq_ok.1 hread
    exact ⟨_, ho, readOption_eq_ok.2 (.inr ⟨rfl, s, hread, rfl⟩)⟩

theorem spellsMember_written (name : String) {value rest r : List Char} {o : Outline}
    {members : List (Key × Outline)} (ho : Spells value o rest)
    (hrest : SpellsMembers false rest members r) :
    ∃ k : Key, k.text = .ok name ∧
      SpellsMember (name.toList.flatMap escapeChar ++ '"' :: ':' :: value) ((k, o) :: members) r := by
  have hkey := readString_writeString name.toList (':' :: value)
  refine ⟨_, ?_, spellsMember_iff.2
    ⟨_, value, rest, o, members, skipString_of_readString hkey, rfl, ho, hrest, rfl⟩⟩
  obtain ⟨x, hx, hvalue⟩ := map_eq_ok.1 hkey
  rw [keyBefore, hx]
  simp only [Except.map, (Prod.mk.inj hvalue).1, String.ofList_toList]

section Members
variable {α : Type} {write : α → List Char} {read : Outline → Except Issue α}

/-- By induction on the members behind the first one: each of them follows a comma. -/
theorem spellsMember_writeMembers (h : ∀ a r, ∃ o, Spells (write a ++ r) o r ∧ read o = .ok a)
    (m : String × α) (ms : List (String × α)) (r : List Char) : ∃ t members,
      writeMembers ((m :: ms).map fun m => (m.1, write m.2)) ++ '}' :: r = '"' :: t ∧
        SpellsMember t members r ∧
          List.Forall₂ (fun k m => k.1.text = .ok m.1 ∧ read k.2 = .ok m.2) members (m :: ms) := by
  induction ms generalizing m with
  | nil =>
    obtain ⟨o, ho, hread⟩ := h m.2 ('}' :: r)
    have hclose : SpellsMembers false ('}' :: r) [] r :=
      spellsMembers_iff.2 ⟨'}', r, skipSpace_cons_of_not (by decide) _, .inl ⟨rfl, rfl, rfl⟩⟩
    obtain ⟨k, hk, hmember⟩ := spellsMember_written m.1 ho hclose
    exact ⟨_, _, by simp [writeMembers, writeMember, writeString], hmember, .cons ⟨hk, hread⟩ .nil⟩
  | cons next ms ih =>
    obtain ⟨t, members, ht, hmembers, hall⟩ := ih next
    obtain ⟨o, ho, hread⟩ := h m.2 (',' :: '"' :: t)
    have hrest : SpellsMembers false (',' :: '"' :: t) members r :=
      spellsMembers_iff.2 ⟨',', _, skipSpace_cons_of_not (by decide) _,
        .inr (.inr ⟨rfl, rfl, t, skipSpace_cons_of_not (by decide) _, hmembers⟩)⟩
    obtain ⟨k, hk, hmember⟩ := spellsMember_written m.1 ho hrest
    refine ⟨_, _, ?_, hmember, .cons ⟨hk, hread⟩ hall⟩
    rw [← ht]
    simp [writeMembers, writeMember, writeString]

theorem spells_writeObject (h : ∀ a r, ∃ o, Spells (write a ++ r) o r ∧ read o = .ok a)
    (m : String × α) (ms : List (String × α)) (r : List Char) : ∃ start members,
      Spells (writeObject ((m :: ms).map fun m => (m.1, write m.2)) ++ r)
          (.object start members (.closed r)) r ∧
        List.Forall₂ (fun k m => k.1.text = .ok m.1 ∧ read k.2 = .ok m.2) members (m :: ms) := by
  obtain ⟨t, members, ht, hmember, hall⟩ := spellsMember_writeMembers h m ms r
  have hmembers := spellsMembers_iff.2
    ⟨'"', t, skipSpace_cons_of_not (by decide) _, .inr (.inl ⟨rfl, rfl, hmember⟩)⟩
  have hobject := spells_iff.2
    ⟨'{', '"' :: t, skipSpace_cons_of_not (by decide) _, .inr (.inl ⟨rfl, members, hmembers, rfl⟩)⟩
  refine ⟨'{' :: '"' :: t, members, ?_, hall⟩
  rw [writeObject, List.cons_append, List.append_assoc, List.cons_append, List.nil_append, ht]
  exact hobject

end Members
end Outline

theorem readText_of_spells {α : Type} {read : Outline → Except Issue α} {s : List Char}
    {o : Outline} {x : α} (hs : Outline.Spells s o []) (ho : read o = .ok x) :
    readText read s = .ok x := by
  rw [readText_eq_ok, Document.ofText_of_spells hs rfl]
  exact ⟨ho, rfl⟩

end DesignCompiler.Json
