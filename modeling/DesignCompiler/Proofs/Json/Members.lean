import DesignCompiler.Proofs.Json.Reading
import Mathlib.Data.List.Nodup

set_option autoImplicit false

namespace DesignCompiler.Json
variable {α : Type}

def Key.spells (k : Key) (name : String) : Bool :=
  match k.text with
  | .ok t => t = name
  | .error _ => false

theorem Key.spells_iff {k : Key} {name : String} : k.spells name = true ↔ k.text = .ok name := by
  rw [spells]
  cases k.text <;> simp

theorem Key.spells_of_text {k : Key} {t : String} (h : k.text = .ok t) (name : String) :
    k.spells name = decide (t = name) := by
  rw [spells, h]

def valuesOf (name : String) (members : List (Key × Outline)) : List Outline :=
  (members.filter fun m => m.1.spells name).map Prod.snd

theorem valuesOf_cons (name : String) (m : Key × Outline) (members : List (Key × Outline)) :
    valuesOf name (m :: members) =
      if m.1.spells name then m.2 :: valuesOf name members else valuesOf name members := by
  unfold valuesOf
  rw [List.filter_cons]
  split <;> rfl

theorem mem_valuesOf {name : String} {members : List (Key × Outline)} {o : Outline} :
    o ∈ valuesOf name members ↔ ∃ k, (k, o) ∈ members ∧ k.spells name = true := by
  simp only [valuesOf, List.mem_map, List.mem_filter]
  constructor
  · rintro ⟨⟨k, _⟩, h, rfl⟩
    exact ⟨k, h⟩
  · rintro ⟨k, h⟩
    exact ⟨(k, o), h, rfl⟩

theorem valuesOf_perm {ms ms' : List (Key × Outline)} (h : ms.Perm ms') (name : String) :
    (valuesOf name ms).Perm (valuesOf name ms') := (h.filter _).map _

theorem lookup_cons_eq_ite (k : String) (m : String × α) (rest : List (String × α)) :
    (m :: rest).lookup k = if m.1 = k then some m.2 else rest.lookup k := by
  obtain ⟨k', y⟩ := m
  by_cases h : k' = k
  · subst k'
    simp
  · have hb : (k == k') = false := beq_eq_false_iff_ne.2 fun e => h e.symm
    simp [List.lookup_cons, h, hb]

theorem lookup_map {β : Type} (f : α → β) (members : List (String × α)) (k : String) :
    (members.map fun m => (m.1, f m.2)).lookup k = (members.lookup k).map f := by
  induction members with
  | nil => rfl
  | cons m rest ih =>
    rw [List.map_cons, lookup_cons_eq_ite, lookup_cons_eq_ite, ih]
    split <;> rfl

theorem lookup_insertMember (key k : String) (x : α) (members : List (String × α)) :
    (insertMember key x members).lookup k = if key = k then some x else members.lookup k := by
  induction members with
  | nil => rw [insertMember, lookup_cons_eq_ite]
  | cons m rest ih =>
    obtain ⟨k', y⟩ := m
    rw [insertMember]
    split
    · rw [lookup_cons_eq_ite]
    · split
      · rename_i _ he
        rw [lookup_cons_eq_ite, lookup_cons_eq_ite, ← he]
        by_cases h : key = k <;> simp [h]
      · rename_i _ he
        rw [lookup_cons_eq_ite, lookup_cons_eq_ite, ih]
        by_cases hk : k' = k
        · have hne : key ≠ k := fun e => he (e.trans hk.symm)
          simp [hk, hne]
        · simp [hk]

/-- The last member of a name is the one that is kept. -/
theorem lookup_sortMembers (k : String) (members : List (String × α)) :
    (sortMembers members).lookup k = members.reverse.lookup k := by
  have hfold (ms sorted : List (String × α)) :
      (ms.foldl (fun sorted m => insertMember m.1 m.2 sorted) sorted).lookup k =
        (ms.reverse.lookup k).or (sorted.lookup k) := by
    induction ms generalizing sorted with
    | nil => simp
    | cons m ms ih =>
      rw [List.foldl_cons, ih, lookup_insertMember, List.reverse_cons, List.lookup_append,
        Option.or_assoc, lookup_cons_eq_ite]
      by_cases h : m.1 = k <;> simp [h]
  rw [sortMembers, hfold]
  simp

def Ascending (members : List (String × α)) : Prop := members.Pairwise fun a b => a.1 < b.1

theorem mem_insertMember {key : String} {x : α} {members : List (String × α)} {m : String × α}
    (h : m ∈ insertMember key x members) : m = (key, x) ∨ m ∈ members := by
  induction members with
  | nil => exact .inl (List.mem_singleton.1 h)
  | cons n rest ih =>
    rw [insertMember] at h
    split at h
    · exact List.mem_cons.1 h
    · split at h
      · exact (List.mem_cons.1 h).imp_right (List.mem_cons_of_mem n)
      · rcases List.mem_cons.1 h with rfl | h
        · exact .inr List.mem_cons_self
        · exact (ih h).imp_right (List.mem_cons_of_mem n)

theorem ascending_insertMember (key : String) (x : α) (members : List (String × α))
    (h : Ascending members) : Ascending (insertMember key x members) := by
  induction members with
  | nil => exact List.pairwise_singleton _ _
  | cons m rest ih =>
    obtain ⟨k, y⟩ := m
    obtain ⟨hk, hrest⟩ := List.pairwise_cons.1 h
    rw [insertMember]
    split
    · rename_i hlt
      refine List.pairwise_cons.2 ⟨fun n hn => ?_, h⟩
      rcases List.mem_cons.1 hn with rfl | hn
      · exact hlt
      · exact String.lt_trans hlt (hk n hn)
    · split
      · rename_i _ he
        subst he
        exact List.pairwise_cons.2 ⟨hk, hrest⟩
      · rename_i hlt he
        have hgt : k < key := by
          by_cases hg : k < key
          · exact hg
          · exact absurd (String.le_antisymm (String.not_lt.1 hg) (String.not_lt.1 hlt)) he
        refine List.pairwise_cons.2 ⟨fun n hn => ?_, ih hrest⟩
        rcases mem_insertMember hn with rfl | hn
        · exact hgt
        · exact hk n hn

theorem ascending_sortMembers (members : List (String × α)) : Ascending (sortMembers members) := by
  have hfold (ms sorted : List (String × α)) (h : Ascending sorted) :
      Ascending (ms.foldl (fun sorted m => insertMember m.1 m.2 sorted) sorted) := by
    induction ms generalizing sorted with
    | nil => exact h
    | cons m ms ih => exact ih _ (ascending_insertMember m.1 m.2 sorted h)
  exact hfold members [] List.Pairwise.nil

theorem mem_of_mem_sortMembers {members : List (String × α)} {m : String × α}
    (h : m ∈ sortMembers members) : m ∈ members := by
  have hfold (ms sorted : List (String × α))
      (h : m ∈ ms.foldl (fun sorted m => insertMember m.1 m.2 sorted) sorted) :
      m ∈ ms ∨ m ∈ sorted := by
    induction ms generalizing sorted with
    | nil => exact .inr h
    | cons n ms ih =>
      rcases ih _ h with hm | hm
      · exact .inl (List.mem_cons_of_mem n hm)
      · rcases mem_insertMember hm with rfl | hm
        · exact .inl List.mem_cons_self
        · exact .inr hm
  rcases hfold members [] h with hm | hm
  · exact hm
  · exact nomatch hm

theorem Ascending.nodup {members : List (String × α)} (h : Ascending members) :
    (members.map Prod.fst).Nodup := by
  refine List.pairwise_map.2 (h.imp fun {a b} hlt he => ?_)
  rw [he] at hlt
  exact String.lt_irrefl _ hlt

theorem lookup_eq_some_iff_mem {κ : Type} [BEq κ] [LawfulBEq κ] {members : List (κ × α)}
    (h : (members.map Prod.fst).Nodup) {k : κ} {x : α} :
    members.lookup k = some x ↔ (k, x) ∈ members := by
  induction members with
  | nil => simp
  | cons m rest ih =>
    obtain ⟨k', y⟩ := m
    obtain ⟨hk, hrest⟩ := List.nodup_cons.1 h
    rw [List.lookup_cons, List.mem_cons, Prod.mk.injEq]
    by_cases he : k = k'
    · subst he
      have hnot : (k, x) ∉ rest := fun hm => hk (List.mem_map.2 ⟨_, hm, rfl⟩)
      simp [hnot, eq_comm]
    · simp [beq_eq_false_iff_ne.2 he, he, ih hrest]

theorem mem_keys_sortMembers {members : List (String × α)} {k : String} :
    k ∈ (sortMembers members).map Prod.fst ↔ k ∈ members.map Prod.fst := by
  constructor
  · intro hk
    obtain ⟨m, hm, rfl⟩ := List.mem_map.1 hk
    exact List.mem_map_of_mem (mem_of_mem_sortMembers hm)
  · intro hk
    obtain ⟨m, hm, rfl⟩ := List.mem_map.1 hk
    have hsome : ((sortMembers members).lookup m.1).isSome := by
      rw [lookup_sortMembers, List.lookup_isSome_iff]
      exact ⟨m, List.mem_reverse.2 hm, beq_self_eq_true _⟩
    obtain ⟨x, hx⟩ := Option.isSome_iff_exists.1 hsome
    have hmem := (lookup_eq_some_iff_mem (ascending_sortMembers members).nodup).1 hx
    exact List.mem_map.2 ⟨_, hmem, rfl⟩

theorem sortMembers_of_perm {xs ys : List (String × α)} (h : xs.Perm ys)
    (hnodup : (xs.map Prod.fst).Nodup) : sortMembers xs = sortMembers ys := by
  have hkeys {zs : List (String × α)} (hz : (zs.map Prod.fst).Nodup) (m : String × α) :
      m ∈ sortMembers zs ↔ m ∈ zs := by
    have hreverse : (zs.reverse.map Prod.fst).Nodup := by
      rw [List.map_reverse]
      exact List.nodup_reverse.2 hz
    have hlookup := lookup_eq_some_iff_mem hreverse (k := m.1) (x := m.2)
    rw [← lookup_sortMembers, lookup_eq_some_iff_mem (ascending_sortMembers zs).nodup,
      List.mem_reverse] at hlookup
    exact hlookup
  have hys : (ys.map Prod.fst).Nodup := (h.map _).nodup_iff.1 hnodup
  have hperm : (sortMembers xs).Perm (sortMembers ys) := by
    rw [List.perm_ext_iff_of_nodup (ascending_sortMembers xs).nodup.of_map
      (ascending_sortMembers ys).nodup.of_map]
    intro m
    rw [hkeys hnodup, hkeys hys, h.mem_iff]
  refine hperm.eq_of_pairwise ?_ (ascending_sortMembers xs) (ascending_sortMembers ys)
  intro a b _ _ hab hba
  exact absurd (String.lt_trans hab hba) (String.lt_irrefl _)

theorem lookup_reverse_of_ascending {members : List (String × α)} (h : Ascending members)
    (k : String) : members.reverse.lookup k = members.lookup k := by
  have hreverse : (members.reverse.map Prod.fst).Nodup := by
    rw [List.map_reverse]
    exact List.pairwise_reverse.2 (h.nodup.imp Ne.symm)
  ext x
  rw [lookup_eq_some_iff_mem hreverse, lookup_eq_some_iff_mem h.nodup, List.mem_reverse]

theorem lookup_reverse_of_forall₂ (read : Outline → α → Prop) {members : List (Key × Outline)}
    {xs : List (String × α)} (name : String)
    (h : List.Forall₂ (fun m x => m.1.text = .ok x.1 ∧ read m.2 x.2) members xs) :
    Option.Rel read (valuesOf name members).getLast? (xs.reverse.lookup name) := by
  induction h with
  | nil => exact .none
  | @cons m x members xs hm _ ih =>
    rw [valuesOf_cons, Key.spells_of_text hm.1, List.reverse_cons, List.lookup_append,
      lookup_cons_eq_ite]
    by_cases hx : x.1 = name
    · simp only [hx, decide_true, ite_true, List.getLast?_cons]
      generalize (valuesOf name members).getLast? = a at ih ⊢
      generalize xs.reverse.lookup name = b at ih ⊢
      cases ih with
      | none => exact .some hm.2
      | some hab => exact .some hab
    · simpa [hx] using ih

end DesignCompiler.Json
