import DesignCompiler.Proofs.Json.Reading

set_option autoImplicit false

namespace DesignCompiler.Json

def nowhere : Issue := Problem.endInValue.before []

def unplaced {α : Type} (x : Except Issue α) : Except Issue α := x.mapError fun _ => nowhere

theorem unplaced_eq_ok {α : Type} {x : Except Issue α} {a : α} :
    unplaced x = .ok a ↔ x = .ok a := mapError_eq_ok

theorem map_unplaced_eq_ok {α β : Type} {x : Except Issue α} {f : α → β} {b : β} :
    (unplaced x).map f = .ok b ↔ x.map f = .ok b := by
  cases x <;> simp [unplaced, Except.mapError, Except.map]

theorem unplaced_eq_of_toOption {α : Type} {x y : Except Issue α}
    (h : x.toOption = y.toOption) : unplaced x = unplaced y := by
  cases x with
  | error i =>
    cases y with
    | error j => rfl
    | ok b => exact nomatch h
  | ok a =>
    cases y with
    | error j => exact nomatch h
    | ok b =>
      obtain rfl : a = b := Option.some.inj h
      rfl

def Key.bare (k : Key) : Key := ⟨unplaced k.text, []⟩

def Close.bare : Close → Close
  | .closed _ => .closed []
  | .broken _ => .broken (.same nowhere)

theorem Close.bare_eq_closed {c : Close} {rest : List Char} :
    c.bare = .closed rest ↔ rest = [] ∧ ∃ r, c = .closed r := by
  cases c <;> simp [Close.bare, eq_comm]

namespace Outline

mutual

def bare : Outline → Outline
  | .null _ _ => .null [] []
  | .boolean b _ _ => .boolean b [] []
  | .number n _ _ => .number (unplaced n) [] []
  | .string s _ _ => .string (unplaced s) [] []
  | .array _ items close => .array [] (bareItems items) close.bare
  | .object _ members close => .object [] (bareMembers members) close.bare
  | .broken _ _ => .broken [] (.same nowhere)

def bareItems : List Outline → List Outline
  | [] => []
  | o :: os => o.bare :: bareItems os

def bareMembers : List (Key × Outline) → List (Key × Outline)
  | [] => []
  | (k, o) :: ms => (k.bare, o.bare) :: bareMembers ms

end

theorem bareItems_eq_map (os : List Outline) : bareItems os = os.map bare := by
  induction os with
  | nil => rfl
  | cons o os ih => rw [bareItems, ih, List.map_cons]

theorem bareMembers_eq_map (ms : List (Key × Outline)) :
    bareMembers ms = ms.map fun m => (m.1.bare, m.2.bare) := by
  induction ms with
  | nil => rfl
  | cons m ms ih => rw [bareMembers, ih, List.map_cons]

theorem isNull_bare (o : Outline) : o.bare.isNull = o.isNull := by
  cases o <;> rfl

mutual

theorem skip_bare : (o : Outline) → (o.bare.skip = .ok () ↔ o.skip = .ok ())
  | .null _ _ => by simp [bare, skip]
  | .boolean _ _ _ => by simp [bare, skip]
  | .number _ _ _ => by simp [bare, skip]
  | .string _ _ _ => by simp [bare, skip]
  | .array _ items close => by
    rw [bare, skip, skip]
    exact skipItems_bare items close
  | .object _ members close => by
    rw [bare, skip, skip]
    exact skipMembers_bare members close
  | .broken _ _ => by simp [bare, skip]

theorem skipItems_bare : (os : List Outline) → (close : Close) →
    (skipItems close.bare (bareItems os) = .ok () ↔ skipItems close os = .ok ())
  | [], close => by
    rw [bareItems, skipItems, skipItems]
    cases close <;> simp [Close.bare, Close.skip]
  | o :: os, close => by
    rw [bareItems, skipItems, skipItems, bind_eq_ok, bind_eq_ok]
    exact exists_congr fun _ => and_congr (skip_bare o) (skipItems_bare os close)

theorem skipMembers_bare : (ms : List (Key × Outline)) → (close : Close) →
    (skipMembers close.bare (bareMembers ms) = .ok () ↔ skipMembers close ms = .ok ())
  | [], close => by
    rw [bareMembers, skipMembers, skipMembers]
    cases close <;> simp [Close.bare, Close.skip]
  | (k, o) :: ms, close => by
    rw [bareMembers, skipMembers, skipMembers, bind_eq_ok, bind_eq_ok]
    exact exists_congr fun _ => and_congr (skip_bare o) (skipMembers_bare ms close)

end

variable {α : Type}

/-- What is read depends on the bare outline only. -/
def Respects (read : Outline → Except Issue α) : Prop :=
  ∀ o x, read o.bare = .ok x ↔ read o = .ok x

theorem respects_readString : Respects readString := by
  intro o s
  cases o with
  | string t start rest =>
    rw [bare, readString, readString]
    exact unplaced_eq_ok
  | _ => simp [bare, readString]

theorem respects_readOption {read : Outline → Except Issue α} (h : Respects read) :
    Respects (readOption read) := by
  intro o x
  simp only [readOption_eq_ok, isNull_bare, h o]

theorem respects_readList {item : Option (Outline → Except Issue α)}
    (h : ∀ read ∈ item, Respects read) : Respects (readList item) := by
  intro o xs
  cases o with
  | array start items close =>
    have hall {read : Outline → Except Issue α} (hread : item = some read) :
        List.Forall₂ (fun o x => read o = .ok x) (bareItems items) xs ↔
          List.Forall₂ (fun o x => read o = .ok x) items xs := by
      rw [bareItems_eq_map, List.forall₂_map_left_iff]
      simp only [h read hread _ _]
    rw [bare, readList_eq_ok, readList_eq_ok]
    constructor
    · rintro ⟨read, _, _, rest, hread, he, hxs⟩
      injection he with _ hitems hclose
      subst hitems
      obtain ⟨-, r, rfl⟩ := Close.bare_eq_closed.1 hclose
      exact ⟨read, start, items, r, hread, rfl, (hall hread).1 hxs⟩
    · rintro ⟨read, _, _, rest, hread, he, hxs⟩
      cases he
      exact ⟨read, [], _, [], hread, rfl, (hall hread).2 hxs⟩
  | _ => simp [bare, readList]

theorem respects_readMap {value : Option (Outline → Except Issue α)}
    (h : ∀ read ∈ value, Respects read) : Respects (readMap value) := by
  intro o xs
  cases o with
  | object start members close =>
    have hall {read : Outline → Except Issue α} (hread : value = some read) :
        List.Forall₂ (fun m x => m.1.text = .ok x.1 ∧ read m.2 = .ok x.2) (bareMembers members) xs ↔
          List.Forall₂ (fun m x => m.1.text = .ok x.1 ∧ read m.2 = .ok x.2) members xs := by
      rw [bareMembers_eq_map, List.forall₂_map_left_iff]
      simp only [h read hread _ _, Key.bare, unplaced_eq_ok]
    rw [bare, readMap_eq_ok, readMap_eq_ok]
    constructor
    · rintro ⟨read, _, _, rest, hread, he, hxs⟩
      injection he with _ hmembers hclose
      subst hmembers
      obtain ⟨-, r, rfl⟩ := Close.bare_eq_closed.1 hclose
      exact ⟨read, start, members, r, hread, rfl, (hall hread).1 hxs⟩
    · rintro ⟨read, _, _, rest, hread, he, hxs⟩
      cases he
      exact ⟨read, [], _, [], hread, rfl, (hall hread).2 hxs⟩
  | _ => simp [bare, readMap]

theorem respects_map {β : Type} {read : Outline → Except Issue α} (h : Respects read)
    (f : α → β) : Respects fun o => f <$> read o := by
  intro o x
  simp only [map_eq_ok, h o]

end Outline

namespace Form
variable {φ σ α : Type} {put : φ → σ → Outline → Except Issue σ}

theorem gatherMembers_bare (form : Form φ σ α) (h : ∀ f s, Outline.Respects (put f s))
    (members : List (Key × Outline)) (s s' : σ) :
    form.gatherMembers put s (Outline.bareMembers members) = .ok s' ↔
      form.gatherMembers put s members = .ok s' := by
  induction members generalizing s with
  | nil => rfl
  | cons m members ih =>
    obtain ⟨k, o⟩ := m
    rw [Outline.bareMembers, gatherMembers_cons_eq_ok, gatherMembers_cons_eq_ok]
    simp only [Key.bare, unplaced_eq_ok, Outline.skip_bare, ih, h _ _ o]

theorem gatherItems_bare (h : ∀ f s, Outline.Respects (put f s)) (fields : List φ)
    (items : List Outline) (s : σ) (r : σ × Bool) :
    gatherItems put fields s (Outline.bareItems items) = .ok r ↔
      gatherItems put fields s items = .ok r := by
  induction items generalizing fields s with
  | nil => rfl
  | cons o items ih =>
    rw [Outline.bareItems, gatherItems_cons_eq_ok, gatherItems_cons_eq_ok]
    simp only [ih, h _ _ o]

theorem respects_read (form : Form φ σ α) {put : Option (φ → σ → Outline → Except Issue σ)}
    (h : ∀ p ∈ put, ∀ f s, Outline.Respects (p f s)) : Outline.Respects (form.read put) := by
  intro o x
  rw [read_eq_ok, read_eq_ok]
  refine exists_congr fun p => and_congr_right fun hp => exists_congr fun s =>
    and_congr_right fun _ => ?_
  cases o with
  | object start members close =>
    constructor
    · rintro (⟨_, _, rest, he, hs⟩ | ⟨_, _, _, _, he, -⟩)
      · injection he with _ hmembers hclose
        subst hmembers
        obtain ⟨-, r, rfl⟩ := Close.bare_eq_closed.1 hclose
        exact .inl ⟨start, members, r, rfl, (form.gatherMembers_bare (h p hp) _ _ _).1 hs⟩
      · exact nomatch he
    · rintro (⟨_, _, rest, he, hs⟩ | ⟨_, _, _, _, he, -⟩)
      · cases he
        exact .inl ⟨[], _, [], rfl, (form.gatherMembers_bare (h p hp) _ _ _).2 hs⟩
      · exact nomatch he
  | array start items close =>
    constructor
    · rintro (⟨_, _, _, he, -⟩ | ⟨_, _, rest, complete, he, hs⟩)
      · exact nomatch he
      · injection he with _ hitems hclose
        subst hitems
        obtain ⟨-, r, rfl⟩ := Close.bare_eq_closed.1 hclose
        exact .inr ⟨start, items, r, complete, rfl, (gatherItems_bare (h p hp) _ _ _ _).1 hs⟩
    · rintro (⟨_, _, _, he, -⟩ | ⟨_, _, rest, complete, he, hs⟩)
      · exact nomatch he
      · cases he
        exact .inr ⟨[], _, [], complete, rfl, (gatherItems_bare (h p hp) _ _ _ _).2 hs⟩
  | _ => simp [Outline.bare]

end Form

namespace Value

theorem respects_of_inside {depth : Nat}
    (h : ∀ read ∈ inside ofOutline depth, Outline.Respects read) :
    Outline.Respects (ofOutline depth) := by
  intro o v
  cases o with
  | array start items close =>
    rw [Outline.bare, ofOutline_array, ofOutline_array, map_eq_ok, map_eq_ok]
    have hlist := Outline.respects_readList h (.array start items close)
    rw [Outline.bare] at hlist
    simp only [hlist]
  | object start members close =>
    rw [Outline.bare, ofOutline_object, ofOutline_object, map_eq_ok, map_eq_ok]
    have hmap := Outline.respects_readMap h (.object start members close)
    rw [Outline.bare] at hmap
    simp only [hmap]
  | number n start rest => cases depth <;> simp [Outline.bare, ofOutline, map_unplaced_eq_ok]
  | string s start rest => cases depth <;> simp [Outline.bare, ofOutline, map_unplaced_eq_ok]
  | _ => cases depth <;> simp [Outline.bare, ofOutline]

theorem respects_ofOutline (depth : Nat) : Outline.Respects (ofOutline depth) := by
  induction depth with
  | zero => exact respects_of_inside fun _ h => nomatch h
  | succ depth ih =>
    refine respects_of_inside fun read h => ?_
    cases h
    exact ih

end Value
end DesignCompiler.Json
