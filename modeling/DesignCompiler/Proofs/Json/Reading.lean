import DesignCompiler.Json.Value
import Mathlib.Data.List.Forall2

set_option autoImplicit false

namespace DesignCompiler.Json

section Outcomes
variable {ε α β : Type}

theorem bind_eq_ok {x : Except ε α} {f : α → Except ε β} {b : β} :
    x >>= f = .ok b ↔ ∃ a, x = .ok a ∧ f a = .ok b := by
  cases x <;> simp [bind, Except.bind]

theorem map_eq_ok {x : Except ε α} {f : α → β} {b : β} :
    f <$> x = .ok b ↔ ∃ a, x = .ok a ∧ f a = b := by
  cases x <;> simp [Functor.map, Except.map]

theorem mapError_eq_ok {δ : Type} {x : Except ε α} {f : ε → δ} {a : α} :
    x.mapError f = .ok a ↔ x = .ok a := by
  cases x <;> simp [Except.mapError]

theorem mapM_eq_ok {f : α → Except ε β} {xs : List α} {ys : List β} :
    xs.mapM f = .ok ys ↔ List.Forall₂ (fun x y => f x = .ok y) xs ys := by
  induction xs generalizing ys with
  | nil => cases ys <;> simp [pure, Except.pure]
  | cons x xs ih =>
    rw [List.mapM_cons, bind_eq_ok]
    constructor
    · rintro ⟨y, hy, h⟩
      obtain ⟨ys', hys, h⟩ := bind_eq_ok.1 h
      cases h
      exact .cons hy (ih.1 hys)
    · intro h
      cases h with
      | cons hy hys => exact ⟨_, hy, bind_eq_ok.2 ⟨_, ih.2 hys, rfl⟩⟩

theorem exists_of_forall₂ {r : α → β → Prop} {xs : List α} {ys : List β}
    (h : List.Forall₂ r xs ys) {x : α} (hx : x ∈ xs) : ∃ y ∈ ys, r x y := by
  induction h with
  | nil => exact nomatch hx
  | cons hr _ ih =>
    rcases List.mem_cons.1 hx with rfl | hx
    · exact ⟨_, List.mem_cons_self, hr⟩
    · obtain ⟨y, hy, h⟩ := ih hx
      exact ⟨y, List.mem_cons_of_mem _ hy, h⟩

theorem forall₂_replace {r : α → β → Prop} {xs zs : List α} {x x' : α} {ys : List β}
    (hr : ∀ y, r x y → r x' y) (h : List.Forall₂ r (xs ++ x :: zs) ys) :
    List.Forall₂ r (xs ++ x' :: zs) ys := by
  induction xs generalizing ys with
  | nil =>
    cases h with
    | cons hx hzs => exact .cons (hr _ hx) hzs
  | cons z xs ih =>
    cases h with
    | cons hz h => exact .cons hz (ih h)

end Outcomes

theorem Close.read_eq_ok {c : Close} {u : Unit} : c.read = .ok u ↔ ∃ rest, c = .closed rest := by
  cases c <;> simp [Close.read]

namespace Outline
variable {α : Type}

def isNull : Outline → Bool
  | .null _ _ => true
  | _ => false

theorem readString_eq_ok {o : Outline} {s : String} :
    o.readString = .ok s ↔ ∃ start rest, o = .string (.ok s) start rest := by
  cases o <;> simp [readString]

theorem readOption_eq_ok {read : Outline → Except Issue α} {o : Outline} {x : Option α} :
    readOption read o = .ok x ↔
      (o.isNull = true ∧ x = none) ∨ (o.isNull = false ∧ ∃ y, read o = .ok y ∧ x = some y) := by
  cases o with
  | null start rest => simp [readOption, isNull, eq_comm]
  | _ =>
    simp only [readOption, isNull, map_eq_ok]
    simp [eq_comm]

theorem readList_eq_ok {item : Option (Outline → Except Issue α)} {o : Outline} {xs : List α} :
    readList item o = .ok xs ↔ ∃ read start items rest, item = some read ∧
      o = .array start items (.closed rest) ∧
        List.Forall₂ (fun o x => read o = .ok x) items xs := by
  cases o with
  | array start items close =>
    cases item with
    | none => simp [readList]
    | some read =>
      simp only [readList, bind_eq_ok, mapM_eq_ok, Close.read_eq_ok]
      constructor
      · rintro ⟨ys, hys, -, ⟨rest, rfl⟩, h⟩
        cases h
        exact ⟨read, start, items, rest, rfl, rfl, hys⟩
      · rintro ⟨_, _, _, rest, ⟨⟩, ⟨⟩, hxs⟩
        exact ⟨xs, hxs, (), ⟨rest, rfl⟩, rfl⟩
  | _ => simp [readList]

theorem readMap_eq_ok {value : Option (Outline → Except Issue α)} {o : Outline}
    {xs : List (String × α)} :
    readMap value o = .ok xs ↔ ∃ read start members rest, value = some read ∧
      o = .object start members (.closed rest) ∧
        List.Forall₂ (fun m x => m.1.text = .ok x.1 ∧ read m.2 = .ok x.2) members xs := by
  have hmember (read : Outline → Except Issue α) (m : Key × Outline) (x : String × α) :
      (do let key ← m.1.text; let x ← read m.2; return (key, x)) = .ok x ↔
        m.1.text = .ok x.1 ∧ read m.2 = .ok x.2 := by
    obtain ⟨key, y⟩ := x
    simp [bind_eq_ok, pure, Except.pure]
  cases o with
  | object start members close =>
    cases value with
    | none => simp [readMap]
    | some read =>
      rw [readMap, bind_eq_ok]
      simp only [mapM_eq_ok, hmember]
      simp only [bind_eq_ok, Close.read_eq_ok]
      constructor
      · rintro ⟨ys, hys, -, ⟨rest, rfl⟩, h⟩
        cases h
        exact ⟨read, start, members, rest, rfl, rfl, hys⟩
      · rintro ⟨_, _, _, rest, ⟨⟩, ⟨⟩, hxs⟩
        exact ⟨xs, hxs, (), ⟨rest, rfl⟩, rfl⟩
  | _ => simp [readMap]

end Outline

namespace Form
variable {φ σ α : Type}

theorem gatherMembers_cons_eq_ok {form : Form φ σ α} {put : φ → σ → Outline → Except Issue σ}
    {state state' : σ} {key : Key} {o : Outline} {rest : List (Key × Outline)} :
    form.gatherMembers put state ((key, o) :: rest) = .ok state' ↔ ∃ name, key.text = .ok name ∧
      ((form.ofKey? name = none ∧ o.skip = .ok () ∧ form.gatherMembers put state rest = .ok state') ∨
        ∃ field, form.ofKey? name = some field ∧ form.has field state = false ∧
          ∃ next, put field state o = .ok next ∧ form.gatherMembers put next rest = .ok state') := by
  rw [gatherMembers, bind_eq_ok]
  refine exists_congr fun name => and_congr_right fun _ => ?_
  cases hf : form.ofKey? name with
  | none => cases o.skip <;> simp [bind, Except.bind]
  | some field =>
    cases hh : form.has field state <;> simp [hh, bind_eq_ok]

theorem gatherItems_cons_eq_ok {put : φ → σ → Outline → Except Issue σ} {fields : List φ}
    {state : σ} {o : Outline} {rest : List Outline} {r : σ × Bool} :
    gatherItems put fields state (o :: rest) = .ok r ↔ ∃ field fields' next,
      fields = field :: fields' ∧ put field state o = .ok next ∧
        gatherItems put fields' next rest = .ok r := by
  cases fields with
  | nil => simp [gatherItems]
  | cons field fields => simp [gatherItems, bind_eq_ok]

theorem read_eq_ok {form : Form φ σ α} {put : Option (φ → σ → Outline → Except Issue σ)}
    {o : Outline} {x : α} :
    form.read put o = .ok x ↔ ∃ put', put = some put' ∧ ∃ state, form.finish state = .ok x ∧
      ((∃ start members rest, o = .object start members (.closed rest) ∧
          form.gatherMembers put' form.start members = .ok state) ∨
        ∃ start items rest complete, o = .array start items (.closed rest) ∧
          gatherItems put' form.order form.start items = .ok (state, complete)) := by
  cases o with
  | object start members close =>
    cases put with
    | none => simp [read]
    | some put =>
      rw [read, bind_eq_ok]
      cases close with
      | broken f => simp
      | closed rest =>
        constructor
        · rintro ⟨state, hs, h⟩
          cases hf : form.finish state with
          | error name => simp [hf] at h
          | ok y =>
            simp only [hf, Except.ok.injEq] at h
            exact ⟨put, rfl, state, by rw [hf, h], .inl ⟨start, members, rest, rfl, hs⟩⟩
        · rintro ⟨_, ⟨⟩, state, hf, ⟨_, _, _, ⟨⟩, hs⟩ | ⟨_, _, _, _, ⟨⟩, _⟩⟩
          exact ⟨state, hs, by simp [hf]⟩
  | array start items close =>
    cases put with
    | none => simp [read]
    | some put =>
      rw [read, bind_eq_ok]
      cases close with
      | broken f => simp
      | closed rest =>
        constructor
        · rintro ⟨⟨state, complete⟩, hs, h⟩
          cases hf : form.finish state with
          | error name => simp [hf] at h
          | ok y =>
            simp only [hf, Except.ok.injEq] at h
            exact ⟨put, rfl, state, by rw [hf, h], .inr ⟨start, items, rest, complete, rfl, hs⟩⟩
        · rintro ⟨_, ⟨⟩, state, hf, ⟨_, _, _, ⟨⟩, _⟩ | ⟨_, _, _, complete, ⟨⟩, hs⟩⟩
          exact ⟨(state, complete), hs, by simp [hf]⟩
  | _ => simp [read]

end Form

theorem readText_eq_ok {α : Type} {read : Outline → Except Issue α} {text : List Char} {x : α} :
    readText read text = .ok x ↔
      read (Document.ofText text).root = .ok x ∧ (Document.ofText text).after = .ok [] := by
  unfold readText
  dsimp only
  generalize Document.ofText text = document
  cases read document.root with
  | error i => simp
  | ok y =>
    cases ha : document.after with
    | error f => simp [Document.finish, ha, Except.mapError]
    | ok rest => cases rest <;> simp [Document.finish, ha, Except.mapError]

/-- What a reader does inside of a bracket, unless it is the last one that may be opened. -/
def inside {α : Type} (read : Nat → Outline → Except Issue α) :
    Nat → Option (Outline → Except Issue α)
  | 0 => none
  | depth + 1 => some (read depth)

theorem inside_eq_some {α : Type} {read : Nat → Outline → Except Issue α} {depth : Nat}
    {f : Outline → Except Issue α} :
    inside read depth = some f ↔ ∃ d, depth = d + 1 ∧ f = read d := by
  cases depth <;> simp [inside, eq_comm]

namespace Value

theorem ofOutline_array (depth : Nat) (start : List Char) (items : List Outline) (close : Close) :
    ofOutline depth (.array start items close) =
      .array <$> Outline.readList (inside ofOutline depth) (.array start items close) := by
  cases depth <;> rfl

theorem ofOutline_object (depth : Nat) (start : List Char) (members : List (Key × Outline))
    (close : Close) :
    ofOutline depth (.object start members close) = (fun ms => .object (sortMembers ms)) <$>
      Outline.readMap (inside ofOutline depth) (.object start members close) := by
  cases depth <;> rfl

theorem ofOutline_cases {depth : Nat} {o : Outline} {v : Value} (h : ofOutline depth o = .ok v) :
    (∃ start rest, o = .null start rest ∧ v = .null) ∨
    (∃ b start rest, o = .boolean b start rest ∧ v = .boolean b) ∨
    (∃ n start rest, o = .number (.ok n) start rest ∧ v = .number n) ∨
    (∃ s start rest, o = .string (.ok s) start rest ∧ v = .string s) ∨
    (∃ d start items rest vs, depth = d + 1 ∧ o = .array start items (.closed rest) ∧
      v = .array vs ∧ List.Forall₂ (fun o v => ofOutline d o = .ok v) items vs) ∨
    (∃ d start members rest xs, depth = d + 1 ∧ o = .object start members (.closed rest) ∧
      v = .object (sortMembers xs) ∧
        List.Forall₂ (fun m x => m.1.text = .ok x.1 ∧ ofOutline d m.2 = .ok x.2) members xs) := by
  cases o with
  | null start rest =>
    cases depth <;> cases h <;> exact .inl ⟨start, rest, rfl, rfl⟩
  | boolean b start rest =>
    cases depth <;> cases h <;> exact .inr (.inl ⟨b, start, rest, rfl, rfl⟩)
  | number n start rest =>
    have hn : n.map Value.number = .ok v := by cases depth <;> exact h
    obtain ⟨n, rfl, rfl⟩ := map_eq_ok.1 hn
    exact .inr (.inr (.inl ⟨n, start, rest, rfl, rfl⟩))
  | string s start rest =>
    have hs : s.map Value.string = .ok v := by cases depth <;> exact h
    obtain ⟨s, rfl, rfl⟩ := map_eq_ok.1 hs
    exact .inr (.inr (.inr (.inl ⟨s, start, rest, rfl, rfl⟩)))
  | array start items close =>
    rw [ofOutline_array] at h
    obtain ⟨vs, hvs, rfl⟩ := map_eq_ok.1 h
    obtain ⟨read, _, _, rest, hread, ⟨⟩, hall⟩ := Outline.readList_eq_ok.1 hvs
    obtain ⟨d, rfl, rfl⟩ := inside_eq_some.1 hread
    exact .inr (.inr (.inr (.inr (.inl ⟨d, _, _, rest, vs, rfl, rfl, rfl, hall⟩))))
  | object start members close =>
    rw [ofOutline_object] at h
    obtain ⟨xs, hxs, rfl⟩ := map_eq_ok.1 h
    obtain ⟨read, _, _, rest, hread, ⟨⟩, hall⟩ := Outline.readMap_eq_ok.1 hxs
    obtain ⟨d, rfl, rfl⟩ := inside_eq_some.1 hread
    exact .inr (.inr (.inr (.inr (.inr ⟨d, _, _, rest, xs, rfl, rfl, rfl, hall⟩))))
  | broken start f => cases depth <;> cases h

theorem ofOutline_of_array {depth : Nat} {o : Outline} {vs : List Value}
    (h : ofOutline depth o = .ok (.array vs)) :
    ∃ d start items rest, depth = d + 1 ∧ o = .array start items (.closed rest) ∧
      List.Forall₂ (fun o v => ofOutline d o = .ok v) items vs := by
  rcases ofOutline_cases h with ⟨_, _, -, hv⟩ | ⟨_, _, _, -, hv⟩ | ⟨_, _, _, -, hv⟩ |
    ⟨_, _, _, -, hv⟩ | ⟨d, start, items, rest, _, hd, ho, ⟨⟩, hall⟩ | ⟨_, _, _, _, _, -, -, hv, -⟩
  · exact nomatch hv
  · exact nomatch hv
  · exact nomatch hv
  · exact nomatch hv
  · exact ⟨d, start, items, rest, hd, ho, hall⟩
  · exact nomatch hv

theorem ofOutline_of_object {depth : Nat} {o : Outline} {ms : List (String × Value)}
    (h : ofOutline depth o = .ok (.object ms)) :
    ∃ d start members rest xs, depth = d + 1 ∧ o = .object start members (.closed rest) ∧
      ms = sortMembers xs ∧
        List.Forall₂ (fun m x => m.1.text = .ok x.1 ∧ ofOutline d m.2 = .ok x.2) members xs := by
  rcases ofOutline_cases h with ⟨_, _, -, hv⟩ | ⟨_, _, _, -, hv⟩ | ⟨_, _, _, -, hv⟩ |
    ⟨_, _, _, -, hv⟩ | ⟨_, _, _, _, _, -, -, hv, -⟩ | ⟨d, start, members, rest, xs, hd, ho, ⟨⟩, hall⟩
  · exact nomatch hv
  · exact nomatch hv
  · exact nomatch hv
  · exact nomatch hv
  · exact nomatch hv
  · exact ⟨d, start, members, rest, xs, hd, ho, rfl, hall⟩

end Value

namespace Outline

theorem skipItems_eq_ok {close : Close} {items : List Outline} :
    skipItems close items = .ok () ↔ close.skip = .ok () ∧ ∀ o ∈ items, o.skip = .ok () := by
  induction items with
  | nil => simp [skipItems]
  | cons o items ih =>
    rw [skipItems, bind_eq_ok, List.forall_mem_cons, and_left_comm]
    simp only [ih]
    exact ⟨fun ⟨_, h⟩ => h, fun h => ⟨(), h⟩⟩

theorem skipMembers_eq_ok {close : Close} {members : List (Key × Outline)} :
    skipMembers close members = .ok () ↔
      close.skip = .ok () ∧ ∀ m ∈ members, m.2.skip = .ok () := by
  induction members with
  | nil => simp [skipMembers]
  | cons m members ih =>
    rw [skipMembers, bind_eq_ok, List.forall_mem_cons, and_left_comm]
    simp only [ih]
    exact ⟨fun ⟨_, h⟩ => h, fun h => ⟨(), h⟩⟩

theorem skip_of_value {depth : Nat} {o : Outline} {v : Value}
    (h : Value.ofOutline depth o = .ok v) : o.skip = .ok () := by
  induction depth generalizing o v with
  | zero =>
    rcases Value.ofOutline_cases h with ⟨_, _, rfl, -⟩ | ⟨_, _, _, rfl, -⟩ | ⟨_, _, _, rfl, -⟩ |
      ⟨_, _, _, rfl, -⟩ | ⟨_, _, _, _, _, hd, -⟩ | ⟨_, _, _, _, _, hd, -⟩
    all_goals first | rfl | exact nomatch hd
  | succ depth ih =>
    rcases Value.ofOutline_cases h with ⟨_, _, rfl, -⟩ | ⟨_, _, _, rfl, -⟩ | ⟨_, _, _, rfl, -⟩ |
      ⟨_, _, _, rfl, -⟩ | ⟨_, _, _, _, _, ⟨⟩, rfl, -, hall⟩ | ⟨_, _, _, _, _, ⟨⟩, rfl, -, hall⟩
    · rfl
    · rfl
    · rfl
    · rfl
    · refine skipItems_eq_ok.2 ⟨rfl, fun o ho => ?_⟩
      obtain ⟨v, -, hv⟩ := exists_of_forall₂ hall ho
      exact ih hv
    · refine skipMembers_eq_ok.2 ⟨rfl, fun m hm => ?_⟩
      obtain ⟨x, -, -, hx⟩ := exists_of_forall₂ hall hm
      exact ih hx

end Outline
end DesignCompiler.Json
