import DesignCompiler.Design.Reading
import DesignCompiler.Proofs.Json.Members

set_option autoImplicit false

namespace DesignCompiler
open Json

theorem Field.ofKey?_eq_some {name : String} {f : Field} :
    Field.ofKey? name = some f ↔ name = f.key := by
  constructor
  · intro h
    have hf := List.find?_some (p := fun f : Field => decide (f.key = name)) h
    exact (of_decide_eq_true hf).symm
  · rintro rfl
    cases f <;> decide

theorem Field.ofKey?_eq_none {name : String} :
    Field.ofKey? name = none ↔ ∀ f : Field, name ≠ f.key := by
  constructor
  · intro h f e
    rw [Field.ofKey?_eq_some.2 e] at h
    exact nomatch h
  · intro h
    cases hf : Field.ofKey? name with
    | none => rfl
    | some f => exact absurd (Field.ofKey?_eq_some.1 hf) (h f)

theorem Field.key_injective {f g : Field} (h : f.key = g.key) : f = g := by
  have hf : Field.ofKey? f.key = some f := Field.ofKey?_eq_some.2 rfl
  rw [h, Field.ofKey?_eq_some.2 rfl] at hf
  exact (Option.some.inj hf).symm

namespace Draft

/-- What a field holds once it is given. -/
abbrev Slot : Field → Type
  | .id => String
  | .name => String
  | .type => String
  | .children => Option (List Node)
  | .style => Option Style
  | .characters => Option String

def get : (f : Field) → Draft → Option (Slot f)
  | .id, d => d.id
  | .name, d => d.name
  | .type, d => d.type
  | .children, d => d.children
  | .style, d => d.style
  | .characters, d => d.characters

def set : (f : Field) → Draft → Slot f → Draft
  | .id, d, x => { d with id := some x }
  | .name, d, x => { d with name := some x }
  | .type, d, x => { d with type := some x }
  | .children, d, x => { d with children := some x }
  | .style, d, x => { d with style := some x }
  | .characters, d, x => { d with characters := some x }

@[simp]
theorem get_set_self (f : Field) (d : Draft) (x : Slot f) : (d.set f x).get f = some x := by
  cases f <;> rfl

theorem get_set_of_ne {f g : Field} (h : g ≠ f) (d : Draft) (x : Slot f) :
    (d.set f x).get g = d.get g := by
  cases f <;> cases g <;> first | rfl | exact absurd rfl h

@[simp]
theorem get_empty (f : Field) : ({} : Draft).get f = none := by
  cases f <;> rfl

theorem has_eq_isSome (f : Field) (d : Draft) : has f d = (d.get f).isSome := by
  cases f <;> rfl

theorem ext_get {d e : Draft} (h : ∀ f, d.get f = e.get f) : d = e := by
  obtain ⟨i, n, t, c, s, x⟩ := d
  obtain ⟨i', n', t', c', s', x'⟩ := e
  obtain rfl : i = i' := h .id
  obtain rfl : n = n' := h .name
  obtain rfl : t = t' := h .type
  obtain rfl : c = c' := h .children
  obtain rfl : s = s' := h .style
  obtain rfl : x = x' := h .characters
  rfl

def readField (child : Option (Outline → Except Issue Node))
    (value : Option (Outline → Except Issue Value)) : (f : Field) → Outline → Except Issue (Slot f)
  | .id, o => o.readString
  | .name, o => o.readString
  | .type, o => o.readString
  | .children, o => Outline.readOption (Outline.readList child) o
  | .style, o => (fun ms => ms.map fun ms => Style.ofMembers (sortMembers ms)) <$>
      Outline.readOption (Outline.readMap value) o
  | .characters, o => Outline.readOption Outline.readString o

theorem put_eq_map (child : Option (Outline → Except Issue Node))
    (value : Option (Outline → Except Issue Value)) (f : Field) (d : Draft) (o : Outline) :
    Draft.put child value f d o = d.set f <$> readField child value f o := by
  cases f with
  | style =>
    simp only [Draft.put, readField]
    cases Outline.readOption (Outline.readMap value) o <;> rfl
  | _ => rfl

theorem put_eq_ok {child : Option (Outline → Except Issue Node)}
    {value : Option (Outline → Except Issue Value)} {f : Field} {d e : Draft} {o : Outline} :
    Draft.put child value f d o = .ok e ↔
      ∃ x, readField child value f o = .ok x ∧ d.set f x = e := by
  rw [put_eq_map, map_eq_ok]

def fieldOf : (f : Field) → Value → Except Problem (Slot f)
  | .id, .string s => .ok s
  | .id, v => .error (v.refusal .string)
  | .name, .string s => .ok s
  | .name, v => .error (v.refusal .string)
  | .type, .string s => .ok s
  | .type, v => .error (v.refusal .string)
  | .children, .null => .ok none
  | .children, .array items => some <$> Node.ofValues items
  | .children, v => .error (v.refusal .sequence)
  | .style, .null => .ok none
  | .style, .object members => .ok (some (.ofMembers members))
  | .style, v => .error (v.refusal .map)
  | .characters, .null => .ok none
  | .characters, .string s => .ok (some s)
  | .characters, v => .error (v.refusal .string)

theorem put_value_eq_map (f : Field) (d : Draft) (v : Value) :
    Node.put f d v = d.set f <$> fieldOf f v := by
  cases v with
  | array items =>
    cases f with
    | children =>
      rw [Node.put, fieldOf]
      cases Node.ofValues items <;> rfl
    | _ => rw [Node.put] <;> first | rfl | simp
  | _ => cases f <;> rw [Node.put] <;> first | rfl | simp

theorem put_value_eq_ok {f : Field} {d e : Draft} {v : Value} :
    Node.put f d v = .ok e ↔ ∃ x, fieldOf f v = .ok x ∧ d.set f x = e := by
  rw [put_value_eq_map, map_eq_ok]

theorem valuesOf_key_cons_self {k : Key} {f : Field} (h : k.text = .ok f.key) (o : Outline)
    (members : List (Key × Outline)) :
    valuesOf f.key ((k, o) :: members) = o :: valuesOf f.key members := by
  rw [valuesOf_cons, Key.spells_of_text h]
  simp

theorem valuesOf_key_cons_of_ne {k : Key} {name : String} {f : Field} (h : k.text = .ok name)
    (hf : name ≠ f.key) (o : Outline) (members : List (Key × Outline)) :
    valuesOf f.key ((k, o) :: members) = valuesOf f.key members := by
  rw [valuesOf_cons, Key.spells_of_text h]
  simp [hf]

theorem gatherMembers_eq_ok {child : Option (Outline → Except Issue Node)}
    {value : Option (Outline → Except Issue Value)} {d e : Draft}
    {members : List (Key × Outline)} :
    Draft.form.gatherMembers (Draft.put child value) d members = .ok e ↔
      (∀ m ∈ members, ∃ name, m.1.text = .ok name ∧
        (Field.ofKey? name = none → m.2.skip = .ok ())) ∧
      ∀ f : Field, (valuesOf f.key members = [] ∧ e.get f = d.get f) ∨
        ∃ o x, valuesOf f.key members = [o] ∧ d.get f = none ∧
          readField child value f o = .ok x ∧ e.get f = some x := by
  induction members generalizing d with
  | nil =>
    rw [Form.gatherMembers]
    constructor
    · intro h
      cases h
      exact ⟨by simp, fun f => .inl ⟨rfl, rfl⟩⟩
    · rintro ⟨-, h⟩
      refine congrArg _ (ext_get fun f => ?_)
      rcases h f with ⟨-, h⟩ | ⟨o, x, h, -⟩
      · exact h.symm
      · simp [valuesOf] at h
  | cons m members ih =>
    obtain ⟨k, o⟩ := m
    rw [Form.gatherMembers_cons_eq_ok]
    constructor
    · rintro ⟨name, hk, ⟨hname, hskip, h⟩ | ⟨g, hg, hhas, e', hput, h⟩⟩
      · obtain ⟨hall, hslots⟩ := ih.1 h
        refine ⟨List.forall_mem_cons.2 ⟨⟨name, hk, fun _ => hskip⟩, hall⟩, fun f => ?_⟩
        rw [valuesOf_key_cons_of_ne hk (Field.ofKey?_eq_none.1 hname f)]
        exact hslots f
      · obtain ⟨hall, hslots⟩ := ih.1 h
        have hnone : d.get g = none := by
          have hh : has g d = false := hhas
          rw [has_eq_isSome] at hh
          exact Option.isSome_eq_false_iff.1 hh |> Option.isNone_iff_eq_none.1
        obtain ⟨x, hx, rfl⟩ := put_eq_ok.1 hput
        obtain rfl : name = g.key := Field.ofKey?_eq_some.1 hg
        refine ⟨List.forall_mem_cons.2 ⟨⟨_, hk, fun hn => ?_⟩, hall⟩, fun f => ?_⟩
        · exact absurd rfl (Field.ofKey?_eq_none.1 hn g)
        · by_cases hf : f = g
          · subst hf
            rcases hslots f with ⟨hv, he⟩ | ⟨o', y, -, hd, -⟩
            · rw [get_set_self] at he
              refine .inr ⟨o, x, ?_, hnone, hx, he⟩
              rw [valuesOf_key_cons_self hk, hv]
            · rw [get_set_self] at hd
              cases hd
          · have hne : g.key ≠ f.key := fun e => hf (Field.key_injective e.symm)
            rw [valuesOf_key_cons_of_ne hk hne, ← get_set_of_ne hf d x]
            exact hslots f
    · rintro ⟨hall, hslots⟩
      obtain ⟨⟨name, hk, hskip⟩, hall⟩ := List.forall_mem_cons.1 hall
      refine ⟨name, hk, ?_⟩
      cases hname : Field.ofKey? name with
      | none =>
        refine .inl ⟨hname, hskip hname, ih.2 ⟨hall, fun f => ?_⟩⟩
        rw [← valuesOf_key_cons_of_ne hk (Field.ofKey?_eq_none.1 hname f) o]
        exact hslots f
      | some g =>
        obtain rfl : name = g.key := Field.ofKey?_eq_some.1 hname
        have hg := hslots g
        rw [valuesOf_key_cons_self hk] at hg
        rcases hg with ⟨hv, -⟩ | ⟨o', x, hv, hnone, hx, he⟩
        · cases hv
        · obtain ⟨rfl, hrest⟩ := List.cons.inj hv
          have hhas : has g d = false := by rw [has_eq_isSome, hnone]; rfl
          refine .inr ⟨g, hname, hhas, _, put_eq_ok.2 ⟨x, hx, rfl⟩, ih.2 ⟨hall, fun f => ?_⟩⟩
          by_cases hf : f = g
          · subst hf
            exact .inl ⟨hrest, he.trans (get_set_self f d x).symm⟩
          · have hne : g.key ≠ f.key := fun e => hf (Field.key_injective e.symm)
            rw [get_set_of_ne hf, ← valuesOf_key_cons_of_ne hk hne o]
            exact hslots f

theorem readField_of_gatherItems {child : Option (Outline → Except Issue Node)}
    {value : Option (Outline → Except Issue Value)} {fields : List Field} {d : Draft}
    {items : List Outline} {r : Draft × Bool}
    (h : Form.gatherItems (Draft.put child value) fields d items = .ok r) :
    ∀ p ∈ fields.zip items, ∃ x, readField child value p.1 p.2 = .ok x := by
  induction items generalizing fields d with
  | nil => simp
  | cons o items ih =>
    obtain ⟨f, fields, next, rfl, hput, h⟩ := Form.gatherItems_cons_eq_ok.1 h
    obtain ⟨x, hx, -⟩ := put_eq_ok.1 hput
    intro p hp
    rcases List.mem_cons.1 hp with rfl | hp
    · exact ⟨x, hx⟩
    · exact ih h p hp

/-- A draft `e` that holds what is `given` of a value, and besides what `d` holds. -/
def Filled (given : Field → Option Value) (d e : Draft) : Prop :=
  ∀ f : Field, (given f = none ∧ e.get f = d.get f) ∨
    ∃ v x, given f = some v ∧ fieldOf f v = .ok x ∧ e.get f = some x

theorem Filled.eq_of_none {given : Field → Option Value} {d e : Draft} (h : Filled given d e)
    (hnone : ∀ f, given f = none) : e = d := by
  refine ext_get fun f => ?_
  rcases h f with ⟨-, h⟩ | ⟨v, x, hv, -⟩
  · exact h
  · rw [hnone f] at hv
    exact nomatch hv

theorem filled_set {given rest : Field → Option Value} {d e : Draft} {g : Field} {v : Value}
    {x : Slot g} (hx : fieldOf g v = .ok x) (hself : given g = (rest g).or (some v))
    (hother : ∀ f, f ≠ g → given f = rest f) :
    Filled rest (d.set g x) e ↔ Filled given d e := by
  refine forall_congr' fun f => ?_
  by_cases hf : f = g
  · subst hf
    rw [hself, get_set_self]
    cases hr : rest f with
    | none => simp [hx, eq_comm]
    | some w => simp
  · rw [hother f hf, get_set_of_ne hf]

/-- An object of a value is gathered if every member that names a field can be read; of several
members of a name the last counts. -/
theorem gather_eq_ok_iff_filled {d e : Draft} {members : List (String × Value)} :
    Node.gather d members = .ok e ↔
      (∀ f v, (f.key, v) ∈ members → ∃ x : Slot f, fieldOf f v = .ok x) ∧
        Filled (fun f => members.reverse.lookup f.key) d e := by
  induction members generalizing d with
  | nil =>
    rw [Node.gather]
    constructor
    · intro h
      cases h
      exact ⟨by simp, fun f => .inl ⟨rfl, rfl⟩⟩
    · rintro ⟨-, h⟩
      rw [h.eq_of_none fun f => rfl]
  | cons m members ih =>
    obtain ⟨name, v⟩ := m
    have hlookup (k : String) : ((name, v) :: members).reverse.lookup k =
        (members.reverse.lookup k).or (if name = k then some v else none) := by
      rw [List.reverse_cons, List.lookup_append, lookup_cons_eq_ite]
      rfl
    cases hname : Field.ofKey? name with
    | none =>
      have hne := Field.ofKey?_eq_none.1 hname
      have hgiven : (fun f : Field => ((name, v) :: members).reverse.lookup f.key) =
          fun f => members.reverse.lookup f.key := by
        funext f
        rw [hlookup, if_neg (hne f), Option.or_none]
      rw [Node.gather, hname, ih, hgiven]
      refine and_congr_left fun _ => forall_congr' fun f => forall_congr' fun w => ?_
      simp [Ne.symm (hne f)]
    | some g =>
      obtain rfl : name = g.key := Field.ofKey?_eq_some.1 hname
      rw [Node.gather, hname, bind_eq_ok]
      have hrest {x : Slot g} (hx : fieldOf g v = .ok x) :
          Filled (fun f => members.reverse.lookup f.key) (d.set g x) e ↔
            Filled (fun f => ((g.key, v) :: members).reverse.lookup f.key) d e := by
        refine filled_set hx ?_ fun f hf => ?_
        · rw [hlookup, if_pos rfl]
        · rw [hlookup, if_neg fun he => hf (Field.key_injective he.symm), Option.or_none]
      constructor
      · rintro ⟨_, hput, h⟩
        obtain ⟨x, hx, rfl⟩ := put_value_eq_ok.1 hput
        obtain ⟨hall, hfilled⟩ := ih.1 h
        refine ⟨fun f w hw => ?_, (hrest hx).1 hfilled⟩
        rcases List.mem_cons.1 hw with he | hw
        · obtain ⟨hkey, rfl⟩ := Prod.mk.inj he
          obtain rfl := Field.key_injective hkey
          exact ⟨x, hx⟩
        · exact hall f w hw
      · rintro ⟨hall, hfilled⟩
        obtain ⟨x, hx⟩ := hall g v List.mem_cons_self
        exact ⟨d.set g x, put_value_eq_ok.2 ⟨x, hx, rfl⟩, ih.2
          ⟨fun f w hw => hall f w (List.mem_cons_of_mem _ hw), (hrest hx).2 hfilled⟩⟩

theorem gather_eq_ok {d e : Draft} {members : List (String × Value)} (ha : Ascending members) :
    Node.gather d members = .ok e ↔
      ∀ f : Field, (members.lookup f.key = none ∧ e.get f = d.get f) ∨
        ∃ v x, members.lookup f.key = some v ∧ fieldOf f v = .ok x ∧ e.get f = some x := by
  rw [gather_eq_ok_iff_filled]
  simp only [Filled, lookup_reverse_of_ascending ha]
  refine and_iff_right_of_imp fun h f v hv => ?_
  have hlookup := (lookup_eq_some_iff_mem ha.nodup).2 hv
  rcases h f with ⟨hnone, -⟩ | ⟨w, x, hw, hx, -⟩
  · rw [hlookup] at hnone
    exact nomatch hnone
  · rw [hlookup] at hw
    cases hw
    exact ⟨x, hx⟩

end Draft

namespace Node

abbrev readFieldAt (depth : Nat) (f : Field) (o : Outline) : Except Issue (Draft.Slot f) :=
  Draft.readField (inside ofOutline depth) (inside Value.ofOutline depth) f o

abbrev putAt (depth : Nat) : Field → Draft → Outline → Except Issue Draft :=
  Draft.put (inside ofOutline depth) (inside Value.ofOutline depth)

theorem ofOutline_eq_ok {depth : Nat} {o : Outline} {n : Node} :
    ofOutline depth o = .ok n ↔ ∃ d draft, depth = d + 1 ∧ draft.finish = .ok n ∧
      ((∃ start members rest, o = .object start members (.closed rest) ∧
          Draft.form.gatherMembers (putAt d) {} members = .ok draft) ∨
        ∃ start items rest complete, o = .array start items (.closed rest) ∧
          Form.gatherItems (putAt d) Field.order {} items = .ok (draft, complete)) := by
  cases depth with
  | zero =>
    rw [ofOutline, Form.read_eq_ok]
    simp
  | succ d =>
    have hread : ofOutline (d + 1) o = Draft.form.read (some (putAt d)) o := by cases d <;> rfl
    rw [hread, Form.read_eq_ok]
    constructor
    · rintro ⟨_, ⟨⟩, draft, hf, h⟩
      exact ⟨d, draft, rfl, hf, h⟩
    · rintro ⟨_, draft, ⟨⟩, hf, h⟩
      exact ⟨_, rfl, draft, hf, h⟩

theorem ofText_eq_ok {text : String} {n : Node} : ofText text = .ok n ↔
    ofOutline nestingLimit (Document.ofText text.toList).root = .ok n ∧
      (Document.ofText text.toList).after = .ok [] := by
  rw [ofText, mapError_eq_ok, readText_eq_ok]

end Node
end DesignCompiler
