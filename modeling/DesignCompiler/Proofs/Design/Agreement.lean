import DesignCompiler.Proofs.Design.Fields
import Mathlib

set_option autoImplicit false

/-!
# Reading a text and reading its value

A node can be read from its text as it comes, or from the value that the whole text reads as. The
one refuses a field that is given twice and passes over what it does not know, the other keeps the
last of each name and reads everything. The main statement is that they agree: what the text gives
the value gives, and the other way round unless some node repeats a field.
-/
namespace DesignCompiler
open Json

def Json.Outline.elements : Outline → List Outline
  | .array _ items _ => items
  | _ => []

namespace Node

def childOutlines : Outline → List Outline
  | .object _ members _ => (valuesOf Field.children.key members).flatMap Outline.elements
  | .array _ items _ => (items[3]?).elim [] Outline.elements
  | _ => []

/-- The places of nodes: the root, and the children of what is at the place of a node. -/
inductive Place : Outline → Outline → Prop where
  | root (o : Outline) : Place o o
  | child {o c p : Outline} (h : c ∈ childOutlines o) (hp : Place c p) : Place o p

/-- Whether an object gives each field of a node at most once. -/
def FieldsOnce : Outline → Prop
  | .object _ members _ => ∀ f : Field, (valuesOf f.key members).length ≤ 1
  | _ => True

def RepeatsNoField (o : Outline) : Prop := ∀ p, Place o p → FieldsOnce p

theorem RepeatsNoField.child {o c : Outline} (h : RepeatsNoField o) (hc : c ∈ childOutlines o) :
    RepeatsNoField c := fun p hp => h p (.child hc hp)

theorem repeatsNoField_of_children {o : Outline} (ho : FieldsOnce o)
    (hc : ∀ c ∈ childOutlines o, RepeatsNoField c) : RepeatsNoField o := by
  intro p hp
  cases hp with
  | root => exact ho
  | child h hp => exact hc _ h p hp

theorem mem_childOutlines_array {start : List Char} {items : List Outline} {close : Close}
    {c : Outline} : c ∈ childOutlines (.array start items close) ↔
      ∃ o, (Field.children, o) ∈ Field.order.zip items ∧ c ∈ o.elements := by
  have h3 (o : Outline) : (Field.children, o) ∈ Field.order.zip items ↔ items[3]? = some o := by
    rcases items with _ | ⟨i, _ | ⟨j, _ | ⟨k, _ | ⟨l, items⟩⟩⟩⟩
    · simp [Field.order]
    · simp [Field.order]
    · simp [Field.order]
    · simp [Field.order]
    · rcases items with _ | ⟨m, _ | ⟨q, items⟩⟩ <;> simp [Field.order, eq_comm]
  simp only [h3, childOutlines]
  cases items[3]? <;> simp

theorem mem_childOutlines_object {start : List Char} {members : List (Key × Outline)}
    {close : Close} {c : Outline} : c ∈ childOutlines (.object start members close) ↔
      ∃ o ∈ valuesOf Field.children.key members, c ∈ o.elements := List.mem_flatMap

theorem ofValue?_object_eq_ok {members : List (String × Value)} {n : Node} :
    ofValue? (.object members) = .ok n ↔
      ∃ draft, gather {} members = .ok draft ∧ draft.finish = .ok n := by
  rw [ofValue?, bind_eq_ok]
  simp only [mapError_eq_ok]

theorem ofValue?_array_eq_ok {items : List Value} {n : Node} :
    ofValue? (.array items) = .ok n ↔
      ∃ draft, fill items.length Field.order {} items = .ok draft ∧ draft.finish = .ok n := by
  rw [ofValue?, bind_eq_ok]
  simp only [mapError_eq_ok]

theorem ofValues_eq_ok {vs : List Value} {ns : List Node} :
    ofValues vs = .ok ns ↔ List.Forall₂ (fun v n => ofValue? v = .ok n) vs ns := by
  induction vs generalizing ns with
  | nil => cases ns <;> simp [ofValues]
  | cons v vs ih =>
    rw [ofValues, bind_eq_ok]
    constructor
    · rintro ⟨n, hn, h⟩
      obtain ⟨ns', hns, h⟩ := bind_eq_ok.1 h
      cases h
      exact .cons hn (ih.1 hns)
    · intro h
      cases h with
      | cons hn hns => exact ⟨_, hn, bind_eq_ok.2 ⟨_, ih.2 hns, rfl⟩⟩

def Agree (depth : Nat) (o : Outline) : Prop :=
  ∀ v, Value.ofOutline depth o = .ok v → ∀ n, ofOutline depth o = .ok n ↔ ofValue? v = .ok n

theorem readField_iff_fieldOf {depth : Nat} {o : Outline} {v : Value} (f : Field)
    (hv : Value.ofOutline depth o = .ok v)
    (hc : f = .children → ∀ c ∈ o.elements, ∀ d, depth = d + 1 → Agree d c) (x : Draft.Slot f) :
    readFieldAt depth f o = .ok x ↔ Draft.fieldOf f v = .ok x := by
  rcases Value.ofOutline_cases hv with ⟨_, _, rfl, rfl⟩ | ⟨_, _, _, rfl, rfl⟩ |
    ⟨_, _, _, rfl, rfl⟩ | ⟨_, _, _, rfl, rfl⟩ | ⟨d, start, items, rest, vs, rfl, rfl, rfl, hall⟩ |
    ⟨d, start, members, rest, xs, rfl, rfl, rfl, hall⟩
  · cases f <;> simp [Draft.readField, Draft.fieldOf, Outline.readString, Outline.readOption,
      Functor.map, Except.map]
  · cases f <;> simp [Draft.readField, Draft.fieldOf, Outline.readString, Outline.readOption,
      Outline.readList, Outline.readMap, Functor.map, Except.map]
  · cases f <;> simp [Draft.readField, Draft.fieldOf, Outline.readString, Outline.readOption,
      Outline.readList, Outline.readMap, Functor.map, Except.map]
  · cases f <;> simp [Draft.readField, Draft.fieldOf, Outline.readString, Outline.readOption,
      Outline.readList, Outline.readMap, Functor.map, Except.map]
  · cases f with
    | children =>
      have hitems (ns : List Node) : List.Forall₂ (fun o n => ofOutline d o = .ok n) items ns ↔
          List.Forall₂ (fun v n => ofValue? v = .ok n) vs ns := by
        have ha := fun o (ho : o ∈ items) => hc rfl o ho d rfl
        clear hv hc
        induction hall generalizing ns with
        | nil => cases ns <;> simp
        | cons hr _ ih =>
          obtain ⟨ho, hrest⟩ := List.forall_mem_cons.1 ha
          cases ns with
          | nil => simp
          | cons n ns => simp only [List.forall₂_cons, ho _ hr n, ih ns hrest]
      simp only [Draft.readField, Draft.fieldOf, map_eq_ok, ofValues_eq_ok, ← hitems,
        Outline.readOption_eq_ok, Outline.readList_eq_ok, Outline.isNull]
      constructor
      · rintro (⟨⟨⟩, -⟩ | ⟨-, ns, ⟨_, _, _, _, ⟨⟩, ⟨⟩, hns⟩, rfl⟩)
        exact ⟨ns, hns, rfl⟩
      · rintro ⟨ns, hns, rfl⟩
        exact .inr ⟨trivial, ns, ⟨_, start, items, rest, rfl, rfl, hns⟩, rfl⟩
    | _ => simp [Draft.readField, Draft.fieldOf, Outline.readString, Outline.readOption,
        Outline.readMap, Functor.map, Except.map]
  · cases f with
    | style =>
      have hmap : Outline.readMap (inside Value.ofOutline (d + 1))
          (.object start members (.closed rest)) = .ok xs :=
        Outline.readMap_eq_ok.2 ⟨_, start, members, rest, rfl, rfl, hall⟩
      simp [Draft.readField, Draft.fieldOf, Outline.readOption, hmap, Functor.map, Except.map]
    | _ => simp [Draft.readField, Draft.fieldOf, Outline.readString, Outline.readOption,
        Outline.readList, Functor.map, Except.map]

theorem gatherMembers_iff_gather {depth : Nat} {members : List (Key × Outline)}
    {xs : List (String × Value)} (draft : Draft)
    (hall : List.Forall₂ (fun m x => m.1.text = .ok x.1 ∧ Value.ofOutline depth m.2 = .ok x.2)
      members xs)
    (honce : ∀ f : Field, (valuesOf f.key members).length ≤ 1)
    (hc : ∀ o ∈ valuesOf Field.children.key members, ∀ c ∈ o.elements, ∀ d, depth = d + 1 →
      Agree d c) :
    Draft.form.gatherMembers (putAt depth) {} members = .ok draft ↔
      gather {} (sortMembers xs) = .ok draft := by
  rw [Draft.gatherMembers_eq_ok, Draft.gather_eq_ok (ascending_sortMembers xs)]
  have hread : ∀ m ∈ members, ∃ name, m.1.text = .ok name ∧
      (Field.ofKey? name = none → m.2.skip = .ok ()) := by
    intro m hm
    obtain ⟨x, -, hk, hv⟩ := exists_of_forall₂ hall hm
    exact ⟨x.1, hk, fun _ => Outline.skip_of_value hv⟩
  rw [and_iff_right hread]
  refine forall_congr' fun f => ?_
  have hlast := lookup_reverse_of_forall₂ (fun o v => Value.ofOutline depth o = .ok v) f.key hall
  rw [← lookup_sortMembers] at hlast
  have hf := honce f
  cases hvs : valuesOf f.key members with
  | nil =>
    rw [hvs] at hlast
    generalize (sortMembers xs).lookup f.key = y at hlast ⊢
    cases hlast
    simp
  | cons o os =>
    rw [hvs] at hlast hf
    obtain rfl : os = [] := List.eq_nil_of_length_eq_zero (by simpa using hf)
    rw [List.getLast?_singleton] at hlast
    generalize (sortMembers xs).lookup f.key = y at hlast ⊢
    cases hlast with
    | some hv =>
      have hiff := readField_iff_fieldOf f hv fun he c hmem => by
        subst he
        exact hc o (by rw [hvs]; exact List.mem_singleton_self o) c hmem
      simp [hiff]

theorem gatherItems_iff_fill {depth : Nat} {items : List Outline} {vs : List Value} (count : Nat)
    (fields : List Field) (d e : Draft)
    (hall : List.Forall₂ (fun o v => Value.ofOutline depth o = .ok v) items vs)
    (hc : ∀ o, (Field.children, o) ∈ fields.zip items → ∀ c ∈ o.elements, ∀ k, depth = k + 1 →
      Agree k c) :
    (∃ complete, Form.gatherItems (putAt depth) fields d items = .ok (e, complete)) ↔
      fill count fields d vs = .ok e := by
  induction hall generalizing fields d with
  | nil => simp [Form.gatherItems, fill]
  | @cons o v items vs hv _ ih =>
    cases fields with
    | nil => simp [Form.gatherItems, fill]
    | cons f fields =>
      have hiff := readField_iff_fieldOf f hv fun he c hmem => by
        subst he
        exact hc o List.mem_cons_self c hmem
      have hrest (d : Draft) := ih fields d fun o ho => hc o (List.mem_cons_of_mem _ ho)
      rw [fill, bind_eq_ok]
      simp only [Form.gatherItems, bind_eq_ok, Draft.put_eq_ok, Draft.put_value_eq_ok]
      constructor
      · rintro ⟨complete, _, ⟨x, hx, rfl⟩, h⟩
        exact ⟨_, ⟨x, (hiff x).1 hx, rfl⟩, (hrest _).1 ⟨complete, h⟩⟩
      · rintro ⟨_, ⟨x, hx, rfl⟩, h⟩
        obtain ⟨complete, h⟩ := (hrest _).2 h
        exact ⟨complete, _, ⟨x, (hiff x).2 hx, rfl⟩, h⟩

/-- At every depth the text and its value give the same nodes, unless a node repeats a field. -/
theorem agree_of_repeatsNoField (depth : Nat) (o : Outline) (ho : RepeatsNoField o) :
    Agree depth o := by
  induction depth using Nat.strongRecOn generalizing o with
  | _ depth ih =>
    intro v hv n
    rw [ofOutline_eq_ok]
    rcases Value.ofOutline_cases hv with ⟨_, _, rfl, rfl⟩ | ⟨_, _, _, rfl, rfl⟩ |
      ⟨_, _, _, rfl, rfl⟩ | ⟨_, _, _, rfl, rfl⟩ |
      ⟨d, start, items, rest, vs, rfl, rfl, rfl, hall⟩ |
      ⟨d, start, members, rest, xs, rfl, rfl, rfl, hall⟩
    · simp [ofValue?]
    · simp [ofValue?]
    · simp [ofValue?]
    · simp [ofValue?]
    · have hfill (draft : Draft) := gatherItems_iff_fill vs.length Field.order {} draft hall
        fun p hp c hmem k hk =>
          ih k (by omega) c (ho.child (mem_childOutlines_array.2 ⟨p, hp, hmem⟩))
      rw [ofValue?_array_eq_ok]
      constructor
      · rintro ⟨_, draft, ⟨⟩, hf, ⟨_, _, _, ⟨⟩, -⟩ | ⟨_, _, _, complete, ⟨⟩, h⟩⟩
        exact ⟨draft, (hfill draft).1 ⟨complete, h⟩, hf⟩
      · rintro ⟨draft, h, hf⟩
        obtain ⟨complete, h⟩ := (hfill draft).2 h
        exact ⟨d, draft, rfl, hf, .inr ⟨start, items, rest, complete, rfl, h⟩⟩
    · have hgather (draft : Draft) := gatherMembers_iff_gather draft hall (ho _ (.root _))
        fun p hp c hmem k hk =>
          ih k (by omega) c (ho.child (mem_childOutlines_object.2 ⟨p, hp, hmem⟩))
      rw [ofValue?_object_eq_ok]
      constructor
      · rintro ⟨_, draft, ⟨⟩, hf, ⟨_, _, _, ⟨⟩, h⟩ | ⟨_, _, _, _, ⟨⟩, -⟩⟩
        exact ⟨draft, (hgather draft).1 h, hf⟩
      · rintro ⟨draft, h, hf⟩
        exact ⟨d, draft, rfl, hf, .inl ⟨start, members, rest, rfl, (hgather draft).2 h⟩⟩

theorem ofOutline_of_mem_elements {depth : Nat} {o : Outline} {x : Option (List Node)}
    (h : readFieldAt depth .children o = .ok x) :
    ∀ c ∈ o.elements, ∃ d n, depth = d + 1 ∧ ofOutline d c = .ok n := by
  intro c hc
  rcases Outline.readOption_eq_ok.1 h with ⟨hnull, -⟩ | ⟨-, ns, hns, -⟩
  · cases o with
    | null start rest => exact nomatch hc
    | _ => exact nomatch hnull
  · obtain ⟨read, start, items, rest, hread, rfl, hall⟩ := Outline.readList_eq_ok.1 hns
    obtain ⟨d, rfl, rfl⟩ := inside_eq_some.1 hread
    obtain ⟨n, -, hn⟩ := exists_of_forall₂ hall hc
    exact ⟨d, n, rfl, hn⟩

theorem repeatsNoField_of_ofOutline {depth : Nat} {o : Outline} {n : Node}
    (h : ofOutline depth o = .ok n) : RepeatsNoField o := by
  induction depth using Nat.strongRecOn generalizing o n with
  | _ depth ih =>
    obtain ⟨d, draft, rfl, -, hread⟩ := ofOutline_eq_ok.1 h
    have hchild {p c : Outline} {x : Option (List Node)}
        (hp : readFieldAt d .children p = .ok x) (hc : c ∈ p.elements) : RepeatsNoField c := by
      obtain ⟨k, m, rfl, hm⟩ := ofOutline_of_mem_elements hp c hc
      exact ih k (by omega) hm
    rcases hread with ⟨start, members, rest, rfl, hall⟩ |
      ⟨start, items, rest, complete, rfl, hall⟩
    · obtain ⟨-, hslots⟩ := Draft.gatherMembers_eq_ok.1 hall
      refine repeatsNoField_of_children (fun f => ?_) fun c hc => ?_
      · rcases hslots f with ⟨hv, -⟩ | ⟨o, x, hv, -⟩ <;> simp [hv]
      · obtain ⟨p, hp, hc⟩ := mem_childOutlines_object.1 hc
        rcases hslots .children with ⟨hv, -⟩ | ⟨o, x, hv, -, hx, -⟩
        · rw [hv] at hp
          exact nomatch hp
        · rw [hv, List.mem_singleton] at hp
          subst hp
          exact hchild hx hc
    · refine repeatsNoField_of_children trivial fun c hc => ?_
      obtain ⟨p, hp, hc⟩ := mem_childOutlines_array.1 hc
      obtain ⟨x, hx⟩ := Draft.readField_of_gatherItems hall _ hp
      exact hchild hx hc

theorem ofValue_eq_ok {v : Value} {n : Node} : ofValue v = .ok n ↔ ofValue? v = .ok n := by
  rw [ofValue, mapError_eq_ok]

/-- What a text gives, the value of the text gives; what the value gives, the text gives unless an
object at the place of a node repeats a field. -/
theorem ofText_agrees_ofValue (text : String) (v : Value)
    (hv : Value.ofText text.toList = .ok v) :
    (∀ n, ofText text = .ok n → ofValue v = .ok n) ∧
    ∀ n, ofValue v = .ok n →
      (∀ p, Place (Document.ofText text.toList).root p → FieldsOnce p) → ofText text = .ok n := by
  obtain ⟨hroot, hafter⟩ := readText_eq_ok.1 hv
  constructor
  · intro n hn
    obtain ⟨hn, -⟩ := ofText_eq_ok.1 hn
    have hagree := agree_of_repeatsNoField nestingLimit _ (repeatsNoField_of_ofOutline hn) v hroot n
    exact ofValue_eq_ok.2 (hagree.1 hn)
  · intro n hn honce
    have hagree := agree_of_repeatsNoField nestingLimit _ honce v hroot n
    exact ofText_eq_ok.2 ⟨hagree.2 (ofValue_eq_ok.1 hn), hafter⟩

set_option maxRecDepth 4000 in
theorem ofText_agrees_ofValue_nested :
    let text := 
      "[\"1\",\"A\",\"GROUP\",[\x7b\"x\":[],\"id\":\"2\",\"name\":\"B\",\"x\":null,\"type\":\"\"\x7d]]"
    let v := Value.array [.string "1", .string "A", .string "GROUP", .array [.object [
      ("id", .string "2"), ("name", .string "B"), ("type", .string ""), ("x", .null)]]]
    let n : Node := ⟨"1", "A", .container, [.leaf "2" "B" .other], none, none⟩
    Value.ofText text.toList = .ok v ∧ RepeatsNoField (Document.ofText text.toList).root ∧
      ofText text = .ok n ∧ ofValue v = .ok n := by
  intro text v n
  have hv : Value.ofText text.toList = .ok v := by cbv
  have hn : ofValue v = .ok n := by cbv
  have honce : RepeatsNoField (Document.ofText text.toList).root := by
    have h : ofOutline nestingLimit (Document.ofText text.toList).root = .ok n := by cbv
    exact repeatsNoField_of_ofOutline h
  have hagree := ofText_agrees_ofValue text v hv
  have ht := hagree.2 n hn honce
  exact ⟨hv, honce, ht, hagree.1 n ht⟩

end Node
end DesignCompiler
