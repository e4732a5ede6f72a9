import DesignCompiler.Proofs.Design.Agreement
import Mathlib

set_option autoImplicit false

namespace DesignCompiler
open Json

namespace Json.Value

def string? : Value → Option String
  | .string s => some s
  | _ => none

def items? : Value → Option (List Value)
  | .array items => some items
  | _ => none

def members? : Value → Option (List (String × Value))
  | .object members => some members
  | _ => none

end Json.Value

def Field.required : List Field := [.id, .name, .type]

mutual

/-- The values that are nodes: an object, of which members of other names are free, or an array of
the fields in their order. -/
inductive Json.Value.IsNode : Value → Prop
  | object {members : List (String × Value)}
      (required : ∀ f ∈ Field.required, ∃ v, (f.key, v) ∈ members)
      (fits : ∀ f v, (Field.key f, v) ∈ members → f.Fits v) : Json.Value.IsNode (.object members)
  | array {items : List Value} (required : 3 ≤ items.length) (bounded : items.length ≤ 6)
      (fits : ∀ p ∈ Field.order.zip items, p.1.Fits p.2) : Json.Value.IsNode (.array items)

inductive Field.Fits : Field → Value → Prop
  | id (s : String) : Field.Fits .id (.string s)
  | name (s : String) : Field.Fits .name (.string s)
  | type (s : String) : Field.Fits .type (.string s)
  | noChildren : Field.Fits .children .null
  | children {items : List Value} (nodes : ∀ c ∈ items, c.IsNode) : Field.Fits .children (.array items)
  | noStyle : Field.Fits .style .null
  | style (members : List (String × Value)) : Field.Fits .style (.object members)
  | noCharacters : Field.Fits .characters .null
  | characters (s : String) : Field.Fits .characters (.string s)

end

namespace Json.Value

/-- What a value gives for a field of a node. An object holds each name once; of several members of
a name the last would count. -/
def field? : Value → Field → Option Value
  | .object members, f => members.reverse.lookup f.key
  | .array items, f => (Field.order.zip items).lookup f
  | _, _ => none

def children (v : Value) : List Value := ((v.field? .children).bind items?).getD []

/-- The value below `v` that is reached by these places among the children. -/
def descend (v : Value) : List Nat → Option Value
  | [] => some v
  | i :: path => v.children[i]?.bind (·.descend path)

end Json.Value

namespace Node

def descend (n : Node) : List Nat → Option Node
  | [] => some n
  | i :: path => n.children[i]?.bind (·.descend path)

structure Mirrors (v : Value) (n : Node) : Prop where
  id : v.field? .id = some (.string n.id)
  name : v.field? .name = some (.string n.name)
  kind : ∃ type, v.field? .type = some (.string type) ∧ n.kind = Kind.ofName type
  text : n.text = if n.kind = .text then (v.field? .characters).bind Value.string? else none
  style : n.style = ((v.field? .style).bind Value.members?).map Style.ofMembers
  children : List.Forall₂ (fun c m => ofValue c = .ok m) v.children n.children

end Node

namespace Draft

theorem fill_eq_ok_iff_filled {count : Nat} {fields : List Field} {d e : Draft}
    {items : List Value} (hf : fields.Nodup) :
    Node.fill count fields d items = .ok e ↔ items.length ≤ fields.length ∧
      Filled (fun f => (fields.zip items).lookup f) d e := by
  induction items generalizing fields d with
  | nil =>
    rw [Node.fill, List.zip_nil_right]
    constructor
    · intro h
      cases h
      exact ⟨Nat.zero_le _, fun f => .inl ⟨rfl, rfl⟩⟩
    · rintro ⟨-, h⟩
      rw [h.eq_of_none fun f => rfl]
  | cons v items ih =>
    cases fields with
    | nil => simp [Node.fill]
    | cons g fields =>
      obtain ⟨hg, hfields⟩ := List.nodup_cons.1 hf
      have hlast : (fields.zip items).lookup g = none := by
        rw [List.lookup_eq_none_iff]
        intro p hp
        rw [bne_iff_ne]
        rintro rfl
        exact hg (List.of_mem_zip hp).1
      have hrest {x : Slot g} (hx : fieldOf g v = .ok x) :
          Filled (fun f => (fields.zip items).lookup f) (d.set g x) e ↔
            Filled (fun f => ((g :: fields).zip (v :: items)).lookup f) d e := by
        refine filled_set hx ?_ fun f hf => ?_
        · simp [hlast]
        · simp [List.lookup_cons, beq_eq_false_iff_ne.2 hf]
      rw [Node.fill, bind_eq_ok]
      constructor
      · rintro ⟨_, hput, h⟩
        obtain ⟨x, hx, rfl⟩ := put_value_eq_ok.1 hput
        obtain ⟨hlen, hfilled⟩ := (ih hfields).1 h
        exact ⟨Nat.succ_le_succ hlen, (hrest hx).1 hfilled⟩
      · rintro ⟨hlen, hfilled⟩
        rcases hfilled g with ⟨hnone, -⟩ | ⟨w, x, hw, hx, -⟩
        · simp at hnone
        · obtain rfl : v = w := by simpa using hw
          exact ⟨d.set g x, put_value_eq_ok.2 ⟨x, hx, rfl⟩, (ih hfields).2
            ⟨Nat.le_of_succ_le_succ hlen, (hrest hx).2 hfilled⟩⟩

theorem exists_filled (given : Field → Option Value) (d : Draft)
    (h : ∀ f v, given f = some v → ∃ x : Slot f, fieldOf f v = .ok x) :
    ∃ e, Filled given d e := by
  have hslot (f : Field) : ∃ y : Option (Slot f), (given f = none ∧ y = d.get f) ∨
      ∃ v x, given f = some v ∧ fieldOf f v = .ok x ∧ y = some x := by
    cases hv : given f with
    | none => exact ⟨d.get f, .inl ⟨rfl, rfl⟩⟩
    | some v =>
      obtain ⟨x, hx⟩ := h f v hv
      exact ⟨some x, .inr ⟨v, x, rfl, hx, rfl⟩⟩
  choose y hy using hslot
  refine ⟨⟨y .id, y .name, y .type, y .children, y .style, y .characters⟩, fun f => ?_⟩
  cases f <;> exact hy _

theorem finish_eq_ok {d : Draft} {n : Node} : d.finish = .ok n ↔
    d.id = some n.id ∧ d.name = some n.name ∧
      (∃ type, d.type = some type ∧ n.kind = Kind.ofName type) ∧
        n.children = d.children.join.getD [] ∧ n.style = d.style.join ∧
          n.text = if n.kind = .text then d.characters.join else none := by
  obtain ⟨id, name, type, children, style, characters⟩ := d
  obtain ⟨id', name', kind', children', style', text'⟩ := n
  cases id with
  | none => simp [finish]
  | some id =>
    cases name with
    | none => simp [finish]
    | some name =>
      cases type with
      | none => simp [finish]
      | some type =>
        simp only [finish, Except.ok.injEq, Node.mk.injEq, Option.some.injEq, exists_eq_left']
        constructor
        · rintro ⟨rfl, rfl, rfl, rfl, rfl, rfl⟩
          exact ⟨rfl, rfl, rfl, rfl, rfl, rfl⟩
        · rintro ⟨rfl, rfl, rfl, rfl, rfl, rfl⟩
          exact ⟨rfl, rfl, rfl, rfl, rfl, rfl⟩

theorem fieldOf_string_eq_ok {v : Value} {s : String} :
    (fieldOf .id v = .ok s ↔ v = .string s) ∧ (fieldOf .name v = .ok s ↔ v = .string s) ∧
      (fieldOf .type v = .ok s ↔ v = .string s) := by
  cases v <;> simp [fieldOf]

theorem eq_of_fieldOf_style {v : Value} {x : Option Style} (h : fieldOf .style v = .ok x) :
    x = v.members?.map Style.ofMembers := by
  cases v <;> simp_all [fieldOf, Value.members?]

theorem eq_of_fieldOf_characters {v : Value} {x : Option String}
    (h : fieldOf .characters v = .ok x) : x = v.string? := by
  cases v <;> simp_all [fieldOf, Value.string?]

theorem ofValues_of_fieldOf_children {v : Value} {x : Option (List Node)}
    (h : fieldOf .children v = .ok x) :
    Node.ofValues (v.items?.getD []) = .ok (x.getD []) := by
  cases v with
  | null =>
    cases h
    exact Node.ofValues_eq_ok.2 .nil
  | array items =>
    obtain ⟨ns, hns, rfl⟩ := map_eq_ok.1 h
    exact hns
  | _ => exact nomatch h

theorem exists_ofValues_iff {vs : List Value} :
    (∃ ns, Node.ofValues vs = .ok ns) ↔ ∀ v ∈ vs, ∃ n, Node.ofValue? v = .ok n := by
  simp only [Node.ofValues_eq_ok]
  induction vs with
  | nil => simp
  | cons v vs ih =>
    rw [List.forall_mem_cons, ← ih]
    constructor
    · rintro ⟨_, h⟩
      cases h with
      | cons hn hns => exact ⟨⟨_, hn⟩, ⟨_, hns⟩⟩
    · rintro ⟨⟨n, hn⟩, ns, hns⟩
      exact ⟨n :: ns, .cons hn hns⟩

theorem exists_fieldOf_iff {f : Field} {v : Value}
    (hc : ∀ items, v = .array items → ∀ c ∈ items, (∃ n, Node.ofValue? c = .ok n) ↔ c.IsNode) :
    (∃ x : Slot f, fieldOf f v = .ok x) ↔ f.Fits v := by
  constructor
  · rintro ⟨x, hx⟩
    cases f with
    | id =>
      obtain rfl := fieldOf_string_eq_ok.1.1 hx
      exact .id x
    | name =>
      obtain rfl := fieldOf_string_eq_ok.2.1.1 hx
      exact .name x
    | type =>
      obtain rfl := fieldOf_string_eq_ok.2.2.1 hx
      exact .type x
    | children =>
      cases v with
      | null => exact .noChildren
      | array items =>
        have hread := exists_ofValues_iff.1 ⟨_, ofValues_of_fieldOf_children hx⟩
        exact .children fun c hmem => (hc items rfl c hmem).1 (hread c hmem)
      | _ => exact nomatch hx
    | style =>
      cases v with
      | null => exact .noStyle
      | object members => exact .style members
      | _ => exact nomatch hx
    | characters =>
      cases v with
      | null => exact .noCharacters
      | string s => exact .characters s
      | _ => exact nomatch hx
  · intro h
    cases h with
    | children nodes =>
      obtain ⟨ns, hns⟩ := exists_ofValues_iff.2 fun c hmem => (hc _ rfl c hmem).2 (nodes c hmem)
      exact ⟨some ns, map_eq_ok.2 ⟨ns, hns, rfl⟩⟩
    | _ => exact ⟨_, rfl⟩

theorem Filled.exists_get {given : Field → Option Value} {d : Draft} (h : Filled given {} d)
    {f : Field} {x : Slot f} (hx : d.get f = some x) :
    ∃ v, given f = some v ∧ fieldOf f v = .ok x := by
  rcases h f with ⟨-, he⟩ | ⟨v, y, hv, hy, he⟩
  · rw [hx, get_empty] at he
    exact nomatch he
  · rw [hx] at he
    cases he
    exact ⟨v, hv, hy⟩

theorem Filled.get_bind {α : Type} {given : Field → Option Value} {d : Draft}
    (h : Filled given {} d) (f : Field) (out : Slot f → Option α) (view : Value → Option α)
    (hview : ∀ v x, fieldOf f v = .ok x → out x = view v) :
    (d.get f).bind out = (given f).bind view := by
  rcases h f with ⟨hv, he⟩ | ⟨v, x, hv, hx, he⟩
  · rw [hv, he, get_empty]
    rfl
  · rw [hv, he]
    exact hview v x hx

theorem Filled.exists_fieldOf {given : Field → Option Value} {d e : Draft}
    (h : Filled given d e) {f : Field} {v : Value} (hv : given f = some v) :
    ∃ x : Slot f, fieldOf f v = .ok x := by
  rcases h f with ⟨hnone, -⟩ | ⟨w, x, hw, hx, -⟩
  · rw [hv] at hnone
    exact nomatch hnone
  · obtain rfl := Option.some.inj (hv.symm.trans hw)
    exact ⟨x, hx⟩

theorem exists_finish_iff (given : Field → Option Value) :
    (∃ draft n, Filled given {} draft ∧ draft.finish = .ok n) ↔
      (∀ f v, given f = some v → ∃ x : Slot f, fieldOf f v = .ok x) ∧
        ∀ f ∈ Field.required, ∃ v, given f = some v := by
  constructor
  · rintro ⟨draft, n, hfilled, hfinish⟩
    refine ⟨fun f v => hfilled.exists_fieldOf, fun f hf => ?_⟩
    obtain ⟨hid, hname, ⟨type, htype, -⟩, -⟩ := finish_eq_ok.1 hfinish
    simp only [Field.required, List.mem_cons, List.not_mem_nil, or_false] at hf
    rcases hf with rfl | rfl | rfl
    · exact (hfilled.exists_get (f := .id) hid).imp fun v hv => hv.1
    · exact (hfilled.exists_get (f := .name) hname).imp fun v hv => hv.1
    · exact (hfilled.exists_get (f := .type) htype).imp fun v hv => hv.1
  · rintro ⟨hread, hrequired⟩
    obtain ⟨draft, hfilled⟩ := exists_filled given {} hread
    have hsome (f : Field) (hf : f ∈ Field.required) : ∃ x, draft.get f = some x := by
      obtain ⟨v, hv⟩ := hrequired f hf
      rcases hfilled f with ⟨hnone, -⟩ | ⟨w, x, -, -, hx⟩
      · rw [hv] at hnone
        exact nomatch hnone
      · exact ⟨x, hx⟩
    obtain ⟨id, hid⟩ := hsome .id (by decide)
    obtain ⟨name, hname⟩ := hsome .name (by decide)
    obtain ⟨type, htype⟩ := hsome .type (by decide)
    let n : Node := ⟨id, name, Kind.ofName type, draft.children.join.getD [], draft.style.join,
      if Kind.ofName type = .text then draft.characters.join else none⟩
    exact ⟨draft, n, hfilled,
      finish_eq_ok.2 ⟨hid, hname, ⟨type, htype, rfl⟩, rfl, rfl, rfl⟩⟩

end Draft

namespace Node

theorem exists_filled_of_ofValue? {v : Value} {n : Node} (h : ofValue? v = .ok n) :
    ∃ draft, Draft.Filled v.field? {} draft ∧ draft.finish = .ok n := by
  cases v with
  | object members =>
    obtain ⟨draft, hgather, hfinish⟩ := ofValue?_object_eq_ok.1 h
    exact ⟨draft, (Draft.gather_eq_ok_iff_filled.1 hgather).2, hfinish⟩
  | array items =>
    obtain ⟨draft, hfill, hfinish⟩ := ofValue?_array_eq_ok.1 h
    exact ⟨draft, ((Draft.fill_eq_ok_iff_filled (by decide)).1 hfill).2, hfinish⟩
  | _ => simp [ofValue?] at h

theorem mirrors_of_ofValue? {v : Value} {n : Node} (h : ofValue? v = .ok n) : Mirrors v n := by
  obtain ⟨draft, hfilled, hfinish⟩ := exists_filled_of_ofValue? h
  obtain ⟨hid, hname, ⟨type, htype, hkind⟩, hchildren, hstyle, htext⟩ :=
    Draft.finish_eq_ok.1 hfinish
  constructor
  case id =>
    obtain ⟨w, hw, hread⟩ := hfilled.exists_get (f := .id) hid
    rw [hw, Draft.fieldOf_string_eq_ok.1.1 hread]
  case name =>
    obtain ⟨w, hw, hread⟩ := hfilled.exists_get (f := .name) hname
    rw [hw, Draft.fieldOf_string_eq_ok.2.1.1 hread]
  case kind =>
    obtain ⟨w, hw, hread⟩ := hfilled.exists_get (f := .type) htype
    exact ⟨type, by rw [hw, Draft.fieldOf_string_eq_ok.2.2.1 hread], hkind⟩
  case text =>
    have hjoin := hfilled.get_bind .characters (fun x => x) Value.string? fun w x =>
      Draft.eq_of_fieldOf_characters
    rw [htext, ← hjoin]
    rfl
  case style =>
    have hjoin := hfilled.get_bind .style (fun x => x) (fun w => w.members?.map Style.ofMembers)
      fun w x => Draft.eq_of_fieldOf_style
    rw [hstyle, Option.map_bind]
    exact hjoin
  case children =>
    simp only [ofValue_eq_ok]
    rw [hchildren, Value.children]
    rcases hfilled .children with ⟨hv, he⟩ | ⟨w, x, hw, hx, he⟩
    · have he : draft.children = none := he
      rw [hv, he]
      exact .nil
    · have he : draft.children = some x := he
      rw [hw, he]
      exact ofValues_eq_ok.1 (Draft.ofValues_of_fieldOf_children hx)

theorem exists_lookup_reverse_iff {members : List (String × Value)} {k : String} :
    (∃ v, members.reverse.lookup k = some v) ↔ ∃ v, (k, v) ∈ members := by
  rw [← Option.isSome_iff_exists, List.lookup_isSome_iff]
  simp

theorem mem_of_lookup_reverse {members : List (String × Value)} {k : String} {v : Value}
    (h : members.reverse.lookup k = some v) : (k, v) ∈ members := by
  obtain ⟨l, r, hmembers, -⟩ := List.lookup_eq_some_iff.1 h
  rw [← List.mem_reverse, hmembers]
  simp

theorem exists_ofValue?_object_iff {members : List (String × Value)} :
    (∃ n, ofValue? (.object members) = .ok n) ↔
      (∀ f ∈ Field.required, ∃ v, (f.key, v) ∈ members) ∧
        ∀ f v, (Field.key f, v) ∈ members → ∃ x : Draft.Slot f, Draft.fieldOf f v = .ok x := by
  have hfinish := Draft.exists_finish_iff fun f => members.reverse.lookup f.key
  simp only [exists_lookup_reverse_iff] at hfinish
  simp only [ofValue?_object_eq_ok, Draft.gather_eq_ok_iff_filled]
  constructor
  · rintro ⟨n, draft, ⟨hread, hfilled⟩, hn⟩
    exact ⟨(hfinish.1 ⟨draft, n, hfilled, hn⟩).2, hread⟩
  · rintro ⟨hrequired, hread⟩
    obtain ⟨draft, n, hfilled, hn⟩ :=
      hfinish.2 ⟨fun f v hv => hread f v (mem_of_lookup_reverse hv), hrequired⟩
    exact ⟨n, draft, ⟨hread, hfilled⟩, hn⟩

theorem lookup_zip_order {items : List Value} {f : Field} {v : Value} :
    (Field.order.zip items).lookup f = some v ↔ (f, v) ∈ Field.order.zip items := by
  refine lookup_eq_some_iff_mem ?_
  rw [List.zip_eq_zip_take_min, List.map_fst_zip (by simp)]
  exact List.Nodup.sublist (List.take_sublist _ _) (by decide)

theorem required_zip_order {items : List Value} :
    (∀ f ∈ Field.required, ∃ v, (f, v) ∈ Field.order.zip items) ↔ 3 ≤ items.length := by
  rcases items with _ | ⟨a, _ | ⟨b, _ | ⟨c, items⟩⟩⟩
  · exact iff_of_false (fun h => by simpa using h .id (by decide)) (by decide)
  · simp [Field.required, Field.order]
  · simp [Field.required, Field.order]
  · simp [Field.required, Field.order]

theorem exists_ofValue?_array_iff {items : List Value} :
    (∃ n, ofValue? (.array items) = .ok n) ↔ 3 ≤ items.length ∧ items.length ≤ 6 ∧
      ∀ p ∈ Field.order.zip items, ∃ x : Draft.Slot p.1, Draft.fieldOf p.1 p.2 = .ok x := by
  have hfinish := Draft.exists_finish_iff fun f => (Field.order.zip items).lookup f
  simp only [lookup_zip_order, required_zip_order] at hfinish
  have horder : Field.order.Nodup := by decide
  simp only [ofValue?_array_eq_ok, Draft.fill_eq_ok_iff_filled horder]
  constructor
  · rintro ⟨n, draft, ⟨hbounded, hfilled⟩, hn⟩
    obtain ⟨hread, hrequired⟩ := hfinish.1 ⟨draft, n, hfilled, hn⟩
    exact ⟨hrequired, hbounded, fun p hp => hread p.1 p.2 hp⟩
  · rintro ⟨hrequired, hbounded, hread⟩
    obtain ⟨draft, n, hfilled, hn⟩ := hfinish.2 ⟨fun f v hv => hread (f, v) hv, hrequired⟩
    exact ⟨n, draft, ⟨hbounded, hfilled⟩, hn⟩

/-- By induction on the size: what is below a node is an item of an array in it. -/
theorem isNode_iff (v : Value) : (∃ n, ofValue? v = .ok n) ↔ v.IsNode := by
  induction hk : sizeOf v using Nat.strongRecOn generalizing v with
  | _ k ih =>
    subst hk
    cases v with
    | object members =>
      have hread (f : Field) (w : Value) (hw : (f.key, w) ∈ members) :
          (∃ x : Draft.Slot f, Draft.fieldOf f w = .ok x) ↔ f.Fits w := by
        refine Draft.exists_fieldOf_iff fun items he c hc => ih (sizeOf c) ?_ c rfl
        subst he
        have hlt := List.sizeOf_lt_of_mem hc
        have hlt' := List.sizeOf_lt_of_mem hw
        simp only [Value.object.sizeOf_spec, Value.array.sizeOf_spec, Prod.mk.sizeOf_spec] at hlt' ⊢
        omega
      rw [exists_ofValue?_object_iff]
      constructor
      · rintro ⟨hrequired, h⟩
        exact .object hrequired fun f w hw => (hread f w hw).1 (h f w hw)
      · rintro (⟨hrequired, h⟩ | -)
        exact ⟨hrequired, fun f w hw => (hread f w hw).2 (h f w hw)⟩
    | array items =>
      have hread (p : Field × Value) (hp : p ∈ Field.order.zip items) :
          (∃ x : Draft.Slot p.1, Draft.fieldOf p.1 p.2 = .ok x) ↔ p.1.Fits p.2 := by
        refine Draft.exists_fieldOf_iff fun children he c hc => ih (sizeOf c) ?_ c rfl
        have hlt := List.sizeOf_lt_of_mem hc
        have hlt' := List.sizeOf_lt_of_mem (List.of_mem_zip hp).2
        simp only [he, Value.array.sizeOf_spec] at hlt' ⊢
        omega
      rw [exists_ofValue?_array_iff]
      constructor
      · rintro ⟨hrequired, hbounded, h⟩
        exact .array hrequired hbounded fun p hp => (hread p hp).1 (h p hp)
      · rintro (- | ⟨hrequired, hbounded, h⟩)
        exact ⟨hrequired, hbounded, fun p hp => (hread p hp).2 (h p hp)⟩
    | _ =>
      refine iff_of_false ?_ fun h => by cases h
      simp [ofValue?]

theorem getElem?_rel {α β : Type} {r : α → β → Prop} {xs : List α} {ys : List β}
    (h : List.Forall₂ r xs ys) (i : Nat) : Option.Rel r xs[i]? ys[i]? := by
  induction h generalizing i with
  | nil => exact .none
  | cons hr _ ih =>
    cases i with
    | zero => exact .some hr
    | succ i => exact ih i

theorem descend_of_ofValue? {v : Value} {n : Node} (h : ofValue? v = .ok n) (path : List Nat) :
    (v.descend path).map ofValue = (n.descend path).map .ok := by
  induction path generalizing v n with
  | nil => simp [Value.descend, descend, ofValue_eq_ok.2 h]
  | cons i path ih =>
    have hi := getElem?_rel (mirrors_of_ofValue? h).children i
    rw [Value.descend, descend]
    generalize v.children[i]? = a at hi ⊢
    generalize n.children[i]? = b at hi ⊢
    cases hi with
    | none => rfl
    | some hc => exact ih (ofValue_eq_ok.1 hc)

/-- A value is read if it is a node, and the node that is read says what the value says. What is
reached below the node is what is read of the value that is reached by the same way. -/
theorem ofValue_accepts_isNode (v : Value) :
    ((∃ n, ofValue v = .ok n) ↔ v.IsNode) ∧
      ∀ n, ofValue v = .ok n →
        Mirrors v n ∧ ∀ path, (v.descend path).map ofValue = (n.descend path).map .ok := by
  simp only [ofValue_eq_ok]
  exact ⟨isNode_iff v, fun n h => ⟨mirrors_of_ofValue? h, descend_of_ofValue? h⟩⟩

theorem ofValue_accepts_isNode_nested :
    let text := Value.array
      [.string "2", .string "B", .string "TEXT", .null, .object [], .string "hi"]
    let v := Value.object [("children", .array [text]), ("id", .string "1"), ("name", .string "A"),
      ("type", .string "GROUP"), ("x", .boolean true)]
    let child : Node := ⟨"2", "B", .text, [], some ⟨[]⟩, some "hi"⟩
    let n : Node := ⟨"1", "A", .container, [child], none, none⟩
    ofValue v = .ok n ∧ v.IsNode ∧ Mirrors v n ∧
      (v.descend [0]).map ofValue = some (.ok child) := by
  intro text v child n
  have hn : ofValue v = .ok n := by cbv
  obtain ⟨haccepts, hmirrors⟩ := ofValue_accepts_isNode v
  obtain ⟨hmirrors, hdescend⟩ := hmirrors n hn
  exact ⟨hn, haccepts.1 ⟨n, hn⟩, hmirrors, hdescend [0]⟩

end Node
end DesignCompiler
