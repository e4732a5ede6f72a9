import DesignCompiler.Proofs.Design.Places
import DesignCompiler.Proofs.Json.Proper
import DesignCompiler.Proofs.Text.Utf8

set_option autoImplicit false

namespace DesignCompiler
open Json

/-- The order of the bytes of two keys. -/
def BytesBefore (a b : String) : Prop := Text.encode a.toList < Text.encode b.toList

inductive Property.Under (key : String) : Property → Prop
  | rgba {r g b : Binary64} {a : Option Binary64} (hkey : key = "fill")
      (hr : r.isFinite = true) (hg : g.isFinite = true) (hb : b.isFinite = true)
      (ha : ∀ x ∈ a, x.isFinite = true) : Property.Under key (.fill (.rgba r g b a))
  | unresolved (hkey : key = "fill") : Property.Under key (.fill .unresolved)
  | fontSize {size : Binary64} (hkey : key = "fontSize") (hfinite : size.isFinite = true)
      (hsize : size.isZero = false) : Property.Under key (.fontSize size)
  | ignored : Property.Under key (.ignored key)

/-- A style that gives account of each of these keys: no fill and no font size is hidden behind
another one, and what has no effect is listed. -/
structure Style.Accounts (keys : List String) (s : Style) : Prop where
  ascending : keys.Pairwise BytesBefore
  properties : List.Forall₂ Property.Under keys s.properties
  oneFill : s.properties.filterMap Property.fill? = s.fill.toList
  oneFontSize : s.properties.filterMap Property.fontSize? = s.fontSize.toList
  ignored : s.ignored.Pairwise BytesBefore
  once : (s.fill.toList.map (fun _ => "fill") ++ s.fontSize.toList.map (fun _ => "fontSize") ++
    s.ignored).Perm keys

/-- A node whose source gives a style with these keys, or none. -/
structure Node.Sound (given : Option (String → Prop)) (n : Node) : Prop where
  text : n.text ≠ none → n.kind = .text
  style : Option.Rel (fun given s => ∃ keys, (∀ k, k ∈ keys ↔ given k) ∧ Style.Accounts keys s)
    given n.style

def Json.Value.styleKeys? (v : Value) : Option (String → Prop) :=
  ((v.field? .style).bind Value.members?).map fun members k => k ∈ members.map Prod.fst

def Json.Outline.styleKeys? (o : Outline) : Option (String → Prop) :=
  ((o.given? .style).bind Outline.members?).map fun members k => ∃ m ∈ members, m.1.text = .ok k

namespace Json.Value

theorem isFinite_of_toBinary64? {v : Value} (h : v.Proper) {x : Binary64}
    (hx : v.toBinary64? = some x) : x.isFinite = true := by
  cases h with
  | number hn =>
    cases hx
    exact hn.isFinite
  | _ => exact nomatch hx

theorem proper_of_get? {v w : Value} (h : v.Proper) {key : String} (hw : v.get? key = some w) :
    w.Proper := by
  cases h with
  | @object members _ hmembers =>
    obtain ⟨l, r, hlookup, -⟩ := List.lookup_eq_some_iff.1 hw
    have hmem : (key, w) ∈ members := by
      rw [hlookup]
      simp
    exact hmembers _ hmem
  | _ => exact nomatch hw

end Json.Value

section Entry
variable {key : String} {v : Value}

theorem Property.under_of_fill (hkey : key = "fill") (h : v.Proper) :
    Property.Under key (.fill (.ofValue v)) := by
  have hchannel (k : String) (x : Binary64) (hx : (v.get? k).bind Value.toBinary64? = some x) :
      x.isFinite = true := by
    obtain ⟨w, hw, hx⟩ := Option.bind_eq_some_iff.1 hx
    exact Value.isFinite_of_toBinary64? (Value.proper_of_get? h hw) hx
  unfold Fill.ofValue
  dsimp only
  split
  · rename_i r g b hr hg hb
    exact .rgba hkey (hchannel "r" r hr) (hchannel "g" g hg) (hchannel "b" b hb)
      (fun x hx => hchannel "a" x hx)
  · exact .unresolved hkey

theorem Property.under_ofMember (key : String) (h : v.Proper) :
    Property.Under key (.ofMember key v) := by
  unfold Property.ofMember
  split
  · rename_i hfill
    exact Property.under_of_fill hfill.1 h
  · split
    · rename_i hkey
      split
      · rename_i size hsize
        split
        · exact .ignored
        · rename_i hzero
          exact .fontSize hkey (Value.isFinite_of_toBinary64? h hsize) (Bool.eq_false_iff.2 hzero)
      · exact .ignored
    · exact .ignored

end Entry

section Accounts
variable {keys : List String} {ps : List Property}

theorem ignored_sublist (h : List.Forall₂ Property.Under keys ps) :
    (ps.filterMap Property.ignored?).Sublist keys := by
  induction h with
  | nil => exact List.Sublist.slnil
  | cons hp _ ih =>
    cases hp with
    | ignored => exact ih.cons_cons _
    | _ => exact ih.cons _

theorem perm_of_under (h : List.Forall₂ Property.Under keys ps) :
    ((ps.filterMap Property.fill?).map (fun _ => "fill") ++
      (ps.filterMap Property.fontSize?).map (fun _ => "fontSize") ++
        ps.filterMap Property.ignored?).Perm keys := by
  induction h with
  | nil => exact List.Perm.nil
  | @cons k p keys ps hp _ ih =>
    cases hp with
    | rgba hkey => exact hkey ▸ ih.cons _
    | unresolved hkey => exact hkey ▸ ih.cons _
    | fontSize hkey =>
      subst hkey
      refine List.Perm.trans ?_ (ih.cons _)
      rw [List.append_assoc, List.append_assoc]
      exact List.perm_middle
    | ignored => exact List.perm_middle.trans (ih.cons _)

theorem filterMap_eq_toList {α : Type} {f : Property → Option α} {k : String} {rest : List String}
    (h : ((ps.filterMap f).map (fun _ => k) ++ rest).Nodup) :
    ps.filterMap f = (ps.findSome? f).toList := by
  rw [← List.head?_filterMap]
  generalize ps.filterMap f = xs at *
  rcases xs with _ | ⟨x, _ | ⟨y, xs⟩⟩
  · rfl
  · rfl
  · simp at h

theorem Style.accounts_of_under {s : Style} (hkeys : keys.Pairwise BytesBefore)
    (h : List.Forall₂ Property.Under keys s.properties) : Style.Accounts keys s := by
  have hnodup : keys.Nodup := by
    refine hkeys.imp fun {a b} hlt he => ?_
    rw [BytesBefore, he] at hlt
    exact List.lt_irrefl _ hlt
  have hperm := perm_of_under h
  have hall := hperm.nodup_iff.2 hnodup
  have hfill : s.properties.filterMap Property.fill? = s.fill.toList := by
    rw [List.append_assoc] at hall
    exact filterMap_eq_toList hall
  have hfontSize : s.properties.filterMap Property.fontSize? = s.fontSize.toList := by
    rw [List.append_assoc] at hall
    exact filterMap_eq_toList (List.nodup_append.1 hall).2.1
  constructor
  case ascending => exact hkeys
  case properties => exact h
  case oneFill => exact hfill
  case oneFontSize => exact hfontSize
  case ignored => exact hkeys.sublist (ignored_sublist h)
  case once =>
    rw [hfill, hfontSize] at hperm
    exact hperm

theorem Style.accounts_ofMembers {members : List (String × Value)} (ha : Ascending members)
    (h : ∀ m ∈ members, m.2.Proper) :
    Style.Accounts (members.map Prod.fst) (.ofMembers members) := by
  apply Style.accounts_of_under
  · apply List.pairwise_map.2
    exact ha.imp fun hlt => Text.encode_lt hlt
  · rw [Style.ofMembers, List.forall₂_map_left_iff, List.forall₂_map_right_iff, List.forall₂_same]
    intro m hm
    exact Property.under_ofMember m.1 (h m hm)

end Accounts

namespace Json.Value

theorem Proper.of_field? {v w : Value} (h : v.Proper) {f : Field} (hw : v.field? f = some w) :
    w.Proper := by
  cases h with
  | object _ hmembers => exact hmembers _ (Node.mem_of_lookup_reverse hw)
  | array hitems => exact hitems w (List.of_mem_zip (Node.lookup_zip_order.1 hw)).2
  | _ => cases hw

theorem Proper.of_mem_children {v c : Value} (h : v.Proper) (hc : c ∈ v.children) :
    c.Proper := by
  obtain ⟨items, hw, hmem⟩ := mem_children.1 hc
  cases h.of_field? hw with
  | array hitems => exact hitems c hmem

theorem Proper.descend {v w : Value} (h : v.Proper) {path : List Nat}
    (hw : v.descend path = some w) : w.Proper := by
  induction path generalizing v with
  | nil =>
    cases hw
    exact h
  | cons i path ih =>
    obtain ⟨c, hc, hw⟩ := Option.bind_eq_some_iff.1 hw
    exact ih (h.of_mem_children (List.mem_of_getElem? hc)) hw

end Json.Value

namespace Node

theorem sound_of_ofValue? {v : Value} {n : Node} (hv : v.Proper) (h : ofValue? v = .ok n) :
    Sound v.styleKeys? n := by
  obtain ⟨draft, -, hfinish⟩ := exists_filled_of_ofValue? h
  refine ⟨text_of_finish hfinish, ?_⟩
  rw [(mirrors_of_ofValue? h).style, Value.styleKeys?]
  cases hw : v.field? .style with
  | none => exact .none
  | some w =>
    have hproper : w.Proper := hv.of_field? hw
    cases hproper with
    | object ascending hmembers =>
      exact .some ⟨_, fun k => Iff.rfl, Style.accounts_ofMembers ascending hmembers⟩
    | _ => exact .none

theorem exists_spells_style {s r : List Char} {o : Outline} {members : List (Key × Outline)}
    (h : Outline.Spells s o r) (hm : (o.given? .style).bind Outline.members? = some members) :
    ∀ m ∈ members, ∃ t u, Outline.Spells t m.2 u := by
  intro m hmem
  obtain ⟨i, hi, hmembers⟩ := Option.bind_eq_some_iff.1 hm
  obtain ⟨t, u, -, hspells, -⟩ := h.exists_inner (Outline.mem_inner_of_given? hi)
  cases i with
  | object start ms close =>
    cases hmembers
    obtain ⟨t, u, -, hspells, -⟩ := hspells.exists_inner (List.mem_map_of_mem hmem)
    exact ⟨t, u, hspells⟩
  | _ => exact nomatch hmembers

theorem exists_spells_child {s r : List Char} {o c : Outline} (h : Outline.Spells s o r)
    (hc : c ∈ o.children) : ∃ t u, Outline.Spells t c u := by
  obtain ⟨i, hi, hmem⟩ := Outline.mem_children.1 hc
  obtain ⟨t, u, -, hspells, -⟩ := h.exists_inner (Outline.mem_inner_of_given? hi)
  obtain ⟨t, u, -, hspells, -⟩ := hspells.exists_inner (Outline.elements_subset_inner i hmem)
  exact ⟨t, u, hspells⟩

theorem sound_of_ofOutline {depth : Nat} {s r : List Char} {o : Outline} {n : Node}
    (hs : Outline.Spells s o r) (h : ofOutline depth o = .ok n) : Sound o.styleKeys? n := by
  obtain ⟨d, draft, -, hfinish, -⟩ := holds_of_ofOutline h
  refine ⟨text_of_finish hfinish, ?_⟩
  have hstyle := style_of_ofOutline h
  have hspells {members : List (Key × Outline)} := @exists_spells_style s r o members hs
  rw [Outline.styleKeys?]
  generalize (o.given? .style).bind Outline.members? = given at *
  generalize n.style = style at *
  cases hstyle with
  | none => exact .none
  | @some members s hread =>
    obtain ⟨d, xs, rfl, hall⟩ := hread
    have hkeys (k : String) :
        k ∈ (sortMembers xs).map Prod.fst ↔ ∃ m ∈ members, m.1.text = .ok k := by
      rw [mem_keys_sortMembers]
      constructor
      · intro hk
        obtain ⟨x, hx, rfl⟩ := List.mem_map.1 hk
        obtain ⟨m, hm, htext, -⟩ := exists_of_forall₂ hall.flip hx
        exact ⟨m, hm, htext⟩
      · rintro ⟨m, hm, htext⟩
        obtain ⟨x, hx, hkey, -⟩ := exists_of_forall₂ hall hm
        exact List.mem_map.2 ⟨x, hx, Except.ok.inj (hkey.symm.trans htext)⟩
    refine .some ⟨_, hkeys, Style.accounts_ofMembers (ascending_sortMembers xs) ?_⟩
    intro x hx
    obtain ⟨m, hm, -, hv⟩ := exists_of_forall₂ hall.flip (mem_of_mem_sortMembers hx)
    obtain ⟨t, u, hmember⟩ := hspells rfl m hm
    exact hmember.proper hv

theorem descend_of_ofOutline {depth : Nat} {s r : List Char} {o : Outline} {n : Node}
    (hs : Outline.Spells s o r) (h : ofOutline depth o = .ok n) (path : List Nat) :
    Option.Rel (fun c m => Sound c.styleKeys? m) (o.descend path) (n.descend path) := by
  induction path generalizing depth s r o n with
  | nil => exact .some (sound_of_ofOutline hs h)
  | cons i path ih =>
    have hi := getElem?_rel (children_of_ofOutline h) i
    have hchild (c : Outline) (hc : o.children[i]? = some c) : ∃ t u, Outline.Spells t c u :=
      exists_spells_child hs (List.mem_of_getElem? hc)
    rw [Outline.descend, descend]
    generalize o.children[i]? = a at *
    generalize n.children[i]? = b at *
    cases hi with
    | none => exact .none
    | @some c m hread =>
      obtain ⟨d, -, hread⟩ := hread
      obtain ⟨t, u, hspells⟩ := hchild c rfl
      exact ih hspells hread

theorem descend_sound_of_ofValue {v : Value} {n : Node} (hv : v.Proper) (h : ofValue v = .ok n)
    (path : List Nat) :
    Option.Rel (fun w m => Sound w.styleKeys? m) (v.descend path) (n.descend path) := by
  have hdescend := descend_of_ofValue? (ofValue_eq_ok.1 h) path
  cases hw : v.descend path with
  | none =>
    rw [hw] at hdescend
    rw [Option.map_eq_none_iff.1 hdescend.symm]
    exact .none
  | some w =>
    rw [hw] at hdescend
    obtain ⟨m, hm, hread⟩ := Option.map_eq_some_iff.1 hdescend.symm
    rw [hm]
    exact .some (sound_of_ofValue? (hv.descend hw) (ofValue_eq_ok.1 hread.symm))

mutual

theorem exists_path_of_mem_preorder {m : Node} :
    (n : Node) → m ∈ n.preorder → ∃ path, n.descend path = some m
  | ⟨id, name, kind, children, style, text⟩, h => by
    rcases List.mem_cons.1 h with rfl | h
    · exact ⟨[], rfl⟩
    · obtain ⟨i, c, path, hc, hpath⟩ := exists_path_of_mem_preorderAll children h
      exact ⟨i :: path, Option.bind_eq_some_iff.2 ⟨c, hc, hpath⟩⟩

theorem exists_path_of_mem_preorderAll {m : Node} :
    (ns : List Node) → m ∈ preorderAll ns →
      ∃ (i : Nat) (c : Node) (path : List Nat), ns[i]? = some c ∧ c.descend path = some m
  | n :: ns, h => by
    rcases List.mem_append.1 h with h | h
    · obtain ⟨path, hpath⟩ := exists_path_of_mem_preorder n h
      exact ⟨0, n, path, rfl, hpath⟩
    · obtain ⟨i, c, path, hc, hpath⟩ := exists_path_of_mem_preorderAll ns h
      exact ⟨i + 1, c, path, hc, hpath⟩

end

theorem sound_of_mem_preorder {text : String} {root n : Node} (h : ofText text = .ok root)
    (hn : n ∈ root.preorder) : ∃ given, Sound given n := by
  obtain ⟨hroot, hafter⟩ := ofText_eq_ok.1 h
  obtain ⟨r, hspells, -⟩ := Document.spells_of_after hafter
  obtain ⟨path, hpath⟩ := exists_path_of_mem_preorder root hn
  have hsound := descend_of_ofOutline hspells hroot path
  rw [hpath] at hsound
  generalize (Document.ofText text.toList).root.descend path = given at hsound
  cases hsound with
  | some hsound => exact ⟨_, hsound⟩

/-- Every node of a tree is sound: its style gives account of the keys that are given at the same
place of the text, of the value, or of the document in the response that the tree is read from. -/
theorem sound_of_read :
    (∀ text n, ofText text = .ok n → ∀ path,
      Option.Rel (fun o m => Sound o.styleKeys? m)
        ((Document.ofText text.toList).root.descend path) (n.descend path)) ∧
    (∀ v n, v.Proper → ofValue v = .ok n → ∀ path,
      Option.Rel (fun w m => Sound w.styleKeys? m) (v.descend path) (n.descend path)) ∧
    ∀ text nodeId n, ofResponse text nodeId = .ok n →
      ∃ o, Response.documentOf? nodeId (Document.ofText text.toList).root = some o ∧ ∀ path,
        Option.Rel (fun o m => Sound o.styleKeys? m) (o.descend path) (n.descend path) := by
  refine ⟨fun text n h => ?_, fun v n hv h => descend_sound_of_ofValue hv h,
    fun text nodeId n h => ?_⟩
  · obtain ⟨hroot, hafter⟩ := ofText_eq_ok.1 h
    obtain ⟨r, hspells, -⟩ := Document.spells_of_after hafter
    exact descend_of_ofOutline hspells hroot
  · obtain ⟨hafter, o, ho, hread⟩ := exists_document_of_ofResponse h
    obtain ⟨s, r, -, hspells, -⟩ := Response.exists_spells_document hafter ho
    exact ⟨o, ho, descend_of_ofOutline hspells hread⟩

theorem sound_of_read_nested :
    let one : Value := .number (.real ⟨0x3FF0000000000000⟩)
    let colour : Value := .object [("b", one), ("g", one), ("r", one)]
    let w : Value := .array [.string "2", .string "B", .string "TEXT", .null,
      .object [("fill", colour), ("x", .null)], .string "hi"]
    let v : Value := .array [.string "1", .string "A", .string "GROUP", .array [w]]
    let white : Fill :=
      .rgba ⟨0x3FF0000000000000⟩ ⟨0x3FF0000000000000⟩ ⟨0x3FF0000000000000⟩ none
    let child : Node := ⟨"2", "B", .text, [], some ⟨[.fill white, .ignored "x"]⟩, some "hi"⟩
    let n : Node := ⟨"1", "A", .container, [child], none, none⟩
    v.Proper ∧ ofValue v = .ok n ∧ v.descend [0] = some w ∧ n.descend [0] = some child ∧
      Sound w.styleKeys? child := by
  intro one colour w v white child n
  have hn : ofValue v = .ok n := by cbv
  have hone : one.Proper := .number (by unfold Number.Proper; decide)
  have hcolour : colour.Proper := by
    refine .object ?_ (by simp [hone])
    rw [Ascending]
    decide
  have hstyle : (Value.object [("fill", colour), ("x", .null)]).Proper := by
    refine .object ?_ (by simp [hcolour, Value.Proper.null])
    rw [Ascending]
    decide
  have hw : w.Proper := .array (by simp [hstyle, Value.Proper.string, Value.Proper.null])
  have hchildren : (Value.array [w]).Proper := .array (by simp [hw])
  have hv : v.Proper := .array (by simp [hchildren, Value.Proper.string])
  obtain ⟨-, hvalue, -⟩ := sound_of_read
  have hchild := hvalue v n hv hn [0]
  have hplace : v.descend [0] = some w := rfl
  have hdescend : n.descend [0] = some child := rfl
  rw [hplace, hdescend] at hchild
  cases hchild with
  | some hsound => exact ⟨hv, hn, hplace, hdescend, hsound⟩

end Node
end DesignCompiler
