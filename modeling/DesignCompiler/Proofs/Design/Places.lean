import DesignCompiler.Proofs.Design.Acceptance
import DesignCompiler.Proofs.Design.Response

set_option autoImplicit false

namespace DesignCompiler
open Json

namespace Json.Outline

def members? : Outline → Option (List (Key × Outline))
  | .object _ members _ => some members
  | _ => none

def given? : Outline → Field → Option Outline
  | .array _ items _, f => (Field.order.zip items).lookup f
  | o, f => o.member? f.key

def children (o : Outline) : List Outline := ((o.given? .children).map elements).getD []

def descend (o : Outline) : List Nat → Option Outline
  | [] => some o
  | i :: path => o.children[i]?.bind (·.descend path)

theorem mem_children {o c : Outline} :
    c ∈ o.children ↔ ∃ i, o.given? .children = some i ∧ c ∈ i.elements := by
  rw [children]
  cases o.given? .children <;> simp

theorem mem_inner_of_given? {o i : Outline} {f : Field} (h : o.given? f = some i) :
    i ∈ o.inner := by
  cases o with
  | array start items close =>
    obtain ⟨l, r, hzip, -⟩ := List.lookup_eq_some_iff.1 h
    have hmem : (f, i) ∈ Field.order.zip items := by
      rw [hzip]
      simp
    exact (List.of_mem_zip hmem).2
  | object start members close => exact mem_inner_of_member? f.key h
  | _ => exact nomatch h

theorem elements_subset_inner (o : Outline) : o.elements ⊆ o.inner := by
  cases o with
  | array start items close => exact List.Subset.refl _
  | _ => exact List.nil_subset _

end Json.Outline

theorem Json.Value.mem_children {v c : Value} :
    c ∈ v.children ↔ ∃ items, v.field? .children = some (.array items) ∧ c ∈ items := by
  rw [children]
  cases v.field? .children with
  | none => simp
  | some w => cases w <;> simp [items?]

namespace Draft

/-- A draft that holds what is read of the places of the fields, and nothing else. -/
def Holds (depth : Nat) (given : Field → Option Outline) (d : Draft) : Prop :=
  ∀ f, Option.Rel (fun o x => Node.readFieldAt depth f o = .ok x) (given f) (d.get f)

theorem holds_of_gatherMembers {depth : Nat} {members : List (Key × Outline)} {d : Draft}
    (h : form.gatherMembers (Node.putAt depth) {} members = .ok d) :
    Holds depth (fun f => (valuesOf f.key members).getLast?) d := by
  intro f
  change Option.Rel _ (valuesOf f.key members).getLast? (d.get f)
  obtain ⟨-, hslots⟩ := gatherMembers_eq_ok.1 h
  rcases hslots f with ⟨hv, hd⟩ | ⟨o, x, hv, -, hx, hd⟩
  · rw [hv, hd, get_empty]
    exact .none
  · rw [hv, hd]
    exact .some hx

/-- By induction on the items: each fills the first of the fields that are left. -/
theorem holds_of_gatherItems {depth : Nat} {fields : List Field} {items : List Outline}
    {d e : Draft} {complete : Bool} (hf : fields.Nodup)
    (h : Form.gatherItems (Node.putAt depth) fields d items = .ok (e, complete))
    (hd : ∀ f ∈ fields, d.get f = none) :
    ∀ f, (f ∈ fields → Option.Rel (fun o x => Node.readFieldAt depth f o = .ok x)
        ((fields.zip items).lookup f) (e.get f)) ∧ (f ∉ fields → e.get f = d.get f) := by
  induction items generalizing fields d with
  | nil =>
    have hresult : Form.gatherItems (Node.putAt depth) fields d [] = .ok (d, fields.isEmpty) := by
      cases fields <;> rfl
    rw [hresult] at h
    cases h
    intro f
    rw [List.zip_nil_right]
    refine ⟨fun hmem => ?_, fun _ => rfl⟩
    rw [hd f hmem]
    exact .none
  | cons o items ih =>
    obtain ⟨g, fields, next, rfl, hput, h⟩ := Form.gatherItems_cons_eq_ok.1 h
    obtain ⟨hg, hfields⟩ := List.nodup_cons.1 hf
    obtain ⟨x, hx, rfl⟩ := put_eq_ok.1 hput
    have hleft : ∀ f ∈ fields, (d.set g x).get f = none := by
      intro f hmem
      have hne : f ≠ g := fun he => hg (he ▸ hmem)
      rw [get_set_of_ne hne]
      exact hd f (List.mem_cons_of_mem g hmem)
    intro f
    obtain ⟨hin, hout⟩ := ih hfields h hleft f
    rw [List.zip_cons_cons, List.lookup_cons]
    by_cases hfg : f = g
    · subst hfg
      rw [hout hg, get_set_self, beq_self_eq_true]
      exact ⟨fun _ => .some hx, fun hnot => absurd List.mem_cons_self hnot⟩
    · rw [beq_eq_false_iff_ne.2 hfg]
      constructor
      · intro hmem
        exact hin ((List.mem_cons.1 hmem).resolve_left hfg)
      · intro hnot
        rw [hout fun hmem => hnot (List.mem_cons_of_mem g hmem), get_set_of_ne hfg]

end Draft

namespace Node

theorem holds_of_ofOutline {depth : Nat} {o : Outline} {n : Node} (h : ofOutline depth o = .ok n) :
    ∃ d draft, depth = d + 1 ∧ draft.finish = .ok n ∧ Draft.Holds d o.given? draft := by
  obtain ⟨d, draft, rfl, hfinish, ⟨start, members, rest, rfl, hgather⟩ |
    ⟨start, items, rest, complete, rfl, hgather⟩⟩ := ofOutline_eq_ok.1 h
  · exact ⟨d, draft, rfl, hfinish, Draft.holds_of_gatherMembers hgather⟩
  · refine ⟨d, draft, rfl, hfinish, fun f => ?_⟩
    have horder : f ∈ Field.order := by cases f <;> decide
    exact (Draft.holds_of_gatherItems (by decide) hgather
      (fun g _ => Draft.get_empty g) f).1 horder

theorem readFieldAt_children_eq_ok {depth : Nat} {o : Outline} {x : Option (List Node)} :
    readFieldAt depth .children o = .ok x ↔ (o.isNull = true ∧ x = none) ∨
      (o.isNull = false ∧ ∃ ns, Outline.readList (inside ofOutline depth) o = .ok ns ∧
        x = some ns) := Outline.readOption_eq_ok

theorem children_of_ofOutline {depth : Nat} {o : Outline} {n : Node}
    (h : ofOutline depth o = .ok n) :
    List.Forall₂ (fun c m => ∃ d, depth = d + 2 ∧ ofOutline d c = .ok m) o.children n.children := by
  obtain ⟨d, draft, rfl, hfinish, hholds⟩ := holds_of_ofOutline h
  obtain ⟨-, -, -, hchildren, -, -⟩ := Draft.finish_eq_ok.1 hfinish
  have hslot : Option.Rel (fun i x => readFieldAt d .children i = .ok x)
      (o.given? .children) draft.children := hholds .children
  rw [hchildren, Outline.children]
  generalize o.given? .children = given at hslot
  generalize draft.children = slot at hslot
  cases hslot with
  | none => exact .nil
  | @some i x hx =>
    rcases readFieldAt_children_eq_ok.1 hx with ⟨hnull, rfl⟩ | ⟨-, ns, hns, rfl⟩
    · cases i with
      | null start rest => exact .nil
      | _ => exact nomatch hnull
    · obtain ⟨_, start, items, rest, hread, rfl, hall⟩ := Outline.readList_eq_ok.1 hns
      obtain ⟨k, rfl, rfl⟩ := inside_eq_some.1 hread
      exact hall.imp fun c m hm => ⟨k, rfl, hm⟩

theorem style_of_ofOutline {depth : Nat} {o : Outline} {n : Node} (h : ofOutline depth o = .ok n) :
    Option.Rel (fun members s => ∃ d xs, s = Style.ofMembers (sortMembers xs) ∧
        List.Forall₂ (fun m x => m.1.text = .ok x.1 ∧ Value.ofOutline d m.2 = .ok x.2) members xs)
      ((o.given? .style).bind Outline.members?) n.style := by
  obtain ⟨d, draft, rfl, hfinish, hholds⟩ := holds_of_ofOutline h
  obtain ⟨-, -, -, -, hstyle, -⟩ := Draft.finish_eq_ok.1 hfinish
  have hslot : Option.Rel (fun i x => readFieldAt d .style i = .ok x)
      (o.given? .style) draft.style := hholds .style
  rw [hstyle]
  generalize o.given? .style = given at hslot
  generalize draft.style = slot at hslot
  cases hslot with
  | none => exact .none
  | @some i x hx =>
    obtain ⟨ms, hms, rfl⟩ := map_eq_ok.1 hx
    rcases Outline.readOption_eq_ok.1 hms with ⟨hnull, rfl⟩ | ⟨-, xs, hxs, rfl⟩
    · cases i with
      | null start rest => exact .none
      | _ => exact nomatch hnull
    · obtain ⟨_, start, members, rest, hread, rfl, hall⟩ := Outline.readMap_eq_ok.1 hxs
      obtain ⟨k, rfl, rfl⟩ := inside_eq_some.1 hread
      exact .some ⟨k, xs, rfl, hall⟩

theorem text_of_finish {draft : Draft} {n : Node} (h : draft.finish = .ok n)
    (ht : n.text ≠ none) : n.kind = .text := by
  obtain ⟨-, -, -, -, -, htext⟩ := Draft.finish_eq_ok.1 h
  by_contra hkind
  rw [if_neg hkind] at htext
  exact ht htext

theorem exists_document_of_ofResponse {text nodeId : String} {n : Node}
    (h : ofResponse text nodeId = .ok n) : (Document.ofText text.toList).after = .ok [] ∧
      ∃ o, Response.documentOf? nodeId (Document.ofText text.toList).root = some o ∧
        ofOutline 124 o = .ok n := by
  obtain ⟨response, hresponse, hfind⟩ := ofResponse_eq_ok.1 h
  obtain ⟨hroot, hafter⟩ := Response.ofText_eq_ok.1 hresponse
  refine ⟨hafter, ?_⟩
  rcases Response.find?_of_ofOutline nodeId hroot with ⟨-, hnone⟩ | ⟨o, ho, hread⟩
  · rw [hnone] at hfind
    cases hfind
  · rw [hfind] at hread
    obtain ⟨-, he⟩ | ⟨-, m, hm, he⟩ := Outline.readOption_eq_ok.1 hread
    · cases he
    · cases he
      exact ⟨o, ho, hm⟩

end Node
end DesignCompiler
