import DesignCompiler.Design.Response
import DesignCompiler.Proofs.Design.Nesting
import DesignCompiler.Proofs.Json.Members
import DesignCompiler.Proofs.Json.Written
import Mathlib

set_option autoImplicit false

namespace DesignCompiler
open Json

namespace Json.Outline

def member? (name : String) : Outline → Option Outline
  | .object _ members _ => (valuesOf name members).getLast?
  | _ => none

def field? (key : String) : Outline → Option Outline
  | .array _ items _ => items.head?
  | o => o.member? key

theorem mem_inner_of_member? {o i : Outline} (name : String) (h : o.member? name = some i) :
    i ∈ o.inner := by
  cases o with
  | object start members close =>
    obtain ⟨k, hk, -⟩ := mem_valuesOf.1 (List.mem_of_getLast? h)
    exact List.mem_map.2 ⟨_, hk, rfl⟩
  | _ => exact nomatch h

theorem mem_inner_of_field? {key : String} {o i : Outline} (h : o.field? key = some i) :
    i ∈ o.inner := by
  cases o with
  | array start items close => exact List.mem_of_head? h
  | object start members close => exact mem_inner_of_member? key h
  | _ => exact nomatch h

end Json.Outline

namespace Json.Form
variable {α β : Type} {name key : String} {finish : Option β → Except String α}
  {read : Outline → Except Issue β}

theorem gatherMembers_single {s s' : Option β} {members : List (Key × Outline)}
    (h : (single name key finish).gatherMembers (fun _ _ o => some <$> read o) s members = .ok s') :
    (s = none → Option.Rel (fun o b => read o = .ok b) (valuesOf key members).getLast? s') ∧
      ∀ b, s = some b → s' = some b ∧ valuesOf key members = [] := by
  induction members generalizing s with
  | nil =>
    cases h
    exact ⟨fun hs => hs ▸ .none, fun b hb => ⟨hb, rfl⟩⟩
  | cons m members ih =>
    obtain ⟨k, o⟩ := m
    obtain ⟨t, hk, ⟨ht, -, h⟩ | ⟨u, ht, hhas, s₁, hput, h⟩⟩ := gatherMembers_cons_eq_ok.1 h
    · have hne : t ≠ key := by
        rintro rfl
        simp [single] at ht
      have hvalues : valuesOf key ((k, o) :: members) = valuesOf key members := by
        rw [valuesOf_cons, Key.spells_of_text hk]
        simp [hne]
      rw [hvalues]
      exact ih h
    · obtain rfl : t = key := by
        by_contra hne
        simp [single, hne] at ht
      have hs : s = none := by
        cases s with
        | none => rfl
        | some b => exact nomatch hhas
      obtain ⟨b, hb, rfl⟩ := map_eq_ok.1 hput
      obtain ⟨rfl, hrest⟩ := (ih h).2 b rfl
      refine ⟨fun _ => ?_, fun b hb => ?_⟩
      · rw [valuesOf_cons, Key.spells_of_text hk, hrest]
        simp only [decide_true, ite_true, List.getLast?_singleton]
        exact .some hb
      · rw [hs] at hb
        exact nomatch hb

theorem field?_of_read_single {o : Outline} {x : α}
    (h : (single name key finish).read (some fun _ _ o => some <$> read o) o = .ok x) :
    ∃ s, finish s = .ok x ∧ Option.Rel (fun o b => read o = .ok b) (o.field? key) s := by
  obtain ⟨_, ⟨⟩, s, hs, ⟨start, members, rest, rfl, hgather⟩ |
    ⟨start, items, rest, complete, rfl, hgather⟩⟩ := read_eq_ok.1 h
  · exact ⟨s, hs, (gatherMembers_single hgather).1 rfl⟩
  · refine ⟨s, hs, ?_⟩
    rcases items with _ | ⟨i, items⟩
    · cases hgather
      exact .none
    · obtain ⟨_, _, s₁, ⟨⟩, hput, hgather⟩ := gatherItems_cons_eq_ok.1 hgather
      obtain ⟨b, hb, rfl⟩ := map_eq_ok.1 hput
      rcases items with _ | ⟨j, items⟩
      · cases hgather
        exact .some hb
      · obtain ⟨_, _, _, he, -⟩ := gatherItems_cons_eq_ok.1 hgather
        exact nomatch he

theorem read_single_object (start rest : List Char) {k : Key} {o : Outline} {b : β} {x : α}
    (hk : k.text = .ok key) (hb : read o = .ok b) (hx : finish (some b) = .ok x) :
    (single name key finish).read (some fun _ _ o => some <$> read o)
      (.object start [(k, o)] (.closed rest)) = .ok x := by
  have hput : some <$> read o = .ok (some b) := map_eq_ok.2 ⟨b, hb, rfl⟩
  have hgather : (single name key finish).gatherMembers (fun _ _ o => some <$> read o) none
      [(k, o)] = .ok (some b) :=
    gatherMembers_cons_eq_ok.2 ⟨key, hk, .inr ⟨(), by simp [single], rfl, some b, hput, rfl⟩⟩
  exact read_eq_ok.2 ⟨_, rfl, some b, hx, .inl ⟨start, _, rest, rfl, hgather⟩⟩

end Json.Form

namespace Response

/-- The document of the last entry with this id in the outline of a response. -/
def documentOf? (nodeId : String) (o : Outline) : Option Outline := do
  let nodes ← o.field? "nodes"
  let entry ← nodes.member? nodeId
  entry.field? "document"

/-- The part of the text of a response that is the document of the last entry with this id. -/
def documentText? (text nodeId : String) : Option String :=
  (documentOf? nodeId (Document.ofText text.toList).root).map fun o => String.ofList o.slice

/-- A response of one entry, written without spaces around the text of its document. -/
def textOfEntry (nodeId document : String) : String :=
  String.ofList (writeObject [("nodes", writeObject [(nodeId, writeObject
    [("document", document.toList)])])])

theorem entry_of_readOption {o : Outline} {x : Option (Option Node)}
    (h : Outline.readOption (entryOfOutline 125) o = .ok x) :
    (o.field? "document" = none ∧ x.join = none) ∨
      ∃ d, o.field? "document" = some d ∧
        Outline.readOption (Node.ofOutline 124) d = .ok x.join := by
  rcases Outline.readOption_eq_ok.1 h with ⟨hnull, rfl⟩ | ⟨-, e, he, rfl⟩
  · cases o with
    | null start rest => exact .inl ⟨rfl, rfl⟩
    | _ => exact nomatch hnull
  · obtain ⟨s, hs, hrel⟩ := Form.field?_of_read_single he
    obtain rfl : s.join = e := Except.ok.inj hs
    generalize o.field? "document" = d at hrel ⊢
    cases hrel with
    | none => exact .inl ⟨rfl, rfl⟩
    | some hd => exact .inr ⟨_, rfl, hd⟩

theorem find?_of_ofOutline {o : Outline} {response : Response} (nodeId : String)
    (h : ofOutline nestingLimit o = .ok response) :
    (documentOf? nodeId o = none ∧ response.find? nodeId = none) ∨
      ∃ d, documentOf? nodeId o = some d ∧
        Outline.readOption (Node.ofOutline 124) d = .ok (response.find? nodeId) := by
  obtain ⟨s, hs, hrel⟩ := Form.field?_of_read_single h
  obtain rfl := Except.ok.inj hs
  have hdocument : documentOf? nodeId o = (o.field? "nodes").bind fun nodes =>
      (nodes.member? nodeId).bind fun entry => entry.field? "document" := rfl
  rw [hdocument]
  generalize o.field? "nodes" = nodes at hrel ⊢
  cases hrel with
  | none => exact .inl ⟨rfl, rfl⟩
  | @some nodes xs hxs =>
    obtain ⟨_, start, members, rest, ⟨⟩, rfl, hall⟩ := Outline.readMap_eq_ok.1 hxs
    have hlast := lookup_reverse_of_forall₂
      (fun o x => Outline.readOption (entryOfOutline 125) o = .ok x) nodeId hall
    have hfind : find? ⟨((some xs).getD []).map fun e => (e.1, e.2.join)⟩ nodeId =
        ((xs.reverse.lookup nodeId).map Option.join).join := by
      rw [find?, Option.getD_some, ← List.map_reverse, lookup_map]
    rw [hfind]
    simp only [Option.bind_some, Outline.member?]
    generalize (valuesOf nodeId members).getLast? = entry at hlast ⊢
    generalize xs.reverse.lookup nodeId = x at hlast ⊢
    cases hlast with
    | none => exact .inl ⟨rfl, rfl⟩
    | some hx =>
      have hentry := entry_of_readOption hx
      exact hentry

theorem ofText_eq_ok {text : String} {response : Response} : ofText text = .ok response ↔
    ofOutline nestingLimit (Document.ofText text.toList).root = .ok response ∧
      (Document.ofText text.toList).after = .ok [] := by
  rw [ofText, mapError_eq_ok, readText_eq_ok]

theorem ofOutline_single {s₁ s₂ s₃ r₁ r₂ r₃ : List Char} {k₁ k₂ k₃ : Key} {nodeId : String}
    {o : Outline} {x : Option Node} (hk₁ : k₁.text = .ok "document") (hk₂ : k₂.text = .ok nodeId)
    (hk₃ : k₃.text = .ok "nodes") (h : Outline.readOption (Node.ofOutline 124) o = .ok x) :
    ofOutline nestingLimit (.object s₃ [(k₃, .object s₂ [(k₂, .object s₁ [(k₁, o)] (.closed r₁))]
      (.closed r₂))] (.closed r₃)) = .ok ⟨[(nodeId, x)]⟩ := by
  have hentry : entryOfOutline 125 (.object s₁ [(k₁, o)] (.closed r₁)) = .ok x :=
    Form.read_single_object s₁ r₁ hk₁ h rfl
  have hoption := Outline.readOption_eq_ok.2 (.inr ⟨rfl, x, hentry, rfl⟩)
  have hmap : Outline.readMap (some (Outline.readOption (entryOfOutline 125)))
      (.object s₂ [(k₂, .object s₁ [(k₁, o)] (.closed r₁))] (.closed r₂)) =
        .ok [(nodeId, some x)] :=
    Outline.readMap_eq_ok.2 ⟨_, s₂, _, r₂, rfl, rfl, .cons ⟨hk₂, hoption⟩ .nil⟩
  exact Form.read_single_object s₃ r₃ hk₃ hmap rfl

theorem exists_spells_document {text nodeId : String} {d : Outline}
    (hafter : (Document.ofText text.toList).after = .ok [])
    (hd : documentOf? nodeId (Document.ofText text.toList).root = some d) :
    ∃ s r, s <:+ text.toList ∧ Outline.Spells s d r ∧ Stops r := by
  obtain ⟨r, hroot, -⟩ := Document.spells_of_after hafter
  obtain ⟨nodes, hnodes, hd⟩ := Option.bind_eq_some_iff.1 hd
  obtain ⟨entry, hentry, hd⟩ := Option.bind_eq_some_iff.1 hd
  obtain ⟨s₁, r₁, hs₁, hspells₁, -⟩ := hroot.exists_inner (Outline.mem_inner_of_field? hnodes)
  obtain ⟨s₂, r₂, hs₂, hspells₂, -⟩ :=
    hspells₁.exists_inner (Outline.mem_inner_of_member? _ hentry)
  obtain ⟨s, r, hs, hspells, hr⟩ := hspells₂.exists_inner (Outline.mem_inner_of_field? hd)
  exact ⟨s, r, (hs.trans hs₂).trans hs₁, hspells, hr⟩

end Response

namespace Node

theorem ofResponse_eq_ok {text nodeId : String} {n : Node} : ofResponse text nodeId = .ok n ↔
    ∃ response, Response.ofText text = .ok response ∧ response.find? nodeId = some n := by
  rw [ofResponse, bind_eq_ok]
  refine exists_congr fun response => and_congr_right fun _ => ?_
  cases response.find? nodeId <;> simp [pure, Except.pure, throw, throwThe, MonadExceptOf.throw]

/-- A part of a text that reads as a node where three brackets are open around it does so alone. -/
theorem ofText_slice {s r : List Char} {d : Outline} {n : Node} (hd : Outline.Spells s d r)
    (hr : Stops r) (h : ofOutline 124 d = .ok n) : ofText (String.ofList d.slice) = .ok n := by
  obtain ⟨d', hd', hbare⟩ := hd.spells_slice hr [] stops_nil
  rw [List.append_nil] at hd'
  have hdocument := Document.ofText_of_spells hd' rfl
  -- Alone the node is read with 127 brackets to open, which is three more.
  have h' : ofOutline 124 d' = .ok n := by
    rw [← respects_ofOutline, hbare, respects_ofOutline]
    exact h
  obtain ⟨hle, hmore⟩ := ofOutline_of_nesting 124 d' n h'
  rw [ofText_eq_ok, String.toList_ofList, hdocument]
  exact ⟨hmore nestingLimit (Nat.le_trans hle (by decide)), rfl⟩

theorem spells_object_single (name : String) {value rest r : List Char} {o : Outline}
    (ho : Outline.Spells value o rest) (hrest : skipSpace rest = '}' :: r) :
    ∃ start k, k.text = .ok name ∧
      Outline.Spells ('{' :: (writeString name.toList ++ ':' :: value))
        (.object start [(k, o)] (.closed r)) r := by
  have hclose : Outline.SpellsMembers false rest [] r :=
    Outline.spellsMembers_iff.2 ⟨'}', r, hrest, .inl ⟨rfl, rfl, rfl⟩⟩
  obtain ⟨k, hk, hmember⟩ := Outline.spellsMember_written name ho hclose
  have hmembers := Outline.spellsMembers_iff.2
    ⟨'"', _, skipSpace_cons_of_not (by decide) _, .inr (.inl ⟨rfl, rfl, hmember⟩)⟩
  have hobject := Outline.spells_iff.2
    ⟨'{', _, skipSpace_cons_of_not (by decide) _, .inr (.inl ⟨rfl, _, hmembers, rfl⟩)⟩
  have happend : writeString name.toList ++ ':' :: value =
      '"' :: (name.toList.flatMap escapeChar ++ '"' :: ':' :: value) := by
    simp [writeString]
  rw [happend]
  exact ⟨_, k, hk, hobject⟩

theorem ofResponse_of_ofText {text : String} {n : Node} (nodeId : String)
    (h : ofText text = .ok n) (hdepth : nesting (Document.ofText text.toList).root ≤ 124) :
    ofResponse (Response.textOfEntry nodeId text) nodeId = .ok n := by
  obtain ⟨hroot, hafter⟩ := ofText_eq_ok.1 h
  obtain ⟨rest, hspells, hrest⟩ := Document.spells_of_after hafter
  obtain ⟨p, hp, -, hlocal⟩ := Outline.spells_local hspells (stops_of_skipSpace_nil hrest)
  -- The text ends in white space, which stands in front of the closing brace then.
  have hskip : skipSpace (rest ++ ['}', '}', '}']) = ['}', '}', '}'] := 
    skipSpace_append_cons hrest (by decide)
  obtain ⟨o, ho, hbare⟩ := hlocal (rest ++ ['}', '}', '}'])
    (stops_of_skipSpace hskip (stops_cons.2 (by decide)))
  have hread : ofOutline 124 o = .ok n := by
    rw [← respects_ofOutline, hbare, respects_ofOutline]
    exact (ofOutline_of_nesting _ _ _ hroot).2 124 hdepth
  have hnull : o.isNull = false := by
    cases o with
    | null start rest => exact nomatch hread
    | _ => rfl
  have hoption : Outline.readOption (ofOutline 124) o = .ok (some n) :=
    Outline.readOption_eq_ok.2 (.inr ⟨hnull, n, hread, rfl⟩)
  obtain ⟨s₁, k₁, hk₁, hspells₁⟩ := spells_object_single "document" ho hskip
  obtain ⟨s₂, k₂, hk₂, hspells₂⟩ := spells_object_single nodeId hspells₁ rfl
  obtain ⟨s₃, k₃, hk₃, hspells₃⟩ := spells_object_single "nodes" hspells₂ rfl
  have htext : (Response.textOfEntry nodeId text).toList =
      '{' :: (writeString "nodes".toList ++ ':' ::
        '{' :: (writeString nodeId.toList ++ ':' ::
          '{' :: (writeString "document".toList ++ ':' :: (p ++ (rest ++ ['}', '}', '}']))))) := by
    rw [Response.textOfEntry, String.toList_ofList]
    simp only [writeObject, writeMembers, writeMember, hp, List.append_assoc, List.cons_append,
      List.nil_append]
  have hdocument := Document.ofText_of_spells hspells₃ rfl
  rw [← htext] at hdocument
  refine ofResponse_eq_ok.2 ⟨⟨[(nodeId, some n)]⟩, Response.ofText_eq_ok.2 ⟨?_, ?_⟩, ?_⟩
  · rw [hdocument]
    exact Response.ofOutline_single hk₁ hk₂ hk₃ hoption
  · rw [hdocument]
  · simp [Response.find?]

theorem slice_of_isNull {s r : List Char} {d : Outline} (hd : Outline.Spells s d r)
    (hr : Stops r) (h : d.isNull = true) : String.ofList d.slice = "null" := by
  have hslice := hd.slice_append hr
  obtain ⟨c, t, -, ⟨-, os, -, rfl⟩ | ⟨-, ms, -, rfl⟩ | ⟨-, -, hscalar⟩⟩ := Outline.spells_iff.1 hd
  · exact nomatch h
  · exact nomatch h
  · rcases Outline.ofScalar_to.1 hscalar with ⟨rfl, rfl, rfl⟩ | ⟨-, -, rfl⟩ | ⟨-, -, rfl⟩ |
      ⟨-, -, rfl⟩ | ⟨-, -, rfl⟩
    · have hnull : ['n', 'u', 'l', 'l'] ++ r =
          (Outline.null ('n' :: (['u', 'l', 'l'] ++ r)) r).slice ++ r := hslice
      rw [← List.append_cancel_right hnull]
    all_goals exact nomatch h

/-- What a response gives for an id is what the text of the last document under this id gives by
itself, and nothing else of the response matters once all of it reads. -/
theorem ofResponse_agrees_ofText (nodeId : String) :
    (∀ text n, ofResponse text nodeId = .ok n → ∃ document,
      Response.documentText? text nodeId = some document ∧
        (∃ before after, text = before ++ document ++ after) ∧ ofText document = .ok n) ∧
    (∀ text response document, Response.ofText text = .ok response →
      Response.documentText? text nodeId = some document → document ≠ "null" →
        ∃ n, ofResponse text nodeId = .ok n ∧ ofText document = .ok n) ∧
    ∀ text n, ofText text = .ok n → nesting (Document.ofText text.toList).root ≤ 124 →
      ofResponse (Response.textOfEntry nodeId text) nodeId = .ok n := by
  refine ⟨fun text n h => ?_, fun text response document hresponse htext hnull => ?_,
    fun text n h hdepth => ofResponse_of_ofText nodeId h hdepth⟩
  · obtain ⟨response, hresponse, hfind⟩ := ofResponse_eq_ok.1 h
    obtain ⟨hroot, hafter⟩ := Response.ofText_eq_ok.1 hresponse
    rcases Response.find?_of_ofOutline nodeId hroot with ⟨-, hnone⟩ | ⟨d, hd, hread⟩
    · rw [hnone] at hfind
      exact nomatch hfind
    · obtain ⟨s, r, hs, hspells, hr⟩ := Response.exists_spells_document hafter hd
      rw [hfind] at hread
      obtain ⟨-, he⟩ | ⟨-, n', hn, he⟩ := Outline.readOption_eq_ok.1 hread
      · exact nomatch he
      · cases he
        obtain ⟨before, hbefore⟩ := hspells.start_eq.2.trans hs
        rw [hspells.slice_append hr] at hbefore
        refine ⟨_, congrArg _ hd, ⟨String.ofList before, String.ofList r, ?_⟩,
          ofText_slice hspells hr hn⟩
        rw [← String.toList_inj, ← hbefore]
        simp
  · obtain ⟨hroot, hafter⟩ := Response.ofText_eq_ok.1 hresponse
    obtain ⟨d, hd, rfl⟩ := Option.map_eq_some_iff.1 htext
    obtain ⟨s, r, hs, hspells, hr⟩ := Response.exists_spells_document hafter hd
    rcases Response.find?_of_ofOutline nodeId hroot with ⟨hnone, -⟩ | ⟨d', hd', hread⟩
    · rw [hd] at hnone
      exact nomatch hnone
    · obtain rfl : d = d' := Option.some.inj (hd.symm.trans hd')
      obtain ⟨hn, -⟩ | ⟨-, n, hn, hfind⟩ := Outline.readOption_eq_ok.1 hread
      · exact absurd (slice_of_isNull hspells hr hn) hnull
      · exact ⟨n, ofResponse_eq_ok.2 ⟨response, hresponse, hfind⟩, ofText_slice hspells hr hn⟩

set_option maxRecDepth 4000 in
theorem ofResponse_agrees_ofText_leaf :
    let text := "[\"1\",\"A\",\"\"]"
    let response := Response.textOfEntry "1" text
    let n := leaf "1" "A" .other
    ofText text = .ok n ∧ nesting (Document.ofText text.toList).root ≤ 124 ∧
      ofResponse response "1" = .ok n ∧ Response.documentText? response "1" = some text ∧
        (∃ document, Response.documentText? response "1" = some document ∧
          ofText document = .ok n) ∧
        ∃ n, ofResponse response "1" = .ok n ∧ ofText text = .ok n := by
  intro text response n
  have hn : ofText text = .ok n := by cbv
  have hdepth : nesting (Document.ofText text.toList).root ≤ 124 := by decide +kernel
  have htext : Response.documentText? response "1" = some text := by decide +kernel
  obtain ⟨hslice, hwhole, hwrap⟩ := ofResponse_agrees_ofText "1"
  have hresponse : ofResponse response "1" = .ok n := hwrap text n hn hdepth
  obtain ⟨r, hr, -⟩ := ofResponse_eq_ok.1 hresponse
  obtain ⟨document, hdocument, -, hread⟩ := hslice response n hresponse
  have hsame := hwhole response r text hr htext (by decide)
  exact ⟨hn, hdepth, hresponse, htext, ⟨document, hdocument, hread⟩, hsame⟩

end Node
end DesignCompiler
