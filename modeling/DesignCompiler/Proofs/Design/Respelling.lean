import DesignCompiler.Proofs.Design.Places
import DesignCompiler.Proofs.Json.Spelling

set_option autoImplicit false

namespace DesignCompiler
open Json

/-- A key that says this name, whatever its escapes. -/
def Names (k : List Char) (name : String) : Prop := Spelling.textOf k = .ok name

def Field.optional : List Field := [.children, .style, .characters]

/-- One change to how a node is spelled, or a node below it. -/
inductive Respells : Spelling → Spelling → Prop
  | reorder {ms ms' : List (List Char × Spelling)} (h : ms.Perm ms') :
      Respells (.object ms) (.object ms')
  | insert {before after : List (List Char × Spelling)} {k : List Char} {name : String}
      (value : Spelling) (hk : Names k name) (hname : ∀ f : Field, name ≠ f.key) :
      Respells (.object (before ++ after)) (.object (before ++ (k, value) :: after))
  | addNull {before after : List (List Char × Spelling)} {k : List Char} {f : Field}
      (hf : f ∈ Field.optional) (hk : Names k f.key)
      (hlacks : ∀ m ∈ before ++ after, ¬ Names m.1 f.key) :
      Respells (.object (before ++ after)) (.object (before ++ (k, .null) :: after))
  | dropNull {before after : List (List Char × Spelling)} {k : List Char} {f : Field}
      (hf : f ∈ Field.optional) (hk : Names k f.key) :
      Respells (.object (before ++ (k, .null) :: after)) (.object (before ++ after))
  | reorderStyle {before after ms ms' : List (List Char × Spelling)} {k : List Char}
      (hk : Names k Field.style.key) (h : ms.Perm ms')
      (hdistinct : ms.Pairwise fun a b => ∀ name, Names a.1 name → ¬ Names b.1 name) :
      Respells (.object (before ++ (k, .object ms) :: after))
        (.object (before ++ (k, .object ms') :: after))
  | child {before after : List (List Char × Spelling)} {k : List Char}
      {cs ds : List Spelling} {c c' : Spelling} (hk : Names k Field.children.key)
      (h : Respells c c') :
      Respells (.object (before ++ (k, .array (cs ++ c :: ds)) :: after))
        (.object (before ++ (k, .array (cs ++ c' :: ds)) :: after))

namespace Draft
variable {f : Field}

def clear : Field → Draft → Draft
  | .id, d => { d with id := none }
  | .name, d => { d with name := none }
  | .type, d => { d with type := none }
  | .children, d => { d with children := none }
  | .style, d => { d with style := none }
  | .characters, d => { d with characters := none }

theorem get_clear_self (f : Field) (d : Draft) : (d.clear f).get f = none := by
  cases f <;> rfl

theorem get_clear_of_ne {f g : Field} (h : g ≠ f) (d : Draft) : (d.clear f).get g = d.get g := by
  cases f <;> cases g <;> first | rfl | exact absurd rfl h

theorem set_clear {d : Draft} {x : Slot f} (h : d.get f = some x) : (d.clear f).set f x = d := by
  apply ext_get
  intro g
  by_cases hg : g = f
  · subst hg
    rw [get_set_self, h]
  · rw [get_set_of_ne hg, get_clear_of_ne hg]

theorem finish_congr {d e : Draft} (hid : d.id = e.id) (hname : d.name = e.name)
    (htype : d.type = e.type) (hchildren : d.children.join = e.children.join)
    (hstyle : d.style.join = e.style.join) (htext : d.characters.join = e.characters.join) :
    d.finish = e.finish := by
  unfold finish
  rw [hid, hname, htype, hchildren, hstyle, htext]

theorem finish_set_null {depth : Nat} (hf : f ∈ Field.optional) {d : Draft} {x : Slot f}
    (hx : Node.readFieldAt depth f (.null [] []) = .ok x) (hd : d.get f = none) :
    (d.set f x).finish = d.finish := by
  cases f with
  | children =>
    cases hx
    have hjoin : d.children.join = none := congrArg Option.join hd
    exact finish_congr rfl rfl rfl hjoin.symm rfl rfl
  | style =>
    cases hx
    have hjoin : d.style.join = none := congrArg Option.join hd
    exact finish_congr rfl rfl rfl rfl hjoin.symm rfl
  | characters =>
    cases hx
    have hjoin : d.characters.join = none := congrArg Option.join hd
    exact finish_congr rfl rfl rfl rfl rfl hjoin.symm
  | _ => exact absurd hf (by decide)

section Members
variable {depth : Nat} {members members' : List (Key × Outline)}

theorem gatherMembers_of_perm {d e : Draft} (h : members.Perm members')
    (hgather : form.gatherMembers (Node.putAt depth) d members = .ok e) :
    form.gatherMembers (Node.putAt depth) d members' = .ok e := by
  obtain ⟨hall, hslots⟩ := gatherMembers_eq_ok.1 hgather
  refine gatherMembers_eq_ok.2 ⟨fun m hm => hall m (h.mem_iff.2 hm), fun f => ?_⟩
  have hvalues := valuesOf_perm h f.key
  rcases hslots f with ⟨hnil, he⟩ | ⟨o, x, hone, hd, hx, he⟩
  · rw [hnil] at hvalues
    exact .inl ⟨List.nil_perm.1 hvalues, he⟩
  · rw [hone] at hvalues
    exact .inr ⟨o, x, (List.singleton_perm.1 hvalues).symm, hd, hx, he⟩

theorem gatherMembers_set {x : Slot f} {e : Draft} :
    form.gatherMembers (Node.putAt depth) (({} : Draft).set f x) members = .ok e ↔
      ∃ d, form.gatherMembers (Node.putAt depth) {} members = .ok d ∧ d.get f = none ∧
        d.set f x = e := by
  constructor
  · intro h
    obtain ⟨hall, hslots⟩ := gatherMembers_eq_ok.1 h
    rcases hslots f with ⟨hnil, he⟩ | ⟨o, y, -, hd, -⟩
    · rw [get_set_self] at he
      refine ⟨e.clear f, gatherMembers_eq_ok.2 ⟨hall, fun g => ?_⟩, get_clear_self f e, set_clear he⟩
      by_cases hg : g = f
      · subst hg
        exact .inl ⟨hnil, by rw [get_clear_self, get_empty]⟩
      · rw [get_clear_of_ne hg, ← get_set_of_ne hg {} x]
        exact hslots g
    · rw [get_set_self] at hd
      exact nomatch hd
  · rintro ⟨d, h, hnone, rfl⟩
    obtain ⟨hall, hslots⟩ := gatherMembers_eq_ok.1 h
    refine gatherMembers_eq_ok.2 ⟨hall, fun g => ?_⟩
    by_cases hg : g = f
    · subst hg
      rcases hslots g with ⟨hnil, -⟩ | ⟨o, y, -, -, -, hsome⟩
      · exact .inl ⟨hnil, by rw [get_set_self, get_set_self]⟩
      · rw [hnone] at hsome
        exact nomatch hsome
    · rw [get_set_of_ne hg, get_set_of_ne hg]
      exact hslots g

end Members

def Gathers (depth : Nat) (ms : List (List Char × Spelling)) (d : Draft) : Prop :=
  form.gatherMembers (Node.putAt depth) {} (Spelling.bareMembers ms) = .ok d

section Gathers
variable {depth : Nat} {ms ms' before after : List (List Char × Spelling)} {k : List Char}
  {t : Spelling} {d e : Draft}

theorem Gathers.of_perm (hgather : Gathers depth ms d) (h : ms.Perm ms') : Gathers depth ms' d := by
  refine gatherMembers_of_perm ?_ hgather
  rw [Spelling.bareMembers_eq_map, Spelling.bareMembers_eq_map]
  exact h.map _

theorem gathers_middle :
    Gathers depth (before ++ (k, t) :: after) d ↔ Gathers depth ((k, t) :: (before ++ after)) d :=
  ⟨fun h => h.of_perm List.perm_middle, fun h => h.of_perm List.perm_middle.symm⟩

theorem gathers_of_other {name : String} (hk : Names k name) (hname : ∀ f : Field, name ≠ f.key) :
    Gathers depth (before ++ (k, t) :: after) d ↔ Gathers depth (before ++ after) d := by
  have hother : Field.ofKey? name = none := Field.ofKey?_eq_none.2 hname
  have htext : unplaced (Spelling.textOf k) = .ok name := unplaced_eq_ok.2 hk
  rw [gathers_middle, Gathers, Spelling.bareMembers, Form.gatherMembers_cons_eq_ok]
  constructor
  · rintro ⟨_, he, ⟨-, -, h⟩ | ⟨f, hf, -⟩⟩
    · exact h
    · obtain rfl := Except.ok.inj (htext.symm.trans he)
      exact nomatch hother.symm.trans hf
  · intro h
    exact ⟨name, htext, .inl ⟨hother, Spelling.skip_bare t, h⟩⟩

theorem gathers_of_field (hk : Names k f.key) :
    Gathers depth (before ++ (k, t) :: after) e ↔
      ∃ x, Node.readFieldAt depth f t.bare = .ok x ∧
        ∃ d, Gathers depth (before ++ after) d ∧ d.get f = none ∧ d.set f x = e := by
  have hfield : Field.ofKey? f.key = some f := Field.ofKey?_eq_some.2 rfl
  have htext : unplaced (Spelling.textOf k) = .ok f.key := unplaced_eq_ok.2 hk
  rw [gathers_middle, Gathers, Spelling.bareMembers, Form.gatherMembers_cons_eq_ok]
  constructor
  · rintro ⟨_, he, ⟨hnone, -⟩ | ⟨g, hg, -, next, hput, h⟩⟩
    · obtain rfl := Except.ok.inj (htext.symm.trans he)
      exact nomatch hnone.symm.trans hfield
    · obtain rfl := Except.ok.inj (htext.symm.trans he)
      obtain rfl := Option.some.inj (hfield.symm.trans hg)
      obtain ⟨x, hx, rfl⟩ := put_eq_ok.1 hput
      exact ⟨x, hx, gatherMembers_set.1 h⟩
  · rintro ⟨x, hx, h⟩
    have hhas : has f {} = false := by rw [has_eq_isSome, get_empty]; rfl
    exact ⟨f.key, htext, .inr ⟨f, hfield, hhas, _, put_eq_ok.2 ⟨x, hx, rfl⟩, gatherMembers_set.2 h⟩⟩

theorem Gathers.get_eq_none (hgather : Gathers depth ms d) (h : ∀ m ∈ ms, ¬ Names m.1 f.key) :
    d.get f = none := by
  obtain ⟨-, hslots⟩ := gatherMembers_eq_ok.1 hgather
  rcases hslots f with ⟨-, he⟩ | ⟨o, x, hone, -⟩
  · rw [he, get_empty]
  · have hmem : o ∈ valuesOf f.key (Spelling.bareMembers ms) := by simp [hone]
    obtain ⟨key, hmember, hspells⟩ := mem_valuesOf.1 hmem
    rw [Spelling.bareMembers_eq_map] at hmember
    obtain ⟨m, hm, he⟩ := List.mem_map.1 hmember
    obtain ⟨rfl, -⟩ := Prod.mk.inj he
    exact absurd (unplaced_eq_ok.1 (Key.spells_iff.1 hspells)) (h m hm)

theorem Gathers.replace {t' : Spelling} (hk : Names k f.key)
    (hread : ∀ x, Node.readFieldAt depth f t.bare = .ok x → Node.readFieldAt depth f t'.bare = .ok x)
    (h : Gathers depth (before ++ (k, t) :: after) d) :
    Gathers depth (before ++ (k, t') :: after) d := by
  obtain ⟨x, hx, hrest⟩ := (gathers_of_field hk).1 h
  exact (gathers_of_field hk).2 ⟨x, hread x hx, hrest⟩

end Gathers
end Draft

namespace Node

variable {depth : Nat}

theorem readFieldAt_children_replace {cs ds : List Spelling} {c c' : Spelling}
    (hread : ∀ d n, ofOutline d c.bare = .ok n → ofOutline d c'.bare = .ok n)
    {x : Option (List Node)}
    (h : readFieldAt depth .children (Spelling.array (cs ++ c :: ds)).bare = .ok x) :
    readFieldAt depth .children (Spelling.array (cs ++ c' :: ds)).bare = .ok x := by
  rw [Spelling.bare, Spelling.bareItems_eq_map, List.map_append, List.map_cons] at *
  obtain ⟨hnull, -⟩ | ⟨-, ns, hns, rfl⟩ := readFieldAt_children_eq_ok.1 h
  · exact nomatch hnull
  · obtain ⟨read, _, _, _, hinside, ⟨⟩, hall⟩ := Outline.readList_eq_ok.1 hns
    obtain ⟨d, rfl, rfl⟩ := inside_eq_some.1 hinside
    refine readFieldAt_children_eq_ok.2 (.inr ⟨rfl, ns, Outline.readList_eq_ok.2 ?_, rfl⟩)
    exact ⟨_, _, _, _, rfl, rfl, forall₂_replace (hread d) hall⟩

theorem nodup_of_distinct {α : Type} {read : Outline → Except Issue α}
    {ms : List (List Char × Spelling)} {xs : List (String × α)}
    (hdistinct : ms.Pairwise fun a b => ∀ name, Names a.1 name → ¬ Names b.1 name)
    (h : List.Forall₂ (fun m x => m.1.text = .ok x.1 ∧ read m.2 = .ok x.2)
      (ms.map Spelling.bareMember) xs) : (xs.map Prod.fst).Nodup := by
  induction ms generalizing xs with
  | nil =>
    cases h
    exact List.nodup_nil
  | cons m ms ih =>
    obtain ⟨hm, hms⟩ := List.pairwise_cons.1 hdistinct
    cases h with
    | @cons _ x _ xs hx hxs =>
      refine List.nodup_cons.2 ⟨fun hmem => ?_, ih hms hxs⟩
      obtain ⟨y, hy, he⟩ := List.mem_map.1 hmem
      obtain ⟨_, hmember, htext, -⟩ := exists_of_forall₂ hxs.flip hy
      obtain ⟨b, hb, rfl⟩ := List.mem_map.1 hmember
      rw [he] at htext
      exact hm b hb x.1 (unplaced_eq_ok.1 hx.1) (unplaced_eq_ok.1 htext)

theorem readFieldAt_style_of_perm {ms ms' : List (List Char × Spelling)} (h : ms.Perm ms')
    (hdistinct : ms.Pairwise fun a b => ∀ name, Names a.1 name → ¬ Names b.1 name)
    {x : Draft.Slot .style}
    (hx : readFieldAt depth .style (Spelling.object ms).bare = .ok x) :
    readFieldAt depth .style (Spelling.object ms').bare = .ok x := by
  rw [Spelling.bare, Spelling.bareMembers_eq_map] at *
  obtain ⟨entries, hentries, rfl⟩ := map_eq_ok.1 hx
  obtain ⟨hnull, -⟩ | ⟨-, xs, hxs, rfl⟩ := Outline.readOption_eq_ok.1 hentries
  · exact nomatch hnull
  · obtain ⟨read, _, _, _, hinside, ⟨⟩, hall⟩ := Outline.readMap_eq_ok.1 hxs
    have hperm : (ms'.map Spelling.bareMember).Perm (ms.map Spelling.bareMember) := (h.map _).symm
    obtain ⟨ys, hys, hsame⟩ := List.perm_comp_forall₂ hperm hall
    have hnames : (xs.map Prod.fst).Nodup := nodup_of_distinct hdistinct hall
    have hsorted : sortMembers xs = sortMembers ys := sortMembers_of_perm hsame.symm hnames
    have hread : Outline.readMap (inside Value.ofOutline depth)
        (.object [] (ms'.map Spelling.bareMember) (.closed [])) = .ok ys :=
      Outline.readMap_eq_ok.2 ⟨read, _, _, _, hinside, rfl, hys⟩
    refine map_eq_ok.2 ⟨some ys, Outline.readOption_eq_ok.2 (.inr ⟨rfl, ys, hread, rfl⟩), ?_⟩
    rw [Option.map_some, Option.map_some, hsorted]

theorem ofOutline_object_eq_ok {ms : List (List Char × Spelling)} {n : Node} :
    ofOutline depth (Spelling.object ms).bare = .ok n ↔
      ∃ d draft, depth = d + 1 ∧ draft.finish = .ok n ∧ Draft.Gathers d ms draft := by
  rw [ofOutline_eq_ok]
  constructor
  · rintro ⟨d, draft, hdepth, hfinish, ⟨_, _, _, ⟨⟩, h⟩ | ⟨_, _, _, _, ⟨⟩, -⟩⟩
    exact ⟨d, draft, hdepth, hfinish, h⟩
  · rintro ⟨d, draft, hdepth, hfinish, h⟩
    exact ⟨d, draft, hdepth, hfinish, .inl ⟨_, _, _, rfl, h⟩⟩

/-- By induction on where the change is: a child of the node, or a member of its own. -/
theorem ofOutline_of_respells {t t' : Spelling} (h : Respells t t') {n : Node}
    (hn : ofOutline depth t.bare = .ok n) : ofOutline depth t'.bare = .ok n := by
  induction h generalizing depth n with
  | reorder h =>
    obtain ⟨d, draft, hdepth, hfinish, hgather⟩ := ofOutline_object_eq_ok.1 hn
    exact ofOutline_object_eq_ok.2 ⟨d, draft, hdepth, hfinish, hgather.of_perm h⟩
  | @insert before after k name value hk hname =>
    obtain ⟨d, draft, hdepth, hfinish, hgather⟩ := ofOutline_object_eq_ok.1 hn
    have hgather' : Draft.Gathers d (before ++ (k, value) :: after) draft :=
      (Draft.gathers_of_other hk hname).2 hgather
    exact ofOutline_object_eq_ok.2 ⟨d, draft, hdepth, hfinish, hgather'⟩
  | @addNull before after k f hf hk hlacks =>
    obtain ⟨d, draft, hdepth, hfinish, hgather⟩ := ofOutline_object_eq_ok.1 hn
    have hnone : draft.get f = none := hgather.get_eq_none hlacks
    obtain ⟨x, hx⟩ : ∃ x, readFieldAt d f Spelling.null.bare = .ok x := by
      cases f with
      | children => exact ⟨none, rfl⟩
      | style => exact ⟨none, rfl⟩
      | characters => exact ⟨none, rfl⟩
      | _ => exact absurd hf (by decide)
    have hgather' := (Draft.gathers_of_field hk).2 ⟨x, hx, draft, hgather, hnone, rfl⟩
    rw [← Draft.finish_set_null hf hx hnone] at hfinish
    exact ofOutline_object_eq_ok.2 ⟨d, draft.set f x, hdepth, hfinish, hgather'⟩
  | dropNull hf hk =>
    obtain ⟨d, _, hdepth, hfinish, hgather⟩ := ofOutline_object_eq_ok.1 hn
    obtain ⟨x, hx, draft, hgather', hnone, rfl⟩ := (Draft.gathers_of_field hk).1 hgather
    rw [Draft.finish_set_null hf hx hnone] at hfinish
    exact ofOutline_object_eq_ok.2 ⟨d, draft, hdepth, hfinish, hgather'⟩
  | reorderStyle hk h hdistinct =>
    obtain ⟨d, draft, hdepth, hfinish, hgather⟩ := ofOutline_object_eq_ok.1 hn
    have hgather' := hgather.replace hk fun x => readFieldAt_style_of_perm h hdistinct
    exact ofOutline_object_eq_ok.2 ⟨d, draft, hdepth, hfinish, hgather'⟩
  | child hk _ ih =>
    obtain ⟨d, draft, hdepth, hfinish, hgather⟩ := ofOutline_object_eq_ok.1 hn
    have hgather' := hgather.replace hk fun x => readFieldAt_children_replace fun _ _ => ih
    exact ofOutline_object_eq_ok.2 ⟨d, draft, hdepth, hfinish, hgather'⟩

theorem ofOutline_of_respellings {t t' : Spelling} (h : Relation.ReflTransGen Respells t t')
    {n : Node} (hn : ofOutline depth t.bare = .ok n) : ofOutline depth t'.bare = .ok n := by
  induction h with
  | refl => exact hn
  | tail _ hstep ih => exact ofOutline_of_respells hstep ih

theorem ofText_eq_ok_of_writes {t : Spelling} {text : String} (h : t.WritesText text.toList)
    {n : Node} : ofText text = .ok n ↔ ofOutline nestingLimit t.bare = .ok n := by
  rw [ofText, mapError_eq_ok]
  exact h.readText_eq_ok (respects_ofOutline nestingLimit)

/-- A text that is read has a spelling, and the same tree is read of every text of every spelling that
changes lead to. -/
theorem ofText_respelled {text : String} {n : Node} (h : ofText text = .ok n) :
    (∃ t : Spelling, t.WritesText text.toList) ∧
      ∀ (t t' : Spelling) (text' : String), t.WritesText text.toList →
        Relation.ReflTransGen Respells t t' → t'.WritesText text'.toList →
          ofText text' = .ok n := by
  constructor
  · exact Spelling.exists_writesText (ofText_eq_ok.1 h).2
  · intro t t' text' ht hchanges ht'
    have hn : ofOutline nestingLimit t.bare = .ok n := (ofText_eq_ok_of_writes ht).1 h
    exact (ofText_eq_ok_of_writes ht').2 (ofOutline_of_respellings hchanges hn)

set_option maxRecDepth 4000 in
theorem ofText_respelled_nested :
    let text := "\x7b\"id\":\"1\",\"name\":\"A\",\"type\":\"\",\"children\":[" ++
      "\x7b\"id\":\"2\",\"name\":\"B\",\"type\":\"\"\x7d]\x7d"
    let text' := "\x7b\"x\":[1e999,\"\\ud800\"],\"name\":\"A\", \"id\":\"1\",\"type\":\"\"," ++
      "\"children\":[\x7b\"name\":\"B\",\"id\":\"2\",\"type\":\"\"\x7d]\n\x7d"
    let n : Node := ⟨"1", "A", .other, [leaf "2" "B" .other], none, none⟩
    let idOf (s : List Char) : List Char × Spelling := (['i', 'd'], .string s)
    let nameOf (s : List Char) : List Char × Spelling := (['n', 'a', 'm', 'e'], .string s)
    let type : List Char × Spelling := (['t', 'y', 'p', 'e'], .string [])
    let childrenOf (t : Spelling) : List Char × Spelling :=
      (['c', 'h', 'i', 'l', 'd', 'r', 'e', 'n'], .array [t])
    let other : List Char × Spelling :=
      (['x'], .array [.number ['1', 'e', '9', '9', '9'], .string ['\\', 'u', 'd', '8', '0', '0']])
    let child : Spelling := .object [idOf ['2'], nameOf ['B'], type]
    let child' : Spelling := .object [nameOf ['B'], idOf ['2'], type]
    let t : Spelling := .object [idOf ['1'], nameOf ['A'], type, childrenOf child]
    let t' : Spelling := .object [other, nameOf ['A'], idOf ['1'], type, childrenOf child']
    ofText text = .ok n ∧ t.WritesText text.toList ∧ Relation.ReflTransGen Respells t t' ∧
      t'.WritesText text'.toList ∧ ofText text' = .ok n := by
  have hspace : Space [] := by simp [Space]
  have hblank : Space [' '] := by simp [Space, isSpace]
  have hline : Space ['\n'] := by simp [Space, isSpace]
  have hfirst : Separates true [] := Spelling.separates_true
  have hcomma : Separates false [','] := Spelling.separates_comma hspace
  have hx : IsBody ['x'] := isBody_of_plain (by simp)
  have hone : IsBody ['1'] := isBody_of_plain (by simp)
  have htwo : IsBody ['2'] := isBody_of_plain (by simp)
  have hA : IsBody ['A'] := isBody_of_plain (by simp)
  have hB : IsBody ['B'] := isBody_of_plain (by simp)
  have hid : IsBody ['i', 'd'] := isBody_of_plain (by simp)
  have hname : IsBody ['n', 'a', 'm', 'e'] := isBody_of_plain (by simp)
  have htype : IsBody ['t', 'y', 'p', 'e'] := isBody_of_plain (by simp)
  have hchildren : IsBody ['c', 'h', 'i', 'l', 'd', 'r', 'e', 'n'] := isBody_of_plain (by simp)
  have hsurrogate : IsBody ['\\', 'u', 'd', '8', '0', '0'] := .code (by simp [hexValue?]) .nil
  have hnines : AllDigits ['9', '9'] := by
    intro c hc
    obtain rfl : c = '9' := by simpa using hc
    decide
  have hwhole : IsWhole ['1'] := .digits (by decide) (by decide) (by simp [AllDigits])
  have hexponent : IsExponent ['e', '9', '9', '9'] :=
    @IsExponent.digits 'e' '9' [] ['9', '9'] (.inl rfl) (by decide) (by decide) hnines
  have hnumber : IsNumber ['1', 'e', '9', '9', '9'] :=
    @IsNumber.parts [] ['1'] [] ['e', '9', '9', '9'] (by decide) hwhole .none hexponent
  have hchildrenKey : Names ['c', 'h', 'i', 'l', 'd', 'r', 'e', 'n'] Field.children.key := by cbv
  have hxKey : Names ['x'] "x" := by cbv
  intro text text' n idOf nameOf type childrenOf other child child' t t'
  have hn : ofText text = .ok n := by cbv
  have ht : t.WritesText text.toList := by
    refine ⟨[], ?a, [], hspace, ?writes, hspace, ?text⟩
    case writes =>
      exact .object (.member hfirst hspace hid hspace hspace (.string hone)
        (.member hcomma hspace hname hspace hspace (.string hA)
        (.member hcomma hspace htype hspace hspace (.string .nil)
        (.member hcomma hspace hchildren hspace hspace
          (.array (.item hfirst hspace
            (.object (.member hfirst hspace hid hspace hspace (.string htwo)
              (.member hcomma hspace hname hspace hspace (.string hB)
              (.member hcomma hspace htype hspace hspace (.string .nil) (.close hspace)))))
            (.close hspace)))
          (.close hspace)))))
    case text => decide +kernel
  have ht' : t'.WritesText text'.toList := by
    refine ⟨[], ?b, [], hspace, ?writes, hspace, ?text⟩
    case writes =>
      exact .object (.member hfirst hspace hx hspace hspace
          (.array (.item hfirst hspace (.number hnumber)
            (.item hcomma hspace (.string hsurrogate) (.close hspace))))
        (.member hcomma hspace hname hspace hspace (.string hA)
        (.member hcomma hblank hid hspace hspace (.string hone)
        (.member hcomma hspace htype hspace hspace (.string .nil)
        (.member hcomma hspace hchildren hspace hspace
          (.array (.item hfirst hspace
            (.object (.member hfirst hspace hname hspace hspace (.string hB)
              (.member hcomma hspace hid hspace hspace (.string htwo)
              (.member hcomma hspace htype hspace hspace (.string .nil) (.close hspace)))))
            (.close hspace)))
          (.close hline))))))
    case text => decide +kernel
  have hchild : Respells child child' := .reorder (.swap _ _ _)
  have hnested : Respells t (.object [idOf ['1'], nameOf ['A'], type, childrenOf child']) :=
    @Respells.child [idOf ['1'], nameOf ['A'], type] [] _ [] [] child child' hchildrenKey hchild
  have hreorder : Respells (.object [idOf ['1'], nameOf ['A'], type, childrenOf child'])
      (.object [nameOf ['A'], idOf ['1'], type, childrenOf child']) := .reorder (.swap _ _ _)
  have hinsert : Respells (.object [nameOf ['A'], idOf ['1'], type, childrenOf child']) t' :=
    @Respells.insert [] _ other.1 "x" other.2 hxKey (by intro f; cases f <;> decide)
  have hchanges : Relation.ReflTransGen Respells t t' :=
    ((Relation.ReflTransGen.single hnested).tail hreorder).tail hinsert
  obtain ⟨-, hrespelled⟩ := ofText_respelled hn
  exact ⟨hn, ht, hchanges, ht', hrespelled t t' text' ht hchanges ht'⟩

end Node
end DesignCompiler
