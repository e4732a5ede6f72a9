import DesignCompiler.Proofs.Component.Indentation

set_option autoImplicit false

/-!
# Reading a template back

What a template shows of a design is its skeleton. Every template is laid out from the skeleton
alone, and as long as no text opens a tag, the skeleton is all that its layout can come from: a
child is told from the closing tag of its parent by its margin, and an empty container from an
empty block by its line end.
-/
namespace DesignCompiler.Component.Template
open Text

/-- What a template shows: containers with their children, texts, and empty blocks. -/
inductive Skeleton where
  | branch (cls : String) (children : List Skeleton)
  | span (cls text : String)
  | block (cls : String)

mutual

def skeleton : Node → Skeleton
  | ⟨_, name, .container, children, _, _⟩ => .branch (className name) (skeletons children)
  | ⟨_, name, .text, _, _, text⟩ => .span (className name) (text.getD "")
  | ⟨_, name, _, _, _, _⟩ => .block (className name)

def skeletons : List Node → List Skeleton
  | [] => []
  | n :: ns => skeleton n :: skeletons ns

end

mutual

def shownTexts : Node → List String
  | ⟨_, _, .container, children, _, _⟩ => shownTextsAll children
  | ⟨_, _, .text, _, _, text⟩ => [text.getD ""]
  | _ => []

def shownTextsAll : List Node → List String
  | [] => []
  | n :: ns => shownTexts n ++ shownTextsAll ns

end

mutual

def Skeleton.layout (depth : Nat) : Skeleton → List Char
  | .branch cls children =>
    element depth "div" cls (Skeleton.layoutAll (depth + 1) children ++ '\n' :: margin depth)
  | .span cls text => element depth "span" cls (hang (margin depth) text.toList)
  | .block cls => element depth "div" cls []

def Skeleton.layoutAll (depth : Nat) : List Skeleton → List Char
  | [] => []
  | a :: as => '\n' :: (a.layout depth ++ Skeleton.layoutAll depth as)

end

mutual

theorem layout_skeleton (depth : Nat) : (n : Node) → (skeleton n).layout depth = markup depth n
  | ⟨_, name, .container, children, _, _⟩ => by
    rw [skeleton, markup, Skeleton.layout, layoutAll_skeletons]
  | ⟨_, name, .text, _, _, text⟩ => by rw [skeleton, markup, Skeleton.layout]
  | ⟨_, name, .shape, _, _, _⟩ => by simp only [skeleton, markup, Skeleton.layout]
  | ⟨_, name, .other, _, _, _⟩ => by simp only [skeleton, markup, Skeleton.layout]

theorem layoutAll_skeletons (depth : Nat) :
    (ns : List Node) → Skeleton.layoutAll depth (skeletons ns) = markupAll depth ns
  | [] => by rw [skeletons, markupAll, Skeleton.layoutAll]
  | n :: ns => by
    rw [skeletons, markupAll, Skeleton.layoutAll, layout_skeleton depth n, layoutAll_skeletons]

end

mutual

/-- No class breaks out of its quotes, and no text opens a tag. -/
def Skeleton.Plain : Skeleton → Prop
  | .branch cls children => '"' ∉ cls.toList ∧ Skeleton.PlainAll children
  | .span cls text => '"' ∉ cls.toList ∧ '<' ∉ text.toList
  | .block cls => '"' ∉ cls.toList

def Skeleton.PlainAll : List Skeleton → Prop
  | [] => True
  | a :: as => a.Plain ∧ Skeleton.PlainAll as

end

mutual

theorem plain_skeleton : (n : Node) → (∀ x ∈ shownTexts n, '<' ∉ x.toList) → (skeleton n).Plain
  | ⟨_, name, .container, children, _, _⟩, h => by
    rw [skeleton, Skeleton.Plain]
    rw [shownTexts] at h
    exact ⟨not_mem_className name '"' rfl, plainAll_skeletons children h⟩
  | ⟨_, name, .text, _, _, text⟩, h => by
    rw [skeleton, Skeleton.Plain]
    rw [shownTexts] at h
    exact ⟨not_mem_className name '"' rfl, h _ (List.mem_singleton_self _)⟩
  | ⟨_, name, .shape, _, _, _⟩, _ => by
    simpa only [skeleton, Skeleton.Plain] using not_mem_className name '"' rfl
  | ⟨_, name, .other, _, _, _⟩, _ => by
    simpa only [skeleton, Skeleton.Plain] using not_mem_className name '"' rfl

theorem plainAll_skeletons :
    (ns : List Node) → (∀ x ∈ shownTextsAll ns, '<' ∉ x.toList) →
      Skeleton.PlainAll (skeletons ns)
  | [], _ => by rw [skeletons, Skeleton.PlainAll]; trivial
  | n :: ns, h => by
    rw [skeletons, Skeleton.PlainAll]
    rw [shownTextsAll] at h
    exact ⟨plain_skeleton n fun x hx => h x (List.mem_append_left _ hx),
      plainAll_skeletons ns fun x hx => h x (List.mem_append_right _ hx)⟩

end

theorem append_cons_inj_of_not_mem {c : Char} {as bs r s : List Char} (ha : c ∉ as) (hb : c ∉ bs)
    (h : as ++ c :: r = bs ++ c :: s) : as = bs ∧ r = s := by
  induction as generalizing bs with
  | nil =>
    cases bs with
    | nil => simpa using h
    | cons b bs =>
      obtain ⟨rfl, -⟩ := List.cons.inj h
      exact absurd List.mem_cons_self hb
  | cons a as ih =>
    cases bs with
    | nil =>
      obtain ⟨rfl, -⟩ := List.cons.inj h
      exact absurd List.mem_cons_self ha
    | cons b bs =>
      obtain ⟨rfl, ht⟩ := List.cons.inj h
      obtain ⟨rfl, hr⟩ := ih (fun hx => ha (List.mem_cons_of_mem _ hx))
        (fun hx => hb (List.mem_cons_of_mem _ hx)) ht
      exact ⟨rfl, hr⟩

theorem hang_injective (m : List Char) {as bs : List Char} (h : hang m as = hang m bs) :
    as = bs := by
  induction as generalizing bs with
  | nil =>
    cases bs with
    | nil => rfl
    | cons b bs => by_cases hb : b = '\n' <;> simp [hang, hb] at h
  | cons a as ih =>
    cases bs with
    | nil => by_cases ha : a = '\n' <;> simp [hang, ha] at h
    | cons b bs =>
      by_cases ha : a = '\n'
      · by_cases hb : b = '\n'
        · simp only [hang, ha, hb, ite_true, List.cons.injEq, List.append_cancel_left_eq,
            true_and] at h
          rw [ha, hb, ih h]
        · simp only [hang, ha, hb, ite_true, ite_false, List.cons.injEq] at h
          exact absurd h.1.symm hb
      · by_cases hb : b = '\n'
        · simp only [hang, ha, hb, ite_true, ite_false, List.cons.injEq] at h
          exact h.1.elim
        · simp only [hang, ha, hb, ite_false, List.cons.injEq] at h
          rw [h.1, ih h.2]

theorem not_mem_hang_margin {c : Char} (hn : c ≠ '\n') (hs : c ≠ ' ') (depth : Nat)
    {cs : List Char} (h : c ∉ cs) : c ∉ hang (margin depth) cs := by
  induction cs with
  | nil => exact h
  | cons d cs ih =>
    have hd : c ≠ d := fun e => h (e ▸ List.mem_cons_self)
    have hcs := ih fun hx => h (List.mem_cons_of_mem _ hx)
    have hm : c ∉ margin depth := by simp [margin, hs]
    by_cases hdn : d = '\n' <;> simp [hang, hdn, hn, hd, hcs, hm]

theorem element_inj {depth : Nat} {tag tag' cls cls' : String} {body body' r s : List Char}
    (ht : ' ' ∉ tag.toList) (ht' : ' ' ∉ tag'.toList)
    (hc : '"' ∉ cls.toList) (hc' : '"' ∉ cls'.toList)
    (h : element depth tag cls body ++ r = element depth tag' cls' body' ++ s) :
    tag = tag' ∧ cls = cls' ∧
      body ++ ((closeTag tag).toList ++ r) = body' ++ ((closeTag tag').toList ++ s) := by
  have hopen (t c : String) : (openTag t c).toList =
      '<' :: (t.toList ++ ' ' :: ("class=\"".toList ++ (c.toList ++ '"' :: ['>']))) := by
    simp [openTag]
  simp only [element, hopen, List.append_assoc, List.cons_append, List.append_cancel_left_eq,
    List.cons.injEq, true_and] at h
  obtain ⟨htag, h⟩ := append_cons_inj_of_not_mem ht ht' h
  obtain ⟨hcls, h⟩ := append_cons_inj_of_not_mem hc hc' (List.append_cancel_left h)
  refine ⟨String.toList_inj.1 htag, String.toList_inj.1 hcls, ?_⟩
  simpa using h

def Skeleton.tag : Skeleton → String
  | .branch _ _ => "div"
  | .span _ _ => "span"
  | .block _ => "div"

def Skeleton.cls : Skeleton → String
  | .branch cls _ => cls
  | .span cls _ => cls
  | .block cls => cls

def Skeleton.body (depth : Nat) : Skeleton → List Char
  | .branch _ children => Skeleton.layoutAll (depth + 1) children ++ '\n' :: margin depth
  | .span _ text => hang (margin depth) text.toList
  | .block _ => []

theorem layout_eq_element (depth : Nat) (a : Skeleton) :
    a.layout depth = element depth a.tag a.cls (a.body depth) := by
  cases a <;> rw [Skeleton.layout] <;> rfl

theorem Skeleton.Plain.not_mem_cls {a : Skeleton} (h : a.Plain) : '"' ∉ a.cls.toList := by
  cases a with
  | branch cls children => exact h.1
  | span cls text => exact h.1
  | block cls => exact h

theorem layout_parts {depth : Nat} {a b : Skeleton} {r s : List Char} (ha : a.Plain) (hb : b.Plain)
    (h : a.layout depth ++ r = b.layout depth ++ s) : a.tag = b.tag ∧ a.cls = b.cls ∧
      a.body depth ++ ((closeTag a.tag).toList ++ r) =
        b.body depth ++ ((closeTag b.tag).toList ++ s) := by
  rw [layout_eq_element, layout_eq_element] at h
  have htag (c : Skeleton) : ' ' ∉ c.tag.toList := by cases c <;> simp [Skeleton.tag]
  exact element_inj (htag a) (htag b) ha.not_mem_cls hb.not_mem_cls h

/-- The line of a child begins deeper than the closing tag of its parent. -/
theorem layout_succ (depth : Nat) (a : Skeleton) :
    ∃ tail, a.layout (depth + 1) = margin depth ++ ' ' :: tail := by
  have hm : margin (depth + 1) = margin depth ++ [' ', ' '] := by
    simp only [margin, Nat.mul_add]
    exact List.replicate_append_replicate.symm
  cases a <;> simp [Skeleton.layout, element, hm]

mutual

theorem layout_append_inj (depth : Nat) : (a b : Skeleton) → a.Plain → b.Plain →
    ∀ r s : List Char, a.layout depth ++ r = b.layout depth ++ s → a = b ∧ r = s
  | .branch cls as, .branch cls' bs, ha, hb, r, s, h => by
    obtain ⟨-, hcls, hbody⟩ := layout_parts ha hb h
    simp only [Skeleton.body, List.append_assoc, List.cons_append] at hbody
    obtain ⟨has, hr⟩ := layoutAll_append_inj depth as bs ha.2 hb.2 r s hbody
    exact ⟨by rw [show cls = cls' from hcls, has], hr⟩
  | .span cls text, .span cls' text', ha, hb, r, s, h => by
    obtain ⟨-, hcls, hbody⟩ := layout_parts ha hb h
    have hclose (t : List Char) :
        (closeTag "span").toList ++ t = '<' :: ("/span>".toList ++ t) := by
      simp [closeTag]
    simp only [Skeleton.body, Skeleton.tag, hclose] at hbody
    obtain ⟨htext, hr⟩ := append_cons_inj_of_not_mem
      (not_mem_hang_margin (by decide) (by decide) depth ha.2)
      (not_mem_hang_margin (by decide) (by decide) depth hb.2) hbody
    rw [String.toList_inj.1 (hang_injective _ htext), show cls = cls' from hcls]
    exact ⟨rfl, List.append_cancel_left hr⟩
  | .block cls, .block cls', ha, hb, r, s, h => by
    obtain ⟨-, hcls, hbody⟩ := layout_parts ha hb h
    rw [show cls = cls' from hcls]
    exact ⟨rfl, by simpa [Skeleton.body, Skeleton.tag] using hbody⟩
  | .branch cls as, .block cls', ha, hb, r, s, h => by
    obtain ⟨-, -, hbody⟩ := layout_parts ha hb h
    cases as <;> simp [Skeleton.body, Skeleton.tag, Skeleton.layoutAll, closeTag] at hbody
  | .block cls, .branch cls' bs, ha, hb, r, s, h => by
    obtain ⟨-, -, hbody⟩ := layout_parts ha hb h
    cases bs <;> simp [Skeleton.body, Skeleton.tag, Skeleton.layoutAll, closeTag] at hbody
  | .branch _ _, .span _ _, ha, hb, r, s, h => by
    have ht := (layout_parts ha hb h).1
    simp [Skeleton.tag] at ht
  | .span _ _, .branch _ _, ha, hb, r, s, h => by
    have ht := (layout_parts ha hb h).1
    simp [Skeleton.tag] at ht
  | .span _ _, .block _, ha, hb, r, s, h => by
    have ht := (layout_parts ha hb h).1
    simp [Skeleton.tag] at ht
  | .block _, .span _ _, ha, hb, r, s, h => by
    have ht := (layout_parts ha hb h).1
    simp [Skeleton.tag] at ht

/-- The children of a container end where a line has the margin of the container. -/
theorem layoutAll_append_inj (depth : Nat) : (as bs : List Skeleton) →
    Skeleton.PlainAll as → Skeleton.PlainAll bs → ∀ r s : List Char,
    Skeleton.layoutAll (depth + 1) as ++ '\n' :: (margin depth ++ ((closeTag "div").toList ++ r)) =
      Skeleton.layoutAll (depth + 1) bs ++ '\n' :: (margin depth ++ ((closeTag "div").toList ++ s)) →
    as = bs ∧ r = s
  | [], [], _, _, r, s, h => by
    simpa [Skeleton.layoutAll] using h
  | [], b :: bs, _, _, r, s, h => by
    obtain ⟨tail, hb⟩ := layout_succ depth b
    simp [Skeleton.layoutAll, hb, closeTag] at h
  | a :: as, [], _, _, r, s, h => by
    obtain ⟨tail, ha⟩ := layout_succ depth a
    simp [Skeleton.layoutAll, ha, closeTag] at h
  | a :: as, b :: bs, ha, hb, r, s, h => by
    simp only [Skeleton.layoutAll, List.cons_append, List.append_assoc, List.cons.injEq,
      true_and] at h
    obtain ⟨hab, hrest⟩ := layout_append_inj (depth + 1) a b ha.1 hb.1 _ _ h
    obtain ⟨hs, hr⟩ := layoutAll_append_inj depth as bs ha.2 hb.2 r s hrest
    exact ⟨by rw [hab, hs], hr⟩

end

theorem render_eq_of_skeleton_eq (t u : Node) (h : skeleton t = skeleton u) :
    render t = render u := by
  apply String.toList_inj.1
  rw [toList_render, toList_render, ← layout_skeleton, ← layout_skeleton, h]

theorem skeleton_eq_of_render_eq (t u : Node) (ht : ∀ x ∈ shownTexts t, '<' ∉ x.toList)
    (hu : ∀ x ∈ shownTexts u, '<' ∉ x.toList) (h : render t = render u) :
    skeleton t = skeleton u := by
  have hl : (skeleton t).layout 0 = (skeleton u).layout 0 := by
    rw [layout_skeleton, layout_skeleton, ← toList_render, ← toList_render, h]
  exact (layout_append_inj 0 _ _ (plain_skeleton t ht) (plain_skeleton u hu) [] [] (by rw [hl])).1

/-- A template tells the skeleton of its design, and nothing else of it. -/
theorem render_eq_iff_skeleton_eq :
    (∀ t u : Node, (∀ x ∈ shownTexts t, '<' ∉ x.toList) → (∀ x ∈ shownTexts u, '<' ∉ x.toList) →
      (render t = render u ↔ skeleton t = skeleton u)) ∧
    ∀ t u : Node, skeleton t = skeleton u → render t = render u :=
  ⟨fun t u ht hu => ⟨skeleton_eq_of_render_eq t u ht hu, render_eq_of_skeleton_eq t u⟩,
    render_eq_of_skeleton_eq⟩

/-- An empty container differs from an empty block; what is below a block does not show. -/
theorem render_card :
    let card (last : Node) : Node :=
      ⟨"1", "Card", .container, [⟨"2", "Body", .text, [], none, some "one\n\ntwo"⟩, last], none, none⟩
    let row := card (.leaf "3" "Row" .container)
    let bar := card (.leaf "3" "Row" .shape)
    let cover := card ⟨"4", "row!", .other, [.leaf "5" "Row" .container], some ⟨[]⟩, some "<"⟩
    (∀ x ∈ shownTexts row, '<' ∉ x.toList) ∧ (∀ x ∈ shownTexts bar, '<' ∉ x.toList) ∧
      render row ≠ render bar ∧ skeleton bar = skeleton cover ∧ render bar = render cover := by
  intro card row bar cover
  have hrow : ∀ x ∈ shownTexts row, '<' ∉ x.toList := by decide
  have hbar : ∀ x ∈ shownTexts bar, '<' ∉ x.toList := by decide
  have hcover : skeleton bar = skeleton cover := by
    have hcls : className "Row" = className "row!" := by decide
    simp only [bar, cover, card, Node.leaf, skeleton, skeletons, hcls]
  refine ⟨hrow, hbar, fun h => ?_, hcover, render_eq_iff_skeleton_eq.2 bar cover hcover⟩
  have hs := (render_eq_iff_skeleton_eq.1 row bar hrow hbar).1 h
  simp [row, bar, card, Node.leaf, skeleton, skeletons] at hs

end DesignCompiler.Component.Template
