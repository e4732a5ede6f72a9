import DesignCompiler.Command.Run
import DesignCompiler.Proofs.Design.Places

set_option autoImplicit false

namespace DesignCompiler
open Json

namespace Json.Value

theorem exists_of_mem_children {depth : Nat} {o : Outline} {v c : Value}
    (h : ofOutline depth o = .ok v) (hc : c ∈ v.children) :
    ∃ d i, depth = d + 2 ∧ ofOutline d i = .ok c := by
  obtain ⟨cs, hfield, hmem⟩ := mem_children.1 hc
  have hread : ∃ d p, depth = d + 1 ∧ ofOutline d p = .ok (.array cs) := by
    cases v with
    | array vs =>
      obtain ⟨d, _, _, _, rfl, -, hall⟩ := ofOutline_of_array h
      have hgiven : .array cs ∈ vs := (List.of_mem_zip (Node.lookup_zip_order.1 hfield)).2
      obtain ⟨p, -, hp⟩ := exists_of_forall₂ hall.flip hgiven
      exact ⟨d, p, rfl, hp⟩
    | object ms =>
      obtain ⟨d, _, _, _, xs, rfl, -, rfl, hall⟩ := ofOutline_of_object h
      have hgiven : (Field.children.key, .array cs) ∈ xs :=
        mem_of_mem_sortMembers (Node.mem_of_lookup_reverse hfield)
      obtain ⟨p, -, -, hp⟩ := exists_of_forall₂ hall.flip hgiven
      exact ⟨d, p.2, rfl, hp⟩
    | _ => cases hfield
  obtain ⟨d, p, rfl, hp⟩ := hread
  obtain ⟨k, _, _, _, rfl, -, hall⟩ := ofOutline_of_array hp
  obtain ⟨i, -, hi⟩ := exists_of_forall₂ hall.flip hmem
  exact ⟨k, i, rfl, hi⟩

end Json.Value

namespace Node

theorem depthAll_le_iff {ns : List Node} {k : Nat} :
    depthAll ns ≤ k ↔ ∀ n ∈ ns, n.depth ≤ k := by
  induction ns with
  | nil => simp [depthAll]
  | cons n ns ih => rw [depthAll, Nat.max_le, ih, List.forall_mem_cons]

/-- A node takes two brackets of the limit, the deepest one in a tree only its own. -/
theorem two_mul_depth_le_of_children {n : Node} {limit : Nat}
    (h : ∀ m ∈ n.children, 2 * m.depth ≤ limit) : 2 * n.depth ≤ limit + 2 := by
  have hall : depthAll n.children ≤ limit / 2 := by
    apply depthAll_le_iff.2
    intro m hm
    have hle := h m hm
    omega
  rw [depth_eq]
  omega

theorem two_mul_depth_le {depth : Nat} {o : Outline} {n : Node} (h : ofOutline depth o = .ok n) :
    2 * n.depth ≤ depth + 1 := by
  induction depth using Nat.strongRecOn generalizing o n with
  | _ depth ih =>
    obtain ⟨d, -, rfl, -⟩ := ofOutline_eq_ok.1 h
    apply two_mul_depth_le_of_children
    intro m hm
    obtain ⟨c, -, k, hk, hread⟩ := exists_of_forall₂ (children_of_ofOutline h).flip hm
    have hle := ih k (by omega) hread
    omega

theorem two_mul_depth_le_of_value {depth : Nat} {o : Outline} {v : Value} {n : Node}
    (hv : Value.ofOutline depth o = .ok v) (h : ofValue? v = .ok n) : 2 * n.depth ≤ depth + 1 := by
  induction depth using Nat.strongRecOn generalizing o v n with
  | _ depth ih =>
    have hpos : 1 ≤ depth := by
      cases v with
      | array vs =>
        obtain ⟨d, _, _, _, rfl, -⟩ := Value.ofOutline_of_array hv
        exact Nat.le_add_left 1 d
      | object ms =>
        obtain ⟨d, _, _, _, _, rfl, -⟩ := Value.ofOutline_of_object hv
        exact Nat.le_add_left 1 d
      | _ => exact nomatch h
    have hle : 2 * n.depth ≤ depth - 1 + 2 := by
      apply two_mul_depth_le_of_children
      intro m hm
      obtain ⟨c, hc, hread⟩ := exists_of_forall₂ (mirrors_of_ofValue? h).children.flip hm
      obtain ⟨k, i, rfl, hi⟩ := Value.exists_of_mem_children hv hc
      have hle := ih k (by omega) hi (ofValue_eq_ok.1 hread)
      omega
    omega

theorem two_mul_depth_le_of_response {text nodeId : String} {n : Node}
    (h : ofResponse text nodeId = .ok n) : 2 * n.depth ≤ 124 + 1 := by
  obtain ⟨-, o, -, hread⟩ := exists_document_of_ofResponse h
  exact two_mul_depth_le hread

theorem ofResponse_of_fetch {r : SavedResponse} {l : Locator} {n : Node} (h : r.fetch l = .ok n) :
    ofResponse r.text l.nodeId = .ok n := by
  unfold SavedResponse.fetch at h
  split at h
  · exact nomatch h
  · split at h
    · rename_i root hroot
      cases h
      exact hroot
    · exact nomatch h
    · exact nomatch h

theorem ofText_of_readDesign {files : Files Id} {path : String} {n : Node}
    (h : Task.readDesign files path = .ok n) : ∃ text, ofText text = .ok n := by
  unfold Task.readDesign at h
  cases hread : files.read path with
  | error cause =>
    rw [hread] at h
    cases h
  | ok text =>
    rw [hread] at h
    exact ⟨text, mapError_eq_ok.1 h⟩

theorem component_of_handle {fetch : Locator → Except FetchError Node} {q : Request} {reply : Reply}
    (h : q.handle (m := Id) fetch = .ok reply) :
    ∃ l name n, fetch l = .ok n ∧ reply.component = Component.generate n name := by
  unfold Request.handle at h
  cases htarget : q.target with
  | error e =>
    rw [htarget] at h
    cases h
  | ok target =>
    obtain ⟨l, name⟩ := target
    rw [htarget] at h
    dsimp only at h
    cases hfetch : fetch l with
    | error e =>
      rw [hfetch] at h
      cases h
    | ok n =>
      rw [hfetch] at h
      cases h
      exact ⟨l, name, n, hfetch, rfl⟩

/-- Trees of texts have at most 64 levels and trees of responses at most 62: as they are read, as
they are generated from, and as a source delivers them. -/
theorem depth_bounded :
    (∀ text n, ofText text = .ok n → n.depth ≤ 64) ∧
    (∀ text v n, Value.ofText text = .ok v → ofValue v = .ok n → n.depth ≤ 64) ∧
    (∀ text nodeId n, ofResponse text nodeId = .ok n → n.depth ≤ 62) ∧
    (∀ text name component, Component.generateFromText text name = .ok component →
      ∃ n, n.depth ≤ 64 ∧ component = Component.generate n name) ∧
    (∀ (files : Files Id) path n, Task.readDesign files path = .ok n → n.depth ≤ 64) ∧
    (∀ (r : SavedResponse) l n, r.fetch l = .ok n → n.depth ≤ 62) ∧
    ∀ (r : SavedResponse) (q : Request) reply, q.handle (m := Id) r.fetch = .ok reply →
      ∃ n name, n.depth ≤ 62 ∧ reply.component = Component.generate n name := by
  have htext (text : String) (n : Node) (h : ofText text = .ok n) : n.depth ≤ 64 := by
    have hle := two_mul_depth_le (ofText_eq_ok.1 h).1
    unfold nestingLimit at hle
    omega
  have hfetch (r : SavedResponse) (l : Locator) (n : Node) (h : r.fetch l = .ok n) :
      n.depth ≤ 62 := by
    have hle := two_mul_depth_le_of_response (ofResponse_of_fetch h)
    omega
  refine ⟨htext, fun text v n hv h => ?_, fun text nodeId n h => ?_, fun text name component h => ?_,
    fun files path n h => ?_, hfetch, fun r q reply h => ?_⟩
  · have hle := two_mul_depth_le_of_value (readText_eq_ok.1 hv).1 (ofValue_eq_ok.1 h)
    unfold nestingLimit at hle
    omega
  · have hle := two_mul_depth_le_of_response h
    omega
  · obtain ⟨n, hn, hcomponent⟩ := bind_eq_ok.1 h
    cases hcomponent
    exact ⟨n, htext text n hn, rfl⟩
  · obtain ⟨text, hread⟩ := ofText_of_readDesign h
    exact htext text n hread
  · obtain ⟨l, name, n, hread, hcomponent⟩ := component_of_handle h
    exact ⟨n, name, hfetch r l n hread, hcomponent⟩

theorem depth_bounded_nested :
    let text := "[\"1\",\"A\",\"GROUP\",[[\"2\",\"B\",\"\"]]]"
    let response : SavedResponse :=
      ⟨"\x7b\"nodes\":\x7b\"1\":\x7b\"document\":[\"2\",\"B\",\"\"]\x7d\x7d\x7d", none⟩
    let n : Node := ⟨"1", "A", .container, [leaf "2" "B" .other], none, none⟩
    (ofText text = .ok n ∧ n.depth ≤ 64) ∧
      ∃ m, response.fetch ⟨"k", "1"⟩ = .ok m ∧ m.depth ≤ 62 := by
  intro text response n
  obtain ⟨htext, -, -, -, -, hfetch, -⟩ := depth_bounded
  have hn : ofText text = .ok n := by cbv
  have hm : response.fetch ⟨"k", "1"⟩ = .ok (leaf "2" "B" .other) := by cbv
  exact ⟨⟨hn, htext text n hn⟩, _, hm, hfetch response ⟨"k", "1"⟩ _ hm⟩

end Node
end DesignCompiler
