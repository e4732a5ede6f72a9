import DesignCompiler.Proofs.Design.Fields
import DesignCompiler.Proofs.Json.Bare

set_option autoImplicit false

namespace DesignCompiler
open Json

def greatest (ns : List Nat) : Nat := ns.foldr max 0

/-- A list is read under every limit that its items need, when each item is. -/
theorem forall₂_of_greatest_le {α β : Type} (need : α → Nat) (reads : Nat → α → β → Prop)
    {limit : Nat} (hreads : ∀ a b, reads limit a b →
      need a ≤ limit ∧ ∀ k, need a ≤ k → reads k a b)
    {xs : List α} {ys : List β} (h : List.Forall₂ (reads limit) xs ys) :
    greatest (xs.map need) ≤ limit ∧
      ∀ k, greatest (xs.map need) ≤ k → List.Forall₂ (reads k) xs ys := by
  induction h with
  | nil => exact ⟨Nat.zero_le _, fun _ _ => .nil⟩
  | @cons x y xs ys hx _ ih =>
    obtain ⟨hneed, hmore⟩ := hreads x y hx
    have hmax : greatest ((x :: xs).map need) = max (need x) (greatest (xs.map need)) := rfl
    rw [hmax]
    constructor
    · exact Nat.max_le.2 ⟨hneed, ih.1⟩
    · intro k hk
      obtain ⟨hx, hxs⟩ := Nat.max_le.1 hk
      exact .cons (hmore k hx) (ih.2 k hxs)

namespace Json

mutual

def Outline.nesting : Outline → Nat
  | .array _ items _ => nestingItems items + 1
  | .object _ members _ => nestingMembers members + 1
  | _ => 0

def Outline.nestingItems : List Outline → Nat
  | [] => 0
  | o :: os => max o.nesting (nestingItems os)

def Outline.nestingMembers : List (Key × Outline) → Nat
  | [] => 0
  | (_, o) :: ms => max o.nesting (nestingMembers ms)

end

theorem Outline.nestingItems_eq (os : List Outline) :
    nestingItems os = greatest (os.map nesting) := by
  induction os with
  | nil => rfl
  | cons o os ih =>
    rw [nestingItems, ih]
    rfl

theorem Outline.nestingMembers_eq (ms : List (Key × Outline)) :
    nestingMembers ms = greatest (ms.map fun m => m.2.nesting) := by
  induction ms with
  | nil => rfl
  | cons m ms ih =>
    rw [nestingMembers, ih]
    rfl

theorem Outline.readList_of_nesting {α : Type} {read : Nat → Outline → Except Issue α}
    {need : Outline → Nat} {depth : Nat} {start : List Char} {items : List Outline} {close : Close}
    {xs : List α}
    (hread : ∀ d o x, depth = d + 1 → read d o = .ok x →
      need o ≤ d ∧ ∀ k, need o ≤ k → read k o = .ok x)
    (h : readList (inside read depth) (.array start items close) = .ok xs) :
    greatest (items.map need) + 1 ≤ depth ∧ ∀ k, greatest (items.map need) + 1 ≤ k →
      readList (inside read k) (.array start items close) = .ok xs := by
  obtain ⟨f, _, _, rest, hf, ⟨⟩, hall⟩ := readList_eq_ok.1 h
  obtain ⟨d, rfl, rfl⟩ := inside_eq_some.1 hf
  obtain ⟨hle, hmore⟩ := forall₂_of_greatest_le need (fun k o x => read k o = .ok x)
    (fun o x => hread d o x rfl) hall
  refine ⟨Nat.succ_le_succ hle, fun k hk => ?_⟩
  obtain ⟨k, rfl⟩ : ∃ j, k = j + 1 := ⟨k - 1, by omega⟩
  exact readList_eq_ok.2 ⟨_, start, items, rest, rfl, rfl, hmore k (Nat.le_of_succ_le_succ hk)⟩

theorem Outline.readMap_of_nesting {α : Type} {read : Nat → Outline → Except Issue α}
    {need : Outline → Nat} {depth : Nat} {start : List Char} {members : List (Key × Outline)}
    {close : Close} {xs : List (String × α)}
    (hread : ∀ d o x, depth = d + 1 → read d o = .ok x →
      need o ≤ d ∧ ∀ k, need o ≤ k → read k o = .ok x)
    (h : readMap (inside read depth) (.object start members close) = .ok xs) :
    greatest (members.map fun m => need m.2) + 1 ≤ depth ∧
      ∀ k, greatest (members.map fun m => need m.2) + 1 ≤ k →
        readMap (inside read k) (.object start members close) = .ok xs := by
  obtain ⟨f, _, _, rest, hf, ⟨⟩, hall⟩ := readMap_eq_ok.1 h
  obtain ⟨d, rfl, rfl⟩ := inside_eq_some.1 hf
  have hmember (m : Key × Outline) (x : String × α)
      (hm : m.1.text = .ok x.1 ∧ read d m.2 = .ok x.2) :
      need m.2 ≤ d ∧ ∀ k, need m.2 ≤ k → m.1.text = .ok x.1 ∧ read k m.2 = .ok x.2 := by
    obtain ⟨hle, hmore⟩ := hread d m.2 x.2 rfl hm.2
    exact ⟨hle, fun k hk => ⟨hm.1, hmore k hk⟩⟩
  obtain ⟨hle, hmore⟩ := forall₂_of_greatest_le (fun m : Key × Outline => need m.2)
    (fun k m (x : String × α) => m.1.text = .ok x.1 ∧ read k m.2 = .ok x.2) hmember hall
  refine ⟨Nat.succ_le_succ hle, fun k hk => ?_⟩
  obtain ⟨k, rfl⟩ : ∃ j, k = j + 1 := ⟨k - 1, by omega⟩
  exact readMap_eq_ok.2 ⟨_, start, members, rest, rfl, rfl, hmore k (Nat.le_of_succ_le_succ hk)⟩

theorem Value.ofOutline_of_nesting {depth : Nat} {o : Outline} {v : Value}
    (h : ofOutline depth o = .ok v) :
    o.nesting ≤ depth ∧ ∀ k, o.nesting ≤ k → ofOutline k o = .ok v := by
  induction depth using Nat.strongRecOn generalizing o v with
  | _ depth ih =>
    have hinner : ∀ d o x, depth = d + 1 → ofOutline d o = .ok x →
        o.nesting ≤ d ∧ ∀ k, o.nesting ≤ k → ofOutline k o = .ok x :=
      fun d o x hd => ih d (by omega)
    cases o with
    | array start items close =>
      rw [ofOutline_array] at h
      obtain ⟨vs, hvs, rfl⟩ := map_eq_ok.1 h
      obtain ⟨hle, hmore⟩ := Outline.readList_of_nesting hinner hvs
      rw [Outline.nesting, Outline.nestingItems_eq]
      refine ⟨hle, fun k hk => ?_⟩
      rw [ofOutline_array, hmore k hk]
      rfl
    | object start members close =>
      rw [ofOutline_object] at h
      obtain ⟨xs, hxs, rfl⟩ := map_eq_ok.1 h
      obtain ⟨hle, hmore⟩ := Outline.readMap_of_nesting hinner hxs
      rw [Outline.nesting, Outline.nestingMembers_eq]
      refine ⟨hle, fun k hk => ?_⟩
      rw [ofOutline_object, hmore k hk]
      rfl
    | _ =>
      refine ⟨Nat.zero_le _, fun k _ => ?_⟩
      rw [← h]
      cases k <;> cases depth <;> rfl

end Json

namespace Node

mutual

/-- The brackets that are open at once while a node is read from an outline. -/
def nesting : Outline → Nat
  | .object _ members _ => nestingMembers members + 1
  | .array _ items _ => nestingFields Field.order items + 1
  | _ => 0

def nestingMembers : List (Key × Outline) → Nat
  | [] => 0
  | (k, o) :: ms =>
    match k.text.toOption.bind Field.ofKey? with
    | some f => max (nestingField f o) (nestingMembers ms)
    | none => nestingMembers ms

def nestingFields : List Field → List Outline → Nat
  | f :: fs, o :: os => max (nestingField f o) (nestingFields fs os)
  | _, _ => 0

def nestingField : Field → Outline → Nat
  | .children, .array _ items _ => nestingAll items + 1
  | .style, .object _ members _ => Outline.nestingMembers members + 1
  | _, _ => 0

def nestingAll : List Outline → Nat
  | [] => 0
  | o :: os => max (nesting o) (nestingAll os)

end

theorem nestingAll_eq (os : List Outline) : nestingAll os = greatest (os.map nesting) := by
  induction os with
  | nil => rfl
  | cons o os ih =>
    rw [nestingAll, ih]
    rfl

def Suffices (depth : Nat) : Prop := ∀ o n, ofOutline depth o = .ok n →
  nesting o ≤ depth ∧ ∀ k, nesting o ≤ k → ofOutline k o = .ok n

theorem readFieldAt_of_nesting {depth : Nat} (hchild : ∀ d, depth = d + 1 → Suffices d)
    {f : Field} {o : Outline} {x : Draft.Slot f} (h : readFieldAt depth f o = .ok x) :
    nestingField f o ≤ depth ∧ ∀ k, nestingField f o ≤ k → readFieldAt k f o = .ok x := by
  cases f with
  | children =>
    cases o with
    | array start items close =>
      obtain ⟨ns, hns, rfl⟩ := map_eq_ok.1 h
      obtain ⟨hle, hmore⟩ := Outline.readList_of_nesting (fun d o n hd => hchild d hd o n) hns
      rw [nestingField, nestingAll_eq]
      refine ⟨hle, fun k hk => ?_⟩
      exact map_eq_ok.2 ⟨ns, hmore k hk, rfl⟩
    | _ => exact ⟨Nat.zero_le _, fun _ _ => h⟩
  | style =>
    cases o with
    | object start members close =>
      obtain ⟨ms, hms, rfl⟩ := map_eq_ok.1 h
      obtain ⟨xs, hxs, rfl⟩ := map_eq_ok.1 hms
      obtain ⟨hle, hmore⟩ :=
        Outline.readMap_of_nesting (fun _ _ _ _ hv => Value.ofOutline_of_nesting hv) hxs
      rw [nestingField, Outline.nestingMembers_eq]
      refine ⟨hle, fun k hk => ?_⟩
      exact map_eq_ok.2 ⟨_, map_eq_ok.2 ⟨xs, hmore k hk, rfl⟩, rfl⟩
    | _ => exact ⟨Nat.zero_le _, fun _ _ => h⟩
  | _ =>
    rw [nestingField]
    · exact ⟨Nat.zero_le _, fun _ _ => h⟩
    all_goals simp

theorem gatherMembers_of_nesting {depth : Nat} (hchild : ∀ d, depth = d + 1 → Suffices d)
    {d e : Draft} {members : List (Key × Outline)}
    (h : Draft.form.gatherMembers (putAt depth) d members = .ok e) :
    nestingMembers members ≤ depth ∧ ∀ k, nestingMembers members ≤ k →
      Draft.form.gatherMembers (putAt k) d members = .ok e := by
  induction members generalizing d with
  | nil => exact ⟨Nat.zero_le _, fun _ _ => h⟩
  | cons m members ih =>
    obtain ⟨key, o⟩ := m
    obtain ⟨name, hk, ⟨hname, hskip, h⟩ | ⟨f, hf, hhas, next, hput, h⟩⟩ :=
      Form.gatherMembers_cons_eq_ok.1 h
    · have hname' : Field.ofKey? name = none := hname
      have hneed : nestingMembers ((key, o) :: members) = nestingMembers members := by
        rw [nestingMembers, hk]
        simp [Except.toOption, hname']
      rw [hneed]
      obtain ⟨hle, hmore⟩ := ih h
      refine ⟨hle, fun k hk' => ?_⟩
      exact Form.gatherMembers_cons_eq_ok.2 ⟨name, hk, .inl ⟨hname, hskip, hmore k hk'⟩⟩
    · have hf' : Field.ofKey? name = some f := hf
      have hneed : nestingMembers ((key, o) :: members) =
          max (nestingField f o) (nestingMembers members) := by
        rw [nestingMembers, hk]
        simp [Except.toOption, hf']
      rw [hneed]
      obtain ⟨x, hx, rfl⟩ := Draft.put_eq_ok.1 hput
      obtain ⟨hfield, hread⟩ := readFieldAt_of_nesting hchild hx
      obtain ⟨hle, hmore⟩ := ih h
      refine ⟨Nat.max_le.2 ⟨hfield, hle⟩, fun k hk' => ?_⟩
      obtain ⟨hk₁, hk₂⟩ := Nat.max_le.1 hk'
      exact Form.gatherMembers_cons_eq_ok.2 ⟨name, hk, .inr
        ⟨f, hf, hhas, _, Draft.put_eq_ok.2 ⟨x, hread k hk₁, rfl⟩, hmore k hk₂⟩⟩

theorem gatherItems_of_nesting {depth : Nat} (hchild : ∀ d, depth = d + 1 → Suffices d)
    {fields : List Field} {d : Draft} {items : List Outline} {r : Draft × Bool}
    (h : Form.gatherItems (putAt depth) fields d items = .ok r) :
    nestingFields fields items ≤ depth ∧ ∀ k, nestingFields fields items ≤ k →
      Form.gatherItems (putAt k) fields d items = .ok r := by
  induction items generalizing fields d with
  | nil =>
    have hneed : nestingFields fields [] = 0 := by cases fields <;> rfl
    rw [hneed]
    refine ⟨Nat.zero_le _, fun _ _ => ?_⟩
    cases fields <;> exact h
  | cons o items ih =>
    obtain ⟨f, fields, next, rfl, hput, h⟩ := Form.gatherItems_cons_eq_ok.1 h
    obtain ⟨x, hx, rfl⟩ := Draft.put_eq_ok.1 hput
    obtain ⟨hfield, hread⟩ := readFieldAt_of_nesting hchild hx
    obtain ⟨hle, hmore⟩ := ih h
    rw [nestingFields]
    refine ⟨Nat.max_le.2 ⟨hfield, hle⟩, fun k hk => ?_⟩
    obtain ⟨hk₁, hk₂⟩ := Nat.max_le.1 hk
    exact Form.gatherItems_cons_eq_ok.2
      ⟨f, fields, _, rfl, Draft.put_eq_ok.2 ⟨x, hread k hk₁, rfl⟩, hmore k hk₂⟩

theorem ofOutline_of_nesting (depth : Nat) : Suffices depth := by
  induction depth using Nat.strongRecOn with
  | _ depth ih =>
    intro o n h
    obtain ⟨d, draft, rfl, hf, hread⟩ := ofOutline_eq_ok.1 h
    -- Between a node and its children stand two brackets, of which one is its own.
    have hchild : ∀ k, d = k + 1 → Suffices k := fun k hk => ih k (by omega)
    rcases hread with ⟨start, members, rest, rfl, hall⟩ |
      ⟨start, items, rest, complete, rfl, hall⟩
    · obtain ⟨hle, hmore⟩ := gatherMembers_of_nesting hchild hall
      rw [nesting]
      refine ⟨Nat.succ_le_succ hle, fun k hk => ?_⟩
      obtain ⟨k, rfl⟩ : ∃ j, k = j + 1 := ⟨k - 1, by omega⟩
      have hk' : nestingMembers members ≤ k := by omega
      exact ofOutline_eq_ok.2 ⟨k, draft, rfl, hf, .inl ⟨start, members, rest, rfl, hmore k hk'⟩⟩
    · obtain ⟨hle, hmore⟩ := gatherItems_of_nesting hchild hall
      rw [nesting]
      refine ⟨Nat.succ_le_succ hle, fun k hk => ?_⟩
      obtain ⟨k, rfl⟩ : ∃ j, k = j + 1 := ⟨k - 1, by omega⟩
      have hk' : nestingFields Field.order items ≤ k := by omega
      exact ofOutline_eq_ok.2
        ⟨k, draft, rfl, hf, .inr ⟨start, items, rest, complete, rfl, hmore k hk'⟩⟩

theorem respects_put {child : Option (Outline → Except Issue Node)}
    {value : Option (Outline → Except Issue Value)} (hc : ∀ read ∈ child, Outline.Respects read)
    (hv : ∀ read ∈ value, Outline.Respects read) (f : Field) (d : Draft) :
    Outline.Respects (Draft.put child value f d) := by
  cases f with
  | id => exact Outline.respects_map Outline.respects_readString _
  | name => exact Outline.respects_map Outline.respects_readString _
  | type => exact Outline.respects_map Outline.respects_readString _
  | children =>
    exact Outline.respects_map (Outline.respects_readOption (Outline.respects_readList hc)) _
  | style =>
    exact Outline.respects_map (Outline.respects_readOption (Outline.respects_readMap hv)) _
  | characters =>
    exact Outline.respects_map (Outline.respects_readOption Outline.respects_readString) _

theorem respects_ofOutline (depth : Nat) : Outline.Respects (ofOutline depth) := by
  induction depth using Nat.strongRecOn with
  | _ depth ih =>
    match depth with
    | 0 => exact Form.respects_read _ fun _ h => nomatch h
    | 1 =>
      refine Form.respects_read _ fun p hp => ?_
      cases hp
      exact respects_put (fun _ h => nomatch h) fun _ h => nomatch h
    | depth + 2 =>
      refine Form.respects_read _ fun p hp => ?_
      cases hp
      refine respects_put (fun read h => ?_) fun read h => ?_
      · cases h
        exact ih depth (by omega)
      · cases h
        exact Value.respects_ofOutline depth

end Node
end DesignCompiler
