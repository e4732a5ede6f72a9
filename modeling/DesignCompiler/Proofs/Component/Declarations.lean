import DesignCompiler.Proofs.Component.Selectors
import DesignCompiler.Proofs.Design.Styles
import DesignCompiler.Proofs.Number.Overflow

set_option autoImplicit false

namespace DesignCompiler

def Numeral.string (m : Numeral) : String := String.ofList m.text

namespace Component.StyleSheet

open Script (lines)

/-- The lines of a style sheet that neither open nor close a rule. What follows the last line end is
none either. -/
def isDeclaration (line : String) : Bool :=
  !(isSelector line || line == "\x7d" || line == "")

def declarations (style : String) : List String := (lines style).filter isDeclaration

def rgbaText (r g b a : String) : String :=
  "rgba(" ++ r ++ ", " ++ g ++ ", " ++ b ++ ", " ++ a ++ ")"

/-- What a declaration says, when these texts can stand for a channel of a colour. -/
inductive Declares (Channel : String → Prop) : String → Prop
  | transparent : Declares Channel (colourLine "transparent")
  | rgba {r g b : String} (a : Numeral) (hr : Channel r) (hg : Channel g) (hb : Channel b) :
    Declares Channel (colourLine (rgbaText r g b a.string))
  | size (n : Numeral) : Declares Channel (sizeLine n.string)

def IsInteger (text : String) : Prop := ∃ m : Numeral, m.IsInteger ∧ m.string = text

def IsInfinity (text : String) : Prop := text = "inf" ∨ text = "-inf"

theorem isFinite_channelMax : channelMax.isFinite = true := by decide +kernel

theorem isFinite_half : half.isFinite = true := by decide +kernel

theorem isFinite_one : Binary64.one.isFinite = true := by decide +kernel

theorem magnitude_channelMax : channelMax.magnitude = 255 * Binary64.scale := by decide +kernel

theorem magnitude_half_lt : half.magnitude < 2 ^ 2044 := by decide +kernel

/-- A channel that does not overflow when it is scaled. -/
def InRange (c : Binary64) : Prop := 255 * |c.value| < 2 ^ 1024 - 2 ^ 970

-- What follows is about any such number: it need not be computed.
attribute [local irreducible] Binary64.scale

section Channel
variable {c : Binary64}

theorem isFinite_mul_channelMax_iff (hc : c.isFinite = true) :
    (c.mul channelMax).isFinite = true ↔ InRange c := by
  have hproduct : c.magnitude * (255 * Binary64.scale) = Binary64.scale * (255 * c.magnitude) := by
    ring
  have hvalue : ((255 * c.magnitude : Nat) / Binary64.scale : ℚ) = 255 * |c.value| := by
    rw [Binary64.abs_value]
    push_cast
    ring
  rw [Binary64.mul_eq_round hc isFinite_channelMax,
    Binary64.isFinite_round_iff _ Binary64.scale_pos, magnitude_channelMax, hproduct,
    Nat.mul_lt_mul_left Binary64.scale_pos, Binary64.lt_overflow_iff, hvalue, InRange]

theorem isInfinity_number (h : c.isInfinite = true) : IsInfinity (number c) := by
  rw [number, Binary64.format_of_isInfinite h]
  cases c.negative with
  | false => exact .inl rfl
  | true => exact .inr rfl

theorem isInteger_number (h : c.isWhole = true) : IsInteger (number c) := by
  obtain ⟨m, htext, hinteger, -⟩ :=
    Binary64.exists_numeral_format (Binary64.isFinite_of_isWhole h)
  exact ⟨m, hinteger h, by rw [Numeral.string, htext, number]⟩

theorem isInteger_channelByte (hc : c.isFinite = true) (h : InRange c) :
    IsInteger (number (channelByte c)) := by
  have hproduct := (isFinite_mul_channelMax_iff hc).2 h
  exact isInteger_number (Binary64.isWhole_floor
    (Binary64.isFinite_add hproduct isFinite_half magnitude_half_lt))

theorem isInfinity_channelByte (hc : c.isFinite = true) (h : ¬ InRange c) :
    IsInfinity (number (channelByte c)) := by
  have hproduct : (c.mul channelMax).isFinite = false := by
    rw [Bool.eq_false_iff, Ne, isFinite_mul_channelMax_iff hc]
    exact h
  have hinfinite : (c.mul channelMax).isInfinite = true := by
    rw [Binary64.mul_eq_round hc isFinite_channelMax] at hproduct ⊢
    exact (Binary64.round_finite_or_infinite _ _ _).resolve_left (Bool.eq_false_iff.1 hproduct)
  rw [channelByte, Binary64.add_of_isInfinite hinfinite isFinite_half,
    Binary64.floor_of_not_isFinite hproduct]
  exact isInfinity_number hinfinite

end Channel

theorem isDeclaration_selectorLine (cls : String) : isDeclaration (selectorLine cls) = false := by
  rw [isDeclaration, isSelector_selectorLine]
  rfl

theorem isDeclaration_of_getElem? {line : String} {c : Char} (hselector : isSelector line = false)
    (h : line.toList[2]? = some c) : isDeclaration line = true := by
  have hclose : line ≠ "\x7d" := by
    rintro rfl
    exact nomatch h
  have hempty : line ≠ "" := by
    rintro rfl
    exact nomatch h
  rw [isDeclaration, hselector, beq_eq_false_iff_ne.2 hclose, beq_eq_false_iff_ne.2 hempty]
  rfl

theorem isDeclaration_colourLine (colour : String) : isDeclaration (colourLine colour) = true :=
  isDeclaration_of_getElem? (isSelector_colourLine colour) (colourLine_getElem? colour)

theorem isDeclaration_sizeLine (size : String) : isDeclaration (sizeLine size) = true :=
  isDeclaration_of_getElem? (isSelector_sizeLine size) (sizeLine_getElem? size)

theorem Rule.declarations_lines (r : Rule) : r.lines.filter isDeclaration =
    (r.colour.map colourLine).toList ++ (r.size.map sizeLine).toList := by
  have hclose : isDeclaration "\x7d" = false := by decide
  obtain ⟨cls, colour, size⟩ := r
  cases colour <;> cases size <;>
    simp [lines, isDeclaration_selectorLine, isDeclaration_colourLine, isDeclaration_sizeLine,
      hclose]

theorem mem_declarations_render {root : Node} {line : String} :
    line ∈ declarations (render root) ↔ ∃ p ∈ styled root,
      (∃ fill, p.2.fill = some fill ∧ colourLine (colour fill) = line) ∨
        ∃ size, p.2.fontSize = some size ∧ sizeLine (number size) = line := by
  have hlast : [""].filter isDeclaration = [] := by decide
  rw [declarations, lines_render, List.filter_append, hlast, List.append_nil, List.filter_flatMap,
    rules_eq_map_styled, List.flatMap_map, List.mem_flatMap]
  simp only [Rule.declarations_lines, Rule.ofStyle, List.mem_append, Option.mem_toList,
    Option.map_map, Option.map_eq_some_iff, Function.comp_apply]

structure FiniteNumbers (s : Style) : Prop where
  channel : ∀ r g b a, s.fill = some (.rgba r g b a) → ∀ c ∈ [r, g, b], c.isFinite = true
  alpha : ∀ r g b a, s.fill = some (.rgba r g b a) → (a.getD .one).isFinite = true
  size : ∀ x, s.fontSize = some x → x.isFinite = true

theorem finiteNumbers_of_accounts {keys : List String} {s : Style} (h : Style.Accounts keys s) :
    FiniteNumbers s := by
  have hunder : ∀ p ∈ s.properties, ∃ key, Property.Under key p := by
    intro p hp
    obtain ⟨key, -, hkey⟩ := Json.exists_of_forall₂ h.properties.flip hp
    exact ⟨key, hkey⟩
  have hfill : ∀ r g b a, s.fill = some (.rgba r g b a) →
      (∀ c ∈ [r, g, b], c.isFinite = true) ∧ (a.getD .one).isFinite = true := by
    intro r g b a hs
    obtain ⟨p, hp, hsome⟩ := List.exists_of_findSome?_eq_some hs
    obtain ⟨key, hkey⟩ := hunder p hp
    cases p with
    | fill fill =>
      cases hsome
      cases hkey with
      | rgba _ hr hg hb ha =>
        refine ⟨by simp [hr, hg, hb], ?_⟩
        cases a with
        | none =>
          rw [Option.getD_none]
          exact isFinite_one
        | some x =>
          rw [Option.getD_some]
          exact ha x rfl
    | _ => exact nomatch hsome
  refine ⟨fun r g b a hs => (hfill r g b a hs).1, fun r g b a hs => (hfill r g b a hs).2,
    fun x hs => ?_⟩
  obtain ⟨p, hp, hsome⟩ := List.exists_of_findSome?_eq_some hs
  obtain ⟨key, hkey⟩ := hunder p hp
  cases p with
  | fontSize size =>
    cases hsome
    cases hkey with
    | fontSize _ hfinite => exact hfinite
  | _ => exact nomatch hsome

theorem finiteNumbers_of_ofText {text : String} {root : Node} (h : Node.ofText text = .ok root)
    {p : String × Style} (hp : p ∈ styled root) : FiniteNumbers p.2 := by
  obtain ⟨n, hn, hstyle⟩ := List.mem_filterMap.1 hp
  obtain ⟨style, hsome, rfl⟩ := Option.map_eq_some_iff.1 hstyle
  obtain ⟨given, hsound⟩ := Node.sound_of_mem_preorder h hn
  have haccounts := hsound.style
  rw [hsome] at haccounts
  cases haccounts with
  | some haccounts =>
    obtain ⟨keys, -, haccounts⟩ := haccounts
    exact finiteNumbers_of_accounts haccounts

def ChannelsInRange (s : Style) : Prop :=
  ∀ r g b a, s.fill = some (.rgba r g b a) → ∀ c ∈ [r, g, b], InRange c

theorem exists_numeral_number {x : Binary64} (hx : x.isFinite = true) :
    ∃ m : Numeral, m.string = number x := by
  obtain ⟨m, htext, -⟩ := Binary64.exists_numeral_format hx
  exact ⟨m, by rw [Numeral.string, htext, number]⟩

theorem declares_size {Channel : String → Prop} {x : Binary64} (hx : x.isFinite = true) :
    Declares Channel (sizeLine (number x)) := by
  obtain ⟨m, hm⟩ := exists_numeral_number hx
  rw [← hm]
  exact .size m

theorem declares_colour {Channel : String → Prop} {s : Style} (hs : FiniteNumbers s) {fill : Fill}
    (hfill : s.fill = some fill) (h : ∀ r g b a, fill = .rgba r g b a →
      ∀ c ∈ [r, g, b], Channel (number (channelByte c))) :
    Declares Channel (colourLine (colour fill)) := by
  cases fill with
  | unresolved => exact .transparent
  | rgba r g b a =>
    obtain ⟨m, hm⟩ := exists_numeral_number (hs.alpha r g b a hfill)
    have hchannel := h r g b a rfl
    have hline : colour (.rgba r g b a) = rgbaText (number (channelByte r)) (number (channelByte g))
        (number (channelByte b)) m.string := by
      rw [hm]
      rfl
    rw [hline]
    exact .rgba m (hchannel r (by simp)) (hchannel g (by simp)) (hchannel b (by simp))

theorem not_mem_string (m : Numeral) : 'f' ∉ m.string.toList := by
  have hwhole : 'f' ∉ m.whole := fun h => absurd (m.isDigit_whole _ h) (by decide)
  have hfraction : 'f' ∉ m.fraction := fun h => absurd (m.isDigit_fraction _ h) (by decide)
  rw [Numeral.string, String.toList_ofList, Numeral.text, Numeral.magnitudeText, Numeral.tail]
  split_ifs <;> simp [hwhole, hfraction]

theorem not_mem_rgba {r g b a : String} (hr : 'f' ∉ r.toList) (hg : 'f' ∉ g.toList)
    (hb : 'f' ∉ b.toList) (ha : 'f' ∉ a.toList) :
    'f' ∉ (colourLine (rgbaText r g b a)).toList := by
  unfold colourLine rgbaText
  simp only [String.toList_append, List.mem_append, hr, hg, hb, ha, or_false]
  decide +kernel

theorem not_mem_of_declares {line : String} (h : Declares IsInteger line)
    (hcolour : line.toList[2]? = some 'b') : 'f' ∉ line.toList := by
  induction h with
  | transparent => decide +kernel
  | rgba a hr hg hb =>
    obtain ⟨r, -, rfl⟩ := hr
    obtain ⟨g, -, rfl⟩ := hg
    obtain ⟨b, -, rfl⟩ := hb
    exact not_mem_rgba (not_mem_string r) (not_mem_string g) (not_mem_string b) (not_mem_string a)
  | size n =>
    rw [sizeLine_getElem?] at hcolour
    exact absurd hcolour (by decide)

theorem mem_colourLine {r g b : Binary64} {a : Option Binary64} {c : Binary64} (hc : c ∈ [r, g, b])
    (h : IsInfinity (number (channelByte c))) :
    'f' ∈ (colourLine (colour (.rgba r g b a))).toList := by
  have hmem : 'f' ∈ (number (channelByte c)).toList := by
    rcases h with h | h <;> rw [h] <;> decide
  simp only [List.mem_cons, List.not_mem_nil, or_false] at hc
  unfold colourLine colour
  simp only [String.toList_append, List.mem_append]
  rcases hc with rfl | rfl | rfl <;> simp [hmem]

/-- In the style sheet of a text that is read, every declaration is `transparent`, a colour or a
size. Sizes and alphas are numerals, and channels are integers or infinities; they are all integers
exactly if no channel overflows when it is scaled. -/
theorem declarations_numeric_iff {text : String} {root : Node} (h : Node.ofText text = .ok root)
    (name : String) :
    (∀ line ∈ declarations (compile root name).style,
      Declares (fun t => IsInteger t ∨ IsInfinity t) line) ∧
    ((∀ line ∈ declarations (compile root name).style, Declares IsInteger line) ↔
      ∀ p ∈ styled root, ChannelsInRange p.2) := by
  change (∀ line ∈ declarations (render root), _) ∧ ((∀ line ∈ declarations (render root), _) ↔ _)
  refine ⟨fun line hline => ?_, fun hnumeric p hp r g b a hfill c hc => ?_,
    fun hrange line hline => ?_⟩
  · obtain ⟨p, hp, ⟨fill, hfill, rfl⟩ | ⟨size, hsize, rfl⟩⟩ := mem_declarations_render.1 hline
    · have hs := finiteNumbers_of_ofText h hp
      refine declares_colour hs hfill fun r g b a he c hc => ?_
      subst he
      have hfinite := hs.channel r g b a hfill c hc
      by_cases hrange : InRange c
      · exact .inl (isInteger_channelByte hfinite hrange)
      · exact .inr (isInfinity_channelByte hfinite hrange)
    · exact declares_size ((finiteNumbers_of_ofText h hp).size size hsize)
  · by_contra hrange
    have hfinite := (finiteNumbers_of_ofText h hp).channel r g b a hfill c hc
    have hline := hnumeric _ (mem_declarations_render.2 ⟨p, hp, .inl ⟨_, hfill, rfl⟩⟩)
    exact not_mem_of_declares hline (colourLine_getElem? _)
      (mem_colourLine hc (isInfinity_channelByte hfinite hrange))
  · obtain ⟨p, hp, ⟨fill, hfill, rfl⟩ | ⟨size, hsize, rfl⟩⟩ := mem_declarations_render.1 hline
    · have hs := finiteNumbers_of_ofText h hp
      refine declares_colour hs hfill fun r g b a he c hc => ?_
      subst he
      exact isInteger_channelByte (hs.channel r g b a hfill c hc) (hrange p hp r g b a hfill c hc)
    · exact declares_size ((finiteNumbers_of_ofText h hp).size size hsize)

theorem exists_of_map_eq_some {α : Type} {text : String} {f : Node → α} {x : α}
    (h : (Node.ofText text).toOption.map f = some x) :
    ∃ root, Node.ofText text = .ok root ∧ f root = x := by
  cases hread : Node.ofText text with
  | error e =>
    rw [hread] at h
    exact nomatch h
  | ok root =>
    rw [hread] at h
    exact ⟨root, rfl, Option.some.inj h⟩

/-- Channels far beyond one are integers as long as 255 times the channel is a finite number. -/
theorem declarations_numeric_of_badge :
    let text := "\x7b\"id\":\"1\",\"name\":\"Badge\",\"type\":\"TEXT\",\"style\":\x7b" ++
      "\"fontSize\":12.5,\"fill\":\x7b\"r\":7e305,\"g\":-1,\"b\":0.5,\"a\":0.25\x7d\x7d\x7d"
    ∃ root, Node.ofText text = .ok root ∧ declarations (compile root "Card").style =
        ["  background-color: rgba(9223372036854775807, -255, 128, 0.25);",
          "  font-size: 12.5px;"] ∧
      ∀ line ∈ declarations (compile root "Card").style, Declares IsInteger line := by
  intro text
  let r : Binary64 := ⟨0x7f6fe60e8164fd06⟩
  let g : Binary64 := ⟨0xbff0000000000000⟩
  let b : Binary64 := ⟨0x3fe0000000000000⟩
  let style : Style := ⟨[.fill (.rgba r g b (some ⟨0x3fd0000000000000⟩)),
    .fontSize ⟨0x4029000000000000⟩]⟩
  obtain ⟨root, hread, hroot⟩ := @exists_of_map_eq_some _ text
    (fun root => (styled root, declarations (compile root "Card").style))
    ([("Badge", style)], ["  background-color: rgba(9223372036854775807, -255, 128, 0.25);",
      "  font-size: 12.5px;"]) (by decide +kernel)
  obtain ⟨hstyled, hdeclarations⟩ := Prod.mk.inj hroot
  have hproducts : ∀ c ∈ [r, g, b], c.isFinite = true ∧ (c.mul channelMax).isFinite = true := by
    decide +kernel
  refine ⟨root, hread, hdeclarations, (declarations_numeric_iff hread "Card").2.2 ?_⟩
  intro p hp r g b a hfill c hc
  rw [hstyled] at hp
  obtain rfl := List.mem_singleton.1 hp
  cases hfill
  obtain ⟨hfinite, hproduct⟩ := hproducts c hc
  exact (isFinite_mul_channelMax_iff hfinite).1 hproduct

/-- A channel of ten to the 308th is accepted, and overflows. -/
theorem not_declares_of_overflow :
    let text := "\x7b\"id\":\"1\",\"name\":\"A\",\"type\":\"FRAME\",\"style\":" ++
      "\x7b\"fill\":\x7b\"r\":1e308,\"g\":0,\"b\":0\x7d\x7d\x7d"
    ∃ root, Node.ofText text = .ok root ∧
      (compile root "A").style = ".a \x7b\n  background-color: rgba(inf, 0, 0, 1);\n\x7d\n" ∧
      ¬ ∀ line ∈ declarations (compile root "A").style, Declares IsInteger line := by
  intro text
  obtain ⟨root, hread, hstyle⟩ := @exists_of_map_eq_some _ text
    (fun root => (compile root "A").style)
    ".a \x7b\n  background-color: rgba(inf, 0, 0, 1);\n\x7d\n" (by decide +kernel)
  have hline : "  background-color: rgba(inf, 0, 0, 1);" ∈
      declarations (compile root "A").style := by
    rw [hstyle]
    decide +kernel
  refine ⟨root, hread, hstyle, fun h => ?_⟩
  exact not_mem_of_declares (h _ hline) (by decide +kernel) (by decide +kernel)

end Component.StyleSheet
end DesignCompiler
