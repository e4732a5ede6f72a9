import DesignCompiler.Proofs.Url.Percent
import DesignCompiler.Url.Query

set_option autoImplicit false

namespace DesignCompiler.Url

theorem decodePart_eq {part cs : List Char} (hplus : '+' ∉ part)
    (h : percentDecode (Text.encode part) = Text.encode cs) : decodePart part = cs := by
  have hpart : part.map plusToSpace = part.map id :=
    List.map_congr_left fun c hc => if_neg fun heq : c = '+' => hplus (heq ▸ hc)
  rw [List.map_id] at hpart
  rw [decodePart, hpart, h, Text.decodeLenient_encode]

theorem decodePart_eq_self {part : List Char}
    (h : ∀ c ∈ part, c.toNat < 0x80 ∧ c ≠ '%' ∧ c ≠ '+') : decodePart part = part := by
  refine decodePart_eq (fun hplus => (h '+' hplus).2.2 rfl) ?_
  induction part with
  | nil => rfl
  | cons c part ih =>
    obtain ⟨hc, hpercent, -⟩ := h c List.mem_cons_self
    rw [percentDecode_encode_cons hc hpercent, ih fun d hd => h d (List.mem_cons_of_mem c hd),
      Text.encode_cons_of_lt hc]

def writePair (pair : List Char × List Char) : List Char := pair.1 ++ '=' :: pair.2

theorem decodePair_writePair {pair : List Char × List Char} (h : '=' ∉ pair.1) :
    decodePair (writePair pair) = (decodePart pair.1, decodePart pair.2) := by
  have hname : ∀ c ∈ pair.1, (c ≠ '=' : Bool) = true := by
    intro c hc
    simpa using fun heq : c = '=' => h (heq ▸ hc)
  rw [decodePair, writePair, List.takeWhile_append_of_pos hname,
    List.dropWhile_append_of_pos hname]
  simp

theorem queryPairs_joinWith {pairs : List (List Char × List Char)} (hne : pairs ≠ [])
    (hname : ∀ pair ∈ pairs, '=' ∉ pair.1) (hand : ∀ pair ∈ pairs, '&' ∉ writePair pair) :
    queryPairs (Text.joinWith '&' (pairs.map writePair)) =
      pairs.map fun pair => (decodePart pair.1, decodePart pair.2) := by
  have hparts : ∀ part ∈ pairs.map writePair, ∀ c ∈ part, (c = '&' : Bool) = false := by
    intro part hpart c hc
    obtain ⟨pair, hpair, rfl⟩ := List.mem_map.1 hpart
    simpa using fun heq : c = '&' => hand pair hpair (heq ▸ hc)
  have hfilter : (pairs.map writePair).filter (!·.isEmpty) = pairs.map writePair := by
    refine List.filter_eq_self.2 fun part hpart => ?_
    obtain ⟨pair, -, rfl⟩ := List.mem_map.1 hpart
    simp [writePair]
  rw [queryPairs, Text.splitOn_joinWith (by simp) (by simpa using hne) hparts, hfilter,
    List.map_map]
  exact List.map_congr_left fun pair hpair => decodePair_writePair (hname pair hpair)

end DesignCompiler.Url
