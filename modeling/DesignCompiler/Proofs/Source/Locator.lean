import DesignCompiler.Proofs.Url.Parsing
import DesignCompiler.Source.Locator
import Mathlib

set_option autoImplicit false

/-!
# Locators are well formed

The key of a locator is a segment of a resolved path that is not the first. The one segment of such
a path that may stand for dots follows a drive, and a drive announces no key. So the key is graphic
ASCII without the characters that are encoded in paths, and it stands for no dots.
-/
namespace DesignCompiler.Locator

open Url Url.Segment

def reserved : List Char := ['/', '"', '#', '<', '>', '?', '\x60', '{', '}']

/-- What is known of a locator whatever the URL it comes from. The dots are refused in every
spelling: not even decoded may a key be one of them. -/
structure WellFormed (l : Locator) : Prop where
  fileKey_ne_empty : l.fileKey ≠ ""
  fileKey_graphic : ∀ c ∈ l.fileKey.toList, (0x21 ≤ c.toNat ∧ c.toNat ≤ 0x7E) ∧ c ∉ reserved
  fileKey_ne_dot : percentDecode (Text.encode l.fileKey.toList) ≠ Text.encode ['.']
  fileKey_ne_dots : percentDecode (Text.encode l.fileKey.toList) ≠ Text.encode ['.', '.']
  nodeId_ne_empty : l.nodeId ≠ ""
  nodeId_without_dash : '-' ∉ l.nodeId.toList

theorem mem_tail_of_getElem?_dropWhile {α : Type} {p : α → Bool} {xs : List α} {x : α}
    (h : (xs.dropWhile p)[1]? = some x) : x ∈ xs.tail := by
  induction xs with
  | nil => cases h
  | cons y ys ih =>
    rw [List.dropWhile_cons] at h
    split at h
    · exact List.mem_of_mem_tail (ih h)
    · exact List.mem_of_getElem? h

theorem not_mem_markers_of_isDrive {s : Segment} (h : isDrive s = true) :
    markers.contains s = false := by
  unfold isDrive at h
  split at h
  · simp [markers]
  · cases h

variable {path : List Segment} {key : Segment}

theorem ne_nil_of_fileKey? (h : fileKey? path = some key) : key ≠ [] := by
  have hmem := List.mem_of_mem_tail (mem_tail_of_getElem?_dropWhile h)
  simpa using (List.mem_filter.1 hmem).2

theorem mem_of_fileKey?_drive {drive second : Segment} (hdrive : isDrive drive = true)
    (h : fileKey? (drive :: second :: path) = some key) : key ∈ path := by
  have hne : drive.isEmpty = false := by
    cases drive with
    | nil => cases hdrive
    | cons c cs => rfl
  rw [fileKey?, List.filter_cons_of_pos (by simp [hne]),
    List.dropWhile_cons_of_pos (by rw [not_mem_markers_of_isDrive hdrive]; rfl)] at h
  -- The drive is passed over, so that a marker comes second at the earliest, and the key third.
  have hmem := mem_tail_of_getElem?_dropWhile h
  rw [List.filter_cons] at hmem
  split at hmem
  · exact (List.mem_filter.1 hmem).1
  · exact (List.mem_filter.1 (List.mem_of_mem_tail hmem)).1

theorem settled_of_fileKey? (hpath : Resolved path) (h : fileKey? path = some key) :
    Settled key := by
  cases hpath with
  | settled hpath =>
    have hmem := List.mem_of_mem_tail (mem_tail_of_getElem?_dropWhile h)
    exact hpath key (List.mem_filter.1 hmem).1
  | drive hdrive _ _ hpath => exact hpath key (mem_of_fileKey?_drive hdrive h)

theorem nodeId?_spec {query id : List Char} (h : nodeId? query = some id) :
    id ≠ [] ∧ '-' ∉ id := by
  obtain ⟨hid, hne⟩ := Option.filter_eq_some_iff.1 h
  obtain ⟨value, -, rfl⟩ := Option.map_eq_some_iff.1 hid
  refine ⟨by simpa using hne, fun hmem => ?_⟩
  obtain ⟨c, -, hc⟩ := List.mem_map.1 hmem
  unfold dashToColon at hc
  split at hc
  · cases hc
  · contradiction

theorem ofUrl_eq_ok {url : String} {l : Locator} (h : ofUrl url = .ok l) :
    ∃ address key id, Url.parse (Text.trim url.toList) = .ok address ∧
      fileKey? address.path = some key ∧ nodeId? address.query = some id ∧
      l = ⟨String.ofList key, String.ofList id⟩ := by
  unfold ofUrl at h
  split at h
  · cases h
  · rename_i address hparse
    split at h
    · cases h
    · cases h
    · rename_i key id hkey hid
      cases h
      exact ⟨address, key, id, hparse, hkey, hid, rfl⟩

/-- Whatever the URL, what it locates is well formed. -/
theorem wellFormed_of_ofUrl {url : String} {l : Locator} (h : ofUrl url = .ok l) :
    l.WellFormed := by
  obtain ⟨address, key, id, hparse, hkey, hid, rfl⟩ := ofUrl_eq_ok h
  have hsettled := settled_of_fileKey? (isResolved_of_parse hparse) hkey
  have hne := ne_nil_of_fileKey? hkey
  obtain ⟨hidne, hdash⟩ := nodeId?_spec hid
  constructor
  · simpa using hne
  · intro c hc
    rw [String.toList_ofList] at hc
    obtain ⟨hset, hslash⟩ := hsettled.encoded c hc
    obtain ⟨hgraphic, hmem⟩ := inPathSet_eq_false_iff.1 hset
    exact ⟨hgraphic, fun h => (List.mem_cons.1 h).elim hslash hmem⟩
  · rw [String.toList_ofList]
    exact hsettled.percentDecode_ne_dot
  · rw [String.toList_ofList]
    exact hsettled.percentDecode_ne_dots
  · simpa using hidne
  · rwa [String.toList_ofList]

set_option maxRecDepth 4000 in
/-- The segment behind the drive stands for two dots; the key only ends in them. -/
theorem wellFormed_of_dots :
    ofUrl "file:C:%2e./x/%2E./proto\\./K \"%2e.?node-id=1-2&node-id=3" =
        .ok ⟨"K%20%22%2e.", "1:2"⟩ ∧
      (⟨"K%20%22%2e.", "1:2"⟩ : Locator).WellFormed := by
  have h : ofUrl "file:C:%2e./x/%2E./proto\\./K \"%2e.?node-id=1-2&node-id=3" =
      .ok ⟨"K%20%22%2e.", "1:2"⟩ := by cbv
  exact ⟨h, wellFormed_of_ofUrl h⟩

end DesignCompiler.Locator
