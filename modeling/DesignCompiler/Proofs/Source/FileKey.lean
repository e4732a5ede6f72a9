import DesignCompiler.Proofs.Source.DesignUrl

set_option autoImplicit false

/-!
# Where the key of a file stands

The key of a file is meant to be the segment right behind the first marker of a path. What is taken
is the first segment behind it that is not empty. Both are the same unless an empty segment stands
behind the marker and others follow: then the key is missing, and one of the others is taken for it.
-/
namespace DesignCompiler.Locator

open Url

/-- The segment right behind the first marker, unless it is empty. -/
def adjacentKey? (path : List Segment) : Option Segment := do
  let i ← path.findIdx? (markers.contains ·)
  path[i + 1]?.filter (!·.isEmpty)

/-- The first marker of a path has an empty segment behind it, and further on one that is not. -/
def SkipsGap (path : List Segment) : Prop :=
  ∃ marker behind, path.dropWhile (!markers.contains ·) = marker :: [] :: behind ∧
    ∃ s ∈ behind, s ≠ []

/-- A URL with this path has the key right behind the marker, or is refused for want of one. -/
def LocatesAdjacent (url : String) (path : List Segment) : Prop :=
  match adjacentKey? path with
  | none => ofUrl url = .error (.missingFileKey url)
  | some key => ∀ l, ofUrl url = .ok l → l.fileKey = String.ofList key

section Markers
variable {before behind path : List Segment} {marker : Segment}

theorem not_markers_of_not_mem (h : ∀ s ∈ path, s ∉ markers) :
    ∀ s ∈ path, (!markers.contains s) = true := by
  intro s hs
  simpa using h s hs

theorem exists_first_marker {s : Segment} (hs : s ∈ path) (hm : s ∈ markers) :
    ∃ before marker behind, path = before ++ marker :: behind ∧
      (∀ t ∈ before, t ∉ markers) ∧ marker ∈ markers := by
  induction path with
  | nil => exact nomatch hs
  | cons t path ih =>
    by_cases ht : t ∈ markers
    · exact ⟨[], t, path, rfl, by simp, ht⟩
    · have hne : s ≠ t := by
        intro he
        exact ht (he ▸ hm)
      have hmem : s ∈ path := (List.mem_cons.1 hs).resolve_left hne
      obtain ⟨before, marker, behind, rfl, hbefore, hmarker⟩ := ih hmem
      exact ⟨t :: before, marker, behind, rfl, List.forall_mem_cons.2 ⟨ht, hbefore⟩, hmarker⟩

theorem dropWhile_append_marker (hbefore : ∀ s ∈ before, s ∉ markers) (hmarker : marker ∈ markers) :
    (before ++ marker :: behind).dropWhile (!markers.contains ·) = marker :: behind := by
  rw [List.dropWhile_append_of_pos (not_markers_of_not_mem hbefore),
    List.dropWhile_cons_of_neg (by simpa using hmarker)]

theorem adjacentKey?_of_not_mem (h : ∀ s ∈ path, s ∉ markers) : adjacentKey? path = none := by
  have hfind : path.findIdx? (markers.contains ·) = none := by
    rw [List.findIdx?_eq_none_iff]
    intro s hs
    simpa using h s hs
  rw [adjacentKey?, hfind]
  rfl

theorem adjacentKey?_append_marker (hbefore : ∀ s ∈ before, s ∉ markers)
    (hmarker : marker ∈ markers) :
    adjacentKey? (before ++ marker :: behind) = behind.head?.filter (!·.isEmpty) := by
  have hnone : before.findIdx? (markers.contains ·) = none := by
    rw [List.findIdx?_eq_none_iff]
    intro s hs
    simpa using hbefore s hs
  have hfind : (before ++ marker :: behind).findIdx? (markers.contains ·) = some before.length := by
    rw [List.findIdx?_append, hnone, List.findIdx?_cons, List.contains_iff_mem.2 hmarker]
    simp
  rw [adjacentKey?, hfind]
  cases behind <;> simp

theorem fileKey?_of_not_mem (h : ∀ s ∈ path, s ∉ markers) : fileKey? path = none := by
  have hdrop : (path.filter (!·.isEmpty)).dropWhile (!markers.contains ·) = [] := by
    rw [List.dropWhile_eq_nil_iff]
    intro s hs
    exact not_markers_of_not_mem h s (List.mem_filter.1 hs).1
  rw [fileKey?, hdrop]
  rfl

theorem fileKey?_append_marker (hbefore : ∀ s ∈ before, s ∉ markers) (hmarker : marker ∈ markers) :
    fileKey? (before ++ marker :: behind) = (behind.filter (!·.isEmpty)).head? := by
  have hne : ∀ m ∈ markers, m.isEmpty = false := by decide
  have hcounts : ∀ s ∈ before.filter (!·.isEmpty), s ∉ markers := by
    intro s hs
    exact hbefore s (List.mem_filter.1 hs).1
  rw [fileKey?, List.filter_append, List.filter_cons_of_pos (by rw [hne marker hmarker]; rfl),
    dropWhile_append_marker hcounts hmarker, List.getElem?_cons_succ, List.head?_eq_getElem?]

end Markers

section Url
variable {url : String} {address : Address}

theorem ofUrl_eq_missingFileKey (h : Url.parse (Text.trim url.toList) = .ok address) :
    ofUrl url = .error (.missingFileKey url) ↔ fileKey? address.path = none := by
  unfold ofUrl
  rw [h]
  cases hkey : fileKey? address.path with
  | none => simp [hkey]
  | some key => cases hid : nodeId? address.query <;> simp [hkey, hid]

theorem ofUrl_of_parts {key : Segment} {id : List Char}
    (h : Url.parse (Text.trim url.toList) = .ok address)
    (hkey : fileKey? address.path = some key) (hid : nodeId? address.query = some id) :
    ofUrl url = .ok ⟨String.ofList key, String.ofList id⟩ := by
  unfold ofUrl
  rw [h]
  simp only [hkey, hid]

theorem fileKey_of_ofUrl {key : Segment} (h : Url.parse (Text.trim url.toList) = .ok address)
    (hkey : fileKey? address.path = some key) {l : Locator} (hl : ofUrl url = .ok l) :
    l.fileKey = String.ofList key := by
  obtain ⟨address', key', id, hparse, hkey', -, rfl⟩ := ofUrl_eq_ok hl
  obtain rfl : address = address' := Except.ok.inj (h.symm.trans hparse)
  obtain rfl : key = key' := Option.some.inj (hkey.symm.trans hkey')
  rfl

/-- The key stands right behind the first marker, or is found missing there, for all URLs but those
where an empty segment is skipped to a later one. -/
theorem locatesAdjacent_iff (h : Url.parse (Text.trim url.toList) = .ok address) :
    LocatesAdjacent url address.path ↔ ¬ SkipsGap address.path := by
  have hmissing := ofUrl_eq_missingFileKey h
  have hfound := fun key => @fileKey_of_ofUrl url address key h
  unfold LocatesAdjacent SkipsGap
  generalize address.path = path at *
  by_cases hmarkers : ∃ s ∈ path, s ∈ markers
  · obtain ⟨s, hs, hm⟩ := hmarkers
    obtain ⟨before, marker, behind, rfl, hbefore, hmarker⟩ := exists_first_marker hs hm
    rw [adjacentKey?_append_marker hbefore hmarker, dropWhile_append_marker hbefore hmarker]
    rw [fileKey?_append_marker hbefore hmarker] at hmissing hfound
    rcases behind with _ | ⟨_ | ⟨c, key⟩, behind⟩
    · -- The marker comes last: no key is meant and none is found.
      simpa using hmissing
    · -- An empty segment comes next: no key is meant, but one is found if any segment counts.
      have hnone : (behind.filter (!·.isEmpty)).head? = none ↔ ∀ s ∈ behind, s = [] := by simp
      have hgap : (∃ marker' behind', marker :: [] :: behind = marker' :: [] :: behind' ∧
          ∃ s ∈ behind', s ≠ []) ↔ ∃ s ∈ behind, s ≠ [] := by
        constructor
        · rintro ⟨_, _, ⟨⟩, hs⟩
          exact hs
        · intro hs
          exact ⟨marker, behind, rfl, hs⟩
      rw [hgap]
      push Not
      exact hmissing.trans hnone
    · refine iff_of_true (fun l hl => hfound (c :: key) rfl hl) ?_
      rintro ⟨_, _, ⟨⟩, -⟩
  · have hnot : ∀ s ∈ path, s ∉ markers := by
      intro s hs hm
      exact hmarkers ⟨s, hs, hm⟩
    have hdrop : path.dropWhile (!markers.contains ·) = [] :=
      List.dropWhile_eq_nil_iff.2 (not_markers_of_not_mem hnot)
    rw [adjacentKey?_of_not_mem hnot, hdrop]
    refine iff_of_true (hmissing.2 (fileKey?_of_not_mem hnot)) ?_
    rintro ⟨_, _, ⟨⟩, -⟩

end Url

theorem parse_site (url : String) (rest : List Char)
    (hurl : url.toList = "https://www.figma.com/".toList ++ rest)
    (h : url.toList.all (IsGraphic ·) = true) :
    Url.parse (Text.trim url.toList) = .ok (addressOf .web rest) := by
  have hall : ∀ c ∈ url.toList, IsGraphic c := by
    intro c hc
    exact of_decide_eq_true (List.all_eq_true.1 h c hc)
  have hnone : ∀ c ∈ ([] : List Char), Text.isBlank c = true := by simp
  have htrim := Text.dropEnds_append hnone (fun c hc => isBlank_eq_false (hall c hc)) hnone
  rw [List.nil_append, List.append_nil] at htrim
  rw [Text.trim, htrim, Url.parse, clean_eq_self hall, hurl, takeScheme?_site]
  exact parseBehindScheme_site rest

set_option maxRecDepth 4000 in
/-- The segment behind the marker is the key, be it a marker itself; what follows does not count. -/
theorem locatesAdjacent_of_design :
    let url := "https://www.figma.com//a/file/design//T/?node-id=1-2"
    let path := ["", "a", "file", "design", "", "T", ""].map String.toList
    Url.parse (Text.trim url.toList) = .ok ⟨path, "node-id=1-2".toList⟩ ∧
      adjacentKey? path = some "design".toList ∧ LocatesAdjacent url path := by
  intro url path
  have hparse := parse_site "https://www.figma.com//a/file/design//T/?node-id=1-2"
    "/a/file/design//T/?node-id=1-2".toList (by decide +kernel) (by decide +kernel)
  have haddress : addressOf .web "/a/file/design//T/?node-id=1-2".toList =
      ⟨path, "node-id=1-2".toList⟩ := by decide +kernel
  rw [haddress] at hparse
  have hgap : ¬ SkipsGap path := by
    rintro ⟨_, _, hpath, -⟩
    have hdrop : path.dropWhile (!markers.contains ·) = path.drop 2 := by decide
    rw [hdrop] at hpath
    cases hpath
  exact ⟨hparse, by decide, (locatesAdjacent_iff hparse).2 hgap⟩

set_option maxRecDepth 4000 in
/-- No key stands behind the marker, and the title is taken for it. -/
theorem not_locatesAdjacent_of_gap :
    let url := "https://www.figma.com/file//Title?node-id=1-2"
    let path := ["file", "", "Title"].map String.toList
    Url.parse (Text.trim url.toList) = .ok ⟨path, "node-id=1-2".toList⟩ ∧
      adjacentKey? path = none ∧ ofUrl url = .ok ⟨"Title", "1:2"⟩ ∧ ¬ LocatesAdjacent url path := by
  intro url path
  have hparse := parse_site "https://www.figma.com/file//Title?node-id=1-2"
    "file//Title?node-id=1-2".toList (by decide +kernel) (by decide +kernel)
  have haddress : addressOf .web "file//Title?node-id=1-2".toList =
      ⟨path, "node-id=1-2".toList⟩ := by decide +kernel
  replace hparse := hparse.trans (congrArg Except.ok haddress)
  have hnone : adjacentKey? path = none := by decide
  have hkey : fileKey? path = some "Title".toList := by decide
  have hid : nodeId? "node-id=1-2".toList = some "1:2".toList := by decide +kernel
  have hread : ofUrl url = .ok ⟨"Title", "1:2"⟩ := ofUrl_of_parts hparse hkey hid
  refine ⟨hparse, hnone, hread, ?_⟩
  unfold LocatesAdjacent
  rw [hnone, hread]
  exact fun h => nomatch h

end DesignCompiler.Locator
