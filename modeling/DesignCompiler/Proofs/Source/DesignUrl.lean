import DesignCompiler.Proofs.Source.Locator
import DesignCompiler.Proofs.Url.Query

set_option autoImplicit false

namespace DesignCompiler

open Url

def isWordChar (c : Char) : Bool := c.isAlphanum || c = '_'

def isKeyChar (c : Char) : Bool := isWordChar c || c = '-'

def isFragmentChar (c : Char) : Bool := isKeyChar c || c = '=' || c = '&' || c = '/' || c = '?'

/-- The texts that write a node id in a URL. A colon may be a dash; letters and digits stand for
themselves, and the bytes of every character may be escaped. -/
inductive WritesId : List Char → List Char → Prop where
  | nil : WritesId [] []
  | dash {id text : List Char} (h : WritesId id text) : WritesId (':' :: id) ('-' :: text)
  | plain {c : Char} {id text : List Char} (hc : c.isAlphanum = true) (h : WritesId id text) :
      WritesId (c :: id) (c :: text)
  | escaped {c : Char} {id written text : List Char}
      (hc : Escapes (String.utf8EncodeChar c) written) (h : WritesId id text) :
      WritesId (c :: id) (written ++ text)

def writeId (id : List Char) : List Char :=
  id.flatMap fun c =>
    if c = ':' then ['-']
    else if c.isAlphanum then [c]
    else (String.utf8EncodeChar c).flatMap percentByte

structure IsWordPair (pair : List Char × List Char) : Prop where
  name : ∀ c ∈ pair.1, isWordChar c = true
  value : ∀ c ∈ pair.2, isWordChar c = true

/-- A parameter that could be the node, with any value that does not end it. -/
structure IsNodePair (pair : List Char × List Char) : Prop where
  name : pair.1 = "node-id".toList
  value : ∀ c ∈ pair.2, IsGraphic c ∧ c ≠ '&' ∧ c ≠ '#'

/-- What the URL of a design is made of. Only the first parameter `node-id` counts, so that there
may be more of them behind it. -/
structure DesignUrl where
  marker : Segment
  key : Segment
  title : Option Segment
  before : List (List Char × List Char)
  id : List Char
  written : List Char
  after : List (List Char × List Char)
  fragment : Option (List Char)
  marker_mem : marker ∈ Locator.markers
  key_ne_nil : key ≠ []
  key_chars : ∀ c ∈ key, isKeyChar c = true
  title_chars : ∀ s ∈ title, ∀ c ∈ s, isKeyChar c = true
  before_words : ∀ pair ∈ before, IsWordPair pair
  id_ne_nil : id ≠ []
  id_without_dash : '-' ∉ id
  written_id : WritesId id written
  after_words : ∀ pair ∈ after, IsWordPair pair ∨ IsNodePair pair
  fragment_chars : ∀ cs ∈ fragment, ∀ c ∈ cs, isFragmentChar c = true

namespace DesignUrl

def segments (u : DesignUrl) : List Segment := u.marker :: u.key :: u.title.toList

def pairs (u : DesignUrl) : List (List Char × List Char) :=
  u.before ++ ("node-id".toList, u.written) :: u.after

def path (u : DesignUrl) : List Char := Text.joinWith '/' u.segments

def query (u : DesignUrl) : List Char := Text.joinWith '&' (u.pairs.map writePair)

def ending (u : DesignUrl) : List Char := u.fragment.elim [] ('#' :: ·)

def text (u : DesignUrl) : List Char :=
  "https://www.figma.com/".toList ++ (u.path ++ '?' :: (u.query ++ u.ending))

end DesignUrl

section Alphabets

variable {c : Char}

theorem isKeyChar_of_isAlphanum (h : c.isAlphanum = true) : isKeyChar c = true := by
  simp [isKeyChar, isWordChar, h]

theorem isKeyChar_of_isWordChar (h : isWordChar c = true) : isKeyChar c = true := by
  simp [isKeyChar, h]

theorem isGraphic_of_isKeyChar (h : isKeyChar c = true) : IsGraphic c := by
  simp only [isKeyChar, isWordChar, Bool.or_eq_true, decide_eq_true_eq] at h
  rcases h with (h | rfl) | rfl
  · exact isGraphic_of_isAlphanum h
  all_goals decide

theorem isBlank_eq_false (h : IsGraphic c) : Text.isBlank c = false := by
  have hlow : 0x21 ≤ c.toNat := h.1
  have hhigh : c.toNat ≤ 0x7E := h.2
  simp only [Text.isBlank, Bool.or_eq_false_iff, Bool.and_eq_false_iff, decide_eq_false_iff_not,
    beq_eq_false_iff_ne, ne_eq]
  omega

theorem isGraphic_of_isFragmentChar (h : isFragmentChar c = true) : IsGraphic c := by
  simp only [isFragmentChar, Bool.or_eq_true, decide_eq_true_eq] at h
  rcases h with (((h | rfl) | rfl) | rfl) | rfl
  · exact isGraphic_of_isKeyChar h
  all_goals decide

theorem ne_of_isKeyChar (h : isKeyChar c = true) {sign : Char} (hsign : isKeyChar sign = false) :
    c ≠ sign := fun heq => by
  rw [heq, hsign] at h
  cases h

theorem isDot_eq_false {s : Segment} (h : ∀ c ∈ s, isKeyChar c = true) : isDot s = false := by
  have hhead {first : Char} {rest : Segment} (hfirst : isKeyChar first = false) :
      s ≠ first :: rest := fun heq =>
    ne_of_isKeyChar (h first (heq ▸ List.mem_cons_self)) hfirst rfl
  simp [isDot, hhead (show isKeyChar '.' = false by decide),
    hhead (show isKeyChar '%' = false by decide)]

theorem settled_of_isKeyChar {s : Segment} (h : ∀ c ∈ s, isKeyChar c = true) : s.Settled where
  encoded := by
    intro c hc
    have hkey := h c hc
    have hsigns : ['"', '#', '<', '>', '?', '\x60', '{', '}'].all (!isKeyChar ·) = true := rfl
    have hreserved (hmem : c ∈ ['"', '#', '<', '>', '?', '\x60', '{', '}']) : False := by
      simpa [hkey] using List.all_eq_true.1 hsigns c hmem
    exact ⟨inPathSet_eq_false_iff.2 ⟨isGraphic_of_isKeyChar hkey, hreserved⟩,
      ne_of_isKeyChar hkey (by decide)⟩
  isSingleDot := isDot_eq_false h
  isDoubleDot := by
    have htake (n : Nat) : isDot (s.take n) = false :=
      isDot_eq_false fun c hc => h c (List.mem_of_mem_take hc)
    rw [isDoubleDot, htake 1, htake 3]
    rfl

end Alphabets

theorem writesId_writeId (id : List Char) : WritesId id (writeId id) := by
  induction id with
  | nil => exact .nil
  | cons c id ih =>
    rw [writeId, List.flatMap_cons, ← writeId]
    split
    · rename_i hcolon
      exact hcolon ▸ .dash ih
    · split
      · rename_i hplain
        exact .plain hplain ih
      · exact .escaped (escapes_percentByte _) ih

namespace WritesId

variable {id text : List Char}

theorem chars (h : WritesId id text) : ∀ c ∈ text, isKeyChar c = true ∨ c = '%' := by
  induction h with
  | nil => exact fun _ hc => nomatch hc
  | dash _ ih => exact List.forall_mem_cons.2 ⟨.inl (by decide), ih⟩
  | plain hc _ ih => exact List.forall_mem_cons.2 ⟨.inl (isKeyChar_of_isAlphanum hc), ih⟩
  | escaped hc _ ih =>
    have hwritten := fun d hd => (hc.isAlphanum d hd).imp_left isKeyChar_of_isAlphanum
    exact List.forall_mem_append.2 ⟨hwritten, ih⟩

theorem dashToColon_of_not_mem {c : Char} (h : '-' ∉ c :: id) : Locator.dashToColon c = c :=
  if_neg fun heq : c = '-' => h (heq ▸ List.mem_cons_self)

/-- A written node id is read as the id, but that colons may have become dashes. -/
-- What is read back is not the id itself, so the induction carries the text that is read; an id
-- without dashes is what it becomes when all its dashes turn into colons.
theorem exists_shown (h : WritesId id text) (hdash : '-' ∉ id) :
    ∃ shown, percentDecode (Text.encode text) = Text.encode shown ∧
      shown.map Locator.dashToColon = id := by
  induction h with
  | nil => exact ⟨[], rfl, rfl⟩
  | dash h ih =>
    obtain ⟨shown, hdecode, hshown⟩ := ih fun hmem => hdash (List.mem_cons_of_mem _ hmem)
    refine ⟨'-' :: shown, ?_, by rw [List.map_cons, hshown]; rfl⟩
    rw [percentDecode_encode_cons (by decide) (by decide), hdecode,
      Text.encode_cons_of_lt (by decide)]
  | @plain c id text hc h ih =>
    obtain ⟨shown, hdecode, hshown⟩ := ih fun hmem => hdash (List.mem_cons_of_mem _ hmem)
    have hlow : c.toNat < 0x80 := (isGraphic_of_isAlphanum hc).toNat_lt
    have hpercent : c ≠ '%' := ne_of_isKeyChar (isKeyChar_of_isAlphanum hc) (by decide)
    refine ⟨c :: shown, ?_, by rw [List.map_cons, hshown, dashToColon_of_not_mem hdash]⟩
    rw [percentDecode_encode_cons hlow hpercent, hdecode, Text.encode_cons_of_lt hlow]
  | @escaped c id written text hc h ih =>
    obtain ⟨shown, hdecode, hshown⟩ := ih fun hmem => hdash (List.mem_cons_of_mem _ hmem)
    refine ⟨c :: shown, ?_, by rw [List.map_cons, hshown, dashToColon_of_not_mem hdash]⟩
    rw [percentDecode_encode_append hc, hdecode]
    rfl

theorem map_decodePart (h : WritesId id text) (hdash : '-' ∉ id) :
    (decodePart text).map Locator.dashToColon = id := by
  obtain ⟨shown, hdecode, hshown⟩ := h.exists_shown hdash
  have hplus : '+' ∉ text := fun hmem => by
    rcases h.chars '+' hmem with hkey | hpercent
    · exact absurd hkey (by decide)
    · exact absurd hpercent (by decide)
  rw [decodePart_eq hplus hdecode, hshown]

end WritesId

theorem takeScheme?_site (rest : List Char) :
    takeScheme? ("https://www.figma.com/".toList ++ rest) =
      some ("https".toList, "//www.figma.com/".toList ++ rest) := rfl

theorem decode?_site : Text.decode? (percentDecode (Text.encode "www.figma.com".toList)) =
    some "www.figma.com".toList := by
  have hplain : percentDecode (Text.encode "www.figma.com".toList) =
      Text.encode "www.figma.com".toList := by decide +kernel
  rw [hplain]
  exact Text.decode?_encode _

theorem readWebHost_site : readWebHost "www.figma.com".toList = .ok "www.figma.com".toList :=
  readWebHost_eq_ok (by decide) decode?_site (by decide +kernel) rfl (by decide +kernel)

theorem dropAuthority_site (rest : List Char) :
    dropAuthority .web ("www.figma.com/".toList ++ rest) = .ok ('/' :: rest) := by
  have huser : splitUser .web ("www.figma.com/".toList ++ rest) =
      (none, "www.figma.com/".toList ++ rest) := rfl
  have hhost : spanHost .web false ("www.figma.com/".toList ++ rest) =
      ("www.figma.com".toList, '/' :: rest) := rfl
  rw [dropAuthority, huser]
  simp only [hhost, readWebHost_site]
  rfl

theorem parseBehindScheme_site (rest : List Char) :
    parseBehindScheme (.ofScheme "https".toList) ("//www.figma.com/".toList ++ rest) =
      .ok (addressOf .web rest) := by
  have hfamily : Family.ofScheme "https".toList = .web := rfl
  have hslashes : ("//www.figma.com/".toList ++ rest).dropWhile Family.web.separates =
      "www.figma.com/".toList ++ rest := rfl
  rw [hfamily, parseBehindScheme, hslashes, dropAuthority_site]
  rfl

structure IsPair (pair : List Char × List Char) : Prop where
  name : ∀ c ∈ pair.1, isKeyChar c = true
  value : ∀ c ∈ pair.2, IsGraphic c ∧ c ≠ '&' ∧ c ≠ '#'

section Pairs

variable {pair : List Char × List Char} {c : Char}

theorem value_of_isKeyChar (h : isKeyChar c = true) : IsGraphic c ∧ c ≠ '&' ∧ c ≠ '#' :=
  ⟨isGraphic_of_isKeyChar h, ne_of_isKeyChar h (by decide), ne_of_isKeyChar h (by decide)⟩

theorem IsWordPair.isPair (h : IsWordPair pair) : IsPair pair where
  name c hc := isKeyChar_of_isWordChar (h.name c hc)
  value c hc := value_of_isKeyChar (isKeyChar_of_isWordChar (h.value c hc))

theorem isKeyChar_of_mem_nodeId : ∀ c ∈ "node-id".toList, isKeyChar c = true :=
  List.all_eq_true.1 rfl

theorem IsNodePair.isPair (h : IsNodePair pair) : IsPair pair where
  name c hc := isKeyChar_of_mem_nodeId c (h.name ▸ hc)
  value := h.value

theorem WritesId.isPair {id text : List Char} (h : WritesId id text) :
    IsPair ("node-id".toList, text) where
  name := isKeyChar_of_mem_nodeId
  value c hc := by
    rcases h.chars c hc with hkey | rfl
    · exact value_of_isKeyChar hkey
    · decide

theorem IsPair.writePair (h : IsPair pair) :
    ∀ c ∈ writePair pair, IsGraphic c ∧ c ≠ '&' ∧ c ≠ '#' := by
  intro c hc
  rcases List.mem_append.1 hc with hc | hc
  · exact value_of_isKeyChar (h.name c hc)
  · rcases List.mem_cons.1 hc with rfl | hc
    · decide
    · exact h.value c hc

theorem IsPair.decodePart_name (h : IsPair pair) : decodePart pair.1 = pair.1 := by
  refine decodePart_eq_self fun c hc => ?_
  have hkey := h.name c hc
  exact ⟨(isGraphic_of_isKeyChar hkey).toNat_lt,
    ne_of_isKeyChar hkey (by decide), ne_of_isKeyChar hkey (by decide)⟩

end Pairs

namespace DesignUrl

variable (u : DesignUrl)

theorem isPair_of_mem : ∀ pair ∈ u.pairs, IsPair pair := by
  intro pair hpair
  rcases List.mem_append.1 hpair with hpair | hpair
  · exact (u.before_words pair hpair).isPair
  · rcases List.mem_cons.1 hpair with rfl | hpair
    · exact u.written_id.isPair
    · exact (u.after_words pair hpair).elim (·.isPair) (·.isPair)

theorem isKeyChar_of_mem : ∀ s ∈ u.segments, ∀ c ∈ s, isKeyChar c = true := by
  have hmarkers : ∀ marker ∈ Locator.markers, marker.all isKeyChar = true := by decide
  intro s hs
  simp only [segments, List.mem_cons, Option.mem_toList] at hs
  rcases hs with rfl | rfl | hs
  · exact List.all_eq_true.1 (hmarkers _ u.marker_mem)
  · exact u.key_chars
  · exact u.title_chars s hs

theorem path_chars : ∀ c ∈ u.path, IsGraphic c ∧ endsPath c = false := by
  intro c hc
  rcases Text.mem_joinWith hc with rfl | ⟨s, hs, hc⟩
  · exact ⟨by decide, rfl⟩
  · have hkey := u.isKeyChar_of_mem s hs c hc
    refine ⟨isGraphic_of_isKeyChar hkey, ?_⟩
    simp [endsPath, ne_of_isKeyChar hkey (show isKeyChar '?' = false by decide),
      ne_of_isKeyChar hkey (show isKeyChar '#' = false by decide)]

theorem query_chars : ∀ c ∈ u.query, IsGraphic c ∧ c ≠ '#' := by
  intro c hc
  rcases Text.mem_joinWith hc with rfl | ⟨part, hpart, hc⟩
  · exact ⟨by decide, by decide⟩
  · obtain ⟨pair, hpair, rfl⟩ := List.mem_map.1 hpart
    obtain ⟨hgraphic, -, hsharp⟩ := (u.isPair_of_mem pair hpair).writePair c hc
    exact ⟨hgraphic, hsharp⟩

theorem ending_chars : ∀ c ∈ u.ending, IsGraphic c := by
  intro c hc
  have hfragment := u.fragment_chars
  unfold ending at hc
  cases hf : u.fragment with
  | none =>
    rw [hf] at hc
    cases hc
  | some cs =>
    rw [hf] at hc
    rcases List.mem_cons.1 hc with rfl | hc
    · decide
    · exact isGraphic_of_isFragmentChar (hfragment cs hf c hc)

theorem text_chars : ∀ c ∈ u.text, IsGraphic c := by
  have hall : "https://www.figma.com/".toList.all (IsGraphic ·) = true := rfl
  have hsite : ∀ c ∈ "https://www.figma.com/".toList, IsGraphic c := fun c hc =>
    of_decide_eq_true (List.all_eq_true.1 hall c hc)
  refine List.forall_mem_append.2 ⟨hsite, List.forall_mem_append.2
    ⟨fun c hc => (u.path_chars c hc).1, List.forall_mem_cons.2 ⟨by decide,
      List.forall_mem_append.2 ⟨fun c hc => (u.query_chars c hc).1, u.ending_chars⟩⟩⟩⟩

theorem segments_ne_nil : u.segments ≠ [] := List.cons_ne_nil _ _

theorem pathOf_path : pathOf false Family.web.separates u.path = u.segments := by
  refine pathOf_joinWith rfl u.segments_ne_nil
    (fun s hs => settled_of_isKeyChar (u.isKeyChar_of_mem s hs)) fun s hs c hc => ?_
  have hkey := u.isKeyChar_of_mem s hs c hc
  simp [Family.separates, ne_of_isKeyChar hkey (show isKeyChar '/' = false by decide),
    ne_of_isKeyChar hkey (show isKeyChar '\\' = false by decide)]

theorem takeWhile_ending : u.ending.takeWhile (· ≠ '#') = [] := by
  unfold ending
  cases u.fragment <;> rfl

theorem addressOf_rest :
    addressOf .web (u.path ++ '?' :: (u.query ++ u.ending)) = ⟨u.segments, u.query⟩ := by
  have hpath : ∀ c ∈ u.path, (!endsPath c) = true := fun c hc => by rw [(u.path_chars c hc).2]; rfl
  have hquery : ∀ c ∈ u.query, (c ≠ '#' : Bool) = true := fun c hc => by
    simpa using (u.query_chars c hc).2
  have hmark : ¬(!endsPath '?') = true := by decide
  have htake : (u.path ++ '?' :: (u.query ++ u.ending)).takeWhile (!endsPath ·) = u.path := by
    rw [List.takeWhile_append_of_pos hpath, List.takeWhile_cons, if_neg hmark, List.append_nil]
  have hdrop : (u.path ++ '?' :: (u.query ++ u.ending)).dropWhile (!endsPath ·) =
      '?' :: (u.query ++ u.ending) := by
    rw [List.dropWhile_append_of_pos hpath, List.dropWhile_cons, if_neg hmark]
  have hread : (u.query ++ u.ending).takeWhile (· ≠ '#') = u.query := by
    rw [List.takeWhile_append_of_pos hquery, takeWhile_ending, List.append_nil]
  rw [addressOf, htake, hdrop, queryOf, hread]
  exact congrArg (Address.mk · u.query) u.pathOf_path

theorem takeScheme?_text : takeScheme? u.text = some ("https".toList,
    "//www.figma.com/".toList ++ (u.path ++ '?' :: (u.query ++ u.ending))) :=
  takeScheme?_site _

theorem parse_text : parse u.text = .ok ⟨u.segments, u.query⟩ := by
  unfold parse
  rw [clean_eq_self u.text_chars, takeScheme?_text]
  simp only [parseBehindScheme_site, addressOf_rest]

theorem fileKey?_segments : Locator.fileKey? u.segments = some u.key := by
  have hmarker : u.marker.isEmpty = false := by
    have hne : ∀ marker ∈ Locator.markers, marker.isEmpty = false := by decide
    exact hne _ u.marker_mem
  have hkey : u.key.isEmpty = false := by simpa using u.key_ne_nil
  have hcontains : Locator.markers.contains u.marker = true := by simpa using u.marker_mem
  rw [Locator.fileKey?, segments, List.filter_cons_of_pos (by rw [hmarker]; rfl),
    List.filter_cons_of_pos (by rw [hkey]; rfl),
    List.dropWhile_cons_of_neg (by rw [hcontains]; simp)]
  rfl

theorem lookup_before : (u.before.map fun pair => (decodePart pair.1, decodePart pair.2)).lookup
    "node-id".toList = none := by
  rw [List.lookup_eq_none_iff]
  intro read hread
  obtain ⟨pair, hpair, rfl⟩ := List.mem_map.1 hread
  have hword := u.before_words pair hpair
  rw [hword.isPair.decodePart_name, bne_iff_ne]
  intro hname
  have hdash := hword.name '-' (hname ▸ by decide)
  cases hdash

theorem lookup_query :
    (queryPairs u.query).lookup "node-id".toList = some (decodePart u.written) := by
  have hname : ∀ pair ∈ u.pairs, '=' ∉ pair.1 := fun pair hpair hmem =>
    ne_of_isKeyChar ((u.isPair_of_mem pair hpair).name '=' hmem) (by decide) rfl
  have hand : ∀ pair ∈ u.pairs, '&' ∉ writePair pair := fun pair hpair hmem =>
    ((u.isPair_of_mem pair hpair).writePair '&' hmem).2.1 rfl
  have hne : u.pairs ≠ [] := by simp [pairs]
  rw [query, queryPairs_joinWith hne hname hand, pairs, List.map_append, List.lookup_append,
    lookup_before, Option.none_or, List.map_cons, u.written_id.isPair.decodePart_name,
    List.lookup_cons_self]

theorem nodeId?_query : Locator.nodeId? u.query = some u.id := by
  rw [Locator.nodeId?, lookup_query, Option.map_some,
    u.written_id.map_decodePart u.id_without_dash, Option.filter_some, if_pos]
  simpa using u.id_ne_nil

/-- Whatever white space stands around it, the URL of a design locates its file and its node. -/
theorem ofUrl_text {left right : List Char} (hleft : ∀ c ∈ left, Text.isBlank c = true)
    (hright : ∀ c ∈ right, Text.isBlank c = true) :
    Locator.ofUrl (String.ofList (left ++ u.text ++ right)) =
      .ok ⟨String.ofList u.key, String.ofList u.id⟩ := by
  have htrim : Text.trim (left ++ u.text ++ right) = u.text :=
    Text.dropEnds_append hleft (fun c hc => isBlank_eq_false (u.text_chars c hc)) hright
  rw [Locator.ofUrl, String.toList_ofList, htrim, parse_text]
  simp only [fileKey?_segments, nodeId?_query]

/-- A file whose key is a marker, and a second node behind the one that counts. -/
def sample : DesignUrl where
  marker := "file".toList
  key := "design".toList
  title := some "My-Design".toList
  before := [("t".toList, "a_1".toList)]
  id := "I5:é;7".toList
  written := writeId "I5:é;7".toList
  after := [("node-id".toList, "9-9".toList), ("mode".toList, [])]
  fragment := some "f=1/2".toList
  marker_mem := by decide
  key_ne_nil := by decide
  key_chars := List.all_eq_true.1 rfl
  title_chars := by
    rintro _ ⟨⟩
    exact List.all_eq_true.1 rfl
  before_words := by
    rintro _ (_ | ⟨_, ⟨⟩⟩)
    exact ⟨List.all_eq_true.1 rfl, List.all_eq_true.1 rfl⟩
  id_ne_nil := by decide
  id_without_dash := by decide
  written_id := writesId_writeId _
  after_words := by
    rintro _ (_ | ⟨_, _ | ⟨_, ⟨⟩⟩⟩)
    · have hvalue : "9-9".toList.all isKeyChar = true := rfl
      exact .inr ⟨rfl, fun c hc => value_of_isKeyChar (List.all_eq_true.1 hvalue c hc)⟩
    · exact .inl ⟨List.all_eq_true.1 rfl, List.all_eq_true.1 rfl⟩
  fragment_chars := by
    rintro _ ⟨⟩
    exact List.all_eq_true.1 rfl

theorem ofUrl_sample :
    sample.text = ("https://www.figma.com/file/design/My-Design?" ++
      "t=a_1&node-id=I5-%C3%A9%3B7&node-id=9-9&mode=#f=1/2").toList ∧
    Locator.ofUrl (String.ofList ("\u2003 ".toList ++ sample.text ++ "\n".toList)) =
      .ok ⟨"design", "I5:é;7"⟩ := by
  have hleft : ∀ c ∈ "\u2003 ".toList, Text.isBlank c = true := List.all_eq_true.1 rfl
  have hright : ∀ c ∈ "\n".toList, Text.isBlank c = true := List.all_eq_true.1 rfl
  exact ⟨by decide +kernel, ofUrl_text sample hleft hright⟩

end DesignUrl

end DesignCompiler
