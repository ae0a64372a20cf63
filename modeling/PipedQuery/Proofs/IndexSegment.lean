import Mathlib.Tactic.IntervalCases
import PipedQuery.Proofs.BaseUrl
import PipedQuery.Proofs.Words

/-!
The name of an index as one segment of a path. Percent encoding can be undone wherever the percent
sign itself is escaped (`decode_encode`), and what it writes holds no other marks than the text
had (`mem_encode`). So a name, whatever marks it has, is appended to the base path as one segment
from which its bytes can be decoded, and the path can be cut at its slashes again
(`split_pathText`), since the segments of a parsed base hold none (`parse_eq_ok`).
`indexUrl_one_segment` says this of a client's requests, and that two names never make one URL.
-/

set_option autoImplicit false
set_option relaxedAutoImplicit false

namespace PipedQuery

namespace Url.Percent

theorem hexValue_hexDigit {value : Nat} (hvalue : value < 16) :
    hexValue (hexDigit value) = some value := by
  interval_cases value <;> rfl

theorem decode_escape (byte : UInt8) (rest : List Char) :
    decode (escape byte ++ rest) = byte :: decode rest := by
  have hbyte : byte.toNat < 256 := byte.toNat_lt
  have hhigh : hexValue (hexDigit (byte.toNat / 16)) = some (byte.toNat / 16) :=
    hexValue_hexDigit (by omega)
  have hlow : hexValue (hexDigit (byte.toNat % 16)) = some (byte.toNat % 16) :=
    hexValue_hexDigit (by omega)
  have hwhole : byte.toNat / 16 * 16 + byte.toNat % 16 = byte.toNat := by omega
  simp [escape, decode, hhigh, hlow, hwhole]

theorem decode_flatMap_escape (bytes : List UInt8) (rest : List Char) :
    decode (bytes.flatMap escape ++ rest) = bytes ++ decode rest := by
  induction bytes with
  | nil => rfl
  | cons byte bytes ih =>
    rw [List.flatMap_cons, List.append_assoc, decode_escape, ih, List.cons_append]

theorem decode_cons {c : Char} (hc : c ≠ '%') (rest : List Char) :
    decode (c :: rest) = String.utf8EncodeChar c ++ decode rest := by
  rw [decode]
  exact fun _ _ _ hpercent _ ↦ hc hpercent

variable {special : Char → Bool}

theorem decode_encodeChar (hpercent : special '%' = true) (c : Char) (rest : List Char) :
    decode (encodeChar special c ++ rest) = String.utf8EncodeChar c ++ decode rest := by
  unfold encodeChar
  split_ifs with hplain
  · refine decode_cons ?_ rest
    rintro rfl
    simp [hpercent] at hplain
  · exact decode_flatMap_escape _ rest

/-- Where the percent sign is escaped, the bytes of a text are decoded again. -/
theorem decode_encode (hpercent : special '%' = true) (text : List Char) :
    decode (encode special text) = text.flatMap String.utf8EncodeChar := by
  induction text with
  | nil => rfl
  | cons c text ih =>
    rw [encode, List.flatMap_cons, decode_encodeChar hpercent, List.flatMap_cons]
    exact congrArg _ ih

/-- An encoded text has characters of the text, percent signs and digits. -/
theorem mem_encode {text : List Char} {c : Char} (hc : c ∈ encode special text) :
    c ∈ text ∧ special c = false ∨ c = '%' ∨ ∃ value < 16, c = hexDigit value := by
  obtain ⟨origin, horigin, hc⟩ := List.mem_flatMap.mp hc
  unfold encodeChar at hc
  split_ifs at hc with hplain
  · rw [List.mem_singleton] at hc
    subst hc
    exact Or.inl ⟨horigin, by simpa using hplain.2.2⟩
  · obtain ⟨byte, -, hc⟩ := List.mem_flatMap.mp hc
    have hbyte : byte.toNat < 256 := byte.toNat_lt
    simp only [escape, List.mem_cons, List.not_mem_nil, or_false] at hc
    rcases hc with hc | hc | hc
    · exact Or.inr (Or.inl hc)
    · exact Or.inr (Or.inr ⟨_, by omega, hc⟩)
    · exact Or.inr (Or.inr ⟨_, by omega, hc⟩)

theorem hexDigit_ne_slash {value : Nat} (hvalue : value < 16) : hexDigit value ≠ '/' := by
  interval_cases value <;> decide

/-- No slash comes in by encoding, and none stays where it is escaped. -/
theorem slash_not_mem_encode {text : List Char} (hslash : '/' ∉ text ∨ special '/' = true) :
    '/' ∉ encode special text := by
  intro hmem
  rcases mem_encode hmem with ⟨htext, hplain⟩ | hpercent | ⟨value, hvalue, hdigit⟩
  · rcases hslash with hfree | hspecial
    · exact hfree htext
    · exact absurd (hplain.symm.trans hspecial) Bool.false_ne_true
  · exact absurd hpercent (by decide)
  · exact hexDigit_ne_slash hvalue hdigit.symm

end Url.Percent

namespace Url

/-! ### The segments of a parsed URL -/

/-- No segment of the path holds a slash. -/
def Slashless (url : Url) : Prop :=
  ∀ segment ∈ url.segments, '/' ∉ segment.toList

/-- A drop of segments leaves some of them. -/
theorem parent_subset (segments : List String) : parent segments ⊆ segments := by
  unfold parent
  split_ifs
  · exact List.Subset.refl _
  · exact List.dropLast_subset _

/-- A resolved path has segments that were there, and empty ones. -/
theorem of_mem_resolveDots {above segments : List String} {segment : String}
    (hmem : segment ∈ resolveDots above segments) :
    segment ∈ above ∨ segment ∈ segments ∨ segment = "" := by
  fun_induction resolveDots above segments with
  | case1 above => exact Or.inl hmem
  | case2 above last hdots =>
    rcases List.mem_append.mp hmem with habove | hlast
    · exact Or.inl (parent_subset above habove)
    · exact Or.inr (Or.inr (List.mem_singleton.mp hlast))
  | case3 above last hdots hdot =>
    rcases List.mem_append.mp hmem with habove | hlast
    · exact Or.inl habove
    · exact Or.inr (Or.inr (List.mem_singleton.mp hlast))
  | case4 above last hdots hdot =>
    rcases List.mem_append.mp hmem with habove | hlast
    · exact Or.inl habove
    · exact Or.inr (Or.inl hlast)
  | case5 above first rest hrest hdots ih =>
    have hparent := @parent_subset above segment
    have hcases := ih hmem
    grind
  | case6 above first rest hrest hdots hdot ih =>
    have hcases := ih hmem
    grind
  | case7 above first rest hrest hdots hdot ih =>
    have hcases := ih hmem
    grind

theorem slash_not_mem_parsePath {special : Bool} {chars : List Char} {segment : String}
    (hmem : segment ∈ parsePath special chars) : '/' ∉ segment.toList := by
  rcases of_mem_resolveDots hmem with hnone | hmem | rfl
  · cases hnone
  · obtain ⟨raw, hraw, rfl⟩ := List.mem_map.mp hmem
    rw [escaped, String.toList_ofList]
    exact Percent.slash_not_mem_encode (Or.inl (Text.not_mem_of_mem_stretches hraw))
  · decide

variable {scheme : String} {chars : List Char} {url : Url}

/-- Every step of reading ends in a defect or goes on to the next one; at the end stands the URL. -/
theorem parseAuthority_eq_ok (hparse : parseAuthority scheme chars = .ok url) :
    url.scheme = scheme ∧ (∃ host, url.host = some host) ∧
      (url.segments = [] ∨ ∃ path, url.segments = parsePath (isSpecial scheme) path) := by
  simp only [parseAuthority, bind, Except.bind, pure, Except.pure, throw, throwThe,
    MonadExceptOf.throw] at hparse
  repeat' split at hparse
  all_goals cases hparse
  all_goals exact ⟨rfl, ⟨_, rfl⟩, by simp [Url.segments]⟩

theorem parseFile_eq_ok (hparse : parseFile chars = .ok url) : url.scheme = "file" := by
  simp only [parseFile, bind, Except.bind, pure, Except.pure] at hparse
  repeat' split at hparse
  all_goals cases hparse
  all_goals rfl

theorem parsePlain_eq_ok (hparse : parsePlain scheme chars = .ok url) : url.scheme = scheme := by
  unfold parsePlain at hparse
  split at hparse
  · exact (parseAuthority_eq_ok hparse).1
  · obtain rfl := Except.ok.inj hparse
    rfl

theorem isSpecial_of_web (hscheme : scheme = "http" ∨ scheme = "https") :
    isSpecial scheme = true := by
  rcases hscheme with rfl | rfl <;> rfl

/-- A URL of the web has a host and a path that was cut at its slashes. -/
theorem parse_eq_ok {source : String} (hparse : parse source = .ok url)
    (hscheme : url.scheme = "http" ∨ url.scheme = "https") :
    (∃ host, url.host = some host) ∧ url.Slashless := by
  unfold parse at hparse
  dsimp only at hparse
  split at hparse
  next => cases hparse
  next scheme rest _ =>
    split_ifs at hparse with hfile hspecial
    · rw [parseFile_eq_ok hparse] at hscheme
      simp at hscheme
    · obtain ⟨-, hhost, hnone | ⟨path, hpath⟩⟩ := parseAuthority_eq_ok hparse
      · exact ⟨hhost, by simp [Slashless, hnone]⟩
      · exact ⟨hhost, fun segment hsegment ↦ slash_not_mem_parsePath (hpath ▸ hsegment)⟩
    -- Of the schemes that are not special none is one of the web.
    · rw [← parsePlain_eq_ok hparse] at hspecial
      exact absurd (isSpecial_of_web hscheme) hspecial

/-! ### Text form -/

theorem intercalate_nil_cons (mark : Char) (pieces : List (List Char)) :
    List.intercalate [mark] ([] :: pieces) = pieces.flatMap (mark :: ·) := by
  induction pieces with
  | nil => rfl
  | cons piece pieces ih =>
    have hpiece : List.intercalate [mark] (piece :: pieces) =
        piece ++ List.intercalate [mark] ([] :: pieces) := by
      cases pieces with
      | nil => simp
      | cons next others => simp [List.intercalate_cons_cons]
    rw [List.intercalate_cons_cons, hpiece, ih]
    simp

/-- A path is cut at its slashes into its segments, behind nothing. -/
theorem split_pathText {segments : List String}
    (hslashless : ∀ segment ∈ segments, '/' ∉ segment.toList) :
    Text.split '/' (pathText (.segments segments)) = "" :: segments := by
  have htext : (pathText (.segments segments)).toList =
      List.intercalate ['/'] ([] :: segments.map String.toList) := by
    rw [intercalate_nil_cons]
    simp [pathText, String.toList_join, List.flatMap_map]
  have hpieces : ∀ piece ∈ [] :: segments.map String.toList, '/' ∉ piece := by
    simpa using hslashless
  rw [Text.split, htext, Text.stretches_eq_splitOn,
    List.splitOn_intercalate '/' hpieces (List.cons_ne_nil _ _)]
  simp [Function.comp_def]

/-- Where there is a host, the path can be told from the text. -/
theorem pathText_of_text {host : Host} (hhost : url.host = some host) {path other : Path}
    (htext : ({ url with path } : Url).text = ({ url with path := other } : Url).text) :
    pathText path = pathText other := by
  have hauthority : ∀ path, ({ url with path } : Url).authority = url.authority := by
    intro path
    simp only [authority, hhost]
    rfl
  simp only [text, hauthority, ← String.toList_inj, String.toList_append,
    List.append_cancel_left_eq, List.append_cancel_right_eq] at htext
  exact String.toList_inj.mp htext

theorem trunk_subset (url : Url) : url.trunk ⊆ url.segments := by
  unfold trunk
  split_ifs
  · exact List.dropLast_subset _
  · exact List.Subset.refl _

/-! ### Names -/

/-- A text that is appended as one segment: it is not empty, it does not lead anywhere, and all of
its characters count. -/
@[mk_iff]
structure Proper (name : String) : Prop where
  ne_empty : name ≠ ""
  ne_dot : name ≠ "."
  ne_dots : name ≠ ".."
  counts : name.toList.any isIgnored = false

instance (name : String) : Decidable (Proper name) :=
  decidable_of_iff _ (proper_iff name).symm

variable {name : String}

theorem Proper.cleaned (hname : Proper name) : cleaned name.toList = name.toList := by
  refine List.filter_eq_self.mpr fun c hc ↦ ?_
  simp [List.any_eq_false.mp hname.counts c hc]

theorem Proper.append (hname : Proper name) (scheme : String) (segments : List String) :
    append scheme segments name = opened segments ++ [segment scheme name.toList] := by
  have hdot : name.toList ≠ ['.'] := fun h ↦ hname.ne_dot (String.toList_inj.mp h)
  have hdots : name.toList ≠ ['.', '.'] := fun h ↦ hname.ne_dots (String.toList_inj.mp h)
  simp [Url.append, hname.ne_dot, hname.ne_dots, hname.cleaned, hdot, hdots, opened]

/-- The bytes of a text are decoded from its segment. -/
theorem decode_segment (scheme text : String) :
    (Percent.decode (segment scheme text.toList).toList).toByteArray = text.toUTF8 := by
  have hpercent : (if isSpecial scheme then Percent.inSegment else Percent.inPlainSegment) '%' =
      true := by
    split_ifs <;> rfl
  rw [segment, String.toList_ofList, Percent.decode_encode hpercent, String.toUTF8_eq_toByteArray,
    ← String.utf8Encode_toList, List.utf8Encode]

theorem segment_injective (scheme : String) {text other : String}
    (hsame : segment scheme text.toList = segment scheme other.toList) : text = other := by
  have hbytes := decode_segment scheme text
  rw [hsame, decode_segment] at hbytes
  exact (String.toByteArray_inj.mp hbytes).symm

theorem Proper.segment_ne_empty (hname : Proper name) (scheme : String) :
    segment scheme name.toList ≠ "" :=
  fun hempty ↦ hname.ne_empty (segment_injective scheme hempty)

theorem slash_not_mem_segment (scheme : String) (text : List Char) :
    '/' ∉ (segment scheme text).toList := by
  rw [segment, String.toList_ofList]
  refine Percent.slash_not_mem_encode (Or.inr ?_)
  split_ifs <;> rfl

end Url

namespace Client

variable {connection : Connection} {client : Client} {index endpoint : String}

theorem segments_indexUrl (hpath : "" ∉ client.url.trunk) (hindex : Url.Proper index)
    (hendpoint : endpoint ∈ ["_mapping", "_search"]) :
    (client.indexUrl index endpoint).segments =
      client.url.trunk ++ [Url.segment client.url.scheme index.toList, endpoint] := by
  have hnamed : "" ∉ client.url.trunk ++ [Url.segment client.url.scheme index.toList] := by
    simp [hpath, Ne.symm (hindex.segment_ne_empty client.url.scheme)]
  rw [indexUrl, Url.segments_child, List.foldl_cons, List.foldl_cons, List.foldl_nil,
    Url.append_endpoint hendpoint, hindex.append, Url.opened_dropEmptyLast hpath,
    Url.opened_eq_self hnamed, List.append_assoc, List.singleton_append]

theorem slashless_indexUrl (hslashless : client.url.Slashless) (hpath : "" ∉ client.url.trunk)
    (hindex : Url.Proper index) (hendpoint : endpoint ∈ ["_mapping", "_search"]) :
    (client.indexUrl index endpoint).Slashless := by
  intro segment hsegment
  rw [segments_indexUrl hpath hindex hendpoint] at hsegment
  simp only [List.mem_append, List.mem_cons, List.not_mem_nil, or_false] at hsegment hendpoint
  rcases hsegment with hbase | rfl | rfl
  · exact hslashless segment (client.url.trunk_subset hbase)
  · exact Url.slash_not_mem_segment _ _
  · rcases hendpoint with rfl | rfl <;> decide

theorem split_indexUrl (hslashless : client.url.Slashless) (hpath : "" ∉ client.url.trunk)
    (hindex : Url.Proper index) (hendpoint : endpoint ∈ ["_mapping", "_search"]) :
    Text.split '/' (Url.pathText (client.indexUrl index endpoint).path) =
      "" :: (client.url.trunk ++ [Url.segment client.url.scheme index.toList, endpoint]) := by
  rw [← segments_indexUrl hpath hindex hendpoint]
  exact Url.split_pathText (slashless_indexUrl hslashless hpath hindex hendpoint)

/-- The URL of an endpoint of an index, for a base of the web whose path has no empty segment but
for a last one. Its path is that of the base with two segments more, also where it is read back
from the text. The first of them holds the bytes of the name, and the second is the endpoint. So
two names never make one URL, whatever marks they have. -/
theorem indexUrl_one_segment (hclient : connect connection = .ok client)
    (hscheme : client.url.scheme = "http" ∨ client.url.scheme = "https")
    (hpath : "" ∉ client.url.trunk) (hindex : Url.Proper index)
    (hendpoint : endpoint ∈ ["_mapping", "_search"]) :
    ∃ segment,
      (client.indexUrl index endpoint).segments = client.url.trunk ++ [segment, endpoint] ∧
      Text.split '/' (Url.pathText (client.indexUrl index endpoint).path) =
        "" :: (client.url.trunk ++ [segment, endpoint]) ∧
      (Url.Percent.decode segment.toList).toByteArray = index.toUTF8 ∧
      ∀ other ending, Url.Proper other → ending ∈ ["_mapping", "_search"] →
        (client.indexUrl other ending).text = (client.indexUrl index endpoint).text →
        other = index ∧ ending = endpoint := by
  obtain ⟨⟨host, hhost⟩, hslashless⟩ := Url.parse_eq_ok (connect_eq_ok hclient).1 hscheme
  have hsplit := split_indexUrl hslashless hpath hindex hendpoint
  refine ⟨_, segments_indexUrl hpath hindex hendpoint, hsplit, Url.decode_segment _ index, ?_⟩
  intro other ending hother hending htext
  -- The two URLs differ in their paths alone, and of those only in the last two segments.
  have hpathText : Url.pathText (client.indexUrl other ending).path =
      Url.pathText (client.indexUrl index endpoint).path := Url.pathText_of_text hhost htext
  have hsame := split_indexUrl hslashless hpath hother hending
  rw [hpathText, hsplit] at hsame
  simp only [List.cons.injEq, true_and, List.append_cancel_left_eq, and_true] at hsame
  exact ⟨(Url.segment_injective _ hsame.1).symm, hsame.2.symm⟩

/-- A name with the marks that end a segment and a path, and another one that is written as the
first would be if the percent sign were not escaped. -/
theorem indexUrl_one_segment_marked :
    connect proxied = .ok proxiedClient ∧
      (proxiedClient.url.scheme = "http" ∨ proxiedClient.url.scheme = "https") ∧
      "" ∉ proxiedClient.url.trunk ∧ Url.Proper "a/ü?#" ∧ Url.Proper "a%2Fü?#" ∧
      "_mapping" ∈ ["_mapping", "_search"] ∧
      Text.split '/' (Url.pathText (proxiedClient.indexUrl "a/ü?#" "_mapping").path) =
        ["", "es", "a%2F%C3%BC%3F%23", "_mapping"] ∧
      (proxiedClient.indexUrl "a%2Fü?#" "_mapping").text ≠
        (proxiedClient.indexUrl "a/ü?#" "_mapping").text := by
  have hclient : connect proxied = .ok proxiedClient := by decide +kernel
  have hscheme : proxiedClient.url.scheme = "http" ∨ proxiedClient.url.scheme = "https" :=
    Or.inl rfl
  have hpath : "" ∉ proxiedClient.url.trunk := by decide
  have hindex : Url.Proper "a/ü?#" := by decide
  have hother : Url.Proper "a%2Fü?#" := by decide
  have hendpoint : "_mapping" ∈ ["_mapping", "_search"] := by decide
  obtain ⟨segment, hsegments, hsplit, -, hnames⟩ :=
    indexUrl_one_segment hclient hscheme hpath hindex hendpoint
  refine ⟨hclient, hscheme, hpath, hindex, hother, hendpoint, ?_, fun htext ↦ ?_⟩
  · rw [hsplit, ← hsegments]
    decide
  · exact absurd (hnames _ _ hother hendpoint htext).1 (by decide)

end Client
end PipedQuery
