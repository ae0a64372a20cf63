import Mathlib.Algebra.GroupWithZero.Nat
import PipedQuery.Proofs.Words

/-!
The words of a query where they stand in it. Cutting a query into words undoes the joining of
words by single spaces, in both directions, and the head and the last word make up the query
(`Divides`). The places of the cuts are counted in bytes: the head ends as many bytes before the
end of the query as the last word has, and every word begins behind the words before it and one
byte for each space between. All of these places lie between two characters, and a cut at the
bytes of spaces finds the same words (`InPlace`), because such a byte is no part of any other
character (`space_mem_utf8EncodeChar`).
-/

set_option autoImplicit false
set_option relaxedAutoImplicit false

namespace PipedQuery

namespace Text

/-- What stands in a text from one byte up to another. There is no such passage if one of the two
places lies inside a character or behind the end, or if they are in the wrong order. -/
def passage (text : String) (first last : Nat) : Option String :=
  if h : (⟨first⟩ : String.Pos.Raw).IsValid text ∧ (⟨last⟩ : String.Pos.Raw).IsValid text ∧
      first ≤ last then
    some (text.slice ⟨⟨first⟩, h.1⟩ ⟨⟨last⟩, h.2.1⟩ h.2.2).copy
  else none

theorem passage_append (lead piece rest : String) :
    passage (lead ++ piece ++ rest) lead.utf8ByteSize (lead.utf8ByteSize + piece.utf8ByteSize) =
      some piece := by
  have hfirst : (⟨lead.utf8ByteSize⟩ : String.Pos.Raw).IsValid (lead ++ piece ++ rest) :=
    String.Pos.Raw.isValid_iff_exists_append.mpr ⟨lead, piece ++ rest, String.append_assoc, rfl⟩
  have hend : (⟨lead.utf8ByteSize + piece.utf8ByteSize⟩ : String.Pos.Raw) =
      (lead ++ piece).rawEndPos := by
    rw [String.Pos.Raw.ext_iff, String.byteIdx_rawEndPos, String.utf8ByteSize_append]
  have hlast : (⟨lead.utf8ByteSize + piece.utf8ByteSize⟩ : String.Pos.Raw).IsValid
      (lead ++ piece ++ rest) :=
    String.Pos.Raw.isValid_iff_exists_append.mpr ⟨lead ++ piece, rest, rfl, hend⟩
  have hsplits : String.Pos.Splits (s := lead ++ piece ++ rest) ⟨_, hfirst⟩ lead (piece ++ rest) ∧
      String.Pos.Splits (s := lead ++ piece ++ rest) ⟨_, hlast⟩ (lead ++ piece) rest :=
    ⟨⟨String.append_assoc, rfl⟩, ⟨rfl, hend⟩⟩
  obtain ⟨_, hpiece⟩ := String.copy_slice_eq_iff_splits.mpr ⟨lead, rest, hsplits⟩
  rw [passage, dif_pos ⟨hfirst, hlast, Nat.le_add_right _ _⟩, hpiece]

/-- A text is found again at its beginning. -/
theorem passage_zero (piece rest : String) :
    passage (piece ++ rest) 0 piece.utf8ByteSize = some piece := by
  simpa using passage_append "" piece rest

/-- The ï takes the third and the fourth byte. -/
example : passage "naïve" 0 3 = none ∧ passage "naïve" 0 4 = some "naï" := by decide

/-- The bytes in which a text is written. -/
def bytes (text : String) : List UInt8 :=
  text.toUTF8.data.toList

theorem bytes_eq_flatMap (text : String) :
    bytes text = text.toList.flatMap String.utf8EncodeChar := by
  simp [bytes, String.toUTF8_eq_toByteArray, ← String.utf8Encode_toList, List.utf8Encode]

theorem bytes_append (text other : String) :
    bytes (text ++ other) = bytes text ++ bytes other := by
  simp [bytes_eq_flatMap]

/-- The byte of a space stands for a space and for no part of another character. -/
theorem space_mem_utf8EncodeChar {c : Char} :
    (32 : UInt8) ∈ String.utf8EncodeChar c ↔ c = ' ' := by
  have hspace : c = ' ' ↔ c.val.toNat = 32 := by
    rw [← Char.toNat_inj]
    rfl
  have hbyte (n : Nat) : (32 : UInt8) = UInt8.ofNat n ↔ n % 256 = 32 := by
    rw [← UInt8.toNat_inj, UInt8.toNat_ofNat', eq_comm]
    rfl
  rw [hspace]
  -- Where a character has several bytes, all of them are from 128 on.
  fun_cases String.utf8EncodeChar c <;>
    simp only [List.mem_cons, List.not_mem_nil, or_false, hbyte] <;> omega

theorem space_mem_bytes {text : String} : (32 : UInt8) ∈ bytes text ↔ ' ' ∈ text.toList := by
  simp [bytes_eq_flatMap, space_mem_utf8EncodeChar]

theorem bytes_intercalate (list : List String) :
    bytes (" ".intercalate list) = [32].intercalate (list.map bytes) := by
  have hspace : bytes " " = [32] := by decide
  induction list with
  | nil => rfl
  | cons word list ih =>
    cases list with
    | nil => simp
    | cons next rest =>
      rw [String.intercalate_cons_cons, bytes_append, bytes_append, ih, hspace]
      simp

end Text

namespace Tokens

variable (tokens : Tokens)

/-- The byte of a query at which its word `n` begins: behind the words before it and the space
after each of them. -/
def start (n : Nat) : Nat :=
  ((tokens.words.take n).map fun word ↦ word.utf8ByteSize + 1).sum

/-- What the words of a query are to its text. -/
structure Divides (query : String) (tokens : Tokens) : Prop where
  counted : tokens.words.length = tokens.size
  nonempty : 0 < tokens.size
  spaceless : ∀ word ∈ tokens.words, ' ' ∉ word.toList
  joined : " ".intercalate tokens.words = query
  ends : tokens.words.getLast? = some tokens.stem
  whole : tokens.head ++ tokens.stem = query
  /-- The words counted from the cursor are the words counted from the beginning. -/
  backwards : ∀ n, tokens.back n =
    if n < tokens.size then tokens.get (tokens.size - 1 - n) else none
  several : 2 ≤ tokens.size → tokens.head = tokens.gluedHead ++ " "
  single : tokens.size = 1 → tokens.head = "" ∧ tokens.gluedHead = ""

/-- The heads and the words of a query are passages of it, so that no cut falls inside a
character. -/
structure InPlace (query : String) (tokens : Tokens) : Prop where
  head : Text.passage query 0 (query.utf8ByteSize - tokens.stem.utf8ByteSize) = some tokens.head
  gluedHead : Text.passage query 0 (query.utf8ByteSize - tokens.stem.utf8ByteSize - 1) =
    some tokens.gluedHead
  word : ∀ n word, tokens.get n = some word →
    Text.passage query (tokens.start n) (tokens.start n + word.utf8ByteSize) = some word
  /-- A cut at every byte of a space comes to the same words. -/
  bytes : (Text.bytes query).splitOn 32 = tokens.words.map Text.bytes

/-! ### Cutting and joining -/

theorem intercalate_words : " ".intercalate tokens.words = tokens.query := by
  rw [← String.toList_inj, toList_query, String.toList_intercalate]
  rfl

theorem words_ofQuery_intercalate {list : List String} (hsome : list ≠ [])
    (hspaceless : ∀ word ∈ list, ' ' ∉ word.toList) :
    (ofQuery (" ".intercalate list)).words = list := by
  obtain ⟨completed, stem, rfl⟩ := (List.eq_nil_or_concat' list).resolve_left hsome
  have hquery : " ".intercalate (completed ++ [stem]) = (⟨completed, stem⟩ : Tokens).query :=
    intercalate_words ⟨completed, stem⟩
  have htokens : (⟨completed, stem⟩ : Tokens).Spaceless := hspaceless
  rw [hquery, ofQuery_query htokens, words]

theorem length_words : tokens.words.length = tokens.size := by
  simp [words, size]

theorem back_eq (n : Nat) :
    tokens.back n = if n < tokens.size then tokens.get (tokens.size - 1 - n) else none := by
  rw [back, get, ← length_words]
  split_ifs with hn
  · exact List.getElem?_reverse hn
  · exact List.getElem?_eq_none (by simpa using hn)

theorem head_of_several (hseveral : 2 ≤ tokens.size) : tokens.head = tokens.gluedHead ++ " " := by
  obtain ⟨completed, stem⟩ := tokens
  rcases List.eq_nil_or_concat' completed with rfl | ⟨done, word, rfl⟩
  · simp [size] at hseveral
  · exact head_concat done word stem

theorem heads_of_single (hsingle : tokens.size = 1) :
    tokens.head = "" ∧ tokens.gluedHead = "" := by
  obtain ⟨completed, stem⟩ := tokens
  have hnone : completed = [] := by simpa [size] using hsingle
  subst hnone
  exact ⟨rfl, rfl⟩

theorem divides_ofQuery (query : String) : (ofQuery query).Divides query where
  counted := length_words _
  nonempty := Nat.succ_pos _
  spaceless := spaceless_ofQuery query
  joined := (intercalate_words _).trans (query_ofQuery query)
  ends := List.getLast?_concat
  whole := query_ofQuery query
  backwards := back_eq _
  several := head_of_several _
  single := heads_of_single _

/-! ### The places of the cuts -/

theorem utf8ByteSize_head :
    tokens.head.utf8ByteSize = (tokens.completed.map fun word ↦ word.utf8ByteSize + 1).sum := by
  obtain ⟨completed, stem⟩ := tokens
  simp only [head]
  induction completed with
  | nil => rfl
  | cons word completed ih =>
    rw [List.map_cons, String.join_cons, String.utf8ByteSize_append, ih, List.map_cons,
      List.sum_cons, String.utf8ByteSize_append]
    rfl

/-- The words up to one of them make the beginning of the query. -/
theorem exists_query_eq_append {before rest : List String} {word : String}
    (hwords : tokens.words = before ++ word :: rest) :
    ∃ tail, tokens.query = (⟨before, word⟩ : Tokens).head ++ word ++ tail := by
  have hlead : " ".intercalate (before ++ [word]) = (⟨before, word⟩ : Tokens).query :=
    intercalate_words ⟨before, word⟩
  rw [← intercalate_words, hwords, List.append_cons]
  by_cases hrest : rest = []
  · exact ⟨"", by rw [hrest, List.append_nil, hlead, String.append_empty, query]⟩
  · refine ⟨" " ++ " ".intercalate rest, ?_⟩
    rw [String.intercalate_append_of_ne_nil (by simp) hrest, hlead, query, String.append_assoc]

theorem passage_word {n : Nat} {word : String} (hget : tokens.get n = some word) :
    Text.passage tokens.query (tokens.start n) (tokens.start n + word.utf8ByteSize) =
      some word := by
  obtain ⟨hn, hword⟩ := List.getElem?_eq_some_iff.mp hget
  have hwords : tokens.words = tokens.words.take n ++ word :: tokens.words.drop (n + 1) := by
    rw [← hword, List.getElem_cons_drop hn, List.take_append_drop]
  obtain ⟨tail, hquery⟩ := tokens.exists_query_eq_append hwords
  have hstart : tokens.start n = (⟨tokens.words.take n, word⟩ : Tokens).head.utf8ByteSize :=
    (utf8ByteSize_head ⟨tokens.words.take n, word⟩).symm
  rw [hquery, hstart]
  exact Text.passage_append _ word tail

theorem passage_head :
    Text.passage tokens.query 0 (tokens.query.utf8ByteSize - tokens.stem.utf8ByteSize) =
      some tokens.head := by
  have hsize : tokens.query.utf8ByteSize - tokens.stem.utf8ByteSize =
      tokens.head.utf8ByteSize := by
    rw [query, String.utf8ByteSize_append, Nat.add_sub_cancel]
  rw [hsize]
  exact Text.passage_zero tokens.head tokens.stem

theorem passage_gluedHead :
    Text.passage tokens.query 0 (tokens.query.utf8ByteSize - tokens.stem.utf8ByteSize - 1) =
      some tokens.gluedHead := by
  obtain ⟨completed, stem⟩ := tokens
  rcases List.eq_nil_or_concat' completed with rfl | ⟨done, word, rfl⟩
  · simpa [query, head, gluedHead] using Text.passage_zero "" stem
  · have hquery := query_concat done word stem
    have hsize : (⟨done ++ [word], stem⟩ : Tokens).query.utf8ByteSize - stem.utf8ByteSize - 1 =
        (⟨done ++ [word], stem⟩ : Tokens).gluedHead.utf8ByteSize := by
      rw [hquery, String.utf8ByteSize_append, String.utf8ByteSize_append, Nat.add_sub_cancel]
      exact Nat.add_sub_cancel _ 1
    rw [hsize, hquery, String.append_assoc]
    exact Text.passage_zero _ (" " ++ stem)

theorem splitOn_bytes_query (hspaceless : tokens.Spaceless) :
    (Text.bytes tokens.query).splitOn 32 = tokens.words.map Text.bytes := by
  rw [← intercalate_words, Text.bytes_intercalate, List.splitOn_intercalate]
  · simpa [Text.space_mem_bytes, Spaceless] using hspaceless
  · simp [words]

theorem inPlace_ofQuery (query : String) : (ofQuery query).InPlace query := by
  have hquery := query_ofQuery query
  constructor
  · simpa only [hquery] using passage_head (ofQuery query)
  · simpa only [hquery] using passage_gluedHead (ofQuery query)
  · intro n word hget
    simpa only [hquery] using passage_word (ofQuery query) hget
  · simpa only [hquery] using splitOn_bytes_query (ofQuery query) (spaceless_ofQuery query)

/-- Cutting a query at its spaces undoes joining words by single spaces, and is undone by it. Every
word and both heads are found in the query between two of its characters. -/
theorem cutting_inverts_joining :
    (∀ query : String, (ofQuery query).Divides query ∧ (ofQuery query).InPlace query) ∧
      ∀ list : List String, list ≠ [] → (∀ word ∈ list, ' ' ∉ word.toList) →
        (ofQuery (" ".intercalate list)).words = list :=
  ⟨fun query ↦ ⟨divides_ofQuery query, inPlace_ofQuery query⟩,
    fun _ hsome hspaceless ↦ words_ofQuery_intercalate hsome hspaceless⟩

/-- Spaces at the beginning, in a row and at the end, between words of several bytes. -/
theorem cutting_inverts_joining_motley :
    " ".intercalate ["", "où", "", "日本", "𝕊", ""] = " où  日本 𝕊 " ∧
      (ofQuery " où  日本 𝕊 ").words = ["", "où", "", "日本", "𝕊", ""] :=
  ⟨by decide, cutting_inverts_joining.2 ["", "où", "", "日本", "𝕊", ""] (by decide) (by decide)⟩

end Tokens
end PipedQuery
