import Mathlib.Data.List.Infix
import PipedQuery.Tokens
import PipedQuery.Vocabulary

/-!
A query and its words. Cutting a text at a mark is the library's `List.splitOn`
(`stretches_eq_splitOn`), so words without spaces are read back from the query that they make
(`ofQuery_query`), and the words of a query are without spaces and make it again
(`query_ofQuery`). What follows a lead in a text is the rest of it (`after_eq_some_iff`). The
beginnings of a query that end in a space are the queries of its first words
(`cons_spacedBeginnings`). `after done word` are the tokens of a query in which `word` has just
been completed, behind the words of `done`.
-/

set_option autoImplicit false
set_option relaxedAutoImplicit false

namespace PipedQuery

namespace Text

theorem stretches_eq_splitOn (mark : Char) (text : List Char) :
    stretches mark text = text.splitOn mark := by
  induction text with
  | nil => rfl
  | cons c rest ih =>
    have hsome : rest.splitOn mark ≠ [] := List.splitOn_ne_nil mark rest
    rw [List.splitOn_cons_eq_if_modifyHead, stretches, ih]
    by_cases hmark : c = mark
    · simp [hmark]
    · cases hrest : rest.splitOn mark with
      | nil => exact absurd hrest hsome
      | cons first others => simp [hmark]

theorem not_mem_of_mem_stretches {mark : Char} {text piece : List Char}
    (hpiece : piece ∈ stretches mark text) : mark ∉ piece := by
  induction text generalizing piece with
  | nil => simp [List.mem_singleton.mp hpiece]
  | cons c rest ih =>
    rw [stretches] at hpiece
    split_ifs at hpiece with hmark
    · rcases List.mem_cons.mp hpiece with rfl | hrest
      · simp
      · exact ih hrest
    · cases hstretches : stretches mark rest with
      | nil =>
        rw [hstretches] at hpiece
        simpa [List.mem_singleton.mp hpiece] using Ne.symm hmark
      | cons first others =>
        rw [hstretches] at hpiece ih
        rcases List.mem_cons.mp hpiece with rfl | hothers
        · simpa [Ne.symm hmark] using ih List.mem_cons_self
        · exact ih (List.mem_cons_of_mem _ hothers)

theorem dropLead_eq_some_iff {lead text rest : List Char} :
    dropLead lead text = some rest ↔ text = lead ++ rest := by
  fun_induction dropLead lead text with
  | case1 text => simp [eq_comm]
  | case2 c lead => simp
  | case3 lead c text ih => simp [ih]
  | case4 c lead d text hdiffers => simp [Ne.symm hdiffers]

theorem after_eq_some_iff {lead text tail : String} :
    after lead text = some tail ↔ text = lead ++ tail := by
  rw [after, Option.map_eq_some_iff]
  constructor
  · rintro ⟨rest, hrest, rfl⟩
    rw [← String.toList_inj, String.toList_append, String.toList_ofList]
    exact dropLead_eq_some_iff.mp hrest
  · rintro rfl
    exact ⟨tail.toList, dropLead_eq_some_iff.mpr String.toList_append, String.ofList_toList⟩

theorem beginsWith_iff {lead text : String} :
    beginsWith lead text = true ↔ lead.toList <+: text.toList := by
  rw [beginsWith, Option.isSome_iff_exists]
  refine exists_congr fun rest ↦ ?_
  rw [dropLead_eq_some_iff, eq_comm]

theorem mentions_eq_false_iff {mark : Char} {text : String} :
    mentions mark text = false ↔ mark ∉ text.toList := by
  simp [mentions]

theorem cutFirst_eq_none {mark : Char} {text : List Char} (hfree : mark ∉ text) :
    cutFirst mark text = none := by
  induction text with
  | nil => rfl
  | cons c rest ih =>
    obtain ⟨hfirst, hrest⟩ := not_or.mp (mt List.mem_cons.mpr hfree)
    simp [cutFirst, Ne.symm hfirst, ih hrest]

theorem eq_of_cutFirst {mark : Char} {text before after : List Char}
    (hcut : cutFirst mark text = some (before, after)) : text = before ++ mark :: after := by
  induction text generalizing before with
  | nil => cases hcut
  | cons c rest ih =>
    rw [cutFirst] at hcut
    split_ifs at hcut with hmark
    · obtain ⟨rfl, rfl⟩ := Prod.mk.inj (Option.some.inj hcut)
      rw [hmark, List.nil_append]
    · obtain ⟨⟨lead, tail⟩, hrest, hpair⟩ := Option.map_eq_some_iff.mp hcut
      obtain ⟨rfl, rfl⟩ := Prod.mk.inj hpair
      rw [ih hrest, List.cons_append]

def endsInSpace (text : List Char) : Bool :=
  text.getLast? = some ' '

/-- The beginnings of a text that end in a space, the shortest first. -/
def spacedBeginnings (text : String) : List String :=
  (text.toList.inits.filter endsInSpace).map String.ofList

theorem endsInSpace_append (lead : List Char) {text : List Char} (htext : text ≠ []) :
    endsInSpace (lead ++ text) = endsInSpace text := by
  simp only [endsInSpace, List.getLast?_append_of_ne_nil lead htext]

theorem endsInSpace_eq_false {text : List Char} (hspaceless : ' ' ∉ text) :
    endsInSpace text = false := by
  simp only [endsInSpace, decide_eq_false_iff_not]
  intro hlast
  exact hspaceless (List.mem_of_getLast? hlast)

/-- The first beginning is the first word with its space, and all others begin with it. -/
theorem filter_inits_word {word : List Char} (hword : ' ' ∉ word) (rest : List Char) :
    (word ++ ' ' :: rest).inits.filter endsInSpace =
      (word ++ [' ']) :: (rest.inits.filter endsInSpace).map ((word ++ [' ']) ++ ·) := by
  have hsplit : word ++ ' ' :: rest = (word ++ [' ']) ++ rest := by simp
  have hwithin : word.inits.filter endsInSpace = [] := by
    refine List.filter_eq_nil_iff.mpr fun lead hlead ↦ ?_
    have hspaceless : ' ' ∉ lead := fun hmem ↦
      hword (((List.mem_inits lead word).mp hlead).subset hmem)
    simp [endsInSpace_eq_false hspaceless]
  have hspace : endsInSpace (word ++ [' ']) = true := by simp [endsInSpace]
  have hfirst : (word ++ [' ']).inits.filter endsInSpace = [word ++ [' ']] := by
    simp [List.inits_append, List.filter_append, hwithin, hspace]
  have hnonempty : ∀ lead ∈ rest.inits.tail, lead ≠ [] := by
    intro lead hlead hnil
    cases rest with
    | nil => simp at hlead
    | cons c rest => simp [hnil] at hlead
  have htail : rest.inits.tail.filter endsInSpace = rest.inits.filter endsInSpace := by
    cases rest <;> simp [endsInSpace]
  rw [hsplit, List.inits_append, List.filter_append, hfirst, List.filter_map, ← htail]
  have hsame : rest.inits.tail.filter (endsInSpace ∘ fun lead ↦ (word ++ [' ']) ++ lead) =
      rest.inits.tail.filter endsInSpace := by
    refine List.filter_congr fun lead hlead ↦ ?_
    exact endsInSpace_append (word ++ [' ']) (hnonempty lead hlead)
  rw [hsame]
  rfl

end Text

namespace Vocabulary

theorem indexReference_of_not_assigned {word : String} (hfree : Text.mentions '=' word = false) :
    indexReference word = word := by
  have hcut : Text.cut '=' word = none := by
    rw [Text.cut, Text.cutFirst_eq_none (Text.mentions_eq_false_iff.mp hfree), Option.map_none]
  simp [indexReference, sourceAssignment, hcut]

theorem indexReference_assigned (index : String) :
    indexReference ("source=" ++ index) = index := by
  have hcut : Text.cut '=' ("source=" ++ index) = some ("source", index) := by
    simp [Text.cut, Text.cutFirst]
  simp [indexReference, sourceAssignment, hcut, isSourceKeyword, sourceKeywords]

/-- What a word refers to is the word or the end of it. -/
theorem mentions_indexReference {last : Char} {word : String} (hlast : last ≠ '=')
    (hends : Text.endsIn last word = true) :
    Text.mentions last (indexReference word) = true := by
  have hget : word.toList.getLast? = some last := by simpa [Text.endsIn] using hends
  have hself : Text.mentions last word = true := by
    simpa [Text.mentions] using List.mem_of_getLast? hget
  unfold indexReference sourceAssignment
  cases hcut : Text.cut '=' word with
  | none => exact hself
  | some parts =>
    obtain ⟨⟨before, after⟩, hchars, rfl⟩ := Option.map_eq_some_iff.mp hcut
    dsimp only
    split_ifs
    · rw [Text.eq_of_cutFirst hchars, List.getLast?_append_of_ne_nil _ (by simp)] at hget
      rcases List.mem_cons.mp (List.mem_of_getLast? hget) with hsame | hmem
      · exact absurd hsame hlast
      · simpa [Text.mentions] using hmem
    · exact hself

end Vocabulary

namespace Tokens

/-- No word contains a space. -/
def Spaceless (tokens : Tokens) : Prop :=
  ∀ word ∈ tokens.words, ' ' ∉ word.toList

theorem spaceless_of_completed {completed : List String}
    (hspaceless : ∀ word ∈ completed, ' ' ∉ word.toList) :
    (⟨completed, ""⟩ : Tokens).Spaceless := by
  intro word hword
  rcases List.mem_append.mp hword with hcompleted | hstem
  · exact hspaceless word hcompleted
  · simp [List.mem_singleton.mp hstem]

theorem ofWords_concat (completed : List String) (stem : String) :
    ofWords (completed ++ [stem]) = ⟨completed, stem⟩ := by
  induction completed with
  | nil => rfl
  | cons word completed ih =>
    cases completed with
    | nil => rfl
    | cons next rest =>
      rw [List.cons_append, List.cons_append, ofWords]
      · rw [← List.cons_append, ih]
      · simp

theorem words_ofWords {list : List String} (hsome : list ≠ []) : (ofWords list).words = list := by
  rcases List.eq_nil_or_concat' list with rfl | ⟨completed, stem, rfl⟩
  · exact absurd rfl hsome
  · rw [ofWords_concat, words]

theorem query_cons (word : String) (completed : List String) (stem : String) :
    (⟨word :: completed, stem⟩ : Tokens).query =
      word ++ " " ++ (⟨completed, stem⟩ : Tokens).query := by
  simp [query, head, String.append_assoc]

/-- A completion that attaches to the last word goes on right behind it. -/
theorem gluedHead_concat (done : List String) (word stem : String) :
    (⟨done ++ [word], stem⟩ : Tokens).gluedHead = (⟨done, stem⟩ : Tokens).head ++ word := by
  induction done with
  | nil => simp [gluedHead, head]
  | cons first done ih =>
    have hsome : done ++ [word] ≠ [] := by simp
    simp only [gluedHead, head, List.cons_append, List.map_cons, String.join_cons] at ih ⊢
    rw [String.intercalate_cons_of_ne_nil hsome, ih, String.append_assoc, String.append_assoc,
      String.append_assoc]

theorem head_concat (done : List String) (word stem : String) :
    (⟨done ++ [word], stem⟩ : Tokens).head =
      (⟨done ++ [word], stem⟩ : Tokens).gluedHead ++ " " := by
  rw [gluedHead_concat]
  simp [head, String.append_assoc]

theorem query_concat (done : List String) (word stem : String) :
    (⟨done ++ [word], stem⟩ : Tokens).query =
      (⟨done ++ [word], stem⟩ : Tokens).gluedHead ++ " " ++ stem := by
  rw [query, head_concat]

theorem toList_query (tokens : Tokens) :
    tokens.query.toList = [' '].intercalate (tokens.words.map String.toList) := by
  obtain ⟨completed, stem⟩ := tokens
  induction completed with
  | nil => simp [query, head, words]
  | cons word completed ih =>
    rw [query_cons, String.toList_append, ih]
    cases completed <;> simp [words]

/-- Words without spaces are read back from their query. -/
theorem ofQuery_query {tokens : Tokens} (hspaceless : tokens.Spaceless) :
    ofQuery tokens.query = tokens := by
  have hcut : Text.split ' ' tokens.query = tokens.words := by
    rw [Text.split, Text.stretches_eq_splitOn, toList_query, List.splitOn_intercalate]
    · simp
    · simpa [Spaceless] using hspaceless
    · simp [words]
  rw [ofQuery, hcut]
  exact ofWords_concat tokens.completed tokens.stem

theorem words_ofQuery (text : String) : (ofQuery text).words = Text.split ' ' text := by
  refine words_ofWords ?_
  rw [Text.split, Text.stretches_eq_splitOn]
  simp [List.splitOn_ne_nil]

theorem spaceless_ofQuery (text : String) : (ofQuery text).Spaceless := by
  intro word hword
  rw [words_ofQuery, Text.split] at hword
  obtain ⟨piece, hpiece, rfl⟩ := List.mem_map.mp hword
  rw [String.toList_ofList]
  exact Text.not_mem_of_mem_stretches hpiece

/-- Every query is made of its words. -/
theorem query_ofQuery (text : String) : (ofQuery text).query = text := by
  rw [← String.toList_inj, toList_query, words_ofQuery, Text.split, Text.stretches_eq_splitOn]
  simp [Function.comp_def, List.intercalate_splitOn]

/-- The beginnings of a query that end in a space are the queries of its first words. -/
theorem cons_spacedBeginnings {completed : List String}
    (hspaceless : ∀ word ∈ completed, ' ' ∉ word.toList) :
    "" :: Text.spacedBeginnings (⟨completed, ""⟩ : Tokens).query =
      completed.inits.map fun first ↦ (⟨first, ""⟩ : Tokens).query := by
  induction completed with
  | nil => simp [Text.spacedBeginnings, Text.endsInSpace, query, head]
  | cons word completed ih =>
    have hword : ' ' ∉ word.toList := hspaceless word List.mem_cons_self
    have hrest := ih fun other hother ↦ hspaceless other (List.mem_cons_of_mem _ hother)
    have hquery : (⟨word :: completed, ""⟩ : Tokens).query.toList =
        word.toList ++ ' ' :: (⟨completed, ""⟩ : Tokens).query.toList := by
      simp [query_cons]
    have hbeginnings : Text.spacedBeginnings (⟨word :: completed, ""⟩ : Tokens).query =
        ("" :: Text.spacedBeginnings (⟨completed, ""⟩ : Tokens).query).map
          (word ++ " " ++ ·) := by
      rw [Text.spacedBeginnings, hquery, Text.filter_inits_word hword]
      simp [Text.spacedBeginnings, Function.comp_def, String.append_assoc]
    rw [hbeginnings, hrest, List.inits_cons, List.map_cons, List.map_map, List.map_map]
    simp only [Function.comp_def, query_cons]
    rfl

/-! ### A word just completed -/

theorem back_two {tokens : Tokens} {done : List String} {word : String}
    (hcompleted : tokens.completed = done ++ [word]) : tokens.back 2 = done.getLast? := by
  simp [back, words, hcompleted, List.getLast?_eq_head?_reverse, List.head?_eq_getElem?]

/-- A query of completed words, the last of which is `word`. -/
def after (done : List String) (word : String) : Tokens :=
  ⟨done ++ [word], ""⟩

section After

variable (done : List String) (word : String)

@[simp] theorem after_stem : (after done word).stem = "" := rfl

@[simp] theorem after_previous : (after done word).previous = some word := by
  simp [after, previous]

@[simp] theorem after_back : (after done word).back 2 = done.getLast? :=
  back_two rfl

@[simp] theorem after_size : (after done word).size = done.length + 2 := by
  simp [after, size]

theorem after_get {place : Nat} {held : String}
    (hplace : (done ++ [word])[place]? = some held) :
    (after done word).get place = some held := by
  obtain ⟨hlength, _⟩ := List.getElem?_eq_some_iff.mp hplace
  simp only [get, words, after]
  rw [List.getElem?_append_left hlength, hplace]

end After

end Tokens
end PipedQuery
