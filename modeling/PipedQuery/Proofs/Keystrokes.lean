import PipedQuery.Proofs.Rereading
import PipedQuery.Proofs.Serving

/-!
A query while it is typed. A host may report every character or only some of them. As long as it
starts from the empty field and leaves out no beginning that ends in a space (`Typed`), what it left
out does not matter: between two spaces every reading leaves the session that the completed words
alone lead to (`sessionOf`, `sessionOf_keeps`), and the next space reads on from there. So the last
reading is a matter of the query (`readings_getLast?`), and with it what the user sees
(`reads_alike`).
-/

set_option autoImplicit false
set_option relaxedAutoImplicit false

namespace PipedQuery

namespace Text

theorem mem_spacedBeginnings {query text : String} :
    text ∈ spacedBeginnings query ↔
      text.toList <+: query.toList ∧ endsInSpace text.toList = true := by
  simp only [spacedBeginnings, List.mem_map, List.mem_filter, List.mem_inits]
  constructor
  · rintro ⟨lead, hlead, rfl⟩
    rwa [String.toList_ofList]
  · intro hlead
    exact ⟨text.toList, hlead, String.ofList_toList⟩

theorem pairwise_inits (text : List Char) : text.inits.Pairwise (· <+: ·) := by
  induction text with
  | nil => simp
  | cons c rest ih =>
    rw [List.inits_cons, List.pairwise_cons, List.pairwise_map]
    refine ⟨fun lead _ ↦ List.nil_prefix, ih.imp ?_⟩
    intro lead further hlead
    exact (List.prefix_cons_inj c).mpr hlead

end Text

namespace Tokens

/-- What is typed without a space goes to the word under the cursor. -/
theorem ofQuery_append (text : String) {tail : String} (htail : ' ' ∉ tail.toList) :
    ofQuery (text ++ tail) = ⟨(ofQuery text).completed, (ofQuery text).stem ++ tail⟩ := by
  have hspaceless :
      (⟨(ofQuery text).completed, (ofQuery text).stem ++ tail⟩ : Tokens).Spaceless := by
    intro word hword
    rcases List.mem_append.mp hword with hcompleted | hstem
    · exact spaceless_ofQuery text word (List.mem_append_left _ hcompleted)
    · rw [List.mem_singleton.mp hstem, String.toList_append, List.mem_append]
      exact not_or.mpr ⟨spaceless_ofQuery text _ (by simp [words]), htail⟩
  have hquery : text ++ tail =
      (⟨(ofQuery text).completed, (ofQuery text).stem ++ tail⟩ : Tokens).query := by
    nth_rewrite 1 [← query_ofQuery text]
    rw [query, query, String.append_assoc]
    rfl
  rw [hquery, ofQuery_query hspaceless]

/-- A space completes the word under the cursor. -/
theorem ofQuery_append_space (text : String) :
    ofQuery (text ++ " ") = ⟨(ofQuery text).words, ""⟩ := by
  have hquery : text ++ " " = (⟨(ofQuery text).words, ""⟩ : Tokens).query := by
    nth_rewrite 1 [← query_ofQuery text]
    simp [query, head, words, String.append_assoc]
  rw [hquery, ofQuery_query (spaceless_of_completed (spaceless_ofQuery text))]

end Tokens

/-! ### Texts on the way to a query -/

/-- The texts that a host reports while a query is typed: from the empty field on each continues the
one before it, none that ends in a space is left out, and the last is the query. -/
@[mk_iff]
structure Typed (query : String) (texts : List String) : Prop where
  begins : texts.head? = some ""
  grows : texts.Pairwise fun earlier later ↦ earlier.toList <+: later.toList
  spaced : ∀ text ∈ Text.spacedBeginnings query, text ∈ texts
  ends : texts.getLast? = some query

namespace Typed

variable {query prior : String} {texts : List String}

instance (query : String) (texts : List String) : Decidable (Typed query texts) :=
  decidable_of_iff _ (typed_iff query texts).symm

/-- A query can be typed character by character. -/
theorem of_inits (query : String) : Typed query (query.toList.inits.map String.ofList) := by
  refine ⟨?_, ?_, ?_, ?_⟩
  · cases query.toList <;> rfl
  · rw [List.pairwise_map]
    simpa using Text.pairwise_inits query.toList
  · intro text htext
    obtain ⟨hlead, -⟩ := Text.mem_spacedBeginnings.mp htext
    exact List.mem_map.mpr ⟨text.toList, (List.mem_inits _ _).mpr hlead, String.ofList_toList⟩
  · have hlast : query.toList.inits.getLast? = some query.toList := by
      rcases List.eq_nil_or_concat' query.toList with hnil | ⟨lead, last, hconcat⟩
      · rw [hnil]
        rfl
      · simp [hconcat, List.inits_append]
    rw [List.getLast?_map, hlast, Option.map_some, String.ofList_toList]

/-- The last report is the query. -/
theorem last_eq {last : String} (htyped : Typed query (texts ++ [last])) : last = query := by
  simpa using htyped.ends

/-- Up to the report before it, a text has been typed in the same way. -/
theorem init (htyped : Typed query (texts ++ [prior] ++ [query])) :
    Typed prior (texts ++ [prior]) := by
  obtain ⟨hearlier, -, hbefore⟩ := List.pairwise_append.mp htyped.grows
  have hprior : prior.toList <+: query.toList := hbefore prior (by simp) query (by simp)
  refine ⟨?_, hearlier, ?_, by simp⟩
  · have hbegins := htyped.begins
    rwa [List.head?_append_of_ne_nil _ (by simp)] at hbegins
  · intro text htext
    obtain ⟨hlead, hspace⟩ := Text.mem_spacedBeginnings.mp htext
    have hreported := htyped.spaced text
      (Text.mem_spacedBeginnings.mpr ⟨hlead.trans hprior, hspace⟩)
    rcases List.mem_append.mp hreported with hmem | hmem
    · exact hmem
    · -- The query itself is a beginning of `prior`, and so the two are the same text.
      obtain rfl := List.mem_singleton.mp hmem
      have hsame : text.toList = prior.toList := hlead.eq_of_length_le hprior.length_le
      simp [String.toList_inj.mp hsame]

/-- What is added to a report is without spaces, or it ends in the only space that it has. -/
theorem added (htyped : Typed query (texts ++ [prior] ++ [query])) :
    ∃ tail : String, ' ' ∉ tail.toList ∧
      (query = prior ++ tail ∨ query = prior ++ tail ++ " ") := by
  obtain ⟨hearlier, -, hbefore⟩ := List.pairwise_append.mp htyped.grows
  obtain ⟨rest, hrest⟩ : prior.toList <+: query.toList := hbefore prior (by simp) query (by simp)
  by_cases hspace : ' ' ∈ rest
  · obtain ⟨word, behind, rfl, hword⟩ := List.eq_append_cons_of_mem hspace
    refine ⟨String.ofList word, by simpa using hword, Or.inr ?_⟩
    have hreported : prior ++ String.ofList word ++ " " ∈ texts ++ [prior] ++ [query] := by
      refine htyped.spaced _ (Text.mem_spacedBeginnings.mpr ⟨⟨behind, ?_⟩, ?_⟩)
      · simp [← hrest]
      · simp [Text.endsInSpace]
    rcases List.mem_append.mp hreported with hmem | hmem
    · -- It is longer than `prior`, the longest of the texts before the query.
      have hlead : (prior ++ String.ofList word ++ " ").toList <+: prior.toList := by
        rcases List.mem_append.mp hmem with hfirst | hlast
        · exact (List.pairwise_append.mp hearlier).2.2 _ hfirst prior (by simp)
        · rw [List.mem_singleton.mp hlast]
      have hlength := hlead.length_le
      rw [String.toList_append, String.toList_append, List.length_append,
        List.length_append] at hlength
      have hspaced : " ".toList.length = 1 := rfl
      omega
    · exact (List.mem_singleton.mp hmem).symm
  · refine ⟨String.ofList rest, by simpa using hspace, Or.inl ?_⟩
    rw [← String.toList_inj, ← hrest]
    simp

end Typed

/-! ### Readings in a row -/

namespace Reading

variable {settings : Settings} {catalog : Catalog} {session : Session}

/-- Reads texts in order, each in the session that the one before it left. -/
def readings (settings : Settings) (catalog : Catalog) (session : Session) :
    List String → List Reading
  | [] => []
  | text :: rest =>
    let reading := ofTokens settings catalog session (Tokens.ofQuery text)
    reading :: readings settings catalog reading.session rest

/-- The session that completed words lead to, read once for every space from the empty field on. -/
def sessionOf (settings : Settings) (catalog : Catalog) (completed : List String) : Session :=
  completed.inits.foldl
    (fun session first ↦ (ofTokens settings catalog session ⟨first, ""⟩).session) {}

theorem sessionOf_concat (completed : List String) (word : String) :
    sessionOf settings catalog (completed ++ [word]) =
      (ofTokens settings catalog (sessionOf settings catalog completed)
        ⟨completed ++ [word], ""⟩).session := by
  simp [sessionOf, List.inits_append]

/-- Whatever word is typed behind them, completed words keep the session that they have led to. -/
theorem sessionOf_keeps (settings : Settings) (catalog : Catalog) (completed : List String)
    (stem : String) :
    (ofTokens settings catalog (sessionOf settings catalog completed) ⟨completed, stem⟩).session =
      sessionOf settings catalog completed := by
  have hspaced : (ofTokens settings catalog (sessionOf settings catalog completed)
      ⟨completed, ""⟩).session = sessionOf settings catalog completed := by
    rcases List.eq_nil_or_concat' completed with rfl | ⟨earlier, word, rfl⟩
    · rfl
    · rw [sessionOf_concat, ofTokens_again]
  have hcases : ofTokens settings catalog (sessionOf settings catalog completed)
        ⟨completed, stem⟩ =
      ofTokens settings catalog (sessionOf settings catalog completed) ⟨completed, ""⟩ ∨
        (ofTokens settings catalog (sessionOf settings catalog completed)
          ⟨completed, stem⟩).session = sessionOf settings catalog completed :=
    ofTokens_stem_cases rfl rfl
  rcases hcases with hsame | hkept
  · rw [hsame, hspaced]
  · exact hkept

theorem readings_concat {texts : List String} {reading : Reading}
    (hlast : (readings settings catalog session texts).getLast? = some reading) (text : String) :
    (readings settings catalog session (texts ++ [text])).getLast? =
      some (ofTokens settings catalog reading.session (Tokens.ofQuery text)) := by
  induction texts generalizing session with
  | nil => cases hlast
  | cons first rest ih =>
    cases rest with
    | nil =>
      obtain rfl := Option.some.inj hlast
      rfl
    | cons second rest =>
      simp only [readings, List.getLast?_cons_cons, List.cons_append] at hlast ih ⊢
      exact ih hlast

/-- However a query is typed, its last reading is made in the session that its completed words
lead to. -/
theorem readings_getLast? {query : String} {texts : List String} (htyped : Typed query texts)
    (session : Session) :
    (readings settings catalog session texts).getLast? =
      some (ofTokens settings catalog
        (sessionOf settings catalog (Tokens.ofQuery query).completed) (Tokens.ofQuery query)) := by
  induction texts using List.reverseRecOn generalizing query with
  | nil => cases htyped.begins
  | append_singleton texts last ih =>
    obtain rfl := htyped.last_eq
    rcases List.eq_nil_or_concat' texts with rfl | ⟨earlier, prior, rfl⟩
    · -- Nothing has been typed, and the empty field is read alike in every session.
      obtain rfl : last = "" := by simpa using htyped.begins
      rfl
    · have hkept := sessionOf_keeps settings catalog (Tokens.ofQuery prior).completed
        (Tokens.ofQuery prior).stem
      rw [readings_concat (ih htyped.init), hkept]
      obtain ⟨tail, htail, rfl | rfl⟩ := htyped.added
      · rw [Tokens.ofQuery_append prior htail]
      · rw [Tokens.ofQuery_append_space, Tokens.ofQuery_append prior htail, Tokens.words,
          sessionOf_concat, ofTokens_again]

end Reading

/-! ### What the host sees -/

/-- What the rules made of the query. -/
def Prepared.reading (prepared : Prepared) : Reading :=
  ⟨prepared.batch.position, prepared.requests, prepared.engine.session⟩

namespace Engine

variable {engine : Engine} {query : String} {texts : List String}

/-- Reads texts in order and fetches nothing. -/
def prepares (engine : Engine) : List String → List Prepared
  | [] => []
  | text :: rest => engine.prepare text :: (engine.prepare text).engine.prepares rest

theorem prepares_reading (hopen : engine.closed = false) (texts : List String) :
    (engine.prepares texts).map Prepared.reading =
      Reading.readings engine.settings engine.catalog engine.session texts := by
  induction texts generalizing engine with
  | nil => rfl
  | cons text rest ih =>
    have hnext : (engine.prepare text).engine.closed = false := by rw [prepare_closed, hopen]
    have hreading : (engine.prepare text).reading = engine.reading text := by
      rw [prepare_of_open hopen, Prepared.reading]
    have hsession : (engine.prepare text).engine.session = (engine.reading text).session := by
      rw [prepare_of_open hopen]
    simp only [prepares, Reading.readings, List.map_cons]
    rw [ih hnext, prepare_settings, prepare_catalog, hsession, hreading]
    rfl

theorem prepares_input (engine : Engine) (texts : List String) :
    (engine.prepares texts).map (·.batch.input) = texts := by
  induction texts generalizing engine with
  | nil => rfl
  | cons text rest ih => rw [prepares, List.map_cons, ih, prepare_input]

/-- Every batch is made from the catalog that was there at the start. -/
theorem prepares_items (hopen : engine.closed = false) {prepared : Prepared}
    (hprepared : prepared ∈ engine.prepares texts) :
    prepared.batch.items = Suggestion.all prepared.batch.position
      (Tokens.ofQuery prepared.batch.input) prepared.engine.session engine.catalog [] := by
  induction texts generalizing engine with
  | nil => cases hprepared
  | cons text rest ih =>
    rcases List.mem_cons.mp hprepared with rfl | hrest
    · rw [prepare_of_open hopen]
    · have hnext : (engine.prepare text).engine.closed = false := by rw [prepare_closed, hopen]
      rw [ih hnext hrest, prepare_catalog]

/-- The last batch of a query that was typed is a matter of the query and of what the engine
knows. -/
theorem prepares_getLast? (htyped : Typed query texts) (hopen : engine.closed = false) :
    ∃ prepared, (engine.prepares texts).getLast? = some prepared ∧
      prepared.reading = Reading.ofTokens engine.settings engine.catalog
        (Reading.sessionOf engine.settings engine.catalog (Tokens.ofQuery query).completed)
        (Tokens.ofQuery query) ∧
      prepared.batch.items = Suggestion.all prepared.reading.position (Tokens.ofQuery query)
        prepared.reading.session engine.catalog [] := by
  have hreading := congrArg List.getLast? (prepares_reading hopen texts)
  rw [Reading.readings_getLast? htyped, List.getLast?_map, Option.map_eq_some_iff] at hreading
  obtain ⟨prepared, hlast, hreading⟩ := hreading
  have hinput := congrArg List.getLast? (engine.prepares_input texts)
  rw [htyped.ends, List.getLast?_map, hlast, Option.map_some, Option.some.injEq] at hinput
  refine ⟨prepared, hlast, hreading, ?_⟩
  rw [prepares_items hopen (List.mem_of_getLast? hlast), hinput]
  rfl

end Engine

namespace Typed

variable {query : String} {texts others : List String}

/-- However a query is typed, and in whatever session, its last reading is the same: the position,
what it asks for and the session that it leaves. A host that leaves out characters within a word
shows the same suggestions as one that reports them all. -/
theorem reads_alike (htexts : Typed query texts) (hothers : Typed query others) :
    (∀ (settings : Settings) (catalog : Catalog) (session start : Session), ∃ reading,
        (Reading.readings settings catalog session texts).getLast? = some reading ∧
          (Reading.readings settings catalog start others).getLast? = some reading) ∧
      ∀ engine : Engine, engine.closed = false → ∃ prepared later,
        (engine.prepares texts).getLast? = some prepared ∧
          (engine.prepares others).getLast? = some later ∧
          prepared.batch.position = later.batch.position ∧
          prepared.batch.items = later.batch.items ∧
          prepared.requests = later.requests ∧
          prepared.engine.session = later.engine.session := by
  constructor
  · intro settings catalog session start
    exact ⟨_, Reading.readings_getLast? htexts session, Reading.readings_getLast? hothers start⟩
  · intro engine hopen
    obtain ⟨prepared, hprepared, hreading, hitems⟩ := Engine.prepares_getLast? htexts hopen
    obtain ⟨later, hlater, hrereading, hlaterItems⟩ := Engine.prepares_getLast? hothers hopen
    have hsame : prepared.reading = later.reading := by rw [hreading, hrereading]
    obtain ⟨hposition, hrequests, hsession⟩ := Reading.mk.inj hsame
    exact ⟨prepared, later, hprepared, hlater, hposition, by rw [hitems, hlaterItems, hsame],
      hrequests, hsession⟩

/-- A source in one word, and an aggregate that is still open. -/
def averaged : String := "search source=logs | stats avg( si"

/-- Every character, and as little as possible. -/
theorem reads_alike_averaged :
    Typed averaged (averaged.toList.inits.map String.ofList) ∧
      Typed averaged ("" :: Text.spacedBeginnings averaged ++ [averaged]) ∧
      ∃ reading,
        (Reading.readings {} (.stocked ["logs"]) {}
          (averaged.toList.inits.map String.ofList)).getLast? = some reading ∧
        (Reading.readings {} (.stocked ["logs"]) { listsFields := true }
          ("" :: Text.spacedBeginnings averaged ++ [averaged])).getLast? = some reading ∧
        reading.position = .statsFieldArg ∧ reading.requests = [.fields "logs"] := by
  have hdense : Typed averaged (averaged.toList.inits.map String.ofList) := of_inits averaged
  have hsparse : Typed averaged ("" :: Text.spacedBeginnings averaged ++ [averaged]) := by
    decide +kernel
  obtain ⟨reading, hfirst, hsecond⟩ :=
    (reads_alike hdense hsparse).1 {} (.stocked ["logs"]) {} { listsFields := true }
  have hfound : (Reading.readings {} (.stocked ["logs"]) { listsFields := true }
      ("" :: Text.spacedBeginnings averaged ++ [averaged])).getLast?.map
        (fun reading ↦ (reading.position, reading.requests)) =
      some (.statsFieldArg, [.fields "logs"]) := by
    decide +kernel
  rw [hsecond, Option.map_some, Option.some.injEq, Prod.mk.injEq] at hfound
  exact ⟨hdense, hsparse, reading, hfirst, hsecond, hfound⟩

end Typed
end PipedQuery
