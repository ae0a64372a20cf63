import PipedQuery.Proofs.Serving
import PipedQuery.Proofs.Successor

/-!
A dialogue with the engine: it starts from the empty query, and then one of the suggestions is
taken again and again. With a backend whose names are apt, every suggestion leads to the successor
of the position it was offered at, so that the query stays in the grammar
(`Dialogue.stays_in_grammar`). The invariant is `Poised`: the words of the query fit the position,
the engine knows nothing but what the backend reports, and the suggestions are those for the words.
-/

set_option autoImplicit false
set_option relaxedAutoImplicit false

namespace PipedQuery

namespace Gateway

/-- The names of the indices as the backend reports them. -/
def names (gateway : Gateway) : List String :=
  match gateway.indices with
  | .ok names => names
  | .error _ => []

theorem listing_subset_names {gateway : Gateway} {request : Request} {fetched : Fetched}
    {listed : List String} (hfetch : gateway.fetch request = .ok fetched)
    (hlisting : fetched.listing = some listed) : listed ⊆ gateway.names := by
  obtain ⟨-, hanswer⟩ := indices_of_fetch hfetch hlisting
  simp [names, hanswer]

/-- The word can be offered, and it refers to no index. -/
def Offers (gateway : Gateway) (word : String) : Prop :=
  Apt word ∧ Vocabulary.indexReference word ∉ gateway.names

instance (gateway : Gateway) (word : String) : Decidable (gateway.Offers word) :=
  inferInstanceAs (Decidable (_ ∧ _))

/-- The names of indices and fields and the labels of values are apt, and only an index refers to
one. -/
structure Tame (gateway : Gateway) : Prop where
  index : ∀ index ∈ gateway.names, AptIndex index
  field : ∀ index ∈ gateway.names, ∀ field ∈ gateway.fieldsOf index, gateway.Offers field.name
  label : ∀ index ∈ gateway.names, ∀ field ∈ gateway.fieldsOf index,
    ∀ value ∈ gateway.sampleOf (.values index field.name field.type), gateway.Offers value.label

end Gateway

namespace Catalog

/-- The index list and the resident fields are those of the backend. -/
structure Reflects (gateway : Gateway) (catalog : Catalog) : Prop where
  agrees : catalog.Agrees
  within : ∀ listed, catalog.loaded = some listed → listed ⊆ gateway.names
  current : catalog.Current gateway

theorem Current.eq_fieldsOf {gateway : Gateway} {catalog : Catalog} {index : String}
    {fields : List Field} (hcurrent : catalog.Current gateway)
    (hfields : catalog.fieldsOf index = some fields) : fields = gateway.fieldsOf index := by
  unfold Catalog.fieldsOf at hfields
  split at hfields
  next held hresident =>
    split_ifs at hfields with hindex
    rw [← Option.some.inj hfields, hcurrent held hresident, hindex]
  next => cases hfields

theorem Current.mem_fieldsOf {gateway : Gateway} {catalog : Catalog} {index name : String}
    {type : FieldType} (hcurrent : catalog.Current gateway)
    (htype : catalog.typeOf index name = some type) : ⟨name, type⟩ ∈ gateway.fieldsOf index := by
  unfold typeOf at htype
  split at htype
  next fields hfields =>
    obtain ⟨field, hfound, rfl⟩ := Option.map_eq_some_iff.mp htype
    have hname : field.name = name := by simpa using List.find?_some hfound
    rw [← hcurrent.eq_fieldsOf hfields, ← hname]
    exact List.mem_of_find?_eq_some hfound
  next => cases htype

section Reflects

variable {gateway : Gateway} {catalog : Catalog} (hreflects : catalog.Reflects gateway)

include hreflects

theorem Reflects.mem_names {index : String} (hknown : catalog.knows index = true) :
    index ∈ gateway.names := by
  have hindex : index ∈ catalog.indices := (hreflects.agrees index).mp hknown
  cases hloaded : catalog.loaded with
  | none => simp [indices, hloaded] at hindex
  | some listed => exact hreflects.within listed hloaded (by simpa [indices, hloaded] using hindex)

theorem Reflects.tame (htame : gateway.Tame) : catalog.Tame :=
  fun index hknown ↦ htame.index index (hreflects.mem_names hknown)

theorem Reflects.plain {word : String} (hoffers : gateway.Offers word) : Plain catalog word := by
  obtain ⟨hapt, hrefers⟩ := hoffers
  have hreserved : ∀ word ∈ Vocabulary.reserved, word ∈ Vocabulary.grammarWords := by decide
  refine ⟨hapt.nonempty, hapt.spaceless, hapt.comma, mt (hreserved word) hapt.free, ?_⟩
  rw [Bool.eq_false_iff]
  exact mt hreflects.mem_names hrefers

end Reflects

end Catalog

namespace Candidate

theorem exists_fieldsOf_of_mem {session : Session} {catalog : Catalog} {field : Field}
    (hmem : field ∈ activeFields session catalog) :
    ∃ index fields, session.activeIndex = some index ∧ catalog.fieldsOf index = some fields ∧
      field ∈ fields := by
  cases hactive : session.activeIndex.bind catalog.fieldsOf with
  | none => simp [activeFields, hactive] at hmem
  | some fields =>
    obtain ⟨index, hindex, hfields⟩ := Option.bind_eq_some_iff.mp hactive
    exact ⟨index, fields, hindex, hfields, by simpa [activeFields, hactive] using hmem⟩

end Candidate

namespace Session

/-- The active index is one of the backend's. -/
def Grounded (gateway : Gateway) (session : Session) : Prop :=
  ∀ index, session.activeIndex = some index → index ∈ gateway.names

/-- The field of the filter is one of the active index, if its type is known. -/
def Records (gateway : Gateway) (session : Session) : Prop :=
  ∀ index name type, session.activeIndex = some index →
    session.activeField = some ⟨name, some type⟩ → ⟨name, type⟩ ∈ gateway.fieldsOf index

end Session

/-- The suggestion is taken, and suggestions are asked for the query that this makes. -/
def Served.take (gateway : Gateway) (served : Served) (item : Suggestion) : Served :=
  let selection := served.engine.select item
  selection.engine.serve gateway selection.query

/-- What can be served to someone who starts with nothing and then only takes suggestions. -/
inductive Dialogue (gateway : Gateway) (start : Engine) : Served → Prop
  | opens : Dialogue gateway start (start.serve gateway "")
  | takes {served : Served} {item : Suggestion} : Dialogue gateway start served →
      item ∈ served.batch.items → Dialogue gateway start (served.take gateway item)

/-- The words of the query fit its position, and what is offered is made for these words. -/
structure Poised (gateway : Gateway) (completed : List String) (served : Served) : Prop where
  spaceless : ∀ word ∈ completed, ' ' ∉ word.toList
  isOpen : served.engine.closed = false
  reflects : served.engine.catalog.Reflects gateway
  grounded : served.engine.session.Grounded gateway
  records : served.batch.position = .whereEquals → served.engine.session.Records gateway
  fits : Reading.Fits served.engine.session.clause served.engine.session.listsFields completed
    served.batch.position
  items : ∃ sample, (∀ value ∈ sample, gateway.Offers value.label) ∧
    served.batch.items = Suggestion.all served.batch.position ⟨completed, ""⟩
      served.engine.session served.engine.catalog sample

namespace Engine

variable {engine : Engine} {gateway : Gateway}

theorem select_keeps (engine : Engine) (item : Suggestion) :
    (engine.select item).engine.closed = engine.closed ∧
      (engine.select item).engine.catalog = engine.catalog ∧
      (engine.select item).engine.session.clause = engine.session.clause ∧
      (engine.select item).engine.session.listsFields = engine.session.listsFields := by
  rcases engine.select_cases item with ⟨hsame, -⟩ | ⟨_, _, htaken, -⟩
  · simp [hsame]
  · simp [htaken]

/-- A sign is taken without a trace. -/
theorem select_of_unnamed {item : Suggestion} (hitem : item.item = none) :
    (engine.select item).engine = engine := by
  simp [select, hitem]

theorem select_grounded {item : Suggestion} (hreflects : engine.catalog.Reflects gateway)
    (hgrounded : engine.session.Grounded gateway) :
    (engine.select item).engine.session.Grounded gateway := by
  rcases engine.select_cases item with ⟨hsame, -⟩ | ⟨index, hknown, htaken, -⟩
  · rwa [hsame]
  · rw [htaken]
    intro other hother
    exact Option.some.inj hother ▸ hreflects.mem_names hknown

theorem select_query (engine : Engine) (item : Suggestion) :
    (engine.select item).query = item.label ++ " " := by
  unfold select
  dsimp only
  split
  · rfl
  · split_ifs <;> rfl

theorem resolve_reflects (hreflects : engine.catalog.Reflects gateway)
    (sample : List SampledValue) (requests : List Request) :
    (engine.resolve gateway sample requests).engine.catalog.Reflects gateway := by
  refine ⟨resolve_agrees hreflects.agrees sample requests, ?_,
    resolve_current hreflects.current sample requests⟩
  refine resolve_induction
    (motive := fun after ↦ ∀ listed, after.catalog.loaded = some listed → listed ⊆ gateway.names)
    (fun _ _ hkept ↦ hkept) ?_ hreflects.within sample requests
  intro after request hkept listed hloaded
  rcases absorb_cases after request (gateway.fetch request) with
    habsorb | ⟨fetched, _, hfetch, habsorb⟩
  · rw [habsorb, release_eq] at hloaded
    exact hkept listed hloaded
  · rw [habsorb, store_loaded, release_eq] at hloaded
    rcases Option.or_eq_some_iff.mp hloaded with hbefore | ⟨_, hfiled⟩
    · exact hkept listed hbefore
    · obtain ⟨names, hlisting, rfl⟩ := Option.map_eq_some_iff.mp hfiled
      exact fun name hname ↦
        Gateway.listing_subset_names hfetch hlisting (List.mem_of_mem_filter hname)

end Engine

namespace Engine

variable {engine : Engine} {gateway : Gateway}

/-- Values are sampled for a field of the active index, so their labels can be offered. -/
theorem offers_sample (htame : gateway.Tame) (hopen : engine.closed = false)
    (hgrounded : engine.session.Grounded gateway) (hrecords : engine.session.Records gateway)
    {query : String} (hposition : (engine.reading query).position = .whereValue) :
    ∀ value ∈ (engine.resolved gateway query).sample, gateway.Offers value.label := by
  obtain ⟨hsession, hrequests⟩ := entailed_reading engine query
  have hasks : (engine.reading query).requests = Reading.valuesRequest engine.session := by
    rw [hrequests, hsession, hposition]
    rfl
  have hprepared : (engine.prepare query).engine.closed = false := by rw [prepare_closed, hopen]
  rw [resolved, hasks]
  unfold Reading.valuesRequest
  split
  next index field type hactive hfield =>
    split_ifs
    · simp [resolve]
    · rw [resolve_values hprepared]
      exact htame.label index (hgrounded index hactive) ⟨field, type⟩
        (hrecords index field type hactive hfield)
  next => simp [resolve]

/-- Where the words lead, the engine stands once it has served them. -/
theorem poised_serve {words : List String} {position : Position} (htame : gateway.Tame)
    (hopen : engine.closed = false) (hreflects : engine.catalog.Reflects gateway)
    (hgrounded : engine.session.Grounded gateway)
    (hrecords : position = .whereValue → engine.session.Records gateway)
    (hspaceless : ∀ word ∈ words, ' ' ∉ word.toList)
    (hleads : Reading.Leads engine.settings engine.catalog engine.session words position) :
    (engine.serve gateway (⟨words, ""⟩ : Tokens).query).batch.position = position ∧
      Poised gateway words (engine.serve gateway (⟨words, ""⟩ : Tokens).query) := by
  generalize hquery : (⟨words, ""⟩ : Tokens).query = query
  have hread : Tokens.ofQuery query = ⟨words, ""⟩ :=
    hquery ▸ Tokens.ofQuery_query (Tokens.spaceless_of_completed hspaceless)
  have hposition : (engine.reading query).position = position := by
    rw [reading, hread]
    exact hleads.1
  have hserved : (engine.serve gateway query).batch.position = position := by
    rw [serve_eq hopen]
    exact hposition
  have hsession : (engine.serve gateway query).engine.session =
      Reading.sessionAt engine.catalog engine.session ⟨words, ""⟩ position := by
    rw [serve_session hopen, (entailed_reading engine query).1, hposition, hread]
  refine ⟨hserved, hspaceless, serve_closed hopen gateway query, ?_, ?_, ?_, ?_, ?_⟩
  · rw [serve_eq hopen]
    exact resolve_reflects (by rwa [prepare_catalog]) _ _
  · intro index hactive
    rw [serve_session hopen] at hactive
    rcases Reading.activeIndex_cases hactive with hbefore | hknown
    · exact hgrounded index hbefore
    · exact hreflects.mem_names hknown
  · intro hequals index name type hactive hfield
    rw [hserved] at hequals
    subst hequals
    rw [hsession] at hactive hfield
    obtain ⟨word, _, hrecorded⟩ := Option.map_eq_some_iff.mp hfield
    obtain ⟨rfl, htype⟩ := ActiveField.mk.inj hrecorded
    rw [show engine.session.activeIndex = some index from hactive] at htype
    exact hreflects.current.mem_fieldsOf htype
  · rw [hsession, hserved]
    exact hleads.2
  · -- Only where a value is expected does the sample matter; elsewhere none is as good as any.
    have hcatalog : (engine.serve gateway query).engine.catalog =
        (engine.resolved gateway query).engine.catalog := by rw [serve_eq hopen]
    have hitems : (engine.serve gateway query).batch.items =
        Suggestion.all position ⟨words, ""⟩ (engine.serve gateway query).engine.session
          (engine.serve gateway query).engine.catalog (engine.resolved gateway query).sample := by
      rw [hcatalog, serve_session hopen, serve_eq hopen, hposition, hread]
    rw [hserved, hitems]
    by_cases hvalue : position = .whereValue
    · exact ⟨_, offers_sample htame hopen hgrounded (hrecords hvalue) (hposition.trans hvalue),
        rfl⟩
    · refine ⟨[], by simp, ?_⟩
      rw [Suggestion.all, Suggestion.all,
        Candidate.all_congr rfl rfl fun hsame ↦ absurd hsame hvalue]

end Engine

namespace Poised

variable {gateway : Gateway} {completed : List String} {served : Served}

theorem clear (htame : gateway.Tame) (hpoised : Poised gateway completed served)
    {sample : List SampledValue} (hsample : ∀ value ∈ sample, gateway.Offers value.label) :
    Candidate.Clear served.engine.catalog served.engine.session sample := by
  refine ⟨hpoised.reflects.agrees, hpoised.reflects.tame htame, ?_, fun value hvalue ↦
    hpoised.reflects.plain (hsample value hvalue)⟩
  intro field hfield
  obtain ⟨index, fields, hactive, hfields, hmem⟩ := Candidate.exists_fieldsOf_of_mem hfield
  rw [hpoised.reflects.current.eq_fieldsOf hfields] at hmem
  exact hpoised.reflects.plain
    (htame.field index (hpoised.grounded index hactive) field hmem)

theorem take (htame : gateway.Tame) (hpoised : Poised gateway completed served)
    {item : Suggestion} (hitem : item ∈ served.batch.items) :
    (served.take gateway item).batch.position =
        served.batch.position.successor item.tail ∧
      ∃ words, Poised gateway words (served.take gateway item) := by
  obtain ⟨sample, hsample, hitems⟩ := hpoised.items
  rw [hitems] at hitem
  obtain ⟨candidate, hmem, hsuggestion⟩ := List.mem_filterMap.mp hitem
  obtain ⟨hlabel, htail, hname⟩ := Candidate.label_joined hsuggestion
  have hclear := hpoised.clear htame hsample
  have hspaceless := Candidate.spaceless_joined hpoised.spaceless
    (Candidate.spaceless_text hclear hmem hpoised.fits)
  obtain ⟨hopen, hcatalog, hclause, hlists⟩ := served.engine.select_keeps item
  have hrecords : served.batch.position.successor candidate.text = .whereValue →
      (served.engine.select item).engine.session.Records gateway := by
    intro hvalue
    have hequals := Position.eq_whereEquals_of_successor hvalue
    rw [hequals] at hmem
    obtain rfl := List.mem_singleton.mp hmem
    rw [Engine.select_of_unnamed hname]
    exact hpoised.records hequals
  have hserve := Engine.poised_serve htame (hopen.trans hpoised.isOpen)
    (hcatalog ▸ hpoised.reflects) (Engine.select_grounded hpoised.reflects hpoised.grounded)
    hrecords hspaceless
    (hcatalog ▸ Candidate.leads_joined hclear hmem (hclause ▸ hlists ▸ hpoised.fits))
  simp only [Served.take, Engine.select_query, hlabel, htail]
  exact ⟨hserve.1, _, hserve.2⟩

end Poised

namespace Engine

variable {engine : Engine} {gateway : Gateway}

/-- The empty query does not depend on the session. -/
theorem serve_empty (hopen : engine.closed = false) (gateway : Gateway) :
    engine.serve gateway "" = { engine with session := {} }.serve gateway "" := by
  have hprepare : engine.prepare "" = { engine with session := {} }.prepare "" := by
    simp only [prepare, hopen]
    rfl
  rw [serve, serve, hprepare]

theorem poised_empty (htame : gateway.Tame) (hopen : engine.closed = false)
    (hreflects : engine.catalog.Reflects gateway) :
    (engine.serve gateway "").batch.position = .firstCommand ∧
      Poised gateway [] (engine.serve gateway "") := by
  have hquery : (⟨[], ""⟩ : Tokens).query = "" := rfl
  rw [serve_empty hopen, ← hquery]
  exact poised_serve htame hopen hreflects (fun _ hactive ↦ (nomatch hactive))
    (fun hvalue ↦ (nomatch hvalue)) (fun _ hword ↦ (nomatch hword)) ⟨rfl, rfl⟩

end Engine

namespace Dialogue

variable {gateway : Gateway} {start : Engine} {served : Served}

theorem poised (htame : gateway.Tame) (hopen : start.closed = false)
    (hreflects : start.catalog.Reflects gateway) (hdialogue : Dialogue gateway start served) :
    ∃ words, Poised gateway words served := by
  induction hdialogue with
  | opens => exact ⟨[], (Engine.poised_empty htame hopen hreflects).2⟩
  | takes _ hitem ih =>
    obtain ⟨words, hpoised⟩ := ih
    exact (hpoised.take htame hitem).2

/-- Whatever is taken, the query stays in the grammar: a dialogue opens at the first command, and
each suggestion leads to the successor of the position where it was offered. -/
theorem stays_in_grammar (htame : gateway.Tame) (hopen : start.closed = false)
    (hreflects : start.catalog.Reflects gateway) :
    (start.serve gateway "").batch.position = .firstCommand ∧
      ∀ served, Dialogue gateway start served → ∀ item ∈ served.batch.items,
        (served.take gateway item).batch.position =
          served.batch.position.successor item.tail := by
  refine ⟨(Engine.poised_empty htame hopen hreflects).1, ?_⟩
  intro served hdialogue item hitem
  obtain ⟨words, hpoised⟩ := hdialogue.poised htame hopen hreflects
  exact (hpoised.take htame hitem).1

/-- Takes the suggestion at a place of the batch, if there is one. -/
def pick (gateway : Gateway) (served : Served) (place : Nat) : Served :=
  match served.batch.items[place]? with
  | some item => served.take gateway item
  | none => served

theorem picks (hdialogue : Dialogue gateway start served) (places : List Nat) :
    Dialogue gateway start (places.foldl (pick gateway) served) := by
  induction places generalizing served with
  | nil => exact hdialogue
  | cons place places ih =>
    refine ih ?_
    unfold pick
    split
    next item hplace => exact hdialogue.takes (List.mem_of_getElem? hplace)
    next => exact hdialogue

/-- The dialogue in which `source = logs | stats sum(` is picked. -/
def tallying : Served :=
  [2, 0, 0, 0, 7, 1].foldl (pick .furnished) (Engine.serve .furnished {} "")

theorem stays_in_grammar_tallying :
    Gateway.furnished.Tame ∧ Catalog.Reflects .furnished {} ∧
      tallying.batch.position = .statsFieldArg ∧
      ∃ item ∈ tallying.batch.items, item.label = "source = logs | stats sum(size)" ∧
        (tallying.take .furnished item).batch.position = .statsByKeyword := by
  have htame : Gateway.furnished.Tame := ⟨by decide, by decide +kernel, by decide +kernel⟩
  have hreflects : Catalog.Reflects .furnished {} :=
    ⟨Catalog.agrees_empty, fun _ hloaded ↦ (nomatch hloaded),
      fun _ hresident ↦ (nomatch hresident)⟩
  have hposition : tallying.batch.position = .statsFieldArg := by decide +kernel
  have hitem : ⟨"source = logs | stats sum(size)", "source = logs | stats sum(", "size)",
      some "size", some { type := some .integer }⟩ ∈ tallying.batch.items := by decide +kernel
  refine ⟨htame, hreflects, hposition, _, hitem, rfl, ?_⟩
  rw [(stays_in_grammar htame rfl hreflects).2 tallying (opens.picks _) _ hitem, hposition]
  rfl

end Dialogue
end PipedQuery
