import PipedQuery.Proofs.Extension
import PipedQuery.Proofs.HeldFields
import PipedQuery.Proofs.Outage

/-!
The values that are offered. Where a value is expected, the label of a bucket follows from its key
and from the type of the field (`FieldType.Labels`), and only a geographic point has no label. One
call brings the buckets, and each of them whose label goes on behind the stem is offered, in its
place and with its count (`reproduces_sample`). Without a field that has values no call is made,
and nothing is offered.
-/

set_option autoImplicit false
set_option relaxedAutoImplicit false

namespace PipedQuery

/-! ### The label of a key -/

namespace Json

/-- A string is worded as it is, any other value in the compact form. -/
inductive Worded : Json → String → Prop
  | verbatim (text : String) : Worded (.string text) text
  | compact {key : Json} (hother : ∀ text, key ≠ .string text) : Worded key key.compact

/-- The keys that a Boolean field has for true. -/
def Affirms (key : Json) : Prop :=
  key = .integer 1 ∨ key = .bool true

end Json

/-- The label of a key among the values of a field. -/
inductive FieldType.Labels : FieldType → Json → String → Prop
  | quoted {key : Json} {text : String} (hworded : key.Worded text) :
      Labels .string key ("\"" ++ text ++ "\"")
  | affirmed {key : Json} (htrue : key.Affirms) : Labels .boolean key "True"
  | denied {key : Json} (hfalse : ¬ key.Affirms) : Labels .boolean key "False"
  | bare {type : FieldType} {key : Json} {text : String} (hstring : type ≠ .string)
      (hboolean : type ≠ .boolean) (hpoint : type ≠ .geoPoint) (hworded : key.Worded text) :
      Labels type key text

namespace Bucket

theorem worded_keyText (bucket : Bucket) : bucket.key.Worded bucket.keyText := by
  unfold keyText
  split
  next text hkey =>
    rw [hkey]
    exact .verbatim text
  next hother => exact .compact hother

theorem isTrue_iff (bucket : Bucket) : bucket.isTrue = true ↔ bucket.key.Affirms := by
  unfold isTrue Json.Affirms
  cases bucket.key <;> simp

/-- Every bucket has a label, unless the field holds geographic points. -/
theorem exists_label (bucket : Bucket) {type : FieldType} (hpoint : type ≠ .geoPoint) :
    ∃ label, bucket.label type = some label ∧ type.Labels bucket.key label := by
  have hworded := bucket.worded_keyText
  cases type with
  | geoPoint => exact absurd rfl hpoint
  | string => exact ⟨_, rfl, .quoted hworded⟩
  | boolean =>
    by_cases htrue : bucket.isTrue = true
    · exact ⟨"True", by simp [label, htrue], .affirmed (bucket.isTrue_iff.mp htrue)⟩
    · exact ⟨"False", by simp [label, htrue], .denied (mt bucket.isTrue_iff.mpr htrue)⟩
  | integer | float | date | other =>
    exact ⟨_, rfl, .bare (by simp) (by simp) (by simp) hworded⟩

/-- What is offered for a bucket whose label goes on behind the stem of the query. -/
structure Offers (query stem text : String) (type : FieldType) (bucket : Bucket)
    (suggestion : Suggestion) : Prop where
  extended : text = stem ++ suggestion.tail
  label : suggestion.label = query ++ suggestion.tail
  replaced : suggestion.replaced = query
  item : suggestion.item = some text
  details : suggestion.details = some { count := some bucket.count, type := some type }

/-- Each bucket whose label properly extends the stem of the query has one item, in the order of
the buckets, and there are no other items. -/
def Reproduced (query : String) (type : FieldType) (buckets : List Bucket)
    (items : List Suggestion) : Prop :=
  ∃ (stem : String) (text : Bucket → String), IsStem query stem ∧
    (∀ bucket, type.Labels bucket.key (text bucket)) ∧
    List.Forall₂ (fun bucket ↦ bucket.Offers query stem (text bucket) type)
      (buckets.filter fun bucket ↦ stem.toList <+: (text bucket).toList ∧ text bucket ≠ stem) items

theorem reproduced_sampled {type : FieldType} {session : Session} (hpoint : type ≠ .geoPoint)
    (htype : session.activeField.bind ActiveField.type = some type) (query : String)
    (catalog : Catalog) (buckets : List Bucket) :
    Reproduced query type buckets
      (Suggestion.all .whereValue (Tokens.ofQuery query) session catalog
        (sampled type buckets)) := by
  choose text htext hlabels using fun bucket : Bucket ↦ bucket.exists_label hpoint
  refine ⟨(Tokens.ofQuery query).stem, text, Tokens.isStem_ofQuery query, hlabels, ?_⟩
  have hall : Suggestion.all .whereValue (Tokens.ofQuery query) session catalog
        (sampled type buckets) =
      buckets.filterMap fun bucket ↦
        (Candidate.value (some type) ⟨text bucket, bucket.count⟩).suggestion
          (Tokens.ofQuery query) := by
    simp [Suggestion.all, Candidate.all, htype, sampled, htext]
  rw [hall]
  refine Suggestion.forall₂_filter_filterMap ?_ ?_ buckets
  · intro bucket hlonger
    have hextends : (Candidate.value (some type) ⟨text bucket, bucket.count⟩).Extends
        (Tokens.ofQuery query).stem := hlonger
    obtain ⟨item, hitem, hmakes⟩ := Candidate.exists_makes query hextends
    have hreplaced : item.replaced = query := hmakes.whole rfl
    refine ⟨item, hitem, hmakes.text, ?_, hreplaced, hmakes.item, hmakes.details⟩
    rw [hmakes.label, hreplaced]
  · intro bucket hother
    exact Candidate.suggestion_eq_none _ hother

end Bucket

/-! ### A query for values -/

namespace Engine

variable {engine : Engine} {query : String}

/-- A closed engine expects nothing, so what is expected was read by an open one. -/
theorem reading_of_position {position : Position}
    (hposition : (engine.prepare query).batch.position = position) (hexpects : position ≠ .none) :
    engine.closed = false ∧ (engine.reading query).position = position := by
  cases hclosed : engine.closed with
  | true => exact absurd (by simp [← hposition, prepare, hclosed]) hexpects
  | false =>
    rw [prepare_of_open hclosed] at hposition
    exact ⟨rfl, hposition⟩

/-- The field of the filter has no values that could be offered. -/
def LacksValues (engine : Engine) : Prop :=
  engine.session.activeField = none ∨
    ∃ field, engine.session.activeField = some field ∧
      (field.type = none ∨ field.type = some .geoPoint)

theorem valuesRequest_of_lacksValues (hlacks : engine.LacksValues) :
    Reading.valuesRequest engine.session = [] := by
  unfold Reading.valuesRequest
  split
  next index name type _ hfield =>
    rcases hlacks with hnone | ⟨field, hsome, htype⟩
    · simp [hnone] at hfield
    · obtain rfl : field = ⟨name, some type⟩ := Option.some.inj (hsome.symm.trans hfield)
      simpa using htype
  next => rfl

/-- Where a value is expected, the session says what is asked for. -/
theorem requests_of_whereValue (hposition : (engine.prepare query).batch.position = .whereValue) :
    (engine.prepare query).requests = Reading.valuesRequest engine.session := by
  obtain ⟨hopen, hvalue⟩ := reading_of_position hposition nofun
  obtain ⟨hsession, hrequests⟩ := engine.entailed_reading query
  rw [hsession, hvalue] at hrequests
  rw [prepare_of_open hopen]
  exact hrequests

theorem items_of_whereValue (hposition : (engine.prepare query).batch.position = .whereValue)
    (gateway : Gateway) :
    (engine.serve gateway query).batch.items =
      Suggestion.all .whereValue (Tokens.ofQuery query) engine.session
        (engine.serve gateway query).engine.catalog
        ((engine.prepare query).requests.flatMap gateway.sampleOf) := by
  obtain ⟨hopen, hvalue⟩ := reading_of_position hposition nofun
  have hsession := (engine.entailed_reading query).1
  rw [hvalue] at hsession
  rw [requests_of_whereValue hposition, ← sample_of_whereValue hopen hvalue, serve_eq hopen,
    hvalue, hsession]
  rfl

/-- Values of a field are fetched by one call, and the batch has one item for each bucket whose
label properly extends the stem, in the order of the buckets. Where the field of the filter lacks
values, there is no call and no item. -/
theorem reproduces_sample (gateway : Gateway)
    (hposition : (engine.prepare query).batch.position = .whereValue) :
    (∀ index field type buckets,
      Request.values index field type ∈ (engine.prepare query).requests →
      gateway.buckets index field = .ok buckets →
      (engine.serve gateway query).calls = [.values index field type] ∧
        Bucket.Reproduced query type buckets (engine.serve gateway query).batch.items) ∧
      (engine.LacksValues →
        (engine.serve gateway query).calls = [] ∧
          (engine.serve gateway query).batch.items = []) := by
  have hrequests := requests_of_whereValue hposition
  rw [serve_calls, items_of_whereValue hposition]
  constructor
  · intro index field type buckets hasks hbuckets
    obtain ⟨hindex, hfield⟩ := Reading.of_mem_valuesRequest (hrequests ▸ hasks)
    have hpoint : type ≠ .geoPoint := by
      rintro rfl
      simp [hrequests, Reading.valuesRequest, hindex, hfield] at hasks
    have hone : (engine.prepare query).requests = [.values index field type] := by
      simp [hrequests, Reading.valuesRequest, hindex, hfield, hpoint]
    have hsample : (engine.prepare query).requests.flatMap gateway.sampleOf =
        Bucket.sampled type buckets := by
      simp [hone, Gateway.sampleOf, hbuckets]
    rw [hsample]
    exact ⟨hone, Bucket.reproduced_sampled hpoint (by simp [hfield]) query _ buckets⟩
  · intro hlacks
    rw [hrequests, valuesRequest_of_lacksValues hlacks]
    exact ⟨rfl, rfl⟩

end Engine

namespace Gateway

/-- Keys of several kinds, one of them twice. -/
def motleyBuckets : List Bucket :=
  [⟨.string "ok", 5⟩, ⟨.array [.null, .integer 1], 4⟩, ⟨.string "off", 3⟩, ⟨.bool true, 2⟩,
    ⟨.string "ok", 1⟩]

def motley : Gateway where
  indices := .error .unreadable
  mapping := fun _ ↦ .error .unreadable
  buckets := fun _ _ ↦ .ok motleyBuckets

end Gateway

namespace Engine

/-- A filter on a field of the given type waits for its value. -/
def awaiting (type : FieldType) : Engine where
  session :=
    { activeIndex := some "jobs"
      activeField := some ⟨"state", some type⟩
      clause := .filter 6 }
  catalog := .stocked ["jobs"]

/-- The repeated key is offered twice, and the array in quotes does not extend the stem. For
geographic points the same backend is not asked. -/
theorem reproduces_sample_motley :
    ((awaiting .string).prepare "source = jobs | where state = \"o").batch.position =
        .whereValue ∧
      Request.values "jobs" "state" .string ∈
        ((awaiting .string).prepare "source = jobs | where state = \"o").requests ∧
      (((awaiting .string).serve .motley "source = jobs | where state = \"o").batch.items.map
        fun item ↦ (item.item, item.details.bind Details.count)) =
          [(some "\"ok\"", some 5), (some "\"off\"", some 3), (some "\"ok\"", some 1)] ∧
      ((awaiting .string).serve .motley "source = jobs | where state = \"o").calls =
        [.values "jobs" "state" .string] ∧
      Bucket.Reproduced "source = jobs | where state = \"o" .string Gateway.motleyBuckets
        ((awaiting .string).serve .motley "source = jobs | where state = \"o").batch.items ∧
      (awaiting .geoPoint).LacksValues ∧
      ((awaiting .geoPoint).serve .motley "source = jobs | where state = ").calls = [] ∧
      ((awaiting .geoPoint).serve .motley "source = jobs | where state = ").batch.items = [] := by
  have hposition : ((awaiting .string).prepare "source = jobs | where state = \"o").batch.position =
      .whereValue := by
    decide +kernel
  have hasks : Request.values "jobs" "state" .string ∈
      ((awaiting .string).prepare "source = jobs | where state = \"o").requests := by
    decide +kernel
  have hpoint : ((awaiting .geoPoint).prepare "source = jobs | where state = ").batch.position =
      .whereValue := by
    decide +kernel
  have hlacks : (awaiting .geoPoint).LacksValues := Or.inr ⟨_, rfl, Or.inr rfl⟩
  obtain ⟨hcalls, hitems⟩ :=
    (reproduces_sample .motley hposition).1 "jobs" "state" .string _ hasks rfl
  exact ⟨hposition, hasks, by decide +kernel, hcalls, hitems, hlacks,
    (reproduces_sample .motley hpoint).2 hlacks⟩

end Engine
end PipedQuery
