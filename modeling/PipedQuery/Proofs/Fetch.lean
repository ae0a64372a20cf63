import Mathlib.Data.List.Induction
import Mathlib.Data.List.Nodup
import PipedQuery.Engine

/-!
A fetch seen from the engine: what a claim asks for and takes, what an answer gives back and
files, and which parts of the engine neither of them touches. A claim is granted by an open
engine whenever the key of the request is free, and then the key is the only thing that changes
(`claim_eq_granted_iff`). An answer frees the key in any case; an open engine also files what a
successful one brings (`absorb_ok`). Reading a query and taking a suggestion leave the
catalog alone.
-/

set_option autoImplicit false
set_option relaxedAutoImplicit false

namespace PipedQuery

namespace Request

theorem key_eq_indices_iff {request : Request} :
    request.key = some .indices ↔ request = .indices := by
  cases request <;> simp [key]

theorem key_eq_fields_iff {request : Request} {index : String} :
    request.key = some (.fields index) ↔ request = .fields index := by
  cases request <;> simp [key]

end Request

namespace Gateway

variable {gateway : Gateway} {index : String} {fetched : Fetched}

theorem fetch_indices_eq_ok (hfetch : gateway.fetch .indices = .ok fetched) :
    ∃ names, fetched = .indices names := by
  simp only [fetch] at hfetch
  cases hanswer : gateway.indices with
  | error fault => simp [hanswer, Except.map] at hfetch
  | ok names =>
    rw [hanswer] at hfetch
    exact ⟨names, (Except.ok.inj hfetch).symm⟩

theorem fetch_fields_eq_ok (hfetch : gateway.fetch (.fields index) = .ok fetched) :
    ∃ fields, fetched = .fields index fields := by
  simp only [fetch] at hfetch
  cases hanswer : gateway.mapping index with
  | error fault => simp [hanswer, bind, Except.bind] at hfetch
  | ok response =>
    cases hfields : response.fieldsOf index with
    | error fault => simp [hanswer, hfields, bind, Except.bind] at hfetch
    | ok fields =>
      refine ⟨fields, ?_⟩
      simpa [hanswer, hfields, bind, Except.bind, pure, Except.pure, eq_comm] using hfetch

theorem fetch_values_eq_ok {field : String} {type : FieldType}
    (hfetch : gateway.fetch (.values index field type) = .ok fetched) :
    ∃ sample, fetched = .values sample := by
  simp only [fetch] at hfetch
  cases hanswer : gateway.buckets index field with
  | error fault => simp [hanswer, bind, Except.bind] at hfetch
  | ok buckets =>
    refine ⟨Bucket.sampled type buckets, ?_⟩
    simpa [hanswer, bind, Except.bind, pure, Except.pure, eq_comm] using hfetch

/-- A backend that fails every call. -/
def silent : Gateway where
  indices := .error (.backend none)
  mapping := fun _ ↦ .error (.backend none)
  buckets := fun _ _ ↦ .error (.backend none)

/-- A backend that lists some indices. Every index has one field, of its own name. -/
def stocked (names : List String) : Gateway where
  indices := .ok names
  mapping := fun index ↦ .ok [(index, [(index, .node (some "keyword") none)])]
  buckets := fun _ _ ↦ .ok []

theorem fetch_stocked_fields (names : List String) (index : String) :
    (stocked names).fetch (.fields index) = .ok (.fields index [⟨index, .string⟩]) := by
  simp [fetch, stocked, MappingResponse.fieldsOf, MappingResponse.fields, Property.flatten,
    Property.fieldsAt, Property.own, Property.path, FieldType.ofBackend, bind, Except.bind, pure,
    Except.pure]

/-- An answer that brings fields was asked for the fields of that index. -/
theorem eq_fields_of_fetch {request : Request} {fields : List Field}
    (hfetch : gateway.fetch request = .ok (.fields index fields)) :
    request = .fields index := by
  cases request with
  | indices => simpa using fetch_indices_eq_ok hfetch
  | fields asked =>
    obtain ⟨_, hfields⟩ := fetch_fields_eq_ok hfetch
    injection hfields with hindex
    rw [hindex]
  | values asked field type => simpa using fetch_values_eq_ok hfetch

/-- An answer that brings names was asked for the index list. -/
theorem eq_indices_of_fetch {request : Request} {names : List String}
    (hfetch : gateway.fetch request = .ok (.indices names)) : request = .indices := by
  cases request with
  | indices => rfl
  | fields asked => simpa using fetch_fields_eq_ok hfetch
  | values asked field type => simpa using fetch_values_eq_ok hfetch

end Gateway

namespace Fetched

/-- The field list that an answer brings, if it brings one. -/
def held : Fetched → Option IndexFields
  | .fields index list => some ⟨index, list⟩
  | _ => none

/-- The index list that an answer brings, if it brings one. -/
def listing : Fetched → Option (List String)
  | .indices names => some names
  | _ => none

end Fetched

namespace Gateway

variable {gateway : Gateway} {request : Request} {fetched : Fetched}

/-- An answer with an index list was asked for one, and it is the backend's. -/
theorem indices_of_fetch {listed : List String} (hfetch : gateway.fetch request = .ok fetched)
    (hlisting : fetched.listing = some listed) :
    request = .indices ∧ gateway.indices = .ok listed := by
  cases fetched with
  | fields index fields => cases hlisting
  | values sample => cases hlisting
  | indices names =>
    obtain rfl : names = listed := Option.some.inj hlisting
    obtain rfl := eq_indices_of_fetch hfetch
    refine ⟨rfl, ?_⟩
    cases hanswer : gateway.indices with
    | error fault => simp [fetch, hanswer, Except.map] at hfetch
    | ok reported => simpa [fetch, hanswer, Except.map] using hfetch

/-- An answer with fields was asked for those of the same index, and they are its mapping,
flattened. -/
theorem mapping_of_fetch {held : IndexFields} (hfetch : gateway.fetch request = .ok fetched)
    (hheld : fetched.held = some held) :
    request = .fields held.index ∧ ∃ response, gateway.mapping held.index = .ok response ∧
      response.fields held.index = some held.fields := by
  cases fetched with
  | indices names => cases hheld
  | values sample => cases hheld
  | fields index fields =>
    obtain rfl : ⟨index, fields⟩ = held := Option.some.inj hheld
    obtain rfl := eq_fields_of_fetch hfetch
    refine ⟨rfl, ?_⟩
    cases hanswer : gateway.mapping index with
    | error fault => simp [fetch, hanswer, bind, Except.bind] at hfetch
    | ok response =>
      refine ⟨response, rfl, ?_⟩
      cases hfields : response.fields index with
      | none =>
        simp [fetch, hanswer, MappingResponse.fieldsOf, hfields, bind, Except.bind] at hfetch
      | some found =>
        simpa [fetch, hanswer, MappingResponse.fieldsOf, hfields, bind, Except.bind, pure,
          Except.pure] using hfetch

end Gateway

namespace Catalog

theorem isInFlight_iff {catalog : Catalog} {key : FetchKey} :
    catalog.isInFlight key = true ↔ key ∈ catalog.inFlight := by
  simp [isInFlight]

theorem claim_eq_some_iff {catalog after : Catalog} {key : FetchKey} :
    catalog.claim key = some after ↔
      key ∉ catalog.inFlight ∧ after = { catalog with inFlight := key :: catalog.inFlight } := by
  unfold claim
  split_ifs with hbusy
  · simp [isInFlight_iff.mp hbusy]
  · have hfree : key ∉ catalog.inFlight := fun hmem ↦ hbusy (isInFlight_iff.mpr hmem)
    simp [hfree, eq_comm]

/-- A catalog with an index list and nothing else. -/
def stocked (names : List String) : Catalog :=
  { loaded := some names, known := names.eraseDups }

/-- Both copies of the index list hold the same names. -/
def Agrees (catalog : Catalog) : Prop :=
  ∀ name, catalog.knows name = true ↔ name ∈ catalog.indices

theorem agrees_empty : ({} : Catalog).Agrees := by
  intro name
  simp [knows, indices]

theorem Agrees.of_same {catalog other : Catalog} (hagrees : catalog.Agrees)
    (hloaded : other.loaded = catalog.loaded) (hknown : other.known = catalog.known) :
    other.Agrees := by
  intro name
  simpa only [knows, indices, hloaded, hknown] using hagrees name

/-- A list that is stored is stored in both copies, and one that is there already in neither. -/
theorem Agrees.storeIndices {catalog : Catalog} (hagrees : catalog.Agrees) (settings : Settings)
    (names : List String) : (catalog.storeIndices settings names).Agrees := by
  cases hloaded : catalog.loaded with
  | some kept =>
    simp only [Catalog.storeIndices, hloaded]
    exact hagrees
  | none =>
    intro name
    simp [Catalog.storeIndices, hloaded, knows, indices]

/-- The index list is missing until it is loaded, unless a fetch of it is under way. -/
theorem needs_indices_iff {catalog : Catalog} :
    catalog.needs .indices = true ↔ .indices ∉ catalog.inFlight ∧ catalog.loaded = none := by
  unfold needs
  by_cases hbusy : FetchKey.indices ∈ catalog.inFlight <;>
    simp [Request.key, isInFlight, hbusy]

/-- The fields of an index are missing when another list, or none, is resident and no fetch of
them is under way. -/
theorem needs_fields_iff {catalog : Catalog} {index : String} :
    catalog.needs (.fields index) = true ↔
      .fields index ∉ catalog.inFlight ∧
        ∀ held, catalog.resident = some held → held.index ≠ index := by
  unfold needs
  by_cases hbusy : FetchKey.fields index ∈ catalog.inFlight
  · simp [Request.key, isInFlight, hbusy]
  · cases hresident : catalog.resident with
    | none => simp [Request.key, isInFlight, hbusy, fieldsOf, hresident]
    | some held => by_cases hindex : held.index = index <;>
        simp [Request.key, isInFlight, hbusy, fieldsOf, hresident, hindex]

end Catalog

namespace Engine

variable {engine after : Engine} {request : Request}

/-- Nothing is under way for the request. Values have no key and are always free. -/
def Frees (engine : Engine) (request : Request) : Prop :=
  ∀ key ∈ request.key, key ∉ engine.catalog.inFlight

/-- The engine once the key of the request is taken. -/
def holding (engine : Engine) (request : Request) : Engine :=
  { engine with
    catalog := { engine.catalog with
      inFlight := request.key.toList ++ engine.catalog.inFlight } }

/-! ### Claims -/

theorem claim_eq_granted_iff :
    engine.claim request = .granted after ↔
      engine.closed = false ∧ engine.Frees request ∧ after = engine.holding request := by
  constructor
  · intro hclaim
    unfold claim at hclaim
    split_ifs at hclaim with hclosed
    have hopen : engine.closed = false := by simpa using hclosed
    cases hkey : request.key with
    | none =>
      rw [hkey] at hclaim
      injection hclaim with hafter
      exact ⟨hopen, by simp [Frees, hkey], by simp [holding, hkey, hafter]⟩
    | some key =>
      simp only [hkey] at hclaim
      split at hclaim
      next catalog hcatalog =>
        injection hclaim with hafter
        obtain ⟨hfree, rfl⟩ := Catalog.claim_eq_some_iff.mp hcatalog
        exact ⟨hopen, by simpa [Frees, hkey] using hfree, by simp [holding, hkey, ← hafter]⟩
      next => simp at hclaim
  · rintro ⟨hopen, hfree, rfl⟩
    unfold claim
    rw [if_neg (by simp [hopen])]
    cases hkey : request.key with
    | none => simp [holding, hkey]
    | some key => simp [holding, hkey, Catalog.claim_eq_some_iff.mpr ⟨hfree key hkey, rfl⟩]

theorem claim_of_frees (hopen : engine.closed = false) (hfree : engine.Frees request) :
    engine.claim request = .granted (engine.holding request) :=
  claim_eq_granted_iff.mpr ⟨hopen, hfree, rfl⟩

/-- Going through a queue either finds nothing to claim and changes nothing, or claims one
request of the queue that was free. -/
theorem proceed_cases (engine : Engine) (queue : List Request) :
    engine.proceed queue = (engine, none) ∨
      ∃ request rest, engine.closed = false ∧ engine.Frees request ∧
        engine.proceed queue = (engine.holding request, some (request, rest)) := by
  induction queue with
  | nil => exact Or.inl rfl
  | cons request rest ih =>
    cases hclaim : engine.claim request with
    | granted claimed =>
      obtain ⟨hopen, hfree, hclaimed⟩ := claim_eq_granted_iff.mp hclaim
      refine Or.inr ⟨request, rest, hopen, hfree, ?_⟩
      simp [proceed, hclaim, hclaimed]
    | busy => simpa [proceed, hclaim] using ih
    | gone => exact Or.inl (by simp [proceed, hclaim])

theorem proceed_cons_of_frees (hopen : engine.closed = false) (hfree : engine.Frees request)
    (rest : List Request) :
    engine.proceed (request :: rest) = (engine.holding request, some (request, rest)) := by
  simp [proceed, claim_of_frees hopen hfree]

@[simp] theorem holding_session : (engine.holding request).session = engine.session := rfl

@[simp] theorem holding_settings : (engine.holding request).settings = engine.settings := rfl

@[simp] theorem holding_closed : (engine.holding request).closed = engine.closed := rfl

@[simp] theorem holding_loaded :
    (engine.holding request).catalog.loaded = engine.catalog.loaded := rfl

@[simp] theorem holding_resident :
    (engine.holding request).catalog.resident = engine.catalog.resident := rfl

@[simp] theorem holding_inFlight :
    (engine.holding request).catalog.inFlight =
      request.key.toList ++ engine.catalog.inFlight := rfl

/-! ### Answers -/

theorem release_eq (engine : Engine) (request : Request) :
    engine.release request = { engine with
      catalog := { engine.catalog with
        inFlight := engine.catalog.inFlight.filter fun key ↦ request.key ≠ some key } } := by
  unfold release
  cases hkey : request.key with
  | none => simp
  | some key =>
    have hsame : (fun other ↦ decide (some key ≠ some other)) =
        fun other : FetchKey ↦ decide (other ≠ key) := by
      funext other
      simp [eq_comm]
    simp only [Catalog.release, hsame]

/-- A key that is given back leaves no trace. -/
theorem release_holding (hfree : engine.Frees request) :
    (engine.holding request).release request = engine := by
  have hown : request.key.toList.filter (fun key ↦ request.key ≠ some key) = [] := by
    cases request.key <;> simp
  have hothers : engine.catalog.inFlight.filter (fun key ↦ request.key ≠ some key) =
      engine.catalog.inFlight := by
    refine List.filter_eq_self.mpr fun key hkey ↦ ?_
    simpa using fun hsame ↦ hfree key hsame hkey
  rw [release_eq, holding_inFlight, List.filter_append, hown, hothers]
  rfl

@[simp] theorem store_session (engine : Engine) (fetched : Fetched) :
    (engine.store fetched).session = engine.session := by
  cases fetched <;> rfl

@[simp] theorem store_settings (engine : Engine) (fetched : Fetched) :
    (engine.store fetched).settings = engine.settings := by
  cases fetched <;> rfl

@[simp] theorem store_closed (engine : Engine) (fetched : Fetched) :
    (engine.store fetched).closed = engine.closed := by
  cases fetched <;> rfl

@[simp] theorem store_inFlight (engine : Engine) (fetched : Fetched) :
    (engine.store fetched).catalog.inFlight = engine.catalog.inFlight := by
  cases fetched with
  | indices names => cases hloaded : engine.catalog.loaded <;>
      simp [store, Catalog.storeIndices, hloaded]
  | fields index fields => rfl
  | values sample => rfl

/-- A new field list takes the place of the old one. -/
@[simp] theorem store_resident (engine : Engine) (fetched : Fetched) :
    (engine.store fetched).catalog.resident = fetched.held.or engine.catalog.resident := by
  cases fetched with
  | indices names => cases hloaded : engine.catalog.loaded <;>
      simp [store, Catalog.storeIndices, hloaded, Fetched.held]
  | fields index fields => rfl
  | values sample => rfl

/-- A new index list is filed only where none was. -/
@[simp] theorem store_loaded (engine : Engine) (fetched : Fetched) :
    (engine.store fetched).catalog.loaded =
      engine.catalog.loaded.or (fetched.listing.map (·.filter engine.settings.shows)) := by
  cases fetched with
  | indices names => cases hloaded : engine.catalog.loaded <;>
      simp [store, Catalog.storeIndices, hloaded, Fetched.listing]
  | fields index fields => simp [store, Catalog.storeFields, Fetched.listing]
  | values sample => simp [store, Fetched.listing]

/-- The names of an index list that is there stay known, and no others become so. -/
theorem store_known {listed : List String} (hloaded : engine.catalog.loaded = some listed)
    (fetched : Fetched) : (engine.store fetched).catalog.known = engine.catalog.known := by
  cases fetched with
  | indices names => simp [store, Catalog.storeIndices, hloaded]
  | fields index fields => rfl
  | values sample => rfl

theorem agrees_store (hagrees : engine.catalog.Agrees) (fetched : Fetched) :
    (engine.store fetched).catalog.Agrees := by
  cases fetched with
  | indices names => exact hagrees.storeIndices engine.settings names
  | fields index fields => exact hagrees.of_same rfl rfl
  | values sample => exact hagrees

/-- An answer frees the key of its request, and an open engine also files what it brings. -/
theorem absorb_cases (engine : Engine) (request : Request) (answer : Except Fault Fetched) :
    (engine.absorb request answer).1 = engine.release request ∨
      ∃ fetched, engine.closed = false ∧ answer = .ok fetched ∧
        (engine.absorb request answer).1 = (engine.release request).store fetched := by
  cases hclosed : (engine.release request).closed with
  | true => exact Or.inl (by simp [absorb, hclosed])
  | false =>
    have hopen : engine.closed = false := by simpa [release_eq] using hclosed
    cases answer with
    | error fault => exact Or.inl (by simp [absorb, hclosed])
    | ok fetched =>
      refine Or.inr ⟨fetched, hopen, rfl, ?_⟩
      cases fetched <;> simp [absorb, hclosed, store]

theorem absorb_error (engine : Engine) (request : Request) (fault : Fault) :
    (engine.absorb request (.error fault)).1 = engine.release request := by
  rcases absorb_cases engine request (.error fault) with habsorb | ⟨_, _, himpossible, _⟩
  · exact habsorb
  · cases himpossible

theorem absorb_ok (hopen : engine.closed = false) (fetched : Fetched) :
    (engine.absorb request (.ok fetched)).1 = (engine.release request).store fetched := by
  have hreleased : (engine.release request).closed = false := by simpa [release_eq] using hopen
  cases fetched <;> simp [absorb, hreleased, store]

/-- The key is free again whatever the answer brings, and also on a closed engine. -/
@[simp] theorem absorb_inFlight (engine : Engine) (request : Request)
    (answer : Except Fault Fetched) :
    (engine.absorb request answer).1.catalog.inFlight =
      engine.catalog.inFlight.filter fun key ↦ request.key ≠ some key := by
  rcases absorb_cases engine request answer with habsorb | ⟨_, _, _, habsorb⟩ <;>
    simp [habsorb, release_eq]

/-- An answer leaves the index list as it is, or it brings the first one. -/
theorem absorb_loaded (engine : Engine) (request : Request) (answer : Except Fault Fetched) :
    (engine.absorb request answer).1.catalog.loaded = engine.catalog.loaded ∨
      ∃ listed : List String, engine.catalog.loaded = none ∧
        (engine.absorb request answer).1.catalog.loaded =
          some (listed.filter engine.settings.shows) := by
  rcases absorb_cases engine request answer with habsorb | ⟨fetched, _, _, habsorb⟩
  · exact Or.inl (by simp [habsorb, release_eq])
  · have hloaded : (engine.absorb request answer).1.catalog.loaded = engine.catalog.loaded.or
        (fetched.listing.map (·.filter engine.settings.shows)) := by
      simp [habsorb, release_eq]
    cases hbefore : engine.catalog.loaded with
    | some names => exact Or.inl (by simpa [hbefore] using hloaded)
    | none =>
      cases hlisting : fetched.listing with
      | none => exact Or.inl (by simpa [hbefore, hlisting] using hloaded)
      | some listed => exact Or.inr ⟨listed, rfl, by simpa [hbefore, hlisting] using hloaded⟩

theorem agrees_absorb (hagrees : engine.catalog.Agrees) (request : Request)
    (answer : Except Fault Fetched) : (engine.absorb request answer).1.catalog.Agrees := by
  have hreleased : (engine.release request).catalog.Agrees := by
    rw [release_eq]
    exact hagrees.of_same rfl rfl
  rcases absorb_cases engine request answer with habsorb | ⟨fetched, -, -, habsorb⟩
  · rw [habsorb]
    exact hreleased
  · rw [habsorb]
    exact agrees_store hreleased fetched

@[simp] theorem absorb_session (engine : Engine) (request : Request)
    (answer : Except Fault Fetched) :
    (engine.absorb request answer).1.session = engine.session := by
  rcases absorb_cases engine request answer with habsorb | ⟨_, _, _, habsorb⟩ <;>
    simp [habsorb, release_eq]

@[simp] theorem absorb_settings (engine : Engine) (request : Request)
    (answer : Except Fault Fetched) :
    (engine.absorb request answer).1.settings = engine.settings := by
  rcases absorb_cases engine request answer with habsorb | ⟨_, _, _, habsorb⟩ <;>
    simp [habsorb, release_eq]

@[simp] theorem absorb_closed (engine : Engine) (request : Request)
    (answer : Except Fault Fetched) :
    (engine.absorb request answer).1.closed = engine.closed := by
  rcases absorb_cases engine request answer with habsorb | ⟨_, _, _, habsorb⟩ <;>
    simp [habsorb, release_eq]

/-! ### Readings and selections -/

@[simp] theorem prepare_catalog (engine : Engine) (text : String) :
    (engine.prepare text).engine.catalog = engine.catalog := by
  unfold prepare
  dsimp only
  split_ifs <;> rfl

@[simp] theorem prepare_settings (engine : Engine) (text : String) :
    (engine.prepare text).engine.settings = engine.settings := by
  unfold prepare
  dsimp only
  split_ifs <;> rfl

@[simp] theorem prepare_closed (engine : Engine) (text : String) :
    (engine.prepare text).engine.closed = engine.closed := by
  unfold prepare
  dsimp only
  split_ifs <;> simp_all

/-- What is taken changes nothing and asks for nothing, or it makes a known index active and asks
for its fields. -/
theorem select_cases (engine : Engine) (suggestion : Suggestion) :
    (engine.select suggestion).engine = engine ∧ (engine.select suggestion).requests = [] ∨
      ∃ index, engine.catalog.knows index = true ∧
        (engine.select suggestion).engine =
          { engine with session := { engine.session with activeIndex := some index } } ∧
        (engine.select suggestion).requests = Reading.fieldsRequest engine.catalog index := by
  unfold select
  dsimp only
  split
  · exact Or.inl ⟨rfl, rfl⟩
  next name _ =>
    split_ifs with htaken
    · exact Or.inr ⟨Vocabulary.indexReference name, (Bool.and_eq_true_iff.mp htaken).2, rfl, rfl⟩
    · exact Or.inl ⟨rfl, rfl⟩

theorem select_engine (engine : Engine) (suggestion : Suggestion) :
    ∃ session, (engine.select suggestion).engine = { engine with session } := by
  rcases engine.select_cases suggestion with ⟨hsame, -⟩ | ⟨index, -, htaken, -⟩
  · exact ⟨engine.session, hsame⟩
  · exact ⟨_, htaken⟩

end Engine

end PipedQuery
