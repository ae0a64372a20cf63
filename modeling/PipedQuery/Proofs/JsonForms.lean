import PipedQuery.Connection
import PipedQuery.Proofs.Records
import PipedQuery.Suggestion

/-!
Suggestions, settings and connections in JSON. Each of them is read back from the value as which it
is written, and also from that value in canonical order (`Recovers`): an optional member is missing
or holds something other than a null, details without content are an object without members and not
a missing one, and a type that is kept as it is written stands under a tag of its own, so that it
is not taken for a logical one. Settings and connections may lack any of their members, which then
have their defaults (`Settings.only`, `Connection.only`). `forms_recovered` is the summary.
-/

set_option autoImplicit false
set_option relaxedAutoImplicit false

namespace PipedQuery

namespace Json

/-- What is written is read back, also once it is in canonical order. -/
def Recovers {α : Type} (decode : Json → Option α) (value : Json) (a : α) : Prop :=
  decode value = some a ∧ decode value.canonical = some a

theorem string_string (text : String) : (string text).string? = some text := rfl

theorem bool_bool (value : Bool) : (bool value).bool? = some value := rfl

theorem word_ofWord (word : UInt64) : (ofWord word).word? = some word := by
  have hsize : word.toNat < UInt64.size := word.toNat_lt
  simp [ofWord, word?, hsize]

theorem Comprises.recovers {α : Type} {entries : List (String × Option Json)} {value : Json}
    {decode : Json → Option α} {a : α} (hvalue : Comprises entries value)
    (hentries : ∀ entry ∈ entries, entry.2.map Json.canonical = entry.2)
    (hdecode : ∀ value, Comprises entries value → decode value = some a) :
    Recovers decode value a :=
  ⟨hdecode value hvalue, hdecode value.canonical (hvalue.canonical hentries)⟩

/-- A value whose decoder has something in place of each member that is missing. -/
theorem recovers_of_keeping {α : Type} {members : List (String × Json)} {decode : Json → Option α}
    {only : List String → α} {a : α} (hnames : (members.map Prod.fst).Nodup)
    (hmembers : ∀ member ∈ members, member.2.canonical = member.2)
    (hdecode : ∀ names value, Comprises (keeping names members) value →
      decode value = some (only names))
    (hall : only (members.map Prod.fst) = a) : Recovers decode (.object members) a := by
  subst hall
  refine (comprises_of_subperm (List.Subperm.refl members) hnames).recovers ?_ (hdecode _)
  intro entry hentry
  obtain ⟨member, hmember, rfl⟩ := List.mem_map.mp hentry
  simp [List.mem_map_of_mem hmember, hmembers member hmember]

end Json

open Json

/-! ### Suggestions -/

namespace FieldType

theorem ofJson_toJson (type : FieldType) : ofJson type.toJson = some type := by
  cases type <;> rfl

theorem canonical_toJson (type : FieldType) : type.toJson.canonical = type.toJson := by
  cases type with
  | other raw => exact canonical_single rfl
  | _ => rfl

theorem toJson_ne_null (type : FieldType) : type.toJson ≠ .null := by
  cases type <;> exact Json.noConfusion

end FieldType

namespace Details

theorem ofJson_of_comprises {details : Details} {value : Json}
    (hvalue : Comprises [("docCount", details.count.map .ofWord),
      ("fieldType", details.type.map FieldType.toJson)] value) : ofJson value = some details := by
  obtain ⟨fields, hfields, hlookup⟩ := hvalue.record ["docCount", "fieldType"]
  have hcount : fields.optional "docCount" word? = some details.count :=
    Fields.optional_eq word_ofWord (by simp [ofWord]) (hlookup "docCount" (by simp))
  have htype : fields.optional "fieldType" FieldType.ofJson = some details.type :=
    Fields.optional_eq FieldType.ofJson_toJson FieldType.toJson_ne_null
      (hlookup "fieldType" (by simp))
  simp [ofJson, hvalue.fullRecord, hfields, hcount, htype]

theorem comprises_toJson (details : Details) :
    Comprises [("docCount", details.count.map .ofWord),
      ("fieldType", details.type.map FieldType.toJson)] details.toJson :=
  comprises_present (by simp)

theorem ofJson_toJson (details : Details) : ofJson details.toJson = some details :=
  ofJson_of_comprises details.comprises_toJson

theorem canonical_toJson (details : Details) : details.toJson.canonical = details.toJson := by
  obtain ⟨_ | count, _ | type⟩ := details
  · rfl
  · exact canonical_single type.canonical_toJson
  · exact canonical_single rfl
  · exact canonical_pair (by decide) rfl type.canonical_toJson

theorem toJson_ne_null (details : Details) : details.toJson ≠ .null :=
  Json.noConfusion

end Details

namespace Suggestion

theorem ofJson_of_comprises {suggestion : Suggestion} {value : Json}
    (hvalue : Comprises [
      ("label", some (.string suggestion.label)),
      ("replacementInput", some (.string suggestion.replaced)),
      ("suggestionTail", some (.string suggestion.tail)),
      ("itemName", suggestion.item.map .string),
      ("meta", suggestion.details.map Details.toJson)] value) :
    ofJson value = some suggestion := by
  obtain ⟨fields, hfields, hlookup⟩ := hvalue.record
    ["label", "replacementInput", "suggestionTail", "itemName", "meta"]
  have hlabel : fields.required "label" string? = some suggestion.label :=
    Fields.required_eq string_string (hlookup "label" (by simp))
  have hreplaced : fields.required "replacementInput" string? = some suggestion.replaced :=
    Fields.required_eq string_string (hlookup "replacementInput" (by simp))
  have htail : fields.required "suggestionTail" string? = some suggestion.tail :=
    Fields.required_eq string_string (hlookup "suggestionTail" (by simp))
  have hitem : fields.optional "itemName" string? = some suggestion.item :=
    Fields.optional_eq string_string (by simp) (hlookup "itemName" (by simp))
  have hdetails : fields.optional "meta" Details.ofJson = some suggestion.details :=
    Fields.optional_eq Details.ofJson_toJson Details.toJson_ne_null (hlookup "meta" (by simp))
  simp [ofJson, hvalue.fullRecord, hfields, hlabel, hreplaced, htail, hitem, hdetails]

theorem recovers_toJson (suggestion : Suggestion) :
    Recovers ofJson suggestion.toJson suggestion := by
  refine Comprises.recovers (comprises_present (by simp)) ?_ fun _ ↦ ofJson_of_comprises
  simp [canonical, Function.comp_def, Details.canonical_toJson]

end Suggestion

/-! ### Settings and connections -/

namespace Settings

/-- The settings as far as they are named, and the defaults in the other places. -/
def only (names : List String) (settings : Settings) : Settings where
  hideSystemIndices :=
    if "hide_system_indices" ∈ names then settings.hideSystemIndices
    else ({} : Settings).hideSystemIndices
  systemLead :=
    if "system_index_prefix" ∈ names then settings.systemLead else ({} : Settings).systemLead
  prefetchIndices :=
    if "prefetch_indices" ∈ names then settings.prefetchIndices
    else ({} : Settings).prefetchIndices

/-- The members as which settings are written. -/
def members (settings : Settings) : List (String × Json) :=
  [("hide_system_indices", .bool settings.hideSystemIndices),
    ("system_index_prefix", .string settings.systemLead),
    ("prefetch_indices", .bool settings.prefetchIndices)]

theorem nodup_members (settings : Settings) : (settings.members.map Prod.fst).Nodup := by
  simp [members]

theorem ofJson_of_comprises {settings : Settings} {names : List String} {value : Json}
    (hvalue : Comprises (keeping names settings.members) value) :
    ofJson value = some (settings.only names) := by
  obtain ⟨fields, hfields, hlookup⟩ := hvalue.record
    ["hide_system_indices", "system_index_prefix", "prefetch_indices"]
  have hhide : fields.withDefault "hide_system_indices" true bool? =
      some (settings.only names).hideSystemIndices :=
    Fields.withDefault_eq bool_bool (hlookup "hide_system_indices" (by simp))
  have hlead : fields.withDefault "system_index_prefix" "." string? =
      some (settings.only names).systemLead :=
    Fields.withDefault_eq string_string (hlookup "system_index_prefix" (by simp))
  have hprefetch : fields.withDefault "prefetch_indices" true bool? =
      some (settings.only names).prefetchIndices :=
    Fields.withDefault_eq bool_bool (hlookup "prefetch_indices" (by simp))
  simp [ofJson, hfields, hhide, hlead, hprefetch]

/-- Settings are read back from any of their members, in any order. -/
theorem ofJson_part {settings : Settings} {full part : List (String × Json)}
    (hfull : settings.toJson = .object full) (hpart : part.Subperm full) :
    ofJson (.object part) = some (settings.only (part.map Prod.fst)) := by
  obtain rfl : settings.members = full := Json.object.inj hfull
  exact ofJson_of_comprises (comprises_of_subperm hpart settings.nodup_members)

theorem recovers_toJson (settings : Settings) : Recovers ofJson settings.toJson settings :=
  recovers_of_keeping settings.nodup_members (by simp [canonical])
    (fun _ _ ↦ ofJson_of_comprises) (by simp [only])

end Settings

namespace Credentials

theorem ofJson_toJson (listed : Bool) (credentials : Credentials) :
    ofJson listed credentials.toJson = some credentials := by
  cases credentials with
  | basic username password => cases listed <;> rfl
  | _ => rfl

theorem canonical_toJson (credentials : Credentials) :
    credentials.toJson.canonical = credentials.toJson := by
  cases credentials with
  | none => rfl
  | apiKey key => exact canonical_single rfl
  | bearer token => exact canonical_single rfl
  | basic username password => exact canonical_single (canonical_pair (by decide) rfl rfl)

end Credentials

namespace Connection

/-- The connection as far as it is named, and the defaults in the other places. -/
def only (names : List String) (connection : Connection) : Connection where
  baseUrl := if "base_url" ∈ names then connection.baseUrl else ({} : Connection).baseUrl
  credentials := if "auth" ∈ names then connection.credentials else ({} : Connection).credentials
  timeout := if "timeout_ms" ∈ names then connection.timeout else ({} : Connection).timeout
  sampleSize :=
    if "value_sample_size" ∈ names then connection.sampleSize else ({} : Connection).sampleSize

/-- The members as which a connection is written. -/
def members (connection : Connection) : List (String × Json) :=
  [("base_url", .string connection.baseUrl), ("auth", connection.credentials.toJson),
    ("timeout_ms", .ofWord connection.timeout),
    ("value_sample_size", .ofWord connection.sampleSize)]

theorem nodup_members (connection : Connection) : (connection.members.map Prod.fst).Nodup := by
  simp [members]

theorem decode_of_comprises {connection : Connection} {names : List String} {value : Json}
    (listed : Bool) (hvalue : Comprises (keeping names connection.members) value) :
    decode listed value = some (connection.only names) := by
  obtain ⟨fields, hfields, hlookup⟩ := hvalue.record
    ["base_url", "auth", "timeout_ms", "value_sample_size"]
  have hbaseUrl : fields.withDefault "base_url" "http://localhost:9200" string? =
      some (connection.only names).baseUrl :=
    Fields.withDefault_eq string_string (hlookup "base_url" (by simp))
  have hcredentials : fields.withDefault "auth" .none (Credentials.ofJson listed) =
      some (connection.only names).credentials :=
    Fields.withDefault_eq (Credentials.ofJson_toJson listed) (hlookup "auth" (by simp))
  have htimeout : fields.withDefault "timeout_ms" 30000 word? =
      some (connection.only names).timeout :=
    Fields.withDefault_eq word_ofWord (hlookup "timeout_ms" (by simp))
  have hsampleSize : fields.withDefault "value_sample_size" 10 word? =
      some (connection.only names).sampleSize :=
    Fields.withDefault_eq word_ofWord (hlookup "value_sample_size" (by simp))
  simp [decode, hfields, hbaseUrl, hcredentials, htimeout, hsampleSize]

theorem decode_part {connection : Connection} {full part : List (String × Json)} (listed : Bool)
    (hfull : connection.toJson = .object full) (hpart : part.Subperm full) :
    decode listed (.object part) = some (connection.only (part.map Prod.fst)) := by
  obtain rfl : connection.members = full := Json.object.inj hfull
  exact decode_of_comprises listed (comprises_of_subperm hpart connection.nodup_members)

theorem recovers_toJson (listed : Bool) (connection : Connection) :
    Recovers (decode listed) connection.toJson connection :=
  recovers_of_keeping connection.nodup_members
    (by simp [canonical, ofWord, Credentials.canonical_toJson])
    (fun _ _ ↦ decode_of_comprises listed) (by simp [only])

end Connection

/-- Suggestions, settings and connections are read back from what they are written as. Settings and
connections of which only a part is there, in any order, have the defaults for the rest. -/
theorem forms_recovered :
    (∀ suggestion : Suggestion, Recovers Suggestion.ofJson suggestion.toJson suggestion) ∧
      (∀ settings : Settings, Recovers Settings.ofJson settings.toJson settings) ∧
      (∀ (listed : Bool) (connection : Connection),
        Recovers (Connection.decode listed) connection.toJson connection) ∧
      (∀ (settings : Settings) (full part : List (String × Json)),
        settings.toJson = .object full → part.Subperm full →
          Settings.ofJson (.object part) = some (settings.only (part.map Prod.fst))) ∧
      ∀ (listed : Bool) (connection : Connection) (full part : List (String × Json)),
        connection.toJson = .object full → part.Subperm full →
          Connection.decode listed (.object part) =
            some (connection.only (part.map Prod.fst)) :=
  ⟨Suggestion.recovers_toJson, Settings.recovers_toJson, Connection.recovers_toJson,
    fun _ _ _ ↦ Settings.ofJson_part, fun listed _ _ _ ↦ Connection.decode_part listed⟩

/-- A lead alone, and a connection of which the credentials and the time to wait are given, in the
other order. -/
theorem forms_recovered_missing :
    Settings.ofJson (.object [("system_index_prefix", .string "sys-")]) =
        some { systemLead := "sys-" } ∧
      Connection.ofJson (.object [("timeout_ms", .ofWord 500),
          ("auth", .object [("bearer", .string "none")])]) =
        some { credentials := .bearer "none", timeout := 500 } := by
  let settings : Settings :=
    { hideSystemIndices := false, systemLead := "sys-", prefetchIndices := false }
  let connection : Connection := ⟨"http://a", .bearer "none", 500, 3⟩
  have hlead : [("system_index_prefix", Json.string "sys-")].Subperm settings.members :=
    (((List.nil_sublist _).cons_cons _).cons _).subperm
  have hbefore : [("auth", Json.object [("bearer", .string "none")]),
      ("timeout_ms", .ofWord 500)].Sublist connection.members :=
    (((List.nil_sublist _).cons_cons _).cons_cons _).cons _
  obtain ⟨-, -, -, hsettings, hconnection⟩ := forms_recovered
  exact ⟨hsettings settings _ _ rfl hlead,
    hconnection false connection _ _ rfl ((List.Perm.swap _ _ []).subperm.trans hbefore.subperm)⟩

end PipedQuery
