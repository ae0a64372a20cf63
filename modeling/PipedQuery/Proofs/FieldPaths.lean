import Mathlib.Data.List.Nodup
import Mathlib.Data.String.Basic
import PipedQuery.Catalog
import PipedQuery.Gateway
import PipedQuery.Proofs.Records
import PipedQuery.Proofs.Words

/-!
The fields of an index and its tree of properties. `typed` is the walk of a tree that comes to a
property before what is below it, with the path of names to every typed one. Where siblings are in
the order of their names, as in every decoded response (`ordered_ofJson`), the paths ascend
(`typed_pairwise`), and they are exactly those along which the tree can be walked to a type
(`mem_typed_iff`). The dotted names of the flattened fields are these paths (`fieldsAt_eq_map`), and
a path can be read back from its name as long as no name in it has a dot (`split_dotted`). So the
list of fields is an index of the tree (`fieldsOf_faithful`).
-/

set_option autoImplicit false
set_option relaxedAutoImplicit false

namespace PipedQuery

namespace Property

/-- The properties right below. -/
def offspring (property : Property) : List (String × Property) :=
  property.children.getD []

/-- The tree of an index, under a root without a type. -/
def root (properties : List (String × Property)) : Property :=
  node none (some properties)

/-- The property at the end of a path of names. -/
def walk : List String → Property → Option Property
  | [], property => some property
  | name :: path, property => (property.offspring.lookup name).bind (walk path)

/-- The type at the end of a path of names. -/
def typeAt (path : List String) (property : Property) : Option String :=
  (property.walk path).bind type

mutual

/-- The typed properties of a subtree, each with the path to it from the root of the subtree. -/
def typed : Property → List (List String × String)
  | node type none => (type.map (([] : List String), ·)).toList
  | node type (some children) => (type.map (([] : List String), ·)).toList ++ typedAmong children

/-- The typed properties of siblings and of what is below them. -/
def typedAmong : List (String × Property) → List (List String × String)
  | [] => []
  | (name, property) :: rest =>
    (property.typed.map fun entry ↦ (name :: entry.1, entry.2)) ++ typedAmong rest

end

mutual

/-- The names right below every property of a subtree. -/
def levels : Property → List (List String)
  | node _ none => [[]]
  | node _ (some children) => children.map Prod.fst :: levelsAmong children

def levelsAmong : List (String × Property) → List (List String)
  | [] => []
  | (_, property) :: rest => property.levels ++ levelsAmong rest

end

/-- Siblings are in the order of their names, without repetition, at every depth. -/
def Ordered (property : Property) : Prop :=
  ∀ level ∈ property.levels, level.Pairwise (· < ·)

/-- Every name, at every depth, is non-empty and has no dot. -/
def Named (property : Property) : Prop :=
  ∀ level ∈ property.levels, ∀ name ∈ level, name ≠ "" ∧ '.' ∉ name.toList

/-- The name of the field at the end of a path. -/
def dotted (path : List String) : String :=
  String.intercalate "." path

/-! ### Trees -/

mutual

/-- What holds of a property whenever it holds of all right below it holds of every property. -/
theorem induction_offspring {motive : Property → Prop}
    (hstep : ∀ property : Property,
      (∀ child ∈ property.offspring, motive child.2) → motive property) :
    ∀ property, motive property
  | node _ none => hstep _ (fun _ hchild ↦ (nomatch hchild))
  | node _ (some children) => hstep _ (induction_among hstep children)

theorem induction_among {motive : Property → Prop}
    (hstep : ∀ property : Property,
      (∀ child ∈ property.offspring, motive child.2) → motive property) :
    ∀ (children : List (String × Property)), ∀ child ∈ children, motive child.2
  | [], _, hchild => nomatch hchild
  | (_, first) :: rest, child, hchild => by
    rcases List.mem_cons.mp hchild with rfl | hrest
    · exact induction_offspring hstep first
    · exact induction_among hstep rest child hrest

end

theorem typedAmong_eq_flatMap (siblings : List (String × Property)) :
    typedAmong siblings = siblings.flatMap fun child ↦
      child.2.typed.map fun entry ↦ (child.1 :: entry.1, entry.2) := by
  induction siblings with
  | nil => rfl
  | cons child rest ih => rw [typedAmong, ih, List.flatMap_cons]

theorem typed_eq (property : Property) :
    property.typed = (property.type.map (([] : List String), ·)).toList ++
      property.offspring.flatMap fun child ↦
        child.2.typed.map fun entry ↦ (child.1 :: entry.1, entry.2) := by
  obtain ⟨type, _ | children⟩ := property
  · simp [typed, Property.type, offspring, Property.children]
  · rw [typed, typedAmong_eq_flatMap]
    rfl

theorem levelsAmong_eq_flatMap (siblings : List (String × Property)) :
    levelsAmong siblings = siblings.flatMap fun child ↦ child.2.levels := by
  induction siblings with
  | nil => rfl
  | cons child rest ih => rw [levelsAmong, ih, List.flatMap_cons]

theorem levels_eq (property : Property) :
    property.levels = property.offspring.map Prod.fst ::
      property.offspring.flatMap fun child ↦ child.2.levels := by
  obtain ⟨type, _ | children⟩ := property
  · rfl
  · rw [levels, levelsAmong_eq_flatMap]
    rfl

theorem flatten_eq_flatMap (parent : String) (siblings : List (String × Property)) :
    flatten parent siblings =
      siblings.flatMap fun child ↦ fieldsAt (path parent child.1) child.2 := by
  induction siblings with
  | nil => rfl
  | cons child rest ih => rw [flatten, ih, List.flatMap_cons]

theorem fieldsAt_eq (path : String) (property : Property) :
    fieldsAt path property = own path property.type ++ flatten path property.offspring := by
  obtain ⟨type, _ | children⟩ := property
  · simp [fieldsAt, Property.type, offspring, Property.children, flatten]
  · rfl

section Levels

variable {property : Property} {child : String × Property}

theorem levels_subset (hchild : child ∈ property.offspring) :
    child.2.levels ⊆ property.levels := by
  intro level hlevel
  rw [levels_eq]
  exact List.mem_cons_of_mem _ (List.mem_flatMap.mpr ⟨child, hchild, hlevel⟩)

theorem names_mem_levels (property : Property) :
    property.offspring.map Prod.fst ∈ property.levels := by
  rw [levels_eq]
  exact List.mem_cons_self

theorem Ordered.names (hordered : property.Ordered) :
    (property.offspring.map Prod.fst).Pairwise (· < ·) :=
  hordered _ property.names_mem_levels

theorem Ordered.descend (hordered : property.Ordered) (hchild : child ∈ property.offspring) :
    child.2.Ordered :=
  fun level hlevel ↦ hordered level (levels_subset hchild hlevel)

theorem Named.name (hnamed : property.Named) (hchild : child ∈ property.offspring) :
    child.1 ≠ "" ∧ '.' ∉ child.1.toList :=
  hnamed _ property.names_mem_levels _ (List.mem_map_of_mem hchild)

theorem Named.descend (hnamed : property.Named) (hchild : child ∈ property.offspring) :
    child.2.Named :=
  fun level hlevel ↦ hnamed level (levels_subset hchild hlevel)

end Levels

/-! ### Walks -/

variable {property : Property} {path : List String} {raw : String}

theorem mem_typed_nil : ([], raw) ∈ property.typed ↔ property.type = some raw := by
  rw [typed_eq]
  cases property.type <;> simp [eq_comm]

theorem mem_typed_cons {name : String} :
    (name :: path, raw) ∈ property.typed ↔
      ∃ child, (name, child) ∈ property.offspring ∧ (path, raw) ∈ child.typed := by
  rw [typed_eq]
  cases property.type <;> simp

/-- The typed properties are those that a walk ends at. -/
theorem mem_typed_iff (hordered : property.Ordered) :
    (path, raw) ∈ property.typed ↔ property.typeAt path = some raw := by
  induction path generalizing property with
  | nil => exact mem_typed_nil
  | cons name path ih =>
    rw [mem_typed_cons, typeAt, walk, Option.bind_assoc, Option.bind_eq_some_iff]
    refine exists_congr fun child ↦ ?_
    rw [lookup_iff_mem hordered.names.nodup]
    refine and_congr_right fun hchild ↦ ?_
    exact ih (hordered.descend hchild)

/-- The paths of the typed properties ascend: a path comes before its continuations, and of two
paths that part the one with the lesser name comes first. -/
theorem typed_pairwise (hordered : property.Ordered) :
    (property.typed.map Prod.fst).Pairwise (· < ·) := by
  induction property using induction_offspring with
  | hstep property ih =>
    rw [typed_eq, List.pairwise_map, List.pairwise_append, List.pairwise_flatMap]
    refine ⟨?_, ⟨?_, ?_⟩, ?_⟩
    · cases property.type <;> simp
    · intro child hchild
      have hbelow := List.pairwise_map.mp (ih child hchild (hordered.descend hchild))
      rw [List.pairwise_map]
      refine hbelow.imp fun hless ↦ ?_
      exact List.cons_lt_cons_iff.mpr (Or.inr ⟨rfl, hless⟩)
    · refine (List.pairwise_map.mp hordered.names).imp fun {first second} hless ↦ ?_
      intro entry hentry other hother
      obtain ⟨_, _, rfl⟩ := List.mem_map.mp hentry
      obtain ⟨_, _, rfl⟩ := List.mem_map.mp hother
      exact List.cons_lt_cons_iff.mpr (Or.inl hless)
    · intro entry hentry other hother
      obtain ⟨child, _, hother⟩ := List.mem_flatMap.mp hother
      obtain ⟨_, _, rfl⟩ := List.mem_map.mp hother
      obtain ⟨_, _, rfl⟩ := Option.map_eq_some_iff.mp (Option.mem_toList.mp hentry)
      exact List.nil_lt_cons _ _

theorem Named.walk {found : Property} (hnamed : property.Named)
    (hwalk : property.walk path = some found) : ∀ name ∈ path, '.' ∉ name.toList := by
  induction path generalizing property with
  | nil => simp
  | cons name path ih =>
    rw [Property.walk, Option.bind_eq_some_iff] at hwalk
    obtain ⟨child, hlookup, hwalk⟩ := hwalk
    have hchild := mem_of_lookup hlookup
    refine List.forall_mem_cons.mpr ⟨(hnamed.name hchild).2, ?_⟩
    exact ih (hnamed.descend hchild) hwalk

/-! ### Dotted names -/

theorem dotted_concat {parent : List String} (hparent : parent ≠ []) (name : String) :
    dotted (parent ++ [name]) = dotted parent ++ "." ++ name := by
  induction parent with
  | nil => exact absurd rfl hparent
  | cons first rest ih =>
    rcases eq_or_ne rest [] with rfl | hrest
    · simp [dotted, String.intercalate_cons_of_ne_nil]
    · have hsome : rest ++ [name] ≠ [] := by simp
      have hdotted : String.intercalate "." (rest ++ [name]) =
          String.intercalate "." rest ++ "." ++ name := ih hrest
      rw [dotted, dotted, List.cons_append, String.intercalate_cons_of_ne_nil hsome,
        String.intercalate_cons_of_ne_nil hrest, hdotted]
      simp only [String.append_assoc]

/-- A parent without a name is the root alone. -/
def Nameable (parent : List String) : Prop :=
  dotted parent = "" → parent = []

theorem path_dotted {parent : List String} (hparent : Nameable parent) (name : String) :
    Property.path (dotted parent) name = dotted (parent ++ [name]) := by
  unfold Property.path
  split_ifs with hroot
  · obtain rfl := hparent (by simpa using hroot)
    simp [dotted]
  · have hsome : parent ≠ [] := by
      rintro rfl
      exact hroot rfl
    rw [dotted_concat hsome]

theorem nameable_concat {parent : List String} (hparent : Nameable parent) {name : String}
    (hname : name ≠ "") : Nameable (parent ++ [name]) := by
  intro hempty
  rcases eq_or_ne parent [] with rfl | hsome
  · exact absurd (by simpa [dotted] using hempty) hname
  · rw [dotted_concat hsome] at hempty
    simp at hempty

/-- The fields of a subtree are its typed properties, each under its whole path. -/
theorem fieldsAt_eq_map (hnamed : property.Named) {parent : List String}
    (hparent : Nameable parent) :
    fieldsAt (dotted parent) property = property.typed.map fun entry ↦
      ⟨dotted (parent ++ entry.1), FieldType.ofBackend entry.2⟩ := by
  induction property using induction_offspring generalizing parent with
  | hstep property ih =>
    rw [fieldsAt_eq, typed_eq, List.map_append, flatten_eq_flatMap, List.map_flatMap]
    congr 1
    · cases property.type <;> simp [own]
    · refine List.flatMap_congr fun child hchild ↦ ?_
      have hname := (hnamed.name hchild).1
      rw [path_dotted hparent, ih child hchild (hnamed.descend hchild)
        (nameable_concat hparent hname), List.map_map]
      simp [Function.comp_def]

theorem split_dotted (hpath : path ≠ []) (hdots : ∀ name ∈ path, '.' ∉ name.toList) :
    Text.split '.' (dotted path) = path := by
  have hcut : (dotted path).toList.splitOn '.' = path.map String.toList := by
    rw [dotted, String.toList_intercalate]
    refine List.splitOn_intercalate '.' ?_ (by simpa using hpath)
    simpa using hdots
  rw [Text.split, Text.stretches_eq_splitOn, hcut, List.map_map]
  simp [Function.comp_def]

theorem dotted_split (name : String) : dotted (Text.split '.' name) = name := by
  rw [← String.toList_inj, dotted, String.toList_intercalate, Text.split,
    Text.stretches_eq_splitOn, List.map_map]
  simp [Function.comp_def, List.intercalate_splitOn]

/-! ### Decoded trees -/

section Decoding

variable {α : Type} {name : String} {entry : α} {list entries : List (String × α)}
  {pair : String × α}

theorem of_mem_insertNamed (hmem : pair ∈ insertNamed name entry list) :
    pair = (name, entry) ∨ pair ∈ list := by
  fun_induction insertNamed name entry list with
  | case1 => exact Or.inl (List.mem_singleton.mp hmem)
  | case2 held rest => exact (List.mem_cons.mp hmem).imp_right (List.mem_cons_of_mem _)
  | case3 other held rest hdiffers hless => exact List.mem_cons.mp hmem
  | case4 other held rest hdiffers hgreater ih =>
    rcases List.mem_cons.mp hmem with rfl | hrest
    · exact Or.inr List.mem_cons_self
    · exact (ih hrest).imp_right (List.mem_cons_of_mem _)

theorem insertNamed_pairwise (hascending : (list.map Prod.fst).Pairwise (· < ·)) :
    ((insertNamed name entry list).map Prod.fst).Pairwise (· < ·) := by
  rw [List.pairwise_map] at hascending ⊢
  fun_induction insertNamed name entry list with
  | case1 => exact List.pairwise_singleton _ _
  | case2 held rest =>
    obtain ⟨hfirst, hrest⟩ := List.pairwise_cons.mp hascending
    exact List.pairwise_cons.mpr ⟨hfirst, hrest⟩
  | case3 other held rest hdiffers hless =>
    obtain ⟨hfirst, -⟩ := List.pairwise_cons.mp hascending
    refine List.pairwise_cons.mpr ⟨List.forall_mem_cons.mpr ⟨hless, ?_⟩, hascending⟩
    intro later hlater
    exact String.lt_trans hless (hfirst later hlater)
  | case4 other held rest hdiffers hgreater ih =>
    obtain ⟨hfirst, hrest⟩ := List.pairwise_cons.mp hascending
    refine List.pairwise_cons.mpr ⟨?_, ih hrest⟩
    intro later hlater
    rcases of_mem_insertNamed hlater with rfl | hlater
    · exact lt_of_le_of_ne (not_lt.mp hgreater) (Ne.symm hdiffers)
    · exact hfirst later hlater

theorem ordered_concat (entries : List (String × α)) (pair : String × α) :
    ordered (entries ++ [pair]) = insertNamed pair.1 pair.2 (ordered entries) := by
  simp [ordered]

theorem ordered_pairwise (entries : List (String × α)) :
    ((ordered entries).map Prod.fst).Pairwise (· < ·) := by
  induction entries using List.reverseRecOn with
  | nil => exact List.Pairwise.nil
  | append_singleton entries pair ih =>
    rw [ordered_concat]
    exact insertNamed_pairwise ih

theorem mem_of_mem_ordered (hmem : pair ∈ ordered entries) : pair ∈ entries := by
  induction entries using List.reverseRecOn with
  | nil => exact hmem
  | append_singleton entries last ih =>
    rw [ordered_concat] at hmem
    rcases of_mem_insertNamed hmem with rfl | hbefore
    · simp
    · exact List.mem_append_left _ (ih hbefore)

theorem of_mem_mapM {β : Type} {decode : α → Option β} {members : List α} {decoded : List β}
    (hdecoded : members.mapM decode = some decoded) {b : β} (hmem : b ∈ decoded) :
    ∃ member, decode member = some b := by
  induction members generalizing decoded with
  | nil =>
    obtain rfl : [] = decoded := by simpa using hdecoded
    cases hmem
  | cons member rest ih =>
    simp only [List.mapM_cons, bind, Option.bind_eq_some_iff, pure, Option.some.injEq] at hdecoded
    obtain ⟨first, hfirst, others, hothers, rfl⟩ := hdecoded
    rcases List.mem_cons.mp hmem with rfl | hrest
    · exact ⟨member, hfirst⟩
    · exact ih hothers hrest

/-- A decoded object has its entries in order, and every one was decoded. -/
theorem of_decodeEach {decode : Json → Option α} {value : Json}
    (hdecoded : decodeEach decode value = some entries) :
    (entries.map Prod.fst).Pairwise (· < ·) ∧
      ∀ entry ∈ entries, ∃ member, decode member = some entry.2 := by
  simp only [decodeEach, bind, Option.bind_eq_some_iff, pure, Option.some.injEq] at hdecoded
  obtain ⟨members, -, decoded, hmembers, rfl⟩ := hdecoded
  refine ⟨ordered_pairwise decoded, fun entry hentry ↦ ?_⟩
  obtain ⟨member, hmember⟩ := of_mem_mapM hmembers (mem_of_mem_ordered hentry)
  obtain ⟨found, hfound, rfl⟩ := Option.map_eq_some_iff.mp hmember
  exact ⟨member.2, hfound⟩

end Decoding

theorem ordered_of_offspring (hnames : (property.offspring.map Prod.fst).Pairwise (· < ·))
    (hoffspring : ∀ child ∈ property.offspring, child.2.Ordered) : property.Ordered := by
  intro level hlevel
  rw [levels_eq] at hlevel
  rcases List.mem_cons.mp hlevel with rfl | hbelow
  · exact hnames
  · obtain ⟨child, hchild, hlevel⟩ := List.mem_flatMap.mp hbelow
    exact hoffspring child hchild level hlevel

theorem ordered_ofJsonWithin {depth : Nat} {value : Json}
    (hdecoded : ofJsonWithin depth value = some property) : property.Ordered := by
  induction depth generalizing value property with
  | zero => cases hdecoded
  | succ depth ih =>
    simp only [ofJsonWithin, bind, Option.bind_eq_some_iff, pure, Option.some.injEq] at hdecoded
    obtain ⟨fields, -, type, -, children, hchildren, rfl⟩ := hdecoded
    unfold Json.Fields.optional at hchildren
    split at hchildren
    · obtain rfl := Option.some.inj hchildren
      exact ordered_of_offspring List.Pairwise.nil (fun _ hchild ↦ (nomatch hchild))
    · obtain rfl := Option.some.inj hchildren
      exact ordered_of_offspring List.Pairwise.nil (fun _ hchild ↦ (nomatch hchild))
    · obtain ⟨entries, hentries, rfl⟩ := Option.map_eq_some_iff.mp hchildren
      obtain ⟨hnames, hdecoded⟩ := of_decodeEach hentries
      refine ordered_of_offspring hnames fun child hchild ↦ ?_
      obtain ⟨member, hmember⟩ := hdecoded child hchild
      exact ih hmember

end Property

namespace Catalog

/-- Filed fields are found by their names, the first of equal ones. -/
theorem typeOf_storeFields (catalog : Catalog) (index : String) (fields : List Field)
    (name : String) :
    (catalog.storeFields index fields).typeOf index name =
      (fields.find? (·.name = name)).map Field.type := by
  simp [typeOf, fieldsOf, storeFields]

end Catalog

namespace MappingResponse

open Property

/-- The trees of all indices are in the order of their names. -/
def Ordered (response : MappingResponse) : Prop :=
  ∀ entry ∈ response, (root entry.2).Ordered

/-- Whatever document a response is decoded from, its trees are in order. -/
theorem ordered_ofJson {value : Json} {response : MappingResponse}
    (hdecoded : MappingResponse.ofJson value = some response) : response.Ordered := by
  intro entry hentry
  obtain ⟨member, hmember⟩ := (of_decodeEach hdecoded).2 entry hentry
  simp only [propertiesOfJson, bind, Option.bind_eq_some_iff] at hmember
  obtain ⟨fields, -, hmappings⟩ := hmember
  unfold Json.Fields.withDefault at hmappings
  have hempty : (root []).Ordered :=
    ordered_of_offspring List.Pairwise.nil (fun _ hchild ↦ (nomatch hchild))
  split at hmappings
  · rwa [← Option.some.inj hmappings]
  · simp only [Option.bind_eq_some_iff] at hmappings
    obtain ⟨fields, -, hproperties⟩ := hmappings
    split at hproperties
    · rwa [← Option.some.inj hproperties]
    · obtain ⟨hnames, hdecoded⟩ := of_decodeEach hproperties
      refine ordered_of_offspring hnames fun child hchild ↦ ?_
      obtain ⟨document, hdocument⟩ := hdecoded child hchild
      exact ordered_ofJsonWithin hdocument

section Tree

variable {properties : List (String × Property)} (hordered : (root properties).Ordered)
  (hnamed : (root properties).Named)

include hordered hnamed

/-- The path to a typed property can be read back from the name of its field. -/
theorem split_dotted_of_mem {path : List String}
    (hmem : path ∈ (root properties).typed.map Prod.fst) :
    Text.split '.' (dotted path) = path := by
  obtain ⟨⟨_, raw⟩, hentry, rfl⟩ := List.mem_map.mp hmem
  obtain ⟨found, hwalk, htype⟩ := Option.bind_eq_some_iff.mp ((mem_typed_iff hordered).mp hentry)
  refine split_dotted ?_ (hnamed.walk hwalk)
  -- The root has no type, so no path to a type is empty.
  rintro rfl
  obtain rfl := Option.some.inj hwalk
  cases htype

theorem nodup_dotted : ((root properties).typed.map fun entry ↦ dotted entry.1).Nodup := by
  have hpaths : ((root properties).typed.map Prod.fst).Nodup := (typed_pairwise hordered).nodup
  have hnames : (((root properties).typed.map Prod.fst).map dotted).Nodup := by
    refine hpaths.map_on fun path hpath other hother hsame ↦ ?_
    rw [← split_dotted_of_mem hordered hnamed hpath, hsame,
      split_dotted_of_mem hordered hnamed hother]
  rwa [List.map_map] at hnames

/-- The entry that is found under a name is the one whose path the name spells. -/
theorem find?_dotted_iff {name raw : String} :
    (∃ path, (root properties).typed.find? (fun entry ↦ dotted entry.1 = name) =
        some (path, raw)) ↔
      (root properties).typeAt (Text.split '.' name) = some raw := by
  have hspells : ∀ entry ∈ (root properties).typed, dotted entry.1 = name →
      (root properties).typeAt (Text.split '.' name) = some entry.2 := by
    rintro entry hentry rfl
    rw [split_dotted_of_mem hordered hnamed (List.mem_map_of_mem hentry)]
    exact (mem_typed_iff hordered).mp hentry
  constructor
  · rintro ⟨path, hfound⟩
    exact hspells _ (List.mem_of_find?_eq_some hfound) (by simpa using List.find?_some hfound)
  · intro htype
    have hentry := (mem_typed_iff hordered).mpr htype
    cases hfound : (root properties).typed.find? fun entry ↦ dotted entry.1 = name with
    | none =>
      have hnone := List.find?_eq_none.mp hfound _ hentry
      simp [dotted_split] at hnone
    | some entry =>
      have hown := hspells entry (List.mem_of_find?_eq_some hfound)
        (by simpa using List.find?_some hfound)
      obtain rfl := Option.some.inj (htype.symm.trans hown)
      exact ⟨entry.1, rfl⟩

end Tree

/-- The flattened fields of an index are an index of its tree. They are the typed properties, each
once and nothing else, a property before what is below it and siblings by name, since that is the
ascending order of their paths. Their dotted names are distinct, and the type that is found under
a name, once the fields are filed, is the logical type of the property to which the parts of the
name lead. -/
theorem fieldsOf_faithful {response : MappingResponse} {index : String}
    {properties : List (String × Property)} (hindex : response.lookup index = some properties)
    (hordered : response.Ordered) (hnamed : (root properties).Named) :
    ∃ fields, response.fieldsOf index = .ok fields ∧
      fields = ((root properties).typed.map fun entry ↦
        ⟨dotted entry.1, FieldType.ofBackend entry.2⟩) ∧
      (∀ path raw, (path, raw) ∈ (root properties).typed ↔
        (root properties).typeAt path = some raw) ∧
      ((root properties).typed.map Prod.fst).Pairwise (· < ·) ∧
      (fields.map Field.name).Nodup ∧
      ∀ (catalog : Catalog) (name : String) (type : FieldType),
        (catalog.storeFields index fields).typeOf index name = some type ↔
          ∃ raw, (root properties).typeAt (Text.split '.' name) = some raw ∧
            type = FieldType.ofBackend raw := by
  have htree : (root properties).Ordered := hordered _ (mem_of_lookup hindex)
  have hfields : flatten "" properties = (root properties).typed.map fun entry ↦
      (⟨dotted entry.1, FieldType.ofBackend entry.2⟩ : Field) :=
    fieldsAt_eq_map hnamed fun _ ↦ rfl
  have hpaths := typed_pairwise htree
  refine ⟨_, ?_, hfields, fun path raw ↦ mem_typed_iff htree, hpaths, ?_, ?_⟩
  · simp [fieldsOf, fields, hindex]
  · rw [hfields, List.map_map]
    exact nodup_dotted htree hnamed
  · intro catalog name type
    rw [Catalog.typeOf_storeFields, hfields, List.find?_map, Option.map_map,
      Option.map_eq_some_iff]
    constructor
    · rintro ⟨⟨path, raw⟩, hfound, rfl⟩
      exact ⟨raw, (find?_dotted_iff htree hnamed).mp ⟨path, hfound⟩, rfl⟩
    · rintro ⟨raw, htype, rfl⟩
      obtain ⟨path, hfound⟩ := (find?_dotted_iff htree hnamed).mpr htype
      exact ⟨(path, raw), hfound, rfl⟩

/-- A document with an object that has a type and one that has none. -/
def nested : Json :=
  .object [("logs", .object [("mappings", .object [("properties", .object [
    ("host-id", .object [("type", .string "keyword")]),
    ("bytes", .object [("type", .string "integer")]),
    ("host", .object [("type", .string "nested"), ("properties", .object [
      ("os", .object [("properties", .object [("name", .object [("type", .string "string")])])]),
      ("ip", .object [("type", .string "ip")])])])])])])]

/-- The properties in `nested`, as they are decoded. -/
def nestedProperties : List (String × Property) :=
  [("bytes", .node (some "integer") none),
    ("host", .node (some "nested") (some [("ip", .node (some "ip") none),
      ("os", .node none (some [("name", .node (some "string") none)]))])),
    ("host-id", .node (some "keyword") none)]

/-- Paths are in order where names are not: a hyphen comes before a dot. -/
theorem fieldsOf_faithful_nested :
    ∃ response fields, MappingResponse.ofJson nested = some response ∧
      response.lookup "logs" = some nestedProperties ∧ (root nestedProperties).Named ∧
      response.fieldsOf "logs" = .ok fields ∧
      fields.map Field.name = ["bytes", "host", "host.ip", "host.os.name", "host-id"] ∧
      (fields.map Field.name).Nodup ∧
      (({} : Catalog).storeFields "logs" fields).typeOf "logs" "host.os.name" = some .string := by
  have hdecoded : MappingResponse.ofJson nested = some [("logs", nestedProperties)] := rfl
  have hindex : List.lookup "logs" [("logs", nestedProperties)] = some nestedProperties := rfl
  have hnamed : (root nestedProperties).Named := by
    unfold Named
    decide
  obtain ⟨fields, hfields, hlist, -, -, hnodup, htypes⟩ :=
    fieldsOf_faithful hindex (ordered_ofJson hdecoded) hnamed
  refine ⟨_, fields, hdecoded, hindex, hnamed, hfields, ?_, hnodup, ?_⟩
  · rw [hlist]
    rfl
  · exact (htypes {} "host.os.name" .string).mpr ⟨"string", by rfl, rfl⟩

end MappingResponse
end PipedQuery
