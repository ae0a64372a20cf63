import Mathlib.Data.List.Nodup
import Mathlib.Data.List.Perm.Subperm
import PipedQuery.Json.Record

/-!
Members and their names. Where no name occurs twice, a member is found under its name wherever it
stands (`lookup_iff_mem`), so what is found does not depend on the order of the members, and an
object in canonical order has the members that it had (`canonicalMembers_perm`). `Comprises entries
value` says that a value is an object with the given members, in any order; an entry without a value
is a member that is missing. A record reads from such a value what the entries say
(`Comprises.record`), and every kind of field has one lemma about what it then finds.
-/

set_option autoImplicit false
set_option relaxedAutoImplicit false

namespace PipedQuery

section Lookup

variable {α β : Type} {name : String} {entry : α} {list : List (String × α)}

theorem mem_of_lookup (hlookup : list.lookup name = some entry) : (name, entry) ∈ list := by
  obtain ⟨before, after, rfl, -⟩ := List.lookup_eq_some_iff.mp hlookup
  simp

/-- Where no name occurs twice, an entry is found under its name. -/
theorem lookup_iff_mem (hnames : (list.map Prod.fst).Nodup) :
    list.lookup name = some entry ↔ (name, entry) ∈ list := by
  refine ⟨mem_of_lookup, fun hmem ↦ ?_⟩
  cases hlookup : list.lookup name with
  | none =>
    have hfirst := List.lookup_eq_none_iff.mp hlookup (name, entry) hmem
    simp at hfirst
  | some found =>
    have hsame := List.inj_on_of_nodup_map hnames (mem_of_lookup hlookup) hmem rfl
    rw [(Prod.mk.inj hsame).2]

theorem lookup_eq_none (hname : name ∉ list.map Prod.fst) : list.lookup name = none := by
  refine List.lookup_eq_none_iff.mpr fun entry hentry ↦ ?_
  have hother : name ≠ entry.1 := fun hsame ↦ hname (hsame ▸ List.mem_map_of_mem hentry)
  simpa using hother

theorem lookup_cons (entry : String × α) :
    (entry :: list).lookup name = if name = entry.1 then some entry.2 else list.lookup name := by
  obtain ⟨other, held⟩ := entry
  by_cases hname : name = other
  · simp [hname]
  · have hother : (name == other) = false := beq_eq_false_iff_ne.mpr hname
    simp [List.lookup_cons, hother, hname]

theorem lookup_map (change : String → α → β) :
    (list.map fun entry ↦ (entry.1, change entry.1 entry.2)).lookup name =
      (list.lookup name).map (change name) := by
  induction list with
  | nil => rfl
  | cons entry list ih =>
    rw [List.map_cons, lookup_cons, lookup_cons, ih]
    split_ifs with hname
    · rw [hname, Option.map_some]
    · rfl

theorem lookup_filter {keeps : String → Bool} (hname : keeps name = true) :
    (list.filter fun entry ↦ keeps entry.1).lookup name = list.lookup name := by
  induction list with
  | nil => rfl
  | cons entry list ih =>
    rw [List.filter_cons, lookup_cons]
    split_ifs with hkeeps hsame hsame
    · rw [lookup_cons, if_pos hsame]
    · rw [lookup_cons, if_neg hsame, ih]
    · exact absurd (hsame ▸ hname) hkeeps
    · exact ih

theorem lookup_of_perm {other : List (String × α)} (hperm : list.Perm other)
    (hnames : (list.map Prod.fst).Nodup) (name : String) :
    list.lookup name = other.lookup name := by
  have hother : (other.map Prod.fst).Nodup := (hperm.map Prod.fst).nodup_iff.mp hnames
  ext entry
  rw [lookup_iff_mem hnames, lookup_iff_mem hother, hperm.mem_iff]

theorem nodup_of_subperm {part : List (String × α)} (hpart : part.Subperm list)
    (hnames : (list.map Prod.fst).Nodup) : (part.map Prod.fst).Nodup := by
  obtain ⟨kept, hkept, hsublist⟩ := hpart
  exact (hkept.map Prod.fst).nodup_iff.mp (hnames.sublist (hsublist.map Prod.fst))

/-- A part of a list finds what the list finds, and nothing under the names that it lacks. -/
theorem lookup_of_subperm {part : List (String × α)} (hpart : part.Subperm list)
    (hnames : (list.map Prod.fst).Nodup) (name : String) :
    part.lookup name = if name ∈ part.map Prod.fst then list.lookup name else none := by
  split_ifs with hname
  · obtain ⟨⟨_, entry⟩, hentry, rfl⟩ := List.mem_map.mp hname
    rw [(lookup_iff_mem (nodup_of_subperm hpart hnames)).mpr hentry,
      (lookup_iff_mem hnames).mpr (hpart.subset hentry)]
  · exact lookup_eq_none hname

end Lookup

namespace Json

theorem distinct_iff {names : List String} : distinct names = true ↔ names.Nodup := by
  induction names with
  | nil => simp [distinct]
  | cons name names ih => simp [distinct, ih]

/-! ### Canonical order -/

variable {name : String} {value : Json} {members : List (String × Json)}

theorem insertMember_perm (hname : name ∉ members.map Prod.fst) :
    (insertMember name value members).Perm ((name, value) :: members) := by
  fun_induction insertMember name value members with
  | case1 => exact List.Perm.refl _
  | case2 held rest => simp at hname
  | case3 other held rest hother hless => exact List.Perm.refl _
  | case4 other held rest hother hless ih =>
    have hrest : name ∉ rest.map Prod.fst := fun hmem ↦ hname (List.mem_cons_of_mem other hmem)
    exact ((ih hrest).cons (other, held)).trans (List.Perm.swap _ _ rest)

/-- In canonical order stand the members that were there before, where no name occurs twice. -/
theorem canonicalMembers_perm {sorted : List (String × Json)}
    (hnames : ((sorted ++ members).map Prod.fst).Nodup) :
    (canonicalMembers sorted members).Perm
      (sorted ++ members.map fun member ↦ (member.1, member.2.canonical)) := by
  induction members generalizing sorted with
  | nil => simp [canonicalMembers]
  | cons member members ih =>
    obtain ⟨name, value⟩ := member
    -- The first member goes over to the sorted ones, so no name comes in and none is lost.
    have hmiddle : ((sorted ++ (name, value) :: members).map Prod.fst).Perm
        (name :: (sorted ++ members).map Prod.fst) := by
      simp
    obtain ⟨hname, hothers⟩ := List.nodup_cons.mp (hmiddle.nodup_iff.mp hnames)
    have hinserted : (insertMember name value.canonical sorted).Perm
        ((name, value.canonical) :: sorted) := by
      refine insertMember_perm fun hmem ↦ hname ?_
      rw [List.map_append]
      exact List.mem_append_left _ hmem
    have hboth : ((insertMember name value.canonical sorted ++ members).map Prod.fst).Nodup := by
      refine ((hinserted.append_right members).map Prod.fst).nodup_iff.mpr ?_
      exact List.nodup_cons.mpr ⟨hname, hothers⟩
    rw [canonicalMembers]
    refine (ih hboth).trans ((hinserted.append_right _).trans ?_)
    exact List.perm_middle.symm

theorem canonical_single (hvalue : value.canonical = value) :
    (object [(name, value)]).canonical = object [(name, value)] := by
  simp only [canonical, canonicalMembers, insertMember, hvalue]

theorem canonical_pair {other : String} {held : Json} (hless : name < other)
    (hvalue : value.canonical = value) (hheld : held.canonical = held) :
    (object [(name, value), (other, held)]).canonical =
      object [(name, value), (other, held)] := by
  simp only [canonical, canonicalMembers, insertMember, hvalue, hheld,
    if_neg (String.ne_of_lt hless).symm, if_neg (String.lt_asymm hless)]

/-! ### Objects by their members -/

/-- The value is an object with the entries that have a value as its members, in any order, and with
no others. -/
def Comprises (entries : List (String × Option Json)) (value : Json) : Prop :=
  ∃ members, value = object members ∧ (members.map Prod.fst).Nodup ∧
    ∀ name, members.lookup name = (entries.lookup name).join

variable {entries : List (String × Option Json)}

theorem names_present_sublist (entries : List (String × Option Json)) :
    ((entries.filterMap fun (name, value) ↦ value.map (name, ·)).map Prod.fst).Sublist
      (entries.map Prod.fst) := by
  induction entries with
  | nil => exact List.Sublist.refl _
  | cons entry entries ih =>
    obtain ⟨name, _ | value⟩ := entry
    · exact ih.cons name
    · exact ih.cons_cons name

theorem comprises_present (hnames : (entries.map Prod.fst).Nodup) :
    Comprises entries (present entries) := by
  have hpresent := hnames.sublist (names_present_sublist entries)
  refine ⟨_, rfl, hpresent, fun name ↦ ?_⟩
  ext value
  rw [lookup_iff_mem hpresent, Option.join_eq_some_iff, lookup_iff_mem hnames]
  simp

/-- The members as entries, of which those that are not named are missing. -/
def keeping (names : List String) (members : List (String × Json)) :
    List (String × Option Json) :=
  members.map fun member ↦ (member.1, if member.1 ∈ names then some member.2 else none)

theorem comprises_of_subperm {part : List (String × Json)} (hpart : part.Subperm members)
    (hnames : (members.map Prod.fst).Nodup) :
    Comprises (keeping (part.map Prod.fst) members) (object part) := by
  refine ⟨part, rfl, nodup_of_subperm hpart hnames, fun name ↦ ?_⟩
  rw [lookup_of_subperm hpart hnames, keeping,
    lookup_map fun name value ↦ if name ∈ part.map Prod.fst then some value else none]
  split_ifs <;> cases members.lookup name <;> rfl

/-- Putting the members in order leaves the object what it was, where their values are in order. -/
theorem Comprises.canonical (hvalue : Comprises entries value)
    (hentries : ∀ entry ∈ entries, entry.2.map Json.canonical = entry.2) :
    Comprises entries value.canonical := by
  obtain ⟨members, rfl, hnames, hlookup⟩ := hvalue
  have hperm : (canonicalMembers [] members).Perm
      (members.map fun member ↦ (member.1, member.2.canonical)) := canonicalMembers_perm hnames
  have hsorted : ((canonicalMembers [] members).map Prod.fst).Nodup := by
    refine (hperm.map Prod.fst).nodup_iff.mpr ?_
    simpa [Function.comp_def] using hnames
  refine ⟨_, by rw [Json.canonical], hsorted, fun name ↦ ?_⟩
  have hmapped : (members.map fun member ↦ (member.1, member.2.canonical)).lookup name =
      (members.lookup name).map Json.canonical := lookup_map fun _ ↦ Json.canonical
  rw [lookup_of_perm hperm hsorted, hmapped, hlookup]
  cases hentry : entries.lookup name with
  | none => rfl
  | some entry => exact hentries (name, entry) (mem_of_lookup hentry)

/-- A record reads the entries under the names that it knows. -/
theorem Comprises.record (hvalue : Comprises entries value) (names : List String) :
    ∃ fields, value.record names = some fields ∧
      ∀ name ∈ names, fields.lookup name = (entries.lookup name).join := by
  obtain ⟨members, rfl, hnames, hlookup⟩ := hvalue
  have hknown : distinct ((members.filter fun member ↦ names.contains member.1).map Prod.fst) =
      true := distinct_iff.mpr (hnames.sublist (List.filter_sublist.map Prod.fst))
  refine ⟨_, if_pos hknown, fun name hname ↦ ?_⟩
  rw [lookup_filter (List.contains_iff_mem.mpr hname), hlookup]

theorem Comprises.fullRecord (hvalue : Comprises entries value) (names : List String) :
    value.fullRecord names = value.record names := by
  obtain ⟨members, rfl, -⟩ := hvalue
  rfl

namespace Fields

variable {α : Type} {fields : Fields} {decode : Json → Option α} {encode : α → Json}

theorem required_eq {found : α} (hdecode : ∀ a, decode (encode a) = some a)
    (hlookup : fields.lookup name = some (encode found)) :
    fields.required name decode = some found := by
  rw [required, hlookup, Option.bind_some, hdecode]

theorem withDefault_eq {found fallback : α} {kept : Prop} [Decidable kept]
    (hdecode : ∀ a, decode (encode a) = some a)
    (hlookup : fields.lookup name = if kept then some (encode found) else none) :
    fields.withDefault name fallback decode = some (if kept then found else fallback) := by
  rw [withDefault, hlookup]
  split_ifs
  · exact hdecode found
  · rfl

theorem optional_eq {found : Option α} (hdecode : ∀ a, decode (encode a) = some a)
    (hnull : ∀ a, encode a ≠ null) (hlookup : fields.lookup name = found.map encode) :
    fields.optional name decode = some found := by
  rw [optional, hlookup]
  cases found with
  | none => rfl
  | some found => simp [hdecode, hnull]

end Fields
end Json
end PipedQuery
