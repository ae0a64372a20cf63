import Mathlib.Data.List.Basic
import PipedQuery.Shell.Listing

/-!
Reading comma-separated values. `read` is a reader of records that end with a line feed and whose
cells stand between commas; a cell that begins with a double quote runs to the closing one, and two
quotes inside it stand for one. Whatever the cells of a record are, they are read back from it
(`readRecord_record`), since a cell is quoted exactly where its text could be taken for the end of
it or for a quoted one (`readCell_cell`). A record must have a cell, for an empty line is read as a
record with one empty cell. So from everything that the shell lists the column names and the rows
are read back (`Subject.read_csv`).
-/

set_option autoImplicit false
set_option relaxedAutoImplicit false

namespace PipedQuery.Shell

namespace Csv

/-! ### The reader -/

/-- The text of a quoted cell up to its closing quote, and what follows. -/
def readQuoted : List Char → Option (List Char × List Char)
  | [] => none
  | '"' :: '"' :: rest => (readQuoted rest).map fun (text, left) ↦ ('"' :: text, left)
  | '"' :: rest => some ([], rest)
  | c :: rest => (readQuoted rest).map fun (text, left) ↦ (c :: text, left)

def endsCell (c : Char) : Bool :=
  c = ',' || c = '\n'

/-- The text of a cell, and what follows. -/
def readCell : List Char → Option (List Char × List Char)
  | '"' :: rest => readQuoted rest
  | chars => some (chars.takeWhile (!endsCell ·), chars.dropWhile (!endsCell ·))

theorem length_readQuoted {chars text rest : List Char}
    (hread : readQuoted chars = some (text, rest)) : rest.length ≤ chars.length := by
  fun_induction readQuoted chars generalizing text with
  | case1 => cases hread
  | case2 more ih =>
    obtain ⟨⟨inner, left⟩, hinner, hpair⟩ := Option.map_eq_some_iff.mp hread
    obtain ⟨rfl, rfl⟩ := Prod.mk.inj hpair
    exact Nat.le_succ_of_le (Nat.le_succ_of_le (ih hinner))
  | case3 more _ =>
    obtain ⟨rfl, rfl⟩ := Prod.mk.inj (Option.some.inj hread)
    exact Nat.le_succ _
  | case4 c more _ _ ih =>
    obtain ⟨⟨inner, left⟩, hinner, hpair⟩ := Option.map_eq_some_iff.mp hread
    obtain ⟨rfl, rfl⟩ := Prod.mk.inj hpair
    exact Nat.le_succ_of_le (ih hinner)

theorem length_readCell {chars text rest : List Char}
    (hread : readCell chars = some (text, rest)) : rest.length ≤ chars.length := by
  unfold readCell at hread
  split at hread
  next more => exact Nat.le_succ_of_le (length_readQuoted hread)
  next =>
    obtain ⟨rfl, rfl⟩ := Prod.mk.inj (Option.some.inj hread)
    exact (List.dropWhile_suffix _).length_le

/-- The cells of a record up to its line feed, and what follows. -/
def readRecord (chars : List Char) : Option (List (List Char) × List Char) :=
  match _h : readCell chars with
  | some (cell, ',' :: rest) => (readRecord rest).map fun (cells, left) ↦ (cell :: cells, left)
  | some (cell, '\n' :: rest) => some ([cell], rest)
  | _ => none
termination_by chars.length
decreasing_by exact length_readCell _h

theorem length_readRecord {chars rest : List Char} {cells : List (List Char)}
    (hread : readRecord chars = some (cells, rest)) : rest.length < chars.length := by
  fun_induction readRecord chars generalizing cells with
  | case1 chars cell more hcell ih =>
    obtain ⟨⟨inner, left⟩, hinner, hpair⟩ := Option.map_eq_some_iff.mp hread
    obtain ⟨rfl, rfl⟩ := Prod.mk.inj hpair
    exact Nat.lt_trans (ih hinner) (length_readCell hcell)
  | case2 chars cell more hcell =>
    obtain ⟨rfl, rfl⟩ := Prod.mk.inj (Option.some.inj hread)
    exact length_readCell hcell
  | case3 => cases hread

/-- The records of a text, the last of which must end as the others do. -/
def readRecords (chars : List Char) : Option (List (List (List Char))) :=
  if chars = [] then some []
  else
    match _h : readRecord chars with
    | some (cells, rest) => (readRecords rest).map (cells :: ·)
    | none => none
termination_by chars.length
decreasing_by exact length_readRecord _h

def read (text : String) : Option (List (List String)) :=
  (readRecords text.toList).map fun records ↦ records.map fun cells ↦ cells.map String.ofList

/-! ### Reading back -/

theorem readQuoted_doubled (text : List Char) {mark : Char} (hmark : endsCell mark = true)
    (rest : List Char) :
    readQuoted (doubled text ++ '"' :: mark :: rest) = some (text, mark :: rest) := by
  induction text with
  | nil =>
    -- The closing quote is not the first of two, for a mark follows it.
    have hquote : mark ≠ '"' := by
      rintro rfl
      cases hmark
    simp [doubled, readQuoted, hquote]
  | cons c text ih =>
    by_cases hquote : c = '"'
    · simp [doubled, readQuoted, hquote, ih]
    · simp [doubled, readQuoted, hquote, ih]

/-- A text that needs no quotes is not taken for a quoted one and does not end early. -/
theorem readCell_plain {text : List Char} (hplain : ∀ c ∈ text, needsQuotes c = false)
    {mark : Char} (hmark : endsCell mark = true) (rest : List Char) :
    readCell (text ++ mark :: rest) = some (text, mark :: rest) := by
  have hinside : ∀ c ∈ text, (!endsCell c) = true := by
    intro c hc
    have hneeds := hplain c hc
    simp only [needsQuotes, Bool.or_eq_false_iff] at hneeds
    simp [endsCell, hneeds.1.1, hneeds.2]
  have hopens : ∀ more, text ++ mark :: rest ≠ '"' :: more := by
    intro more hquote
    cases text with
    | nil =>
      obtain ⟨rfl, -⟩ := List.cons.inj hquote
      cases hmark
    | cons c text =>
      obtain ⟨rfl, -⟩ := List.cons.inj hquote
      exact absurd (hplain '"' List.mem_cons_self) (by decide)
  unfold readCell
  split
  next more hquote => exact absurd hquote (hopens more)
  next =>
    rw [List.takeWhile_append_of_pos hinside, List.dropWhile_append_of_pos hinside]
    simp [hmark]

theorem readCell_cell (text : List Char) {mark : Char} (hmark : endsCell mark = true)
    (rest : List Char) : readCell (cell text ++ mark :: rest) = some (text, mark :: rest) := by
  unfold cell
  split_ifs with hneeds
  · have hquoted := readQuoted_doubled text hmark rest
    simpa [readCell] using hquoted
  · refine readCell_plain (fun c hc ↦ ?_) hmark rest
    simpa using fun hquotes ↦ hneeds (List.any_eq_true.mpr ⟨c, hc, hquotes⟩)

theorem readRecord_of_comma {chars cell rest : List Char}
    (hcell : readCell chars = some (cell, ',' :: rest)) :
    readRecord chars = (readRecord rest).map fun (cells, left) ↦ (cell :: cells, left) := by
  rw [readRecord]
  split <;> simp_all

theorem readRecord_of_lineFeed {chars cell rest : List Char}
    (hcell : readCell chars = some (cell, '\n' :: rest)) :
    readRecord chars = some ([cell], rest) := by
  rw [readRecord]
  split <;> simp_all

theorem readRecord_record {cells : List (List Char)} (hcells : cells ≠ []) (rest : List Char) :
    readRecord (record cells ++ rest) = some (cells, rest) := by
  fun_induction record cells with
  | case1 => exact absurd rfl hcells
  | case2 last =>
    rw [List.append_assoc, List.singleton_append]
    exact readRecord_of_lineFeed (readCell_cell last rfl rest)
  | case3 first others hothers ih =>
    have hfirst : readCell (cell first ++ ',' :: (record others ++ rest)) =
        some (first, ',' :: (record others ++ rest)) := readCell_cell first rfl _
    rw [List.append_assoc, List.cons_append, readRecord_of_comma hfirst, ih hothers]
    rfl

theorem readRecords_of_record {chars rest : List Char} {cells : List (List Char)}
    (hrecord : readRecord chars = some (cells, rest)) :
    readRecords chars = (readRecords rest).map (cells :: ·) := by
  have hchars : chars ≠ [] := by
    rintro rfl
    exact Nat.not_lt_zero _ (length_readRecord hrecord)
  rw [readRecords, if_neg hchars]
  split <;> simp_all

theorem readRecords_flatMap_record {records : List (List (List Char))}
    (hrecords : ∀ cells ∈ records, cells ≠ []) :
    readRecords (records.flatMap record) = some records := by
  induction records with
  | nil => simp [readRecords]
  | cons cells records ih =>
    have hcells := readRecord_record (hrecords cells List.mem_cons_self) (records.flatMap record)
    rw [List.flatMap_cons, readRecords_of_record hcells,
      ih fun other hother ↦ hrecords other (List.mem_cons_of_mem cells hother)]
    rfl

/-- Cells that need no quotes are a record as they are. -/
theorem record_of_plain {cells : List (List Char)}
    (hplain : ∀ cell ∈ cells, ∀ c ∈ cell, needsQuotes c = false) :
    record cells = List.intercalate [','] cells ++ ['\n'] := by
  have hcell : ∀ text ∈ cells, cell text = text :=
    fun text htext ↦ if_neg (by simpa using hplain text htext)
  fun_induction record cells with
  | case1 => rfl
  | case2 last => simp [hcell last List.mem_cons_self]
  | case3 first others hothers ih =>
    obtain ⟨second, others, rfl⟩ := List.exists_cons_of_ne_nil hothers
    rw [hcell first List.mem_cons_self, List.intercalate_cons_cons,
      ih (fun text htext ↦ hplain text (List.mem_cons_of_mem first htext))
        fun text htext ↦ hcell text (List.mem_cons_of_mem first htext)]
    simp

/-- The column names are one more record, which needs no quotes. -/
theorem toList_render {columns : List String}
    (hplain : ∀ column ∈ columns, ∀ c ∈ column.toList, needsQuotes c = false)
    (rows : List (List String)) :
    (render columns rows).toList =
      ((columns :: rows).map (List.map String.toList)).flatMap record := by
  have hheader : record (columns.map String.toList) =
      (String.intercalate "," columns).toList ++ ['\n'] := by
    rw [String.toList_intercalate]
    exact record_of_plain (by simpa using hplain)
  rw [render, List.map_cons, List.flatMap_cons, List.flatMap_map, hheader]
  simp

theorem read_render {columns : List String} (hcolumns : columns ≠ [])
    (hplain : ∀ column ∈ columns, ∀ c ∈ column.toList, needsQuotes c = false)
    {rows : List (List String)} (hrows : ∀ row ∈ rows, row ≠ []) :
    read (render columns rows) = some (columns :: rows) := by
  have hrecords : ∀ cells ∈ (columns :: rows).map (List.map String.toList), cells ≠ [] := by
    simpa using ⟨hcolumns, hrows⟩
  rw [read, toList_render hplain, readRecords_flatMap_record hrecords]
  simp [Function.comp_def]

end Csv

/-! ### Listings -/

/-- What the shell lists. -/
inductive Subject where
  | suggestions (items : List Suggestion)
  | indices (names : List String)
  | fields (held : IndexFields)
  | session (state : Session)
  | cluster (info : ClusterInfo)

namespace Subject

def listing : Subject → Listing
  | suggestions items => .ofSuggestions items
  | indices names => .ofIndices names
  | fields held => .ofFields held
  | session state => .ofSession state
  | cluster info => .ofCluster info

theorem columns_ne_nil (subject : Subject) : subject.listing.columns ≠ [] := by
  cases subject <;> exact List.cons_ne_nil _ _

theorem columns_plain (subject : Subject) :
    ∀ column ∈ subject.listing.columns, ∀ c ∈ column.toList, Csv.needsQuotes c = false := by
  have hplain : (subject.listing.columns.all fun column ↦
      column.toList.all fun c ↦ !Csv.needsQuotes c) = true := by
    cases subject <;> rfl
  simpa using hplain

theorem row_ne_nil (subject : Subject) : ∀ row ∈ subject.listing.rows, row ≠ [] := by
  intro row hrow
  cases subject <;> obtain ⟨entry, -, rfl⟩ := List.mem_map.mp hrow <;> exact List.cons_ne_nil _ _

theorem read_csv (subject : Subject) :
    Csv.read (subject.listing.render .csv) =
      some (subject.listing.columns :: subject.listing.rows) :=
  Csv.read_render subject.columns_ne_nil subject.columns_plain subject.row_ne_nil

/-- From the comma-separated values of everything that the shell lists, the column names are read
back as the first record and the rows, cell for cell, as the others. So two subjects are printed
alike only if they have the same columns and rows. -/
theorem csv_read_back (subject : Subject) :
    Csv.read (subject.listing.render .csv) =
        some (subject.listing.columns :: subject.listing.rows) ∧
      ∀ other : Subject, other.listing.render .csv = subject.listing.render .csv ↔
        other.listing.columns = subject.listing.columns ∧
          other.listing.rows = subject.listing.rows := by
  refine ⟨subject.read_csv, fun other ↦ ⟨fun hsame ↦ ?_, ?_⟩⟩
  · have hread := other.read_csv
    rw [hsame, subject.read_csv, Option.some.injEq, List.cons.injEq] at hread
    exact ⟨hread.1.symm, hread.2.symm⟩
  · rintro ⟨hcolumns, hrows⟩
    rw [Listing.render, Listing.render, hcolumns, hrows]

end Subject
end PipedQuery.Shell
