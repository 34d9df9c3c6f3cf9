-- Results written as CSV are read back: the names of the columns, and then the texts
-- of each row. The reader is the one of RFC 4180, except that a newline alone ends a
-- record.
import Mathlib
import CommitQuery.Commit.Records
import CommitQuery.Proofs.Plan.Walk
import CommitQuery.Result.Csv

namespace CommitQuery.Csv

/-! ## The reader -/

/-- Where a reader stands in a field. Behind a quote inside quotes the field has
ended, or else another quote follows. -/
inductive Place
  | start
  | bare
  | inside
  | closed
deriving DecidableEq, Repr

/-- A reader: the field that it is in, last character first, the fields of the record
before it, and the records before that, each list last first. -/
structure Reader where
  place : Place
  field : List Char
  fields : List String
  records : List (List String)
deriving DecidableEq, Repr

namespace Reader

/-- A reader in front of a record. -/
def before (records : List (List String)) : Reader := ⟨.start, [], [], records⟩

/-- The fields of the record, with the one that ends here. -/
def ended (r : Reader) : List String := String.ofList r.field.reverse :: r.fields

def endField (r : Reader) : Reader := ⟨.start, [], r.ended, r.records⟩

def endRecord (r : Reader) : Reader := before (r.ended.reverse :: r.records)

/-- The reader after one more character. Outside quotes a field holds neither a quote
nor a carriage return, and nothing but its end follows its last quote. -/
def read (r : Reader) (c : Char) : Option Reader :=
  match r.place, c with
  | .inside, '"' => some { r with place := .closed }
  | .inside, c => some { r with field := c :: r.field }
  | .closed, '"' => some { r with place := .inside, field := '"' :: r.field }
  | .start, '"' => some { r with place := .inside }
  | .bare, '"' => none
  | _, ',' => some r.endField
  | _, '\n' => some r.endRecord
  | .closed, _ => none
  | _, '\r' => none
  | _, c => some { r with place := .bare, field := c :: r.field }

end Reader

/-- The records of a text, if it is one of records that are all ended. -/
def readRecords (s : String) : Option (List (List String)) :=
  match s.toList.foldlM Reader.read (.before []) with
  | some ⟨.start, _, [], records⟩ => some records.reverse
  | _ => none

example : readRecords "a,\"b\"\"\n\",\n\n" = some [["a", "b\"\n", ""], [""]] := by decide

/-! ## A field -/

variable {fields : List String} {records : List (List String)}

/-- A character that needs no quotes goes into the field as it is. -/
theorem read_bare {place : Place} (outside : place = .start ∨ place = .bare) {c : Char}
    (plain : needsQuotes [c] = false) (field : List Char) :
    Reader.read ⟨place, field, fields, records⟩ c = some ⟨.bare, c :: field, fields, records⟩ := by
  simp only [needsQuotes, List.any_cons, List.any_nil, Bool.or_false, Bool.or_eq_false_iff,
    decide_eq_false_iff_not] at plain
  obtain ⟨⟨⟨comma, quote⟩, newline⟩, ret⟩ := plain
  rcases outside with rfl | rfl
  · unfold Reader.read
    split <;> simp_all
  · unfold Reader.read
    split <;> simp_all

variable (fields records) in
theorem foldlM_bare {s : List Char} (plain : needsQuotes s = false) {place : Place}
    (outside : place = .start ∨ place = .bare) (field : List Char) :
    ∃ stop, (stop = .start ∨ stop = .bare) ∧
      s.foldlM Reader.read ⟨place, field, fields, records⟩ =
        some ⟨stop, s.reverse ++ field, fields, records⟩ := by
  induction s generalizing place field with
  | nil => exact ⟨place, outside, rfl⟩
  | cons c rest ih =>
    have both : needsQuotes [c] = false ∧ needsQuotes rest = false := by
      simpa [needsQuotes] using plain
    obtain ⟨stop, hstop, run⟩ := ih both.2 (.inr rfl) (c :: field)
    refine ⟨stop, hstop, foldlM_cons_eq_some.mpr ⟨_, read_bare outside both.1 field, ?_⟩⟩
    rw [run, List.reverse_cons, List.append_assoc, List.singleton_append]

/-- Inside quotes a quote is read from two of them, any other character from itself. -/
theorem foldlM_doubled (c : Char) (field : List Char) :
    (if c = '"' then ['"', '"'] else [c]).foldlM Reader.read ⟨.inside, field, fields, records⟩ =
      some ⟨.inside, c :: field, fields, records⟩ := by
  by_cases quote : c = '"'
  · subst quote
    rfl
  · rw [if_neg quote, foldlM_cons_eq_some]
    refine ⟨_, ?_, rfl⟩
    unfold Reader.read
    split <;> simp_all

variable (fields records) in
theorem foldlM_inside (s field : List Char) :
    (s.flatMap fun c => if c = '"' then ['"', '"'] else [c]).foldlM Reader.read
        ⟨.inside, field, fields, records⟩ =
      some ⟨.inside, s.reverse ++ field, fields, records⟩ := by
  induction s generalizing field with
  | nil => rfl
  | cons c rest ih =>
    rw [List.flatMap_cons, foldlM_append_eq_some]
    refine ⟨_, foldlM_doubled c field, ?_⟩
    rw [ih, List.reverse_cons, List.append_assoc, List.singleton_append]

/-- A field that was written has been read when the comma or newline after it comes. -/
theorem foldlM_escape (field : String) (fields : List String) (records : List (List String)) :
    ∃ stop, stop ≠ .inside ∧
      (escape field).foldlM Reader.read ⟨.start, [], fields, records⟩ =
        some ⟨stop, field.toList.reverse, fields, records⟩ := by
  unfold escape
  split
  · refine ⟨.closed, by decide, ?_⟩
    have content := foldlM_inside fields records field.toList []
    rw [List.append_nil] at content
    exact foldlM_append_eq_some.mpr ⟨_, foldlM_cons_eq_some.mpr ⟨_, rfl, content⟩, rfl⟩
  · rename_i plain
    obtain ⟨stop, outside, run⟩ := foldlM_bare fields records
      (Bool.eq_false_iff.mpr plain) (.inl rfl) []
    refine ⟨stop, ?_, by rw [run, List.append_nil]⟩
    rcases outside with rfl | rfl
    · decide
    · decide

/-! ## A record -/

theorem read_comma {place : Place} (outside : place ≠ .inside) (field : String) :
    Reader.read ⟨place, field.toList.reverse, fields, records⟩ ',' =
      some ⟨.start, [], field :: fields, records⟩ := by
  have ended : (⟨place, field.toList.reverse, fields, records⟩ : Reader).ended =
      field :: fields := by
    simp [Reader.ended]
  unfold Reader.read
  split <;> simp_all [Reader.endField]

theorem read_newline {place : Place} (outside : place ≠ .inside) (field : String) :
    Reader.read ⟨place, field.toList.reverse, fields, records⟩ '\n' =
      some (.before ((fields.reverse ++ [field]) :: records)) := by
  have ended : (⟨place, field.toList.reverse, fields, records⟩ : Reader).ended =
      field :: fields := by
    simp [Reader.ended]
  unfold Reader.read
  split <;> simp_all [Reader.endRecord]

/-- The end of a record, from the start of some field of it. -/
theorem foldlM_fields (field : String) (more : List String) (fields : List String) :
    (escape field ++ more.flatMap (',' :: escape ·) ++ ['\n']).foldlM Reader.read
        ⟨.start, [], fields, records⟩ =
      some (.before ((fields.reverse ++ field :: more) :: records)) := by
  induction more generalizing field fields with
  | nil =>
    obtain ⟨stop, outside, run⟩ := foldlM_escape field fields records
    rw [List.flatMap_nil, List.append_nil, foldlM_append_eq_some]
    exact ⟨_, run, foldlM_cons_eq_some.mpr ⟨_, read_newline outside field, rfl⟩⟩
  | cons next more ih =>
    obtain ⟨stop, outside, run⟩ := foldlM_escape field fields records
    have after := ih next (field :: fields)
    rw [List.reverse_cons, List.append_assoc fields.reverse, List.singleton_append] at after
    rw [List.flatMap_cons, List.append_assoc, foldlM_append_eq_some]
    exact ⟨_, run, foldlM_cons_eq_some.mpr ⟨_, read_comma outside field, after⟩⟩

/-- A record of at least one field is read back. -/
theorem foldlM_record {fields : List String} (some_field : fields ≠ [])
    (records : List (List String)) :
    (record fields).foldlM Reader.read (.before records) = some (.before (fields :: records)) := by
  cases fields with
  | nil => exact absurd rfl some_field
  | cons first more => exact foldlM_fields first more []

theorem foldlM_records {rows : List (List String)} (h : ∀ row ∈ rows, row ≠ [])
    (records : List (List String)) :
    (rows.flatMap record).foldlM Reader.read (.before records) =
      some (.before (rows.reverse ++ records)) := by
  induction rows generalizing records with
  | nil => rfl
  | cons row rest ih =>
    obtain ⟨hrow, hrest⟩ := List.forall_mem_cons.mp h
    rw [List.flatMap_cons, foldlM_append_eq_some]
    refine ⟨_, foldlM_record hrow records, ?_⟩
    rw [ih hrest, List.reverse_cons, List.append_assoc, List.singleton_append]

/-- Records that were written are the records that are read. -/
theorem readRecords_written {rows : List (List String)} (h : ∀ row ∈ rows, row ≠ []) :
    readRecords (String.ofList (rows.flatMap record)) = some rows := by
  unfold readRecords
  rw [String.toList_ofList, foldlM_records h, List.append_nil]
  simp [Reader.before]

/-! ## The law -/

variable {κ ρ : Type}

/-- A row of a table has a cell for each column. -/
theorem length_of_mem_tableOf (S : Schema κ ρ) {type : ValueType κ} {items : List (Value κ ρ)}
    {row : List (Value κ ρ)} (h : row ∈ (S.tableOf type items).rows) :
    row.length = (S.tableOf type items).columns.length := by
  obtain ⟨item, -, rfl⟩ := List.mem_map.mp h
  exact List.length_map ..

theorem length_of_mem_tabulate (S : Schema κ ρ) {v : Value κ ρ} {row : List (Value κ ρ)}
    (h : row ∈ (S.tabulate v).rows) : row.length = (S.tabulate v).columns.length := by
  cases v with
  | sequence element items origin => exact length_of_mem_tableOf S h
  | _ => exact length_of_mem_tableOf S h

theorem readRecords_ofValue (S : Schema κ ρ) {v : Value κ ρ}
    (columns : (S.tabulate v).columns ≠ []) :
    readRecords (ofValue S v) = some ((S.tabulate v).columns.map (·.name) ::
      (S.tabulate v).rows.map fun row => row.map (cell S)) := by
  rw [← readRecords_written]
  · simp [ofValue, ofTable, List.flatMap_map]
  intro row hrow
  rcases List.mem_cons.mp hrow with rfl | hrow
  · simpa using columns
  · obtain ⟨cells, hcells, rfl⟩ := List.mem_map.mp hrow
    have length := length_of_mem_tabulate S hcells
    intro none
    rw [List.map_eq_nil_iff.mp none] at length
    exact columns (List.length_eq_zero_iff.mp length.symm)

/-- A value with at least one column is read back from its CSV as the names of its columns
and then the texts of its rows in order, whatever the texts hold. Every record has as many
fields as the header. -/
theorem a_table_is_read_back_from_its_csv (S : Schema κ ρ) (v : Value κ ρ)
    (columns : (S.tabulate v).columns ≠ []) :
    let header := (S.tabulate v).columns.map (·.name)
    let rows := (S.tabulate v).rows.map fun row => row.map (cell S)
    readRecords (ofValue S v) = some (header :: rows) ∧
      ∀ row ∈ rows, row.length = header.length := by
  intro header rows
  refine ⟨readRecords_ofValue S columns, fun row hrow => ?_⟩
  obtain ⟨cells, hcells, rfl⟩ := List.mem_map.mp hrow
  rw [List.length_map, length_of_mem_tabulate S hcells, List.length_map]

/-- Two commits, one of which has an author with a comma, quotes and line breaks in the name,
and no commit between them. -/
theorem quotes_commas_and_line_breaks_are_read_back :
    let S := Extension.nothing.schema
    let commit (name : String) : Value (Kind Empty) (Record Empty) :=
      .ofRecord (.commit ⟨"aaaa", "", name, "", ⟨⟨2025, 1, 2⟩, 3, 4, 5, 0, 0⟩, "", "",
        ⟨⟨2025, 1, 2⟩, 3, 4, 5, 0, 0⟩, ⟨[]⟩⟩)
    let v := .ofItems (.record .commit) [commit "Smith, \"Bob\"\r\n", .null, commit "\""]
    (S.tabulate v).columns ≠ [] ∧
      let header := (S.tabulate v).columns.map (·.name)
      let rows := (S.tabulate v).rows.map fun row => row.map (cell S)
      readRecords (ofValue S v) = some (header :: rows) ∧
        ∀ row ∈ rows, row.length = header.length := by
  intro S commit v
  have columns : (S.tabulate v).columns ≠ [] := by
    have first : (S.columnsOf (.record .commit)).head?.map (·.name) = some "Sha" := by cbv
    intro none
    have none : S.columnsOf (.record .commit) = [] := none
    rw [none] at first
    cases first
  exact ⟨columns, a_table_is_read_back_from_its_csv S v columns⟩

end CommitQuery.Csv
