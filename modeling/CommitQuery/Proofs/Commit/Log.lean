-- A log as git writes it in the format that is asked for, and what is read from a log:
-- the commits of a written log, or the fault of the first record that has one.
import Mathlib.Data.List.Forall2
import CommitQuery.Commit.Log
import CommitQuery.Proofs.Plan.Walk
import CommitQuery.Proofs.Time.Reader

namespace CommitQuery.Log

open CommitQuery.Text

/-! ## How a log is written -/

/-- The fields of one commit: who made it, who committed it, its message and its patch. -/
structure Entry where
  sha : String
  authorName : String
  authorEmail : String
  authorDate : String
  committerName : String
  committerEmail : String
  committerDate : String
  message : String
  patch : String

/-- The fields in front of the patch. -/
def Entry.header (e : Entry) : List String :=
  [e.sha, e.authorName, e.authorEmail, e.authorDate, e.committerName, e.committerEmail,
    e.committerDate, e.message]

/-- The text of one commit. -/
def Entry.written (e : Entry) : List Char :=
  e.header.flatMap (fun field => field.toList ++ [fieldSeparator]) ++ '\n' :: e.patch.toList

/-- The text of a log: a record separator in front of each commit. -/
def write (entries : List Entry) : String :=
  String.ofList (entries.flatMap fun e => recordSeparator :: e.written)

/-- Fields that are found again: they hold no separator, a patch may hold those of fields;
there is a hash, and the dates are times. -/
structure Entry.Writable (e : Entry) : Prop where
  records : ∀ field ∈ e.patch :: e.header, recordSeparator ∉ field.toList
  fields : ∀ field ∈ e.header, fieldSeparator ∉ field.toList
  sha : e.sha.toList ≠ []
  start : ∀ c ∈ e.sha.toList.head?, isBlank c = false
  stop : ∀ c ∈ e.sha.toList.getLast?, isBlank c = false
  authorDate : ∃ t, Timestamp.read e.authorDate = .ok t
  committerDate : ∃ t, Timestamp.read e.committerDate = .ok t

/-- A commit with the fields of an entry; blanks behind a message do not count. -/
structure Entry.Describes (e : Entry) (c : Commit) : Prop where
  sha : c.sha = e.sha
  authorName : c.authorName = e.authorName
  authorEmail : c.authorEmail = e.authorEmail
  authorWhen : Timestamp.read e.authorDate = .ok c.authorWhen
  committerName : c.committerName = e.committerName
  committerEmail : c.committerEmail = e.committerEmail
  committerWhen : Timestamp.read e.committerDate = .ok c.committerWhen
  message : c.message = String.ofList (trimEnd e.message.toList)
  files : c.diff.files = Patch.read e.patch

/-! ## Records and their faults -/

/-- The records of a log: what stands between record separators and is not blank. -/
def records (log : String) : List (List Char) :=
  (log.toList.splitOn recordSeparator).filter fun r => !r.all isBlank

/-- The fields of a record. -/
def fields (record : List Char) : List (List Char) := record.splitOn fieldSeparator

/-- The cause why a field of a record is no time, if the record has that field. -/
def BadDate (record : List Char) (index : Nat) (date : List Char) (cause : Timestamp.BadTime) :
    Prop :=
  (fields record)[index]? = some date ∧
    Timestamp.read (String.ofList (trimEnd (trimStart date))) = .error cause

/-- A record that is no commit: a field is missing, or a date is no time. -/
def Faulty (record : List Char) : Prop :=
  (fields record).length < headerFields ∨
    ∃ index ∈ [3, 6], ∃ date cause, BadDate record index date cause

/-- The error that says what is wrong with a record. -/
inductive Blames (record : List Char) : BadLog → Prop
  | short (h : (fields record).length < headerFields) :
      Blames record (.malformedRecord (fields record).length (String.ofList record))
  | date {index : Nat} {date sha : List Char} {cause : Timestamp.BadTime} (hi : index ∈ [3, 6])
      (bad : BadDate record index date cause) (hs : (fields record).head? = some sha) :
      Blames record (.invalidDate (String.ofList date)
        (String.ofList (trimEnd (trimStart sha))) cause)

/-! ## One record -/

theorem readRecord_of_short {record : List Char} (h : (fields record).length < headerFields) :
    readRecord record =
      .error (.malformedRecord (fields record).length (String.ofList record)) := by
  have pieces : piecesUpTo fieldSeparator (headerFields + 1) record = fields record := by
    rw [piecesUpTo_eq_gather]
    exact gather_of_length_le (Nat.le_of_lt h)
  unfold readRecord
  rw [pieces]
  split
  · rename_i found
    rw [found] at h
    unfold headerFields at h
    simp only [List.length_cons] at h
    omega
  · rfl

theorem readRecord_of_fields {record sha authorName authorEmail authorDate committerName
      committerEmail committerDate message : List Char} {rest : List (List Char)}
    (h : fields record = sha :: authorName :: authorEmail :: authorDate :: committerName ::
      committerEmail :: committerDate :: message :: rest) :
    readRecord record = do
      let authorWhen ← readTime (String.ofList (trimEnd (trimStart sha))) authorDate
      let committerWhen ← readTime (String.ofList (trimEnd (trimStart sha))) committerDate
      return ⟨String.ofList (trimEnd (trimStart sha)), String.ofList (trimEnd message),
        String.ofList authorName, String.ofList authorEmail, authorWhen,
        String.ofList committerName, String.ofList committerEmail, committerWhen,
        ⟨Patch.readFiles ([fieldSeparator].intercalate rest)⟩⟩ := by
  unfold readRecord
  rw [piecesUpTo_eq_gather, ← fields, h]
  cases rest with
  | nil => rfl
  | cons piece more => rfl

/-- A record with all fields in front of its patch. -/
theorem exists_fields {record : List Char} (h : headerFields ≤ (fields record).length) :
    ∃ sha authorName authorEmail authorDate committerName committerEmail committerDate message
      rest, fields record = sha :: authorName :: authorEmail :: authorDate :: committerName ::
        committerEmail :: committerDate :: message :: rest := by
  unfold headerFields at h
  match hf : fields record, h with
  | a :: b :: c :: d :: e :: f :: g :: i :: rest, _ => exact ⟨a, b, c, d, e, f, g, i, rest, rfl⟩

theorem readTime_eq_error {sha : String} {field : List Char} {err : BadLog}
    (h : readTime sha field = .error err) :
    ∃ cause, Timestamp.read (String.ofList (trimEnd (trimStart field))) = .error cause ∧
      err = .invalidDate (String.ofList field) sha cause := by
  unfold readTime at h
  split at h
  · cases h
  · rename_i cause bad
    cases h
    exact ⟨cause, bad, rfl⟩

theorem readTime_eq_ok {sha : String} {field : List Char} {t : Timestamp} :
    readTime sha field = .ok t ↔
      Timestamp.read (String.ofList (trimEnd (trimStart field))) = .ok t := by
  unfold readTime
  split
  · rename_i found
    simp [found]
  · rename_i bad
    simp [bad]

/-- A record is not read for a fault that it has, and its error says so. -/
theorem readRecord_eq_error {record : List Char} {err : BadLog}
    (h : readRecord record = .error err) : Faulty record ∧ Blames record err := by
  rcases Nat.lt_or_ge (fields record).length headerFields with short | long
  · rw [readRecord_of_short short] at h
    cases h
    exact ⟨.inl short, .short short⟩
  · obtain ⟨sha, _, _, authorDate, _, _, committerDate, _, _, found⟩ := exists_fields long
    rw [readRecord_of_fields found] at h
    have sha_first : (fields record).head? = some sha := by rw [found]; rfl
    have blames : ∀ {index date}, index ∈ [3, 6] → (fields record)[index]? = some date →
        readTime (String.ofList (trimEnd (trimStart sha))) date = .error err →
        Faulty record ∧ Blames record err := by
      intro index date hi field bad
      obtain ⟨cause, invalid, rfl⟩ := readTime_eq_error bad
      exact ⟨.inr ⟨index, hi, date, cause, field, invalid⟩, .date hi ⟨field, invalid⟩ sha_first⟩
    rcases bind_eq_error.mp h with bad | ⟨_, _, h⟩
    · exact blames (by decide : 3 ∈ [3, 6]) (by rw [found]; rfl) bad
    · exact blames (by decide : 6 ∈ [3, 6]) (by rw [found]; rfl) (map_eq_error h)

theorem not_faulty_of_readRecord {record : List Char} {c : Commit}
    (h : readRecord record = .ok c) : ¬ Faulty record := by
  rintro (short | ⟨index, hi, date, cause, field, bad⟩)
  · rw [readRecord_of_short short] at h
    cases h
  · have long : headerFields ≤ (fields record).length := by
      by_contra short
      rw [readRecord_of_short (Nat.lt_of_not_le short)] at h
      cases h
    obtain ⟨sha, _, _, authorDate, _, _, committerDate, _, _, found⟩ := exists_fields long
    rw [readRecord_of_fields found] at h
    obtain ⟨_, author, h⟩ := bind_eq_ok.mp h
    obtain ⟨_, committer, _⟩ := bind_eq_ok.mp h
    rw [found] at field
    simp only [List.mem_cons, List.not_mem_nil, or_false] at hi
    rcases hi with rfl | rfl
    · cases field
      rw [readTime_eq_ok, bad] at author
      cases author
    · cases field
      rw [readTime_eq_ok, bad] at committer
      cases committer

/-! ## All records -/

theorem read_eq_mapM (log : String) : read log = (records log).mapM readRecord := by
  unfold read records
  rw [pieces_eq_splitOn]
  congr 1
  refine List.filter_congr fun r _ => ?_
  rw [Bool.eq_iff_iff]
  simp [trimStart]

/-- A log fails for the first of its records that has a fault. -/
theorem read_of_faulty {log : String} (h : ∃ r ∈ records log, Faulty r) :
    ∃ before r after err, records log = before ++ r :: after ∧ (∀ b ∈ before, ¬ Faulty b) ∧
      Faulty r ∧ Blames r err ∧ read log = .error err := by
  rw [read_eq_mapM]
  cases result : (records log).mapM readRecord with
  | ok commits =>
    obtain ⟨r, hr, faulty⟩ := h
    obtain ⟨c, hc⟩ := image_of_mapM result hr
    exact absurd faulty (not_faulty_of_readRecord hc)
  | error err =>
    obtain ⟨before, r, after, split, good, bad⟩ := mapM_eq_error result
    obtain ⟨faulty, blames⟩ := readRecord_eq_error bad
    refine ⟨before, r, after, err, split, fun b hb => ?_, faulty, blames, rfl⟩
    obtain ⟨c, hc⟩ := good b hb
    exact not_faulty_of_readRecord hc

/-! ## What was written -/

/-- An empty line in front of a patch opens no file. -/
theorem readFiles_newline (patch : List Char) :
    Patch.readFiles ('\n' :: patch) = Patch.readFiles patch := by
  unfold Patch.readFiles
  rw [lines_newline]
  rfl

theorem splitOn_written {entries : List Entry}
    (h : ∀ e ∈ entries, recordSeparator ∉ e.written) (before : List Char)
    (hb : recordSeparator ∉ before) :
    (before ++ entries.flatMap fun e => recordSeparator :: e.written).splitOn recordSeparator =
      before :: entries.map Entry.written := by
  induction entries generalizing before with
  | nil => simp [List.splitOn_eq_singleton hb]
  | cons e rest ih =>
    obtain ⟨he, hrest⟩ := List.forall_mem_cons.mp h
    rw [List.flatMap_cons, List.cons_append, List.splitOn_append_cons_self_of_not_mem hb,
      ih hrest e.written he]
    rfl

theorem Entry.Writable.recordSeparator_not_mem {e : Entry} (h : e.Writable) :
    recordSeparator ∉ e.written := by
  obtain ⟨patch, header⟩ := List.forall_mem_cons.mp h.records
  unfold Entry.written
  simp only [List.mem_append, List.mem_flatMap, List.mem_cons, List.not_mem_nil, or_false]
  rintro (⟨field, hf, here | here⟩ | here | here)
  · exact header field hf here
  · cases here
  · cases here
  · exact patch here

theorem Entry.Writable.not_blank {e : Entry} (h : e.Writable) : e.written.all isBlank = false := by
  obtain ⟨c, rest, sha⟩ := List.exists_cons_of_ne_nil h.sha
  have first : isBlank c = false := h.start c (by rw [sha]; rfl)
  unfold Entry.written Entry.header
  rw [List.flatMap_cons, sha]
  simp [first]

theorem records_write {entries : List Entry} (h : ∀ e ∈ entries, e.Writable) :
    records (write entries) = entries.map Entry.written := by
  have pieces := splitOn_written (fun e he => (h e he).recordSeparator_not_mem) [] (by simp)
  unfold records write
  rw [String.toList_ofList, ← List.nil_append (entries.flatMap _), pieces,
    List.filter_cons_of_neg (by simp)]
  refine List.filter_eq_self.mpr fun r hr => ?_
  obtain ⟨e, he, rfl⟩ := List.mem_map.mp hr
  rw [(h e he).not_blank]
  rfl

/-- The fields of an entry are found again, its patch in as many pieces as it has. -/
theorem fields_written {e : Entry} (h : e.Writable) :
    fields e.written =
      e.header.map String.toList ++ ('\n' :: e.patch.toList).splitOn fieldSeparator := by
  have split : ∀ (header : List String) (after : List Char),
      (∀ field ∈ header, fieldSeparator ∉ field.toList) →
        (header.flatMap (fun field => field.toList ++ [fieldSeparator]) ++ after).splitOn
          fieldSeparator = header.map String.toList ++ after.splitOn fieldSeparator := by
    intro header after hh
    induction header with
    | nil => rfl
    | cons field more ih =>
      obtain ⟨hf, hmore⟩ := List.forall_mem_cons.mp hh
      rw [List.flatMap_cons, List.append_assoc, List.append_assoc, List.singleton_append,
        List.splitOn_append_cons_self_of_not_mem hf, ih hmore]
      rfl
  exact split e.header _ h.fields

theorem read_trimmed_date {date : String} {t : Timestamp} (h : Timestamp.read date = .ok t) :
    Timestamp.read (String.ofList (trimEnd (trimStart date.toList))) = .ok t := by
  obtain ⟨start, stop⟩ := Timestamp.blank_ends_of_read h
  rw [trimStart_eq_self start, trimEnd_eq_self stop, String.ofList_toList, h]

/-- An entry is read as a commit with its fields. -/
theorem readRecord_written {e : Entry} (h : e.Writable) :
    ∃ c, readRecord e.written = .ok c ∧ e.Describes c := by
  obtain ⟨authorWhen, author⟩ := h.authorDate
  obtain ⟨committerWhen, committer⟩ := h.committerDate
  have sha : String.ofList (trimEnd (trimStart e.sha.toList)) = e.sha := by
    rw [trimStart_eq_self h.start, trimEnd_eq_self h.stop, String.ofList_toList]
  have patch : Patch.readFiles
      ([fieldSeparator].intercalate (('\n' :: e.patch.toList).splitOn fieldSeparator)) =
        Patch.read e.patch := by
    rw [List.intercalate_splitOn, readFiles_newline]
    rfl
  refine ⟨⟨e.sha, String.ofList (trimEnd e.message.toList), e.authorName, e.authorEmail, authorWhen,
    e.committerName, e.committerEmail, committerWhen, ⟨Patch.read e.patch⟩⟩, ?_,
    ⟨rfl, rfl, rfl, author, rfl, rfl, committer, rfl, rfl⟩⟩
  have found : fields e.written = e.sha.toList :: e.authorName.toList :: e.authorEmail.toList ::
      e.authorDate.toList :: e.committerName.toList :: e.committerEmail.toList ::
      e.committerDate.toList :: e.message.toList ::
      ('\n' :: e.patch.toList).splitOn fieldSeparator := fields_written h
  rw [readRecord_of_fields found, sha, patch]
  refine bind_eq_ok.mpr ⟨authorWhen, readTime_eq_ok.mpr (read_trimmed_date author), ?_⟩
  refine bind_eq_ok.mpr ⟨committerWhen, readTime_eq_ok.mpr (read_trimmed_date committer), ?_⟩
  simp only [String.ofList_toList]
  rfl

/-! ## The law -/

/-- The commits of a written log are read back in order, whatever their messages and their
patches hold but the separator of records. A log in which some record has a fault is not
read at all, and the error speaks about the first such record. -/
theorem a_log_is_read_whole_or_not_at_all :
    (∀ entries : List Entry, (∀ e ∈ entries, e.Writable) →
        ∃ commits, read (write entries) = .ok commits ∧
          List.Forall₂ Entry.Describes entries commits) ∧
      ∀ log : String, (∃ r ∈ records log, Faulty r) →
        ∃ before r after err, records log = before ++ r :: after ∧ (∀ b ∈ before, ¬ Faulty b) ∧
          Faulty r ∧ Blames r err ∧ read log = .error err := by
  refine ⟨?_, fun log h => read_of_faulty h⟩
  intro entries h
  rw [read_eq_mapM, records_write h]
  induction entries with
  | nil => exact ⟨[], rfl, .nil⟩
  | cons e rest ih =>
    obtain ⟨he, hrest⟩ := List.forall_mem_cons.mp h
    obtain ⟨c, hc, describes⟩ := readRecord_written he
    obtain ⟨commits, read, all⟩ := ih hrest
    refine ⟨c :: commits, ?_, .cons describes all⟩
    rw [List.map_cons, List.mapM_cons]
    exact bind_eq_ok.mpr ⟨c, hc, bind_eq_ok.mpr ⟨commits, read, rfl⟩⟩

/-- A commit whose message ends in newlines and whose patch holds a separator of fields, one
without a name, a message and a patch, and a log with a record whose dates are none. -/
theorem a_log_with_separators_is_read_and_one_with_a_bad_date_is_not :
    let date := "2025-01-02T03:04:05+01:00"
    let entries : List Entry :=
      [⟨"aaaa", "Alice", "alice@example.com", date, "Bob", "bob@example.com", date,
          "Second\n\nBody text\n", "diff --git a/x b/x\n@@ -1 +1 @@\n+a\x1fb\n"⟩,
        ⟨"bbbb", "", "", date, "", "", date, "", ""⟩]
    let log := "\x1e\n\x1eabc\x1f\x1f\x1fsoon\x1f\x1f\x1fnow\x1f\x1e"
    (∀ e ∈ entries, e.Writable) ∧
      (∃ commits, read (write entries) = .ok commits ∧
        List.Forall₂ Entry.Describes entries commits) ∧
      (∃ r ∈ records log, Faulty r) ∧
      ∃ before r after err, records log = before ++ r :: after ∧ (∀ b ∈ before, ¬ Faulty b) ∧
        Faulty r ∧ Blames r err ∧ read log = .error err := by
  intro date entries log
  have read_date : Timestamp.read date = .ok ⟨⟨2025, 1, 2⟩, 3, 4, 5, 0, 3600⟩ := by decide
  have writable : ∀ e ∈ entries, e.Writable := by
    simp only [entries, List.forall_mem_cons]
    refine ⟨⟨by decide, by decide, by decide, ?_, ?_, ⟨_, read_date⟩, ⟨_, read_date⟩⟩,
      ⟨by decide, by decide, by decide, ?_, ?_, ⟨_, read_date⟩, ⟨_, read_date⟩⟩, by simp⟩
    all_goals exact (Option.any_eq_false _ _).mp (by decide)
  have faulty : ∃ r ∈ records log, Faulty r :=
    ⟨"abc\x1f\x1f\x1fsoon\x1f\x1f\x1fnow\x1f".toList, by decide,
      .inr ⟨3, by decide, "soon".toList, .tooShort, by decide, by decide⟩⟩
  exact ⟨writable, a_log_is_read_whole_or_not_at_all.1 entries writable, faulty,
    a_log_is_read_whole_or_not_at_all.2 log faulty⟩

end CommitQuery.Log
