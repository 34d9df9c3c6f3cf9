-- A history that was written to a file is read back from it, and so are the user's own
-- bookmarks of a list.
import CommitQuery.Proofs.Json.RoundTrip
import CommitQuery.Proofs.Time.RoundTrip
import CommitQuery.Store.Bookmark
import CommitQuery.Store.History

namespace CommitQuery

/-! ## Values of fields -/

namespace Json

theorem ofNat_eq (n : Nat) : ofNat n = .number ⟨false, n, none⟩ := by
  have positive : ¬ (n : Int) < 0 := by omega
  simp [ofNat, ofInt, positive]

theorem readWord_ofNat (n : UInt64) : readWord (.ofNat n.toNat) = some n := by
  have small : n.toNat < UInt64.size := n.toNat_lt
  rw [ofNat_eq]
  simp only [readWord, Number.toInt?, Int.toNat_natCast]
  rw [if_pos ⟨Int.natCast_nonneg _, small⟩, UInt64.ofNat_toNat]

/-- A list is read from the values of its items if each item is read from its value. -/
theorem readList_map {α : Type} {read : Json → Option α} {toJson : α → Json} {items : List α}
    (h : ∀ a ∈ items, read (toJson a) = some a) :
    readList read (.array (items.map toJson)) = some items := by
  rw [readList, mapM_eq_some, List.forall₂_map_left_iff, List.forall₂_same]
  exact h

theorem Whole.ofText? (s : Option String) : Whole (.ofText? s) := by
  cases s with
  | none => exact .null
  | some s => exact .text s

theorem Whole.map {α : Type} {toJson : α → Json} {items : List α} (h : ∀ a, Whole (toJson a)) :
    Whole (.array (items.map toJson)) := by
  apply Whole.array
  intro j hj
  obtain ⟨a, -, rfl⟩ := List.mem_map.mp hj
  exact h a

end Json

open Json

/-! ## Histories -/

namespace History

theorem whole_entryJson (e : HistoryEntry) : Whole (entryJson e) := by
  apply Whole.object
  simp only [List.forall_mem_cons, List.not_mem_nil, false_imp_iff, implies_true, and_true]
  exact ⟨.text _, .text _, .text _, whole_ofNat _, .bool _⟩

theorem whole_toJson (h : History) : Whole h.toJson := by
  apply Whole.object
  simp only [List.forall_mem_cons, List.not_mem_nil, false_imp_iff, implies_true, and_true]
  exact ⟨.map whole_entryJson, whole_ofNat _⟩

theorem readEntry_entryJson {e : HistoryEntry} (time : e.time.IsUtc) :
    readEntry (entryJson e) = some e := by
  have slots : slots? entryNames (entryJson e) =
      some [.value (.text e.query), .value (.text e.time.toUtcText), .value (.text e.repository),
        .value (.ofNat e.milliseconds.toNat), .value (.bool e.success)] := by
    simp [slots?, entryNames, entryJson, occurrences, slotOfField, field?]
  unfold readEntry
  rw [slots]
  simp [Slot.required, readText, readTime, readBool, readWord_ofNat, time.readUtc?_toUtcText]

/-- The times of a history are times of UTC. -/
def InUtc (h : History) : Prop := ∀ e ∈ h.entries, e.time.IsUtc

/-- A history that was written is read back whole. -/
theorem load?_save {h : History} (times : h.InUtc) : load? h.save = some h := by
  have slots : slots? ["entries", "max_entries"] h.toJson =
      some [.value (.array (h.entries.map entryJson)), .value (.ofNat h.limit.toNat)] := by
    simp [slots?, toJson, occurrences, slotOfField, field?]
  have entries := readList_map fun e he => readEntry_entryJson (times e he)
  rw [load?, save, (whole_toJson h).parse_toText, Option.bind_some, ofJson?, slots]
  simp [Slot.required, Slot.withDefault, entries, readWord_ofNat]

end History

/-! ## Bookmarks -/

namespace Bookmark

/-- The times of a bookmark are times of UTC. -/
def InUtc (b : Bookmark) : Prop := b.createdAt.IsUtc ∧ ∀ t ∈ b.lastUsed, t.IsUtc

theorem whole_toJson (b : Bookmark) : Whole b.toJson := by
  apply Whole.object
  simp only [List.forall_mem_cons, List.not_mem_nil, false_imp_iff, implies_true, and_true]
  exact ⟨.text _, .text _, .ofText? _, .map .text, .text _, .ofText? _, .bool _⟩

/-- A field that may be left out is read from its value, which is null if there is none. -/
theorem optional_ofText? {α : Type} {read : Json → Option α} {write : α → String} {a : Option α}
    (h : ∀ b ∈ a, read (.text (write b)) = some b) :
    Slot.optional read (.value (.ofText? (a.map write))) = some a := by
  cases a with
  | none => rfl
  | some a => simp [Slot.optional, Json.ofText?, h a rfl]

theorem ofJson?_toJson {b : Bookmark} (times : b.InUtc) : ofJson? b.toJson = some b := by
  have slots : slots? names b.toJson =
      some [.value (.text b.name), .value (.text b.query), .value (.ofText? b.description),
        .value (.array (b.tags.map .text)), .value (.text b.createdAt.toUtcText),
        .value (.ofText? (b.lastUsed.map (·.toUtcText))), .value (.bool b.isBuiltin)] := by
    simp [slots?, toJson, names, occurrences, slotOfField, field?]
  have description : Slot.optional readText (.value (.ofText? (b.description.map id))) =
      some b.description := optional_ofText? fun _ _ => rfl
  have tags : readList readText (.array (b.tags.map .text)) = some b.tags :=
    readList_map fun _ _ => rfl
  have created : readTime (.text b.createdAt.toUtcText) = some b.createdAt :=
    times.1.readUtc?_toUtcText
  have used : Slot.optional readTime (.value (.ofText? (b.lastUsed.map (·.toUtcText)))) =
      some b.lastUsed := optional_ofText? fun t ht => (times.2 t ht).readUtc?_toUtcText
  rw [Option.map_id, id] at description
  unfold ofJson?
  rw [slots]
  simp [Slot.required, Slot.withDefault, readText, readBool, description, tags, created, used]

/-- Of bookmarks that were written those of the user are read back. -/
theorem load?_save {l : List Bookmark} (times : ∀ b ∈ l, b.isBuiltin = false → b.InUtc) :
    load? (save l) = some (l.filter (!·.isBuiltin)) := by
  have own : ∀ b ∈ l.filter (!·.isBuiltin), ofJson? b.toJson = some b := by
    intro b hb
    obtain ⟨hb, made⟩ := List.mem_filter.mp hb
    exact ofJson?_toJson (times b hb (by simpa using made))
  rw [load?, save, (Whole.map whole_toJson).parse_toText, Option.bind_some, readList_map own]

/-- The examples in a list leave no trace in its file. -/
theorem save_filter (l : List Bookmark) : save (l.filter (!·.isBuiltin)) = save l := by
  rw [save, save, List.filter_filter]
  simp only [Bool.and_self]

end Bookmark

/-! ## The law -/

/-- What was saved is loaded again, whatever its texts and numbers: a history with all of its
entries and its limit, a list of bookmarks without the examples in it. Saving what was loaded
writes the same file. The times are any of UTC, to the nanosecond, in every year that a file
can name. -/
theorem what_was_saved_is_loaded_again (h : History) (l : List Bookmark) (times : h.InUtc)
    (own : ∀ b ∈ l, b.isBuiltin = false → b.InUtc) :
    (History.load? h.save = some h ∧ (History.load? h.save).map History.save = some h.save) ∧
      Bookmark.load? (Bookmark.save l) = some (l.filter (!·.isBuiltin)) ∧
      (Bookmark.load? (Bookmark.save l)).map Bookmark.save = some (Bookmark.save l) := by
  have history := History.load?_save times
  have bookmarks := Bookmark.load?_save own
  refine ⟨⟨history, ?_⟩, bookmarks, ?_⟩
  · rw [history, Option.map_some]
  · rw [bookmarks, Option.map_some, Bookmark.save_filter]

/-- The end of a leap second, with nine digits of its fraction. -/
def lastSecond : Timestamp := ⟨⟨9999, 12, 31⟩, 23, 59, 59, 1999999999, 0⟩

def firstSecond : Timestamp := ⟨⟨0, 2, 29⟩, 0, 0, 0, 1, 0⟩

def hardHistory : History where
  entries := [⟨"Commits.Where(c => c.Sha == \"\\u00e9\")\n\t\x01", lastSecond, "C:\\été\\😀",
    18446744073709551615, false⟩, ⟨"", firstSecond, "", 0, true⟩]
  limit := 0

/-- An example between two bookmarks of the user, one of them with its name. -/
def mixedBookmarks : List Bookmark :=
  [⟨"Σ \"a\"", "", none, [], firstSecond, some lastSecond, false⟩,
    ⟨"Count", "Commits.Count()", some "", ["commit"], ⟨⟨0, 0, 0⟩, 99, 0, 0, 0, 7⟩, none, true⟩,
    ⟨"Count", "Commits.Count()", some "a\x7f\\/", ["x", ""], lastSecond, none, false⟩]

/-- Texts with quotes, backslashes, controls and characters of four bytes, the smallest and the
largest numbers, and an example whose time no calendar has. -/
theorem a_hard_history_and_mixed_bookmarks_are_loaded_again :
    hardHistory.InUtc ∧ (∀ b ∈ mixedBookmarks, b.isBuiltin = false → b.InUtc) ∧
      History.load? hardHistory.save = some hardHistory ∧
      ∃ first shipped last, mixedBookmarks = [first, shipped, last] ∧
        Bookmark.load? (Bookmark.save mixedBookmarks) = some [first, last] ∧
        (Bookmark.load? (Bookmark.save mixedBookmarks)).map Bookmark.save =
          some (Bookmark.save mixedBookmarks) := by
  have last : lastSecond.IsUtc := ⟨rfl, by decide, by decide, by decide, by decide⟩
  have first : firstSecond.IsUtc := ⟨rfl, by decide, by decide, by decide, by decide⟩
  have times : hardHistory.InUtc :=
    List.forall_mem_cons.mpr ⟨last, List.forall_mem_cons.mpr ⟨first, List.forall_mem_nil _⟩⟩
  have own : ∀ b ∈ mixedBookmarks, b.isBuiltin = false → b.InUtc := by
    unfold mixedBookmarks Bookmark.InUtc
    simp [first, last]
  obtain ⟨⟨history, -⟩, bookmarks, again⟩ :=
    what_was_saved_is_loaded_again hardHistory mixedBookmarks times own
  exact ⟨times, own, history, _, _, _, rfl, bookmarks, again⟩

end CommitQuery
