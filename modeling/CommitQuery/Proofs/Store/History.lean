-- The laws of the history: it holds the newest of the queries that were added, as many
-- as its limit allows, and of queries that repeat the one right before them none.
import Mathlib.Data.List.Induction
import CommitQuery.Store.History

namespace CommitQuery.History

open CommitQuery.Text

/-! ## The newest items -/

section Newest

variable {α : Type}

theorem length_newest_le (count : Nat) (l : List α) : (newest count l).length ≤ count := by
  unfold newest
  rw [List.length_drop]
  omega

theorem newest_of_length_le {count : Nat} {l : List α} (h : l.length ≤ count) :
    newest count l = l := by
  unfold newest
  rw [Nat.sub_eq_zero_of_le h, List.drop_zero]

/-- What is not among the newest items does not come back when more are added. -/
theorem newest_append (count : Nat) (l more : List α) :
    newest count (newest count l ++ more) = newest count (l ++ more) := by
  by_cases h : l.length ≤ count
  · rw [newest_of_length_le h]
  · unfold newest
    rw [← List.drop_append_of_le_length (by omega), List.drop_drop]
    congr 1
    simp only [List.length_drop, List.length_append]
    omega

theorem getLast?_newest {count : Nat} (some_kept : 0 < count) (l : List α) :
    (newest count l).getLast? = l.getLast? := by
  unfold newest
  rw [List.getLast?_drop]
  split
  · rename_i h
    have none : l = [] := List.length_eq_zero_iff.mp (by omega)
    rw [none]
    rfl
  · rfl

end Newest

/-! ## Repeated queries -/

/-- The text that an entry is compared by. -/
def key (e : HistoryEntry) : String := trim e.query

/-- Entries without those whose query is that of the entry right before them; the query
before the first one is `previous`. -/
def withoutRepeats (previous : Option String) : List HistoryEntry → List HistoryEntry
  | [] => []
  | e :: rest =>
    if previous = some (key e) then withoutRepeats (some (key e)) rest
    else e :: withoutRepeats (some (key e)) rest

theorem withoutRepeats_concat (previous : Option String) (l : List HistoryEntry)
    (e : HistoryEntry) :
    withoutRepeats previous (l ++ [e]) = withoutRepeats previous l ++
      if (l.getLast?.map key).or previous = some (key e) then [] else [e] := by
  induction l generalizing previous with
  | nil =>
    by_cases h : previous = some (key e)
    · simp [withoutRepeats, h]
    · simp [withoutRepeats, h]
  | cons a rest ih =>
    have last : ((a :: rest).getLast?.map key).or previous =
        (rest.getLast?.map key).or (some (key a)) := by
      rw [List.getLast?_cons]
      cases rest.getLast? with
      | none => rfl
      | some b => rfl
    rw [List.cons_append, withoutRepeats, withoutRepeats, ih, last]
    by_cases h : previous = some (key a)
    · rw [if_pos h, if_pos h]
    · rw [if_neg h, if_neg h]
      rfl

/-- Leaving repeats out does not change which query comes last. -/
theorem lastKey_withoutRepeats (previous : Option String) (l : List HistoryEntry) :
    ((withoutRepeats previous l).getLast?.map key).or previous =
      (l.getLast?.map key).or previous := by
  induction l using List.reverseRecOn with
  | nil => rfl
  | append_singleton l e ih =>
    rw [withoutRepeats_concat, List.getLast?_concat]
    by_cases h : (l.getLast?.map key).or previous = some (key e)
    · rw [if_pos h, List.append_nil, ih, h]
      rfl
    · rw [if_neg h, List.getLast?_concat]

/-! ## Adding -/

theorem sameQuery_iff {a b : HistoryEntry} : sameQuery a b = true ↔ key a = key b := by
  simp [sameQuery, key]

@[simp] theorem limit_add (h : History) (e : HistoryEntry) : (h.add e).limit = h.limit := by
  unfold add
  split
  · split
    · rfl
    · rfl
  · rfl

theorem entries_add (h : History) (e : HistoryEntry) :
    (h.add e).entries =
      if h.entries.getLast?.map key = some (key e) then h.entries
      else newest h.limit.toNat (h.entries ++ [e]) := by
  unfold add
  cases last : h.entries.getLast? with
  | none => rfl
  | some a =>
    simp only [sameQuery_iff, Option.map_some, Option.some.injEq]
    split
    · rfl
    · rfl

theorem toNat_limit_withLimit (h : History) (limit : UInt64) :
    (h.withLimit limit).limit.toNat = max limit.toNat 1 := by
  by_cases zero : limit = 0
  · subst zero
    rfl
  · have positive : limit.toNat ≠ 0 := by
      intro h
      exact zero (UInt64.toNat_inj.mp h)
    simp only [withLimit, shorten, if_neg zero]
    omega

theorem entries_withLimit (h : History) (limit : UInt64) :
    (h.withLimit limit).entries = newest (max limit.toNat 1) h.entries := by
  rw [← toNat_limit_withLimit h limit]
  rfl

theorem mem_entries_add {h : History} {e a : HistoryEntry} (ha : a ∈ (h.add e).entries) :
    a = e ∨ a ∈ h.entries := by
  rw [entries_add] at ha
  split at ha
  · exact .inr ha
  · rcases List.mem_append.mp (List.mem_of_mem_drop ha) with ha | ha
    · exact .inr ha
    · exact .inl (List.mem_singleton.mp ha)

/-- A history that a limit was set for and that is within it. -/
structure Fits (limit : UInt64) (h : History) : Prop where
  limit : h.limit = (empty.withLimit limit).limit
  within : h.entries.length ≤ h.limit.toNat

theorem fits_withLimit (limit : UInt64) (h : History) : Fits limit (h.withLimit limit) :=
  ⟨rfl, length_newest_le _ _⟩

theorem Fits.add {limit : UInt64} {h : History} (fits : Fits limit h) (e : HistoryEntry) :
    Fits limit (h.add e) := by
  refine ⟨(limit_add h e).trans fits.limit, ?_⟩
  rw [limit_add, entries_add]
  split
  · exact fits.within
  · exact length_newest_le _ _

theorem Fits.foldl_add {limit : UInt64} {h : History} (fits : Fits limit h)
    (added : List HistoryEntry) : Fits limit (added.foldl History.add h) := by
  induction added generalizing h with
  | nil => exact fits
  | cons e rest ih => exact ih (fits.add e)

theorem Fits.length_le {limit : UInt64} {h : History} (fits : Fits limit h) :
    h.entries.length ≤ max limit.toNat 1 := by
  rw [← toNat_limit_withLimit empty limit, ← fits.limit]
  exact fits.within

/-- Setting the limit again changes nothing. -/
theorem Fits.withLimit {limit : UInt64} {h : History} (fits : Fits limit h) :
    h.withLimit limit = h := by
  have entries : (h.withLimit limit).entries = h.entries := by
    rw [entries_withLimit, newest_of_length_le fits.length_le]
  have same : (h.withLimit limit).limit = h.limit := fits.limit.symm
  show (⟨(h.withLimit limit).entries, (h.withLimit limit).limit⟩ : History) = h
  rw [entries, same]

/-- A new history holds the newest of the entries that were added, repeats left out. -/
theorem entries_foldl_add (limit : UInt64) (added : List HistoryEntry) :
    (added.foldl add (empty.withLimit limit)).entries =
      newest (max limit.toNat 1) (withoutRepeats none added) := by
  induction added using List.reverseRecOn with
  | nil => exact entries_withLimit empty limit
  | append_singleton added e ih =>
    have same := ((fits_withLimit limit empty).foldl_add added).limit
    have last := lastKey_withoutRepeats none added
    rw [Option.or_none, Option.or_none] at last
    rw [List.foldl_append, List.foldl_cons, List.foldl_nil, entries_add, ih, same,
      toNat_limit_withLimit, getLast?_newest (by omega), last, withoutRepeats_concat,
      Option.or_none]
    by_cases h : added.getLast?.map key = some (key e)
    · rw [if_pos h, if_pos h, List.append_nil]
    · rw [if_neg h, if_neg h, newest_append]

/-! ## Times aside -/

/-- What an entry tells besides when its query ran and how long it took. -/
def told (e : HistoryEntry) : String × String × Bool := (e.query, e.repository, e.success)

theorem key_of_told {a b : HistoryEntry} (tell : told a = told b) : key a = key b := by
  have queries : a.query = b.query := congrArg Prod.fst tell
  unfold key
  rw [queries]

/-- Two histories that differ in times at most. -/
def SameTold (h other : History) : Prop :=
  h.limit = other.limit ∧ h.entries.map told = other.entries.map told

theorem SameTold.lastKey {h other : History} (same : SameTold h other) :
    h.entries.getLast?.map key = other.entries.getLast?.map key := by
  have last := congrArg List.getLast? same.2
  rw [List.getLast?_map, List.getLast?_map] at last
  cases mine : h.entries.getLast? with
  | none =>
    rw [mine, Option.map_none, eq_comm, Option.map_eq_none_iff] at last
    rw [last]
  | some a =>
    rw [mine, Option.map_some, eq_comm, Option.map_eq_some_iff] at last
    obtain ⟨b, yours, tell⟩ := last
    rw [yours, Option.map_some, Option.map_some, key_of_told tell]

/-- Whether an entry is kept, and which ones go for it, does not depend on times. -/
theorem SameTold.add {h other : History} (same : SameTold h other) {a b : HistoryEntry}
    (tell : told a = told b) : SameTold (h.add a) (other.add b) := by
  have lengths : h.entries.length = other.entries.length := by
    simpa using congrArg List.length same.2
  refine ⟨by rw [limit_add, limit_add, same.1], ?_⟩
  rw [entries_add, entries_add, same.lastKey, key_of_told tell, same.1]
  split
  · exact same.2
  · simp [newest, same.2, lengths, tell]

theorem SameTold.foldl_add {added others : List HistoryEntry}
    (tell : added.map told = others.map told) {h other : History} (same : SameTold h other) :
    SameTold (added.foldl History.add h) (others.foldl History.add other) := by
  induction added generalizing h other others with
  | nil =>
    rw [List.map_nil, eq_comm, List.map_eq_nil_iff] at tell
    rw [tell]
    exact same
  | cons e rest ih =>
    obtain ⟨a, more, rfl, first, rest⟩ := List.map_eq_cons_iff.mp tell.symm
    exact ih rest.symm (same.add first.symm)

end CommitQuery.History
