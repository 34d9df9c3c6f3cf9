-- Histories under any steps: queries are added, limits are set, and files are loaded. A
-- history is within its limit and keeps its newest query, as long as the files that are
-- loaded are within theirs; one that is not stays as it is until a limit is set.
import CommitQuery.Proofs.Store.Files
import CommitQuery.Proofs.Store.History

namespace CommitQuery.History

/-! ## Steps -/

/-- A step that a history takes. -/
inductive Step
  | add (entry : HistoryEntry)
  | setLimit (limit : UInt64)
  | load (file : String)

/-- The history after a step. A file that holds no history changes nothing. -/
def step (h : History) : Step → History
  | .add entry => h.add entry
  | .setLimit limit => h.withLimit limit
  | .load file => (load? file).getD h

/-- What some steps make of a new history. -/
def after (steps : List Step) : History := steps.foldl step empty

theorem after_concat (steps : List Step) (last : Step) :
    after (steps ++ [last]) = (after steps).step last := by
  unfold after
  rw [List.foldl_append]
  rfl

/-! ## Adding to a history -/

/-- Whether an entry repeats the query of the last one. -/
def Repeats (h : History) (e : HistoryEntry) : Prop := h.entries.getLast?.map key = some (key e)

theorem add_of_repeats {h : History} {e : HistoryEntry} (repeats : h.Repeats e) : h.add e = h := by
  unfold Repeats at repeats
  calc h.add e = ⟨(h.add e).entries, (h.add e).limit⟩ := rfl
    _ = h := by rw [entries_add, if_pos repeats, limit_add]

theorem entries_add_of_not_repeats {h : History} {e : HistoryEntry} (other : ¬ h.Repeats e) :
    (h.add e).entries = newest h.limit.toNat (h.entries ++ [e]) := by
  unfold Repeats at other
  rw [entries_add, if_neg other]

/-- An entry that is added takes the place of the oldest one over the limit. -/
theorem newest_concat {α : Type} (count : Nat) (l : List α) (a : α) :
    newest (count + 1) (l ++ [a]) = newest count l ++ [a] := by
  have dropped : (l ++ [a]).length - (count + 1) = l.length - count := by
    rw [List.length_append, List.length_singleton]
    omega
  rw [newest, dropped, List.drop_append_of_le_length (Nat.sub_le _ _)]
  rfl

theorem newest_zero {α : Type} (l : List α) : newest 0 l = [] := by
  rw [newest, Nat.sub_zero, List.drop_length]

theorem newest_suffix {α : Type} (count : Nat) (l : List α) : newest count l <:+ l :=
  List.drop_suffix _ _

theorem length_newest {α : Type} (count : Nat) (l : List α) :
    (newest count l).length = min count l.length := by
  rw [newest, List.length_drop]
  omega

/-- Only the oldest entries go when one is added. -/
theorem exists_kept_add (h : History) (e : HistoryEntry) :
    ∃ kept, kept <:+ h.entries ∧ ((h.add e).entries = kept ∨ (h.add e).entries = kept ++ [e]) := by
  by_cases repeats : h.Repeats e
  · exact ⟨h.entries, List.suffix_refl _, .inl (by rw [add_of_repeats repeats])⟩
  · rw [entries_add_of_not_repeats repeats]
    cases limit : h.limit.toNat with
    | zero => exact ⟨[], List.nil_suffix, .inl (newest_zero _)⟩
    | succ count =>
      exact ⟨newest count h.entries, newest_suffix _ _, .inr (newest_concat count _ e)⟩

/-- A history is within its limit after an entry was added, unless it was not before and the
entry is a repeat. -/
theorem length_add_le_iff (h : History) (e : HistoryEntry) :
    (h.add e).entries.length ≤ h.limit.toNat ↔
      h.entries.length ≤ h.limit.toNat ∨ ¬ h.Repeats e := by
  by_cases repeats : h.Repeats e
  · rw [add_of_repeats repeats]
    simp [repeats]
  · rw [entries_add_of_not_repeats repeats]
    simp [repeats, length_newest_le]

/-- The query that was added comes last, unless there is no room for it. -/
theorem lastKey_add_iff (h : History) (e : HistoryEntry) :
    (h.add e).entries.getLast?.map key = some (key e) ↔ 0 < h.limit.toNat ∨ h.Repeats e := by
  by_cases repeats : h.Repeats e
  · rw [add_of_repeats repeats]
    exact ⟨fun _ => .inr repeats, fun _ => repeats⟩
  · rw [entries_add_of_not_repeats repeats]
    by_cases room : 0 < h.limit.toNat
    · simp [room, getLast?_newest room]
    · have none : h.limit.toNat = 0 := by omega
      simp [none, newest_zero, repeats]

/-- With room for one, an entry is left out just if it is a repeat. -/
theorem add_eq_self_iff {h : History} (room : 0 < h.limit.toNat) (e : HistoryEntry) :
    h.add e = h ↔ h.Repeats e := by
  refine ⟨fun same => ?_, add_of_repeats⟩
  have last := (lastKey_add_iff h e).mpr (.inl room)
  rwa [same] at last

/-! ## Histories within their limits -/

/-- A history with no more entries than its limit, which leaves room for one at least. -/
structure Bounded (h : History) : Prop where
  within : h.entries.length ≤ h.limit.toNat
  room : 0 < h.limit.toNat

theorem bounded_empty : empty.Bounded := ⟨by decide, by decide⟩

theorem bounded_withLimit (h : History) (limit : UInt64) : (h.withLimit limit).Bounded := by
  refine ⟨(fits_withLimit limit h).within, ?_⟩
  rw [toNat_limit_withLimit]
  omega

theorem Bounded.add {h : History} (bounded : h.Bounded) (e : HistoryEntry) : (h.add e).Bounded := by
  constructor
  · rw [limit_add]
    exact (length_add_le_iff h e).mpr (.inl bounded.within)
  · rw [limit_add]
    exact bounded.room

/-- A file whose history has more entries than its limit, or a limit of 0. -/
def IsUnbounded (file : String) : Prop := ∃ h, load? file = some h ∧ ¬ h.Bounded

theorem Bounded.load {h : History} (bounded : h.Bounded) {file : String} (ok : ¬ IsUnbounded file) :
    (h.step (.load file)).Bounded := by
  show ((load? file).getD h).Bounded
  cases loaded : load? file with
  | none => exact bounded
  | some other =>
    by_contra broken
    exact ok ⟨other, loaded, broken⟩

/-- Steps among which a limit is set after every file that is not within its own. -/
def Settled (steps : List Step) : Prop :=
  ∀ front file back, steps = front ++ .load file :: back → IsUnbounded file →
    ∃ limit, .setLimit limit ∈ back

theorem Settled.front {steps : List Step} {step : Step} (settled : Settled (steps ++ [step]))
    (other : ∀ limit, step ≠ .setLimit limit) : Settled steps := by
  intro front file back split unbounded
  have more : steps ++ [step] = front ++ .load file :: (back ++ [step]) := by
    rw [split, List.append_assoc]
    rfl
  obtain ⟨limit, set⟩ := settled front file _ more unbounded
  rcases List.mem_append.mp set with set | set
  · exact ⟨limit, set⟩
  · exact absurd (List.mem_singleton.mp set).symm (other limit)

theorem Settled.last {steps : List Step} {file : String}
    (settled : Settled (steps ++ [.load file])) : ¬ IsUnbounded file := by
  intro unbounded
  obtain ⟨limit, set⟩ := settled steps file [] rfl unbounded
  cases set

theorem Settled.bounded {steps : List Step} (settled : Settled steps) : (after steps).Bounded := by
  induction steps using List.reverseRecOn with
  | nil => exact bounded_empty
  | append_singleton steps step ih =>
    rw [after_concat]
    cases step with
    | add e => exact (ih (settled.front nofun)).add e
    | setLimit limit => exact bounded_withLimit _ limit
    | load file => exact (ih (settled.front nofun)).load settled.last

/-! ## The law -/

/-- After any steps a history is within its limit, which is at least 1, if a limit was set
after every file that was not within its own. Then a query that is added comes last, and it
is left out just if it repeats the last one. Whatever was loaded, only the oldest entries go;
a history over its limit stays so until a limit is set or a query is added that is no repeat,
and without room a query that is added is lost, unless it is a repeat. -/
theorem a_history_is_within_its_limit_unless_a_file_is_not (steps : List Step) :
    let h := after steps
    (Settled steps → h.entries.length ≤ h.limit.toNat ∧ 0 < h.limit.toNat ∧
      ∀ e, let next := after (steps ++ [.add e])
        next.entries.length ≤ next.limit.toNat ∧
          next.entries.getLast?.map key = some (key e) ∧ (next = h ↔ h.Repeats e)) ∧
      (∀ e, let next := after (steps ++ [.add e])
        next.limit = h.limit ∧
          (∃ kept, kept <:+ h.entries ∧ (next.entries = kept ∨ next.entries = kept ++ [e])) ∧
          (next.entries.length ≤ h.limit.toNat ↔
            h.entries.length ≤ h.limit.toNat ∨ ¬ h.Repeats e) ∧
          (next.entries.getLast?.map key = some (key e) ↔ 0 < h.limit.toNat ∨ h.Repeats e)) ∧
      (∀ limit, let next := after (steps ++ [.setLimit limit])
        next.limit.toNat = max limit.toNat 1 ∧ next.entries <:+ h.entries ∧
          next.entries.length ≤ next.limit.toNat) ∧
      (∀ file loaded, load? file = some loaded → after (steps ++ [.load file]) = loaded) ∧
      ∀ count, h.recent count <:+ h.entries ∧
        (h.recent count).length = min count h.entries.length := by
  intro h
  refine ⟨fun settled => ?_, fun e => ?_, fun limit => ?_, fun file loaded found => ?_, ?_⟩
  · have bounded : h.Bounded := settled.bounded
    refine ⟨bounded.within, bounded.room, fun e => ?_⟩
    rw [after_concat]
    exact ⟨(bounded.add e).within, (lastKey_add_iff h e).mpr (.inl bounded.room),
      add_eq_self_iff bounded.room e⟩
  · rw [after_concat]
    exact ⟨limit_add h e, exists_kept_add h e, length_add_le_iff h e, lastKey_add_iff h e⟩
  · rw [after_concat]
    refine ⟨toNat_limit_withLimit h limit, ?_, (bounded_withLimit h limit).within⟩
    show (h.withLimit limit).entries <:+ h.entries
    rw [entries_withLimit]
    exact newest_suffix _ _
  · rw [after_concat]
    show (load? file).getD h = loaded
    rw [found, Option.getD_some]
  · intro count
    exact ⟨newest_suffix count h.entries, length_newest count h.entries⟩

def newYear : Timestamp := ⟨⟨2025, 1, 1⟩, 0, 0, 0, 0, 0⟩

def queryNamed (query : String) : HistoryEntry := ⟨query, newYear, "/r", 0, true⟩

/-- A history without room for a query. -/
def withoutRoom : History := ⟨[], 0⟩

/-- A history of two queries whose limit is one. -/
def overLimit : History := ⟨[queryNamed "Commits", queryNamed "Commits.Count()"], 1⟩

/-- A history comes back as it was written, whatever its limit. -/
theorem step_load_save {h : History} (times : h.InUtc) (before : History) :
    before.step (.load h.save) = h := by
  rw [step, load?_save times, Option.getD_some]

theorem inUtc_overLimit : overLimit.InUtc := by
  have utc : newYear.IsUtc := ⟨rfl, by decide, by decide, by decide, by decide⟩
  exact List.forall_mem_cons.mpr ⟨utc, List.forall_mem_cons.mpr ⟨utc, List.forall_mem_nil _⟩⟩

/-- A limit that is set after a file was loaded that was over its own. The newest of its two
queries stays, and another one takes its place. -/
theorem a_limit_settles_a_file_that_is_over_its_own :
    let steps : List Step := [.load overLimit.save, .setLimit 1]
    IsUnbounded overLimit.save ∧ Settled steps ∧
      (after steps).entries = [queryNamed "Commits.Count()"] ∧
      (after (steps ++ [.add (queryNamed "Commits.First()")])).entries.length ≤ 1 ∧
      (after (steps ++ [.add (queryNamed "Commits.First()")])).entries.getLast?.map key =
        some "Commits.First()" := by
  intro steps
  have unbounded : IsUnbounded overLimit.save :=
    ⟨overLimit, load?_save inUtc_overLimit, fun bounded => absurd bounded.within (by decide)⟩
  have settled : Settled steps := by
    intro front file back split _
    cases front with
    | nil =>
      obtain ⟨-, rfl⟩ := List.cons_eq_cons.mp split
      exact ⟨1, List.mem_singleton_self _⟩
    | cons first more => cases more <;> simp [steps] at split
  have loaded : after steps = overLimit.withLimit 1 := by
    simp only [after, steps, List.foldl_cons, List.foldl_nil, step_load_save inUtc_overLimit]
    rfl
  obtain ⟨bounds, adds, -⟩ := a_history_is_within_its_limit_unless_a_file_is_not steps
  obtain ⟨within, last, -⟩ := (bounds settled).2.2 (queryNamed "Commits.First()")
  rw [(adds (queryNamed "Commits.First()")).1, loaded] at within
  have kept : (after steps).entries = [queryNamed "Commits.Count()"] := by
    rw [loaded]
    decide +kernel
  exact ⟨unbounded, settled, kept, within, last.trans (by decide +kernel)⟩

/-- Both can come from a file. A query that is added to the one is lost, and the other keeps
its two queries, also when the last one is repeated. -/
theorem a_file_brings_a_history_over_its_limit :
    (after [.load withoutRoom.save, .add (queryNamed "Commits")]).entries = [] ∧
      (after [.load overLimit.save]).limit = 1 ∧
      (after [.load overLimit.save]).entries.length = 2 ∧
      (after [.load overLimit.save, .add (queryNamed "Commits.Count()")]).entries.length = 2 := by
  have no_times : withoutRoom.InUtc := List.forall_mem_nil _
  simp only [after, List.foldl_cons, List.foldl_nil, step_load_save no_times,
    step_load_save inUtc_overLimit]
  decide +kernel

end CommitQuery.History
