-- The rest of a candidate that the prompt shows behind the word at the end of a line. The word
-- is found in the candidate by its lower case, but the rest is cut off by the bytes that were
-- typed: the two go together where lower case keeps the number of bytes.
import CommitQuery.Proofs.Prompt.Chain
import CommitQuery.Proofs.Text.CaseTable

namespace CommitQuery.Completion

open CommitQuery.Text

variable {κ ρ : Type} (c : Completion κ ρ)

/-! ## Candidates -/

/-- A candidate writes its name, with a parenthesis behind it if it takes arguments. -/
def Candidate.WritesName (x : Candidate) : Prop :=
  x.replacement = x.name ∨ x.replacement = x.name ++ "("

theorem Follows.writesName {type : ValueType κ} {x : Candidate} (h : c.Follows type x) :
    x.WritesName := by
  cases h with
  | operator => exact .inr rfl
  | member => exact .inl rfl
  | method => exact .inr rfl

theorem writesName_of_mem_words {before : List Char} {x : Candidate} (h : x ∈ c.words before) :
    x.WritesName := by
  have word : ∀ name, (Candidate.word name).WritesName := fun _ => .inl rfl
  rcases List.mem_append.mp h with command | h
  · split at command
    · obtain ⟨⟨name, _⟩, -, rfl⟩ := List.mem_map.mp command
      exact word name
    · cases command
  · rcases List.mem_cons.mp h with rfl | parameter
    · exact word c.rootName
    · obtain ⟨⟨_, name⟩, -, rfl⟩ := List.mem_map.mp parameter
      exact word _

/-- The name of a candidate starts with the word at the end of the text, whatever their case. -/
theorem mem_candidates {text : List Char} {x : Candidate} (h : x ∈ c.candidates text) :
    x.WritesName ∧ lowerList (lastWord text) <+: lowerList x.name.toList := by
  obtain ⟨offered, fits⟩ := List.mem_filter.mp (distinct_subset _ h)
  refine ⟨?_, List.isPrefixOf_iff_prefix.mp fits⟩
  split at offered
  · rename_i receiver _
    cases type : c.receiverType? text maxLinks receiver with
    | none =>
      rw [type] at offered
      cases offered
    | some type' =>
      rw [type] at offered
      exact (c.mem_membersOf.mp offered).writesName
  · exact c.writesName_of_mem_words offered

/-- What a candidate writes starts with that word, too. -/
theorem Candidate.WritesName.starts {x : Candidate} (h : x.WritesName) {word : List Char}
    (starts : lowerList word <+: lowerList x.name.toList) :
    lowerList word <+: lowerList x.replacement.toList := by
  rcases h with same | paren
  · rw [same]
    exact starts
  · have whole : (x.name ++ "(").toList = x.name.toList ++ ['('] := String.toList_append
    rw [paren, whole, lowerList_concat_paren]
    exact starts.trans (List.prefix_append _ _)

/-! ## Hints -/

theorem beforeWord_append_lastWord (text : List Char) : beforeWord text ++ lastWord text = text :=
  List.rdropWhile_append_rtakeWhile

theorem suggest_end (line : String) :
    c.suggest line (utf8Length line.toList) =
      (utf8Length (beforeWord line.toList), c.candidates line.toList) := by
  rw [suggest, splitBytes?_utf8Length]

/-- There is a hint just for a word with one candidate, which is longer than the word and has a
character that starts where as many bytes are passed as the word has. -/
theorem hint_eq_some_iff {line h : String} :
    c.hint line (utf8Length line.toList) = some h ↔
      ∃ only taken, c.candidates line.toList = [only] ∧
        only.replacement.toList = taken ++ h.toList ∧
        utf8Length taken = utf8Length (lastWord line.toList) ∧
        lastWord line.toList ≠ [] ∧ h.toList ≠ [] := by
  have typed : utf8Length line.toList - utf8Length (beforeWord line.toList) =
      utf8Length (lastWord line.toList) := by
    have parts := congrArg utf8Length (beforeWord_append_lastWord line.toList)
    rw [utf8Length_append] at parts
    omega
  unfold hint
  rw [suggest_end]
  constructor
  · intro found
    split at found
    · cases found
    · split at found
      · rename_i start only suggested
        obtain ⟨rfl, single⟩ := Prod.mk.inj suggested
        dsimp only at found
        rw [typed] at found
        split at found
        · rename_i long
          rw [Bool.and_eq_true, decide_eq_true_eq, decide_eq_true_eq] at long
          obtain ⟨⟨taken, rest⟩, cut, rfl⟩ := Option.map_eq_some_iff.mp found
          obtain ⟨whole, bytes⟩ := splitBytes?_eq_some.mp cut
          rw [whole, utf8Length_append, bytes] at long
          refine ⟨only, taken, single, ?_, bytes, utf8Length_pos_iff.mp long.1, ?_⟩
          · rw [whole, String.toList_ofList]
          · rw [String.toList_ofList]
            exact utf8Length_pos_iff.mp (Nat.lt_add_right_iff_pos.mp long.2)
        · cases found
      · cases found
  · rintro ⟨only, taken, single, whole, bytes, some_word, some_rest⟩
    have some_line : line.isEmpty = false := by
      refine Bool.eq_false_iff.mpr fun none => some_word ?_
      rw [String.isEmpty_iff.mp none]
      rfl
    have cut := splitBytes?_append taken h.toList
    rw [← whole, bytes] at cut
    have long : utf8Length (lastWord line.toList) < utf8Length only.replacement.toList := by
      have more := utf8Length_pos_iff.mpr some_rest
      rw [whole, utf8Length_append, bytes]
      omega
    have some_bytes := utf8Length_pos_iff.mpr some_word
    simp only [single, typed, some_line, Nat.lt_irrefl, long, some_bytes, cut, decide_false,
      decide_true, Bool.or_false, Bool.and_true, Bool.false_eq_true, if_false, if_true,
      Option.map_some, String.ofList_toList]

/-! ## The law -/

/-- The word at the end of a line and its hint are the only candidate for the word, whatever
their case, just if what the word stands for has as many bytes in lower case as the word, and
the sigmas of the word keep their form in front of the hint. That is so of all words and
candidates that lower case takes by the character, each to one with as many bytes. -/
theorem a_hint_is_the_rest_of_the_candidate_where_lower_case_keeps_bytes {line h : String}
    (hinted : c.hint line (utf8Length line.toList) = some h) :
    ∃ only taken, c.suggest line (utf8Length line.toList) =
        (utf8Length (beforeWord line.toList), [only]) ∧
      only.replacement.toList = taken ++ h.toList ∧
      utf8Length taken = utf8Length (lastWord line.toList) ∧
      (lowerList (lastWord line.toList ++ h.toList) = lowerList only.replacement.toList ↔
        utf8Length (lowerList taken) = utf8Length (lowerList (lastWord line.toList)) ∧
          KeepsSigmas [] (lastWord line.toList) h.toList) ∧
      (Aligned (lastWord line.toList) → Aligned only.replacement.toList →
        lowerList (lastWord line.toList ++ h.toList) = lowerList only.replacement.toList) := by
  obtain ⟨only, taken, single, whole, bytes, -⟩ := c.hint_eq_some_iff.mp hinted
  obtain ⟨writes, starts⟩ := c.mem_candidates (single ▸ List.mem_singleton.mpr rfl)
  have starts := writes.starts starts
  rw [whole] at starts
  have exactly := lowerList_append_eq_iff starts
  refine ⟨only, taken, ?_, whole, bytes, ?_, fun word candidate => ?_⟩
  · rw [suggest_end, single]
  · rw [whole]
    exact exactly
  · rw [whole] at candidate ⊢
    have plain : 'Σ' ∉ lastWord line.toList := fun sigma => (word _ sigma).1 rfl
    refine exactly.mpr ⟨?_, .of_not_mem plain _ _⟩
    rw [candidate.left.keepsLength, word.keepsLength, bytes]

def accentLine : String := "Commits.Where(d\u00E9p\u00F4t => D\u00C9"

/-- A parameter is completed behind capital letters, with accents or without. -/
theorem a_parameter_is_hinted_behind_capital_letters :
    overCommits.hint accentLine (utf8Length accentLine.toList) = some "p\u00F4t" ∧
      overCommits.suggest accentLine (utf8Length accentLine.toList) =
        (25, [.word "d\u00E9p\u00F4t"]) ∧
      lowerList (lastWord accentLine.toList ++ "p\u00F4t".toList) =
        lowerList "d\u00E9p\u00F4t".toList := by
  have hinted : overCommits.hint accentLine (utf8Length accentLine.toList) =
      some "p\u00F4t" := by decide +kernel
  have offered : overCommits.suggest accentLine (utf8Length accentLine.toList) =
      (25, [.word "d\u00E9p\u00F4t"]) := by decide +kernel
  obtain ⟨only, taken, suggested, -, -, -, aligned⟩ :=
    overCommits.a_hint_is_the_rest_of_the_candidate_where_lower_case_keeps_bytes hinted
  obtain rfl : Candidate.word "d\u00E9p\u00F4t" = only := by
    rw [offered] at suggested
    exact List.singleton_inj.mp (Prod.mk.inj suggested).2
  exact ⟨hinted, offered, aligned (by decide +kernel) (by decide +kernel)⟩

def kelvinLine : String := "Commits.Where(kommit => \u212A"

/-- The Kelvin sign has three bytes and its lower case, the letter k, has one: the hint for it
leaves out two more letters of the parameter. -/
theorem a_hint_behind_the_kelvin_sign_leaves_out_letters :
    overCommits.hint kelvinLine (utf8Length kelvinLine.toList) = some "mit" ∧
      overCommits.suggest kelvinLine (utf8Length kelvinLine.toList) = (24, [.word "kommit"]) ∧
      lowerList (lastWord kelvinLine.toList ++ "mit".toList) ≠ lowerList "kommit".toList := by
  refine ⟨by decide +kernel, by decide +kernel, by decide +kernel⟩

end CommitQuery.Completion
