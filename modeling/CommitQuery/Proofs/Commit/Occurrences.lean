-- Texts that stand in a line as they are, and whether the search that ignores case finds
-- them. It looks for the lower case that a text has by itself; in a line the text has another
-- one if a capital sigma of it ends a word in one of the two only.
import CommitQuery.Proofs.Commit.Search
import CommitQuery.Proofs.Text.Case
import CommitQuery.Store.History

namespace CommitQuery

open CommitQuery.Text

/-- A line that shows a text is among the matches. -/
theorem ContentTest.mem_matchesOfFile {k : ContentTest} {text : String} {f : FileChange}
    {l : DiffLine} (hl : l ∈ f.lines) (h : l.Shows k.kinds text) :
    l ∈ (k.matchesOfFile text f).map (·.line) := by
  rw [k.matchesOfFile_lines text]
  exact List.mem_filter.mpr ⟨hl, decide_eq_true h⟩

/-! ## The law -/

/-- A text `t` that stands in a line or a query, behind `before` and in front of `after`. If
each capital sigma of it ends a word in the whole just if it does in `t`, the tests of changed
lines that read a line of this kind hold of every file with it, their matches have the line,
and the search of a history finds every entry with this query. The condition says just that
`t` has its own lower case there, and it holds of every text without a capital sigma and, more
generally, with letters of its own on both sides of each. -/
theorem a_text_is_found_where_its_sigmas_keep_their_form (t line : String)
    (before after : List Char) (h : line.toList = before ++ t.toList ++ after) :
    (KeepsSigmas before t.toList after →
      (∀ (k : ContentTest) (kind : LineKind) (f : FileChange), kind ∈ k.kinds →
        ⟨kind, line⟩ ∈ f.lines →
          k.ofFile f t = true ∧ ⟨kind, line⟩ ∈ (k.matchesOfFile t f).map (·.line)) ∧
      ∀ history : History, ∀ e ∈ history.entries, e.query = line → e ∈ history.search t) ∧
    (KeepsSigmas before t.toList after ↔
      lowerBetween before.reverse t.toList after = lowerList t.toList) ∧
    ((∀ front back, t.toList = front ++ 'Σ' :: back →
        (∃ c ∈ front, isCaseIgnorable c = false) ∧ ∃ c ∈ back, isCaseIgnorable c = false) →
      KeepsSigmas before t.toList after) := by
  refine ⟨fun keeps => ?_, lowerBetween_eq_lowerList_iff.symm, fun inner => .of_inner inner _ _⟩
  have occurs : lowerList t.toList <:+: lowerList line.toList := h ▸ lowerList_infix keeps
  refine ⟨fun k kind f hkind hl => ?_, fun history e he hq => ?_⟩
  · have shows : DiffLine.Shows k.kinds t ⟨kind, line⟩ := ⟨hkind, occurs⟩
    exact ⟨(k.ofFile_iff t).mpr ⟨_, hl, shows⟩, ContentTest.mem_matchesOfFile hl shows⟩
  · subst hq
    exact List.mem_filter.mpr ⟨he, containsList_iff.mpr occurs⟩

/-- A word that ends in a capital sigma, in a line where it ends as well. -/
theorem a_word_with_a_final_sigma_is_found :
    "Η ΟΔΟΣ.".toList = "Η ".toList ++ "ΟΔΟΣ".toList ++ ['.'] ∧
      KeepsSigmas "Η ".toList "ΟΔΟΣ".toList ['.'] ∧
      ContentTest.added.ofFile ⟨"map.txt", none, .modified, false, [⟨.added, "Η ΟΔΟΣ."⟩]⟩ "ΟΔΟΣ" =
        true := by
  have h : "Η ΟΔΟΣ.".toList = "Η ".toList ++ "ΟΔΟΣ".toList ++ ['.'] := by decide
  have law := a_text_is_found_where_its_sigmas_keep_their_form "ΟΔΟΣ" "Η ΟΔΟΣ." _ _ h
  have keeps : KeepsSigmas "Η ".toList "ΟΔΟΣ".toList ['.'] := law.2.1.mpr (by decide +kernel)
  exact ⟨h, keeps, ((law.1 keeps).1 .added .added _ (by decide) (by decide)).1⟩

/-- The same word at the beginning of a longer one: its sigma is not the last letter there. -/
theorem a_word_with_a_final_sigma_is_not_found_in_a_longer_one :
    let road := "ΟΔΟΣ"
    let surface := "ΟΔΟΣΤΡΩΜΑ"
    let f : FileChange := ⟨"map.txt", none, .modified, false,
      [⟨.added, surface⟩, ⟨.deleted, surface⟩]⟩
    let history : History := ⟨[⟨surface, ⟨⟨1970, 1, 1⟩, 0, 0, 0, 0, 0⟩, "/", 0, true⟩], 1000⟩
    road.toList <:+: surface.toList ∧ (∀ k : ContentTest, k.ofFile f road = false) ∧
      f.matchingLines road true true = [] ∧ history.search road = [] := by
  refine ⟨⟨[], "ΤΡΩΜΑ".toList, by decide⟩, fun k => ?_, by decide +kernel, by decide +kernel⟩
  cases k <;> decide +kernel

end CommitQuery
