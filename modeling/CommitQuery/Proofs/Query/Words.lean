-- The words of a text: what stands in it between blanks, one word for each token. Cutting
-- loses nothing but blanks, and no lexeme would take more of the text than the word that is
-- found. Words that are spelled out with blanks between them are found again, and where a
-- text cannot be cut, the text in front of that place can.
import CommitQuery.Proofs.Query.Lexing
import Mathlib

namespace CommitQuery.Query

open CommitQuery.Text

/-! ## Words -/

/-- A lexeme in a text: the blanks in front of it, and the characters that spell it. -/
structure Word where
  blanks : List Char
  chars : List Char
  lexeme : Lexeme

structure Word.IsSpelled (w : Word) : Prop where
  blanks : ∀ c ∈ w.blanks, isBlank c = true
  chars : w.lexeme.Spelled w.chars

/-- Words one after the other, and the blanks behind the last of them. -/
def textOf : List Word → List Char → List Char
  | [], blanks => blanks
  | w :: more, blanks => w.blanks ++ w.chars ++ textOf more blanks

/-- The tokens of words whose text starts at a position. -/
def tokensOf (position : Nat) : List Word → List Token
  | [] => []
  | w :: more =>
    ⟨position + w.blanks.length, w.lexeme⟩ ::
      tokensOf (position + w.blanks.length + w.chars.length) more

/-- Whether no lexeme takes more of a text than its first characters. -/
def IsLongest (chars rest : List Char) : Prop :=
  ∀ (l : Lexeme) (more : List Char), l.Spelled more → more <+: chars ++ rest →
    more.length ≤ chars.length

/-! ## The longest match -/

theorem Lexeme.Spelled.length_pos {l : Lexeme} {s : List Char} (h : l.Spelled s) :
    0 < s.length := by
  obtain ⟨c, rest, rfl, -⟩ := h.head
  exact Nat.succ_pos _

/-- A lexeme that does not end takes a single sign, or else it is a name or a number. -/
theorem endsBefore_or {l : Lexeme} {c : Char} {s : List Char} (h : l.Spelled (c :: s))
    (rest : List Char) : l.endsBefore rest = true ∨ s = [] ∨
      startsName c = true ∧ (∀ d ∈ s, continuesName d = true) ∨
      isAsciiDigit c = true ∧ ∀ d ∈ s, isAsciiDigit d = true := by
  cases h with
  | name hc hrest => exact .inr (.inr (.inl ⟨hc, hrest⟩))
  | number hd hle =>
    obtain ⟨hc, hrest⟩ := List.forall_mem_cons.mp hd
    exact .inr (.inr (.inr ⟨hc, hrest⟩))
  | text hq hc => exact .inl rfl
  | sign spelled =>
    cases l with
    | comparison op =>
      cases op with
      | greater | less =>
        cases spelled
        exact .inr (.inl rfl)
      | _ => exact .inl rfl
    | name x => cases spelled
    | number n => cases spelled
    | _ => exact .inl rfl

/-- What is read leaves no more of a run behind than is left by dropping it. -/
theorem length_dropWhile_append_le {p : Char → Bool} {s rest : List Char}
    (h : ∀ d ∈ s, p d = true) : ((s ++ rest).dropWhile p).length ≤ rest.length := by
  rw [List.dropWhile_append_of_pos h]
  exact (List.dropWhile_suffix p).length_le

/-- The lexeme that is read takes as much as any lexeme that the text starts with. -/
theorem length_le_of_readLexeme {l l' : Lexeme} {c : Char} {s rest after : List Char}
    (read : readLexeme c (s ++ rest) = .ok (l', after)) (h : l.Spelled (c :: s)) :
    after.length ≤ rest.length := by
  rcases endsBefore_or h rest with ends | rfl | ⟨name, run⟩ | ⟨digit, run⟩
  · rw [readLexeme_of_spelled h ends] at read
    cases read
    exact Nat.le_refl _
  · exact length_readLexeme_le read
  · rw [readLexeme, if_pos name] at read
    cases read
    exact length_dropWhile_append_le run
  · rw [readLexeme, if_neg (by simp [startsName_of_isAsciiDigit digit]), if_pos digit] at read
    dsimp only at read
    split at read
    · cases read
      exact length_dropWhile_append_le run
    · cases read

theorem Lexeme.Spelled.isLongest {l : Lexeme} {s rest : List Char} (h : l.Spelled s)
    (ends : l.endsBefore rest = true) : IsLongest s rest := by
  rintro l' more h' ⟨after, same⟩
  obtain ⟨c, tail, rfl, -⟩ := h.head
  obtain ⟨c', tail', rfl, -⟩ := h'.head
  obtain ⟨rfl, behind⟩ : c' = c ∧ tail' ++ after = tail ++ rest := List.cons.inj same
  have read := readLexeme_of_spelled h ends
  rw [← behind] at read
  have left := length_le_of_readLexeme read h'
  have length := congrArg List.length behind
  rw [List.length_append, List.length_append] at length
  simp only [List.length_cons]
  omega

/-! ## Positions -/

theorem Cuts.stop_eq {position stop : Nat} {s : List Char} {ts : List Token}
    (h : Cuts position s ts stop) : stop = position + s.length := by
  induction h with
  | blank => rfl
  | token _ _ _ _ ih =>
    rw [ih]
    simp only [List.length_append]
    omega

/-- A token stands where its first character does, and that is no blank. -/
theorem Cuts.token_start {position stop : Nat} {s : List Char} {ts : List Token}
    (h : Cuts position s ts stop) {t : Token} (ht : t ∈ ts) :
    ∃ front c back, s = front ++ c :: back ∧ t.position = position + front.length ∧
      isBlank c = false := by
  induction h with
  | blank => cases ht
  | @token position stop blanks word rest l ts hb hl hstop h ih =>
    rcases List.mem_cons.mp ht with rfl | ht
    · obtain ⟨c, tail, rfl, visible⟩ := hl.head
      exact ⟨blanks, c, tail ++ rest, by simp, rfl, visible⟩
    · obtain ⟨front, c, back, rfl, place, visible⟩ := ih ht
      refine ⟨blanks ++ word ++ front, c, back, by simp, ?_, visible⟩
      rw [place]
      simp only [List.length_append]
      omega

/-- From token to token the positions grow, up to the end of the text. -/
theorem Cuts.increasing {position stop : Nat} {s : List Char} {ts : List Token}
    (h : Cuts position s ts stop) : (ts.map (·.position) ++ [stop]).Pairwise (· < ·) ∧
      ∀ p ∈ ts.map (·.position) ++ [stop], position ≤ p := by
  induction h with
  | blank => simp
  | @token position stop blanks word rest l ts hb hl hstop h ih =>
    have some_word := hl.length_pos
    obtain ⟨increasing, behind⟩ := ih
    rw [List.map_cons, List.cons_append]
    refine ⟨List.pairwise_cons.mpr ⟨fun p hp => ?_, increasing⟩,
      List.forall_mem_cons.mpr ⟨Nat.le_add_right _ _, fun p hp => ?_⟩⟩
    · have := behind p hp
      dsimp only
      omega
    · have := behind p hp
      omega

/-! ## The words of a text -/

theorem Cuts.words {position stop : Nat} {s : List Char} {ts : List Token}
    (h : Cuts position s ts stop) : ∃ words blanks, (∀ w ∈ words, w.IsSpelled) ∧
      (∀ c ∈ blanks, isBlank c = true) ∧ s = textOf words blanks ∧ ts = tokensOf position words ∧
      ∀ before w after, words = before ++ w :: after → IsLongest w.chars (textOf after blanks) := by
  induction h with
  | @blank position s hs =>
    exact ⟨[], s, List.forall_mem_nil _, hs, rfl, rfl, fun before w after none => by simp at none⟩
  | @token position stop blanks word rest l ts hb hl hstop h ih =>
    obtain ⟨words, behind, spelled, blank, rfl, rfl, longest⟩ := ih
    refine ⟨⟨blanks, word, l⟩ :: words, behind, List.forall_mem_cons.mpr ⟨⟨hb, hl⟩, spelled⟩,
      blank, rfl, rfl, fun before w after split => ?_⟩
    cases before with
    | nil =>
      obtain ⟨rfl, rfl⟩ := List.cons.inj split
      exact hl.isLongest hstop
    | cons first before =>
      exact longest before w after (List.cons.inj split).2

/-- Words with blanks between them are cut as they are spelled. -/
theorem cuts_textOf {words : List Word} {blanks : List Char} (spelled : ∀ w ∈ words, w.IsSpelled)
    (blank : ∀ c ∈ blanks, isBlank c = true) (apart : ∀ w ∈ words.tail, w.blanks ≠ [])
    (position : Nat) :
    ∃ stop, Cuts position (textOf words blanks) (tokensOf position words) stop := by
  induction words generalizing position with
  | nil => exact ⟨_, .blank blank⟩
  | cons w more ih =>
    obtain ⟨own, others⟩ := List.forall_mem_cons.mp spelled
    obtain ⟨stop, cuts⟩ := ih others (fun w hw => apart w (List.mem_of_mem_tail hw))
      (position + w.blanks.length + w.chars.length)
    refine ⟨stop, .token own.blanks own.chars ?_ cuts⟩
    cases more with
    | nil =>
      cases blanks with
      | nil => exact w.lexeme.endsBefore_nil
      | cons c rest => exact Lexeme.endsBefore_blank (blank c List.mem_cons_self) _ _
    | cons next rest =>
      obtain ⟨nextBlanks, chars, lexeme⟩ := next
      cases nextBlanks with
      | nil => exact absurd rfl (apart _ List.mem_cons_self)
      | cons c tail =>
        have blank := (others _ List.mem_cons_self).blanks c List.mem_cons_self
        exact Lexeme.endsBefore_blank blank _ _

/-! ## Texts that cannot be cut -/

/-- Cutting fails at a character that is no blank, and what is in front of it is cut, by the
recursion that cuts a text. -/
theorem exists_front_of_error (position : Nat) (s : List Char) {bad : Malformed}
    (h : tokensFrom position s = .error bad) :
    ∃ front c back ts, s = front ++ c :: back ∧ bad.position = position + front.length ∧
      isBlank c = false ∧ Cuts position front ts bad.position := by
  rw [tokensFrom] at h
  split at h
  · cases h
  · rename_i c rest found
    have whole : s = s.takeWhile isBlank ++ c :: rest := by
      rw [← found, List.takeWhile_append_dropWhile]
    have blank : ∀ d ∈ s.takeWhile isBlank, isBlank d = true := fun d => List.mem_takeWhile_imp
    split at h
    · cases h
      have visible := head?_dropWhile (p := isBlank) s c (by rw [found]; rfl)
      exact ⟨s.takeWhile isBlank, c, rest, [], whole, rfl, visible, .blank blank⟩
    · rename_i l after read
      split at h
      · rename_i failed
        cases h
        obtain ⟨tail, spelled, ends, rfl⟩ := spelled_of_readLexeme read
        have place : (tail ++ after).length + 1 - after.length = (c :: tail).length := by
          simp only [List.length_append, List.length_cons]
          omega
        have shorter : after.length < s.length := by
          rw [whole]
          simp only [List.length_append, List.length_cons]
          omega
        rw [place] at failed
        obtain ⟨front, d, back, ts, rfl, stop, visible, cuts⟩ :=
          exists_front_of_error _ after failed
        refine ⟨s.takeWhile isBlank ++ (c :: tail) ++ front, d, back, _, ?_, ?_, visible,
          .token blank spelled (Lexeme.endsBefore_of_append ends) cuts⟩
        · conv => lhs; rw [whole]
          simp
        · rw [stop]
          simp only [List.length_append]
          omega
      · cases h
termination_by s.length

/-! ## The law -/

/-- A text that is cut is made of the words of its tokens and blanks, each word as long as it
can be, and the positions grow up to the end of the text. Words of any lexemes, with blanks
between them, are cut into these lexemes at these places. A text that is not cut has its
error inside, and all in front of the error is cut. -/
theorem a_text_is_cut_into_its_words :
    (∀ query ts, tokens query = .ok ts →
      (∃ words blanks, (∀ w ∈ words, w.IsSpelled) ∧ (∀ c ∈ blanks, isBlank c = true) ∧
        query.toList = textOf words blanks ∧ ts.list = tokensOf 0 words ∧
        ∀ before w after, words = before ++ w :: after →
          IsLongest w.chars (textOf after blanks)) ∧
      ts.stop = query.length ∧ (ts.list.map (·.position) ++ [ts.stop]).Pairwise (· < ·)) ∧
    (∀ (words : List Word) (blanks : List Char), (∀ w ∈ words, w.IsSpelled) →
      (∀ c ∈ blanks, isBlank c = true) → (∀ w ∈ words.tail, w.blanks ≠ []) →
      tokens (String.ofList (textOf words blanks)) =
        .ok ⟨tokensOf 0 words, (textOf words blanks).length⟩) ∧
    (∀ query bad, tokens query = .error bad → bad.position ≤ query.length ∧
      ∃ ts, tokens (String.ofList (query.toList.take bad.position)) = .ok ts) := by
  refine ⟨fun query ts h => ?_, fun words blanks spelled blank apart => ?_, fun query bad h => ?_⟩
  · have cuts := cuts_of_tokensFrom 0 query.toList h
    refine ⟨cuts.words, ?_, cuts.increasing.1⟩
    rw [cuts.stop_eq, Nat.zero_add, String.length_toList]
  · obtain ⟨stop, cuts⟩ := cuts_textOf spelled blank apart 0
    rw [tokens, String.toList_ofList, tokensFrom_eq_ok.mpr cuts, cuts.stop_eq, Nat.zero_add]
  · obtain ⟨front, c, back, ts, whole, place, -, cuts⟩ := exists_front_of_error 0 query.toList h
    rw [Nat.zero_add] at place
    have shorter : front.length ≤ query.toList.length := by
      rw [whole, List.length_append]
      exact Nat.le_add_right _ _
    refine ⟨place ▸ String.length_toList ▸ shorter, ⟨ts, bad.position⟩, ?_⟩
    rw [place, whole, List.take_left, tokens, String.toList_ofList, ← place]
    exact tokensFrom_eq_ok.mpr cuts

/-- A number with zeros in front, and an arrow apart from it. -/
def sevenAndArrow : List Word :=
  [⟨[], "007".toList, .number 7⟩, ⟨[' '], "=>".toList, .arrow⟩]

/-- Two signs side by side, of which the longer is found, words with a blank between them,
and a text that stops at a character of no lexeme. -/
theorem signs_words_and_a_broken_text_are_cut :
    (∃ ts, tokens "a>=b" = .ok ts ∧ ts.list.map (·.position) = [0, 1, 3] ∧ ts.stop = 4 ∧
      (ts.list.map (·.position) ++ [ts.stop]).Pairwise (· < ·)) ∧
    ((∀ w ∈ sevenAndArrow, w.IsSpelled) ∧ (∀ w ∈ sevenAndArrow.tail, w.blanks ≠ []) ∧
      tokens "007 =>" = .ok ⟨[⟨0, .number 7⟩, ⟨4, .arrow⟩], 6⟩) ∧
    (∃ bad, tokens "a + 1" = .error bad ∧ bad.position = 2 ∧
      ∃ ts, tokens (String.ofList ("a + 1".toList.take bad.position)) = .ok ts) := by
  obtain ⟨cut, spelledOut, broken⟩ := a_text_is_cut_into_its_words
  refine ⟨?_, ?_, ?_⟩
  · have h : ∃ ts, tokens "a>=b" = .ok ts ∧ ts.list.map (·.position) = [0, 1, 3] ∧ ts.stop = 4 :=
      ⟨_, by cbv, by cbv, by cbv⟩
    obtain ⟨ts, h, places, stop⟩ := h
    exact ⟨ts, h, places, stop, (cut _ ts h).2.2⟩
  · have seven : (Lexeme.number (Int32.ofNat (digitsValue ['0', '0', '7']))).Spelled
        ['0', '0', '7'] := .number (by simp [isAsciiDigit]) (by decide +kernel)
    have number : Word.IsSpelled ⟨[], "007".toList, .number 7⟩ := ⟨List.forall_mem_nil _, seven⟩
    have arrow : Word.IsSpelled ⟨[' '], "=>".toList, .arrow⟩ :=
      ⟨List.forall_mem_singleton.mpr rfl, .sign rfl⟩
    have spelled : ∀ w ∈ sevenAndArrow, w.IsSpelled :=
      List.forall_mem_cons.mpr ⟨number, List.forall_mem_cons.mpr ⟨arrow, List.forall_mem_nil _⟩⟩
    have apart : ∀ w ∈ sevenAndArrow.tail, w.blanks ≠ [] :=
      List.forall_mem_cons.mpr ⟨List.cons_ne_nil _ _, List.forall_mem_nil _⟩
    exact ⟨spelled, apart, spelledOut sevenAndArrow [] spelled (List.forall_mem_nil _) apart⟩
  · have h : ∃ bad, tokens "a + 1" = .error bad ∧ bad.position = 2 := ⟨_, by cbv, by cbv⟩
    obtain ⟨bad, h, place⟩ := h
    exact ⟨bad, h, place, (broken _ bad h).2⟩

end CommitQuery.Query
