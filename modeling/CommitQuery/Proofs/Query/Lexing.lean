-- What a text has to look like to be cut into given tokens: blanks and spelled lexemes
-- in turn, each lexeme as long as it can be. Cutting finds these tokens in every such
-- text, and every text that is cut looks like that.
import CommitQuery.Query.Token
import CommitQuery.Proofs.Plan.Walk
import CommitQuery.Proofs.Text.Class
import CommitQuery.Proofs.Text.Pieces

namespace CommitQuery.Query

open CommitQuery.Text

/-! ## Spelled lexemes -/

/-- The characters of a lexeme that is always written alike. -/
def Lexeme.sign? : Lexeme → Option (List Char)
  | .dot => some ['.']
  | .comma => some [',']
  | .openParen => some ['(']
  | .closeParen => some [')']
  | .arrow => some "=>".toList
  | .comparison c => some c.symbol.toList
  | .connective c => some c.symbol.toList
  | _ => none

/-- The ways to spell a lexeme: a number with any zeros in front, and a string in either
kind of quotes, as long as it does not hold them. -/
inductive Lexeme.Spelled : Lexeme → List Char → Prop
  | name {c : Char} {rest : List Char} (hc : startsName c = true)
      (hrest : ∀ d ∈ rest, continuesName d = true) :
      Spelled (.name (String.ofList (c :: rest))) (c :: rest)
  | number {c : Char} {rest : List Char} (hd : ∀ d ∈ c :: rest, isAsciiDigit d = true)
      (hle : digitsValue (c :: rest) ≤ largestNumber) :
      Spelled (.number (Int32.ofNat (digitsValue (c :: rest)))) (c :: rest)
  | text {q : Char} {content : List Char} (hq : isQuote q = true) (hc : q ∉ content) :
      Spelled (.text (String.ofList content)) (q :: content ++ [q])
  | sign {l : Lexeme} {s : List Char} (h : l.sign? = some s) : Spelled l s

/-- Whether a lexeme ends in front of a text: a name or a number would go on with what
fits it, and an order sign with an equals sign. -/
def Lexeme.endsBefore : Lexeme → List Char → Bool
  | .name _, c :: _ => !continuesName c
  | .number _, c :: _ => !isAsciiDigit c
  | .comparison .greater, c :: _ => c != '='
  | .comparison .less, c :: _ => c != '='
  | _, _ => true

theorem endsBefore_name {x : String} {after : List Char} :
    (Lexeme.name x).endsBefore after = true ↔ ∀ c ∈ after.head?, continuesName c = false := by
  cases after <;> simp [Lexeme.endsBefore]

theorem endsBefore_number {n : Int32} {after : List Char} :
    (Lexeme.number n).endsBefore after = true ↔ ∀ c ∈ after.head?, isAsciiDigit c = false := by
  cases after <;> simp [Lexeme.endsBefore]

/-! ## One lexeme -/

/-! ### First characters -/

theorem startsName_of_isAsciiDigit {c : Char} (h : isAsciiDigit c = true) :
    startsName c = false := by
  rw [isAsciiDigit_iff] at h
  have other : c ≠ '_' := by
    rintro rfl
    revert h
    decide
  have letter : isAsciiLetter c = false := by
    rw [Bool.eq_false_iff, Ne, isAsciiLetter_iff]
    omega
  simp only [startsName, isLetter, if_pos (by omega : c.toNat < 128), letter, other]
  rfl

theorem continuesName_of_isAsciiDigit {c : Char} (h : isAsciiDigit c = true) :
    continuesName c = true := by
  have ascii : c.toNat < 128 := by
    have := isAsciiDigit_iff.mp h
    omega
  simp [continuesName, isLetterOrNumeral, ascii, h]

theorem isBlank_of_startsName {c : Char} (h : startsName c = true) : isBlank c = false := by
  simp only [startsName, Bool.or_eq_true, decide_eq_true_eq] at h
  rcases h with letter | rfl
  · unfold isLetter at letter
    split at letter
    · exact isBlank_of_isAsciiLetter letter
    · exact contains_of_apart alphabeticRanges (by decide +kernel) letter
  · decide

theorem isBlank_of_continuesName {c : Char} (h : continuesName c = true) : isBlank c = false := by
  simp only [continuesName, Bool.or_eq_true, decide_eq_true_eq] at h
  rcases h with letter | rfl
  · exact isBlank_of_isLetterOrNumeral letter
  · decide

/-- At the end of a text every lexeme ends. -/
theorem Lexeme.endsBefore_nil (l : Lexeme) : l.endsBefore [] = true := by
  cases l with
  | comparison op => cases op <;> rfl
  | _ => rfl

/-- In front of a blank every lexeme ends. -/
theorem Lexeme.endsBefore_blank {c : Char} (hc : isBlank c = true) (l : Lexeme) (s : List Char) :
    l.endsBefore (c :: s) = true := by
  have name : continuesName c = false := Bool.eq_false_iff.mpr fun continues => by
    rw [isBlank_of_continuesName continues] at hc
    cases hc
  cases l with
  | name x =>
    refine endsBefore_name.mpr fun d hd => ?_
    cases hd
    exact name
  | number n =>
    refine endsBefore_number.mpr fun d hd => Bool.eq_false_iff.mpr fun digit => ?_
    cases hd
    rw [continuesName_of_isAsciiDigit digit] at name
    cases name
  | comparison op =>
    cases op with
    | greater | less =>
      refine bne_iff_ne.mpr ?_
      rintro rfl
      revert hc
      decide
    | _ => rfl
  | _ => rfl

/-- A lexeme that ends before a text ends before every beginning of it. -/
theorem Lexeme.endsBefore_of_append {l : Lexeme} {s t : List Char}
    (h : l.endsBefore (s ++ t) = true) : l.endsBefore s = true := by
  cases s with
  | nil => exact l.endsBefore_nil
  | cons c rest =>
    cases l with
    | comparison op => cases op <;> exact h
    | _ => exact h

/-- No lexeme starts with a blank. -/
theorem Lexeme.Spelled.head {l : Lexeme} {s : List Char} (h : l.Spelled s) :
    ∃ c rest, s = c :: rest ∧ isBlank c = false := by
  cases h with
  | @name c rest hc hrest => exact ⟨c, rest, rfl, isBlank_of_startsName hc⟩
  | @number c rest hd hle =>
    exact ⟨c, rest, rfl, isBlank_of_isAsciiDigit (hd c (by simp))⟩
  | @text q content hq hc =>
    refine ⟨q, content ++ [q], rfl, ?_⟩
    simp only [isQuote, Bool.or_eq_true, decide_eq_true_eq] at hq
    rcases hq with rfl | rfl
    · decide
    · decide
  | sign h =>
    cases l with
    | comparison op => cases op <;> cases h <;> exact ⟨_, _, rfl, by decide⟩
    | connective op => cases op <;> cases h <;> exact ⟨_, _, rfl, by decide⟩
    | name s => cases h
    | text s => cases h
    | number n => cases h
    | _ =>
      cases h
      exact ⟨_, _, rfl, by decide⟩

/-! ### Reading -/

theorem readLexeme_sign {l : Lexeme} {c : Char} {s after : List Char}
    (h : l.sign? = some (c :: s)) (hstop : l.endsBefore after = true) :
    readLexeme c (s ++ after) = .ok (l, after) := by
  have alone : ∀ {c l}, startsName c = false → isAsciiDigit c = false → isQuote c = false →
      symbol? c after = some (l, after) → readLexeme c after = .ok (l, after) := by
    intro c l name digit quote symbol
    simp [readLexeme, name, digit, quote, symbol]
  cases l with
  | comparison op =>
    cases op with
    | greater =>
      have spelled : ['>'] = c :: s := Option.some.inj h
      cases spelled
      refine alone (by decide) (by decide) (by decide) ?_
      cases after with
      | nil => rfl
      | cons d rest =>
        have other : d ≠ '=' := by simpa [Lexeme.endsBefore] using hstop
        simp [symbol?, other]
    | less =>
      have spelled : ['<'] = c :: s := Option.some.inj h
      cases spelled
      refine alone (by decide) (by decide) (by decide) ?_
      cases after with
      | nil => rfl
      | cons d rest =>
        have other : d ≠ '=' := by simpa [Lexeme.endsBefore] using hstop
        simp [symbol?, other]
    | _ =>
      cases h
      rfl
  | connective op =>
    cases op with
    | and =>
      cases h
      rfl
    | or =>
      cases h
      rfl
  | name s => cases h
  | text s => cases h
  | number n => cases h
  | _ =>
    cases h
    rfl

/-- A spelled lexeme is read whole and as itself. -/
theorem readLexeme_of_spelled {l : Lexeme} {c : Char} {s after : List Char}
    (h : l.Spelled (c :: s)) (hstop : l.endsBefore after = true) :
    readLexeme c (s ++ after) = .ok (l, after) := by
  cases h with
  | name hc hrest =>
    obtain ⟨found, left⟩ := span_append hrest (endsBefore_name.mp hstop)
    rw [readLexeme, if_pos hc, found, left]
  | number hd hle =>
    have first : isAsciiDigit c = true := hd c (by simp)
    obtain ⟨found, left⟩ :=
      span_append (fun d h => hd d (List.mem_cons_of_mem c h)) (endsBefore_number.mp hstop)
    rw [readLexeme, if_neg (by simp [startsName_of_isAsciiDigit first]), if_pos first, found, left,
      if_pos hle]
  | @text _ content hq hc =>
    have name : startsName c = false ∧ isAsciiDigit c = false := by
      simp only [isQuote, Bool.or_eq_true, decide_eq_true_eq] at hq
      rcases hq with rfl | rfl
      · decide
      · decide
    have found : cutAt c (content ++ [c] ++ after) = (content, some after) := by
      rw [List.append_assoc]
      exact cutAt_append hc after
    rw [readLexeme, if_neg (by simp [name.1]), if_neg (by simp [name.2]), if_pos hq]
    simp only [List.append_eq, found]
  | sign h => exact readLexeme_sign h hstop

theorem spelled_of_symbol? {c : Char} {rest after : List Char} {l : Lexeme}
    (h : symbol? c rest = some (l, after)) :
    ∃ s, l.Spelled (c :: s) ∧ l.endsBefore after = true ∧ rest = s ++ after := by
  unfold symbol? at h
  split at h
  all_goals try cases h
  · exact ⟨['>'], .sign rfl, rfl, rfl⟩
  · exact ⟨['='], .sign rfl, rfl, rfl⟩
  · exact ⟨['='], .sign rfl, rfl, rfl⟩
  · exact ⟨['='], .sign rfl, rfl, rfl⟩
  · exact ⟨['='], .sign rfl, rfl, rfl⟩
  · exact ⟨['&'], .sign rfl, rfl, rfl⟩
  · exact ⟨['|'], .sign rfl, rfl, rfl⟩
  · rename_i other
    refine ⟨[], .sign rfl, ?_, rfl⟩
    cases rest with
    | nil => rfl
    | cons d more => exact bne_iff_ne.mpr fun same => other more (by rw [same])
  · rename_i other
    refine ⟨[], .sign rfl, ?_, rfl⟩
    cases rest with
    | nil => rfl
    | cons d more => exact bne_iff_ne.mpr fun same => other more (by rw [same])
  all_goals exact ⟨[], .sign rfl, rfl, rfl⟩

/-- What is read as a lexeme spells it, and as much of the text as can. -/
theorem spelled_of_readLexeme {c : Char} {rest after : List Char} {l : Lexeme}
    (h : readLexeme c rest = .ok (l, after)) :
    ∃ s, l.Spelled (c :: s) ∧ l.endsBefore after = true ∧ rest = s ++ after := by
  unfold readLexeme at h
  split at h
  · rename_i name
    cases h
    exact ⟨rest.takeWhile continuesName, .name name fun d => List.mem_takeWhile_imp,
      endsBefore_name.mpr (head?_dropWhile rest), List.takeWhile_append_dropWhile.symm⟩
  · split at h
    · rename_i digit
      dsimp only at h
      split at h
      · rename_i hle
        cases h
        refine ⟨rest.takeWhile isAsciiDigit, .number ?_ hle,
          endsBefore_number.mpr (head?_dropWhile rest), List.takeWhile_append_dropWhile.symm⟩
        intro d hd
        rcases List.mem_cons.mp hd with rfl | hd
        · exact digit
        · exact List.mem_takeWhile_imp hd
      · cases h
    · split at h
      · rename_i quote
        split at h
        · rename_i content _ found
          cases h
          obtain ⟨rfl, hq⟩ := cutAt_eq_some found
          exact ⟨content ++ [c], .text quote hq, rfl, by simp⟩
        · cases h
      · split at h
        · rename_i found
          cases h
          exact spelled_of_symbol? found
        · cases h

/-! ## A whole text -/

/-- A text from some position on, its tokens with their places, and the place where it
ends: blanks and spelled lexemes in turn, each lexeme as long as it can be. -/
inductive Cuts : Nat → List Char → List Token → Nat → Prop
  | blank {position : Nat} {s : List Char} (hs : ∀ c ∈ s, isBlank c = true) :
      Cuts position s [] (position + s.length)
  | token {position stop : Nat} {blanks word rest : List Char} {l : Lexeme} {ts : List Token}
      (hb : ∀ c ∈ blanks, isBlank c = true) (hl : l.Spelled word)
      (hstop : l.endsBefore rest = true)
      (h : Cuts (position + blanks.length + word.length) rest ts stop) :
      Cuts position (blanks ++ word ++ rest) (⟨position + blanks.length, l⟩ :: ts) stop

theorem tokensFrom_blank {position : Nat} {s : List Char} (hs : ∀ c ∈ s, isBlank c = true) :
    tokensFrom position s = .ok ⟨[], position + s.length⟩ := by
  rw [tokensFrom]
  split
  · rw [List.takeWhile_eq_self_iff.mpr hs]
  · rename_i c rest more
    rw [List.dropWhile_eq_nil_iff.mpr hs] at more
    cases more

/-- The tokens of a text are its first one and those of the rest. -/
theorem tokensFrom_token {position stop : Nat} {blanks word rest : List Char} {l : Lexeme}
    {ts : List Token} (hb : ∀ c ∈ blanks, isBlank c = true) (hl : l.Spelled word)
    (hstop : l.endsBefore rest = true)
    (h : tokensFrom (position + blanks.length + word.length) rest = .ok ⟨ts, stop⟩) :
    tokensFrom position (blanks ++ word ++ rest) =
      .ok ⟨⟨position + blanks.length, l⟩ :: ts, stop⟩ := by
  obtain ⟨c, tail, rfl, hc⟩ := hl.head
  have skipped : (blanks ++ (c :: tail) ++ rest).takeWhile isBlank = blanks ∧
      (blanks ++ (c :: tail) ++ rest).dropWhile isBlank = c :: (tail ++ rest) := by
    rw [List.append_assoc]
    exact span_append hb (by simp [hc])
  have read := readLexeme_of_spelled hl hstop
  have place : position + blanks.length + ((tail ++ rest).length + 1 - rest.length) =
      position + blanks.length + (c :: tail).length := by
    simp only [List.length_append, List.length_cons]
    omega
  rw [tokensFrom]
  split
  · rename_i none
    rw [skipped.2] at none
    cases none
  · rename_i d more found
    rw [skipped.2] at found
    cases found
    split
    · rename_i bad
      rw [read] at bad
      cases bad
    · rename_i l' after good
      rw [read] at good
      cases good
      rw [skipped.1, place, h]

/-- A text that is cut looks like its tokens, by the recursion that cuts it. -/
theorem cuts_of_tokensFrom (position : Nat) (s : List Char) {ts : Tokens}
    (h : tokensFrom position s = .ok ts) : Cuts position s ts.list ts.stop := by
  rw [tokensFrom] at h
  split at h
  · rename_i none
    cases h
    have blank := List.dropWhile_eq_nil_iff.mp none
    rw [List.takeWhile_eq_self_iff.mpr blank]
    exact .blank blank
  · rename_i c rest found
    split at h
    · cases h
    · rename_i l after read
      split at h
      · cases h
      · rename_i more hmore
        cases h
        obtain ⟨tail, spelled, ends, rfl⟩ := spelled_of_readLexeme read
        have whole : s = s.takeWhile isBlank ++ (c :: tail) ++ after := by
          rw [List.append_assoc, List.cons_append, ← found, List.takeWhile_append_dropWhile]
        have place : (tail ++ after).length + 1 - after.length = (c :: tail).length := by
          simp only [List.length_append, List.length_cons]
          omega
        have shorter : after.length < s.length := by
          rw [whole]
          simp only [List.length_append, List.length_cons]
          omega
        have cuts := cuts_of_tokensFrom _ after hmore
        rw [place] at cuts
        have first := Cuts.token (fun d => List.mem_takeWhile_imp) spelled ends cuts
        rw [← whole] at first
        exact first
termination_by s.length

/-- A text is cut into given tokens exactly if it looks like that. -/
theorem tokensFrom_eq_ok {position stop : Nat} {s : List Char} {ts : List Token} :
    tokensFrom position s = .ok ⟨ts, stop⟩ ↔ Cuts position s ts stop := by
  constructor
  · exact cuts_of_tokensFrom position s
  · intro h
    induction h with
    | blank hs => exact tokensFrom_blank hs
    | token hb hl hstop _ ih => exact tokensFrom_token hb hl hstop ih

end CommitQuery.Query
