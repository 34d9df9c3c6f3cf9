-- What reading backwards finds at the end of a text that a query writes: the last word,
-- the dot in front of it, and the parenthesis that the closing one at the end belongs to.
-- Strings may hold dots, quotes and parentheses of their own.
import CommitQuery.Prompt.Completion
import CommitQuery.Proofs.Query.Written

namespace CommitQuery.Completion

open CommitQuery.Text CommitQuery.Query CommitQuery.Query.Expr

/-! ## Words -/

/-- A text in front of the start of an expression: empty, or up to a parenthesis or a
space. -/
def Opens (before : List Char) : Prop := ∀ c ∈ before.getLast?, c = '(' ∨ c = ' '

theorem opens_nil : Opens [] := by simp [Opens]

theorem opens_append {c : Char} (h : c = '(' ∨ c = ' ') (before : List Char) :
    Opens (before ++ [c]) := forall_mem_getLast?_concat.mpr h

/-- A text that the word at the end of a longer one does not reach into. -/
def BeforeWord (before : List Char) : Prop := ∀ c ∈ before.getLast?, isWordChar c = false

theorem beforeWord_append {c : Char} (h : isWordChar c = false) (t : List Char) :
    BeforeWord (t ++ [c]) := forall_mem_getLast?_concat.mpr h

theorem beforeWord_append_dot (t : List Char) : BeforeWord (t ++ ['.']) :=
  beforeWord_append (by decide) t

theorem Opens.beforeWord {before : List Char} (h : Opens before) : BeforeWord before := by
  intro c hc
  rcases h c hc with rfl | rfl
  · decide
  · decide

/-- A word goes on with the characters that a name goes on with. -/
theorem isWordChar_eq_continuesName (c : Char) : isWordChar c = continuesName c := rfl

theorem isBlank_of_isWordChar {c : Char} (h : isWordChar c = true) : isBlank c = false := by
  rw [isWordChar_eq_continuesName] at h
  exact isBlank_of_continuesName h

section Word

variable {before w : List Char}

theorem word_append (hw : ∀ c ∈ w, isWordChar c = true) (hb : BeforeWord before) :
    lastWord (before ++ w) = w ∧ beforeWord (before ++ w) = before := by
  have stop : ∀ c ∈ before.reverse.head?, isWordChar c = false := by
    rw [List.head?_reverse]
    exact hb
  obtain ⟨found, left⟩ := span_append (fun c hc => hw c (List.mem_reverse.mp hc)) stop
  unfold lastWord beforeWord
  rw [List.reverse_append, found, left, List.reverse_reverse, List.reverse_reverse]
  exact ⟨rfl, rfl⟩

/-- Where a text ends in no word, the word at its end is empty. -/
theorem word_of_beforeWord (hb : BeforeWord before) :
    lastWord before = [] ∧ beforeWord before = before := by
  have found := word_append (w := []) (by simp) hb
  rw [List.append_nil] at found
  exact found

theorem last_append_word (before : List Char) (hw : ∀ c ∈ w, isWordChar c = true)
    (nonempty : w ≠ []) :
    ∀ c ∈ (before ++ w).getLast?, isWordChar c = true := by
  intro c hc
  rw [List.getLast?_append_of_ne_nil _ nonempty] at hc
  exact hw c (List.mem_of_getLast? hc)

theorem trimEnd_append_word (hw : ∀ c ∈ w, isWordChar c = true) (nonempty : w ≠ []) :
    trimEnd (before ++ w) = before ++ w :=
  trimEnd_eq_self fun c hc => isBlank_of_isWordChar (last_append_word before hw nonempty c hc)

end Word

/-- What is dropped at the end of a text goes back to the last character that stays. -/
theorem dropEnd_append (drop : Char → Bool) {t w : List Char}
    (ht : ∀ c ∈ t.getLast?, drop c = false) (hw : ∀ c ∈ w, drop c = true) :
    dropEnd drop (t ++ w) = t := by
  have stop : ∀ c ∈ t.reverse.head?, drop c = false := by
    rw [List.head?_reverse]
    exact ht
  have left := (span_append (fun c hc => hw c (List.mem_reverse.mp hc)) stop).2
  rw [dropEnd, List.reverse_append, left, List.reverse_reverse]

theorem beforeDot?_append (t : List Char) : beforeDot? (t ++ ['.']) = some t := by
  simp [beforeDot?, beforeEnd?]

theorem beforeDot?_eq_none {t : List Char} (h : ∀ c ∈ t.getLast?, c ≠ '.') :
    beforeDot? t = none := by
  unfold beforeDot? beforeEnd?
  rw [if_neg]
  rw [List.isSuffixOf_iff_suffix]
  rintro ⟨start, rfl⟩
  exact h '.' (by simp) rfl

theorem Opens.beforeDot? {before : List Char} (h : Opens before) : beforeDot? before = none := by
  refine beforeDot?_eq_none fun c hc => ?_
  rcases h c hc with rfl | rfl
  · decide
  · decide

/-! ## Parentheses -/

/-- A text that leaves the search for a parenthesis as it was, when it is passed over
from its end to its start. -/
def Neutral (w : List Char) : Prop :=
  ∀ (depth : Nat) (rest : List Char),
    beforeOpening? (depth + 1) none (w.reverse ++ rest) = beforeOpening? (depth + 1) none rest

theorem neutral_nil : Neutral [] := fun _ _ => rfl

theorem Neutral.append {v w : List Char} (hv : Neutral v) (hw : Neutral w) : Neutral (v ++ w) := by
  intro depth rest
  rw [List.reverse_append, List.append_assoc, hw, hv]

/-- A character that is neither a quote nor a parenthesis. -/
def IsPlain (c : Char) : Prop := c ≠ '"' ∧ c ≠ '\'' ∧ c ≠ ')' ∧ c ≠ '('

instance (c : Char) : Decidable (IsPlain c) := inferInstanceAs (Decidable (_ ∧ _))

theorem neutral_singleton {c : Char} (h : IsPlain c) : Neutral [c] := by
  intro depth rest
  simp [beforeOpening?, h.1, h.2.1, h.2.2.1, h.2.2.2]

theorem neutral_of_isPlain {w : List Char} (h : ∀ c ∈ w, IsPlain c) : Neutral w := by
  induction w with
  | nil => exact neutral_nil
  | cons c w ih =>
    obtain ⟨hc, hw⟩ := List.forall_mem_cons.mp h
    exact (neutral_singleton hc).append (ih hw)

theorem neutral_of_all {w : List Char} (h : w.all (decide <| IsPlain ·) = true) : Neutral w :=
  neutral_of_isPlain fun c hc => of_decide_eq_true (List.all_eq_true.mp h c hc)

theorem isPlain_of_isWordChar {c : Char} (h : isWordChar c = true) : IsPlain c := by
  refine ⟨?_, ?_, ?_, ?_⟩
  all_goals
    rintro rfl
    revert h
    decide

/-- Between quotes nothing counts but the quote that ends it. -/
theorem beforeOpening?_quoted {q : Char} {content : List Char} (hq : q ∉ content) (depth : Nat)
    (rest : List Char) :
    beforeOpening? depth (some q) (content ++ q :: rest) = beforeOpening? depth none rest := by
  induction content with
  | nil => simp [beforeOpening?]
  | cons c content ih =>
    rw [List.mem_cons, not_or] at hq
    rw [List.cons_append, beforeOpening?]
    simp only [if_neg (Ne.symm hq.1)]
    exact ih hq.2

theorem neutral_quoted {q : Char} {content : List Char} (quote : isQuote q = true)
    (hq : q ∉ content) : Neutral (q :: content ++ [q]) := by
  intro depth rest
  have opened : beforeOpening? (depth + 1) none (q :: (content.reverse ++ q :: rest)) =
      beforeOpening? (depth + 1) (some q) (content.reverse ++ q :: rest) := by
    rw [beforeOpening?.eq_def]
    exact if_pos quote
  have reversed : (q :: content ++ [q]).reverse ++ rest = q :: (content.reverse ++ q :: rest) := by
    simp
  rw [reversed, opened, beforeOpening?_quoted (by simpa using hq)]

/-- Parentheses around a neutral text belong to each other. -/
theorem Neutral.parens {w : List Char} (h : Neutral w) : Neutral ('(' :: w ++ [')']) := by
  intro depth rest
  have closed : beforeOpening? (depth + 1) none (')' :: (w.reverse ++ '(' :: rest)) =
      beforeOpening? (depth + 1 + 1) none (w.reverse ++ '(' :: rest) := rfl
  have reversed : ('(' :: w ++ [')']).reverse ++ rest = ')' :: (w.reverse ++ '(' :: rest) := by
    simp
  rw [reversed, closed, h]
  rfl

theorem beforeArguments?_append {w : List Char} (h : Neutral w) (t : List Char) :
    beforeArguments? (t ++ '(' :: w ++ [')']) = some t := by
  have closed : beforeOpening? 0 none (')' :: (w.reverse ++ '(' :: t.reverse)) =
      beforeOpening? 1 none (w.reverse ++ '(' :: t.reverse) := rfl
  have reversed : (t ++ '(' :: w ++ [')']).reverse = ')' :: (w.reverse ++ '(' :: t.reverse) := by
    simp
  have found : beforeOpening? 1 none ('(' :: t.reverse) = some t.reverse := rfl
  rw [beforeArguments?, reversed, closed, h 0, found, Option.map_some, List.reverse_reverse]

/-! ### Queries -/

theorem isPlain_of_isName {s : String} (h : IsName s) : ∀ c ∈ s.toList, IsPlain c :=
  fun c hc => isPlain_of_isWordChar (h.continues c hc)

theorem neutral_symbol (op : Operator) : Neutral (' ' :: op.symbol.toList ++ [' ']) := by
  refine neutral_of_all ?_
  cases op with
  | compare c => cases c <;> decide
  | connect c => cases c <;> decide

theorem isQuote_quoteFor (s : String) : isQuote (quoteFor s) = true := by
  unfold quoteFor
  split <;> decide

mutual

/-- A query is neutral, whatever its strings hold. -/
theorem neutral_spelling (e : Expr) (h : e.Written) : Neutral e.spelling := by
  cases h with
  | name hs => exact neutral_of_isPlain (isPlain_of_isName hs)
  | text hs => exact neutral_quoted (isQuote_quoteFor _) hs
  | number hn =>
    exact neutral_of_isPlain fun c hc =>
      isPlain_of_isWordChar (continuesName_of_isAsciiDigit (hn c hc))
  | @member target field _ ht hf =>
    have dotted : Neutral ('.' :: field.toList) :=
      neutral_of_isPlain (List.forall_mem_cons.mpr ⟨by decide, isPlain_of_isName hf⟩)
    exact (neutral_spelling target ht).append dotted
  | @call target method arguments _ ht hm ha =>
    -- The parentheses are the call's own, so the arguments in between stay neutral.
    have dotted : Neutral ('.' :: method.toList) :=
      neutral_of_isPlain (List.forall_mem_cons.mpr ⟨by decide, isPlain_of_isName hm⟩)
    have called := ((neutral_spelling target ht).append dotted).append
      (neutral_spellings arguments ha).parens
    simpa [spelling] using called
  | @lambda x body hx hb =>
    have name : Neutral x.toList := neutral_of_isPlain (isPlain_of_isName hx)
    have arrow : Neutral " => ".toList := neutral_of_all (by decide)
    exact (name.append arrow).append (neutral_spelling body hb)
  | @binary left right hl op hr =>
    have joined := ((neutral_spelling left hl).append (neutral_symbol op)).append
      (neutral_spelling right hr)
    simpa [spelling] using joined

/-- So are the arguments of a call. -/
theorem neutral_spellings (es : List Expr) (h : ∀ e ∈ es, e.Written) :
    Neutral (spellings es) := by
  cases es with
  | nil => exact neutral_nil
  | cons e more =>
    obtain ⟨first, others⟩ := List.forall_mem_cons.mp h
    cases more with
    | nil => exact neutral_spelling e first
    | cons e' more =>
      have comma : Neutral ", ".toList := neutral_of_all (by decide)
      exact ((neutral_spelling e first).append comma).append (neutral_spellings (e' :: more) others)

end

/-! ## One link of a chain -/

variable {κ ρ : Type} (c : Completion κ ρ) {line t : List Char} {links : Nat}

/-- The type of the items that the last lambda with a parameter goes through. -/
def boundType? (line : List Char) : Nat → String → Option (ValueType κ)
  | 0, _ => none
  | links + 1, x => do
    let before ← beforeBinding? line x.toList
    let operator := dropEnd (fun c => c = '(' || c = ' ') (trimEnd before)
    let receiver ← c.receiverType? line links (← beforeDot? (beforeWord operator))
    receiver.element?

/-- A text that ends in a word ends in a member, in the root or in a parameter. -/
theorem receiverType?_word {w : List Char} (hw : ∀ c ∈ w, isWordChar c = true) (nonempty : w ≠ [])
    (ht : BeforeWord t) :
    c.receiverType? line (links + 1) (t ++ w) =
      match beforeDot? t with
      | some target => (c.receiverType? line links target).bind fun receiver =>
          (c.schema.findMember? receiver (String.ofList w)).map (·.type)
      | none =>
        if String.ofList w = c.rootName then some c.rootType
        else c.boundType? line links (String.ofList w) := by
  obtain ⟨word, before⟩ := word_append hw ht
  have last : (t ++ w).getLast? ≠ some ')' := by
    intro closing
    have goes := last_append_word t hw nonempty ')' closing
    revert goes
    decide
  rw [receiverType?.eq_def]
  dsimp only
  rw [trimEnd_append_word hw nonempty, if_neg last, word, before,
    if_neg (by simpa [List.isEmpty_iff] using nonempty)]
  cases beforeDot? t with
  | some target =>
    simp only [Option.map_eq_bind]
    rfl
  | none =>
    cases links with
    | zero => rfl
    | succ links => simp only [boundType?, String.toList_ofList]

/-- A member has the type that the schema gives it, if its target has a type. -/
theorem receiverType?_member {field : String} (hf : IsName field) :
    c.receiverType? line (links + 1) (t ++ '.' :: field.toList) =
      (c.receiverType? line links t).bind fun receiver =>
        (c.schema.findMember? receiver field).map (·.type) := by
  have cut : t ++ '.' :: field.toList = t ++ ['.'] ++ field.toList := List.append_cons ..
  rw [cut, c.receiverType?_word hf.continues hf.ne_nil (beforeWord_append_dot t),
    beforeDot?_append, String.ofList_toList]

/-- A name is the root, or else a parameter. -/
theorem receiverType?_name {s : String} (hs : IsName s) (ht : Opens t) :
    c.receiverType? line (links + 1) (t ++ s.toList) =
      if s = c.rootName then some c.rootType else c.boundType? line links s := by
  rw [c.receiverType?_word hs.continues hs.ne_nil ht.beforeWord, ht.beforeDot?,
    String.ofList_toList]

/-- A call has the type that its method gives, if its target has a type. -/
theorem receiverType?_call {method : String} {w : List Char} (hm : IsName method)
    (hw : Neutral w) :
    c.receiverType? line (links + 1) (t ++ '.' :: method.toList ++ '(' :: w ++ [')']) =
      (c.receiverType? line links t).bind fun receiver => c.callType? receiver method := by
  have cut : t ++ '.' :: method.toList = t ++ ['.'] ++ method.toList := List.append_cons ..
  obtain ⟨word, before⟩ := word_append hm.continues (beforeWord_append_dot t)
  have last : (t ++ ['.'] ++ method.toList ++ '(' :: w ++ [')']).getLast? = some ')' :=
    List.getLast?_concat
  have trimmed : trimEnd (t ++ ['.'] ++ method.toList ++ '(' :: w ++ [')']) =
      t ++ ['.'] ++ method.toList ++ '(' :: w ++ [')'] :=
    trimEnd_eq_self (forall_mem_getLast?_concat.mpr (by decide))
  rw [cut, receiverType?.eq_def]
  dsimp only
  rw [trimmed, if_pos last, beforeArguments?_append hw, Option.bind_eq_bind, Option.bind_some,
    word, before, beforeDot?_append, String.ofList_toList]
  rfl

/-- A string has no type, whatever it holds. -/
theorem receiverType?_text (s : String) :
    c.receiverType? line links (t ++ quoteFor s :: s.toList ++ [quoteFor s]) = none := by
  cases links with
  | zero => rfl
  | succ links =>
    generalize t ++ quoteFor s :: s.toList = before
    have last : (before ++ [quoteFor s]).getLast? = some (quoteFor s) := List.getLast?_concat
    have other : quoteFor s ≠ ')' ∧ isBlank (quoteFor s) = false ∧
        isWordChar (quoteFor s) = false := by
      unfold quoteFor
      split <;> decide
    have trimmed : trimEnd (before ++ [quoteFor s]) = before ++ [quoteFor s] :=
      trimEnd_eq_self (forall_mem_getLast?_concat.mpr other.2.1)
    have word : lastWord (before ++ [quoteFor s]) = [] :=
      (word_of_beforeWord (beforeWord_append other.2.2 before)).1
    have open? : (before ++ [quoteFor s]).getLast? ≠ some ')' := by
      rw [last]
      exact fun same => other.1 (Option.some.inj same)
    rw [receiverType?.eq_def]
    dsimp only
    rw [trimmed]
    rw [if_neg open?, word]
    rfl

end CommitQuery.Completion
