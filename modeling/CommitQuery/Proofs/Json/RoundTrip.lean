-- A JSON value that was written is read back. The text is cut into the tokens of the
-- value, whatever its texts hold, and the reader builds the value from its tokens.
import Mathlib.Tactic.IntervalCases
import CommitQuery.Json.Reader
import CommitQuery.Json.Writer
import CommitQuery.Proofs.Plan.Walk
import CommitQuery.Proofs.Text.Class
import CommitQuery.Proofs.Text.Pieces

namespace CommitQuery.Json

open CommitQuery.Text (digitsValue hexValue? isAsciiDigit)

/-! ## Values that can be written -/

/-- A value without ill-formed parts whose numbers are whole. -/
inductive Whole : Json → Prop
  | null : Whole .null
  | bool (b : Bool) : Whole (.bool b)
  | number (negative : Bool) (n : Nat) : Whole (.number ⟨negative, n, none⟩)
  | text (s : String) : Whole (.text s)
  | array {items : List Json} (h : ∀ j ∈ items, Whole j) : Whole (.array items)
  | object {fields : List (String × Json)} (h : ∀ field ∈ fields, Whole field.2) :
      Whole (.object fields)

theorem whole_ofNat (n : Nat) : Whole (.ofNat n) := .number _ _

mutual

/-- The tokens that a value is written with. -/
def tokensOf : Json → List Token
  | .null | .illFormed => [.null]
  | .bool b => [.bool b]
  | .number n => [.number n]
  | .text s => [.text (some s)]
  | .array [] => [.openArray, .closeArray]
  | .array (item :: more) => .openArray :: tokensOf item ++ itemTokens more ++ [.closeArray]
  | .object [] => [.openObject, .closeObject]
  | .object ((key, value) :: more) =>
    [.openObject, .text (some key), .colon] ++ tokensOf value ++ fieldTokens more ++ [.closeObject]

/-- The tokens of the items of an array after its first one. -/
def itemTokens : List Json → List Token
  | [] => []
  | item :: more => .comma :: tokensOf item ++ itemTokens more

/-- The tokens of the fields of an object after its first one. -/
def fieldTokens : List (String × Json) → List Token
  | [] => []
  | (key, value) :: more =>
    [.comma, .text (some key), .colon] ++ tokensOf value ++ fieldTokens more

end

/-! ## Texts in quotes -/

/-- What is read of a text that starts with one more unit. -/
def withUnit (n : Nat) (read : Option (List Nat × List Char)) : Option (List Nat × List Char) :=
  read.map fun (units, after) => (n :: units, after)

theorem readQuoted_short {c e : Char} (h : shortEscape? e = some c) (s : List Char) :
    readQuoted ('\\' :: e :: s) = withUnit c.toNat (readQuoted s) := by
  have other : e ≠ 'u' := by
    rintro rfl
    cases h
  simp [readQuoted, h, other, withUnit, Option.map_eq_bind]

theorem hexValue?_hexDigit : ∀ n < 16, hexValue? (hexDigit n) = some n := by decide

theorem readQuoted_control {c : Char} (h : c.toNat < 0x20) (s : List Char) :
    readQuoted ('\\' :: 'u' :: '0' :: '0' :: hexDigit (c.toNat / 16) :: hexDigit (c.toNat % 16) ::
      s) = withUnit c.toNat (readQuoted s) := by
  have value : hexValue4? '0' '0' (hexDigit (c.toNat / 16)) (hexDigit (c.toNat % 16)) =
      some c.toNat := by
    have zero : hexValue? '0' = some 0 := by decide
    simp only [hexValue4?, zero, hexValue?_hexDigit _ (show c.toNat / 16 < 16 by omega),
      hexValue?_hexDigit _ (show c.toNat % 16 < 16 by omega), Option.bind_eq_bind,
      Option.bind_some, Option.pure_def, Option.some.injEq]
    omega
  simp [readQuoted, value, withUnit, Option.map_eq_bind]

theorem readQuoted_plain {c : Char} (quote : c ≠ '"') (slash : c ≠ '\\') (h : ¬ c.toNat < 0x20)
    (s : List Char) : readQuoted (c :: s) = withUnit c.toNat (readQuoted s) := by
  rw [readQuoted]
  · simp [slash, h, withUnit]
  · exact quote
  · rintro _ _ _ _ _ rfl
    exact absurd rfl slash
  · rintro _ _ rfl
    exact absurd rfl slash

/-- A character that was escaped is read from its escape. -/
theorem readQuoted_escapeChar (c : Char) (s : List Char) :
    readQuoted (escapeChar c ++ s) = withUnit c.toNat (readQuoted s) := by
  unfold escapeChar
  split_ifs with quote slash back tab newline feed ret control
  · exact readQuoted_short (by rw [quote]; rfl) s
  · exact readQuoted_short (by rw [slash]; rfl) s
  · exact readQuoted_short (by rw [back]; rfl) s
  · exact readQuoted_short (by rw [tab]; rfl) s
  · exact readQuoted_short (by rw [newline]; rfl) s
  · exact readQuoted_short (by rw [feed]; rfl) s
  · exact readQuoted_short (by rw [ret]; rfl) s
  · exact readQuoted_control control s
  · exact readQuoted_plain quote slash control s

theorem readQuoted_escaped (s after : List Char) :
    readQuoted (s.flatMap escapeChar ++ '"' :: after) = some (s.map Char.toNat, after) := by
  induction s with
  | nil => simp [readQuoted]
  | cons c rest ih =>
    rw [List.flatMap_cons, List.append_assoc, readQuoted_escapeChar, ih]
    rfl

/-- A character is never half of a pair. -/
theorem not_half (c : Char) : isHighHalf c.toNat = false ∧ isLowHalf c.toNat = false := by
  have valid : c.toNat < 0xD800 ∨ 0xDFFF < c.toNat ∧ c.toNat < 0x110000 := c.valid
  unfold isHighHalf isLowHalf
  simp only [Bool.and_eq_false_iff, decide_eq_false_iff_not]
  omega

theorem joinUnits_map (s : List Char) : joinUnits (s.map Char.toNat) = some s := by
  induction s with
  | nil => rfl
  | cons c rest ih =>
    obtain ⟨high, low⟩ := not_half c
    cases rest with
    | nil => simp [joinUnits, high, low]
    | cons d more =>
      rw [List.map_cons, List.map_cons] at *
      rw [joinUnits, ih]
      simp [high, low]

/-! ## Numbers -/

/-- A text that no number before it goes on with. -/
def Ends (s : List Char) : Prop :=
  ∀ c ∈ s.head?, isAsciiDigit c = false ∧ c ≠ '.' ∧ c ≠ 'e' ∧ c ≠ 'E'

theorem readPoint_of_ends {s : List Char} (h : Ends s) : readPoint s = some ([], s) := by
  cases s with
  | nil => rfl
  | cons c rest =>
    obtain ⟨-, point, -⟩ := h c rfl
    simp [readPoint, point]

theorem readExponent_of_ends {s : List Char} (h : Ends s) : readExponent s = some ([], s) := by
  cases s with
  | nil => rfl
  | cons c rest =>
    obtain ⟨-, -, small, capital⟩ := h c rfl
    simp [readExponent, small, capital]

/-- A number that is not zero does not start with a zero. -/
theorem head?_toDigits {n : Nat} (positive : 0 < n) : (Nat.toDigits 10 n).head? ≠ some '0' := by
  induction n using Nat.strongRecOn with
  | ind n ih =>
    by_cases small : n < 10
    · rw [Nat.toDigits_of_lt_base small]
      interval_cases n <;> decide
    · have front := ih (n / 10) (by omega) (by omega)
      rw [Nat.toDigits_of_base_le (by decide) (by omega), List.head?_append]
      cases h : (Nat.toDigits 10 (n / 10)).head? with
      | none => exact absurd (List.head?_eq_none_iff.mp h) Nat.toDigits_ne_nil
      | some c => rwa [h] at front

/-- Digits are read as a number if there is no zero in front of others. -/
theorem readNumber_digits (negative : Bool) {digits s : List Char} (some_digit : digits ≠ [])
    (all : ∀ c ∈ digits, isAsciiDigit c = true) (lead : digits = ['0'] ∨ digits.head? ≠ some '0')
    (h : Ends s) :
    readNumber negative (digits ++ s) = some (⟨negative, digitsValue digits, none⟩, s) := by
  have stop : ∀ c ∈ s.head?, isAsciiDigit c = false := fun c hc => (h c hc).1
  have taken := (Text.span_append all stop).1
  have not_empty : digits.isEmpty = false := by simpa using some_digit
  unfold readNumber
  split
  · rename_i tail same
    have zero : digits = ['0'] := by
      rcases lead with zero | other
      · exact zero
      · cases digits with
        | nil => exact absurd rfl some_digit
        | cons c more =>
          cases same
          exact absurd rfl other
    subst zero
    cases same
    simp [readPoint_of_ends h, readExponent_of_ends h]
  · simp [taken, not_empty, readPoint_of_ends h, readExponent_of_ends h]

theorem readNumber_toDigits (negative : Bool) (n : Nat) {s : List Char} (h : Ends s) :
    readNumber negative (Nat.toDigits 10 n ++ s) = some (⟨negative, n, none⟩, s) := by
  have lead : Nat.toDigits 10 n = ['0'] ∨ (Nat.toDigits 10 n).head? ≠ some '0' := by
    rcases Nat.eq_zero_or_pos n with rfl | positive
    · exact .inl rfl
    · exact .inr (head?_toDigits positive)
  have all : ∀ c ∈ Nat.toDigits 10 n, isAsciiDigit c = true :=
    fun _ => Text.isAsciiDigit_of_mem_toDigits
  rw [readNumber_digits negative Nat.toDigits_ne_nil all lead h, Text.digitsValue_toDigits]

/-! ## Texts that are cut into tokens -/

/-- A text that is cut into some tokens by all the fuel it can need. -/
def Cuts (s : List Char) (ts : List Token) : Prop :=
  ∀ fuel, s.length ≤ fuel → tokensWithin fuel s = some ts

theorem cuts_nil : Cuts [] [] := by
  intro fuel _
  cases fuel with
  | zero => rfl
  | succ fuel => rfl

theorem Cuts.blank {c : Char} {s : List Char} {ts : List Token} (h : Cuts s ts)
    (hc : isBlank c = true) : Cuts (c :: s) ts := by
  intro fuel enough
  have same : tokensWithin fuel (c :: s) = tokensWithin fuel s := by
    unfold tokensWithin
    rw [List.dropWhile_cons_of_pos hc]
  rw [same]
  exact h fuel (Nat.le_of_succ_le enough)

theorem Cuts.blanks {blanks s : List Char} {ts : List Token} (h : Cuts s ts)
    (hb : ∀ c ∈ blanks, isBlank c = true) : Cuts (blanks ++ s) ts := by
  induction blanks with
  | nil => exact h
  | cons c more ih =>
    obtain ⟨hc, hmore⟩ := List.forall_mem_cons.mp hb
    exact (ih hmore).blank hc

theorem Cuts.newline {s : List Char} {ts : List Token} (h : Cuts s ts) (level : Nat) :
    Cuts (newline level ++ s) ts := by
  apply h.blanks
  intro c hc
  rcases List.mem_cons.mp hc with rfl | hc
  · decide
  · rw [(List.mem_replicate.mp hc).2]
    decide

theorem Cuts.token {c : Char} {s : List Char} {t : Token} {ts : List Token} (h : Cuts s ts)
    (word : List Char) (hc : isBlank c = false) (read : readToken c (word ++ s) = some (t, s)) :
    Cuts (c :: (word ++ s)) (t :: ts) := by
  intro fuel enough
  cases fuel with
  | zero => cases enough
  | succ fuel =>
    have rest : tokensWithin fuel s = some ts := by
      apply h
      simp only [List.length_cons, List.length_append] at enough
      omega
    unfold tokensWithin
    rw [List.dropWhile_cons_of_neg (by simp [hc])]
    simp [read, rest]

/-- A token of one character. -/
theorem Cuts.sign {c : Char} {s : List Char} {t : Token} {ts : List Token} (h : Cuts s ts)
    (hc : isBlank c = false) (read : readToken c s = some (t, s)) : Cuts (c :: s) (t :: ts) :=
  h.token [] hc read

theorem Cuts.text {s : List Char} {ts : List Token} (h : Cuts s ts) (x : String) :
    Cuts (writeText x ++ s) (.text (some x) :: ts) := by
  have read : readToken '"' (x.toList.flatMap escapeChar ++ ['"'] ++ s) =
      some (.text (some x), s) := by
    rw [List.append_assoc, List.singleton_append]
    simp [readToken, readQuoted_escaped, joinUnits_map]
  exact h.token _ (by decide) read

theorem isBlank_of_isAsciiDigit {c : Char} (h : isAsciiDigit c = true) : isBlank c = false := by
  unfold isBlank
  simp only [Bool.or_eq_false_iff, decide_eq_false_iff_not]
  refine ⟨⟨⟨?_, ?_⟩, ?_⟩, ?_⟩
  all_goals
    rintro rfl
    revert h
    decide

theorem readToken_digit {c : Char} (h : isAsciiDigit c = true) (s : List Char) :
    readToken c s = (readNumber false (c :: s)).map fun (n, after) => (.number n, after) := by
  unfold readToken
  split
  -- every other token starts with a sign, a quote or a letter
  case h_12 => rw [if_pos h]
  all_goals cases h

theorem Cuts.number {s : List Char} {ts : List Token} (h : Cuts s ts) (ends : Ends s)
    (negative : Bool) (n : Nat) :
    Cuts (writeNumber ⟨negative, n, none⟩ ++ s) (.number ⟨negative, n, none⟩ :: ts) := by
  have digits : (toString n).toList = Nat.toDigits 10 n := by simp
  have read := readNumber_toDigits negative n ends
  simp only [writeNumber, digits, List.append_nil]
  cases negative with
  | true =>
    apply h.token (c := '-') _ (by decide)
    simp [readToken, read]
  | false =>
    cases first : Nat.toDigits 10 n with
    | nil => exact absurd first Nat.toDigits_ne_nil
    | cons c more =>
      have hc : isAsciiDigit c = true :=
        Text.isAsciiDigit_of_mem_toDigits (n := n) (by simp [first])
      rw [first] at read
      apply h.token _ (isBlank_of_isAsciiDigit hc)
      rw [readToken_digit hc, ← List.cons_append, read]
      rfl

/-! ## The tokens of a value -/

theorem ends_comma (s : List Char) : Ends (',' :: s) := by
  intro c hc
  cases hc
  decide

theorem ends_newline (level : Nat) (s : List Char) : Ends (newline level ++ s) := by
  intro c hc
  cases hc
  decide

theorem ends_items {s : List Char} (h : Ends s) (level : Nat) (more : List Json) :
    Ends (writeItems level more ++ s) := by
  cases more with
  | nil => exact h
  | cons item more => exact ends_comma _

theorem ends_fields {s : List Char} (h : Ends s) (level : Nat) (more : List (String × Json)) :
    Ends (writeFields level more ++ s) := by
  cases more with
  | nil => exact h
  | cons field more => exact ends_comma _

/-- A value whose text is cut into its tokens in front of any text that ends numbers. -/
def CutsAsWritten (j : Json) : Prop :=
  ∀ (level : Nat) {s : List Char} {ts : List Token}, Cuts s ts → Ends s →
    Cuts (write level j ++ s) (tokensOf j ++ ts)

theorem cuts_items {items : List Json} (h : ∀ j ∈ items, CutsAsWritten j) (level : Nat)
    {s : List Char} {ts : List Token} (hs : Cuts s ts) (ends : Ends s) :
    Cuts (writeItems level items ++ s) (itemTokens items ++ ts) := by
  induction items with
  | nil => exact hs
  | cons item more ih =>
    obtain ⟨hitem, hmore⟩ := List.forall_mem_cons.mp h
    have first := hitem level (ih hmore) (ends_items ends level more)
    have whole := (first.newline level).sign (c := ',') (by decide) rfl
    simpa [writeItems, itemTokens] using whole

/-- A field is a key, a colon, a blank and a value. -/
theorem cuts_field (level : Nat) {value : Json} (h : CutsAsWritten value) {s : List Char}
    {ts : List Token} (hs : Cuts s ts) (ends : Ends s) (key : String) :
    Cuts (newline level ++ (writeText key ++ (": ".toList ++ (write level value ++ s))))
      (.text (some key) :: .colon :: (tokensOf value ++ ts)) := by
  have spaced : Cuts (' ' :: (write level value ++ s)) (tokensOf value ++ ts) :=
    (h level hs ends).blank (by decide)
  exact ((spaced.sign (c := ':') (by decide) rfl).text key).newline level

theorem cuts_fields {fields : List (String × Json)} (h : ∀ field ∈ fields, CutsAsWritten field.2)
    (level : Nat) {s : List Char} {ts : List Token} (hs : Cuts s ts) (ends : Ends s) :
    Cuts (writeFields level fields ++ s) (fieldTokens fields ++ ts) := by
  induction fields with
  | nil => exact hs
  | cons field more ih =>
    obtain ⟨hfield, hmore⟩ := List.forall_mem_cons.mp h
    have first := cuts_field level hfield (ih hmore) (ends_fields ends level more) field.1
    have whole := first.sign (c := ',') (by decide) rfl
    simpa [writeFields, fieldTokens] using whole

/-- The text of a value is cut into the tokens of the value. -/
theorem Whole.cutsAsWritten {j : Json} (h : Whole j) : CutsAsWritten j := by
  induction h with
  | null =>
    intro level s ts hs ends
    exact hs.token "ull".toList (by decide) rfl
  | bool b =>
    intro level s ts hs ends
    cases b with
    | true => exact hs.token "rue".toList (by decide) rfl
    | false => exact hs.token "alse".toList (by decide) rfl
  | number negative n =>
    intro level s ts hs ends
    exact hs.number ends negative n
  | text x =>
    intro level s ts hs ends
    exact hs.text x
  | @array items _ ih =>
    intro level s ts hs ends
    cases items with
    | nil => exact (hs.sign (c := ']') (by decide) rfl).sign (c := '[') (by decide) rfl
    | cons item more =>
      obtain ⟨hitem, hmore⟩ := List.forall_mem_cons.mp ih
      have close := (hs.sign (c := ']') (by decide) rfl).newline level
      have items := cuts_items hmore (level + 1) close (ends_newline level _)
      have first := hitem (level + 1) items (ends_items (ends_newline level _) (level + 1) more)
      have whole := (first.newline (level + 1)).sign (c := '[') (by decide) rfl
      simpa [write, tokensOf] using whole
  | @object fields _ ih =>
    intro level s ts hs ends
    cases fields with
    | nil => exact (hs.sign (c := '\x7d') (by decide) rfl).sign (c := '\x7b') (by decide) rfl
    | cons field more =>
      obtain ⟨hfield, hmore⟩ := List.forall_mem_cons.mp ih
      have close := (hs.sign (c := '\x7d') (by decide) rfl).newline level
      have fields := cuts_fields hmore (level + 1) close (ends_newline level _)
      have first := cuts_field (level + 1) hfield fields
        (ends_fields (ends_newline level _) (level + 1) more) field.1
      have whole := first.sign (c := '\x7b') (by decide) rfl
      simpa [write, tokensOf] using whole

/-! ## The value of the tokens -/

/-- A value never starts with the end of an array. -/
theorem tokensOf_start (j : Json) : ∃ t ts, tokensOf j = t :: ts ∧ t ≠ .closeArray := by
  unfold tokensOf
  split
  all_goals exact ⟨_, _, rfl, by simp⟩

/-- A value whose tokens the reader takes as the value, whatever is open around it. -/
def ReadsAsWritten (j : Json) : Prop :=
  ∀ frames, (tokensOf j).foldlM Reader.read ⟨.value, frames⟩ = some ⟨.after j, frames⟩

theorem reads_firstItem {j : Json} (h : ReadsAsWritten j) (frames : List Frame) :
    (tokensOf j).foldlM Reader.read ⟨.firstItem, frames⟩ =
      some ⟨.after j, .array [] :: frames⟩ := by
  obtain ⟨t, ts, start, other⟩ := tokensOf_start j
  have whole := h (.array [] :: frames)
  rw [start] at whole ⊢
  have same : Reader.read ⟨.firstItem, frames⟩ t = Reader.read ⟨.value, .array [] :: frames⟩ t := by
    cases t with
    | closeArray => exact absurd rfl other
    | _ => rfl
  rw [List.foldlM_cons, same, ← List.foldlM_cons]
  exact whole

theorem reads_items {items : List Json} (h : ∀ j ∈ items, ReadsAsWritten j) (item : Json)
    (before : List Json) (frames : List Frame) :
    (itemTokens items ++ [Token.closeArray]).foldlM Reader.read
        ⟨.after item, .array before :: frames⟩ =
      some ⟨.after (.array (before.reverse ++ item :: items)), frames⟩ := by
  induction items generalizing item before with
  | nil => simp [itemTokens, Reader.read, Reader.afterValue]
  | cons next more ih =>
    obtain ⟨hnext, hmore⟩ := List.forall_mem_cons.mp h
    have rest := ih hmore next (item :: before)
    rw [List.reverse_cons, List.append_assoc, List.singleton_append] at rest
    rw [itemTokens, List.cons_append, List.cons_append, List.append_assoc, foldlM_cons_eq_some]
    exact ⟨_, rfl, foldlM_append_eq_some.mpr ⟨_, hnext _, rest⟩⟩

/-- Fields as the reader holds them. -/
def keyed (fields : List (String × Json)) : List (Option String × Json) :=
  fields.map fun (key, value) => (some key, value)

theorem ofKeyed_keyed (fields : List (String × Json)) :
    ofKeyed (keyed fields) = .object fields := by
  have all : (keyed fields).mapM (fun field => field.1.map (·, field.2)) = some fields := by
    rw [mapM_eq_some, keyed, List.forall₂_map_left_iff, List.forall₂_same]
    intro field _
    rfl
  unfold ofKeyed
  rw [all]

theorem reads_fields {fields : List (String × Json)} (h : ∀ field ∈ fields, ReadsAsWritten field.2)
    (key : String) (value : Json) (before : List (String × Json)) (frames : List Frame) :
    (fieldTokens fields ++ [Token.closeObject]).foldlM Reader.read
        ⟨.after value, .object (keyed before).reverse (some key) :: frames⟩ =
      some ⟨.after (.object (before ++ (key, value) :: fields)), frames⟩ := by
  induction fields generalizing key value before with
  | nil =>
    have closed : ofKeyed (keyed before ++ [(some key, value)]) =
        .object (before ++ [(key, value)]) := by
      rw [← ofKeyed_keyed]
      simp [keyed]
    simp [fieldTokens, Reader.read, Reader.afterValue, closed]
  | cons next more ih =>
    obtain ⟨hnext, hmore⟩ := List.forall_mem_cons.mp h
    have rest := ih hmore next.1 next.2 (before ++ [(key, value)])
    rw [List.append_assoc, List.singleton_append] at rest
    have held : (keyed (before ++ [(key, value)])).reverse =
        (some key, value) :: (keyed before).reverse := by
      simp [keyed]
    rw [held] at rest
    rw [fieldTokens, List.append_assoc, List.append_assoc]
    refine foldlM_append_eq_some.mpr ⟨_, rfl, ?_⟩
    exact foldlM_append_eq_some.mpr ⟨_, hnext _, rest⟩

/-- The tokens of a value are read as the value. -/
theorem Whole.readsAsWritten {j : Json} (h : Whole j) : ReadsAsWritten j := by
  induction h with
  | null => exact fun frames => rfl
  | bool b => exact fun frames => rfl
  | number negative n => exact fun frames => rfl
  | text s => exact fun frames => rfl
  | @array items _ ih =>
    intro frames
    cases items with
    | nil => rfl
    | cons item more =>
      obtain ⟨hitem, hmore⟩ := List.forall_mem_cons.mp ih
      rw [tokensOf, List.cons_append, List.cons_append, List.append_assoc, foldlM_cons_eq_some]
      refine ⟨_, rfl, foldlM_append_eq_some.mpr ⟨_, reads_firstItem hitem frames, ?_⟩⟩
      exact reads_items hmore item [] frames
  | @object fields _ ih =>
    intro frames
    cases fields with
    | nil => rfl
    | cons field more =>
      obtain ⟨hfield, hmore⟩ := List.forall_mem_cons.mp ih
      rw [tokensOf, List.append_assoc, List.append_assoc]
      refine foldlM_append_eq_some.mpr ⟨_, rfl, foldlM_append_eq_some.mpr ⟨_, hfield _, ?_⟩⟩
      exact reads_fields hmore field.1 field.2 [] frames

/-! ## The law -/

/-- The text of a value is read as the value. -/
theorem Whole.parse_toText {j : Json} (h : Whole j) : parse j.toText = some j := by
  have cuts := h.cutsAsWritten 0 cuts_nil (by simp [Ends])
  rw [List.append_nil, List.append_nil] at cuts
  have tokens : tokens j.toText.toList = some (tokensOf j) := by
    rw [toText, String.toList_ofList]
    exact cuts _ (Nat.le_refl _)
  unfold parse
  rw [tokens]
  simp [Reader.start, h.readsAsWritten []]

end CommitQuery.Json
