-- What a query that was read looks like as a tree: members and calls stand after
-- operands, every name can be spelled as a name, a string fits into its quotes, and a
-- number is written in digits. What is said of the text of a query starts from here.
import CommitQuery.Proofs.Query.RoundTrip

namespace CommitQuery.Query

open CommitQuery.Text Grammar

/-! ## Names -/

/-- A text that is read as a name. -/
def IsName (s : String) : Prop := (Lexeme.name s).Spelled s.toList

theorem continuesName_of_startsName {c : Char} (h : startsName c = true) :
    continuesName c = true := by
  simp only [startsName, continuesName, Bool.or_eq_true, decide_eq_true_eq] at h ⊢
  refine h.imp_left fun letter => ?_
  unfold isLetter at letter
  unfold isLetterOrNumeral
  split at letter
  · rename_i ascii
    rw [if_pos ascii, letter, Bool.true_or]
  · rename_i other
    rw [if_neg other, letter, Bool.true_or]

theorem IsName.ne_nil {s : String} (h : IsName s) : s.toList ≠ [] := by
  obtain ⟨c, rest, same, -⟩ := Lexeme.Spelled.head h
  simp [same]

/-- A name goes on from its first character to its last. -/
theorem IsName.continues {s : String} (h : IsName s) : ∀ c ∈ s.toList, continuesName c = true := by
  unfold IsName at h
  generalize s.toList = w at h
  cases h with
  | name hc hrest => exact List.forall_mem_cons.mpr ⟨continuesName_of_startsName hc, hrest⟩
  | sign h => cases h

theorem spellable_name {s : String} {ls : List Lexeme} (h : Spellable ls)
    (hs : Lexeme.name s ∈ ls) : IsName s := by
  obtain ⟨w, hw⟩ := h _ hs
  exact spelled_name hw

/-! ## Trees -/

namespace Expr

/-- Whether a tree can stand in front of a dot. -/
def isOperand : Expr → Bool
  | .lambda _ _ | .binary _ _ _ => false
  | _ => true

/-- Trees that a query can write. -/
inductive Written : Expr → Prop
  | name {s : String} (hs : IsName s) : Written (.name s)
  | text {s : String} (hs : quoteFor s ∉ s.toList) : Written (.text s)
  | number {n : Int32} (hn : ∀ c ∈ (toString n.toInt).toList, isAsciiDigit c = true) :
      Written (.number n)
  | member {target : Expr} {field : String} (operand : target.isOperand = true)
      (ht : Written target) (hf : IsName field) : Written (.member target field)
  | call {target : Expr} {method : String} {arguments : List Expr}
      (operand : target.isOperand = true) (ht : Written target) (hm : IsName method)
      (ha : ∀ a ∈ arguments, Written a) : Written (.call target method arguments)
  | lambda {x : String} {body : Expr} (hx : IsName x) (hb : Written body) :
      Written (.lambda x body)
  | binary {left right : Expr} (hl : Written left) (op : Operator) (hr : Written right) :
      Written (.binary left op right)

theorem written_text {s : String} {ls : List Lexeme} (h : Spellable ls)
    (hs : Lexeme.text s ∈ ls) : Written (.text s) := by
  obtain ⟨w, hw⟩ := h _ hs
  refine .text ?_
  have spelled := spelled_text hw
  generalize same : quoteFor s :: s.toList ++ [quoteFor s] = written at spelled
  cases spelled with
  | @text q content hq hc =>
    rw [String.toList_ofList, List.cons_append, List.cons_append, List.cons.injEq] at same
    rw [String.toList_ofList, same.1]
    exact hc
  | sign h => cases h

theorem written_number {n : Int32} {ls : List Lexeme} (h : Spellable ls)
    (hn : Lexeme.number n ∈ ls) : Written (.number n) := by
  obtain ⟨w, hw⟩ := h _ hn
  refine .number ?_
  have spelled := spelled_number hw
  generalize (toString n.toInt).toList = written at spelled
  cases spelled with
  | number hd hle => exact hd
  | sign h => cases h

end Expr

open CommitQuery.Query.Expr

namespace Grammar

mutual

/-- A tree that is derived from lexemes of a text can be written. -/
theorem Expression.written {ls : List Lexeme} {e : Expr} (h : Spellable ls) :
    Expression ls e → Written e
  | .lambda hp hb =>
    let ⟨before, after⟩ := spellable_append.mp h
    .lambda (spellable_name before (hp.sublist.subset (List.mem_singleton.mpr rfl)))
      (hb.written (spellable_cons.mp after).2)
  | .either he => he.written h

theorem Either.written {ls : List Lexeme} {e : Expr} (h : Spellable ls) :
    Either ls e → Written e
  | .one he => he.written h
  | .or hl hr =>
    let ⟨before, after⟩ := spellable_append.mp h
    .binary (hl.written before) _ (hr.written (spellable_cons.mp after).2)

theorem Both.written {ls : List Lexeme} {e : Expr} (h : Spellable ls) : Both ls e → Written e
  | .one he => he.written h
  | .and hl hr =>
    let ⟨before, after⟩ := spellable_append.mp h
    .binary (hl.written before) _ (hr.written (spellable_cons.mp after).2)

theorem Compared.written {ls : List Lexeme} {e : Expr} (h : Spellable ls) :
    Compared ls e → Written e
  | .one he => (he.written h).2
  | .compare hl _ hr =>
    let ⟨before, after⟩ := spellable_append.mp h
    .binary (hl.written before).2 _ (hr.written (spellable_cons.mp after).2).2

theorem Operand.written {ls : List Lexeme} {e : Expr} (h : Spellable ls) :
    Operand ls e → e.isOperand = true ∧ Written e
  | .name _ => ⟨rfl, .name (spellable_name h (List.mem_singleton.mpr rfl))⟩
  | .text _ => ⟨rfl, written_text h (List.mem_singleton.mpr rfl)⟩
  | .number _ => ⟨rfl, written_number h (List.mem_singleton.mpr rfl)⟩
  | .member ht field =>
    let ⟨before, own⟩ := spellable_append.mp h
    let ⟨operand, target⟩ := ht.written before
    ⟨rfl, .member operand target (spellable_name own (by simp))⟩
  | .call ht method ha =>
    let ⟨before, _⟩ := spellable_append.mp h
    let ⟨before, inside⟩ := spellable_append.mp before
    let ⟨before, own⟩ := spellable_append.mp before
    let ⟨operand, target⟩ := ht.written before
    ⟨rfl, .call operand target (spellable_name own (by simp)) (ha.written inside)⟩

theorem Arguments.written {ls : List Lexeme} {es : List Expr} (h : Spellable ls) :
    Arguments ls es → ∀ e ∈ es, Written e
  | .none => fun _ he => nomatch he
  | .some hs => hs.written h

theorem ArgumentList.written {ls : List Lexeme} {es : List Expr} (h : Spellable ls) :
    ArgumentList ls es → ∀ e ∈ es, Written e
  | .one he => fun _ mem => List.mem_singleton.mp mem ▸ he.written h
  | .more hs he =>
    let ⟨before, after⟩ := spellable_append.mp h
    List.forall_mem_append.mpr ⟨hs.written before,
      fun _ mem => List.mem_singleton.mp mem ▸ he.written (spellable_cons.mp after).2⟩

end

end Grammar

/-- A query that was read can be written. -/
theorem written_of_parse {query : String} {e : Expr} (h : Expr.parse query = .ok e) :
    Written e := by
  obtain ⟨ts, hts, he⟩ := parse_eq_ok.mp h
  obtain ⟨after, reads, result⟩ := ofTokens_eq_ok.mp he
  have derived := (hasRead_start.reads reads).result result
  exact derived.written (cuts_of_tokensFrom 0 query.toList hts).spellable

/-- Each lexeme of a query that was read can be spelled. -/
theorem spellable_of_parse {query : String} {e : Expr} (h : Expr.parse query = .ok e) :
    Spellable e.lexemes := by
  obtain ⟨ts, hts, he⟩ := parse_eq_ok.mp h
  obtain ⟨after, reads, result⟩ := ofTokens_eq_ok.mp he
  have own := ((hasRead_start.reads reads).result result).own
  have spelled := (cuts_of_tokensFrom 0 query.toList hts).spellable
  exact fun l hl => spelled l (own.2.subset hl)

end CommitQuery.Query
