-- The text of a tree tells the tree. Behind its indentation, the line of a node starts with
-- an arrow and a detail does not; the indentation of a node's line is a multiple of three and
-- that of a detail is not. So the lines of a tree tell which node each line belongs to, and
-- which node that one stands below.
import CommitQuery.Plan.Explain
import CommitQuery.Proofs.Text.Pieces
import Mathlib.Data.List.Chain

namespace CommitQuery.PlanNode

open CommitQuery.Text

/-! ## Trees -/

/-- A tree whose root stands at a depth, and every child one deeper than its parent. -/
inductive StandsAt : Nat → PlanNode → Prop
  | node {title resultType : String} {details : List String} {children : List PlanNode}
      {depth : Nat} (below : ∀ child ∈ children, StandsAt (depth + 1) child) :
      StandsAt depth (.node title resultType details children depth)

/-- A text on one line, without two spaces next to each other: the title of a node. -/
def IsTitle (s : String) : Prop :=
  '\n' ∉ s.toList ∧ s.toList.IsChain fun a b => ¬ (a = ' ' ∧ b = ' ')

/-- A text on one line that starts with no space: a detail of a node. -/
def IsDetail (s : String) : Prop := '\n' ∉ s.toList ∧ s.toList.head? ≠ some ' '

instance (s : String) : Decidable (IsTitle s) := inferInstanceAs (Decidable (_ ∧ _))

instance (s : String) : Decidable (IsDetail s) := inferInstanceAs (Decidable (_ ∧ _))

/-- A tree with titles, types and details that can be told apart on their lines. -/
inductive Legible : PlanNode → Prop
  | node {title resultType : String} {details : List String} {children : List PlanNode}
      {depth : Nat} (ht : IsTitle title) (hr : '\n' ∉ resultType.toList)
      (hd : ∀ d ∈ details, IsDetail d) (hc : ∀ child ∈ children, Legible child) :
      Legible (.node title resultType details children depth)

/-! ## Lines -/

/-- The spaces in front of a line. -/
def indentation (line : String) : Nat := (line.toList.takeWhile (· = ' ')).length

theorem indentation_eq {line : String} {spaces : Nat} {c : Char} {rest : List Char}
    (h : line.toList = List.replicate spaces ' ' ++ c :: rest) (hc : c ≠ ' ') :
    indentation line = spaces := by
  have run : ∀ d ∈ List.replicate spaces ' ', decide (d = ' ') = true := by simp
  have stop : ∀ d ∈ (c :: rest).head?, decide (d = ' ') = false := by simp [hc]
  rw [indentation, h, (span_append run stop).1, List.length_replicate]

/-- The line of a node below the root. -/
theorem indentation_node (depth : Nat) (s : String) :
    indentation (lead (depth + 1) ++ s) = 3 * (depth + 1) := by
  have written : (lead (depth + 1) ++ s).toList =
      List.replicate (3 * (depth + 1)) ' ' ++ '-' :: ("> ".toList ++ s.toList) := by
    simp [lead, repeated]
  exact indentation_eq written (by decide)

theorem indentation_detail (depth : Nat) {d : String} (h : IsDetail d) :
    indentation (detailLead depth ++ d) % 3 = 2 := by
  have spaces : ∃ n, n % 3 = 2 ∧ (detailLead depth).toList = List.replicate n ' ' := by
    cases depth with
    | zero => exact ⟨2, rfl, by simp [detailLead, repeated]⟩
    | succ depth =>
      refine ⟨3 * (depth + 1) + 5, by omega, ?_⟩
      rw [List.replicate_add]
      simp [detailLead, repeated]
  obtain ⟨n, two, written⟩ := spaces
  rw [indentation, String.toList_append, written]
  have run : ∀ c ∈ List.replicate n ' ', decide (c = ' ') = true := by simp
  have stop : ∀ c ∈ d.toList.head?, decide (c = ' ') = false :=
    fun c hc => decide_eq_false fun same => h.2 (same ▸ hc)
  rw [(span_append run stop).1, List.length_replicate, two]

/-- A title that goes on with two spaces and a parenthesis goes on with nothing. -/
theorem IsTitle.over {s t : String} {w after after' : List Char} (h : IsTitle t)
    (more : t.toList = s.toList ++ w)
    (same : ' ' :: ' ' :: '(' :: after = w ++ ' ' :: ' ' :: '(' :: after') : w = [] := by
  match w with
  | [] => rfl
  | [a] => simp at same
  | a :: b :: rest =>
    obtain ⟨rfl, rfl, -⟩ : ' ' = a ∧ ' ' = b ∧ _ := by simpa using same
    have chain := h.2
    rw [more, List.isChain_append] at chain
    have two := (List.isChain_cons_cons.mp chain.2.1).1
    exact absurd ⟨rfl, rfl⟩ two

/-- A title ends where two spaces and a parenthesis follow. -/
theorem title_inj {s t : String} {after after' : List Char} (hs : IsTitle s) (ht : IsTitle t)
    (same : s.toList ++ ' ' :: ' ' :: '(' :: after = t.toList ++ ' ' :: ' ' :: '(' :: after') :
    s = t ∧ after = after' := by
  have text : s = t := by
    rcases List.append_eq_append_iff.mp same with ⟨w, more, rest⟩ | ⟨w, more, rest⟩
    · rw [ht.over more rest, List.append_nil] at more
      exact (String.toList_inj.mp more).symm
    · rw [hs.over more rest, List.append_nil] at more
      exact String.toList_inj.mp more
  subst text
  simpa using same

/-- The first line of a node. -/
def heading (depth : Nat) (title resultType : String) : String :=
  lead depth ++ title ++ "  (" ++ resultType ++ ")"

/-- Nodes at one depth with the same first line have the same title and type. -/
theorem heading_inj {depth : Nat} {title title' resultType resultType' : String}
    (ht : IsTitle title) (ht' : IsTitle title')
    (same : heading depth title resultType = heading depth title' resultType') :
    title = title' ∧ resultType = resultType' := by
  have texts := congrArg String.toList same
  simp only [heading, String.toList_append, List.append_assoc] at texts
  obtain ⟨titles, types⟩ := title_inj ht ht' (List.append_cancel_left texts)
  exact ⟨titles, String.toList_inj.mp (List.append_cancel_right types)⟩

theorem indentation_heading (depth : Nat) (title resultType : String) :
    indentation (heading (depth + 1) title resultType) = 3 * (depth + 1) := by
  have written : heading (depth + 1) title resultType =
      lead (depth + 1) ++ (title ++ "  (" ++ resultType ++ ")") := by
    simp [heading, String.append_assoc]
  rw [written]
  exact indentation_node depth _

/-! ## Reading the lines of a tree -/

/-- Lines after those of a tree at a depth: nothing, or a node that is no deeper first. -/
def Follow (depth : Nat) (rest : List String) : Prop :=
  ∀ l ∈ rest.head?, indentation l % 3 = 0 ∧ indentation l ≤ 3 * depth

/-- Lines that start with a node at most one deeper: children, or what stands behind them. -/
theorem Follow.children {depth : Nat} {rest : List String} (h : Follow depth rest)
    {children : List PlanNode} (hs : ∀ child ∈ children, StandsAt (depth + 1) child) :
    Follow (depth + 1) (childLines children ++ rest) := by
  cases children with
  | nil =>
    intro l hl
    obtain ⟨node, shallow⟩ := h l hl
    exact ⟨node, by omega⟩
  | cons child more =>
    intro l hl
    cases hs child (List.mem_cons_self ..) with
    | @node title resultType =>
      obtain rfl : heading (depth + 1) title resultType = l := by
        simpa [childLines, lines, heading] using hl
      rw [indentation_heading]
      exact ⟨Nat.mul_mod_right 3 (depth + 1), Nat.le_refl _⟩

/-- No detail stands first among lines that follow. -/
theorem Follow.not_detail {depth own : Nat} {d : String} {more : List String} (hd : IsDetail d)
    (h : Follow depth ((detailLead own ++ d) :: more)) : False := by
  have node := (h (detailLead own ++ d) rfl).1
  have two := indentation_detail own hd
  omega

/-- No child of a node at a depth stands first among lines that follow the node. -/
theorem Follow.not_child {depth : Nat} {child : PlanNode} {more : List String}
    (hs : child.StandsAt (depth + 1)) (h : Follow depth (child.lines ++ more)) : False := by
  cases hs with
  | @node title resultType =>
    have shallow := (h (heading (depth + 1) title resultType) rfl).2
    rw [indentation_heading] at shallow
    omega

/-- The details of a node end where the next node starts. -/
theorem details_inj {depth below : Nat} {ds ds' rest rest' : List String}
    (hd : ∀ d ∈ ds, IsDetail d) (hd' : ∀ d ∈ ds', IsDetail d) (hr : Follow below rest)
    (hr' : Follow below rest')
    (same : ds.map (detailLead depth ++ ·) ++ rest = ds'.map (detailLead depth ++ ·) ++ rest') :
    ds = ds' ∧ rest = rest' := by
  induction ds generalizing ds' with
  | nil =>
    cases ds' with
    | nil => exact ⟨rfl, same⟩
    | cons d more =>
      obtain rfl : rest = (detailLead depth ++ d) :: (_ ++ rest') := same
      exact (hr.not_detail (hd' d (List.mem_cons_self ..))).elim
  | cons d more ih =>
    cases ds' with
    | nil =>
      obtain rfl : (detailLead depth ++ d) :: (_ ++ rest) = rest' := same
      exact (hr'.not_detail (hd d (List.mem_cons_self ..))).elim
    | cons d' more' =>
      obtain ⟨first, others⟩ : detailLead depth ++ d = detailLead depth ++ d' ∧ _ := by
        simpa only [List.map_cons, List.cons_append, List.cons.injEq] using same
      obtain rfl := (String.append_right_inj _).mp first
      obtain ⟨rfl, rfl⟩ := ih (List.forall_mem_cons.mp hd).2 (List.forall_mem_cons.mp hd').2 others
      exact ⟨rfl, rfl⟩

-- By recursion over both trees in step. What follows is general, and no deeper than the tree:
-- so the details of a node end at the first line indented like a node, and its children where
-- that node stands no deeper than their parent.
mutual

/-- The lines of a tree end where lines follow that stand no deeper. -/
theorem lines_inj {depth : Nat} {n n' : PlanNode} {rest rest' : List String}
    (hs : n.StandsAt depth) (hs' : n'.StandsAt depth) (hl : n.Legible) (hl' : n'.Legible)
    (hr : Follow depth rest) (hr' : Follow depth rest')
    (same : n.lines ++ rest = n'.lines ++ rest') : n = n' ∧ rest = rest' := by
  obtain ⟨title, resultType, details, children, _⟩ := n
  obtain ⟨title', resultType', details', children', _⟩ := n'
  cases hs with | node hs =>
  cases hs' with | node hs' =>
  cases hl with | node ht _ hd hc =>
  cases hl' with | node ht' _ hd' hc' =>
  simp only [lines, List.cons_append, List.append_assoc, List.cons.injEq] at same
  obtain ⟨first, others⟩ := same
  obtain ⟨rfl, rfl⟩ := heading_inj ht ht' first
  obtain ⟨rfl, below⟩ := details_inj hd hd' (hr.children hs) (hr'.children hs') others
  obtain ⟨rfl, rfl⟩ := childLines_inj hs hs' hc hc' hr hr' below
  exact ⟨rfl, rfl⟩

theorem childLines_inj {depth : Nat} {ns ns' : List PlanNode} {rest rest' : List String}
    (hs : ∀ n ∈ ns, StandsAt (depth + 1) n) (hs' : ∀ n ∈ ns', StandsAt (depth + 1) n)
    (hl : ∀ n ∈ ns, Legible n) (hl' : ∀ n ∈ ns', Legible n)
    (hr : Follow depth rest) (hr' : Follow depth rest')
    (same : childLines ns ++ rest = childLines ns' ++ rest') : ns = ns' ∧ rest = rest' := by
  match ns, ns' with
  | [], [] => exact ⟨rfl, same⟩
  | [], n' :: more' =>
    obtain rfl : rest = n'.lines ++ (childLines more' ++ rest') := by
      simpa [childLines] using same
    exact (hr.not_child (hs' n' (List.mem_cons_self ..))).elim
  | n :: more, [] =>
    obtain rfl : n.lines ++ (childLines more ++ rest) = rest' := by
      simpa [childLines] using same
    exact (hr'.not_child (hs n (List.mem_cons_self ..))).elim
  | n :: more, n' :: more' =>
    rw [List.forall_mem_cons] at hs hs' hl hl'
    simp only [childLines, List.append_assoc] at same
    obtain ⟨rfl, others⟩ := lines_inj hs.1 hs'.1 hl.1 hl'.1 (hr.children hs.2)
      (hr'.children hs'.2) same
    obtain ⟨rfl, rfl⟩ := childLines_inj hs.2 hs'.2 hl.2 hl'.2 hr hr' others
    exact ⟨rfl, rfl⟩

end

/-! ## Reading the text of a tree -/

theorem unbroken_lead (depth : Nat) : '\n' ∉ (lead depth).toList := by
  cases depth <;> simp [lead, repeated]

theorem unbroken_detailLead (depth : Nat) : '\n' ∉ (detailLead depth).toList := by
  cases depth <;> simp [detailLead, repeated]

mutual

theorem Legible.unbroken {n : PlanNode} (h : n.Legible) : ∀ l ∈ n.lines, '\n' ∉ l.toList := by
  obtain ⟨title, resultType, details, children, depth⟩ := n
  cases h with | node ht hr hd hc =>
  have first : '\n' ∉ (heading depth title resultType).toList := by
    simp [heading, unbroken_lead, ht.1, hr]
  have detail : ∀ l ∈ details.map (detailLead depth ++ ·), '\n' ∉ l.toList := by
    intro l hl
    obtain ⟨d, hdetail, rfl⟩ := List.mem_map.mp hl
    simp [unbroken_detailLead, (hd d hdetail).1]
  intro l hl
  rcases List.mem_cons.mp hl with rfl | hl
  · exact first
  · rcases List.mem_append.mp hl with own | below
    · exact detail l own
    · exact unbroken_childLines hc l below

theorem unbroken_childLines {ns : List PlanNode} (h : ∀ n ∈ ns, Legible n) :
    ∀ l ∈ childLines ns, '\n' ∉ l.toList := by
  match ns with
  | [] => exact fun _ hl => nomatch hl
  | n :: more =>
    rw [List.forall_mem_cons] at h
    exact List.forall_mem_append.mpr ⟨h.1.unbroken, unbroken_childLines h.2⟩

end

theorem toList_render (n : PlanNode) :
    n.render.toList = unlines (n.lines.map String.toList) := by
  simp [render, String.toList_join, unlines, List.flatMap_map]

/-- A tree is told by its text. -/
theorem render_inj {n n' : PlanNode} (hs : n.StandsAt 0) (hs' : n'.StandsAt 0) (hl : n.Legible)
    (hl' : n'.Legible) (same : n.render = n'.render) : n = n' := by
  have texts := congrArg String.toList same
  rw [toList_render, toList_render] at texts
  have unbroken : ∀ {m : PlanNode}, m.Legible → ∀ l ∈ m.lines.map String.toList, '\n' ∉ l := by
    intro m hm l hl
    obtain ⟨line, hline, rfl⟩ := List.mem_map.mp hl
    exact hm.unbroken line hline
  have lists := unlines_inj (unbroken hl) (unbroken hl') texts
  have own : n.lines = n'.lines :=
    List.map_injective_iff.mpr (fun _ _ => String.toList_inj.mp) lists
  have last : Follow 0 [] := fun _ none => nomatch none
  exact (lines_inj hs hs' hl hl' last last (by rw [own])).1

end CommitQuery.PlanNode
