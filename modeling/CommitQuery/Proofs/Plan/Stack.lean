-- What a run does to the stack of values. Operators call their lambdas again and again on
-- one stack, and a call may fail in the middle of its body; the stack is the same after
-- every run of every part of a plan, whatever the run comes to.
import CommitQuery.Proofs.Plan.Parts

namespace CommitQuery.Plan

open Query
open Run (Gives)

variable {κ ρ : Type} [DecidableEq κ] {S : Schema κ ρ} {root : Root κ ρ}
variable {scope : Scope κ} {p q : Plan κ ρ} {stack : List (Value κ ρ)}

/-- A part of a plan runs on any values for the parameters around it, and leaves them. -/
theorem WellFormed.part_gives (h : WellFormed S root [] p) (hq : Part p scope q)
    (depth : stack.length = scope.length) : Gives (evaluate S q) stack (outcome S stack q) := by
  obtain ⟨env, hm⟩ := h.matches_part hq stack depth
  exact (h.part hq).gives_outcome hm

/-- A lambda that an operator calls has its slot on top of the parameters around it. -/
theorem WellFormed.slot_eq (h : WellFormed S root [] p) (hq : Part p scope q)
    {source body : Plan κ ρ} {b : Binder κ} (hb : q.lambda? = some (source, b, body)) :
    b.slot = scope.length := by
  obtain ⟨x, item, rfl, -⟩ := (h.part hq).lambda? hb
  rfl

/-- A call that an operator makes puts the item on top of the stack and takes it away. -/
theorem WellFormed.call_gives (h : WellFormed S root [] p) (hq : Part p scope q)
    {source body : Plan κ ρ} {b : Binder κ} (hb : q.lambda? = some (source, b, body))
    (depth : stack.length = scope.length) (item : Value κ ρ) :
    Gives (Run.withArgument b.slot item (evaluate S body)) stack
      (outcome S (stack ++ [item]) body) := by
  have slot : stack.length = b.slot := depth.trans (h.slot_eq hq hb).symm
  have inside : (stack ++ [item]).length = (b :: scope).length := by simp [depth]
  exact Gives.withArgument slot (h.part_gives (.called hq hb) inside)

/-! ## The law -/

/-- Let a query compile, and take any part of its plan and any stack with one value for each
parameter around the part. The run of the part leaves the stack exactly as it was, whether it
gives a value or fails in any of its parts. The lambda of an operator has the slot on top of
that stack, and every single call of it leaves the stack as it was, too. -/
theorem a_run_leaves_the_stack_as_it_found_it {e : Expr} (h : compile S root e = .ok p)
    (part : Part p scope q) (stack : List (Value κ ρ)) (depth : stack.length = scope.length) :
    ((evaluate S q).run stack).2 = stack ∧
      ∀ source b body, q.lambda? = some (source, b, body) → b.slot = stack.length ∧
        ∀ item, ((Run.withArgument b.slot item (evaluate S body)).run stack).2 = stack := by
  obtain ⟨wf, -⟩ := wellFormed_compile h
  have own := wf.part_gives part depth
  refine ⟨congrArg Prod.snd own, fun source b body hb => ⟨?_, fun item => ?_⟩⟩
  · exact (wf.slot_eq part hb).trans depth.symm
  · have call := wf.call_gives part hb depth item
    exact congrArg Prod.snd call

/-- The paths of the first files that commits change; a commit that changes none has no
such path. -/
def firstPaths : Expr :=
  .call (.name "Commits") "Select" [.lambda "c"
    (.member (.call (.member (.member (.name "c") "Diff") "Files") "First" []) "Path")]

theorem a_failing_lambda_leaves_the_stack_as_it_found_it :
    let S := Extension.nothing.schema
    let commit : Value (Kind Empty) (Record Empty) := .ofRecord (.commit .blank)
    ∃ source b body,
      compile S (.ofCommits [.blank]) firstPaths = .ok (.select source b body) ∧
      Part (.select source b body) [b] body ∧ [commit].length = [b].length ∧
      outcome S [commit] body = .error .noElement ∧
      ((evaluate S body).run [commit]).2 = [commit] := by
  intro S commit
  have h : ∃ source b body,
      compile S (.ofCommits [.blank]) firstPaths = .ok (.select source b body) ∧
      outcome S [commit] body = .error .noElement := ⟨_, _, _, by cbv, by cbv⟩
  obtain ⟨source, b, body, h, fails⟩ := h
  have part : Part (.select source b body) [b] body := .called .whole rfl
  exact ⟨source, b, body, h, part, rfl, fails,
    (a_run_leaves_the_stack_as_it_found_it h part [commit] rfl).1⟩

end CommitQuery.Plan
