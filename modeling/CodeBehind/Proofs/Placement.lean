import CodeBehind.Lowering.Declaration
import CodeBehind.Proofs.Execution
import CodeBehind.Proofs.Ink

/-!
# Placed trivia

Placing trivia never fails.  Trivia before a header is left out only if it has neither breaks nor
ink; else it starts on a line of its own, after the breaks beyond the first.
-/

namespace CodeBehind.Lowering

open Source

/-- The text of trivia before a header: from the line of its first ink to its last ink. -/
def headerText (trivia : Trivia) : List Char :=
  Text.trimEnd trivia.splitLeadingBreaks.2.toList

theorem inked_headerText (trivia : Trivia) :
    Text.inked (headerText trivia) = Text.inked trivia.text.toList := by
  rw [headerText, Text.inked_trimEnd, Trivia.inked_splitLeadingBreaks]

theorem headerTrivia_cases (trivia : Trivia) :
    (headerTrivia trivia = [] ∧ headerText trivia = []) ∨
      headerTrivia trivia =
        .endLine :: List.replicate (trivia.splitLeadingBreaks.1 - 1) .breakLine ++
          [.verbatim (String.ofList (headerText trivia))] := by
  change (ite _ _ _ = _ ∧ _) ∨ ite _ _ _ = _
  split
  next hempty =>
    rw [Bool.and_eq_true, String.isEmpty_iff] at hempty
    have htext := congrArg String.toList hempty.2
    rw [String.toList_ofList] at htext
    exact .inl ⟨rfl, htext⟩
  next => exact .inr rfl

/-! ## Scripts that cannot fail -/

@[simp]
theorem failure_headerTrivia (trivia : Trivia) : (headerTrivia trivia).failure = none := by
  have hbreaks (n : Nat) : Script.failure (List.replicate n .breakLine) = none := by
    induction n with
    | zero => rfl
    | succ n ih => exact ih
  rcases headerTrivia_cases trivia with ⟨hnil, _⟩ | htext
  · rw [hnil]
    rfl
  · rw [htext, Script.failure_append_eq_none]
    exact ⟨hbreaks _, rfl⟩

@[simp]
theorem failure_innerTrivia (trivia : Trivia) : (innerTrivia trivia).failure = none := by
  unfold innerTrivia
  split
  · exact failure_headerTrivia trivia
  · rfl

@[simp]
theorem failure_closingTrivia (trivia : Trivia) : (closingTrivia trivia).failure = none := by
  unfold closingTrivia
  split <;> rfl

@[simp]
theorem failure_beginStatement (leading : Trivia) (scope : Scope) :
    (beginStatement leading scope).failure = none := by
  unfold beginStatement
  split
  · rfl
  · split <;> rfl

@[simp]
theorem failure_operandTrivia (operand : Expression) : (operandTrivia operand).failure = none := by
  unfold operandTrivia
  split <;> rfl

@[simp]
theorem failure_openIf (leading : Trivia) (condition : Expression) (scope : Scope) :
    (openIf leading condition scope).failure = none := by
  rw [openIf, Script.failure_append, failure_beginStatement]
  rfl

@[simp]
theorem failure_elseLine (leading : Trivia) (scope : Scope) :
    (elseLine leading scope).failure = none := by
  rw [elseLine, Script.failure_append, failure_innerTrivia]
  rfl

@[simp]
theorem failure_closeIf (trailing : Trivia) (scope : Scope) :
    (closeIf trailing scope).failure = none := rfl

@[simp]
theorem failure_constructorCall (options : Options) (namespaceName name : String) (scope : Scope) :
    (constructorCall options namespaceName name scope).failure = none := by
  unfold constructorCall
  split <;> rfl

end CodeBehind.Lowering
