import CodeBehind.Proofs.Acceptance
import Mathlib.Data.List.Basic
import Mathlib.Logic.Function.Iterate

/-!
# How deep expressions are followed

Rewriting counts its levels and stops at the limit.  Spelling out a source text follows an
expression as well, to its last token, and counts nothing.  So the limit bounds how deep rewritten
expressions nest down to their compound assignments.  The compound assignments themselves and the
conditions are spelled out, and for them there is no bound: whether a statement is lowered does not
depend on them.
-/

namespace CodeBehind

namespace Source

/-! ## Levels -/

namespace Expression

/-- How deep assignments, compound assignments and casts nest. -/
def nesting : Expression → Nat
  | assignment left _ right => max left.nesting right.nesting + 1
  | compound left _ right => max left.nesting right.nesting + 1
  | cast _ _ _ operand => operand.nesting + 1
  | verbatim _ => 0

/-- The compound assignments that rewriting meets, with the levels at which it meets them, if it
starts at `level`.  Their source text is spelled out. -/
def spelledAt (level : Nat) : Expression → List (Nat × Expression)
  | assignment left _ right => left.spelledAt (level + 1) ++ right.spelledAt (level + 1)
  | compound left operator right => [(level, compound left operator right)]
  | cast _ _ _ operand => operand.spelledAt (level + 1)
  | verbatim _ => []

/-- An expression nests within a bound if rewriting does, and if what it spells out does. -/
theorem nesting_le_iff (level bound : Nat) (e : Expression) :
    level + e.nesting ≤ bound ↔
      level + e.depth ≤ bound ∧ ∀ p ∈ e.spelledAt level, p.1 + p.2.nesting ≤ bound := by
  induction e generalizing level with
  | assignment left operator right ihLeft ihRight =>
    have hmax (m n : Nat) :
        level + (max m n + 1) ≤ bound ↔ level + 1 + m ≤ bound ∧ level + 1 + n ≤ bound := by omega
    rw [nesting, depth, spelledAt, List.forall_mem_append, hmax, hmax, ihLeft, ihRight,
      and_and_and_comm]
  | compound left operator right =>
    rw [depth, spelledAt, List.forall_mem_singleton]
    exact (and_iff_right_of_imp fun h ↦ (Nat.le_add_right _ _).trans h).symm
  | cast opening type closing operand ih =>
    have hsucc (n : Nat) : level + (n + 1) ≤ bound ↔ level + 1 + n ≤ bound := by omega
    rw [nesting, depth, spelledAt, hsucc, hsucc, ih]
  | verbatim token => simp [nesting, depth, spelledAt]

/-- The expression with `text` in place of every compound assignment that rewriting meets. -/
def withSpelled : Expression → Expression → Expression
  | assignment left operator right, text =>
    assignment (left.withSpelled text) operator (right.withSpelled text)
  | compound .., text => text
  | cast opening type closing operand, text => cast opening type closing (operand.withSpelled text)
  | verbatim token, _ => verbatim token

theorem depth_withSpelled {text : Expression} (htext : text.depth = 0) (e : Expression) :
    (e.withSpelled text).depth = e.depth := by
  induction e with
  | assignment left operator right ihLeft ihRight =>
    rw [withSpelled, depth, ihLeft, ihRight, depth]
  | compound left operator right => exact htext
  | cast opening type closing operand ih => rw [withSpelled, depth, ih, depth]
  | verbatim token => rfl

/-- The text nests as deep as it likes, and the expression around it even deeper. -/
theorem nesting_le_nesting_withSpelled (text : Expression) {level : Nat} {e : Expression}
    (h : e.spelledAt level ≠ []) : text.nesting ≤ (e.withSpelled text).nesting := by
  induction e generalizing level with
  | assignment left operator right ihLeft ihRight =>
    rw [withSpelled, nesting]
    rw [spelledAt, ne_eq, List.append_eq_nil_iff, not_and_or] at h
    rcases h with hleft | hright
    · exact (ihLeft hleft).trans ((Nat.le_max_left _ _).trans (Nat.le_succ _))
    · exact (ihRight hright).trans ((Nat.le_max_right _ _).trans (Nat.le_succ _))
  | compound left operator right => exact le_refl _
  | cast opening type closing operand ih => exact (ih h).trans (Nat.le_succ _)
  | verbatim token => exact absurd rfl h

/-- A value inside of `count` casts. -/
def casts (count : Nat) : Expression :=
  (castTo (.predefined { text := "int" }))^[count] (ofText "x")

theorem casts_succ (count : Nat) :
    casts (count + 1) = castTo (.predefined { text := "int" }) (casts count) :=
  Function.iterate_succ_apply' _ _ _

theorem nesting_casts (count : Nat) : (casts count).nesting = count := by
  induction count with
  | zero => rfl
  | succ count ih => rw [casts_succ, castTo, nesting, ih]

theorem depth_casts (count : Nat) : (casts count).depth = count := by
  induction count with
  | zero => rfl
  | succ count ih => rw [casts_succ, castTo, depth, ih]

end Expression

/-! ## Statements -/

def Declarator.withSpelled (declared : Declarator) (text : Expression) : Declarator :=
  { declared with initializer := declared.initializer.map (·.withSpelled text) }

def Variables.withSpelled (declared : Variables) (text : Expression) : Variables :=
  { declared with declarators := declared.declarators.map (·.withSpelled text) }

theorem Variables.values_withSpelled (declared : Variables) (text : Expression) :
    (declared.withSpelled text).values = declared.values.map (·.withSpelled text) := by
  rw [values, values, List.map_filterMap, withSpelled, List.filterMap_map]
  rfl

namespace Statement

mutual

/-- The conditions of a statement, which are spelled out. -/
def conditions : Statement → List Expression
  | ifThen _ condition body _ => condition :: body.conditions
  | ifElse _ condition body _ elseBody _ => condition :: body.conditions ++ elseBody.conditions
  | ret .. => []
  | locals .. => []
  | expression .. => []
  | block _ statements _ => conditionsInAll statements
  | unsupported _ => []

def conditionsInAll : List Statement → List Expression
  | [] => []
  | first :: rest => first.conditions ++ conditionsInAll rest

end

/-- All expressions that are followed, to rewrite them or to spell them out. -/
def followed (s : Statement) : List Expression :=
  s.rewritten ++ s.conditions

/-- The expressions that are spelled out, with the levels that rewriting has gone down to them. -/
def spelled (s : Statement) : List (Nat × Expression) :=
  s.conditions.map (0, ·) ++ s.rewritten.flatMap (Expression.spelledAt 0)

mutual

/-- The statement with `text` in place of everything that is spelled out. -/
def withSpelled (text : Expression) : Statement → Statement
  | ifThen leading _ body trailing => ifThen leading text (body.withSpelled text) trailing
  | ifElse leading _ body elseLeading elseBody trailing =>
    ifElse leading text (body.withSpelled text) elseLeading (elseBody.withSpelled text) trailing
  | ret leading value trailing => ret leading (value.map (·.withSpelled text)) trailing
  | locals leading declared trailing => locals leading (declared.withSpelled text) trailing
  | expression leading value trailing => expression leading (value.withSpelled text) trailing
  | block leading statements trailing => block leading (allWithSpelled text statements) trailing
  | unsupported node => unsupported node

def allWithSpelled (text : Expression) : List Statement → List Statement
  | [] => []
  | first :: rest => first.withSpelled text :: allWithSpelled text rest

end

theorem allWithSpelled_eq_map (text : Expression) (statements : List Statement) :
    allWithSpelled text statements = statements.map (withSpelled text) := by
  induction statements with
  | nil => rw [allWithSpelled, List.map_nil]
  | cons first rest ih => rw [allWithSpelled, ih, List.map_cons]

theorem conditionsInAll_eq_flatMap (statements : List Statement) :
    conditionsInAll statements = statements.flatMap conditions := by
  induction statements with
  | nil => rw [conditionsInAll, List.flatMap_nil]
  | cons first rest ih => rw [conditionsInAll, ih, List.flatMap_cons]

theorem rewritten_withSpelled (text : Expression) (s : Statement) :
    (s.withSpelled text).rewritten = s.rewritten.map (·.withSpelled text) := by
  induction s using Statement.inductionOn with
  | ifThen leading condition body trailing ih => exact ih
  | ifElse leading condition body elseLeading elseBody trailing ih ihElse =>
    rw [withSpelled, rewritten, rewritten, ih, ihElse, List.map_append]
  | ret leading value trailing => cases value <;> rfl
  | locals leading declared trailing => exact Variables.values_withSpelled declared text
  | expression leading value trailing => rfl
  | block leading statements trailing ih =>
    rw [withSpelled, rewritten, rewritten, allWithSpelled_eq_map, rewrittenInAll_eq_flatMap,
      rewrittenInAll_eq_flatMap, List.flatMap_map, List.map_flatMap]
    exact List.flatMap_congr ih
  | unsupported node => rfl

theorem conditions_withSpelled (text : Expression) (s : Statement) :
    (s.withSpelled text).conditions = s.conditions.map fun _ ↦ text := by
  induction s using Statement.inductionOn with
  | ifThen leading condition body trailing ih =>
    rw [withSpelled, conditions, conditions, ih, List.map_cons]
  | ifElse leading condition body elseLeading elseBody trailing ih ihElse =>
    rw [withSpelled, conditions, conditions, ih, ihElse, List.map_append, List.map_cons]
  | ret leading value trailing => rfl
  | locals leading declared trailing => rfl
  | expression leading value trailing => rfl
  | block leading statements trailing ih =>
    rw [withSpelled, conditions, conditions, allWithSpelled_eq_map, conditionsInAll_eq_flatMap,
      conditionsInAll_eq_flatMap, List.flatMap_map, List.map_flatMap]
    exact List.flatMap_congr ih
  | unsupported node => rfl

/-- If rewriting stays within a bound, what exceeds it is spelled out. -/
theorem nesting_followed_le_iff {bound : Nat} {s : Statement}
    (hdepth : ∀ e ∈ s.rewritten, e.depth ≤ bound) :
    (∀ e ∈ s.followed, e.nesting ≤ bound) ↔ ∀ p ∈ s.spelled, p.1 + p.2.nesting ≤ bound := by
  have hrewritten : (∀ e ∈ s.rewritten, e.nesting ≤ bound) ↔
      ∀ e ∈ s.rewritten, ∀ p ∈ e.spelledAt 0, p.1 + p.2.nesting ≤ bound := by
    refine forall₂_congr fun e he ↦ ?_
    have hiff := Expression.nesting_le_iff 0 bound e
    rwa [Nat.zero_add, Nat.zero_add, and_iff_right (hdepth e he)] at hiff
  rw [followed, spelled, List.forall_mem_append, List.forall_mem_append, List.forall_mem_map,
    List.forall_mem_flatMap, hrewritten, and_comm]
  simp only [Nat.zero_add]

/-- Where something is spelled out, it can be a text that nests as deep as any other. -/
theorem exists_nesting_withSpelled (text : Expression) {s : Statement} (h : s.spelled ≠ []) :
    ∃ e ∈ (s.withSpelled text).followed, text.nesting ≤ e.nesting := by
  rw [spelled, ne_eq, List.append_eq_nil_iff, not_and_or, List.map_eq_nil_iff,
    List.flatMap_eq_nil_iff] at h
  simp only [followed, rewritten_withSpelled, conditions_withSpelled, List.mem_append,
    List.mem_map]
  rcases h with hconditions | hrewritten
  · obtain ⟨condition, hcondition⟩ := List.exists_mem_of_ne_nil _ hconditions
    exact ⟨text, .inr ⟨condition, hcondition, rfl⟩, le_refl _⟩
  · push Not at hrewritten
    obtain ⟨e, he, hspelled⟩ := hrewritten
    exact ⟨e.withSpelled text, .inl ⟨e, he, rfl⟩,
      Expression.nesting_le_nesting_withSpelled text hspelled⟩

end Statement

end Source

namespace Lowering

open Source

/-! ## Where the limit holds -/

theorem Scope.exists_enterBlock {scope : Scope} (h : scope.nesting < maxNesting) :
    ∃ inner, scope.enterBlock = .ok inner ∧ inner.nesting = scope.nesting + 1 :=
  ⟨{ scope with nesting := scope.nesting + 1 }, by rw [enterBlock, if_pos h], rfl⟩

/-- What is rewritten is within the limit wherever it stands. -/
theorem depth_le_of_failure_eq_none (scope : Scope) (s : Statement)
    (h : (lowerStatement scope s).failure = none) :
    ∀ e ∈ s.rewritten, e.depth ≤ maxExpressionDepth := by
  induction s using Statement.inductionOn generalizing scope with
  | ifThen leading condition body trailing ih =>
    rw [lowerStatement, Script.failure_append_eq_none] at h
    obtain ⟨inner, _, hinner⟩ := Script.failure_whenOk_eq_none.mp h.2
    rw [Script.failure_append_eq_none] at hinner
    exact ih inner hinner.1
  | ifElse leading condition body elseLeading elseBody trailing ih ihElse =>
    rw [lowerStatement, Script.failure_append_eq_none] at h
    obtain ⟨inner, _, hinner⟩ := Script.failure_whenOk_eq_none.mp h.2
    simp only [Script.failure_append_eq_none] at hinner
    rw [Statement.rewritten, List.forall_mem_append]
    exact ⟨ih inner hinner.1.1.1, ihElse inner hinner.1.2⟩
  | ret leading value trailing =>
    simp only [lowerStatement, Script.failure_append_eq_none] at h
    rw [failure_lowerReturn, List.head?_eq_none_iff, flatMap_expressionViolations_eq_nil] at h
    exact h.1.2
  | locals leading declared trailing =>
    simp only [lowerStatement, Script.failure_append_eq_none] at h
    rw [failure_lowerVariables, List.head?_eq_none_iff, flatMap_expressionViolations_eq_nil] at h
    exact h.1.2
  | expression leading value trailing =>
    simp only [lowerStatement, Script.failure_append_eq_none] at h
    have hvalue := h.1.2
    rw [lowerExpression, failure_lowerExpressionAt, Nat.zero_add] at hvalue
    simpa [Statement.rewritten] using hvalue
  | block leading statements trailing ih =>
    rw [lowerStatement] at h
    obtain ⟨inner, _, hinner⟩ := Script.failure_whenOk_eq_none.mp h
    rw [Script.failure_append_eq_none, lowerStatements_eq_flatMap,
      Script.failure_flatMap_eq_none] at hinner
    rw [Statement.rewritten, Statement.rewrittenInAll_eq_flatMap, List.forall_mem_flatMap]
    exact fun s hs ↦ ih s hs inner (hinner.2 s hs)
  | unsupported node => simp [Statement.rewritten]

/-- With room for all of its levels, a statement fails for its rewritten expressions alone. -/
theorem failure_lowerStatement_of_room (scope : Scope) (s : Statement)
    (hroom : scope.nesting + s.height ≤ maxNesting) :
    (lowerStatement scope s).failure = (s.rewritten.flatMap expressionViolations).head? := by
  have hverbatim (text : String) : Script.failure [.verbatim text] = none := rfl
  induction s using Statement.inductionOn generalizing scope with
  | ifThen leading condition body trailing ih =>
    rw [Statement.height] at hroom
    obtain ⟨inner, hinner, hnesting⟩ :=
      Scope.exists_enter (show scope.nesting < maxNesting by omega)
    have hbody := ih inner (by omega)
    simp only [lowerStatement, hinner, Script.whenOk, Script.failure_append, failure_openIf,
      failure_closeIf, Option.none_or, Option.or_none, hbody, Statement.rewritten]
  | ifElse leading condition body elseLeading elseBody trailing ih ihElse =>
    rw [Statement.height] at hroom
    obtain ⟨inner, hinner, hnesting⟩ :=
      Scope.exists_enter (show scope.nesting < maxNesting by omega)
    have hbody := ih inner (by omega)
    have helse := ihElse inner (by omega)
    simp only [lowerStatement, hinner, Script.whenOk, Script.failure_append, failure_openIf,
      failure_elseLine, failure_closeIf, Option.none_or, Option.or_none, hbody, helse,
      Statement.rewritten, List.flatMap_append, List.head?_append]
  | ret leading value trailing =>
    rw [lowerStatement, Script.failure_append, Script.failure_append, failure_beginStatement,
      Option.none_or, failure_lowerReturn, hverbatim, Option.or_none, Statement.rewritten]
  | locals leading declared trailing =>
    rw [lowerStatement, Script.failure_append, Script.failure_append, failure_beginStatement,
      Option.none_or, failure_lowerVariables, hverbatim, Option.or_none, Statement.rewritten]
  | expression leading value trailing =>
    have hend : Script.failure [.terminator, .verbatim trailing.text] = none := rfl
    rw [lowerStatement, Script.failure_append, Script.failure_append, failure_beginStatement,
      Option.none_or, failure_lowerExpression, hend, Option.or_none, Statement.rewritten,
      List.flatMap_singleton]
  | block leading statements trailing ih =>
    rw [Statement.height] at hroom
    obtain ⟨inner, hinner, hnesting⟩ :=
      Scope.exists_enterBlock (show scope.nesting < maxNesting by omega)
    have hheights :=
      (Statement.heights_le_iff statements (maxNesting - inner.nesting)).mp (by omega)
    rw [lowerStatement, hinner, Script.whenOk, Script.failure_append, failure_innerTrivia,
      Option.none_or, lowerStatements_eq_flatMap, Statement.rewritten,
      Statement.rewrittenInAll_eq_flatMap, List.flatMap_assoc]
    refine Script.failure_flatMap _ _ _ fun s hs ↦ ih s hs inner ?_
    have hheight := hheights s hs
    omega
  | unsupported node => rfl

/-- An expression beyond the limit fails as such, wherever it stands. -/
theorem head?_flatMap_expressionViolations {es : List Expression} {e : Expression} (he : e ∈ es)
    (hdeep : maxExpressionDepth < e.depth) :
    (es.flatMap expressionViolations).head? = some .expressionTooDeep := by
  have hkind : ∀ error ∈ es.flatMap expressionViolations, error = .expressionTooDeep := by
    rw [List.forall_mem_flatMap]
    intro e _
    unfold expressionViolations
    split <;> simp
  cases hhead : (es.flatMap expressionViolations).head? with
  | none =>
    rw [List.head?_eq_none_iff, flatMap_expressionViolations_eq_nil] at hhead
    exact absurd (hhead e he) (Nat.not_le_of_lt hdeep)
  | some error => rw [hkind error (List.mem_of_mem_head? hhead)]

/-! ## Where there is no limit -/

theorem flatMap_expressionViolations_withSpelled {text : Expression} (htext : text.depth = 0)
    (es : List Expression) :
    (es.map (·.withSpelled text)).flatMap expressionViolations =
      es.flatMap expressionViolations := by
  rw [List.flatMap_map]
  refine List.flatMap_congr fun e _ ↦ ?_
  rw [expressionViolations, expressionViolations, Expression.depth_withSpelled htext]

/-- What is spelled out has no say in whether a statement is lowered. -/
theorem failure_lowerStatement_withSpelled {text : Expression} (htext : text.depth = 0)
    (scope : Scope) (s : Statement) :
    (lowerStatement scope (s.withSpelled text)).failure = (lowerStatement scope s).failure := by
  induction s using Statement.inductionOn generalizing scope with
  | ifThen leading condition body trailing ih =>
    rw [Statement.withSpelled, lowerStatement, lowerStatement]
    simp only [Script.failure_append, failure_openIf, Option.none_or]
    cases scope.enter with
    | error error => rfl
    | ok inner => simp only [Script.whenOk, Script.failure_append, ih]
  | ifElse leading condition body elseLeading elseBody trailing ih ihElse =>
    rw [Statement.withSpelled, lowerStatement, lowerStatement]
    simp only [Script.failure_append, failure_openIf, Option.none_or]
    cases scope.enter with
    | error error => rfl
    | ok inner => simp only [Script.whenOk, Script.failure_append, ih, ihElse]
  | ret leading value trailing =>
    have hvalues : (value.map (·.withSpelled text)).toList =
        value.toList.map (·.withSpelled text) := by
      cases value <;> rfl
    rw [Statement.withSpelled, lowerStatement, lowerStatement]
    simp only [Script.failure_append, failure_lowerReturn, hvalues,
      flatMap_expressionViolations_withSpelled htext]
  | locals leading declared trailing =>
    rw [Statement.withSpelled, lowerStatement, lowerStatement]
    simp only [Script.failure_append, failure_lowerVariables, Variables.values_withSpelled,
      flatMap_expressionViolations_withSpelled htext]
  | expression leading value trailing =>
    rw [Statement.withSpelled, lowerStatement, lowerStatement]
    simp only [Script.failure_append, lowerExpression, failure_lowerExpressionAt,
      Expression.depth_withSpelled htext]
  | block leading statements trailing ih =>
    rw [Statement.withSpelled, lowerStatement, lowerStatement]
    cases scope.enterBlock with
    | error error => rfl
    | ok inner =>
      simp only [Script.whenOk, Script.failure_append, Statement.allWithSpelled_eq_map,
        lowerStatements_eq_flatMap, List.flatMap_map]
      congr 1
      -- Both lists of statements fail with the first of the same reasons.
      have hfirst := Script.failure_flatMap statements (lowerStatement inner)
        (fun s ↦ (lowerStatement inner s).failure.toList) fun s _ ↦ (Option.head?_toList ..).symm
      rw [hfirst]
      refine Script.failure_flatMap _ _ _ fun s hs ↦ ?_
      rw [ih s hs inner, Option.head?_toList]
  | unsupported node => rfl

end Lowering

open Lowering Source

/-- Rewriting a statement stays within the limit.  What it spells out may go beyond: a text of any
nesting can take its place, and none of them makes a difference to the outcome. -/
theorem run_lowerStatement_nesting (scope : Scope) (s : Statement) (layout : Layout)
    (w : Writer String) :
    let outcome (s : Statement) := ((lowerStatement scope s).run .unbounded layout w).1
    (outcome s = .ok () →
        (∀ e ∈ s.rewritten, e.depth ≤ maxExpressionDepth) ∧
          ((∀ e ∈ s.followed, e.nesting ≤ maxExpressionDepth) ↔
            ∀ p ∈ s.spelled, p.1 + p.2.nesting ≤ maxExpressionDepth)) ∧
      (scope.nesting + s.height ≤ maxNesting →
        (∃ e ∈ s.rewritten, maxExpressionDepth < e.depth) →
          outcome s = .error .expressionTooDeep) ∧
      (∀ text, text.depth = 0 → outcome (s.withSpelled text) = outcome s) ∧
      (s.spelled ≠ [] → ∀ bound, ∃ text, text.depth = 0 ∧
        ∃ e ∈ (s.withSpelled text).followed, bound ≤ e.nesting) := by
  intro outcome
  have houtcome (s : Statement) :
      outcome s = ((lowerStatement scope s).failure).elim (.ok ()) .error :=
    Script.run_unbounded_fst layout _ w
  refine ⟨fun hok ↦ ?_, fun hroom ⟨e, he, hdeep⟩ ↦ ?_, fun text htext ↦ ?_, fun hspelled bound ↦ ?_⟩
  · have hnone : (lowerStatement scope s).failure = none := by
      rw [houtcome] at hok
      cases hfailure : (lowerStatement scope s).failure with
      | none => rfl
      | some error => simp [hfailure] at hok
    have hdepth := depth_le_of_failure_eq_none scope s hnone
    exact ⟨hdepth, Statement.nesting_followed_le_iff hdepth⟩
  · rw [houtcome, failure_lowerStatement_of_room scope s hroom,
      head?_flatMap_expressionViolations he hdeep]
    rfl
  · rw [houtcome, houtcome, failure_lowerStatement_withSpelled htext]
  · refine ⟨.assignWith "+=" (.ofText "x") (.casts bound), rfl, ?_⟩
    obtain ⟨e, he, hnesting⟩ :=
      Statement.exists_nesting_withSpelled (.assignWith "+=" (.ofText "x") (.casts bound)) hspelled
    refine ⟨e, he, le_trans ?_ hnesting⟩
    rw [Expression.assignWith, Expression.nesting, Expression.nesting_casts]
    exact (Nat.le_max_right _ _).trans (Nat.le_succ _)

/-- A conditional with a condition, and an expression that is one level beyond the limit. -/
theorem run_lowerStatement_nesting_guard :
    let guard := Statement.ifThen {} (.ofText "ready") (.expression {} (.ofText "go()") {}) {}
    let deep := Statement.expression {} (.casts (maxExpressionDepth + 1)) {}
    let outcome (s : Statement) := ((lowerStatement .root s).run .unbounded {} .empty).1
    (outcome guard = .ok () ∧ ∀ e ∈ guard.rewritten, e.depth ≤ maxExpressionDepth) ∧
      (guard.spelled ≠ [] ∧ outcome (guard.withSpelled (.ofText "done")) = outcome guard ∧
        ∃ text, text.depth = 0 ∧ ∃ e ∈ (guard.withSpelled text).followed,
          maxExpressionDepth + 1 ≤ e.nesting) ∧
      Scope.root.nesting + deep.height ≤ maxNesting ∧
        (∃ e ∈ deep.rewritten, maxExpressionDepth < e.depth) ∧
        outcome deep = .error .expressionTooDeep := by
  intro guard deep outcome
  obtain ⟨hlowered, _, hoblivious, hunbounded⟩ :=
    run_lowerStatement_nesting .root guard {} .empty
  have hok : outcome guard = .ok () := rfl
  have hspelled : guard.spelled ≠ [] := by simp [guard, Statement.spelled, Statement.conditions]
  have hroom : Scope.root.nesting + deep.height ≤ maxNesting := by decide
  have hdeep : ∃ e ∈ deep.rewritten, maxExpressionDepth < e.depth :=
    ⟨.casts (maxExpressionDepth + 1), List.mem_singleton_self _, by
      rw [Expression.depth_casts]
      exact Nat.lt_succ_self _⟩
  exact ⟨⟨hok, (hlowered hok).1⟩,
    ⟨hspelled, hoblivious (.ofText "done") rfl, hunbounded hspelled _⟩, hroom, hdeep,
    (run_lowerStatement_nesting .root deep {} .empty).2.1 hroom hdeep⟩

/-- A condition beyond the limit is followed to its end. -/
theorem not_forall_nesting_le_castCondition :
    ¬ ∀ (scope : Scope) (s : Statement) (layout : Layout) (w : Writer String),
      ((lowerStatement scope s).run .unbounded layout w).1 = .ok () →
        ∀ e ∈ s.followed, e.nesting ≤ maxExpressionDepth := by
  intro h
  let condition := Expression.casts (maxExpressionDepth + 1)
  have hok : ((lowerStatement .root (.ifThen {} condition (.block {} [] {}) {})).run
      .unbounded {} .empty).1 = .ok () := by
    rw [Script.run_unbounded_fst, failure_lowerStatement_of_room _ _ (by decide)]
    rfl
  have hcondition : condition ∈ (Statement.ifThen {} condition (.block {} [] {}) {}).followed := by
    simp [Statement.followed, Statement.conditions]
  have hnesting := h .root _ {} .empty hok condition hcondition
  rw [Expression.nesting_casts] at hnesting
  exact absurd hnesting (Nat.not_succ_le_self _)

end CodeBehind
