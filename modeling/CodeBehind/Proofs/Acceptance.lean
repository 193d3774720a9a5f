import CodeBehind.Proofs.Placement
import CodeBehind.Proofs.Statements

/-!
# Which files are accepted

A file is turned down for a name that is missing or qualified, for a missing body, for conditionals
and blocks that nest too deep, and for rewritten expressions that nest too deep.  The violations of
a file have an order, the order of the source, and emitting reports the first of them.  Members that
are left out are never looked at, and neither the node names nor the options have a say.
-/

namespace CodeBehind

/-! ## Depths -/

namespace Source

/-- How deep assignments and casts nest; a compound assignment is not looked into. -/
def Expression.depth : Expression → Nat
  | assignment left _ right => max left.depth right.depth + 1
  | compound .. => 0
  | cast _ _ _ operand => operand.depth + 1
  | verbatim _ => 0

/-- The initial values of declared variables. -/
def Variables.values (declared : Variables) : List Expression :=
  declared.declarators.filterMap (·.initializer)

namespace Statement

mutual

/-- How deep conditionals and blocks nest. -/
def height : Statement → Nat
  | ifThen _ _ body _ => body.height + 1
  | ifElse _ _ body _ elseBody _ => max body.height elseBody.height + 1
  | ret .. => 0
  | locals .. => 0
  | expression .. => 0
  | block _ statements _ => heights statements + 1
  | unsupported _ => 0

/-- The largest height of the statements of a list. -/
def heights : List Statement → Nat
  | [] => 0
  | first :: rest => max first.height (heights rest)

end

mutual

/-- The expressions of a statement that are rewritten; conditions are not. -/
def rewritten : Statement → List Expression
  | ifThen _ _ body _ => body.rewritten
  | ifElse _ _ body _ elseBody _ => body.rewritten ++ elseBody.rewritten
  | ret _ value _ => value.toList
  | locals _ declared _ => declared.values
  | expression _ value _ => [value]
  | block _ statements _ => rewrittenInAll statements
  | unsupported _ => []

def rewrittenInAll : List Statement → List Expression
  | [] => []
  | first :: rest => first.rewritten ++ rewrittenInAll rest

end

theorem heights_le_iff (statements : List Statement) (bound : Nat) :
    heights statements ≤ bound ↔ ∀ s ∈ statements, s.height ≤ bound := by
  induction statements with
  | nil => simp [heights]
  | cons first rest ih => rw [heights, Nat.max_le, ih, List.forall_mem_cons]

theorem rewrittenInAll_eq_flatMap (statements : List Statement) :
    rewrittenInAll statements = statements.flatMap rewritten := by
  induction statements with
  | nil => rw [rewrittenInAll, List.flatMap_nil]
  | cons first rest ih => rw [rewrittenInAll, ih, List.flatMap_cons]

end Statement

end Source

namespace Lowering

open Source

/-! ## Accepted files -/

/-- Conditionals and blocks may nest this deep in a body, which is itself inside of a namespace, a
member and its braces. -/
def maxBodyHeight : Nat := maxNesting - 3

def AcceptedExpression (e : Expression) : Prop :=
  e.depth ≤ maxExpressionDepth

def AcceptedBody (body : Option Block) : Prop :=
  ∃ block, body = some block ∧
    ∀ s ∈ block.statements, s.height ≤ maxBodyHeight ∧ ∀ e ∈ s.rewritten, AcceptedExpression e

def AcceptedClassMember : Declaration → Prop
  | .methodDecl node => node.identifier.valueText ≠ "" ∧ AcceptedBody node.body
  | .constructorDecl node => AcceptedBody node.body
  | .fieldDecl node => ∀ e ∈ node.declared.values, AcceptedExpression e
  | _ => True

def AcceptedNamespaceMember : Declaration → Prop
  | .classDecl _ _ identifier members _ =>
    identifier.valueText ≠ "" ∧ ∀ member ∈ members, AcceptedClassMember member
  | _ => True

def AcceptedTopLevel : Declaration → Prop
  | .namespaceDecl _ name members _ =>
    name.valueText ≠ "" ∧ '.' ∉ name.valueText.toList ∧
      ∀ member ∈ members, AcceptedNamespaceMember member
  | _ => True

def Accepted (unit : CompilationUnit) : Prop :=
  ∀ member ∈ unit.members, AcceptedTopLevel member

/-! ## Violations in the order of the source -/

def expressionViolations (e : Expression) : List Error :=
  if e.depth ≤ maxExpressionDepth then [] else [.expressionTooDeep]

/-- A conditional or block inside of `level` others violates the limit. -/
def levelViolations (level : Nat) : List Error :=
  if level < maxBodyHeight then [] else [.nestingTooDeep]

mutual

/-- The violations of a statement inside of `level` conditionals and blocks. -/
def statementViolations (level : Nat) : Statement → List Error
  | .ifThen _ _ body _ => levelViolations level ++ statementViolations (level + 1) body
  | .ifElse _ _ body _ elseBody _ =>
    levelViolations level ++ statementViolations (level + 1) body ++
      statementViolations (level + 1) elseBody
  | .ret _ value _ => value.toList.flatMap expressionViolations
  | .locals _ declared _ => declared.values.flatMap expressionViolations
  | .expression _ value _ => expressionViolations value
  | .block _ statements _ => levelViolations level ++ statementsViolations (level + 1) statements
  | .unsupported _ => []

def statementsViolations (level : Nat) : List Statement → List Error
  | [] => []
  | first :: rest => statementViolations level first ++ statementsViolations level rest

end

def nameViolations (token : Token) (kind : Kind) : List Error :=
  if token.valueText = "" then [.emptyIdentifier kind] else []

def namespaceNameViolations (token : Token) : List Error :=
  nameViolations token .namespaceDeclaration ++
    if '.' ∈ token.valueText.toList then [.qualifiedNamespace token.valueText] else []

def bodyViolations (body : Option Block) (kind : Kind) (name : String) : List Error :=
  match body with
  | none => [.missingBody kind name]
  | some block => statementsViolations 0 block.statements

def classMemberViolations (className : String) : Declaration → List Error
  | .methodDecl node =>
    nameViolations node.identifier .methodDeclaration ++
      bodyViolations node.body .methodDeclaration node.identifier.valueText
  | .constructorDecl node => bodyViolations node.body .constructorDeclaration className
  | .fieldDecl node => node.declared.values.flatMap expressionViolations
  | _ => []

def namespaceMemberViolations : Declaration → List Error
  | .classDecl _ _ identifier members _ =>
    nameViolations identifier .classDeclaration ++
      members.flatMap (classMemberViolations identifier.valueText)
  | _ => []

def topLevelViolations : Declaration → List Error
  | .namespaceDecl _ name members _ =>
    namespaceNameViolations name ++ members.flatMap namespaceMemberViolations
  | _ => []

/-- Everything that keeps a file from being lowered, in the order of the source. -/
def violations (unit : CompilationUnit) : List Error :=
  unit.members.flatMap topLevelViolations

theorem statementsViolations_eq_flatMap (level : Nat) (statements : List Statement) :
    statementsViolations level statements = statements.flatMap (statementViolations level) := by
  induction statements with
  | nil => rw [statementsViolations, List.flatMap_nil]
  | cons first rest ih => rw [statementsViolations, ih, List.flatMap_cons]

/-! ## The first violation is the failure -/

theorem failure_lowerExpressionAt (level : Nat) (e : Expression) :
    (lowerExpressionAt level e).failure =
      if level + e.depth ≤ maxExpressionDepth then none else some .expressionTooDeep := by
  induction e generalizing level with
  | assignment left operator right ihLeft ihRight =>
    have hoperator : Script.failure [.verbatim operator.leading.text, .code operator.text,
        .verbatim operator.trailing.text] = none := rfl
    rw [lowerExpressionAt, Expression.depth]
    split
    next => rw [if_neg (by omega)]; rfl
    next =>
      simp only [Script.failure_append, ihLeft, ihRight, failure_operandTrivia, hoperator,
        Option.or_none]
      split_ifs <;> first | rfl | omega
  | compound left operator right =>
    rw [lowerExpressionAt, Expression.depth]
    split
    next => rw [if_neg (by omega)]; rfl
    next => rw [if_pos (by omega)]; rfl
  | cast opening type closing operand ih =>
    rw [lowerExpressionAt, Expression.depth]
    split
    next => rw [if_neg (by omega)]; rfl
    next => exact (ih (level + 1)).trans (by simp only [Nat.add_assoc, Nat.add_comm 1])
  | verbatim token =>
    rw [lowerExpressionAt, Expression.depth]
    split
    next => rw [if_neg (by omega)]; rfl
    next => rw [if_pos (by omega)]; rfl

theorem failure_lowerExpression (e : Expression) :
    (lowerExpression e).failure = (expressionViolations e).head? := by
  rw [lowerExpression, failure_lowerExpressionAt, Nat.zero_add, expressionViolations]
  split <;> rfl

theorem failure_terminated (text : String) (value : Expression) :
    Script.failure (.code text :: lowerExpression value ++ [.terminator]) =
      (expressionViolations value).head? := by
  have hterminator : Script.failure [.terminator] = none := rfl
  rw [Script.failure_append, hterminator, Option.or_none, ← failure_lowerExpression]
  rfl

theorem failure_lowerReturn (value : Option Expression) :
    (lowerReturn value).failure = (value.toList.flatMap expressionViolations).head? := by
  cases value with
  | none => rfl
  | some value =>
    rw [lowerReturn, failure_terminated, Option.toList_some, List.flatMap_singleton]

theorem failure_lowerDeclarator (declarator : Declarator) :
    (lowerDeclarator declarator).failure =
      (declarator.initializer.toList.flatMap expressionViolations).head? := by
  unfold lowerDeclarator
  cases declarator.initializer with
  | none => rfl
  | some value =>
    rw [Option.toList_some, List.flatMap_singleton]
    exact failure_terminated _ value

theorem failure_lowerVariables (declared : Variables) :
    (lowerVariables declared).failure = (declared.values.flatMap expressionViolations).head? := by
  have hvalues : declared.values.flatMap expressionViolations = declared.declarators.flatMap
      fun declarator ↦ declarator.initializer.toList.flatMap expressionViolations := by
    rw [Variables.values]
    induction declared.declarators with
    | nil => rfl
    | cons first rest ih => cases hfirst : first.initializer <;> simp [hfirst, ih]
  rw [hvalues]
  exact Script.failure_flatMap _ _ _ fun declarator _ ↦ failure_lowerDeclarator declarator

/-- Entering one more level fails exactly where the limit is violated. -/
theorem failure_whenOk_enterBlock {scope : Scope} {level : Nat} {next : Scope → Script}
    {reasons : List Error} (hscope : scope.nesting = level + 3)
    (hnext : ∀ inner : Scope, inner.nesting = level + 1 + 3 →
      (next inner).failure = reasons.head?) :
    (Script.whenOk scope.enterBlock next).failure = (levelViolations level ++ reasons).head? := by
  unfold Scope.enterBlock levelViolations maxBodyHeight
  by_cases hlevel : scope.nesting < maxNesting
  · rw [if_pos hlevel, if_pos (by omega), List.nil_append]
    exact hnext _ (by change scope.nesting + 1 = _; omega)
  · rw [if_neg hlevel, if_neg (by omega)]
    rfl

theorem failure_whenOk_enter {scope : Scope} {level : Nat} {next : Scope → Script}
    {reasons : List Error} (hscope : scope.nesting = level + 3)
    (hnext : ∀ inner : Scope, inner.nesting = level + 1 + 3 →
      (next inner).failure = reasons.head?) :
    (Script.whenOk scope.enter next).failure = (levelViolations level ++ reasons).head? := by
  have hmap : Script.whenOk scope.enter next =
      Script.whenOk scope.enterBlock fun inner ↦ next { inner with depth := scope.depth + 1 } := by
    rw [Scope.enter]
    cases scope.enterBlock <;> rfl
  rw [hmap]
  exact failure_whenOk_enterBlock hscope fun inner hinner ↦ hnext _ hinner

theorem failure_lowerStatement (scope : Scope) (level : Nat) (s : Statement)
    (hscope : scope.nesting = level + 3) :
    (lowerStatement scope s).failure = (statementViolations level s).head? := by
  have hverbatim (text : String) : Script.failure [.verbatim text] = none := rfl
  induction s using Statement.inductionOn generalizing scope level with
  | ifThen leading condition body trailing ih =>
    rw [lowerStatement, Script.failure_append, failure_openIf, Option.none_or, statementViolations]
    refine failure_whenOk_enter hscope fun inner hinner ↦ ?_
    rw [Script.failure_append, failure_closeIf, Option.or_none, ih inner (level + 1) hinner]
  | ifElse leading condition body elseLeading elseBody trailing ih ihElse =>
    rw [lowerStatement, Script.failure_append, failure_openIf, Option.none_or, statementViolations,
      List.append_assoc]
    refine failure_whenOk_enter hscope fun inner hinner ↦ ?_
    rw [Script.failure_append, Script.failure_append, Script.failure_append, failure_closeIf,
      Option.or_none, failure_elseLine, Option.or_none, ih inner (level + 1) hinner,
      ihElse inner (level + 1) hinner, List.head?_append]
  | ret leading value trailing =>
    rw [lowerStatement, Script.failure_append, Script.failure_append, failure_beginStatement,
      Option.none_or, failure_lowerReturn, hverbatim, Option.or_none, statementViolations]
  | locals leading declared trailing =>
    rw [lowerStatement, Script.failure_append, Script.failure_append, failure_beginStatement,
      Option.none_or, failure_lowerVariables, hverbatim, Option.or_none, statementViolations]
  | expression leading value trailing =>
    have hend : Script.failure [.terminator, .verbatim trailing.text] = none := rfl
    rw [lowerStatement, Script.failure_append, Script.failure_append, failure_beginStatement,
      Option.none_or, failure_lowerExpression, hend, Option.or_none, statementViolations]
  | block leading statements trailing ih =>
    rw [lowerStatement, statementViolations, statementsViolations_eq_flatMap]
    refine failure_whenOk_enterBlock hscope fun inner hinner ↦ ?_
    rw [Script.failure_append, failure_innerTrivia, Option.none_or, lowerStatements_eq_flatMap]
    refine Script.failure_flatMap _ _ _ fun s hs ↦ ?_
    exact ih s hs inner (level + 1) hinner
  | unsupported node => rfl

/-- Below the limit there is one more level to enter. -/
theorem Scope.exists_enter {scope : Scope} (h : scope.nesting < maxNesting) :
    ∃ inner, scope.enter = .ok inner ∧ inner.nesting = scope.nesting + 1 := by
  refine ⟨{ scope with nesting := scope.nesting + 1, depth := scope.depth + 1 }, ?_, rfl⟩
  rw [enter, enterBlock, if_pos h]
  rfl

theorem failure_lowerFunction (leading : Trivia) (header : String) (body : Block)
    (trailing : Trivia) (scope : Scope) (hscope : scope.nesting = 2) :
    (lowerFunction leading header body trailing scope).failure =
      (statementsViolations 0 body.statements).head? := by
  have hopen : Script.failure [.openLine scope.depth, .code header] = none := rfl
  have hclose : Script.failure [.openLine scope.depth, .code "\x7d;", .endLine] = none := rfl
  have hleading : Script.failure (if body.leading.hasComments then
      [.verbatim body.leading.trimmedEnd] else []) = none := by
    split <;> rfl
  obtain ⟨inner, henter, hinner⟩ :=
    Scope.exists_enter (show scope.nesting < maxNesting by rw [hscope]; decide)
  simp only [lowerFunction, lowerBody, henter, Script.whenOk, Script.failure_append, hopen, hclose,
    hleading, failure_headerTrivia, failure_closingTrivia, Option.none_or, Option.or_none]
  rw [lowerStatements_eq_flatMap, statementsViolations_eq_flatMap]
  exact Script.failure_flatMap _ _ _ fun s _ ↦
    failure_lowerStatement inner 0 s (by rw [hinner, hscope])

section Members

variable {scope : Scope} {className : String}

theorem failure_whenOk_declaredName (token : Token) (kind : Kind) (next : String → Script) :
    (Script.whenOk (declaredName token kind) next).failure =
      (nameViolations token kind).head?.or (next token.valueText).failure := by
  unfold declaredName nameViolations
  by_cases hname : token.valueText = ""
  · rw [if_pos (String.isEmpty_iff.mpr hname), if_pos hname]
    rfl
  · rw [if_neg (fun h ↦ hname (String.isEmpty_iff.mp h)), if_neg hname]
    rfl

theorem failure_whenOk_requiredBody {body : Option Block} {kind : Kind} {name : String}
    {next : Block → Script}
    (hnext : ∀ block, (next block).failure = (statementsViolations 0 block.statements).head?) :
    (Script.whenOk (requiredBody body kind name) next).failure =
      (bodyViolations body kind name).head? := by
  cases body with
  | none => rfl
  | some block => exact hnext block

theorem failure_lowerClassMember (hclass : scope.enclosingClass = some className)
    (hscope : scope.nesting = 1) (member : Declaration) :
    (lowerClassMember scope member).failure = (classMemberViolations className member).head? := by
  have henclosing (kind : Kind) : enclosingClass scope kind = .ok className := by
    rw [enclosingClass, hclass]
  obtain ⟨inner, henter, hinner⟩ :=
    Scope.exists_enter (show scope.nesting < maxNesting by rw [hscope]; decide)
  have hfunction (leading : Trivia) (header : String) (trailing : Trivia) (body : Block) :
      (Script.whenOk scope.enter fun inner ↦
        lowerFunction leading header body trailing inner).failure =
      (statementsViolations 0 body.statements).head? := by
    rw [henter]
    exact failure_lowerFunction leading header body trailing inner (by rw [hinner, hscope])
  cases member with
  | methodDecl node =>
    rw [lowerClassMember, lowerMethod, Script.failure_within, henclosing, Script.whenOk,
      failure_whenOk_declaredName, classMemberViolations, List.head?_append]
    congr 1
    exact failure_whenOk_requiredBody (hfunction _ _ _)
  | constructorDecl node =>
    rw [lowerClassMember, lowerConstructor, Script.failure_within, henclosing, Script.whenOk,
      classMemberViolations]
    exact failure_whenOk_requiredBody (hfunction _ _ _)
  | fieldDecl node =>
    have htrailing : Script.failure [.verbatim node.trailing.text] = none := rfl
    rw [lowerClassMember, lowerField, henclosing, Script.whenOk, henter, Script.whenOk,
      Script.failure_append, Script.failure_append, failure_beginStatement, Option.none_or,
      htrailing, Option.or_none, failure_lowerVariables, classMemberViolations]
  | namespaceDecl leading name members trailing => rfl
  | classDecl leading modifiers identifier members trailing => rfl
  | unsupported node => rfl

end Members

theorem failure_lowerNamespaceMember {options : Options} {scope : Scope} {namespaceName : String}
    (hnamespace : scope.enclosingNamespace = some namespaceName) (hscope : scope.nesting = 1)
    (member : Declaration) :
    (lowerNamespaceMember options scope member).failure =
      (namespaceMemberViolations member).head? := by
  cases member with
  | classDecl leading modifiers identifier members trailing =>
    have hopen (text : String) : Script.failure [.openLine scope.depth, .code text] = none := rfl
    have hclose (text : String) :
        Script.failure [.openLine scope.depth, .code text, .endLine] = none := rfl
    have hcall (call : Bool) (name : String) : Script.failure (if call then
        constructorCall options namespaceName name scope else []) = none := by
      cases call
      · rfl
      · exact failure_constructorCall _ _ _ _
    have hmembers := Script.failure_flatMap members
      (lowerClassMember (scope.inClass identifier.valueText))
      (classMemberViolations identifier.valueText)
      fun member _ ↦ @failure_lowerClassMember (scope.inClass identifier.valueText) _ rfl hscope
        member
    rw [lowerNamespaceMember, lowerClass, Script.failure_within, failure_whenOk_declaredName,
      namespaceMemberViolations, List.head?_append, hnamespace]
    simp only [Script.failure_append, failure_headerTrivia, failure_closingTrivia, hcall, hmembers,
      hopen, hclose, Option.none_or, Option.or_none]
  | namespaceDecl leading name members trailing => rfl
  | constructorDecl node => rfl
  | methodDecl node => rfl
  | fieldDecl node => rfl
  | unsupported node => rfl

theorem failure_lowerReferences {names : NodeNames} {options : Options} {scope : Scope}
    {namespaceName : String} (hnamespace : scope.enclosingNamespace = some namespaceName)
    (hscope : scope.nesting = 1) : (lowerReferences names options scope).failure = none := by
  have hnote : (referencesNote options scope).failure = none := by
    unfold referencesNote
    split <;> rfl
  have hlookups (depth : Nat) (list : List String) : Script.failure (list.flatMap
      fun name ↦ [.openLine depth, .code (lookup namespaceName name)]) = none := by
    induction list with
    | nil => rfl
    | cons name rest ih => exact ih
  unfold lowerReferences
  rw [hnamespace]
  simp only
  split
  next => rfl
  next =>
    obtain ⟨inner, henter, _⟩ :=
      Scope.exists_enter (show scope.nesting < maxNesting by rw [hscope]; decide)
    rw [henter]
    simp only [Script.whenOk, Script.failure_append_eq_none]
    exact ⟨⟨hnote, rfl⟩, hlookups _ _, rfl⟩

theorem failure_whenOk_namespaceName (token : Token) (next : String → Script) :
    (Script.whenOk (namespaceName token) next).failure =
      (namespaceNameViolations token).head?.or (next token.valueText).failure := by
  have hbind : Script.whenOk (namespaceName token) next =
      Script.whenOk (declaredName token .namespaceDeclaration) fun name ↦
        if name.toList.contains '.' then [.fail (.qualifiedNamespace name)] else next name := by
    unfold namespaceName
    cases declaredName token .namespaceDeclaration with
    | error error => rfl
    | ok name =>
      by_cases hdot : name.toList.contains '.' = true
      · simp only [bind, Except.bind, Script.whenOk, if_pos hdot]
      · simp only [bind, Except.bind, Script.whenOk, if_neg hdot]
  have hdotted : Script.failure (if token.valueText.toList.contains '.' then
      [.fail (.qualifiedNamespace token.valueText)] else next token.valueText) =
      (if '.' ∈ token.valueText.toList then [Error.qualifiedNamespace token.valueText] else
        []).head?.or (next token.valueText).failure := by
    by_cases hdot : '.' ∈ token.valueText.toList
    · rw [if_pos (List.contains_iff_mem.mpr hdot), if_pos hdot]
      rfl
    · rw [if_neg (fun h ↦ hdot (List.contains_iff_mem.mp h)), if_neg hdot]
      rfl
  rw [hbind, failure_whenOk_declaredName, namespaceNameViolations, List.head?_append,
    Option.or_assoc, hdotted]

theorem failure_lowerTopLevel (names : NodeNames) (options : Options) (member : Declaration) :
    (lowerTopLevel names options member).failure = (topLevelViolations member).head? := by
  cases member with
  | namespaceDecl leading name members trailing =>
    obtain ⟨inner, henter, hinner⟩ :=
      Scope.exists_enter (show Scope.root.nesting < maxNesting by decide)
    have hopen (text : String) (depth : Nat) :
        Script.failure [.openLine depth, .code text] = none := rfl
    have hclose (text : String) (depth : Nat) :
        Script.failure [.openLine depth, .code text, .endLine] = none := rfl
    have hreferences := @failure_lowerReferences names options
      (inner.inNamespace name.valueText) name.valueText rfl hinner
    have hmembers := Script.failure_flatMap members
      (lowerNamespaceMember options (inner.inNamespace name.valueText)) namespaceMemberViolations
      fun member _ ↦ @failure_lowerNamespaceMember options (inner.inNamespace name.valueText) _ rfl
        hinner member
    rw [lowerTopLevel, lowerNamespace, Script.failure_within, failure_whenOk_namespaceName,
      topLevelViolations, List.head?_append, henter]
    simp only [Script.whenOk, Script.failure_append, failure_headerTrivia, failure_closingTrivia,
      hopen, hclose, hreferences, hmembers, Option.none_or, Option.or_none]
  | classDecl leading modifiers identifier members trailing => rfl
  | constructorDecl node => rfl
  | methodDecl node => rfl
  | fieldDecl node => rfl
  | unsupported node => rfl

theorem failure_lowerUnit (names : NodeNames) (options : Options) (unit : CompilationUnit) :
    (lowerUnit names options unit).failure = (violations unit).head? := by
  have hend : Script.failure [.endLine] = none := rfl
  rw [lowerUnit, Script.failure_append, hend, Option.or_none, violations]
  exact Script.failure_flatMap _ _ _ fun member _ ↦ failure_lowerTopLevel names options member

/-! ## Accepted files are the files without violations -/

theorem flatMap_expressionViolations_eq_nil (es : List Expression) :
    es.flatMap expressionViolations = [] ↔ ∀ e ∈ es, AcceptedExpression e := by
  rw [List.flatMap_eq_nil_iff]
  refine forall₂_congr fun e _ ↦ ?_
  unfold expressionViolations AcceptedExpression
  split <;> simp_all

theorem levelViolations_eq_nil (level : Nat) :
    levelViolations level = [] ↔ level < maxBodyHeight := by
  unfold levelViolations
  split <;> simp_all

/-- A conditional or block adds one to the height of what it holds. -/
theorem nested_iff {level height : Nat} {inside rest : Prop}
    (h : level < maxBodyHeight → (inside ↔ level + 1 + height ≤ maxBodyHeight ∧ rest)) :
    level < maxBodyHeight ∧ inside ↔ level + (height + 1) ≤ maxBodyHeight ∧ rest := by
  constructor
  · rintro ⟨hlevel, hinside⟩
    obtain ⟨hheight, hrest⟩ := (h hlevel).mp hinside
    exact ⟨by omega, hrest⟩
  · rintro ⟨hheight, hrest⟩
    exact ⟨by omega, (h (by omega)).mpr ⟨by omega, hrest⟩⟩

theorem statementViolations_eq_nil (level : Nat) (s : Statement) (hlevel : level ≤ maxBodyHeight) :
    statementViolations level s = [] ↔
      level + s.height ≤ maxBodyHeight ∧ ∀ e ∈ s.rewritten, AcceptedExpression e := by
  induction s using Statement.inductionOn generalizing level with
  | ifThen leading condition body trailing ih =>
    rw [statementViolations, List.append_eq_nil_iff, levelViolations_eq_nil, Statement.height,
      Statement.rewritten]
    exact nested_iff fun hdeep ↦ ih (level + 1) hdeep
  | ifElse leading condition body elseLeading elseBody trailing ih ihElse =>
    rw [statementViolations, List.append_assoc, List.append_eq_nil_iff, List.append_eq_nil_iff,
      levelViolations_eq_nil, Statement.height, Statement.rewritten, List.forall_mem_append]
    refine nested_iff fun hdeep ↦ ?_
    rw [ih (level + 1) hdeep, ihElse (level + 1) hdeep, ← Nat.add_max_add_left, Nat.max_le,
      and_and_and_comm]
  | ret leading value trailing =>
    rw [statementViolations, flatMap_expressionViolations_eq_nil, Statement.height,
      Statement.rewritten]
    exact (and_iff_right hlevel).symm
  | locals leading declared trailing =>
    rw [statementViolations, flatMap_expressionViolations_eq_nil, Statement.height,
      Statement.rewritten]
    exact (and_iff_right hlevel).symm
  | expression leading value trailing =>
    rw [statementViolations, ← List.flatMap_singleton expressionViolations value,
      flatMap_expressionViolations_eq_nil, Statement.height, Statement.rewritten]
    exact (and_iff_right hlevel).symm
  | block leading statements trailing ih =>
    rw [statementViolations, List.append_eq_nil_iff, levelViolations_eq_nil,
      statementsViolations_eq_flatMap, List.flatMap_eq_nil_iff, Statement.height,
      Statement.rewritten, Statement.rewrittenInAll_eq_flatMap]
    refine nested_iff fun hdeep ↦ ?_
    have hmembers : (∀ s ∈ statements, statementViolations (level + 1) s = []) ↔
        (∀ s ∈ statements, s.height ≤ maxBodyHeight - (level + 1)) ∧
          ∀ s ∈ statements, ∀ e ∈ s.rewritten, AcceptedExpression e := by
      rw [← forall₂_and]
      refine forall₂_congr fun s hs ↦ ?_
      rw [ih s hs (level + 1) hdeep, Nat.le_sub_iff_add_le' hdeep]
    rw [hmembers, ← Statement.heights_le_iff, Nat.le_sub_iff_add_le' hdeep, List.forall_mem_flatMap]
  | unsupported node =>
    rw [statementViolations, Statement.height, Statement.rewritten]
    simpa using hlevel

theorem statementsViolations_eq_nil (statements : List Statement) :
    statementsViolations 0 statements = [] ↔
      ∀ s ∈ statements, s.height ≤ maxBodyHeight ∧ ∀ e ∈ s.rewritten, AcceptedExpression e := by
  rw [statementsViolations_eq_flatMap, List.flatMap_eq_nil_iff]
  refine forall₂_congr fun s _ ↦ ?_
  rw [statementViolations_eq_nil 0 s (Nat.zero_le _), Nat.zero_add]

theorem nameViolations_eq_nil (token : Token) (kind : Kind) :
    nameViolations token kind = [] ↔ token.valueText ≠ "" := by
  unfold nameViolations
  split <;> simp_all

theorem bodyViolations_eq_nil (body : Option Block) (kind : Kind) (name : String) :
    bodyViolations body kind name = [] ↔ AcceptedBody body := by
  cases body with
  | none => simp [bodyViolations, AcceptedBody]
  | some block =>
    rw [bodyViolations, statementsViolations_eq_nil, AcceptedBody]
    simp

theorem classMemberViolations_eq_nil (className : String) (member : Declaration) :
    classMemberViolations className member = [] ↔ AcceptedClassMember member := by
  cases member with
  | methodDecl node =>
    rw [classMemberViolations, List.append_eq_nil_iff, nameViolations_eq_nil, bodyViolations_eq_nil,
      AcceptedClassMember]
  | constructorDecl node => exact bodyViolations_eq_nil _ _ _
  | fieldDecl node => exact flatMap_expressionViolations_eq_nil _
  | namespaceDecl leading name members trailing => simp [classMemberViolations, AcceptedClassMember]
  | classDecl leading modifiers identifier members trailing =>
    simp [classMemberViolations, AcceptedClassMember]
  | unsupported node => simp [classMemberViolations, AcceptedClassMember]

theorem namespaceMemberViolations_eq_nil (member : Declaration) :
    namespaceMemberViolations member = [] ↔ AcceptedNamespaceMember member := by
  cases member with
  | classDecl leading modifiers identifier members trailing =>
    rw [namespaceMemberViolations, List.append_eq_nil_iff, nameViolations_eq_nil,
      List.flatMap_eq_nil_iff, AcceptedNamespaceMember]
    simp only [classMemberViolations_eq_nil]
  | namespaceDecl leading name members trailing =>
    simp [namespaceMemberViolations, AcceptedNamespaceMember]
  | constructorDecl node => simp [namespaceMemberViolations, AcceptedNamespaceMember]
  | methodDecl node => simp [namespaceMemberViolations, AcceptedNamespaceMember]
  | fieldDecl node => simp [namespaceMemberViolations, AcceptedNamespaceMember]
  | unsupported node => simp [namespaceMemberViolations, AcceptedNamespaceMember]

theorem topLevelViolations_eq_nil (member : Declaration) :
    topLevelViolations member = [] ↔ AcceptedTopLevel member := by
  cases member with
  | namespaceDecl leading name members trailing =>
    rw [topLevelViolations, namespaceNameViolations, List.append_eq_nil_iff, List.append_eq_nil_iff,
      nameViolations_eq_nil, List.flatMap_eq_nil_iff, AcceptedTopLevel, and_assoc]
    simp only [namespaceMemberViolations_eq_nil]
    simp
  | classDecl leading modifiers identifier members trailing =>
    simp [topLevelViolations, AcceptedTopLevel]
  | constructorDecl node => simp [topLevelViolations, AcceptedTopLevel]
  | methodDecl node => simp [topLevelViolations, AcceptedTopLevel]
  | fieldDecl node => simp [topLevelViolations, AcceptedTopLevel]
  | unsupported node => simp [topLevelViolations, AcceptedTopLevel]

theorem violations_eq_nil (unit : CompilationUnit) : violations unit = [] ↔ Accepted unit := by
  rw [violations, List.flatMap_eq_nil_iff, Accepted]
  exact forall₂_congr fun member _ ↦ topLevelViolations_eq_nil member

/-! ## What a violation can be -/

/-- The errors that a file itself can give. -/
def Error.isViolation : Error → Bool
  | missingBody .. => true
  | emptyIdentifier _ => true
  | qualifiedNamespace _ => true
  | nestingTooDeep => true
  | expressionTooDeep => true
  | outsideScope .. => false
  | invalidNodeName _ => false
  | duplicateNodeName _ => false
  | sink => false

theorem isViolation_expressionViolations (e : Expression) :
    ∀ error ∈ expressionViolations e, error.isViolation = true := by
  unfold expressionViolations
  split <;> simp [Error.isViolation]

theorem isViolation_statementViolations (level : Nat) (s : Statement) :
    ∀ error ∈ statementViolations level s, error.isViolation = true := by
  have hlevel (level : Nat) : ∀ error ∈ levelViolations level, error.isViolation = true := by
    unfold levelViolations
    split <;> simp [Error.isViolation]
  induction s using Statement.inductionOn generalizing level with
  | ifThen leading condition body trailing ih =>
    rw [statementViolations, List.forall_mem_append]
    exact ⟨hlevel level, ih _⟩
  | ifElse leading condition body elseLeading elseBody trailing ih ihElse =>
    rw [statementViolations, List.forall_mem_append, List.forall_mem_append]
    exact ⟨⟨hlevel level, ih _⟩, ihElse _⟩
  | ret leading value trailing =>
    rw [statementViolations, List.forall_mem_flatMap]
    exact fun e _ ↦ isViolation_expressionViolations e
  | locals leading declared trailing =>
    rw [statementViolations, List.forall_mem_flatMap]
    exact fun e _ ↦ isViolation_expressionViolations e
  | expression leading value trailing =>
    rw [statementViolations]
    exact isViolation_expressionViolations value
  | block leading statements trailing ih =>
    rw [statementViolations, statementsViolations_eq_flatMap, List.forall_mem_append,
      List.forall_mem_flatMap]
    exact ⟨hlevel level, fun s hs ↦ ih s hs _⟩
  | unsupported node => simp [statementViolations]

theorem isViolation_bodyViolations (body : Option Block) (kind : Kind) (name : String) :
    ∀ error ∈ bodyViolations body kind name, error.isViolation = true := by
  cases body with
  | none => simp [bodyViolations, Error.isViolation]
  | some block =>
    rw [bodyViolations, statementsViolations_eq_flatMap, List.forall_mem_flatMap]
    exact fun s _ ↦ isViolation_statementViolations 0 s

theorem isViolation_nameViolations (token : Token) (kind : Kind) :
    ∀ error ∈ nameViolations token kind, error.isViolation = true := by
  unfold nameViolations
  split <;> simp [Error.isViolation]

theorem isViolation_classMemberViolations (className : String) (member : Declaration) :
    ∀ error ∈ classMemberViolations className member, error.isViolation = true := by
  cases member with
  | methodDecl node =>
    rw [classMemberViolations, List.forall_mem_append]
    exact ⟨isViolation_nameViolations _ _, isViolation_bodyViolations _ _ _⟩
  | constructorDecl node => exact isViolation_bodyViolations _ _ _
  | fieldDecl node =>
    rw [classMemberViolations, List.forall_mem_flatMap]
    exact fun e _ ↦ isViolation_expressionViolations e
  | namespaceDecl leading name members trailing => simp [classMemberViolations]
  | classDecl leading modifiers identifier members trailing => simp [classMemberViolations]
  | unsupported node => simp [classMemberViolations]

theorem isViolation_namespaceMemberViolations (member : Declaration) :
    ∀ error ∈ namespaceMemberViolations member, error.isViolation = true := by
  cases member with
  | classDecl leading modifiers identifier members trailing =>
    rw [namespaceMemberViolations, List.forall_mem_append, List.forall_mem_flatMap]
    exact ⟨isViolation_nameViolations _ _,
      fun member _ ↦ isViolation_classMemberViolations _ member⟩
  | namespaceDecl leading name members trailing => simp [namespaceMemberViolations]
  | constructorDecl node => simp [namespaceMemberViolations]
  | methodDecl node => simp [namespaceMemberViolations]
  | fieldDecl node => simp [namespaceMemberViolations]
  | unsupported node => simp [namespaceMemberViolations]

theorem isViolation_violations (unit : CompilationUnit) :
    ∀ error ∈ violations unit, error.isViolation = true := by
  rw [violations, List.forall_mem_flatMap]
  intro member _
  cases member with
  | namespaceDecl leading name members trailing =>
    rw [topLevelViolations, namespaceNameViolations, List.forall_mem_append, List.forall_mem_append,
      List.forall_mem_flatMap]
    refine ⟨⟨isViolation_nameViolations _ _, ?_⟩,
      fun member _ ↦ isViolation_namespaceMemberViolations member⟩
    split <;> simp [Error.isViolation]
  | classDecl leading modifiers identifier members trailing => simp [topLevelViolations]
  | constructorDecl node => simp [topLevelViolations]
  | methodDecl node => simp [topLevelViolations]
  | fieldDecl node => simp [topLevelViolations]
  | unsupported node => simp [topLevelViolations]

end Lowering

open Lowering

theorem emit_eq_error_iff_violation {unit : Source.CompilationUnit} {names : NodeNames}
    {options : Options} {error : Lowering.Error} :
    emit unit names options = .error error ↔ (violations unit).head? = some error := by
  rw [emit_eq_error_iff, failure_lowerUnit]

theorem exists_emit_eq_ok_iff {unit : Source.CompilationUnit} {names : NodeNames}
    {options : Options} :
    (∃ text, emit unit names options = .ok text) ↔ Accepted unit := by
  rw [← violations_eq_nil, ← List.head?_eq_none_iff, ← failure_lowerUnit names options, emit_eq]
  cases (lowerUnit names options unit).failure <;> simp

/-- Emitting accepts exactly the accepted files, and gives the first violation of any other.  No
error is about scopes or the sink, and neither the node names nor the options make a difference. -/
theorem emit_outcome (unit : Source.CompilationUnit) (names : NodeNames) (options : Options) :
    ((∃ text, emit unit names options = .ok text) ↔ Accepted unit) ∧
      (∀ error, emit unit names options = .error error ↔
        (violations unit).head? = some error) ∧
      (∀ kind enclosure, emit unit names options ≠ .error (.outsideScope kind enclosure)) ∧
      emit unit names options ≠ .error .sink ∧
      ∀ names' options' error, emit unit names options = .error error ↔
        emit unit names' options' = .error error := by
  have hkind (error : Lowering.Error) (h : emit unit names options = .error error) :
      error.isViolation = true := by
    apply isViolation_violations unit
    exact List.mem_of_mem_head? (emit_eq_error_iff_violation.mp h)
  refine ⟨exists_emit_eq_ok_iff, fun error ↦ emit_eq_error_iff_violation, ?_, ?_, ?_⟩
  · intro kind enclosure h
    cases hkind _ h
  · intro h
    cases hkind _ h
  · intro names' options' error
    rw [emit_eq_error_iff_violation, emit_eq_error_iff_violation]

end CodeBehind
