import CodeBehind.Proofs.Acceptance
import CodeBehind.Proofs.Inversion
import Mathlib.Data.List.Basic

/-!
# What the log accounts for

A lowering visits the children of a file in pre-order and looks only inside of those that it lowers.
Each visit has entries for the log and checks that may fail, in a fixed order.  The log is all
entries of all visits up to the first check that fails.  A child that is not lowered has exactly one
entry, which says so, and a child that is lowered has no such entry.
-/

namespace CodeBehind

namespace Lowering

open Source

/-! ## Entries of scripts -/

def Step.entry? : Step → Option Entry
  | log entry => some entry
  | _ => none

/-- The entry inside of `depth` declarations. -/
def Entry.inside (depth : Nat) (entry : Entry) : Entry :=
  { entry with depth := depth + entry.depth }

def Step.isWrite : Step → Bool
  | write _ => true
  | _ => false

/-- A script that neither keeps a log nor fails. -/
def Script.Mute (script : Script) : Prop :=
  script.all Step.isWrite = true

namespace Script

theorem entries_append (a b : Script) :
    (a ++ b).entries = a.entries ++ if a.failure = none then b.entries else [] := by
  induction a with
  | nil => simp [entries, failure]
  | cons step rest ih =>
    cases step with
    | fail error => simp [entries, failure]
    | write instruction => exact ih
    | log entry => exact congrArg (entry :: ·) ih

theorem entries_map_deepen (s : Script) :
    Script.entries (s.map Step.deepen) = s.entries.map Entry.deepen := by
  induction s with
  | nil => rfl
  | cons step rest ih =>
    cases step with
    | fail error => rfl
    | write instruction => exact ih
    | log entry => exact congrArg (entry.deepen :: ·) ih

theorem entries_eq_filterMap {s : Script} (h : s.failure = none) :
    s.entries = s.filterMap Step.entry? := by
  induction s with
  | nil => rfl
  | cons step rest ih =>
    cases step with
    | fail error => cases h
    | write instruction => exact ih h
    | log entry => exact congrArg (entry :: ·) (ih h)

/-- A script that fails consists of what comes before the failure and of what is never reached. -/
theorem exists_of_failure {s : Script} {error : Error} (h : s.failure = some error) :
    ∃ before after, s = before ++ .fail error :: after ∧ Script.failure before = none ∧
      s.entries = before.filterMap Step.entry? := by
  induction s with
  | nil => cases h
  | cons step rest ih =>
    cases step with
    | fail found =>
      obtain rfl : found = error := Option.some.inj h
      exact ⟨[], rest, rfl, rfl, rfl⟩
    | write instruction =>
      obtain ⟨before, after, rfl, hnone, hentries⟩ := ih h
      exact ⟨.write instruction :: before, after, rfl, hnone, hentries⟩
    | log entry =>
      obtain ⟨before, after, rfl, hnone, hentries⟩ := ih h
      exact ⟨.log entry :: before, after, rfl, hnone, congrArg (entry :: ·) hentries⟩

end Script

/-! ## Reports -/

/-- Inside of `depth` declarations a script keeps the log of the report, and fails as the report
does. -/
structure Script.Reports (depth : Nat) (script report : Script) : Prop where
  entries_eq : report.entries = script.entries.map (Entry.inside depth)
  failure_eq : report.failure = script.failure

namespace Script

variable {depth : Nat} {a b r q : Script}

theorem Mute.reports (h : a.Mute) : a.Reports depth [] := by
  induction a with
  | nil => exact ⟨rfl, rfl⟩
  | cons step rest ih =>
    cases step with
    | write instruction => exact ⟨(ih h).entries_eq, (ih h).failure_eq⟩
    | log entry => cases h
    | fail error => cases h

namespace Reports

theorem append (ha : a.Reports depth r) (hb : b.Reports depth q) :
    (a ++ b).Reports depth (r ++ q) := by
  constructor
  · rw [entries_append, entries_append, List.map_append, ha.entries_eq, ha.failure_eq,
      hb.entries_eq]
    split <;> rfl
  · rw [failure_append, failure_append, ha.failure_eq, hb.failure_eq]

theorem mute_append (hb : b.Reports depth q) (ha : a.Mute) : (a ++ b).Reports depth q :=
  ha.reports.append hb

theorem append_mute (ha : a.Reports depth r) (hb : b.Mute) : (a ++ b).Reports depth r := by
  have happend := ha.append hb.reports
  rwa [List.append_nil] at happend

theorem flatMap {α : Type} {xs : List α} {part report : α → Script}
    (h : ∀ x ∈ xs, (part x).Reports depth (report x)) :
    Reports depth (xs.flatMap part) (xs.flatMap report) := by
  induction xs with
  | nil => exact ⟨rfl, rfl⟩
  | cons x rest ih =>
    obtain ⟨hx, hrest⟩ := List.forall_mem_cons.mp h
    exact hx.append (ih hrest)

theorem note (event : Event) : Reports depth [.note event] [.log ⟨depth, event⟩] :=
  ⟨rfl, rfl⟩

/-- What a declaration encloses is one level deeper. -/
theorem within {event : Event} (h : a.Reports (depth + 1) r) :
    (Script.within event a).Reports depth (.log ⟨depth, event⟩ :: r) := by
  constructor
  · change _ :: r.entries = _ :: (Script.entries (a.map Step.deepen)).map _
    rw [entries_map_deepen, List.map_map, h.entries_eq]
    refine congrArg₂ List.cons rfl (List.map_congr_left fun entry _ ↦ ?_)
    simp [Entry.inside, Entry.deepen, Nat.add_assoc, Nat.add_comm 1]
  · rw [failure_within]
    exact h.failure_eq

end Reports

end Script

/-- The checks that fail, as steps. -/
def failing (errors : List Error) : Script :=
  errors.map .fail

/-- A script that goes on only after a check reports the check first. -/
theorem Script.Reports.whenOk {α : Type} {depth : Nat} {value : Except Error α} {next : α → Script}
    {errors : List Error} {report : Script}
    (herrors : (Script.whenOk value fun _ ↦ []).failure = errors.head?)
    (hnext : ∀ a, value = .ok a → (next a).Reports depth report) :
    (Script.whenOk value next).Reports depth (failing errors ++ report) := by
  cases value with
  | error error =>
    obtain ⟨rest, rfl⟩ := List.head?_eq_some_iff.mp herrors.symm
    exact ⟨rfl, rfl⟩
  | ok a =>
    obtain rfl := List.head?_eq_none_iff.mp herrors.symm
    exact hnext a rfl

/-! ## Visits -/

/-- A child of a file, of a declaration or of a statement, where it is visited. -/
inductive Visit where
  | topLevel (member : Declaration)
  | namespaceMember (member : Declaration)
  | classMember (className : String) (member : Declaration)
  /-- A statement inside of `level` conditionals and blocks of a body. -/
  | statement (level : Nat) (s : Statement)

mutual

/-- The visits to what is inside of a statement. -/
def visitsBelow (level : Nat) : Statement → List Visit
  | .ifThen _ _ body _ => .statement (level + 1) body :: visitsBelow (level + 1) body
  | .ifElse _ _ body _ elseBody _ =>
    .statement (level + 1) body :: visitsBelow (level + 1) body ++
      .statement (level + 1) elseBody :: visitsBelow (level + 1) elseBody
  | .block _ statements _ => statementsVisits (level + 1) statements
  | .ret .. => []
  | .locals .. => []
  | .expression .. => []
  | .unsupported _ => []

def statementsVisits (level : Nat) : List Statement → List Visit
  | [] => []
  | first :: rest =>
    .statement level first :: visitsBelow level first ++ statementsVisits level rest

end

def bodyVisits (body : Option Block) : List Visit :=
  body.elim [] fun block ↦ statementsVisits 0 block.statements

def classMemberVisits (className : String) (member : Declaration) : List Visit :=
  .classMember className member ::
    match member with
    | .methodDecl node => bodyVisits node.body
    | .constructorDecl node => bodyVisits node.body
    | _ => []

def namespaceMemberVisits (member : Declaration) : List Visit :=
  .namespaceMember member ::
    match member with
    | .classDecl _ _ identifier members _ =>
      members.flatMap (classMemberVisits identifier.valueText)
    | _ => []

def topLevelVisits (member : Declaration) : List Visit :=
  .topLevel member ::
    match member with
    | .namespaceDecl _ _ members _ => members.flatMap namespaceMemberVisits
    | _ => []

/-- All visits to the children of a file, in pre-order. -/
def visits (unit : CompilationUnit) : List Visit :=
  unit.members.flatMap topLevelVisits

theorem statementsVisits_eq_flatMap (level : Nat) (statements : List Statement) :
    statementsVisits level statements =
      statements.flatMap fun s ↦ .statement level s :: visitsBelow level s := by
  induction statements with
  | nil => rw [statementsVisits, List.flatMap_nil]
  | cons first rest ih => rw [statementsVisits, ih, List.flatMap_cons]

/-! ## The report of a visit -/

/-- A compound assignment that is rewritten has an entry.  The check of the depth comes before what
is inside. -/
def expressionReport (depth level : Nat) (e : Expression) : Script :=
  failing (if level > maxExpressionDepth then [.expressionTooDeep] else []) ++
    match e with
    | .assignment left _ right =>
      expressionReport depth (level + 1) left ++ expressionReport depth (level + 1) right
    | .compound .. =>
      [.log ⟨depth, .compoundLeft (String.ofList (Text.singleLine e.text.toList))⟩]
    | .cast _ _ _ operand => expressionReport depth (level + 1) operand
    | .verbatim _ => []

def variablesReport (depth : Nat) (declared : Variables) : Script :=
  .log ⟨depth, .declared declared.type.kind declared.declarators.length⟩ ::
    declared.values.flatMap (expressionReport depth 0)

/-- A member without a body. -/
def absentBody (body : Option Block) (kind : Kind) (name : String) : List Error :=
  if body.isNone then [.missingBody kind name] else []

/-- The entries of a visit and its checks that fail, in order. -/
def Visit.report (names : NodeNames) : Visit → Script
  | topLevel (.namespaceDecl _ name _ _) =>
    .log ⟨0, .enteredNamespace name.valueText⟩ :: failing (namespaceNameViolations name) ++
      if names.names.isEmpty then [.log ⟨1, .noNodeNames name.valueText⟩] else []
  | topLevel other => [.log ⟨0, .skippedTopLevel other.kind⟩]
  | namespaceMember (.classDecl _ _ identifier _ _) =>
    .log ⟨1, .enteredClass identifier.valueText⟩ ::
      failing (nameViolations identifier .classDeclaration)
  | namespaceMember other => [.log ⟨1, .skippedNamespaceMember other.kind⟩]
  | classMember _ (.methodDecl node) =>
    .log ⟨2, .enteredMethod node.identifier.valueText⟩ ::
      failing (nameViolations node.identifier .methodDeclaration) ++
      failing (absentBody node.body .methodDeclaration node.identifier.valueText)
  | classMember className (.constructorDecl node) =>
    .log ⟨2, .enteredConstructor node.identifier.valueText⟩ ::
      failing (absentBody node.body .constructorDeclaration className)
  | classMember _ (.fieldDecl node) => variablesReport 2 node.declared
  | classMember _ other => [.log ⟨2, .skippedClassMember other.kind⟩]
  | statement level (.ifThen ..) => failing (levelViolations level)
  | statement level (.ifElse ..) => failing (levelViolations level)
  | statement level (.block ..) => failing (levelViolations level)
  | statement _ (.ret _ value _) => value.toList.flatMap (expressionReport 3 0)
  | statement _ (.locals _ declared _) => variablesReport 3 declared
  | statement _ (.expression _ value _) => expressionReport 3 0 value
  | statement _ (.unsupported node) => [.log ⟨3, .skippedStatement node.nodeKind⟩]

/-! ## Scripts that only write -/

section Mute

theorem mute_nil : Script.Mute [] := rfl

theorem Script.Mute.append {a b : Script} (ha : a.Mute) (hb : b.Mute) : (a ++ b).Mute := by
  unfold Mute at *
  rw [List.all_append, ha, hb]
  rfl

theorem mute_headerTrivia (trivia : Trivia) : (headerTrivia trivia).Mute := by
  rcases headerTrivia_cases trivia with ⟨hnil, _⟩ | htext
  · rw [hnil]
    exact mute_nil
  · have hbreaks (n : Nat) : Script.Mute (.endLine :: List.replicate n .breakLine) := by
      induction n with
      | zero => rfl
      | succ n ih => exact ih
    rw [htext]
    exact (hbreaks _).append rfl

theorem mute_innerTrivia (trivia : Trivia) : (innerTrivia trivia).Mute := by
  unfold innerTrivia
  split
  · exact mute_headerTrivia trivia
  · exact mute_nil

theorem mute_closingTrivia (trivia : Trivia) : (closingTrivia trivia).Mute := by
  unfold closingTrivia
  split <;> rfl

theorem mute_beginStatement (leading : Trivia) (scope : Scope) :
    (beginStatement leading scope).Mute := by
  unfold beginStatement
  split
  · rfl
  · split <;> rfl

theorem mute_operandTrivia (operand : Expression) : (operandTrivia operand).Mute := by
  unfold operandTrivia
  split <;> rfl

theorem mute_openIf (leading : Trivia) (condition : Expression) (scope : Scope) :
    (openIf leading condition scope).Mute :=
  (mute_beginStatement leading scope).append rfl

theorem mute_elseLine (leading : Trivia) (scope : Scope) : (elseLine leading scope).Mute :=
  (mute_innerTrivia leading).append rfl

theorem mute_closeIf (trailing : Trivia) (scope : Scope) : (closeIf trailing scope).Mute :=
  rfl

theorem mute_constructorCall (options : Options) (namespaceName name : String) (scope : Scope) :
    (constructorCall options namespaceName name scope).Mute := by
  refine Script.Mute.append ?_ rfl
  split <;> rfl

end Mute

/-! ## Lowerings keep to the reports -/

theorem reports_lowerExpressionAt (depth level : Nat) (e : Expression) :
    (lowerExpressionAt level e).Reports depth (expressionReport depth level e) := by
  induction e generalizing level with
  | assignment left operator right ihLeft ihRight =>
    rw [lowerExpressionAt, expressionReport]
    split
    next => exact ⟨rfl, rfl⟩
    next =>
      have hoperator : Script.Mute [.verbatim operator.leading.text, .code operator.text,
        .verbatim operator.trailing.text] := rfl
      have hleft :=
        ((ihLeft (level + 1)).append_mute (mute_operandTrivia left)).append_mute hoperator
      exact (hleft.append (ihRight (level + 1))).append_mute (mute_operandTrivia right)
  | compound left operator right =>
    rw [lowerExpressionAt, expressionReport]
    split <;> exact ⟨rfl, rfl⟩
  | cast opening type closing operand ih =>
    rw [lowerExpressionAt, expressionReport]
    split
    next => exact ⟨rfl, rfl⟩
    next => exact .mute_append (a := [.separate]) (ih (level + 1)) rfl
  | verbatim token =>
    rw [lowerExpressionAt, expressionReport]
    split <;> exact ⟨rfl, rfl⟩

section Values

variable (depth : Nat)

theorem reports_terminated (text : String) (value : Expression) :
    Script.Reports depth (.code text :: lowerExpression value ++ [.terminator])
      (expressionReport depth 0 value) := by
  have hcode : Script.Mute [.code text] := rfl
  exact ((reports_lowerExpressionAt depth 0 value).mute_append hcode).append_mute rfl

theorem reports_lowerReturn (value : Option Expression) :
    (lowerReturn value).Reports depth (value.toList.flatMap (expressionReport depth 0)) := by
  cases value with
  | none => exact ⟨rfl, rfl⟩
  | some value =>
    rw [Option.toList_some, List.flatMap_singleton]
    exact reports_terminated depth _ value

theorem reports_lowerDeclarator (declarator : Declarator) :
    (lowerDeclarator declarator).Reports depth
      (declarator.initializer.toList.flatMap (expressionReport depth 0)) := by
  unfold lowerDeclarator
  cases declarator.initializer with
  | none => exact ⟨rfl, rfl⟩
  | some value =>
    rw [Option.toList_some, List.flatMap_singleton]
    exact reports_terminated depth _ value

theorem reports_lowerVariables (declared : Variables) :
    (lowerVariables declared).Reports depth (variablesReport depth declared) := by
  have hvalues : declared.values.flatMap (expressionReport depth 0) = declared.declarators.flatMap
      fun declarator ↦ declarator.initializer.toList.flatMap (expressionReport depth 0) := by
    rw [Variables.values]
    induction declared.declarators with
    | nil => rfl
    | cons first rest ih => cases hfirst : first.initializer <;> simp [hfirst, ih]
  rw [variablesReport, hvalues]
  exact (Script.Reports.note _).append
    (.flatMap fun declarator _ ↦ reports_lowerDeclarator depth declarator)

end Values

namespace Scope

variable {scope inner : Scope}

theorem nesting_of_enterBlock (h : scope.enterBlock = .ok inner) :
    inner.nesting = scope.nesting + 1 := by
  unfold enterBlock at h
  split at h
  · rw [← Except.ok.inj h]
  · cases h

theorem nesting_of_enter (h : scope.enter = .ok inner) : inner.nesting = scope.nesting + 1 := by
  unfold enter at h
  cases hblock : scope.enterBlock with
  | error error =>
    rw [hblock] at h
    cases h
  | ok block =>
    have hnesting := nesting_of_enterBlock hblock
    rw [hblock] at h
    rw [← Except.ok.inj h]
    exact hnesting

end Scope

section Bodies

variable (names : NodeNames)

/-- One level more is entered after a check. -/
theorem reports_whenOk_enterBlock {scope : Scope} {level depth : Nat} {next : Scope → Script}
    {report : Script} (hscope : scope.nesting = level + 3)
    (hnext : ∀ inner : Scope, inner.nesting = level + 1 + 3 → (next inner).Reports depth report) :
    (Script.whenOk scope.enterBlock next).Reports depth
      (failing (levelViolations level) ++ report) := by
  refine .whenOk ?_ fun inner hinner ↦ hnext inner ?_
  · rw [← List.append_nil (levelViolations level)]
    exact failure_whenOk_enterBlock hscope fun _ _ ↦ rfl
  · rw [Scope.nesting_of_enterBlock hinner]
    omega

theorem reports_whenOk_enter {scope : Scope} {level depth : Nat} {next : Scope → Script}
    {report : Script} (hscope : scope.nesting = level + 3)
    (hnext : ∀ inner : Scope, inner.nesting = level + 1 + 3 → (next inner).Reports depth report) :
    (Script.whenOk scope.enter next).Reports depth (failing (levelViolations level) ++ report) := by
  refine .whenOk ?_ fun inner hinner ↦ hnext inner ?_
  · rw [← List.append_nil (levelViolations level)]
    exact failure_whenOk_enter hscope fun _ _ ↦ rfl
  · rw [Scope.nesting_of_enter hinner]
    omega

/-- A statement reports its own visit and then the visits below it. -/
theorem reports_lowerStatement (scope : Scope) (level : Nat) (s : Statement)
    (hscope : scope.nesting = level + 3) :
    (lowerStatement scope s).Reports 3
      ((Visit.statement level s :: visitsBelow level s).flatMap (Visit.report names)) := by
  induction s using Statement.inductionOn generalizing scope level with
  | ifThen leading condition body trailing ih =>
    rw [lowerStatement, visitsBelow, List.flatMap_cons, Visit.report]
    refine .mute_append (reports_whenOk_enter hscope fun inner hinner ↦ ?_) (mute_openIf ..)
    exact (ih inner (level + 1) hinner).append_mute (mute_closeIf ..)
  | ifElse leading condition body elseLeading elseBody trailing ih ihElse =>
    rw [lowerStatement, visitsBelow, List.flatMap_cons, Visit.report, List.flatMap_append]
    refine .mute_append (reports_whenOk_enter hscope fun inner hinner ↦ ?_) (mute_openIf ..)
    have hbody := (ih inner (level + 1) hinner).append_mute (mute_elseLine elseLeading scope)
    exact (hbody.append (ihElse inner (level + 1) hinner)).append_mute (mute_closeIf ..)
  | ret leading value trailing =>
    rw [lowerStatement, visitsBelow, List.flatMap_singleton, Visit.report]
    exact ((reports_lowerReturn 3 value).mute_append (mute_beginStatement ..)).append_mute rfl
  | locals leading declared trailing =>
    rw [lowerStatement, visitsBelow, List.flatMap_singleton, Visit.report]
    exact ((reports_lowerVariables 3 declared).mute_append (mute_beginStatement ..)).append_mute rfl
  | expression leading value trailing =>
    rw [lowerStatement, visitsBelow, List.flatMap_singleton, Visit.report]
    exact ((reports_lowerExpressionAt 3 0 value).mute_append (mute_beginStatement ..)).append_mute
      rfl
  | block leading statements trailing ih =>
    rw [lowerStatement, visitsBelow, List.flatMap_cons, Visit.report, statementsVisits_eq_flatMap,
      List.flatMap_assoc]
    refine reports_whenOk_enterBlock hscope fun inner hinner ↦ ?_
    rw [lowerStatements_eq_flatMap]
    refine .mute_append (.flatMap fun s hs ↦ ?_) (mute_innerTrivia leading)
    exact ih s hs inner (level + 1) hinner
  | unsupported node =>
    rw [lowerStatement, visitsBelow, List.flatMap_singleton, Visit.report]
    exact .note _

theorem reports_lowerFunction (leading : Trivia) (header : String) (body : Block)
    (trailing : Trivia) (scope : Scope) (hscope : scope.nesting = 2) :
    (lowerFunction leading header body trailing scope).Reports 3
      ((statementsVisits 0 body.statements).flatMap (Visit.report names)) := by
  obtain ⟨inner, henter, hinner⟩ :=
    Scope.exists_enter (show scope.nesting < maxNesting by rw [hscope]; decide)
  have hleading : Script.Mute (if body.leading.hasComments then
      [.verbatim body.leading.trimmedEnd] else []) := by
    split <;> rfl
  have hbody : (lowerBody body scope).Reports 3
      ((statementsVisits 0 body.statements).flatMap (Visit.report names)) := by
    rw [lowerBody, henter, Script.whenOk_ok, lowerStatements_eq_flatMap,
      statementsVisits_eq_flatMap, List.flatMap_assoc]
    refine .mute_append (.flatMap fun s _ ↦ ?_) hleading
    exact reports_lowerStatement names inner 0 s (by rw [hinner, hscope])
  have hopen : Script.Mute (headerTrivia leading ++ [.openLine scope.depth, .code header]) :=
    (mute_headerTrivia leading).append rfl
  have hclose : Script.Mute [.openLine scope.depth, .code "\x7d;", .endLine] := rfl
  exact ((hbody.mute_append hopen).append_mute hclose).append_mute (mute_closingTrivia trailing)

theorem reports_whenOk_declaredName {token : Token} {kind : Kind} {depth : Nat}
    {next : String → Script} {report : Script}
    (hnext : (next token.valueText).Reports depth report) :
    (Script.whenOk (declaredName token kind) next).Reports depth
      (failing (nameViolations token kind) ++ report) := by
  refine .whenOk ?_ fun name hname ↦ ?_
  · rw [failure_whenOk_declaredName]
    exact Option.or_none
  · rw [declaredName_eq_ok hname]
    exact hnext

/-- The body of a member is visited if there is one. -/
theorem reports_whenOk_requiredBody {body : Option Block} {kind : Kind} {name : String}
    {next : Block → Script} (hnext : ∀ block, (next block).Reports 3
      ((statementsVisits 0 block.statements).flatMap (Visit.report names))) :
    (Script.whenOk (requiredBody body kind name) next).Reports 3
      (failing (absentBody body kind name) ++ (bodyVisits body).flatMap (Visit.report names)) := by
  cases body with
  | none => exact ⟨rfl, rfl⟩
  | some block => exact hnext block

theorem reports_lowerClassMember {scope : Scope} {className : String}
    (hclass : scope.enclosingClass = some className) (hscope : scope.nesting = 1)
    (member : Declaration) :
    (lowerClassMember scope member).Reports 2
      ((classMemberVisits className member).flatMap (Visit.report names)) := by
  obtain ⟨inner, henter, hinner⟩ :=
    Scope.exists_enter (show scope.nesting < maxNesting by rw [hscope]; decide)
  have hfunction (leading : Trivia) (header : String) (trailing : Trivia) (body : Block) :
      (Script.whenOk scope.enter fun inner ↦
        lowerFunction leading header body trailing inner).Reports 3
      ((statementsVisits 0 body.statements).flatMap (Visit.report names)) := by
    rw [henter]
    exact reports_lowerFunction names leading header body trailing inner (by rw [hinner, hscope])
  cases member with
  | methodDecl node =>
    rw [lowerClassMember, lowerMethod, enclosingClass_eq_ok hclass, Script.whenOk_ok,
      classMemberVisits, List.flatMap_cons, Visit.report, List.append_assoc]
    refine .within (reports_whenOk_declaredName ?_)
    exact reports_whenOk_requiredBody names (hfunction _ _ _)
  | constructorDecl node =>
    rw [lowerClassMember, lowerConstructor, enclosingClass_eq_ok hclass, Script.whenOk_ok,
      classMemberVisits, List.flatMap_cons, Visit.report]
    exact .within (reports_whenOk_requiredBody names (hfunction _ _ _))
  | fieldDecl node =>
    have hvisit : (classMemberVisits className (.fieldDecl node)).flatMap (Visit.report names) =
        variablesReport 2 node.declared := List.append_nil _
    rw [lowerClassMember, lowerField, enclosingClass_eq_ok hclass, Script.whenOk_ok, henter,
      Script.whenOk_ok, hvisit]
    exact ((reports_lowerVariables 2 node.declared).mute_append
      (mute_beginStatement ..)).append_mute rfl
  | namespaceDecl leading name members trailing => exact .note _
  | classDecl leading modifiers identifier members trailing => exact .note _
  | unsupported node => exact .note _

end Bodies

section Declarations

variable (names : NodeNames) (options : Options)

theorem reports_lowerNamespaceMember {scope : Scope} {namespaceName : String}
    (hnamespace : scope.enclosingNamespace = some namespaceName) (hscope : scope.nesting = 1)
    (member : Declaration) :
    (lowerNamespaceMember options scope member).Reports 1
      ((namespaceMemberVisits member).flatMap (Visit.report names)) := by
  cases member with
  | classDecl leading modifiers identifier members trailing =>
    have hmembers : Script.Reports 2
        (members.flatMap (lowerClassMember (scope.inClass identifier.valueText)))
        ((members.flatMap (classMemberVisits identifier.valueText)).flatMap
          (Visit.report names)) := by
      rw [List.flatMap_assoc]
      exact .flatMap fun member _ ↦
        @reports_lowerClassMember names (scope.inClass identifier.valueText) _ rfl hscope member
    have hopen (text : String) : Script.Mute (headerTrivia leading ++
        [.openLine scope.depth, .code text]) := (mute_headerTrivia leading).append rfl
    have hclose (text : String) :
        Script.Mute [.openLine scope.depth, .code text, .endLine] := rfl
    have hcall (call : Bool) (name : String) : Script.Mute (if call then
        constructorCall options namespaceName name scope else []) := by
      cases call with
      | false => rfl
      | true => exact mute_constructorCall ..
    rw [lowerNamespaceMember, lowerClass, namespaceMemberVisits, List.flatMap_cons, Visit.report]
    refine .within (reports_whenOk_declaredName ?_)
    rw [hnamespace]
    exact (((hmembers.mute_append (hopen _)).append_mute (hclose _)).append_mute
      (hcall _ _)).append_mute (mute_closingTrivia trailing)
  | namespaceDecl leading name members trailing => exact .note _
  | constructorDecl node => exact .note _
  | methodDecl node => exact .note _
  | fieldDecl node => exact .note _
  | unsupported node => exact .note _

theorem reports_lowerReferences {scope : Scope} {namespaceName : String}
    (hnamespace : scope.enclosingNamespace = some namespaceName) (hscope : scope.nesting = 1) :
    (lowerReferences names options scope).Reports 1
      (if names.names.isEmpty then [.log ⟨1, .noNodeNames namespaceName⟩] else []) := by
  have hnote : (referencesNote options scope).Mute := by
    unfold referencesNote
    split <;> rfl
  have hlookups (depth : Nat) (list : List String) : Script.Mute (list.flatMap
      fun name ↦ [.openLine depth, .code (lookup namespaceName name)]) := by
    induction list with
    | nil => rfl
    | cons name rest ih => exact ih
  obtain ⟨inner, henter, _⟩ :=
    Scope.exists_enter (show scope.nesting < maxNesting by rw [hscope]; decide)
  unfold lowerReferences
  rw [hnamespace]
  simp only
  split
  next => exact .note _
  next =>
    rw [henter]
    exact Script.Mute.reports (.append (.append hnote rfl) (.append (hlookups _ _) rfl))

theorem reports_whenOk_namespaceName {token : Token} {depth : Nat} {next : String → Script}
    {report : Script} (hnext : (next token.valueText).Reports depth report) :
    (Script.whenOk (namespaceName token) next).Reports depth
      (failing (namespaceNameViolations token) ++ report) := by
  refine .whenOk ?_ fun name hname ↦ ?_
  · rw [failure_whenOk_namespaceName]
    exact Option.or_none
  · rw [namespaceName_eq_ok hname]
    exact hnext

theorem reports_lowerTopLevel (member : Declaration) :
    (lowerTopLevel names options member).Reports 0
      ((topLevelVisits member).flatMap (Visit.report names)) := by
  cases member with
  | namespaceDecl leading name members trailing =>
    obtain ⟨inner, henter, hinner⟩ :=
      Scope.exists_enter (show Scope.root.nesting < maxNesting by decide)
    have hmembers : Script.Reports 1
        (members.flatMap (lowerNamespaceMember options (inner.inNamespace name.valueText)))
        ((members.flatMap namespaceMemberVisits).flatMap (Visit.report names)) := by
      rw [List.flatMap_assoc]
      exact .flatMap fun member _ ↦ @reports_lowerNamespaceMember names options
        (inner.inNamespace name.valueText) _ rfl hinner member
    have hopen (text : String) : Script.Mute (headerTrivia leading ++
        [.openLine Scope.root.depth, .code text]) := (mute_headerTrivia leading).append rfl
    have hclose (text : String) :
        Script.Mute [.openLine Scope.root.depth, .code text, .endLine] := rfl
    have hreferences := @reports_lowerReferences names options
      (inner.inNamespace name.valueText) name.valueText rfl hinner
    rw [lowerTopLevel, lowerNamespace, topLevelVisits, List.flatMap_cons, Visit.report,
      List.append_assoc]
    refine .within (reports_whenOk_namespaceName (.mute_append ?_ (hopen _)))
    rw [henter]
    exact ((hreferences.append hmembers).append_mute (hclose _)).append_mute
      (mute_closingTrivia trailing)
  | classDecl leading modifiers identifier members trailing => exact .note _
  | constructorDecl node => exact .note _
  | methodDecl node => exact .note _
  | fieldDecl node => exact .note _
  | unsupported node => exact .note _

/-- Everything that a lowering has to say about a file, in order. -/
def report (unit : CompilationUnit) : Script :=
  (visits unit).flatMap (Visit.report names)

theorem reports_lowerUnit (unit : CompilationUnit) :
    (lowerUnit names options unit).Reports 0 (report names unit) := by
  have hmembers : Script.Reports 0 (unit.members.flatMap (lowerTopLevel names options))
      (report names unit) := by
    rw [report, visits, List.flatMap_assoc]
    exact .flatMap fun member _ ↦ reports_lowerTopLevel names options member
  exact hmembers.append_mute rfl

end Declarations

/-! ## Children that are skipped -/

def Event.isSkip : Event → Bool
  | skippedTopLevel _ | skippedNamespaceMember _ | skippedClassMember _ | skippedStatement _ => true
  | _ => false

/-- The entry for a child that has no counterpart where it stands.  A child without such an entry is
lowered. -/
def Visit.skip : Visit → Option Entry
  | topLevel (.namespaceDecl ..) => none
  | topLevel other => some ⟨0, .skippedTopLevel other.kind⟩
  | namespaceMember (.classDecl ..) => none
  | namespaceMember other => some ⟨1, .skippedNamespaceMember other.kind⟩
  | classMember _ (.methodDecl _) => none
  | classMember _ (.constructorDecl _) => none
  | classMember _ (.fieldDecl _) => none
  | classMember _ other => some ⟨2, .skippedClassMember other.kind⟩
  | statement _ (.unsupported node) => some ⟨3, .skippedStatement node.nodeKind⟩
  | statement _ _ => none

/-- The entries of a script about skipped children. -/
def Script.skips (script : Script) : List Entry :=
  (script.filterMap Step.entry?).filter (·.event.isSkip)

theorem Script.skips_append (a b : Script) : (a ++ b).skips = a.skips ++ b.skips := by
  rw [skips, List.filterMap_append, List.filter_append, skips, skips]

theorem Script.skips_log {entry : Entry} {rest : Script} (h : entry.event.isSkip = false) :
    Script.skips (.log entry :: rest) = rest.skips :=
  List.filter_cons_of_neg (by rw [h]; exact Bool.false_ne_true)

theorem Script.skips_flatMap {α : Type} (xs : List α) (part : α → Script) :
    Script.skips (xs.flatMap part) = xs.flatMap fun x ↦ (part x).skips := by
  induction xs with
  | nil => rfl
  | cons x rest ih => rw [List.flatMap_cons, skips_append, ih, List.flatMap_cons]

@[simp]
theorem skips_failing (errors : List Error) : (failing errors).skips = [] := by
  induction errors with
  | nil => rfl
  | cons error rest ih => exact ih

@[simp]
theorem skips_expressionReport (depth level : Nat) (e : Expression) :
    (expressionReport depth level e).skips = [] := by
  induction e generalizing level with
  | assignment left operator right ihLeft ihRight =>
    rw [expressionReport, Script.skips_append, Script.skips_append, skips_failing, ihLeft, ihRight]
    rfl
  | compound left operator right =>
    rw [expressionReport, Script.skips_append, skips_failing]
    rfl
  | cast opening type closing operand ih =>
    rw [expressionReport, Script.skips_append, skips_failing, ih]
    rfl
  | verbatim token =>
    rw [expressionReport, Script.skips_append, skips_failing]
    rfl

theorem skips_values (depth : Nat) (values : List Expression) :
    Script.skips (values.flatMap (expressionReport depth 0)) = [] := by
  rw [Script.skips_flatMap, List.flatMap_eq_nil_iff]
  exact fun e _ ↦ skips_expressionReport depth 0 e

theorem skips_variablesReport (depth : Nat) (declared : Variables) :
    (variablesReport depth declared).skips = [] := by
  rw [variablesReport, Script.skips_log rfl, skips_values]

/-- A child that is lowered is never reported as skipped, and any other is once. -/
theorem Visit.skips_report (names : NodeNames) (visit : Visit) :
    (visit.report names).skips = visit.skip.toList := by
  cases visit with
  | topLevel member =>
    cases member with
    | namespaceDecl leading name members trailing =>
      rw [report, Script.skips_append, Script.skips_log rfl, skips_failing]
      split <;> rfl
    | _ => rfl
  | namespaceMember member =>
    cases member with
    | classDecl leading modifiers identifier members trailing =>
      rw [report, Script.skips_log rfl, skips_failing]
      rfl
    | _ => rfl
  | classMember className member =>
    cases member with
    | methodDecl node =>
      rw [report, Script.skips_append, Script.skips_log rfl, skips_failing, skips_failing]
      rfl
    | constructorDecl node =>
      rw [report, Script.skips_log rfl, skips_failing]
      rfl
    | fieldDecl node => exact skips_variablesReport 2 node.declared
    | _ => rfl
  | statement level s =>
    cases s with
    | ret leading value trailing => exact skips_values 3 _
    | locals leading declared trailing => exact skips_variablesReport 3 declared
    | expression leading value trailing => exact skips_expressionReport 3 0 value
    | unsupported node => rfl
    | _ => exact skips_failing _

/-- The log of visiting all children of a file in pre-order, whether or not a check fails. -/
def traversalLog (names : NodeNames) (unit : CompilationUnit) : List Entry :=
  (report names unit).filterMap Step.entry?

theorem skips_traversalLog (names : NodeNames) (unit : CompilationUnit) :
    (traversalLog names unit).filter (·.event.isSkip) = (visits unit).filterMap Visit.skip := by
  change (report names unit).skips = _
  rw [report, Script.skips_flatMap, List.filterMap_eq_flatMap_toList]
  exact congrArg (fun f ↦ (visits unit).flatMap f) (funext (Visit.skips_report names))

end Lowering

open Source Lowering

theorem emitLog_eq (unit : CompilationUnit) (names : NodeNames) (options : Options) :
    emitLog unit names options = (report names unit).entries := by
  have hinside : Entry.inside 0 = id := by
    funext entry
    simp [Entry.inside]
  rw [(reports_lowerUnit names options unit).entries_eq, hinside, List.map_id, emitLog]

theorem failure_report (unit : CompilationUnit) (names : NodeNames) (options : Options) :
    (report names unit).failure = (lowerUnit names options unit).failure :=
  (reports_lowerUnit names options unit).failure_eq

/-- The log of a file that is emitted is the log of its traversal.  If emitting fails, the log is
what the traversal has before the check that failed.  Either way the options have no say in it.  The
traversal tells of every child that is not lowered, once and in order, and of no other. -/
theorem emitLog_traversal (unit : CompilationUnit) (names : NodeNames) (options : Options) :
    (∀ text, emit unit names options = .ok text →
      emitLog unit names options = traversalLog names unit) ∧
    (∀ error, emit unit names options = .error error →
      ∃ before after, report names unit = before ++ .fail error :: after ∧
        Script.failure before = none ∧
        emitLog unit names options = before.filterMap Step.entry? ∧
        traversalLog names unit = emitLog unit names options ++ after.filterMap Step.entry?) ∧
    (∀ options', emitLog unit names options' = emitLog unit names options) ∧
    (traversalLog names unit).filter (·.event.isSkip) = (visits unit).filterMap Visit.skip := by
  refine ⟨fun text hok ↦ ?_, fun error herror ↦ ?_, fun options' ↦ ?_,
    skips_traversalLog names unit⟩
  · have hnone : (report names unit).failure = none := by
      rw [failure_report unit names options]
      exact (emit_eq_ok_iff.mp hok).1
    rw [emitLog_eq, Script.entries_eq_filterMap hnone, traversalLog]
  · have hsome : (report names unit).failure = some error := by
      rw [failure_report unit names options]
      exact emit_eq_error_iff.mp herror
    obtain ⟨before, after, hreport, hbefore, hentries⟩ := Script.exists_of_failure hsome
    refine ⟨before, after, hreport, hbefore, by rw [emitLog_eq, hentries], ?_⟩
    rw [emitLog_eq, hentries, traversalLog, hreport, List.filterMap_append]
    rfl
  · rw [emitLog_eq, emitLog_eq]

/-- A statement without a counterpart, and a conditional that subscribes to an event. -/
def auditedBody : Block where
  statements :=
    [.unsupported { nodeKind := "ForStatement" },
     .ifThen {} (.ofText "ready")
      (.block {}
        [.expression {} (.assignWith "+=" (.ofText "timer.Tick") (.ofText "OnTick")) {}] {}) {}]

/-- A class outside of a namespace, and a namespace with a class that has a method. -/
def auditedFile (body : Option Block) : CompilationUnit where
  members :=
    [.classDecl {} [] { text := "Lost" } [] {},
     .namespaceDecl {} { text := "App" }
      [.classDecl {} [] { text := "Main" }
        [.methodDecl { identifier := { text := "Run" }, body },
         .unsupported { nodeKind := "PropertyDeclaration" }]
        {}]
      {}]

theorem emitLog_traversal_auditedFile :
    emitLog (auditedFile (some auditedBody)) {} {} =
        [⟨0, .skippedTopLevel .classDeclaration⟩, ⟨0, .enteredNamespace "App"⟩,
         ⟨1, .noNodeNames "App"⟩, ⟨1, .enteredClass "Main"⟩, ⟨2, .enteredMethod "Run"⟩,
         ⟨3, .skippedStatement "ForStatement"⟩, ⟨3, .compoundLeft "timer.Tick += OnTick"⟩,
         ⟨2, .skippedClassMember .unsupported⟩] ∧
      emitLog (auditedFile none) {} {} =
        [⟨0, .skippedTopLevel .classDeclaration⟩, ⟨0, .enteredNamespace "App"⟩,
         ⟨1, .noNodeNames "App"⟩, ⟨1, .enteredClass "Main"⟩, ⟨2, .enteredMethod "Run"⟩] ∧
      emitLog (auditedFile none) {} {} <+: traversalLog {} (auditedFile none) := by
  have hfailure : (lowerUnit {} {} (auditedFile (some auditedBody))).failure = none := by
    decide +kernel
  have hmissing : (lowerUnit {} {} (auditedFile none)).failure =
      some (.missingBody .methodDeclaration "Run") := by decide +kernel
  obtain ⟨hok, -⟩ := emitLog_traversal (auditedFile (some auditedBody)) {} {}
  obtain ⟨-, herror, -⟩ := emitLog_traversal (auditedFile none) {} {}
  obtain ⟨_, _, -, -, -, hlog⟩ := herror _ (emit_eq_error_iff.mpr hmissing)
  refine ⟨(hok _ (emit_eq_ok_iff.mpr ⟨hfailure, rfl⟩)).trans (by decide +kernel),
    by decide +kernel, _, hlog.symm⟩

end CodeBehind
