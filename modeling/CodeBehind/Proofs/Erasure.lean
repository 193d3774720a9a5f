import CodeBehind.Proofs.Execution
import CodeBehind.Proofs.Ink
import CodeBehind.Proofs.SourceText
import CodeBehind.Proofs.Statements

/-!
# What has no influence on the script

Erasing a file takes away all that is left out of its script: skipped declarations and statements,
types, modifiers, attributes and defaults, what a constructor is called, and the trivia that no
lowering reads.  The lowering of a file and that of its erasure differ in their logs only, so two
files with one erasure give the same script or the same error.
-/

namespace CodeBehind

namespace Erasure

open Source

/-! ## Erasing files -/

def blankToken : Token := { text := "" }
def blankType : TypeRef := .predefined blankToken

/-- A name without the trivia and blanks around it. -/
def name (token : Token) : Token :=
  { text := token.valueText }

/-- A rewritten expression.  The trivia after its last token is `kept` if the expression ends an
operand of an assignment that is no cast. -/
def expression (kept : Bool) : Expression → Expression
  | .assignment left operator right =>
    .assignment (expression (!left.isCast) left) operator
      (expression (kept || !right.isCast) right)
  | .compound left operator right => .compound left operator right
  | .cast _ _ _ operand => .cast blankToken blankType blankToken (expression kept operand)
  | .verbatim token =>
    .verbatim { text := token.text, trailing := if kept then token.trailing else {} }

def declarator (declared : Declarator) : Declarator where
  identifier := name declared.identifier
  initializer := declared.initializer.map (expression false)

def declaration (declared : Variables) : Variables where
  type := blankType
  declarators := declared.declarators.map declarator

mutual

def statement : Statement → Statement
  | .ifThen leading condition body trailing =>
    .ifThen leading condition.bare (statement body) trailing
  | .ifElse leading condition body elseLeading elseBody trailing =>
    .ifElse leading condition.bare (statement body) elseLeading (statement elseBody) trailing
  | .ret leading value trailing => .ret leading (value.map (expression false)) trailing
  | .locals leading declared trailing => .locals leading (declaration declared) trailing
  | .expression leading value trailing => .expression leading (expression false value) trailing
  | .block leading inner _ => .block leading (statements inner) {}
  | .unsupported _ => .unsupported { nodeKind := "" }

/-- In a list, statements without a counterpart go. -/
def statements : List Statement → List Statement
  | [] => []
  | first :: rest =>
    if first.kind = .unsupported then statements rest else statement first :: statements rest

end

theorem statements_eq_filterMap (list : List Statement) :
    statements list =
      list.filterMap fun s ↦ if s.kind = .unsupported then none else some (statement s) := by
  induction list with
  | nil => rw [statements, List.filterMap_nil]
  | cons first rest ih =>
    rw [statements, ih]
    split
    next hkind => rw [List.filterMap_cons_none (by rw [if_pos hkind])]
    next hkind => rw [List.filterMap_cons_some (by rw [if_neg hkind])]

def body (block : Block) : Block where
  leading := block.leading
  statements := statements block.statements

def parameter (declared : Parameter) : Parameter where
  identifier := name declared.identifier

/-- The members of a class that are lowered. -/
def classMember : Declaration → Option Declaration
  | .methodDecl node => some <| .methodDecl
      { leading := node.leading, identifier := name node.identifier,
        parameters := node.parameters.map parameter, body := node.body.map body,
        trailing := node.trailing }
  | .constructorDecl node => some <| .constructorDecl
      { leading := node.leading, identifier := blankToken, body := node.body.map body,
        trailing := node.trailing }
  | .fieldDecl node => some <| .fieldDecl
      { leading := node.leading, declared := declaration node.declared, trailing := node.trailing }
  | _ => none

def namespaceMember : Declaration → Option Declaration
  | .classDecl leading _ identifier members trailing => some <|
    .classDecl leading [] (name identifier) (members.filterMap classMember) trailing
  | _ => none

def topLevel : Declaration → Option Declaration
  | .namespaceDecl leading token members trailing => some <|
    .namespaceDecl leading (name token) (members.filterMap namespaceMember) trailing
  | _ => none

def file (unit : CompilationUnit) : CompilationUnit where
  members := unit.members.filterMap topLevel

/-! ## Names and operands -/

@[simp]
theorem valueText_name (token : Token) : (name token).valueText = token.valueText := by
  rw [name, Token.valueText, Token.valueText, String.toList_ofList, Text.trim_trim]

theorem isCast_expression (kept : Bool) (e : Expression) :
    (expression kept e).isCast = e.isCast := by
  cases e <;> rfl

theorem trailing_expression (e : Expression) : (expression true e).trailing = e.trailing := by
  induction e with
  | assignment left operator right _ ihRight =>
    rw [expression, Bool.true_or]
    exact ihRight
  | compound left operator right => rfl
  | cast opening type closing operand ih => exact ih
  | verbatim token => rfl

end Erasure

namespace Lowering

open Source

namespace Script

@[simp]
theorem quiet_within (event : Event) (s : Script) : (within event s).quiet = s.quiet := by
  have hdeepen (s : Script) : quiet (s.map Step.deepen) = s.quiet := by
    induction s with
    | nil => rfl
    | cons step rest ih =>
      cases step with
      | write instruction => exact congrArg (Step.write instruction :: ·) ih
      | log entry => exact ih
      | fail error => exact congrArg (Step.fail error :: ·) ih
  exact hdeepen s

theorem quiet_append_right (a : Script) {b c : Script} (h : b.quiet = c.quiet) :
    quiet (a ++ b) = quiet (a ++ c) := by
  rw [quiet_append, quiet_append, h]

/-- Checked values go on in the same way if the rest writes the same. -/
theorem quiet_whenOk {α : Type} (value : Except Error α) {next next' : α → Script}
    (h : ∀ a, (next a).quiet = (next' a).quiet) :
    (whenOk value next).quiet = (whenOk value next').quiet := by
  cases value with
  | error error => rfl
  | ok a => exact h a

/-- Members that write nothing may go, and the others may change as long as they write the same. -/
theorem quiet_flatMap_filterMap {α : Type} (part : α → Script) (erase : α → Option α)
    (xs : List α) (h : ∀ x ∈ xs, quiet ((erase x).elim [] part) = quiet (part x)) :
    quiet ((xs.filterMap erase).flatMap part) = quiet (xs.flatMap part) := by
  induction xs with
  | nil => rfl
  | cons x rest ih =>
    have hx := h x (List.mem_cons_self ..)
    have hrest := ih fun y hy ↦ h y (List.mem_cons_of_mem _ hy)
    cases herase : erase x with
    | none =>
      rw [herase] at hx
      rw [List.filterMap_cons_none herase, hrest, List.flatMap_cons, quiet_append, ← hx]
      rfl
    | some y =>
      rw [herase] at hx
      rw [List.filterMap_cons_some herase, List.flatMap_cons, List.flatMap_cons, quiet_append,
        quiet_append, hrest, ← hx]
      rfl

end Script

/-! ## Lowerings of erased constructs -/

theorem operandTrivia_expression (kept : Bool) (e : Expression)
    (h : e.isCast = false → kept = true) :
    operandTrivia (Erasure.expression kept e) = operandTrivia e := by
  unfold operandTrivia
  rw [Erasure.isCast_expression]
  cases hcast : e.isCast with
  | true => rfl
  | false => rw [h hcast, Erasure.trailing_expression]

theorem quiet_lowerExpressionAt (kept : Bool) (level : Nat) (e : Expression) :
    (lowerExpressionAt level (Erasure.expression kept e)).quiet =
      (lowerExpressionAt level e).quiet := by
  induction e generalizing kept level with
  | assignment left operator right ihLeft ihRight =>
    rw [Erasure.expression, lowerExpressionAt, lowerExpressionAt]
    split
    · rfl
    · simp only [Script.quiet_append, ihLeft, ihRight,
        operandTrivia_expression (!left.isCast) left (by simp),
        operandTrivia_expression (kept || !right.isCast) right (by simp +contextual)]
  | compound left operator right => rfl
  | cast opening type closing operand ih =>
    rw [Erasure.expression, lowerExpressionAt, lowerExpressionAt]
    split
    · rfl
    · exact congrArg (Step.separate :: ·) (ih kept (level + 1))
  | verbatim token =>
    rw [Erasure.expression, lowerExpressionAt, lowerExpressionAt]

theorem quiet_lowerExpression (e : Expression) :
    (lowerExpression (Erasure.expression false e)).quiet = (lowerExpression e).quiet :=
  quiet_lowerExpressionAt false 0 e

theorem quiet_lowerDeclarator (declared : Declarator) :
    (lowerDeclarator (Erasure.declarator declared)).quiet = (lowerDeclarator declared).quiet := by
  unfold lowerDeclarator Erasure.declarator
  rw [Erasure.valueText_name]
  cases declared.initializer with
  | none => rfl
  | some value =>
    simp only [Option.map_some, Script.quiet_append]
    exact congrArg (fun s : Script ↦ Step.code _ :: s ++ [Step.terminator])
      (quiet_lowerExpression value)

theorem quiet_lowerVariables (declared : Variables) :
    (lowerVariables (Erasure.declaration declared)).quiet = (lowerVariables declared).quiet := by
  have hdeclarators := Script.quiet_flatMap_filterMap lowerDeclarator
    (some ∘ Erasure.declarator) declared.declarators fun x _ ↦ quiet_lowerDeclarator x
  rw [List.filterMap_eq_map] at hdeclarators
  exact hdeclarators

theorem quiet_lowerReturn (value : Option Expression) :
    (lowerReturn (value.map (Erasure.expression false))).quiet = (lowerReturn value).quiet := by
  cases value with
  | none => rfl
  | some value =>
    simp only [Option.map_some, lowerReturn, Script.quiet_append]
    exact congrArg (fun s : Script ↦ Step.code "return " :: s ++ [Step.terminator])
      (quiet_lowerExpression value)

theorem openIf_bare (leading : Trivia) (condition : Expression) (scope : Scope) :
    openIf leading condition.bare scope = openIf leading condition scope := by
  rw [openIf, openIf, Expression.text_bare]

/-- In a list a statement without a counterpart may go, since it writes nothing. -/
theorem quiet_listed {scope : Scope} {s : Statement}
    (h : (lowerStatement scope (Erasure.statement s)).quiet = (lowerStatement scope s).quiet) :
    Script.quiet (Option.elim (if s.kind = .unsupported then none else some (Erasure.statement s))
        [] (lowerStatement scope)) =
      (lowerStatement scope s).quiet := by
  cases s with
  | unsupported node => rfl
  | ifThen leading condition body trailing => exact h
  | ifElse leading condition body elseLeading elseBody trailing => exact h
  | ret leading value trailing => exact h
  | locals leading declared trailing => exact h
  | expression leading value trailing => exact h
  | block leading statements trailing => exact h

theorem quiet_lowerStatement (scope : Scope) (s : Statement) :
    (lowerStatement scope (Erasure.statement s)).quiet = (lowerStatement scope s).quiet := by
  induction s using Statement.inductionOn generalizing scope with
  | ifThen leading condition body trailing ih =>
    rw [Erasure.statement, lowerStatement, lowerStatement, openIf_bare]
    apply Script.quiet_append_right
    apply Script.quiet_whenOk
    intro inner
    rw [Script.quiet_append, Script.quiet_append, ih]
  | ifElse leading condition body elseLeading elseBody trailing ih ihElse =>
    rw [Erasure.statement, lowerStatement, lowerStatement, openIf_bare]
    apply Script.quiet_append_right
    apply Script.quiet_whenOk
    intro inner
    simp only [Script.quiet_append, ih, ihElse]
  | ret leading value trailing =>
    rw [Erasure.statement, lowerStatement, lowerStatement]
    simp only [Script.quiet_append, quiet_lowerReturn]
  | locals leading declared trailing =>
    rw [Erasure.statement, lowerStatement, lowerStatement]
    simp only [Script.quiet_append, quiet_lowerVariables]
  | expression leading value trailing =>
    rw [Erasure.statement, lowerStatement, lowerStatement]
    simp only [Script.quiet_append, quiet_lowerExpression]
  | block leading statements trailing ih =>
    rw [Erasure.statement, lowerStatement, lowerStatement, Erasure.statements_eq_filterMap]
    apply Script.quiet_whenOk
    intro inner
    rw [lowerStatements_eq_flatMap, lowerStatements_eq_flatMap]
    apply Script.quiet_append_right
    exact Script.quiet_flatMap_filterMap _ _ _ fun s hs ↦
      quiet_listed (ih s hs inner)
  | unsupported node => rfl

theorem quiet_lowerStatements (scope : Scope) (list : List Statement) :
    (lowerStatements scope (Erasure.statements list)).quiet =
      (lowerStatements scope list).quiet := by
  rw [Erasure.statements_eq_filterMap, lowerStatements_eq_flatMap, lowerStatements_eq_flatMap]
  exact Script.quiet_flatMap_filterMap _ _ _ fun s _ ↦ quiet_listed (quiet_lowerStatement scope s)

theorem quiet_lowerFunction (leading : Trivia) (header : String) (body : Block) (trailing : Trivia)
    (scope : Scope) :
    (lowerFunction leading header (Erasure.body body) trailing scope).quiet =
      (lowerFunction leading header body trailing scope).quiet := by
  have hbody : (lowerBody (Erasure.body body) scope).quiet = (lowerBody body scope).quiet := by
    rw [lowerBody, lowerBody]
    apply Script.quiet_append_right
    apply Script.quiet_whenOk
    intro inner
    exact quiet_lowerStatements inner body.statements
  rw [lowerFunction, lowerFunction]
  simp only [Script.quiet_append, hbody]

/-- A body that is required and erased is erased and then required. -/
theorem quiet_requiredBody (body : Option Block) (kind : Kind) (name : String)
    {next : Block → Script}
    (h : ∀ block, (next (Erasure.body block)).quiet = (next block).quiet) :
    (Script.whenOk (requiredBody (body.map Erasure.body) kind name) next).quiet =
      (Script.whenOk (requiredBody body kind name) next).quiet := by
  cases body with
  | none => rfl
  | some block => exact h block

theorem declaredName_name (token : Token) (kind : Kind) :
    declaredName (Erasure.name token) kind = declaredName token kind := by
  rw [declaredName, declaredName, Erasure.valueText_name]

theorem parameterNames_map (parameters : List Parameter) :
    parameterNames (parameters.map Erasure.parameter) = parameterNames parameters := by
  have hname : (fun p : Parameter ↦ (Erasure.parameter p).identifier.valueText) =
      fun p : Parameter ↦ p.identifier.valueText := by
    funext p
    exact Erasure.valueText_name p.identifier
  rw [parameterNames, parameterNames, List.map_map]
  exact congrArg (fun names ↦ ", ".intercalate (parameters.map names)) hname

theorem quiet_lowerClassMember (scope : Scope) (member : Declaration) :
    Script.quiet ((Erasure.classMember member).elim [] (lowerClassMember scope)) =
      (lowerClassMember scope member).quiet := by
  cases member with
  | methodDecl node =>
    simp only [Erasure.classMember, Option.elim_some, lowerClassMember, lowerMethod,
      Script.quiet_within, declaredName_name, parameterNames_map]
    apply Script.quiet_whenOk
    intro className
    apply Script.quiet_whenOk
    intro name
    apply quiet_requiredBody
    intro block
    apply Script.quiet_whenOk
    intro inner
    exact quiet_lowerFunction ..
  | constructorDecl node =>
    simp only [Erasure.classMember, Option.elim_some, lowerClassMember, lowerConstructor,
      Script.quiet_within]
    apply Script.quiet_whenOk
    intro className
    apply quiet_requiredBody
    intro block
    apply Script.quiet_whenOk
    intro inner
    exact quiet_lowerFunction ..
  | fieldDecl node =>
    simp only [Erasure.classMember, Option.elim_some, lowerClassMember, lowerField]
    apply Script.quiet_whenOk
    intro className
    apply Script.quiet_whenOk
    intro inner
    simp only [Script.quiet_append, quiet_lowerVariables]
  | namespaceDecl leading name members trailing => rfl
  | classDecl leading modifiers identifier members trailing => rfl
  | unsupported node => rfl

/-- Constructors are kept, and no other member becomes one. -/
theorem any_isConstructor_filterMap (members : List Declaration) :
    (members.filterMap Erasure.classMember).any Declaration.isConstructor =
      members.any Declaration.isConstructor := by
  rw [List.any_filterMap]
  congr 1
  funext member
  cases member <;> rfl

theorem quiet_lowerNamespaceMember (options : Options) (scope : Scope) (member : Declaration) :
    Script.quiet ((Erasure.namespaceMember member).elim [] (lowerNamespaceMember options scope)) =
      (lowerNamespaceMember options scope member).quiet := by
  cases member with
  | classDecl leading modifiers identifier members trailing =>
    have hmembers (name : String) := Script.quiet_flatMap_filterMap
      (lowerClassMember (scope.inClass name)) Erasure.classMember members
      fun member _ ↦ quiet_lowerClassMember (scope.inClass name) member
    have hconstructor :
        ClassDecl.hasConstructor ⟨leading, [], Erasure.name identifier,
          members.filterMap Erasure.classMember, trailing⟩ =
        ClassDecl.hasConstructor ⟨leading, modifiers, identifier, members, trailing⟩ :=
      any_isConstructor_filterMap members
    simp only [Erasure.namespaceMember, Option.elim_some, lowerNamespaceMember, lowerClass,
      Script.quiet_within, declaredName_name]
    rw [hconstructor]
    apply Script.quiet_whenOk
    intro name
    cases scope.enclosingNamespace with
    | none => rfl
    | some namespaceName => simp only [Script.quiet_append, hmembers]
  | namespaceDecl leading name members trailing => rfl
  | constructorDecl node => rfl
  | methodDecl node => rfl
  | fieldDecl node => rfl
  | unsupported node => rfl

theorem quiet_lowerTopLevel (names : NodeNames) (options : Options) (member : Declaration) :
    Script.quiet ((Erasure.topLevel member).elim [] (lowerTopLevel names options)) =
      (lowerTopLevel names options member).quiet := by
  cases member with
  | namespaceDecl leading token members trailing =>
    have hname : namespaceName (Erasure.name token) = namespaceName token := by
      rw [namespaceName, namespaceName, declaredName_name]
    have hmembers (scope : Scope) := Script.quiet_flatMap_filterMap
      (lowerNamespaceMember options scope) Erasure.namespaceMember members
      fun member _ ↦ quiet_lowerNamespaceMember options scope member
    simp only [Erasure.topLevel, Option.elim_some, lowerTopLevel, lowerNamespace,
      Script.quiet_within, hname]
    apply Script.quiet_whenOk
    intro name
    apply Script.quiet_append_right
    apply Script.quiet_whenOk
    intro inner
    simp only [Script.quiet_append, hmembers]
  | classDecl leading modifiers identifier members trailing => rfl
  | constructorDecl node => rfl
  | methodDecl node => rfl
  | fieldDecl node => rfl
  | unsupported node => rfl

theorem quiet_lowerUnit (names : NodeNames) (options : Options) (unit : CompilationUnit) :
    (lowerUnit names options (Erasure.file unit)).quiet =
      (lowerUnit names options unit).quiet := by
  have hmembers := Script.quiet_flatMap_filterMap (lowerTopLevel names options) Erasure.topLevel
    unit.members fun member _ ↦ quiet_lowerTopLevel names options member
  rw [lowerUnit, lowerUnit, Script.quiet_append, Script.quiet_append]
  exact congrArg (· ++ Script.quiet [Step.endLine]) hmembers

end Lowering

open Source Lowering

/-- A file and its erasure give the same script, or the same error. -/
theorem emit_erasure (unit : CompilationUnit) (names : NodeNames) (options : Options) :
    emit (Erasure.file unit) names options = emit unit names options := by
  have hrun := congrArg
    (fun s : Script ↦ s.run .unbounded options.toLayout Writer.empty)
    (quiet_lowerUnit names options unit)
  simp only [Script.run_quiet] at hrun
  rw [emit, emit, hrun]

/-- What erasing takes away has no influence: files with one erasure give the same script, or the
same error. -/
theorem emit_eq_of_erasure_eq {unit unit' : CompilationUnit}
    (h : Erasure.file unit = Erasure.file unit') (names : NodeNames) (options : Options) :
    emit unit names options = emit unit' names options := by
  calc
    emit unit names options = emit (Erasure.file unit) names options :=
      (emit_erasure unit names options).symm
    _ = emit (Erasure.file unit') names options := by rw [h]
    _ = emit unit' names options := emit_erasure unit' names options

/-- A class with types, modifiers, casts, and statements without a counterpart. -/
def typedFile : CompilationUnit where
  members :=
    [.unsupported { nodeKind := "UsingDirective" },
     .namespaceDecl {} { text := " App", trailing := { text := " // the app" } }
      [.classDecl {} [{ text := "public" }, { text := "partial" }] { text := "Main" }
        [.unsupported { nodeKind := "PropertyDeclaration" },
         .methodDecl
          { modifiers := [{ text := "private" }],
            returnType := some (.predefined { text := "int" }),
            identifier := { text := "Read" },
            parameters := [{ type := some (.named { text := "List<int>" }),
                             identifier := { text := "list" } }],
            body := some
              { statements :=
                  [.unsupported { nodeKind := "WhileStatement" },
                   .ifThen {} (.verbatim { text := "ready", leading := { text := " " } })
                    (.unsupported { nodeKind := "ThrowStatement", text := "throw;" }) {},
                   .ret {} (some (.castTo (.predefined { text := "int" })
                    (.verbatim { text := "x", trailing := { text := "/* why */" } }))) {}] } }]
        {}]
      {}]

/-- The same class as far as its script is concerned. -/
def untypedFile : CompilationUnit where
  members :=
    [.namespaceDecl {} { text := "App" }
      [.classDecl {} [] { text := "Main" }
        [.methodDecl
          { identifier := { text := "Read" }, parameters := [{ identifier := { text := "list" } }],
            body := some
              { statements :=
                  [.ifThen {} (.ofText "ready") (.unsupported { nodeKind := "EmptyStatement" }) {},
                   .ret {} (some (.castTo (.named { text := "T" }) (.ofText "x"))) {}] } },
         .unsupported { nodeKind := "EventDeclaration" }]
        {}]
      {}]

theorem emit_typedFile_untypedFile :
    Erasure.file typedFile = Erasure.file untypedFile ∧
      ∃ text, emit typedFile {} {} = .ok text ∧ emit untypedFile {} {} = .ok text := by
  have herasure : Erasure.file typedFile = Erasure.file untypedFile := rfl
  have hfailure : (lowerUnit {} {} typedFile).failure = none := by decide +kernel
  have hemit := emit_eq_ok_iff.mpr ⟨hfailure, rfl⟩
  exact ⟨herasure, _, hemit, emit_eq_of_erasure_eq herasure {} {} ▸ hemit⟩

end CodeBehind
