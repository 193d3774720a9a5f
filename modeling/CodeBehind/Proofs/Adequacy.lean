import CodeBehind.Proofs.Meaning
import CodeBehind.Proofs.Inversion
import CodeBehind.Proofs.Placement
import CodeBehind.Proofs.Statements

/-!
# The script is what the file denotes, blanks aside

Where a writer stands decides only about blanks: line breaks, indentation and separating spaces.  So
every instruction adds ink that depends on the instruction alone, and the ink of a lowering can be
read off its parts.  Part by part it is the ink of what the file denotes.
-/

namespace CodeBehind

open Text Source

/-! ## Ink of instructions -/

theorem inked_lineBreak (kind : LineBreak) : inked kind.text.toList = [] :=
  inked_eq_nil (isBlank_lineBreak kind)

theorem inked_indent (indent : Indent) (depth : Nat) : inked (indent.text depth).toList = [] :=
  inked_eq_nil (isBlank_indent indent depth)

/-- The ink that an instruction writes, wherever the writer stands. -/
def Instruction.ink : Instruction → List Char
  | code text => inked text.toList
  | verbatim text => inked text.toList
  | terminator => inked ";".toList
  | _ => []

theorem inked_code (layout : Layout) (w : Writer String) (text : String) :
    inked (w.code .unbounded layout text).2.sink.toList =
      inked w.sink.toList ++ inked text.toList := by
  rw [Writer.code_unbounded]
  split <;> simp [inked_lineBreak]

theorem inked_endLine (layout : Layout) (w : Writer String) :
    inked (w.endLine .unbounded layout).2.sink.toList = inked w.sink.toList := by
  rw [Writer.endLine_unbounded]
  split <;> simp [inked_lineBreak]

theorem Instruction.inked_apply (layout : Layout) (w : Writer String) (i : Instruction) :
    inked (i.apply layout w).sink.toList = inked w.sink.toList ++ i.ink := by
  have hnone (w : Writer String) : inked w.sink.toList = inked w.sink.toList ++ [] := by simp
  unfold apply
  cases i with
  | code text => exact inked_code layout w text
  | verbatim text => simp [perform, Writer.put_unbounded, ink]
  | terminator => simp [perform, Writer.put_unbounded, ink]
  | breakLine => simp [perform, Writer.breakLine, Writer.put_unbounded, inked_lineBreak, ink]
  | endLine => exact (inked_endLine layout w).trans (hnone w)
  | blankLine =>
    have h := inked_endLine layout w
    rw [Writer.endLine_unbounded] at h
    simp only [perform, Writer.endLine_unbounded, Writer.andThen, Writer.breakLine,
      Writer.put_unbounded, Writer.after_sink, inked_append, inked_lineBreak, h, ink]
  | openLine depth =>
    have h := inked_endLine layout w
    rw [Writer.endLine_unbounded] at h
    simp only [perform, Writer.endLine_unbounded, Writer.andThen, Writer.put_unbounded,
      Writer.after_sink, inked_append, inked_indent, h, ink]
  | separate =>
    simp only [perform]
    split
    · exact hnone w
    · exact inked_code layout w " "
  | markComment => exact hnone w

namespace Lowering

namespace Step

def ink : Step → List Char
  | write instruction => instruction.ink
  | _ => []

@[simp] theorem ink_code (text : String) : (code text).ink = inked text.toList := rfl
@[simp] theorem ink_verbatim (text : String) : (verbatim text).ink = inked text.toList := rfl
@[simp] theorem ink_terminator : terminator.ink = inked ";".toList := rfl
@[simp] theorem ink_breakLine : breakLine.ink = [] := rfl
@[simp] theorem ink_endLine : endLine.ink = [] := rfl
@[simp] theorem ink_blankLine : blankLine.ink = [] := rfl
@[simp] theorem ink_openLine (depth : Nat) : (openLine depth).ink = [] := rfl
@[simp] theorem ink_separate : separate.ink = [] := rfl
@[simp] theorem ink_markComment : markComment.ink = [] := rfl
@[simp] theorem ink_note (event : Event) : (note event).ink = [] := rfl

end Step

namespace Script

/-- The ink that a script writes if it does not fail. -/
def ink (s : Script) : List Char :=
  s.flatMap Step.ink

@[simp]
theorem ink_nil : Script.ink [] = [] := rfl

@[simp]
theorem ink_cons (step : Step) (s : Script) : Script.ink (step :: s) = step.ink ++ s.ink :=
  List.flatMap_cons ..

@[simp]
theorem ink_append (a b : Script) : Script.ink (a ++ b) = a.ink ++ b.ink :=
  List.flatMap_append ..

@[simp]
theorem ink_within (event : Event) (s : Script) : (within event s).ink = s.ink := by
  change (s.map Step.deepen).flatMap Step.ink = s.flatMap Step.ink
  rw [List.flatMap_map]
  congr 1
  funext step
  cases step <;> rfl

/-- A script without failures adds its ink to what was written before. -/
theorem inked_run (layout : Layout) (s : Script) (w : Writer String) (h : s.failure = none) :
    inked (s.run .unbounded layout w).2.sink.toList = inked w.sink.toList ++ s.ink := by
  induction s generalizing w with
  | nil => simp [run]
  | cons step rest ih =>
    cases step with
    | fail error => simp [failure] at h
    | log entry => exact ih w h
    | write instruction =>
      simp only [run, Instruction.perform_unbounded]
      rw [ih _ h, Instruction.inked_apply, List.append_assoc, ink_cons]
      rfl

end Script

end Lowering

/-! ## Ink of pieces -/

namespace Meaning

/-- The ink of a list of pieces. -/
def ink (pieces : List Piece) : List Char :=
  pieces.flatMap fun piece ↦ inked piece.text.toList

theorem inked_spell (pieces : List Piece) : inked (spell pieces) = ink pieces := by
  induction pieces with
  | nil => rfl
  | cons piece rest ih =>
    rw [spell, List.flatMap_cons, inked_append, ← spell, ih, ink, ink, List.flatMap_cons]

@[simp] theorem text_code (text : String) : (code text).text = text := rfl
@[simp] theorem text_comment (text : String) : (comment text).text = text := rfl
@[simp] theorem text_semicolon (e : Expression) : (semicolon e).text = ";" := rfl

@[simp]
theorem ink_nil : ink [] = [] := rfl

@[simp]
theorem ink_cons (piece : Piece) (rest : List Piece) :
    ink (piece :: rest) = inked piece.text.toList ++ ink rest :=
  List.flatMap_cons ..

@[simp]
theorem ink_append (a b : List Piece) : ink (a ++ b) = ink a ++ ink b :=
  List.flatMap_append ..

end Meaning

/-! ## Ink of lowerings -/

namespace Lowering

open Meaning (ink)

theorem ink_headerTrivia (trivia : Trivia) :
    (headerTrivia trivia).ink = inked trivia.text.toList := by
  have hbreaks (n : Nat) : Script.ink (List.replicate n .breakLine) = [] := by
    induction n with
    | zero => rfl
    | succ n ih =>
      rw [List.replicate_succ, Script.ink_cons, ih, Step.ink_breakLine, List.nil_append]
  rw [← inked_headerText]
  rcases headerTrivia_cases trivia with ⟨hnil, hempty⟩ | htext
  · rw [hnil, hempty]
    rfl
  · rw [htext, Script.ink_append, Script.ink_cons, hbreaks]
    simp

theorem ink_innerTrivia (trivia : Trivia) :
    (innerTrivia trivia).ink = ink (Meaning.remarks trivia) := by
  unfold innerTrivia Meaning.remarks
  split
  · simp [ink_headerTrivia]
  · rfl

theorem ink_closingTrivia (trivia : Trivia) :
    (closingTrivia trivia).ink = ink (Meaning.remarks trivia) := by
  unfold closingTrivia Meaning.remarks
  split
  · simp [Trivia.trimmedEnd]
  · rfl

theorem ink_beginStatement (leading : Trivia) (scope : Scope) :
    (beginStatement leading scope).ink = inked leading.text.toList := by
  unfold beginStatement
  split
  next hempty => rw [String.isEmpty_iff.mp hempty]; rfl
  next =>
    split <;> simp

theorem ink_operandTrivia (operand : Expression) :
    (operandTrivia operand).ink = ink (Meaning.behindOperand operand) := by
  unfold operandTrivia Meaning.behindOperand
  split <;> simp

theorem ink_markedComment (e : Expression) :
    (markedComment e).ink = inked ("//not yet supported: " ++ e.text).toList := by
  rw [String.toList_append, inked_append]
  simp [markedComment, unsupportedMarker]

theorem ink_lowerExpressionAt (level : Nat) (e : Expression)
    (h : (lowerExpressionAt level e).failure = none) :
    (lowerExpressionAt level e).ink = ink (Meaning.expression e) := by
  have hlevel := level_le_of_failure_eq_none h
  induction e generalizing level with
  | assignment left operator right ihLeft ihRight =>
    rw [lowerExpressionAt, if_neg hlevel] at h ⊢
    simp only [Script.failure_append_eq_none] at h
    obtain ⟨⟨⟨⟨hleft, _⟩, _⟩, hright⟩, _⟩ := h
    have hinkLeft := ihLeft _ hleft (level_le_of_failure_eq_none hleft)
    have hinkRight := ihRight _ hright (level_le_of_failure_eq_none hright)
    rw [Meaning.expression]
    simp [hinkLeft, hinkRight, ink_operandTrivia, Meaning.ofToken]
  | compound left operator right =>
    rw [lowerExpressionAt, if_neg hlevel, Meaning.expression, ink_markedComment]
    simp
  | cast opening type closing operand ih =>
    rw [lowerExpressionAt, if_neg hlevel] at h ⊢
    rw [Meaning.expression, Script.ink_cons, ih _ h (level_le_of_failure_eq_none h)]
    simp
  | verbatim token =>
    rw [lowerExpressionAt, if_neg hlevel, Meaning.expression]
    simp

theorem ink_lowerReturn (value : Option Expression) (h : (lowerReturn value).failure = none) :
    (lowerReturn value).ink = ink (Meaning.returned value) := by
  cases value with
  | none => rfl
  | some value =>
    rw [lowerReturn, Script.failure_append_eq_none] at h
    have hvalue := ink_lowerExpressionAt 0 value h.1
    simp [lowerReturn, Meaning.returned, lowerExpression, hvalue]

theorem ink_lowerDeclarator (declared : Declarator)
    (h : (lowerDeclarator declared).failure = none) :
    (lowerDeclarator declared).ink = ink (Meaning.declarator declared) := by
  unfold lowerDeclarator Meaning.declarator at *
  cases hinit : declared.initializer with
  | none =>
    rw [Meaning.ink_cons, Meaning.text_code, String.toList_append (t := ";"), inked_append]
    simp
  | some value =>
    rw [hinit, Script.failure_append_eq_none] at h
    have hvalue := ink_lowerExpressionAt 0 value h.1
    simp [lowerExpression, hvalue]

/-- The ink of a script made member by member. -/
theorem ink_flatMap {α : Type} (xs : List α) (part : α → Script) (pieces : α → List Meaning.Piece)
    (hink : ∀ x ∈ xs, (part x).failure = none → (part x).ink = ink (pieces x))
    (h : Script.failure (xs.flatMap part) = none) :
    Script.ink (xs.flatMap part) = ink (xs.flatMap pieces) := by
  induction xs with
  | nil => rfl
  | cons x rest ih =>
    rw [List.flatMap_cons, Script.failure_append_eq_none] at h
    have hrest := ih (fun y hy ↦ hink y (List.mem_cons_of_mem _ hy)) h.2
    rw [List.flatMap_cons, List.flatMap_cons, Script.ink_append, Meaning.ink_append, hrest,
      hink x (List.mem_cons_self ..) h.1]

theorem ink_lowerVariables (declared : Variables) (h : (lowerVariables declared).failure = none) :
    (lowerVariables declared).ink = ink (declared.declarators.flatMap Meaning.declarator) := by
  rw [lowerVariables, Script.ink_cons, Step.ink_note, List.nil_append]
  exact ink_flatMap _ _ _ (fun x _ ↦ ink_lowerDeclarator x) h

theorem ink_openIf (leading : Trivia) (condition : Expression) (scope : Scope) :
    (openIf leading condition scope).ink = ink (Meaning.conditional leading condition) := by
  have hcondition : inked condition.text.toList = ink (Meaning.source condition.bare) := by
    rw [condition.text_eq_fullText_bare, ← Meaning.spell_source, Meaning.inked_spell]
  simp [openIf, Meaning.conditional, ink_beginStatement, hcondition]

theorem ink_lowerStatement (scope : Scope) (s : Statement)
    (h : (lowerStatement scope s).failure = none) :
    (lowerStatement scope s).ink = ink (Meaning.statement s) := by
  induction s using Statement.inductionOn generalizing scope with
  | ifThen leading condition body trailing ih =>
    rw [lowerStatement, Script.failure_append_eq_none, Script.failure_whenOk_eq_none] at h
    obtain ⟨_, inner, hinner, hbody⟩ := h
    rw [Script.failure_append_eq_none] at hbody
    rw [lowerStatement, hinner]
    simp [Script.whenOk, Meaning.statement, ink_openIf, closeIf, ih _ hbody.1]
  | ifElse leading condition body elseLeading elseBody trailing ih ihElse =>
    rw [lowerStatement, Script.failure_append_eq_none, Script.failure_whenOk_eq_none] at h
    obtain ⟨_, inner, hinner, hbranches⟩ := h
    simp only [Script.failure_append_eq_none] at hbranches
    obtain ⟨⟨⟨hbody, _⟩, helse⟩, _⟩ := hbranches
    rw [lowerStatement, hinner]
    simp [Script.whenOk, Meaning.statement, ink_openIf, closeIf, elseLine, ink_innerTrivia,
      ih _ hbody, ihElse _ helse]
  | ret leading value trailing =>
    simp only [lowerStatement, Script.failure_append_eq_none] at h
    simp [lowerStatement, Meaning.statement, ink_beginStatement, ink_lowerReturn _ h.1.2]
  | locals leading declared trailing =>
    simp only [lowerStatement, Script.failure_append_eq_none] at h
    simp [lowerStatement, Meaning.statement, ink_beginStatement, ink_lowerVariables _ h.1.2]
  | expression leading value trailing =>
    simp only [lowerStatement, Script.failure_append_eq_none] at h
    have hvalue := ink_lowerExpressionAt 0 value h.1.2
    simp [lowerStatement, Meaning.statement, ink_beginStatement, lowerExpression, hvalue]
  | block leading statements trailing ih =>
    rw [lowerStatement, Script.failure_whenOk_eq_none] at h
    obtain ⟨inner, hinner, hbody⟩ := h
    rw [lowerStatements_eq_flatMap, Script.failure_append_eq_none] at hbody
    have hstatements := ink_flatMap statements (lowerStatement inner) Meaning.statement
      (fun s hs ↦ ih s hs inner) hbody.2
    rw [lowerStatement, hinner, Meaning.statement, Meaning.statements_eq_flatMap]
    simp [Script.whenOk, ink_innerTrivia, lowerStatements_eq_flatMap, hstatements]
  | unsupported node => rfl

theorem ink_lowerStatements (scope : Scope) (list : List Statement)
    (h : (lowerStatements scope list).failure = none) :
    (lowerStatements scope list).ink = ink (Meaning.statements list) := by
  rw [lowerStatements_eq_flatMap] at h ⊢
  rw [Meaning.statements_eq_flatMap]
  exact ink_flatMap _ _ _ (fun s _ ↦ ink_lowerStatement scope s) h

theorem ink_lowerFunction (leading : Trivia) (header : String) (body : Block) (trailing : Trivia)
    (scope : Scope) (h : (lowerFunction leading header body trailing scope).failure = none) :
    (lowerFunction leading header body trailing scope).ink =
      ink (Meaning.function leading header (some body) trailing) := by
  have hleading : Script.ink (if body.leading.hasComments then
      [.verbatim body.leading.trimmedEnd] else []) = ink (Meaning.remarks body.leading) := by
    unfold Meaning.remarks
    split
    · simp [Trivia.trimmedEnd]
    · rfl
  simp only [lowerFunction, Script.failure_append_eq_none] at h
  have hbody := h.1.1.2
  obtain ⟨inner, _, hlower⟩ := lowerBody_eq hbody
  rw [hlower, Script.failure_append_eq_none] at hbody
  rw [lowerFunction, hlower]
  simp [Meaning.function, ink_headerTrivia, hleading, ink_closingTrivia,
    ink_lowerStatements _ _ hbody.2]

theorem ink_lowerClassMember {scope : Scope} {className : String} (member : Declaration)
    (hscope : scope.enclosingClass = some className)
    (h : (lowerClassMember scope member).failure = none) :
    (lowerClassMember scope member).ink = ink (Meaning.classMember className member) := by
  cases member with
  | methodDecl node =>
    obtain ⟨body, inner, hbody, _, hlower⟩ := lowerMethod_eq hscope h
    rw [lowerClassMember, hlower, Script.failure_within] at h
    rw [lowerClassMember, hlower, Script.ink_within, ink_lowerFunction _ _ _ _ _ h,
      Meaning.classMember, hbody, parameterNames]
  | constructorDecl node =>
    obtain ⟨body, inner, hbody, _, hlower⟩ := lowerConstructor_eq hscope h
    rw [lowerClassMember, hlower, Script.failure_within] at h
    rw [lowerClassMember, hlower, Script.ink_within, ink_lowerFunction _ _ _ _ _ h,
      Meaning.classMember, hbody]
  | fieldDecl node =>
    obtain ⟨inner, _, hlower⟩ := lowerField_eq hscope h
    simp only [lowerClassMember, hlower, Script.failure_append_eq_none] at h
    simp [lowerClassMember, hlower, Meaning.classMember, ink_beginStatement,
      ink_lowerVariables _ h.1.2]
  | namespaceDecl leading name members trailing => rfl
  | classDecl leading modifiers identifier members trailing => rfl
  | unsupported node => rfl

/-! ## Ink of classes and namespaces -/

theorem ink_constructorCall (options : Options) (namespaceName className : String)
    (scope : Scope) :
    (constructorCall options namespaceName className scope).ink =
      ink (Meaning.constructorCall options.annotate namespaceName className) := by
  unfold constructorCall Meaning.constructorCall
  cases options.annotate <;> simp

theorem ink_lowerNamespaceMember {options : Options} {scope : Scope} {namespaceName : String}
    (member : Declaration) (hscope : scope.enclosingNamespace = some namespaceName)
    (h : (lowerNamespaceMember options scope member).failure = none) :
    (lowerNamespaceMember options scope member).ink =
      ink (Meaning.namespaceMember options.annotate namespaceName member) := by
  cases member with
  | classDecl leading modifiers identifier members trailing =>
    rw [lowerNamespaceMember] at h ⊢
    have hlower := lowerClass_eq hscope h
    rw [hlower, Script.failure_within] at h
    simp only [Script.failure_append_eq_none] at h
    have hmembers := ink_flatMap members _ (Meaning.classMember identifier.valueText)
      (fun member _ ↦ ink_lowerClassMember member rfl) h.1.1.1.2
    rw [hlower, Script.ink_within, Meaning.namespaceMember, ClassDecl.hasConstructor]
    cases members.any Declaration.isConstructor <;>
      simp [ink_headerTrivia, ink_closingTrivia, ink_constructorCall, hmembers]
  | namespaceDecl leading name members trailing => rfl
  | constructorDecl node => rfl
  | methodDecl node => rfl
  | fieldDecl node => rfl
  | unsupported node => rfl

theorem ink_lookups (list : List String) (namespaceName : String) (depth : Nat) :
    Script.ink (list.flatMap
        (fun name ↦ [.openLine depth, .code (lookup namespaceName name)])) =
      ink (list.map (fun name ↦ Meaning.code (name ++ " = document.querySelector(\"" ++
        namespaceName ++ "[name='" ++ name ++ "']\");"))) := by
  induction list with
  | nil => rfl
  | cons name rest ih =>
    rw [List.flatMap_cons, Script.ink_append, ih, List.map_cons, Meaning.ink_cons,
      Script.ink_cons, Script.ink_cons, Script.ink_nil, List.append_nil]
    rfl

theorem ink_lowerReferences {names : NodeNames} {options : Options} {scope : Scope}
    {namespaceName : String} (hscope : scope.enclosingNamespace = some namespaceName)
    (h : (lowerReferences names options scope).failure = none) :
    (lowerReferences names options scope).ink =
      ink (Meaning.references names.names options.annotate options.readyEvent
        namespaceName) := by
  have hnote : (referencesNote options scope).ink = ink (if options.annotate then
      [Meaning.comment "//Auto Generated Refs to Visual Nodes"] else []) := by
    unfold referencesNote
    cases options.annotate <;> rfl
  cases hnames : names.names.isEmpty with
  | true => simp [lowerReferences, hscope, hnames, Meaning.references]
  | false =>
    obtain ⟨inner, _, hlower⟩ := lowerReferences_eq hscope hnames h
    have hhead : Script.ink
        [.openLine scope.depth, .code ("var " ++ ", ".intercalate names.names ++ ";"),
         .openLine scope.depth, .code (readyHandler options.readyEvent)] =
        ink [Meaning.code ("var " ++ ", ".intercalate names.names ++ ";"),
          Meaning.code ("document.addEventListener('" ++
            String.ofList (escape options.readyEvent.toList) ++ "', function()\x7b")] := by
      simp only [Script.ink_cons, Script.ink_nil, Step.ink_openLine, Step.ink_code,
        Meaning.ink_cons, Meaning.ink_nil, Meaning.text_code, List.nil_append]
      rfl
    have htail : Script.ink [.openLine scope.depth, .code "\x7d, false);", .blankLine] =
        ink [Meaning.code "\x7d, false);"] := by
      simp only [Script.ink_cons, Script.ink_nil, Step.ink_openLine, Step.ink_code,
        Step.ink_blankLine, Meaning.ink_cons, Meaning.ink_nil, Meaning.text_code,
        List.nil_append]
    rw [hlower, Meaning.references, hnames, Script.ink_append, Script.ink_append,
      Script.ink_append, hnote, hhead, ink_lookups, htail]
    simp only [Bool.false_eq_true, if_false, Meaning.ink_append, List.append_assoc]

theorem ink_lowerTopLevel (names : NodeNames) (options : Options) (member : Declaration)
    (h : (lowerTopLevel names options member).failure = none) :
    (lowerTopLevel names options member).ink =
      ink (Meaning.topLevel names.names options.annotate options.readyEvent member) := by
  cases member with
  | namespaceDecl leading name members trailing =>
    rw [lowerTopLevel] at h ⊢
    obtain ⟨inner, _, hlower⟩ := lowerNamespace_eq h
    rw [hlower, Script.failure_within] at h
    simp only [Script.failure_append_eq_none] at h
    have hreferences := ink_lowerReferences rfl h.2.1.1.1
    have hmembers := ink_flatMap members _
      (Meaning.namespaceMember options.annotate name.valueText)
      (fun member _ ↦ ink_lowerNamespaceMember member rfl) h.2.1.1.2
    rw [hlower, Script.ink_within, Meaning.topLevel]
    simp [ink_headerTrivia, ink_closingTrivia, hreferences, hmembers]
  | classDecl leading modifiers identifier members trailing => rfl
  | constructorDecl node => rfl
  | methodDecl node => rfl
  | fieldDecl node => rfl
  | unsupported node => rfl

end Lowering

open Lowering

/-- Blanks aside, an emitted script is spelled by the pieces that its file denotes. -/
theorem inked_emit (unit : CompilationUnit) (names : NodeNames) (options : Options) (text : String)
    (h : emit unit names options = .ok text) :
    inked text.toList =
      inked (Meaning.spell
        (Meaning.file names.names options.annotate options.readyEvent unit)) := by
  obtain ⟨hfailure, rfl⟩ := emit_eq_ok_iff.mp h
  have hmembers : Script.failure (unit.members.flatMap (lowerTopLevel names options)) = none :=
    ((Script.failure_append_eq_none _ _).mp hfailure).1
  have hink := ink_flatMap unit.members _ _
    (fun member _ ↦ ink_lowerTopLevel names options member) hmembers
  calc
    inked ((lowerUnit names options unit).run .unbounded options.toLayout .empty).2.sink.toList =
        (lowerUnit names options unit).ink := Script.inked_run _ _ _ hfailure
    _ = Script.ink (unit.members.flatMap (lowerTopLevel names options)) := by
      rw [lowerUnit, Script.ink_append, Script.ink_cons, Step.ink_endLine, Script.ink_nil,
        List.append_nil, List.append_nil]
    _ = Meaning.ink (Meaning.file names.names options.annotate options.readyEvent unit) := hink
    _ = _ := (Meaning.inked_spell _).symm

/-- A namespace with a comment before it, whose class has a constructor with a marked statement. -/
def timerFile : CompilationUnit where
  members :=
    [.namespaceDecl { text := "\n// the app\n" } { text := "App" }
      [.classDecl {} [] { text := " Main " }
        [.constructorDecl
          { identifier := { text := "Main" },
            body := some
              { statements :=
                  [.expression { text := "\n  " }
                    (.assignWith "+=" (.ofText "timer.Tick") (.ofText "OnTick"))
                    { text := " // starts" },
                   .ret {} (some (.castTo (.predefined { text := "int" }) (.ofText "x"))) {}] } }]
        {}]
      {}]

def timerNames : NodeNames where
  names := ["slider"]
  identifiers := by decide +kernel

theorem inked_emit_timerFile :
    ∃ text, emit timerFile timerNames {} = .ok text ∧
      inked text.toList =
        inked (Meaning.spell
          (Meaning.file ["slider"] true "DOMContentLoaded" timerFile)) := by
  have hfailure : (lowerUnit timerNames {} timerFile).failure = none := by decide +kernel
  have hemit := emit_eq_ok_iff.mpr ⟨hfailure, rfl⟩
  exact ⟨_, hemit, inked_emit timerFile timerNames {} _ hemit⟩

end CodeBehind
