import CodeBehind.Proofs.Inversion
import CodeBehind.Proofs.LineWriting
import CodeBehind.Proofs.Rules
import CodeBehind.Proofs.SourceText
import CodeBehind.Proofs.Statements

/-!
# Files line by line

A file without trivia is lowered to a script that prints the lines of the line printer.  Scopes make
the indentation: a line stands as deep as the scope it is written in.  Values and variables go on
with the content of a line, statements and declarations print lines.
-/

namespace CodeBehind

open Source Lowering

namespace Printer

/-! ## Files without trivia -/

/-- A token that is all on one line and has nothing around it. -/
structure PlainToken (token : Token) : Prop where
  text : Unbroken token.text
  leading : token.leading = {}
  trailing : token.trailing = {}

/-- Only operators have trivia, and all is on one line. -/
def Plain : Expression → Prop
  | .assignment left operator right => Plain left ∧ Unbroken operator.fullText ∧ Plain right
  | .compound left operator right => Plain left ∧ Unbroken operator.fullText ∧ Plain right
  | .cast opening type closing operand =>
    PlainToken opening ∧ PlainToken type.token ∧ PlainToken closing ∧ Plain operand
  | .verbatim token => PlainToken token

/-- Whether there is a compound assignment anywhere. -/
def hasCompound : Expression → Bool
  | .assignment left _ right => hasCompound left || hasCompound right
  | .compound .. => true
  | .cast _ _ _ operand => hasCompound operand
  | .verbatim _ => false

/-- There is no trivia but around operators, and no token is broken over lines.  Values have no
compound assignments, and a declaration has variables. -/
def rule : Rule where
  trivia trivia := trivia = {}
  name token := Unbroken token.text
  value e := Plain e ∧ hasCompound e = false
  condition := Plain
  declared declared := declared.declarators ≠ []

theorem PlainToken.unbroken {token : Token} (h : PlainToken token) : Unbroken token.fullText := by
  rw [Token.fullText, h.leading, h.trailing]
  simpa [Unbroken] using h.text

namespace Plain

variable {e : Expression}

theorem leading (h : Plain e) : e.leading = {} := by
  induction e with
  | assignment left operator right ihLeft => exact ihLeft h.1
  | compound left operator right ihLeft => exact ihLeft h.1
  | cast opening type closing operand => exact h.1.leading
  | verbatim token => exact PlainToken.leading h

theorem trailing (h : Plain e) : e.trailing = {} := by
  induction e with
  | assignment left operator right _ ihRight => exact ihRight h.2.2
  | compound left operator right _ ihRight => exact ihRight h.2.2
  | cast opening type closing operand ih => exact ih h.2.2.2
  | verbatim token => exact PlainToken.trailing h

theorem unbroken_fullText (h : Plain e) : Unbroken e.fullText := by
  induction e with
  | assignment left operator right ihLeft ihRight =>
    simp only [Expression.fullText, unbroken_append]
    exact ⟨⟨ihLeft h.1, h.2.1⟩, ihRight h.2.2⟩
  | compound left operator right ihLeft ihRight =>
    simp only [Expression.fullText, unbroken_append]
    exact ⟨⟨ihLeft h.1, h.2.1⟩, ihRight h.2.2⟩
  | cast opening type closing operand ih =>
    simp only [Expression.fullText, unbroken_append]
    exact ⟨⟨⟨h.1.unbroken, h.2.1.unbroken⟩, h.2.2.1.unbroken⟩, ih h.2.2.2⟩
  | verbatim token => exact PlainToken.unbroken h

/-- Without outer trivia nothing is cut off. -/
theorem text_eq (h : Plain e) : e.text = e.fullText := by
  rw [e.text_eq_fullText_bare, e.fullText_eq_bare, h.leading, h.trailing, String.empty_append,
    String.append_empty]

end Plain

/-! ## Values and variables -/

section Values

variable {layout : Layout}

theorem fills_operandTrivia {operand : Expression} (h : Plain operand) :
    Fills layout (operandTrivia operand) id := by
  unfold operandTrivia
  rw [h.trailing]
  split
  · exact fun _ _ _ _ hbegun ↦ hbegun
  · exact fun _ _ _ _ hbegun ↦ hbegun

theorem fills_operator {operator : Token} (h : Unbroken operator.fullText) :
    Fills layout
      [.verbatim operator.leading.text, .code operator.text, .verbatim operator.trailing.text]
      fun content ↦ content ++ operator.fullText := by
  rw [Token.fullText, unbroken_append, unbroken_append] at h
  have hfills : Fills layout _ _ :=
    (fills_verbatim h.1.1).append ((fills_code h.1.2).append (fills_verbatim h.2))
  simpa only [Token.fullText, String.append_assoc, List.cons_append, List.nil_append] using hfills

/-- The levels below the top are only counted, so the induction is over any of them. -/
theorem fills_lowerExpressionAt {e : Expression} (hplain : Plain e) (hvalue : hasCompound e = false)
    {level : Nat} (h : (lowerExpressionAt level e).failure = none) :
    Fills layout (lowerExpressionAt level e) fun content ↦ withValue content e := by
  induction e generalizing level with
  | assignment left operator right ihLeft ihRight =>
    have hlevel := level_le_of_failure_eq_none h
    rw [hasCompound, Bool.or_eq_false_iff] at hvalue
    rw [lowerExpressionAt, if_neg hlevel] at h ⊢
    simp only [Script.failure_append_eq_none] at h
    obtain ⟨⟨⟨⟨hleft, _⟩, _⟩, hright⟩, _⟩ := h
    have hfillsLeft := (ihLeft hplain.1 hvalue.1 hleft).append (fills_operandTrivia hplain.1)
    have hfillsRight := ihRight hplain.2.2 hvalue.2 hright
    exact ((hfillsLeft.append (fills_operator hplain.2.1)).append hfillsRight).append
      (fills_operandTrivia hplain.2.2)
  | compound left operator right => cases hvalue
  | cast opening type closing operand ih =>
    have hlevel := level_le_of_failure_eq_none h
    rw [lowerExpressionAt, if_neg hlevel] at h ⊢
    exact fills_separate.append (ih hplain.2.2.2 hvalue h)
  | verbatim token =>
    rw [lowerExpressionAt, if_neg (level_le_of_failure_eq_none h)]
    exact fills_code (PlainToken.text hplain)

theorem fills_lowerExpression {e : Expression} (hplain : Plain e ∧ hasCompound e = false)
    (h : (lowerExpression e).failure = none) :
    Fills layout (lowerExpression e) fun content ↦ withValue content e :=
  fills_lowerExpressionAt hplain.1 hplain.2 h

theorem fills_lowerDeclarator {declared : Declarator} (hplain : rule.OfDeclarator declared)
    (h : (lowerDeclarator declared).failure = none) :
    Fills layout (lowerDeclarator declared) fun content ↦ withDeclarator content declared := by
  have hname : Unbroken declared.identifier.valueText := Unbroken.valueText hplain.identifier
  have hvalues := hplain.initializer
  unfold lowerDeclarator withDeclarator at *
  cases hinit : declared.initializer with
  | none => exact (fills_code (unbroken_append.mpr ⟨by decide, hname⟩)).append fills_terminator
  | some value =>
    simp only [hinit] at h hvalues ⊢
    have hstart : Unbroken (" " ++ declared.identifier.valueText ++ " = ") := by
      simp only [unbroken_append]
      exact ⟨⟨by decide, hname⟩, by decide⟩
    rw [List.cons_append, ← List.singleton_append, ← List.append_assoc] at h ⊢
    simp only [Script.failure_append_eq_none] at h
    exact ((fills_code hstart).append (fills_lowerExpression (hvalues value rfl) h.1.2)).append
      fills_terminator

/-- Every variable ends in a semicolon, the last one too. -/
theorem hasInk_foldl_withDeclarator {list : List Declarator} {line : String}
    (h : list ≠ [] ∨ HasInk line) : HasInk (list.foldl withDeclarator line) := by
  induction list generalizing line with
  | nil => exact h.resolve_left fun hne ↦ hne rfl
  | cons first rest ih =>
    refine ih (.inr ?_)
    unfold withDeclarator
    split
    · exact HasInk.append_right (by decide) _
    · exact HasInk.append_right (by decide) _

theorem fills_lowerVariables {declared : Variables} (hplain : rule.OfVariables declared)
    (h : (lowerVariables declared).failure = none) :
    Fills layout (lowerVariables declared)
      fun content ↦ declared.declarators.foldl withDeclarator content := by
  apply Fills.flatMap
  intro d hd
  exact fills_lowerDeclarator (hplain.each d hd) (Script.failure_flatMap_eq_none.mp h d hd)

theorem fills_lowerReturn {value : Option Expression} (hplain : ∀ e ∈ value, rule.value e)
    (h : (lowerReturn value).failure = none) :
    ∃ fill, Fills layout (lowerReturn value) fill ∧ fill "" = returned value := by
  cases value with
  | none => exact ⟨_, (fills_code (by decide)).append fills_terminator, rfl⟩
  | some e =>
    rw [lowerReturn, List.cons_append, ← List.singleton_append, ← List.append_assoc] at h ⊢
    simp only [Script.failure_append_eq_none] at h
    exact ⟨_, ((fills_code (by decide)).append (fills_lowerExpression (hplain e rfl) h.1.2)).append
      fills_terminator, rfl⟩

end Values

/-! ## Statements -/

section Statements

variable {layout : Layout} (scope : Scope)

/-- A statement of one line, without trivia. -/
theorem prints_statementLine {s : Script} {fill : String → String} {leading trailing : Trivia}
    (hleading : leading = {}) (hs : Fills layout s fill) (hink : HasInk (fill ""))
    (htrailing : trailing = {}) :
    Prints layout (beginStatement leading scope ++ s ++ [.verbatim trailing.text])
      [.filled scope.depth (fill "")] := by
  subst hleading htrailing
  exact (hs.prints hink scope.depth).append prints_verbatim_empty

theorem prints_openIf {leading : Trivia} {condition : Expression} (hleading : leading = {})
    (hcondition : Plain condition) :
    Prints layout (openIf leading condition scope)
      [.filled scope.depth ("if(" ++ condition.fullText ++ ")\x7b")] := by
  subst hleading
  have hfills : Fills layout _ _ := (fills_code (by decide : Unbroken "if(")).append
    ((fills_code hcondition.unbroken_fullText).append (fills_code (by decide : Unbroken ")\x7b")))
  rw [openIf, hcondition.text_eq]
  exact hfills.prints (HasInk.append_right (by decide) _) scope.depth

theorem prints_closeIf {trailing : Trivia} (h : trailing = {}) :
    Prints layout (closeIf trailing scope) [.filled scope.depth "\x7d"] := by
  subst h
  exact prints_codeLine (by decide) scope.depth

theorem prints_elseLine {leading : Trivia} (h : leading = {}) :
    Prints layout (elseLine leading scope) [.filled scope.depth "\x7delse\x7b"] := by
  subst h
  exact prints_codeLine (by decide) scope.depth

/-- The scope of a statement indents its lines, and only the branches of a conditional have a scope
of their own. -/
theorem prints_lowerStatement {scope : Scope} {s : Statement} (hplain : rule.OfStatement s)
    (h : (lowerStatement scope s).failure = none) :
    Prints layout (lowerStatement scope s) (statement scope.depth s) := by
  induction s using Statement.inductionOn generalizing scope with
  | ifThen leading condition body trailing ih =>
    rw [Rule.OfStatement] at hplain
    obtain ⟨hleading, hcondition, hbody, htrailing⟩ := hplain
    rw [lowerStatement, Script.failure_append_eq_none] at h
    obtain ⟨inner, hinner, hscript, hrest⟩ := Script.whenOk_eq h.2
    rw [Script.failure_append_eq_none] at hrest
    have hprints := ih hbody hrest.1
    rw [Scope.depth_of_enter hinner] at hprints
    rw [lowerStatement, hscript, statement, List.append_assoc]
    exact (prints_openIf scope hleading hcondition).append (hprints.append (prints_closeIf scope htrailing))
  | ifElse leading condition body elseLeading elseBody trailing ih ihElse =>
    rw [Rule.OfStatement] at hplain
    obtain ⟨hleading, hcondition, hbody, helseLeading, helse, htrailing⟩ := hplain
    rw [lowerStatement, Script.failure_append_eq_none] at h
    obtain ⟨inner, hinner, hscript, hrest⟩ := Script.whenOk_eq h.2
    simp only [Script.failure_append_eq_none] at hrest
    have hprints := ih hbody hrest.1.1.1
    have hprintsElse := ihElse helse hrest.1.2
    rw [Scope.depth_of_enter hinner] at hprints hprintsElse
    have hwhole := (prints_openIf scope hleading hcondition).append
      (((hprints.append (prints_elseLine scope helseLeading)).append
        hprintsElse).append (prints_closeIf scope htrailing))
    rw [lowerStatement, hscript, statement]
    simpa only [List.append_assoc] using hwhole
  | ret leading value trailing =>
    rw [Rule.OfStatement] at hplain
    rw [lowerStatement] at h ⊢
    simp only [Script.failure_append_eq_none] at h
    obtain ⟨fill, (hfills : Fills layout _ fill), hfill⟩ := fills_lowerReturn hplain.2.1 h.1.2
    rw [statement, ← hfill]
    refine prints_statementLine scope hplain.1 hfills ?_ hplain.2.2
    rw [hfill]
    cases value with
    | none => decide
    | some e => exact HasInk.append_right (by decide) _
  | locals leading declared trailing =>
    rw [Rule.OfStatement] at hplain
    rw [lowerStatement] at h ⊢
    simp only [Script.failure_append_eq_none] at h
    rw [statement]
    exact prints_statementLine scope hplain.1 (fills_lowerVariables hplain.2.1 h.1.2)
      (hasInk_foldl_withDeclarator (.inl hplain.2.1.whole)) hplain.2.2
  | expression leading value trailing =>
    rw [Rule.OfStatement] at hplain
    rw [lowerStatement] at h ⊢
    simp only [Script.failure_append_eq_none] at h
    have hfills : Fills layout _ _ :=
      (fills_lowerExpression hplain.2.1 h.1.2).append fills_terminator
    have hprints := prints_statementLine scope hplain.1 hfills
      (HasInk.append_right (by decide) _) hplain.2.2
    rw [statement]
    simpa only [List.append_assoc, List.cons_append, List.nil_append] using hprints
  | block leading inner trailing ih =>
    rw [Rule.OfStatement, Rule.ofStatements_iff] at hplain
    rw [lowerStatement] at h
    obtain ⟨within, hwithin, hscript, hrest⟩ := Script.whenOk_eq h
    rw [hplain.1, lowerStatements_eq_flatMap] at hscript hrest
    rw [lowerStatement, hplain.1, hscript, statement, statements_eq_flatMap,
      ← Scope.depth_of_enterBlock hwithin]
    rw [Script.failure_append_eq_none] at hrest
    refine prints_nil.append (Prints.flatMap fun s hs ↦ ?_)
    exact ih s hs (hplain.2 s hs) (Script.failure_flatMap_eq_none.mp hrest.2 s hs)
  | unsupported node =>
    rw [lowerStatement, statement]
    exact prints_note _

theorem prints_lowerStatements {scope : Scope} {list : List Statement}
    (hplain : rule.OfStatements list) (h : (lowerStatements scope list).failure = none) :
    Prints layout (lowerStatements scope list) (statements scope.depth list) := by
  rw [Rule.ofStatements_iff] at hplain
  rw [lowerStatements_eq_flatMap] at h ⊢
  rw [statements_eq_flatMap]
  apply Prints.flatMap
  intro s hs
  exact prints_lowerStatement (hplain s hs) (Script.failure_flatMap_eq_none.mp h s hs)

end Statements

/-! ## Members of a class -/

section Members

variable {layout : Layout} {scope : Scope} {className : String}

theorem prints_lowerBody {body : Block} (hleading : body.leading = {})
    (hplain : rule.OfStatements body.statements) (h : (lowerBody body scope).failure = none) :
    Prints layout (lowerBody body scope) (statements (scope.depth + 1) body.statements) := by
  obtain ⟨inner, hinner, hbody⟩ := lowerBody_eq h
  rw [hbody, hleading] at h ⊢
  rw [← Scope.depth_of_enter hinner]
  exact prints_nil.append (prints_lowerStatements hplain h)

theorem prints_lowerFunction {leading trailing : Trivia} {header : String} {body : Block}
    (hscope : scope.depth = 2) (hheader : Content header)
    (hplain : rule.OfFunction leading (some body) trailing)
    (h : (lowerFunction leading header body trailing scope).failure = none) :
    Prints layout (lowerFunction leading header body trailing scope)
      (function header (some body)) := by
  rw [lowerFunction] at h
  simp only [Script.failure_append_eq_none] at h
  have hbody : Prints layout (lowerBody body scope) _ :=
    prints_lowerBody (hplain.bodyLeading body rfl) (hplain.statements body rfl) h.1.1.2
  rw [hscope] at hbody
  have hframe := prints_frame scope.depth hplain.leading hheader hbody
    (by decide : Content "\x7d;") prints_nil hplain.trailing
  rw [List.append_nil, List.append_nil, hscope] at hframe
  rw [lowerFunction, hscope, function]
  exact hframe

theorem prints_lowerField {node : FieldDecl} (hclass : scope.enclosingClass = some className)
    (hscope : scope.depth = 1) (hplain : rule.OfClassMember (.fieldDecl node))
    (h : (lowerField node scope).failure = none) :
    Prints layout (lowerField node scope) (classMember className (.fieldDecl node)) := by
  obtain ⟨hleading, hdeclared, htrailing⟩ := hplain
  obtain ⟨inner, hinner, hlower⟩ := lowerField_eq hclass h
  rw [hlower] at h ⊢
  simp only [Script.failure_append_eq_none] at h
  have hprints : Prints layout _ _ := prints_statementLine inner hleading
    (fills_lowerVariables hdeclared h.1.2) (hasInk_foldl_withDeclarator (.inl hdeclared.whole))
    htrailing
  rw [Scope.depth_of_enter hinner, hscope] at hprints
  exact hprints

theorem prints_lowerClassMember {member : Declaration}
    (hclass : scope.enclosingClass = some className) (hname : Unbroken className)
    (hscope : scope.depth = 1) (hplain : rule.OfClassMember member)
    (h : (lowerClassMember scope member).failure = none) :
    Prints layout (lowerClassMember scope member) (classMember className member) := by
  cases member with
  | methodDecl node =>
    obtain ⟨hfunction, hidentifier, hparameters⟩ := hplain
    rw [lowerClassMember] at h ⊢
    obtain ⟨body, inner, hbody, hinner, hlower⟩ := lowerMethod_eq hclass h
    have hnames : Unbroken (parameterNames node.parameters) := by
      apply unbroken_intercalate
      intro name hmem
      obtain ⟨p, hp, rfl⟩ := List.mem_map.mp hmem
      exact Unbroken.valueText (hparameters p hp)
    have hheader : Content (className ++ "." ++ node.identifier.valueText ++ " = function(" ++
        parameterNames node.parameters ++ ") \x7b") := by
      refine Content.append ?_ (by decide)
      simp only [unbroken_append]
      exact ⟨⟨⟨⟨hname, by decide⟩, Unbroken.valueText hidentifier⟩, by decide⟩, hnames⟩
    rw [hlower, Script.failure_within] at h
    rw [hlower, classMember, hbody]
    rw [hbody] at hfunction
    have hdepth : inner.depth = 2 := by rw [Scope.depth_of_enter hinner, hscope]
    exact (prints_lowerFunction hdepth hheader hfunction h).within _
  | constructorDecl node =>
    rw [lowerClassMember] at h ⊢
    obtain ⟨body, inner, hbody, hinner, hlower⟩ := lowerConstructor_eq hclass h
    have hheader : Content (className ++ "." ++ className ++ " = function() \x7b") := by
      refine Content.append ?_ (by decide)
      simp only [unbroken_append]
      exact ⟨⟨hname, by decide⟩, hname⟩
    rw [hlower, Script.failure_within] at h
    rw [hlower, classMember, hbody]
    rw [Rule.OfClassMember, hbody] at hplain
    have hdepth : inner.depth = 2 := by rw [Scope.depth_of_enter hinner, hscope]
    exact (prints_lowerFunction hdepth hheader hplain h).within _
  | fieldDecl node => exact prints_lowerField hclass hscope hplain h
  | namespaceDecl leading name members trailing => exact prints_note _
  | classDecl leading modifiers identifier members trailing => exact prints_note _
  | unsupported node => exact prints_note _

end Members

/-! ## Classes and namespaces -/

section Declarations

variable {layout : Layout} {options : Options} {scope : Scope} {namespaceName : String}

/-- A remark of the printer is a comment on a line of its own. -/
theorem prints_remark {text : String} (annotate : Bool) (h : Content text)
    (hscope : scope.depth = 1) :
    Prints layout (if annotate then [.blankLine, .openLine scope.depth, .code text] else [])
      (remark annotate text) := by
  rw [hscope]
  cases annotate with
  | true => exact prints_blankLine.append (prints_codeLine h 1)
  | false => exact prints_nil

theorem prints_constructorCall {name : String} (hscope : scope.depth = 1)
    (hnamespace : Unbroken namespaceName) (hname : Unbroken name) :
    Prints layout (Lowering.constructorCall options namespaceName name scope)
      (constructorCall options.annotate namespaceName name) := by
  have hcall : Content (namespaceName ++ "." ++ name ++ "." ++ name ++ "();") := by
    refine Content.append ?_ (by decide)
    simp only [unbroken_append]
    exact ⟨⟨⟨⟨hnamespace, by decide⟩, hname⟩, by decide⟩, hname⟩
  have hremark : Prints layout _ _ := prints_remark options.annotate
    (by decide : Content "//call constructor") hscope
  have hwhole := hremark.append (prints_endedLine hcall 1)
  rw [← hscope] at hwhole
  rw [Lowering.constructorCall, constructorCall, ← hscope]
  exact hwhole

theorem content_closure {name : String} (h : Unbroken name) :
    Content ("(function(" ++ name ++ ")\x7b") :=
  Content.append (unbroken_append.mpr ⟨by decide, h⟩) (by decide)

theorem prints_lowerClass {leading trailing : Trivia} {modifiers : List Token} {identifier : Token}
    {members : List Declaration} (hnamespace : scope.enclosingNamespace = some namespaceName)
    (hname : Unbroken namespaceName) (hscope : scope.depth = 1)
    (hplain : rule.OfNamespaceMember (.classDecl leading modifiers identifier members trailing))
    (h : (lowerClass options { leading, modifiers, identifier, members, trailing }
      scope).failure = none) :
    Prints layout (lowerClass options { leading, modifiers, identifier, members, trailing } scope)
      (namespaceMember options.annotate namespaceName
        (.classDecl leading modifiers identifier members trailing)) := by
  obtain ⟨hleading, hidentifier, hmembers, htrailing⟩ := hplain
  have hclass : Unbroken identifier.valueText := Unbroken.valueText hidentifier
  have hlower := lowerClass_eq hnamespace h
  rw [hlower, Script.failure_within] at h
  simp only [Script.failure_append_eq_none] at h
  have hinside : Prints layout
      (members.flatMap (lowerClassMember (scope.inClass identifier.valueText)))
      (members.flatMap (classMember identifier.valueText)) := by
    apply Prints.flatMap
    intro m hm
    exact prints_lowerClassMember rfl hclass hscope (hmembers m hm)
      (Script.failure_flatMap_eq_none.mp h.1.1.1.2 m hm)
  have hclosing : Content ("\x7d)(" ++ namespaceName ++ "." ++ identifier.valueText ++ " = " ++
      namespaceName ++ "." ++ identifier.valueText ++ " || \x7b\x7d);") := by
    refine Content.append ?_ (by decide)
    simp only [unbroken_append]
    exact ⟨⟨⟨⟨⟨⟨⟨by decide, hname⟩, by decide⟩, hclass⟩, by decide⟩, hname⟩, by decide⟩, hclass⟩
  have hcall : Prints layout
      (if members.any Declaration.isConstructor then
        Lowering.constructorCall options namespaceName identifier.valueText scope else [])
      (if members.any Declaration.isConstructor then
        constructorCall options.annotate namespaceName identifier.valueText else []) := by
    split
    · exact prints_constructorCall hscope hname hclass
    · exact prints_nil
  have hframe := prints_frame scope.depth hleading (content_closure hclass) hinside hclosing hcall
    htrailing
  rw [hlower, namespaceMember, ← hscope]
  exact hframe.within _

theorem prints_lowerNamespaceMember {member : Declaration}
    (hnamespace : scope.enclosingNamespace = some namespaceName) (hname : Unbroken namespaceName)
    (hscope : scope.depth = 1) (hplain : rule.OfNamespaceMember member)
    (h : (lowerNamespaceMember options scope member).failure = none) :
    Prints layout (lowerNamespaceMember options scope member)
      (namespaceMember options.annotate namespaceName member) := by
  cases member with
  | classDecl leading modifiers identifier members trailing =>
    exact prints_lowerClass hnamespace hname hscope hplain h
  | namespaceDecl leading name members trailing => exact prints_note _
  | constructorDecl node => exact prints_note _
  | methodDecl node => exact prints_note _
  | fieldDecl node => exact prints_note _
  | unsupported node => exact prints_note _

theorem content_lookup {name : String} (hnamespace : Unbroken namespaceName)
    (hname : Unbroken name) : Content (lookup namespaceName name) := by
  refine Content.append ?_ (by decide)
  simp only [unbroken_append]
  exact ⟨⟨⟨⟨hname, by decide⟩, hnamespace⟩, by decide⟩, hname⟩

theorem content_readyHandler (event : String) : Content (readyHandler event) := by
  refine Content.append ?_ (by decide)
  simp only [unbroken_append]
  exact ⟨by decide, unbroken_escape _⟩

theorem prints_lowerReferences {names : NodeNames}
    (hnamespace : scope.enclosingNamespace = some namespaceName) (hname : Unbroken namespaceName)
    (hscope : scope.depth = 1) (h : (lowerReferences names options scope).failure = none) :
    Prints layout (lowerReferences names options scope)
      (references names.names options.annotate options.readyEvent namespaceName) := by
  cases hempty : names.names.isEmpty with
  | true =>
    rw [lowerReferences, hnamespace, references, hempty]
    exact prints_note _
  | false =>
    obtain ⟨inner, hinner, hlower⟩ := lowerReferences_eq hnamespace hempty h
    have hunbroken (name : String) (hmem : name ∈ names.names) : Unbroken name :=
      unbroken_nodeName (names.identifiers name hmem)
    have hdeclared : Content ("var " ++ ", ".intercalate names.names ++ ";") :=
      Content.append (unbroken_append.mpr ⟨by decide, unbroken_intercalate hunbroken⟩) (by decide)
    have hremark : Prints layout _ _ := prints_remark options.annotate
      (by decide : Content "//Auto Generated Refs to Visual Nodes") hscope
    have hopening : Prints layout _ _ := (prints_codeLine hdeclared 1).append
      (prints_codeLine (content_readyHandler options.readyEvent) 1)
    have hlookups : Prints layout
        (names.names.flatMap fun name ↦ [.openLine 2, .code (lookup namespaceName name)])
        (names.names.flatMap fun name ↦ [.filled 2 (lookup namespaceName name)]) := by
      apply Prints.flatMap
      intro name hmem
      exact prints_codeLine (content_lookup hname (hunbroken name hmem)) 2
    have hclosing : Prints layout _ _ :=
      (prints_codeLine (by decide : Content "\x7d, false);") 1).append prints_blankLine
    have hwhole := ((hremark.append hopening).append hlookups).append hclosing
    rw [hlower, ← List.append_assoc, Scope.depth_of_enter hinner, references, hempty,
      List.map_eq_flatMap, if_neg Bool.false_ne_true, referencesNote]
    rw [hscope] at hwhole ⊢
    exact hwhole

theorem prints_lowerTopLevel {names : NodeNames} {member : Declaration}
    (hplain : rule.OfTopLevel member) (h : (lowerTopLevel names options member).failure = none) :
    Prints layout (lowerTopLevel names options member)
      (topLevel names.names options.annotate options.readyEvent member) := by
  cases member with
  | namespaceDecl leading token members trailing =>
    obtain ⟨hleading, htoken, hmembers, htrailing⟩ := hplain
    have hname : Unbroken token.valueText := Unbroken.valueText htoken
    rw [lowerTopLevel] at h ⊢
    obtain ⟨inner, hinner, hlower⟩ := lowerNamespace_eq h
    have hdepth : inner.depth = 1 := Scope.depth_of_enter hinner
    rw [hlower, Script.failure_within] at h
    simp only [Script.failure_append_eq_none] at h
    have hreferences : Prints layout
        (lowerReferences names options (inner.inNamespace token.valueText)) _ :=
      prints_lowerReferences rfl hname hdepth h.2.1.1.1
    have hclasses : Prints layout
        (members.flatMap (lowerNamespaceMember options (inner.inNamespace token.valueText)))
        (members.flatMap (namespaceMember options.annotate token.valueText)) := by
      apply Prints.flatMap
      intro m hm
      exact prints_lowerNamespaceMember rfl hname hdepth (hmembers m hm)
        (Script.failure_flatMap_eq_none.mp h.2.1.1.2 m hm)
    have hclosing : Content ("\x7d)(window." ++ token.valueText ++ " = window." ++
        token.valueText ++ " || \x7b\x7d);") := by
      refine Content.append ?_ (by decide)
      simp only [unbroken_append]
      exact ⟨⟨⟨by decide, hname⟩, by decide⟩, hname⟩
    have hframe := prints_frame Scope.root.depth hleading (content_closure hname)
      (hreferences.append hclasses) hclosing prints_nil htrailing
    have hwhole := hframe.within (.enteredNamespace token.valueText)
    rw [hlower, topLevel]
    simp only [List.append_assoc, List.append_nil] at hwhole ⊢
    exact hwhole
  | classDecl leading modifiers identifier members trailing => exact prints_note _
  | constructorDecl node => exact prints_note _
  | methodDecl node => exact prints_note _
  | fieldDecl node => exact prints_note _
  | unsupported node => exact prints_note _

theorem printed_members {unit : CompilationUnit} {names : NodeNames} {options : Options}
    (hplain : rule.OfFile unit)
    (h : Script.failure (unit.members.flatMap (lowerTopLevel names options)) = none) :
    Printed layout (file names.names options.annotate options.readyEvent unit)
      (Script.effect layout (unit.members.flatMap (lowerTopLevel names options)) .empty) := by
  have hprints : Prints layout (unit.members.flatMap (lowerTopLevel names options))
      (file names.names options.annotate options.readyEvent unit) := by
    apply Prints.flatMap
    intro m hm
    exact prints_lowerTopLevel (hplain m hm) (Script.failure_flatMap_eq_none.mp h m hm)
  exact hprints [] .empty printed_empty

end Declarations

end Printer

open Printer

/-- A file without trivia is laid out line by line: its script is what the line printer prints, and
no line of it is empty or broken but the blank ones. -/
theorem emit_eq_render {unit : CompilationUnit} {names : NodeNames} {options : Options}
    {text : String} (hplain : rule.OfFile unit) (h : emit unit names options = .ok text) :
    text = render options.toLayout (file names.names options.annotate options.readyEvent unit) ∧
      ∀ line ∈ file names.names options.annotate options.readyEvent unit, line.Proper := by
  obtain ⟨hfailure, rfl⟩ := emit_eq_ok_iff.mp h
  have hmembers := hfailure
  rw [lowerUnit, Script.failure_append_eq_none] at hmembers
  have hprinted : Printed options.toLayout _ _ := printed_members hplain hmembers.1
  refine ⟨?_, hprinted.proper⟩
  -- The end of the file is what ends the last line.
  rw [Script.run_eq_effect _ _ _ hfailure, lowerUnit, Script.effect_append]
  exact hprinted.sink

/-- A conditional with a flattened block in one branch and a cast in either. -/
def plainStatement : Statement :=
  .ifElse {} (.ofText "ready")
    (.block {} [.ret {} (some (.castTo (.named { text := "Timer" }) (.ofText "clock"))) {}] {}) {}
    (.expression {}
      (.assign (.ofText "x") (.castTo (.predefined { text := "int" }) (.ofText "y"))) {}) {}

example : statement 3 plainStatement =
    [.filled 3 "if(ready)\x7b", .filled 4 "return clock;", .filled 3 "\x7delse\x7b",
     .filled 4 "x = y;", .filled 3 "\x7d"] := by
  decide +kernel

def plainFields : Variables where
  type := .predefined { text := "int" }
  declarators :=
    [{ identifier := { text := "x" } },
     { identifier := { text := "y" }, initializer := some (.ofText "1") }]

def plainFile : CompilationUnit where
  members :=
    [.namespaceDecl {} { text := "App" }
      [.classDecl {} [] { text := "Main" }
        [.fieldDecl { declared := plainFields },
         .constructorDecl
          { identifier := { text := "Main" },
            body := some { statements := [plainStatement] } }] {}]
      {}]

def plainNames : NodeNames where
  names := ["slider", "clock"]
  identifiers := by decide +kernel

def plainOptions : Options where
  indent := .spaces 2
  lineBreak := .crlf
  readyEvent := "it's\nready"

theorem emit_plainFile :
    rule.OfFile plainFile ∧ ∃ text, emit plainFile plainNames plainOptions = .ok text ∧
      text = render ⟨.spaces 2, .crlf⟩ (file ["slider", "clock"] true "it's\nready" plainFile) := by
  have hword {text : String} (h : Unbroken text) : rule.value (.ofText text) :=
    ⟨⟨h, rfl, rfl⟩, rfl⟩
  have hcast {type : TypeRef} (htype : PlainToken type.token) {text : String} (h : Unbroken text) :
      rule.value (.castTo type (.ofText text)) :=
    ⟨⟨⟨by decide, rfl, rfl⟩, htype, ⟨by decide, rfl, rfl⟩, (hword h).1⟩, rfl⟩
  have hstatement : rule.OfStatement plainStatement := by
    have hthen : ∀ e ∈ some (Expression.castTo (.named { text := "Timer" }) (.ofText "clock")),
        rule.value e := by
      rintro _ ⟨⟩
      exact hcast ⟨by decide, rfl, rfl⟩ (by decide)
    have helse : rule.value
        (.assign (.ofText "x") (.castTo (.predefined { text := "int" }) (.ofText "y"))) :=
      ⟨⟨(hword (by decide)).1, by decide, (hcast ⟨by decide, rfl, rfl⟩ (by decide)).1⟩, rfl⟩
    exact ⟨rfl, (hword (by decide)).1, ⟨rfl, ⟨rfl, hthen, rfl⟩, trivial⟩, rfl, ⟨rfl, helse, rfl⟩, rfl⟩
  have hfields : rule.OfVariables plainFields := by
    refine ⟨List.cons_ne_nil _ _, List.forall_mem_cons.mpr ⟨⟨?_, ?_⟩,
      List.forall_mem_singleton.mpr ⟨?_, ?_⟩⟩⟩
    · exact (by decide : Unbroken "x")
    · rintro _ ⟨⟩
    · exact (by decide : Unbroken "y")
    · rintro _ ⟨⟩
      exact hword (by decide)
  have hfile : rule.OfFile plainFile := by
    have hconstructor : rule.OfFunction {} (some { statements := [plainStatement] }) {} := by
      refine ⟨rfl, ?_, ?_, rfl⟩
      · rintro _ ⟨⟩
        rfl
      · rintro _ ⟨⟩
        exact ⟨hstatement, trivial⟩
    refine List.forall_mem_singleton.mpr
      ⟨rfl, (by decide : Unbroken "App"), List.forall_mem_singleton.mpr ?_, rfl⟩
    refine ⟨rfl, (by decide : Unbroken "Main"), List.forall_mem_cons.mpr ⟨⟨rfl, hfields, rfl⟩, ?_⟩, rfl⟩
    exact List.forall_mem_singleton.mpr hconstructor
  have hfailure : (lowerUnit plainNames plainOptions plainFile).failure = none := by decide +kernel
  have hemit := emit_eq_ok_iff.mpr ⟨hfailure, rfl⟩
  exact ⟨hfile, _, hemit, (emit_eq_render hfile hemit).1⟩

end CodeBehind
