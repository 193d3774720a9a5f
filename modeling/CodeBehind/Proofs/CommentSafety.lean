import CodeBehind.Proofs.Footing
import CodeBehind.Proofs.Inversion
import CodeBehind.Proofs.Statements

/-!
# No comment swallows code

If the trivia of a file is commentary and its tokens open no comments, then a comment lexer finds
the code of the script outside of comments and the ink of its commentary inside.  Line comments have
to be closed where code of the same node follows, which is before statements and fields and between
the tokens of an expression.
-/

namespace CodeBehind

namespace Comments

open Text Source Meaning Lowering

/-! ## Clean files -/

/-- Trivia that may end in a line comment. -/
def CleanTrivia (trivia : Trivia) : Prop :=
  Commentary false trivia.text.toList

/-- Trivia in which every line comment is closed. -/
def ClosedTrivia (trivia : Trivia) : Prop :=
  Commentary true trivia.text.toList

structure CleanToken (token : Token) : Prop where
  text : Plain token.text.toList
  leading : ClosedTrivia token.leading
  trailing : ClosedTrivia token.trailing

/-- An expression that stands as in the source. -/
def CleanSource : Expression → Prop
  | .assignment left operator right => CleanSource left ∧ CleanToken operator ∧ CleanSource right
  | .compound left operator right => CleanSource left ∧ CleanToken operator ∧ CleanSource right
  | .cast opening type closing operand =>
    CleanToken opening ∧ CleanToken type.token ∧ CleanToken closing ∧ CleanSource operand
  | .verbatim token => CleanToken token

/-- A rewritten expression.  The tokens of a compound assignment are free, since it becomes a
comment. -/
def CleanValue : Expression → Prop
  | .assignment left operator right => CleanValue left ∧ CleanToken operator ∧ CleanValue right
  | .compound left operator right => ClosedTrivia (Expression.compound left operator right).trailing
  | .cast _ _ _ operand => CleanValue operand
  | .verbatim token => CleanToken token

structure CleanDeclarator (declared : Declarator) : Prop where
  identifier : Plain declared.identifier.text.toList
  initializer : ∀ value ∈ declared.initializer, CleanValue value

mutual

def CleanStatement : Statement → Prop
  | .ifThen leading condition body trailing =>
    ClosedTrivia leading ∧ CleanSource condition ∧ CleanStatement body ∧ CleanTrivia trailing
  | .ifElse leading condition body elseLeading elseBody trailing =>
    ClosedTrivia leading ∧ CleanSource condition ∧ CleanStatement body ∧
      CleanTrivia elseLeading ∧ CleanStatement elseBody ∧ CleanTrivia trailing
  | .ret leading value trailing =>
    ClosedTrivia leading ∧ (∀ e ∈ value, CleanValue e) ∧ CleanTrivia trailing
  | .locals leading declared trailing =>
    ClosedTrivia leading ∧ (∀ d ∈ declared.declarators, CleanDeclarator d) ∧ CleanTrivia trailing
  | .expression leading value trailing =>
    ClosedTrivia leading ∧ CleanValue value ∧ CleanTrivia trailing
  | .block leading inner _ => CleanTrivia leading ∧ CleanStatements inner
  | .unsupported _ => True

def CleanStatements : List Statement → Prop
  | [] => True
  | first :: rest => CleanStatement first ∧ CleanStatements rest

end

theorem cleanStatements_iff (list : List Statement) :
    CleanStatements list ↔ ∀ s ∈ list, CleanStatement s := by
  induction list with
  | nil => simp [CleanStatements]
  | cons first rest ih => rw [CleanStatements, ih, List.forall_mem_cons]

structure CleanFunction (leading : Trivia) (body : Option Block) (trailing : Trivia) : Prop where
  leading : CleanTrivia leading
  bodyLeading : ∀ block ∈ body, CleanTrivia block.leading
  statements : ∀ block ∈ body, CleanStatements block.statements
  trailing : CleanTrivia trailing

def CleanClassMember : Declaration → Prop
  | .methodDecl node =>
    CleanFunction node.leading node.body node.trailing ∧ Plain node.identifier.text.toList ∧
      ∀ p ∈ node.parameters, Plain p.identifier.text.toList
  | .constructorDecl node => CleanFunction node.leading node.body node.trailing
  | .fieldDecl node =>
    ClosedTrivia node.leading ∧ (∀ d ∈ node.declared.declarators, CleanDeclarator d) ∧
      CleanTrivia node.trailing
  | _ => True

def CleanNamespaceMember : Declaration → Prop
  | .classDecl leading _ identifier members trailing =>
    CleanTrivia leading ∧ Plain identifier.text.toList ∧ (∀ m ∈ members, CleanClassMember m) ∧
      CleanTrivia trailing
  | _ => True

def CleanTopLevel : Declaration → Prop
  | .namespaceDecl leading name members trailing =>
    CleanTrivia leading ∧ Plain name.text.toList ∧ (∀ m ∈ members, CleanNamespaceMember m) ∧
      CleanTrivia trailing
  | _ => True

/-- The trivia of a clean file is commentary, and the tokens that stand outside of markers open no
comments.  Only what is lowered counts. -/
def CleanFile (unit : CompilationUnit) : Prop :=
  ∀ m ∈ unit.members, CleanTopLevel m

/-! ## Names in fragments -/

theorem tame_valueText {token : Token} (h : Plain token.text.toList) :
    Tame token.valueText.toList := by
  rw [Token.valueText, String.toList_ofList]
  exact h.1.trim

theorem plain_name {name stop : String} (hname : Tame name.toList) (hstop : Guards stop.toList) :
    Plain (name ++ stop).toList := by
  rw [String.toList_append]
  exact hname.append_guard hstop

/-- A name in a fragment, with something behind it that opens no comment. -/
theorem plain_fragment {start name stop : String} (hstart : Plain start.toList)
    (hname : Tame name.toList) (hstop : Guards stop.toList) :
    Plain (start ++ name ++ stop).toList := by
  apply plain_name _ hstop
  rw [String.toList_append]
  exact hstart.append_tame hname

theorem tame_intercalate {list : List String} (h : ∀ name ∈ list, Tame name.toList) :
    Tame (", ".intercalate list).toList := by
  induction list with
  | nil => decide
  | cons name rest ih =>
    obtain ⟨hname, hrest⟩ := List.forall_mem_cons.mp h
    cases rest with
    | nil => simpa using hname
    | cons next others =>
      rw [String.intercalate_cons_cons]
      have hstart : Plain (name ++ ", ").toList := plain_name hname (by decide)
      rw [String.toList_append]
      exact hstart.append_tame (ih hrest)

theorem plain_nodeName {name : String} (h : isName name = true) : Plain name.toList := by
  apply Plain.of_not_mem
  exact not_mem_of_isIdentifier h (by decide +kernel) (by decide +kernel)

/-! ## Expressions -/

section Lowerings

variable (layout : Layout) {marked : Bool}

theorem CleanValue.trailing {e : Expression} (h : CleanValue e) : ClosedTrivia e.trailing := by
  induction e with
  | assignment left operator right _ ihRight => exact ihRight h.2.2
  | compound left operator right => exact h
  | cast opening type closing operand ih => exact ih h
  | verbatim token => exact (show CleanToken token from h).trailing

theorem lays_operandTrivia {operand : Expression} (h : CleanValue operand) :
    Lays layout (Ready marked) (operandTrivia operand) (behindOperand operand)
      (Ready marked) := by
  unfold operandTrivia behindOperand
  split
  · exact Lays.nil
  · exact lays_closed layout h.trailing

theorem lays_operator {token : Token} (h : CleanToken token) :
    Lays layout (Ready marked)
      [.verbatim token.leading.text, .code token.text, .verbatim token.trailing.text]
      (ofToken token) (Ready (marked && token.text.isEmpty)) :=
  (lays_closed layout h.leading).cons
    ((lays_token layout h.text).cons (lays_closed layout h.trailing))

theorem lays_markedComment (e : Expression) :
    Lays layout (Ready marked) (markedComment e) [comment ("//not yet supported: " ++ e.text)]
      (Ready true) := by
  have htext := isBreak_singleLine e.text.toList
  have hink := inked_singleLine e.text.toList
  rw [← String.toList_ofList (l := singleLine e.text.toList)] at htext hink
  have hmarker : Lays layout (Ready marked) [.code unsupportedMarker]
      [comment unsupportedMarker] Remark := by
    exact @lays_remark layout marked unsupportedMarker "not yet supported: ".toList (by decide)
      (any_isBreak_eq_false.mp (by decide))
  have hlays := hmarker.cons ((lays_remark_text layout htext hink).cons (lays_markComment layout))
  exact (hlays.note _).of_expand_eq (expand_pair ..)

theorem lays_lowerExpressionAt (level : Nat) {e : Expression} (h : CleanValue e)
    (hfailure : (lowerExpressionAt level e).failure = none) :
    Lays layout (Ready marked) (lowerExpressionAt level e) (Meaning.expression e)
      (Ready (marksAfter marked e)) := by
  have hlevel := level_le_of_failure_eq_none hfailure
  induction e generalizing level marked with
  | assignment left operator right ihLeft ihRight =>
    rw [lowerExpressionAt, if_neg hlevel] at hfailure ⊢
    simp only [Script.failure_append_eq_none] at hfailure
    obtain ⟨⟨⟨⟨hleft, _⟩, _⟩, hright⟩, _⟩ := hfailure
    have hleft := @ihLeft marked _ h.1 hleft (level_le_of_failure_eq_none hleft)
    have hoperator := (hleft.append (lays_operandTrivia layout h.1)).append
      (lays_operator layout h.2.1)
    have hvalue := hoperator.append (ihRight _ h.2.2 hright (level_le_of_failure_eq_none hright))
    exact hvalue.append (lays_operandTrivia layout h.2.2)
  | compound left operator right =>
    rw [lowerExpressionAt, if_neg hlevel]
    exact lays_markedComment layout _
  | cast opening type closing operand ih =>
    rw [lowerExpressionAt, if_neg hlevel] at hfailure ⊢
    exact (lays_separate layout).cons
      (ih _ h hfailure (level_le_of_failure_eq_none hfailure))
  | verbatim token =>
    rw [lowerExpressionAt, if_neg hlevel]
    exact lays_token layout h.text

theorem lays_lowerExpression {e : Expression} (h : CleanValue e)
    (hfailure : (lowerExpression e).failure = none) :
    Lays layout (Ready false) (lowerExpression e) (Meaning.expression e)
      (Ready (endsInMarker e)) :=
  lays_lowerExpressionAt layout 0 h hfailure

/-- An expression behind a fragment, with its semicolon. -/
theorem lays_terminated {start : String} {e : Expression} (hstart : Plain start.toList)
    (hne : start ≠ "") (h : CleanValue e) (hfailure : (lowerExpression e).failure = none) :
    Lays layout (Ready marked) (.code start :: lowerExpression e ++ [.terminator])
      ([code start] ++ Meaning.expression e ++ [semicolon e]) (Ready true) := by
  have hvalue := (@lays_code layout marked start hstart hne).cons
    (lays_lowerExpression layout h hfailure)
  exact (hvalue.append (lays_terminator layout)).anyMarked

theorem lays_lowerReturn {value : Option Expression} (h : ∀ e ∈ value, CleanValue e)
    (hfailure : (lowerReturn value).failure = none) :
    Lays layout (Ready false) (lowerReturn value) (returned value) (Ready true) := by
  cases value with
  | none =>
    exact (lays_code_terminator layout (by decide) (by decide)).anyMarked
  | some e =>
    rw [lowerReturn, Script.failure_append_eq_none] at hfailure
    exact lays_terminated layout (by decide) (by decide) (h e rfl) hfailure.1

theorem lays_lowerDeclarator {declared : Declarator} (h : CleanDeclarator declared)
    (hfailure : (lowerDeclarator declared).failure = none) :
    Lays layout (Ready true) (lowerDeclarator declared) (declarator declared) (Ready true) := by
  have hname := tame_valueText h.identifier
  have hvalues := h.initializer
  unfold lowerDeclarator declarator at *
  cases hinit : declared.initializer with
  | none =>
    refine (lays_code_terminator layout (plain_fragment (by decide) hname (by decide)) ?_).anyMarked
    intro hempty
    exact absurd (String.append_eq_empty_iff.mp hempty).1 (by decide)
  | some value =>
    rw [hinit] at hfailure hvalues
    rw [Script.failure_append_eq_none] at hfailure
    refine lays_terminated layout (plain_fragment (by decide) hname (by decide)) ?_
      (hvalues value rfl) hfailure.1
    intro hempty
    exact absurd (String.append_eq_empty_iff.mp hempty).2 (by decide)

theorem lays_lowerVariables {declared : Variables}
    (h : ∀ d ∈ declared.declarators, CleanDeclarator d)
    (hfailure : (lowerVariables declared).failure = none) :
    Lays layout (Ready false) (lowerVariables declared)
      (declared.declarators.flatMap declarator) (Ready true) := by
  have hlays : Lays layout (Ready true) (declared.declarators.flatMap lowerDeclarator)
      (declared.declarators.flatMap declarator) (Ready true) :=
    Lays.flatMap (fun d hd ↦ lays_lowerDeclarator layout (h d hd)) hfailure
  exact (hlays.note _).mono (fun _ _ h ↦ h.weaken true) fun _ _ h ↦ h

/-! ## Conditions -/

theorem reads_token {token : Token} (h : CleanToken token) :
    Reads .code (expand (ofToken token)) .code := by
  have hclosed {text : String} (h : Commentary true text.toList) :
      Reads .code (place .comment text.toList) .code := by
    obtain ⟨mode, hhides, rfl | ⟨hclosed, _⟩⟩ := h.hides_code
    · exact Reads.of_hides hhides
    · cases hclosed
  have hreads := ((hclosed h.leading).append (Reads.of_plain h.text)).append (hclosed h.trailing)
  simpa [expand, ofToken, Meaning.comment, Meaning.code] using hreads

theorem reads_source {e : Expression} (h : CleanSource e) :
    Reads .code (expand (source e)) .code := by
  induction e with
  | assignment left operator right ihLeft ihRight =>
    rw [source, expand_append, expand_append]
    exact ((ihLeft h.1).append (reads_token h.2.1)).append (ihRight h.2.2)
  | compound left operator right ihLeft ihRight =>
    rw [source, expand_append, expand_append]
    exact ((ihLeft h.1).append (reads_token h.2.1)).append (ihRight h.2.2)
  | cast opening type closing operand ih =>
    obtain ⟨hopening, htype, hclosing, hoperand⟩ := h
    rw [source, expand_append, expand_append, expand_append]
    exact (((reads_token hopening).append (reads_token htype)).append
      (reads_token hclosing)).append (ih hoperand)
  | verbatim token => exact reads_token h

theorem CleanSource.withoutLeading {e : Expression} (h : CleanSource e) :
    CleanSource e.withoutLeading := by
  induction e with
  | assignment left operator right ihLeft => exact ⟨ihLeft h.1, h.2⟩
  | compound left operator right ihLeft => exact ⟨ihLeft h.1, h.2⟩
  | cast opening type closing operand => exact ⟨⟨h.1.text, .nil, h.1.trailing⟩, h.2⟩
  | verbatim token =>
    have htoken : CleanToken token := h
    exact ⟨htoken.text, .nil, htoken.trailing⟩

theorem CleanSource.withoutTrailing {e : Expression} (h : CleanSource e) :
    CleanSource e.withoutTrailing := by
  induction e with
  | assignment left operator right _ ihRight => exact ⟨h.1, h.2.1, ihRight h.2.2⟩
  | compound left operator right _ ihRight => exact ⟨h.1, h.2.1, ihRight h.2.2⟩
  | cast opening type closing operand ih => exact ⟨h.1, h.2.1, h.2.2.1, ih h.2.2.2⟩
  | verbatim token =>
    have htoken : CleanToken token := h
    exact ⟨htoken.text, htoken.leading, .nil⟩

theorem lays_condition {condition : Expression} (h : CleanSource condition) :
    Lays layout (Ready false) [.code condition.text] (source condition.bare) (Ready false) := by
  have htext : (expand (source condition.bare)).map Prod.fst = condition.text.toList := by
    rw [condition.text_eq_fullText_bare, ← spell_source, map_fst_expand]
  exact lays_code_of_reads layout (fun hmarked ↦ absurd hmarked Bool.false_ne_true) htext
    (Shows.expand _) (reads_source h.withoutLeading.withoutTrailing)
    fun _ hw ↦ ready_after hw _ false

theorem lays_openIf {leading : Trivia} {condition : Expression} (scope : Scope)
    (hleading : ClosedTrivia leading) (hcondition : CleanSource condition) :
    Lays layout Loose (openIf leading condition scope) (conditional leading condition)
      Loose := by
  have hopening := @lays_fragment layout "if(" (by decide)
  have hclosing := @lays_fragment layout ")\x7b" (by decide)
  have hlays := (lays_beginStatement layout scope hleading).append
    (hopening.cons ((lays_condition layout hcondition).cons hclosing))
  have hpieces : conditional leading condition =
      [comment leading.text] ++ ([code "if("] ++ (source condition.bare ++ [code ")\x7b"])) := by
    simp only [conditional, List.cons_append, List.nil_append]
  rw [openIf, hpieces]
  exact hlays.loosen

theorem lays_elseLine {leading : Trivia} (scope : Scope) (h : CleanTrivia leading) :
    Lays layout Loose (elseLine leading scope) (remarks leading ++ [code "\x7delse\x7b"])
      Loose := by
  have helse := @lays_fragment layout "\x7delse\x7b" (by decide)
  exact ((lays_innerTrivia layout h).append ((lays_openLine layout scope.depth).cons helse)).loosen

theorem lays_closeIf {trailing : Trivia} (scope : Scope) (h : CleanTrivia trailing) :
    Lays layout Loose (closeIf trailing scope) [code "\x7d", comment trailing.text] Loose := by
  have hbrace := @lays_fragment layout "\x7d" (by decide)
  exact (lays_openLine layout scope.depth).cons (hbrace.loosen.cons (lays_commentary layout h rfl))

/-- A statement is begun, goes on from a footing in code, and ends in commentary. -/
theorem lays_statement {leading trailing : Trivia} {s : Script} {pieces : List Piece}
    (scope : Scope) (hleading : ClosedTrivia leading) (hs : Lays layout (Ready false) s pieces (Ready true))
    (htrailing : CleanTrivia trailing) :
    Lays layout Loose (beginStatement leading scope ++ s ++ [.verbatim trailing.text])
      ([comment leading.text] ++ pieces ++ [comment trailing.text]) Loose :=
  ((lays_beginStatement layout scope hleading).append hs.loosen).append
    (lays_commentary layout htrailing rfl)

/-! ## Statements -/

theorem lays_lowerStatement (scope : Scope) {s : Statement} (h : CleanStatement s)
    (hfailure : (lowerStatement scope s).failure = none) :
    Lays layout Loose (lowerStatement scope s) (Meaning.statement s) Loose := by
  induction s using Statement.inductionOn generalizing scope with
  | ifThen leading condition body trailing ih =>
    rw [CleanStatement] at h
    obtain ⟨hleading, hcondition, hclean, htrailing⟩ := h
    rw [lowerStatement, Script.failure_append_eq_none] at hfailure
    obtain ⟨inner, _, hscript, hrest⟩ := Script.whenOk_eq hfailure.2
    rw [Script.failure_append_eq_none] at hrest
    have hbody := ih inner hclean hrest.1
    rw [lowerStatement, hscript, Meaning.statement, List.append_assoc]
    exact (lays_openIf layout scope hleading hcondition).append
      (hbody.append (lays_closeIf layout scope htrailing))
  | ifElse leading condition body elseLeading elseBody trailing ih ihElse =>
    rw [CleanStatement] at h
    obtain ⟨hleading, hcondition, hclean, hremarks, hcleanElse, htrailing⟩ := h
    rw [lowerStatement, Script.failure_append_eq_none] at hfailure
    obtain ⟨inner, _, hscript, hrest⟩ := Script.whenOk_eq hfailure.2
    simp only [Script.failure_append_eq_none] at hrest
    obtain ⟨⟨⟨hbody, _⟩, helse⟩, _⟩ := hrest
    have hthen := (ih inner hclean hbody).append (lays_elseLine layout scope hremarks)
    have hbranches := (hthen.append (ihElse inner hcleanElse helse)).append
      (lays_closeIf layout scope htrailing)
    have hlays := (lays_openIf layout scope hleading hcondition).append hbranches
    rw [lowerStatement, hscript, Meaning.statement]
    simpa only [List.append_assoc] using hlays
  | ret leading value trailing =>
    rw [CleanStatement] at h
    simp only [lowerStatement, Script.failure_append_eq_none] at hfailure
    rw [lowerStatement, Meaning.statement]
    exact lays_statement layout scope h.1 (lays_lowerReturn layout h.2.1 hfailure.1.2) h.2.2
  | locals leading declared trailing =>
    rw [CleanStatement] at h
    simp only [lowerStatement, Script.failure_append_eq_none] at hfailure
    rw [lowerStatement, Meaning.statement]
    exact lays_statement layout scope h.1 (lays_lowerVariables layout h.2.1 hfailure.1.2) h.2.2
  | expression leading value trailing =>
    rw [CleanStatement] at h
    simp only [lowerStatement, Script.failure_append_eq_none] at hfailure
    have hvalue := (lays_lowerExpression layout h.2.1 hfailure.1.2).append (lays_terminator layout)
    have hlays := lays_statement layout scope h.1 hvalue.anyMarked h.2.2
    rw [lowerStatement, Meaning.statement]
    simpa only [List.append_assoc, List.cons_append, List.nil_append, semicolon] using hlays
  | block leading statements trailing ih =>
    rw [CleanStatement, cleanStatements_iff] at h
    rw [lowerStatement] at hfailure
    obtain ⟨inner, _, hscript, hrest⟩ := Script.whenOk_eq hfailure
    rw [lowerStatements_eq_flatMap, Script.failure_append_eq_none] at hrest
    have hstatements := Lays.flatMap (fun s hs ↦ ih s hs inner (h.2 s hs)) hrest.2
    rw [lowerStatement, hscript, Meaning.statement, statements_eq_flatMap,
      lowerStatements_eq_flatMap]
    exact (lays_innerTrivia layout h.1).append hstatements
  | unsupported node => exact Lays.nil.note _

theorem lays_lowerStatements (scope : Scope) {list : List Statement} (h : CleanStatements list)
    (hfailure : (lowerStatements scope list).failure = none) :
    Lays layout Loose (lowerStatements scope list) (Meaning.statements list) Loose := by
  rw [lowerStatements_eq_flatMap] at hfailure ⊢
  rw [statements_eq_flatMap]
  rw [cleanStatements_iff] at h
  exact Lays.flatMap (fun s hs ↦ lays_lowerStatement layout scope (h s hs)) hfailure

/-! ## Members of a class -/

/-- A generated line of code. -/
theorem lays_line {text : String} (depth : Nat) (h : Plain text.toList) :
    Lays layout Loose [.openLine depth, .code text] [code text] Loose :=
  ((lays_openLine layout depth).cons (lays_fragment layout h)).loosen

theorem lays_ended {text : String} (depth : Nat) (h : Plain text.toList) :
    Lays layout Loose [.openLine depth, .code text, .endLine] [code text] Loose :=
  (lays_line layout depth h).append (lays_endLine layout).loosen

theorem lays_lowerFunction {leading trailing : Trivia} {header : String} {body : Block}
    (scope : Scope) (hheader : Plain header.toList)
    (h : CleanFunction leading (some body) trailing)
    (hfailure : (lowerFunction leading header body trailing scope).failure = none) :
    Lays layout Loose (lowerFunction leading header body trailing scope)
      (function leading header (some body) trailing) Loose := by
  simp only [lowerFunction, Script.failure_append_eq_none] at hfailure
  have hbody := hfailure.1.1.2
  obtain ⟨inner, _, hlower⟩ := lowerBody_eq hbody
  rw [hlower, Script.failure_append_eq_none] at hbody
  have hremarks : Lays layout Loose (if body.leading.hasComments then
      [.verbatim body.leading.trimmedEnd] else []) (remarks body.leading) Loose := by
    unfold remarks
    split
    · exact lays_trimmedEnd layout (h.bodyLeading body rfl)
    · exact Lays.nil
  have hstatements := lays_lowerStatements layout inner (h.statements body rfl) hbody.2
  have hopening := (lays_headerTrivia layout h.leading).append
    (lays_line layout scope.depth hheader)
  have hclosing := (@lays_ended layout "\x7d;" scope.depth (by decide)).append
    (lays_closingTrivia layout h.trailing)
  have hlays := (hopening.append (hremarks.append hstatements)).append hclosing
  rw [lowerFunction, hlower, function]
  simpa only [List.append_assoc, List.cons_append, List.nil_append] using hlays

theorem lays_lowerClassMember {scope : Scope} {className : String} {member : Declaration}
    (hscope : scope.enclosingClass = some className) (hname : Tame className.toList)
    (h : CleanClassMember member) (hfailure : (lowerClassMember scope member).failure = none) :
    Lays layout Loose (lowerClassMember scope member) (classMember className member) Loose := by
  cases member with
  | methodDecl node =>
    obtain ⟨body, inner, hbody, _, hlower⟩ := lowerMethod_eq hscope hfailure
    rw [lowerClassMember, hlower, Script.failure_within] at hfailure
    obtain ⟨hfunction, hidentifier, hparameters⟩ := h
    rw [hbody] at hfunction
    have hnames : Tame (parameterNames node.parameters).toList := by
      apply tame_intercalate
      intro name hmem
      obtain ⟨p, hp, rfl⟩ := List.mem_map.mp hmem
      exact tame_valueText (hparameters p hp)
    have hclass : Plain (className ++ ".").toList := plain_name hname (by decide)
    have hmethod : Plain (className ++ "." ++ node.identifier.valueText ++ " = function(").toList :=
      plain_fragment hclass (tame_valueText hidentifier) (by decide)
    have hheader := plain_fragment hmethod hnames (by decide : Guards ") \x7b".toList)
    have hlays := lays_lowerFunction layout inner hheader hfunction hfailure
    rw [lowerClassMember, hlower, classMember, hbody, ← parameterNames]
    exact hlays.within
  | constructorDecl node =>
    obtain ⟨body, inner, hbody, _, hlower⟩ := lowerConstructor_eq hscope hfailure
    rw [lowerClassMember, hlower, Script.failure_within] at hfailure
    have hfunction : CleanFunction node.leading node.body node.trailing := h
    rw [hbody] at hfunction
    have hheader := plain_fragment (plain_name hname (by decide : Guards ".".toList)) hname
      (by decide : Guards " = function() \x7b".toList)
    have hlays := lays_lowerFunction layout inner hheader hfunction hfailure
    rw [lowerClassMember, hlower, classMember, hbody]
    exact hlays.within
  | fieldDecl node =>
    obtain ⟨inner, _, hlower⟩ := lowerField_eq hscope hfailure
    obtain ⟨hleading, hdeclared, htrailing⟩ := h
    rw [lowerClassMember, hlower] at hfailure ⊢
    simp only [Script.failure_append_eq_none] at hfailure
    have hvariables := lays_lowerVariables layout hdeclared hfailure.1.2
    exact lays_statement layout inner hleading hvariables htrailing
  | namespaceDecl leading name members trailing => exact Lays.nil.note _
  | classDecl leading modifiers identifier members trailing => exact Lays.nil.note _
  | unsupported node => exact Lays.nil.note _

/-! ## Classes and namespaces -/

/-- An explaining comment on a line of its own. -/
theorem lays_explained {text : String} {body : List Char} (depth : Nat)
    (htext : text.toList = '/' :: '/' :: body) (hbody : ∀ c ∈ body, isBreak c = false) :
    Lays layout Loose [.blankLine, .openLine depth, .code text] [comment text] Loose := by
  have hremark := (@lays_remark layout false text body htext hbody).mono (fun _ _ hpre ↦ hpre)
    fun _ _ hpost ↦ hpost.loose
  exact (lays_blankLine layout).loosen.cons ((lays_openLine layout depth).cons hremark)

theorem lays_constructorCall {options : Options} {namespaceName className : String} (scope : Scope)
    (hnamespace : Tame namespaceName.toList) (hclass : Tame className.toList) :
    Lays layout Loose (Lowering.constructorCall options namespaceName className scope)
      (Meaning.constructorCall options.annotate namespaceName className) Loose := by
  have hcall := plain_fragment (plain_fragment
    (plain_name hnamespace (by decide : Guards ".".toList)) hclass (by decide : Guards ".".toList))
    hclass (by decide : Guards "();".toList)
  have hended := lays_ended layout scope.depth hcall
  unfold Lowering.constructorCall Meaning.constructorCall
  cases options.annotate with
  | false => exact hended
  | true =>
    have hnote := @lays_explained layout "//call constructor" "call constructor".toList
      scope.depth (by decide) (any_isBreak_eq_false.mp (by decide))
    exact hnote.append hended

theorem lays_lowerNamespaceMember {options : Options} {scope : Scope} {namespaceName : String}
    {member : Declaration} (hscope : scope.enclosingNamespace = some namespaceName)
    (hname : Tame namespaceName.toList) (h : CleanNamespaceMember member)
    (hfailure : (lowerNamespaceMember options scope member).failure = none) :
    Lays layout Loose (lowerNamespaceMember options scope member)
      (namespaceMember options.annotate namespaceName member) Loose := by
  cases member with
  | classDecl leading modifiers identifier members trailing =>
    obtain ⟨hleading, hidentifier, hmembers, htrailing⟩ := h
    rw [lowerNamespaceMember] at hfailure ⊢
    have hlower := lowerClass_eq hscope hfailure
    rw [hlower, Script.failure_within] at hfailure
    simp only [Script.failure_append_eq_none] at hfailure
    have hclass := tame_valueText hidentifier
    have hopening := (lays_headerTrivia layout hleading).append (lays_line layout scope.depth
      (plain_fragment (by decide : Plain "(function(".toList) hclass
        (by decide : Guards ")\x7b".toList)))
    have hbody := Lays.flatMap (fun m hm ↦ lays_lowerClassMember layout rfl hclass (hmembers m hm))
      hfailure.1.1.1.2
    have hstart : Plain ("\x7d)(" ++ namespaceName ++ ".").toList :=
      plain_fragment (by decide) hname (by decide)
    have hobject := plain_fragment
      (plain_fragment hstart hclass (by decide : Guards " = ".toList)) hname
      (by decide : Guards ".".toList)
    have hclosing := lays_ended layout scope.depth
      (plain_fragment hobject hclass (by decide : Guards " || \x7b\x7d);".toList))
    have hcall : Lays layout Loose (if members.any Declaration.isConstructor then
        Lowering.constructorCall options namespaceName identifier.valueText scope else [])
        (if members.any Declaration.isConstructor then
          Meaning.constructorCall options.annotate namespaceName identifier.valueText else [])
        Loose := by
      split
      · exact lays_constructorCall layout scope hname hclass
      · exact Lays.nil
    rw [hlower, namespaceMember]
    exact ((((hopening.append hbody).append hclosing).append hcall).append
      (lays_closingTrivia layout htrailing)).within
  | namespaceDecl leading name members trailing => exact Lays.nil.note _
  | constructorDecl node => exact Lays.nil.note _
  | methodDecl node => exact Lays.nil.note _
  | fieldDecl node => exact Lays.nil.note _
  | unsupported node => exact Lays.nil.note _

theorem lays_lookups {list : List String} {namespaceName : String} (depth : Nat)
    (hnamespace : Tame namespaceName.toList) (hlist : ∀ name ∈ list, isName name = true) :
    Lays layout Loose
      (list.flatMap fun name ↦ [.openLine depth, .code (lookup namespaceName name)])
      (list.map fun name ↦ code (name ++ " = document.querySelector(\"" ++ namespaceName ++
        "[name='" ++ name ++ "']\");")) Loose := by
  induction list with
  | nil => exact Lays.nil
  | cons name rest ih =>
    obtain ⟨hname, hrest⟩ := List.forall_mem_cons.mp hlist
    have htame := (plain_nodeName hname).1
    have hlookup : Plain (lookup namespaceName name).toList :=
      plain_fragment (plain_fragment (plain_name htame (by decide)) hnamespace (by decide)) htame
        (by decide)
    exact (lays_line layout depth hlookup).append (ih hrest)

theorem lays_lowerReferences {names : NodeNames} {options : Options} {scope : Scope}
    {namespaceName : String} (hscope : scope.enclosingNamespace = some namespaceName)
    (hnamespace : Tame namespaceName.toList) (hevent : Plain options.readyEvent.toList)
    (hfailure : (lowerReferences names options scope).failure = none) :
    Lays layout Loose (lowerReferences names options scope)
      (references names.names options.annotate options.readyEvent namespaceName) Loose := by
  cases hnames : names.names.isEmpty with
  | true =>
    simp only [lowerReferences, hscope, hnames, references, if_true]
    exact Lays.nil.note _
  | false =>
    obtain ⟨inner, _, hlower⟩ := lowerReferences_eq hscope hnames hfailure
    have hnote : Lays layout Loose (referencesNote options scope) (if options.annotate then
        [comment "//Auto Generated Refs to Visual Nodes"] else []) Loose := by
      unfold referencesNote
      split
      · exact @lays_explained layout _ "Auto Generated Refs to Visual Nodes".toList scope.depth
          (by decide) (any_isBreak_eq_false.mp (by decide))
      · exact Lays.nil
    have hdeclared : Plain ("var " ++ ", ".intercalate names.names ++ ";").toList := by
      apply plain_fragment (by decide) _ (by decide)
      apply tame_intercalate
      intro name hname
      exact (plain_nodeName (names.identifiers name hname)).1
    have hhandler : Plain (readyHandler options.readyEvent).toList := by
      unfold readyHandler
      apply plain_fragment (by decide) _ (by decide)
      rw [String.toList_ofList]
      exact hevent.1.escape
    have hopening := hnote.append
      ((lays_line layout scope.depth hdeclared).append (lays_line layout scope.depth hhandler))
    have hclosing := (@lays_line layout "\x7d, false);" scope.depth (by decide)).append
      (lays_blankLine layout).loosen
    have hlays := hopening.append
      ((lays_lookups layout inner.depth hnamespace names.identifiers).append hclosing)
    unfold readyHandler at hlays
    rw [hlower, references, hnames]
    unfold readyHandler
    simpa only [Bool.false_eq_true, if_false, List.append_assoc, List.cons_append,
      List.nil_append] using hlays

theorem lays_lowerTopLevel {names : NodeNames} {options : Options} {member : Declaration}
    (h : CleanTopLevel member) (hevent : Plain options.readyEvent.toList)
    (hfailure : (lowerTopLevel names options member).failure = none) :
    Lays layout Loose (lowerTopLevel names options member)
      (topLevel names.names options.annotate options.readyEvent member) Loose := by
  cases member with
  | namespaceDecl leading name members trailing =>
    obtain ⟨hleading, hname, hmembers, htrailing⟩ := h
    rw [lowerTopLevel] at hfailure ⊢
    obtain ⟨inner, _, hlower⟩ := lowerNamespace_eq hfailure
    rw [hlower, Script.failure_within] at hfailure
    simp only [Script.failure_append_eq_none] at hfailure
    have htame := tame_valueText hname
    have hopening := (lays_headerTrivia layout hleading).append (lays_line layout Scope.root.depth
      (plain_fragment (by decide : Plain "(function(".toList) htame
        (by decide : Guards ")\x7b".toList)))
    have hreferences := lays_lowerReferences layout rfl htame hevent hfailure.2.1.1.1
    have hclasses := Lays.flatMap
      (fun m hm ↦ lays_lowerNamespaceMember layout rfl htame (hmembers m hm)) hfailure.2.1.1.2
    have hwindow := plain_fragment (by decide : Plain "\x7d)(window.".toList) htame
      (by decide : Guards " = window.".toList)
    have hclosing := lays_ended layout Scope.root.depth
      (plain_fragment hwindow htame (by decide : Guards " || \x7b\x7d);".toList))
    have hlays := hopening.append (((hreferences.append hclasses).append hclosing).append
      (lays_closingTrivia layout htrailing))
    rw [hlower, topLevel]
    refine Lays.within ?_
    simpa only [List.append_assoc, List.cons_append, List.nil_append] using hlays
  | classDecl leading modifiers identifier members trailing => exact Lays.nil.note _
  | constructorDecl node => exact Lays.nil.note _
  | methodDecl node => exact Lays.nil.note _
  | fieldDecl node => exact Lays.nil.note _
  | unsupported node => exact Lays.nil.note _

theorem lays_lowerUnit {names : NodeNames} {options : Options} {unit : CompilationUnit}
    (h : CleanFile unit) (hevent : Plain options.readyEvent.toList)
    (hfailure : (lowerUnit names options unit).failure = none) :
    Lays layout Loose (lowerUnit names options unit)
      (file names.names options.annotate options.readyEvent unit) Loose := by
  rw [lowerUnit, Script.failure_append_eq_none] at hfailure
  have hmembers := Lays.flatMap (fun m hm ↦ lays_lowerTopLevel layout (h m hm) hevent) hfailure.1
  have hlays := hmembers.append (lays_endLine layout).loosen
  rwa [List.append_nil] at hlays

end Lowerings

end Comments

open Comments Meaning Lowering

/-- The characters of an emitted script can be told apart by what they are there for, such that all
code and all ink of the file is there in order and nothing else but blanks, and such that a comment
lexer finds the code outside of comments and the ink of commentary inside. -/
theorem allowed_scan_emit {unit : Source.CompilationUnit} {names : NodeNames}
    {options : Options} {text : String} (hfile : CleanFile unit)
    (hevent : Plain options.readyEvent.toList) (h : emit unit names options = .ok text) :
    ∃ placed : List (Char × Origin), placed.map Prod.fst = text.toList ∧
      Shows (file names.names options.annotate options.readyEvent unit) placed ∧
      List.Forall₂ Allowed placed (scan .code text.toList) := by
  obtain ⟨hfailure, rfl⟩ := emit_eq_ok_iff.mp h
  have hlays := lays_lowerUnit options.toLayout hfile hevent hfailure
  obtain ⟨mode, ⟨placed, hsink, hshows, marks, hscan, hmarks⟩, _⟩ :=
    hlays .code .empty (rfl : Writer.empty.inComment = false)
  rw [← Script.run_eq_effect _ _ _ hfailure] at hsink
  have htext : placed.map Prod.fst =
      ((lowerUnit names options unit).run .unbounded options.toLayout .empty).2.sink.toList :=
    hsink.symm
  refine ⟨placed, htext, hshows, ?_⟩
  rw [← htext, hscan.scan_eq]
  exact hmarks

/-- A body behind an open line comment, with a marker whose text holds another. -/
def remarkedBody : Source.Block where
  leading := { text := "// body" }
  statements :=
    [.expression { text := "/**/\n" }
      (.assignWith "+=" (.ofText "timer.Tick") (.ofText "a//b")) { text := "//x" },
     .ret {} (some (.ofText "y")) {}]

def remarkedFile : Source.CompilationUnit where
  members :=
    [.namespaceDecl { text := "// app" } { text := "App" }
      [.classDecl {} [] { text := "Main" }
        [.constructorDecl { identifier := { text := "Main" }, body := some remarkedBody }] {}]
      {}]

theorem scan_emit_remarkedFile :
    CleanFile remarkedFile ∧ Plain "DOMContentLoaded".toList ∧
      ∃ text, emit remarkedFile {} {} = .ok text ∧
        ∃ placed : List (Char × Origin), placed.map Prod.fst = text.toList ∧
          Shows (file [] true "DOMContentLoaded" remarkedFile) placed ∧
          List.Forall₂ Allowed placed (scan .code text.toList) := by
  have hopen {body : List Char} (h : body.any Text.isBreak = false) :
      Commentary false ('/' :: '/' :: body) := .unclosed rfl (Text.any_isBreak_eq_false.mp h)
  have hstatements : CleanStatements remarkedBody.statements := by
    refine ⟨⟨?_, .nil, @hopen ['x'] (by decide)⟩, ⟨.nil, ?_, .nil⟩, trivial⟩
    · exact @Commentary.block true [] ['\n'] (by simp) (by decide) (.blank (by decide) .nil)
    · rintro _ ⟨⟩
      exact ⟨by decide, .nil, .nil⟩
  have hbody : CleanFunction {} (some remarkedBody) {} := by
    refine ⟨.nil, ?_, ?_, .nil⟩
    · rintro _ ⟨⟩
      exact @hopen " body".toList (by decide)
    · rintro _ ⟨⟩
      exact hstatements
  have hfile : CleanFile remarkedFile := by
    intro member hmember
    rw [List.mem_singleton.mp hmember]
    refine ⟨@hopen " app".toList (by decide), by decide, ?_, .nil⟩
    intro member hmember
    rw [List.mem_singleton.mp hmember]
    refine ⟨.nil, by decide, ?_, .nil⟩
    intro member hmember
    rw [List.mem_singleton.mp hmember]
    exact hbody
  have hevent : Plain "DOMContentLoaded".toList := by decide
  have hfailure : (lowerUnit {} {} remarkedFile).failure = none := by decide +kernel
  have hemit := emit_eq_ok_iff.mpr ⟨hfailure, rfl⟩
  exact ⟨hfile, hevent, _, hemit,
    @allowed_scan_emit remarkedFile {} {} _ hfile hevent hemit⟩

end CodeBehind
