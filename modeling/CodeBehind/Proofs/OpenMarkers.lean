import CodeBehind.Lowering.Declaration
import CodeBehind.Proofs.Footing
import CodeBehind.Proofs.Inversion
import CodeBehind.Proofs.Sessions
import CodeBehind.Proofs.SpelledDepth
import CodeBehind.Proofs.Statements

/-!
# Terminators behind open comments

The comment that stands for a compound assignment stays open until a line break or code is written.
A terminator is written into it.  Behind a whole statement that is a comment this does no harm.  The
value of a return or of a declared variable has code before it, and the terminator of that code is
in the comment whenever the value leaves one open.  Whether it does can be told from the value alone:
the last compound assignment that is rewritten in it must have nothing behind it but trivia without
line breaks, tokens without text and casts whose blank is not needed.
-/

namespace CodeBehind

open Source Text

/-! ## Open comments -/

/-- The comment that stands for a compound assignment, with all that follows it on its line. -/
structure OpenComment where
  body : List Char
  unbroken : ∀ c ∈ body, isBreak c = false

namespace OpenComment

def text (comment : OpenComment) : List Char :=
  Lowering.unsupportedMarker.toList ++ comment.body

def ofCompound (e : Expression) : OpenComment where
  body := singleLine e.text.toList
  unbroken := isBreak_singleLine _

/-- The comment with a text behind it, unless that text ends its line. -/
def extend (comment : OpenComment) (text : String) : Option OpenComment :=
  if h : text.toList.any isBreak = false then
    some ⟨comment.body ++ text.toList,
      List.forall_mem_append.mpr ⟨comment.unbroken, any_isBreak_eq_false.mp h⟩⟩
  else none

theorem exists_getLast? (comment : OpenComment) : ∃ last, comment.text.getLast? = some last :=
  ⟨_, List.getLast?_eq_some_getLast (List.append_ne_nil_of_left_ne_nil (by decide) _)⟩

/-- Whether no blank is needed behind the comment. -/
def endsInSeparator (comment : OpenComment) : Bool :=
  comment.text.getLast?.any fun c ↦ isBlank c || c == '('

/-! What becomes of the comment that may be open, when more is written. -/

def behindTrivia (opened : Option OpenComment) (text : String) : Option OpenComment :=
  opened.bind (·.extend text)

def behindCode (opened : Option OpenComment) (text : String) : Option OpenComment :=
  if text.isEmpty then opened else none

def behindSeparator (opened : Option OpenComment) : Option OpenComment :=
  opened.filter endsInSeparator

def behindOperand (opened : Option OpenComment) (operand : Expression) : Option OpenComment :=
  if operand.isCast then opened else behindTrivia opened operand.trailing.text

end OpenComment

open OpenComment

/-- The comment that is open behind an expression, if `opened` is open before it. -/
def commentAfter (opened : Option OpenComment) : Expression → Option OpenComment
  | .assignment left operator right =>
    let target := behindOperand (commentAfter opened left) left
    let sign := behindCode (behindTrivia target operator.leading.text) operator.text
    behindOperand (commentAfter (behindTrivia sign operator.trailing.text) right) right
  | .compound left operator right => some (.ofCompound (.compound left operator right))
  | .cast _ _ _ operand => commentAfter (behindSeparator opened) operand
  | .verbatim token => behindCode opened token.text

/-- The comment that an expression leaves open. -/
def openComment (e : Expression) : Option OpenComment :=
  commentAfter none e

namespace Act

/-- A comment was marked, and its line has not ended. -/
def Marked (acts : List Act) : Prop :=
  ∃ before after, acts = before ++ .mark :: after ∧ ∀ c ∈ spelled after, isBreak c = false

/-- Acts end in the open comment, or none is open. -/
def Bears (acts : List Act) : Option OpenComment → Prop
  | none => ¬ Marked acts
  | some comment => Marked acts ∧ comment.text <:+ spelled acts

theorem marked_hand (acts : List Act) (text : String) :
    Marked (acts ++ [hand text]) ↔ Marked acts ∧ ∀ c ∈ text.toList, isBreak c = false :=
  marked_append_hand acts text

theorem Bears.marked_iff {acts : List Act} {opened : Option OpenComment} (h : Bears acts opened) :
    Marked acts ↔ opened.isSome := by
  cases opened with
  | none => exact iff_of_false h Bool.false_ne_true
  | some comment => exact iff_of_true h.1 rfl

theorem Bears.hand {acts : List Act} {opened : Option OpenComment} (h : Bears acts opened)
    (text : String) : Bears (acts ++ [.hand text]) (behindTrivia opened text) := by
  cases opened with
  | none => exact fun hmarked ↦ h ((marked_hand acts text).mp hmarked).1
  | some comment =>
    rw [behindTrivia, Option.bind_some, OpenComment.extend]
    by_cases hunbroken : text.toList.any isBreak = false
    · rw [dif_pos hunbroken]
      refine ⟨(marked_hand acts text).mpr ⟨h.1, any_isBreak_eq_false.mp hunbroken⟩, ?_⟩
      obtain ⟨before, hbefore⟩ := h.2
      refine ⟨before, ?_⟩
      rw [spelled_append, spelled_hand, ← hbefore, OpenComment.text, OpenComment.text,
        List.append_assoc, List.append_assoc]
    · rw [dif_neg hunbroken]
      exact fun hmarked ↦
        hunbroken (any_isBreak_eq_false.mpr ((marked_hand acts text).mp hmarked).2)

/-- Code takes a new line if a comment is open, so none is open behind it. -/
theorem not_marked_codeActs {w : Writer Unit} {acts : List Act} (hw : w.Reflects acts)
    (layout : Layout) {text : String} (htext : text.isEmpty = false) :
    ¬ Marked (acts ++ w.codeActs layout text) := by
  unfold Writer.codeActs
  rw [htext, Bool.not_false, Bool.and_true]
  split
  next hopen =>
    rw [List.append_cons, marked_hand, marked_hand]
    rintro ⟨⟨_, hbreak⟩, _⟩
    have hlineBreak := Comments.any_isBreak_lineBreak layout.lineBreak
    rw [any_isBreak_eq_false.mpr hbreak] at hlineBreak
    cases hlineBreak
  next hclosed =>
    rw [marked_hand]
    exact fun hmarked ↦ hclosed (hw.inComment.mpr hmarked.1)

theorem Bears.code {w : Writer Unit} {acts : List Act} {opened : Option OpenComment}
    (h : Bears acts opened) (hw : w.Reflects acts) (layout : Layout) (text : String) :
    Bears (acts ++ w.codeActs layout text) (behindCode opened text) := by
  unfold behindCode
  cases htext : text.isEmpty with
  | false => exact not_marked_codeActs hw layout htext
  | true =>
    obtain rfl : text = "" := by simpa using htext
    have hacts : w.codeActs layout "" = [.hand ""] := by simp [Writer.codeActs]
    have hextend (comment : OpenComment) : comment.extend "" = some comment := by
      simp [OpenComment.extend]
    have hhand := h.hand ""
    rw [hacts]
    cases opened with
    | none => exact hhand
    | some comment =>
      rw [behindTrivia, Option.bind_some, hextend] at hhand
      exact hhand

theorem Bears.separate {w : Writer Unit} {acts : List Act} {opened : Option OpenComment}
    (h : Bears acts opened) (hw : w.Reflects acts) (layout : Layout) :
    Bears (acts ++ Instruction.separate.acts layout w) (behindSeparator opened) := by
  rw [Instruction.acts]
  cases opened with
  | none =>
    split
    next => rwa [List.append_nil]
    next => exact h.code hw layout " "
  | some comment =>
    have hlast : w.endsWithSeparator = comment.endsInSeparator := by
      obtain ⟨before, hbefore⟩ := h.2
      obtain ⟨last, hlast⟩ := comment.exists_getLast?
      rw [Writer.endsWithSeparator, hw.last, ← hbefore, List.getLast?_append, hlast,
        OpenComment.endsInSeparator, hlast]
      rfl
    rw [behindSeparator, Option.filter_some, hlast]
    split
    next => rwa [List.append_nil]
    next => exact not_marked_codeActs hw layout rfl

end Act

namespace Lowering

open Act

/-! ## Expressions -/

theorem Script.acts_append (layout : Layout) {a : Script} (ha : a.failure = none) (b : Script)
    (w : Writer Unit) :
    Script.acts layout (a ++ b) w =
      a.acts layout w ++ b.acts layout ((a.acts layout w).foldl leave w) := by
  induction a generalizing w with
  | nil => rfl
  | cons step rest ih =>
    cases step with
    | fail error => cases ha
    | log entry => exact ih ha w
    | write i =>
      rw [List.cons_append, acts, acts, ih ha, List.foldl_append, List.append_assoc]

/-- The script ends in the comment `later` if it begins in the comment `opened`. -/
def Script.Leads (opened : Option OpenComment) (s : Script) (later : Option OpenComment) : Prop :=
  ∀ (layout : Layout) (w : Writer Unit) (acts : List Act), w.Reflects acts →
    Bears acts opened → Bears (acts ++ s.acts layout w) later

namespace Script.Leads

variable {opened middle later : Option OpenComment}

theorem append {a b : Script} (ha : a.failure = none) (hfirst : a.Leads opened middle)
    (hsecond : b.Leads middle later) : Script.Leads opened (a ++ b) later := by
  intro layout w acts hw h
  rw [acts_append layout ha, ← List.append_assoc]
  exact hsecond layout _ _ (reflects_foldl_leave hw _) (hfirst layout w acts hw h)

theorem nil : Script.Leads opened [] opened := by
  intro layout w acts _ h
  rwa [Script.acts, List.append_nil]

theorem write {i : Instruction}
    (h : ∀ (layout : Layout) (w : Writer Unit) (acts : List Act), w.Reflects acts →
      Bears acts opened → Bears (acts ++ i.acts layout w) later) :
    Script.Leads opened [.write i] later := by
  intro layout w acts hw hbears
  rw [Script.acts, Script.acts, List.append_nil]
  exact h layout w acts hw hbears

theorem verbatim (opened : Option OpenComment) (text : String) :
    Script.Leads opened [.verbatim text] (behindTrivia opened text) :=
  write fun _ _ _ _ h ↦ h.hand text

theorem code (opened : Option OpenComment) (text : String) :
    Script.Leads opened [.code text] (behindCode opened text) :=
  write fun layout _ _ hw h ↦ h.code hw layout text

theorem separate (opened : Option OpenComment) :
    Script.Leads opened [.separate] (behindSeparator opened) :=
  write fun layout _ _ hw h ↦ h.separate hw layout

theorem operandTrivia (opened : Option OpenComment) (operand : Expression) :
    (operandTrivia operand).Leads opened (behindOperand opened operand) := by
  unfold Lowering.operandTrivia behindOperand
  split
  · exact nil
  · exact verbatim opened _

/-- A marker leaves its own comment open, whatever was open before. -/
theorem markedComment (opened : Option OpenComment) (e : Expression) :
    (markedComment e).Leads opened (some (.ofCompound e)) := by
  intro layout w acts hw h
  let line := String.ofList (singleLine e.text.toList)
  have hacts : (Lowering.markedComment e).acts layout w =
      w.codeActs layout unsupportedMarker ++ [hand line] ++ [mark] := by
    rw [Lowering.markedComment, List.append_assoc]
    rfl
  have hcode : ∃ lead, w.codeActs layout unsupportedMarker = lead ++ [hand unsupportedMarker] := by
    unfold Writer.codeActs
    split
    · exact ⟨[hand layout.lineBreak.text], rfl⟩
    · exact ⟨[], rfl⟩
  obtain ⟨lead, hlead⟩ := hcode
  rw [hacts, ← List.append_assoc]
  have hmark : spelled [mark] = [] := rfl
  refine ⟨⟨_, [], rfl, List.forall_mem_nil _⟩, spelled (acts ++ lead), ?_⟩
  simp only [hlead, spelled_append, spelled_hand, hmark, List.append_nil, OpenComment.text,
    OpenComment.ofCompound, line, String.toList_ofList, List.append_assoc]

end Script.Leads

/-- A rewritten expression leaves open what its shape says. -/
theorem leads_lowerExpressionAt {level : Nat} {e : Expression}
    (h : (lowerExpressionAt level e).failure = none) (opened : Option OpenComment) :
    (lowerExpressionAt level e).Leads opened (commentAfter opened e) := by
  have hlevel := level_le_of_failure_eq_none h
  induction e generalizing level opened with
  | assignment left operator right ihLeft ihRight =>
    rw [lowerExpressionAt, if_neg hlevel] at h ⊢
    obtain ⟨hvalue, _⟩ := (Script.failure_append_eq_none _ _).mp h
    obtain ⟨hsign, hright⟩ := (Script.failure_append_eq_none _ _).mp hvalue
    obtain ⟨htarget, _⟩ := (Script.failure_append_eq_none _ _).mp hsign
    obtain ⟨hleft, _⟩ := (Script.failure_append_eq_none _ _).mp htarget
    have hoperator (opened : Option OpenComment) : Script.Leads opened
        ([.verbatim operator.leading.text] ++ [.code operator.text] ++
          [.verbatim operator.trailing.text])
        (behindTrivia (behindCode (behindTrivia opened operator.leading.text) operator.text)
          operator.trailing.text) :=
      ((Script.Leads.verbatim _ _).append rfl (.code _ _)).append rfl (.verbatim _ _)
    have htargetLeads := (ihLeft hleft opened (level_le_of_failure_eq_none hleft)).append hleft
      (.operandTrivia _ left)
    have hvalueLeads := (htargetLeads.append htarget (hoperator _)).append hsign
      (ihRight hright _ (level_le_of_failure_eq_none hright))
    exact hvalueLeads.append hvalue (.operandTrivia _ right)
  | compound left operator right =>
    rw [lowerExpressionAt, if_neg hlevel]
    exact .markedComment opened _
  | cast opening type closing operand ih =>
    rw [lowerExpressionAt, if_neg hlevel] at h ⊢
    have hoperand : (lowerExpressionAt (level + 1) operand).failure = none := h
    exact (Script.Leads.separate opened).append rfl
      (ih hoperand _ (level_le_of_failure_eq_none hoperand))
  | verbatim token =>
    rw [lowerExpressionAt, if_neg hlevel]
    exact .code opened token.text

/-! ## Terminated values -/

/-- A value with the code before it, and a terminator behind it. -/
structure Terminated where
  opening : String
  nonempty : opening.isEmpty = false
  value : Expression

/-- What is written before the terminator. -/
def Terminated.script (site : Terminated) : Script :=
  .code site.opening :: lowerExpression site.value

/-- Before the terminator stands the comment that the value leaves open, whatever was written
before. -/
theorem bears_terminated (site : Terminated) {before : Script} (hbefore : before.failure = none)
    (hsite : site.script.failure = none) (layout : Layout) {w : Writer Unit} {acts : List Act}
    (hw : w.Reflects acts) :
    Bears (acts ++ (before ++ site.script).acts layout w) (openComment site.value) := by
  have hvalue : (lowerExpression site.value).failure = none := hsite
  have hstart := reflects_foldl_leave hw (before.acts layout w)
  have hopening := not_marked_codeActs hstart layout site.nonempty
  have hscript (w : Writer Unit) : site.script.acts layout w =
      w.codeActs layout site.opening ++ (lowerExpression site.value).acts layout
        ((w.codeActs layout site.opening).foldl leave w) := rfl
  rw [Script.acts_append layout hbefore, ← List.append_assoc, hscript, ← List.append_assoc]
  exact leads_lowerExpressionAt hvalue none layout _ _ (reflects_foldl_leave hstart _) hopening

end Lowering

namespace Source

open Lowering (Terminated)

def Variables.terminated (declared : Variables) : List Terminated :=
  declared.declarators.flatMap fun declarator ↦
    declarator.initializer.toList.map fun value ↦
      { opening := " " ++ declarator.identifier.valueText ++ " = ", nonempty := by simp, value }

namespace Statement

mutual

/-- The values of the returns and variables in a statement. -/
def terminated : Statement → List Terminated
  | ifThen _ _ body _ => body.terminated
  | ifElse _ _ body _ elseBody _ => body.terminated ++ elseBody.terminated
  | ret _ value _ => value.toList.map fun value ↦ { opening := "return ", nonempty := rfl, value }
  | locals _ declared _ => declared.terminated
  | expression .. => []
  | block _ statements _ => terminatedInAll statements
  | unsupported _ => []

def terminatedInAll : List Statement → List Terminated
  | [] => []
  | first :: rest => first.terminated ++ terminatedInAll rest

end

theorem terminatedInAll_eq_flatMap (statements : List Statement) :
    terminatedInAll statements = statements.flatMap terminated := by
  induction statements with
  | nil => rw [terminatedInAll, List.flatMap_nil]
  | cons first rest ih => rw [terminatedInAll, ih, List.flatMap_cons]

end Statement

end Source

namespace Lowering

/-- A statement or a field. -/
inductive Construct where
  | statement (node : Statement)
  | field (node : FieldDecl)

namespace Construct

def script (scope : Scope) : Construct → Script
  | statement node => lowerStatement scope node
  | field node => lowerField node scope

def terminated : Construct → List Terminated
  | statement node => node.terminated
  | field node => node.declared.terminated

end Construct

theorem isInfix_flatMap {α : Type} {xs : List α} {x : α} (hx : x ∈ xs) (part : α → Script) :
    part x <:+: xs.flatMap part :=
  List.infix_of_mem_flatten (List.mem_map_of_mem hx)

theorem isInfix_lowerVariables {declared : Variables} {site : Terminated}
    (hsite : site ∈ declared.terminated) :
    site.script ++ [.terminator] <:+: lowerVariables declared := by
  obtain ⟨declarator, hdeclarator, hvalue⟩ := List.mem_flatMap.mp hsite
  obtain ⟨value, hinitializer, rfl⟩ := List.mem_map.mp hvalue
  have hscript := isInfix_flatMap hdeclarator lowerDeclarator
  rw [lowerDeclarator, Option.mem_toList.mp hinitializer] at hscript
  exact hscript.trans (List.suffix_cons _ _).isInfix

theorem isInfix_lowerReturn {value : Option Expression} {site : Terminated}
    (hsite : site ∈ (Statement.ret {} value {}).terminated) :
    site.script ++ [.terminator] <:+: lowerReturn value := by
  obtain ⟨value, hvalue, rfl⟩ := List.mem_map.mp hsite
  rw [Option.mem_toList.mp hvalue]
  exact List.infix_rfl

/-- Every value of a statement stands in its script with code before it and a terminator behind
it. -/
theorem isInfix_lowerStatement {scope : Scope} {s : Statement} {site : Terminated}
    (h : (lowerStatement scope s).failure = none) (hsite : site ∈ s.terminated) :
    site.script ++ [.terminator] <:+: lowerStatement scope s := by
  have hinside {part before after : Script} (hpart : site.script ++ [.terminator] <:+: part) :
      site.script ++ [.terminator] <:+: before ++ part ++ after :=
    hpart.trans (List.infix_append _ _ _)
  induction s using Statement.inductionOn generalizing scope with
  | ifThen leading condition body trailing ih =>
    rw [lowerStatement] at h ⊢
    obtain ⟨_, hbranch⟩ := (Script.failure_append_eq_none _ _).mp h
    obtain ⟨inner, _, hscript, hrest⟩ := Script.whenOk_eq hbranch
    rw [hscript, ← List.append_assoc]
    exact hinside (ih ((Script.failure_append_eq_none _ _).mp hrest).1 hsite)
  | ifElse leading condition body elseLeading elseBody trailing ih ihElse =>
    rw [lowerStatement] at h ⊢
    obtain ⟨_, hbranch⟩ := (Script.failure_append_eq_none _ _).mp h
    obtain ⟨inner, _, hscript, hrest⟩ := Script.whenOk_eq hbranch
    rw [hscript]
    simp only [Script.failure_append_eq_none] at hrest
    rw [Statement.terminated, List.mem_append] at hsite
    rcases hsite with hbody | helse
    · have hfirst := ih hrest.1.1.1 hbody
      simp only [List.append_assoc]
      rw [← List.append_assoc]
      exact hinside hfirst
    · have hsecond := ihElse hrest.1.2 helse
      rw [← List.append_assoc, ← List.append_assoc]
      exact hinside hsecond
  | ret leading value trailing =>
    rw [lowerStatement]
    exact hinside (isInfix_lowerReturn hsite)
  | locals leading declared trailing =>
    rw [lowerStatement]
    exact hinside (isInfix_lowerVariables hsite)
  | expression leading value trailing => cases hsite
  | block leading statements trailing ih =>
    rw [lowerStatement] at h ⊢
    obtain ⟨inner, _, hscript, hrest⟩ := Script.whenOk_eq h
    rw [Script.failure_append_eq_none, lowerStatements_eq_flatMap, Script.failure_flatMap_eq_none]
      at hrest
    rw [Statement.terminated, Statement.terminatedInAll_eq_flatMap] at hsite
    obtain ⟨s, hs, hmem⟩ := List.mem_flatMap.mp hsite
    rw [hscript, lowerStatements_eq_flatMap]
    exact (ih s hs (hrest.2 s hs) hmem).trans
      ((isInfix_flatMap hs _).trans (List.suffix_append _ _).isInfix)
  | unsupported node => cases hsite

theorem isInfix_script {scope : Scope} {c : Construct} {site : Terminated}
    (h : (c.script scope).failure = none) (hsite : site ∈ c.terminated) :
    site.script ++ [.terminator] <:+: c.script scope := by
  cases c with
  | statement node => exact isInfix_lowerStatement h hsite
  | field node =>
    rw [Construct.script, lowerField] at h ⊢
    obtain ⟨_, _, hclass, hrest⟩ := Script.whenOk_eq h
    obtain ⟨inner, _, hscript, _⟩ := Script.whenOk_eq hrest
    rw [hclass, hscript]
    exact (isInfix_lowerVariables hsite).trans (List.infix_append _ _ _)

end Lowering

open Lowering Act

variable {σ : Type}

/-- If a statement or field is lowered, each of its values stands in the script with code before it
and a terminator behind it.  The terminator is written into an open comment if and only if the value
leaves one open, and then it is that comment. -/
theorem marked_terminator (out : Sink σ) (layout : Layout) (scope : Scope) (c : Construct)
    (w : Writer σ) (acts : List Act) (hw : w.Reflects acts)
    (hok : ((c.script scope).run out layout w).1 = .ok ()) :
    ∀ site ∈ c.terminated, site.script ++ [.terminator] <:+: c.script scope ∧
      ∀ before, before ++ site.script ++ [.terminator] <+: c.script scope →
        let written := (before ++ site.script).acts layout w.stance
        written ++ [.hand ";"] <+: (c.script scope).acts layout w.stance ∧
          (Marked (acts ++ written) ↔ (openComment site.value).isSome) ∧
          ∀ comment ∈ openComment site.value, comment.text <:+ spelled (acts ++ written) := by
  have hnone := Script.failure_eq_none_of_run hok
  intro site hsite
  refine ⟨isInfix_script hnone hsite, ?_⟩
  rintro before ⟨after, hscript⟩ written
  rw [← hscript] at hnone
  simp only [Script.failure_append_eq_none] at hnone
  obtain ⟨⟨⟨hbefore, hvalue⟩, _⟩, _⟩ := hnone
  have hstance : w.stance.Reflects acts := ⟨hw.last, hw.atLineStart, hw.inComment⟩
  have hbears := bears_terminated site hbefore hvalue layout hstance
  refine ⟨?_, hbears.marked_iff, fun comment hcomment ↦ ?_⟩
  · have hsplit : (before ++ site.script).failure = none :=
      (Script.failure_append_eq_none _ _).mpr ⟨hbefore, hvalue⟩
    rw [← hscript, List.append_assoc, Script.acts_append layout hsplit]
    exact (List.prefix_append_right_inj _).mpr ⟨_, rfl⟩
  · rw [Option.mem_def] at hcomment
    rw [hcomment] at hbears
    exact hbears.2

/-- A variable that starts with a compound assignment, and one that starts with a number. -/
def countedLocals : Construct :=
  .statement (.locals {}
    { type := .predefined { text := "int" }
      declarators :=
        [{ identifier := { text := "x" }
           initializer := some (.assignWith "+=" (.ofText "y") (.ofText "1")) },
         { identifier := { text := "z" }, initializer := some (.ofText "0") }] } {})

theorem marked_terminator_countedLocals :
    let start := beginStatement {} .root ++ [.note (.declared .predefinedType 2)]
    let first : Terminated := ⟨" x = ", rfl, .assignWith "+=" (.ofText "y") (.ofText "1")⟩
    let second : Terminated := ⟨" z = ", rfl, .ofText "0"⟩
    Writer.empty.Reflects [] ∧
      ((countedLocals.script .root).run .unbounded {} .empty).1 = .ok () ∧
      Marked ((start ++ first.script).acts {} Writer.empty.stance) ∧
      ¬ Marked ((start ++ first.script ++ [Step.terminator] ++ second.script).acts {}
        Writer.empty.stance) := by
  intro start first second
  have hnew : Writer.empty.Reflects [] := ⟨rfl, rfl, by simp [Writer.empty]⟩
  have hok : ((countedLocals.script .root).run .unbounded {} .empty).1 = .ok () := rfl
  have hsites := marked_terminator .unbounded {} .root countedLocals .empty [] hnew hok
  refine ⟨hnew, hok, ?_, ?_⟩
  · exact ((hsites first (.head _)).2 start ⟨_, rfl⟩).2.1.mpr rfl
  · have hsecond := (hsites second (.tail _ (.head _))).2
      (start ++ first.script ++ [Step.terminator]) ⟨[.verbatim ""], rfl⟩
    exact fun hmarked ↦ Bool.false_ne_true (hsecond.2.1.mp hmarked)

/-- The terminator of a variable can be swallowed. -/
theorem not_forall_not_marked_countedLocals :
    ¬ ∀ (layout : Layout) (scope : Scope) (c : Construct) (w : Writer String) (acts : List Act),
      w.Reflects acts → ((c.script scope).run .unbounded layout w).1 = .ok () →
        ∀ site ∈ c.terminated, ∀ before, before ++ site.script ++ [.terminator] <+: c.script scope →
          ¬ Marked (acts ++ (before ++ site.script).acts layout w.stance) := by
  intro h
  let start := beginStatement {} .root ++ [.note (.declared .predefinedType 2)]
  let first : Terminated := ⟨" x = ", rfl, .assignWith "+=" (.ofText "y") (.ofText "1")⟩
  have hnew : Writer.empty.Reflects [] := ⟨rfl, rfl, by simp [Writer.empty]⟩
  have hstance : Writer.empty.stance.Reflects [] := ⟨rfl, rfl, hnew.inComment⟩
  have hbears := @bears_terminated first start rfl rfl {} _ _ hstance
  exact h {} .root countedLocals .empty [] hnew rfl first (.head _) start ⟨_, rfl⟩
    (hbears.marked_iff.mpr rfl)

end CodeBehind
