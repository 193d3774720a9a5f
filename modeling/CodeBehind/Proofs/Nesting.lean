import CodeBehind.Proofs.Adequacy
import CodeBehind.Proofs.Composition
import CodeBehind.Proofs.Rules

/-!
# Brackets of a script

Brackets are nested if every closing bracket is the counterpart of the last one that is still open,
and none is open at the end.  Blanks are no brackets, so the brackets of a script are those of the
pieces that its file denotes, and these can be read off construct by construct: what a fragment
opens is closed by another one, with nested text in between.
-/

namespace CodeBehind

namespace Brackets

open Text Source Meaning

/-! ## Brackets that are due -/

/-- The closing bracket that an opening one makes due. -/
def counterpart? (c : Char) : Option Char :=
  if c = '(' then some ')'
  else if c = '[' then some ']'
  else if c = '\x7b' then some '\x7d'
  else none

def isClosing (c : Char) : Bool :=
  c == ')' || c == ']' || c == '\x7d'

/-- The closing brackets that are due behind one more character, innermost first.  There are none to
speak of if the character closes a bracket that is not due. -/
def next (due : List Char) (c : Char) : Option (List Char) :=
  match counterpart? c with
  | some closing => some (closing :: due)
  | none =>
    if isClosing c then
      match due with
      | [] => none
      | innermost :: outer => if innermost = c then some outer else none
    else some due

/-- A text leads from brackets that are due before it to those that are due behind it. -/
def Leads (due : List Char) (text : List Char) (due' : List Char) : Prop :=
  text.foldlM next due = some due'

instance (due text due' : List Char) : Decidable (Leads due text due') :=
  inferInstanceAs (Decidable (_ = _))

/-- Properly nested brackets, whatever else is between them. -/
def Nested (text : List Char) : Prop :=
  Leads [] text []

instance (text : List Char) : Decidable (Nested text) :=
  inferInstanceAs (Decidable (_ = _))

namespace Leads

variable {a b c : List Char}

theorem append {s t : List Char} (hs : Leads a s b) (ht : Leads b t c) : Leads a (s ++ t) c := by
  unfold Leads at *
  rw [List.foldlM_append, hs]
  exact ht

theorem cons_iff {x : Char} {text : List Char} :
    Leads a (x :: text) c ↔ ∃ b, next a x = some b ∧ Leads b text c := by
  unfold Leads
  rw [List.foldlM_cons, Option.bind_eq_bind, Option.bind_eq_some_iff]

end Leads

/-- Brackets that were due before are left alone. -/
theorem next_append {due due' : List Char} {c : Char} (h : next due c = some due')
    (outer : List Char) : next (due ++ outer) c = some (due' ++ outer) := by
  unfold next at h ⊢
  cases hcounterpart : counterpart? c with
  | some closing =>
    rw [hcounterpart] at h
    rw [← Option.some.inj h]
    rfl
  | none =>
    rw [hcounterpart] at h
    cases hclosing : isClosing c with
    | false =>
      simp only [hclosing, Bool.false_eq_true, if_false] at h ⊢
      rw [Option.some.inj h]
    | true =>
      simp only [hclosing, if_true] at h ⊢
      cases due with
      | nil => cases h
      | cons innermost rest =>
        rw [List.cons_append]
        change ite _ _ _ = _ at h
        change ite _ _ _ = _
        split at h
        next hsame => rw [if_pos hsame, ← Option.some.inj h]
        next => cases h

theorem Leads.frame {due due' text : List Char} (h : Leads due text due') (outer : List Char) :
    Leads (due ++ outer) text (due' ++ outer) := by
  induction text generalizing due with
  | nil =>
    obtain rfl := Option.some.inj h
    rfl
  | cons c rest ih =>
    obtain ⟨due'', hnext, hrest⟩ := Leads.cons_iff.mp h
    exact Leads.cons_iff.mpr ⟨_, next_append hnext outer, ih hrest⟩

namespace Nested

/-- A nested text stands in any brackets. -/
theorem leads {text : List Char} (h : Nested text) (due : List Char) : Leads due text due :=
  h.frame due

theorem append {s t : List Char} (hs : Nested s) (ht : Nested t) : Nested (s ++ t) :=
  Leads.append hs ht

theorem leads_append_iff {s t due due' : List Char} (hs : Nested s) :
    Leads due (s ++ t) due' ↔ Leads due t due' := by
  have h := hs.leads due
  unfold Leads at *
  rw [List.foldlM_append, h]
  rfl

theorem flatMap {α : Type} {xs : List α} {part : α → List Char}
    (h : ∀ x ∈ xs, Nested (part x)) : Nested (xs.flatMap part) := by
  induction xs with
  | nil => rfl
  | cons x rest ih =>
    obtain ⟨hx, hrest⟩ := List.forall_mem_cons.mp h
    rw [List.flatMap_cons]
    exact hx.append (ih hrest)

end Nested

/-! ## Blanks, escapes and names -/

theorem next_of_not_bracket {c : Char} (hopening : counterpart? c = none)
    (hclosing : isClosing c = false) (due : List Char) : next due c = some due := by
  unfold next
  rw [hopening, hclosing]
  rfl

/-- The brackets. -/
def brackets : List Char :=
  ['(', ')', '[', ']', '\x7b', '\x7d']

theorem next_of_not_mem {c : Char} (h : c ∉ brackets) (due : List Char) :
    next due c = some due := by
  simp only [brackets, List.mem_cons, List.not_mem_nil, or_false, not_or] at h
  apply next_of_not_bracket
  · simp [counterpart?, h]
  · simp [isClosing, h]

theorem Nested.of_no_bracket {text : List Char} (h : ∀ c ∈ text, c ∉ brackets) : Nested text := by
  induction text with
  | nil => rfl
  | cons c rest ih =>
    obtain ⟨hc, hrest⟩ := List.forall_mem_cons.mp h
    exact Leads.cons_iff.mpr ⟨[], next_of_not_mem hc [], ih hrest⟩

theorem not_isBlank_bracket : ∀ c ∈ brackets, isBlank c = false := by
  simp only [brackets, List.forall_mem_cons, List.not_mem_nil, false_implies, implies_true,
    and_true]
  decide

/-- Blanks are no brackets. -/
theorem leads_inked {due due' text : List Char} :
    Leads due (inked text) due' ↔ Leads due text due' := by
  induction text generalizing due with
  | nil => rfl
  | cons c rest ih =>
    cases hc : isBlank c with
    | false =>
      have hinked : inked (c :: rest) = c :: inked rest := by simp [inked, hc]
      simp only [hinked, Leads.cons_iff, ih]
    | true =>
      have hinked : inked (c :: rest) = inked rest := by simp [inked, hc]
      have hnext : next due c = some due := by
        apply next_of_not_mem
        intro hmem
        rw [not_isBlank_bracket c hmem] at hc
        cases hc
      rw [hinked, ih, Leads.cons_iff, hnext]
      simp

theorem nested_inked {text : List Char} : Nested (inked text) ↔ Nested text :=
  leads_inked

theorem Nested.valueText {token : Token} (h : Nested token.text.toList) :
    Nested token.valueText.toList := by
  rw [Token.valueText, String.toList_ofList, ← nested_inked, inked_trim]
  exact nested_inked.mpr h

/-- Escapes bring no brackets and hide none. -/
theorem leads_escape {due due' text : List Char} :
    Leads due (escape text) due' ↔ Leads due text due' := by
  induction text generalizing due with
  | nil => rfl
  | cons c rest ih =>
    rcases escape_cons_cases c rest with ⟨_, hself⟩ | ⟨hc, written, hescape, _, hletters⟩
    · simp only [hself, Leads.cons_iff, ih]
    · have hwritten : Nested written := by
        apply Nested.of_no_bracket
        intro d hd hmem
        have hdisjoint : ∀ d ∈ escapeLetters, d ∉ brackets := by
          simp [escapeLetters, brackets]
        exact hdisjoint d (hletters d hd) hmem
      have hdisjoint : ∀ d ∈ escaped, d ∉ brackets := by simp [escaped, brackets]
      have hnext := next_of_not_mem (hdisjoint c hc) due
      rw [hescape, hwritten.leads_append_iff, ih, Leads.cons_iff, hnext]
      simp

theorem nested_nodeName {name : String} (h : Lowering.isName name = true) :
    Nested name.toList := by
  apply Nested.of_no_bracket
  intro c hc hmem
  have hbrackets : ∀ c ∈ brackets,
      startsIdentifier c = false ∧ continuesIdentifier c = false := by
    simp only [brackets, List.forall_mem_cons, List.not_mem_nil, false_implies, implies_true,
      and_true]
    decide +kernel
  obtain ⟨hstart, hpart⟩ := hbrackets c hmem
  exact not_mem_of_isIdentifier h hstart hpart hc

/-! ## Files with nested texts -/

def NestedTrivia (trivia : Trivia) : Prop :=
  Nested trivia.text.toList

structure NestedToken (token : Token) : Prop where
  text : Nested token.text.toList
  leading : NestedTrivia token.leading
  trailing : NestedTrivia token.trailing

/-- One of the two parentheses of a cast. -/
structure Parenthesis (text : String) (token : Token) : Prop where
  text : token.text = text
  leading : NestedTrivia token.leading
  trailing : NestedTrivia token.trailing

def NestedExpression : Expression → Prop
  | .assignment left operator right =>
    NestedExpression left ∧ NestedToken operator ∧ NestedExpression right
  | .compound left operator right =>
    NestedExpression left ∧ NestedToken operator ∧ NestedExpression right
  | .cast opening type closing operand =>
    Parenthesis "(" opening ∧ NestedToken type.token ∧ Parenthesis ")" closing ∧
      NestedExpression operand
  | .verbatim token => NestedToken token

/-- The parentheses of casts are parentheses, and each other token and each trivia has its brackets
nested. -/
def rule : Rule where
  trivia := NestedTrivia
  name token := Nested token.text.toList
  value := NestedExpression
  condition := NestedExpression

/-! ## Pieces -/

@[simp]
theorem spell_append (p q : List Piece) : spell (p ++ q) = spell p ++ spell q :=
  List.flatMap_append ..

@[simp]
theorem spell_cons (piece : Piece) (rest : List Piece) :
    spell (piece :: rest) = piece.text.toList ++ spell rest :=
  List.flatMap_cons ..

@[simp]
theorem spell_nil : spell [] = [] := rfl

theorem nested_spell_flatMap {α : Type} {xs : List α} {pieces : α → List Piece}
    (h : ∀ x ∈ xs, Nested (spell (pieces x))) : Nested (spell (xs.flatMap pieces)) := by
  have hspell : spell (xs.flatMap pieces) = xs.flatMap fun x ↦ spell (pieces x) :=
    List.flatMap_assoc
  rw [hspell]
  exact Nested.flatMap h

/-- A name in a fragment. -/
theorem Leads.fragment {a b c : List Char} {start name stop : String}
    (hstart : Leads a start.toList b) (hname : Nested name.toList)
    (hstop : Leads b stop.toList c) : Leads a (start ++ name ++ stop).toList c := by
  rw [String.toList_append, String.toList_append]
  exact (hstart.append (hname.leads b)).append hstop

theorem nested_remarks {trivia : Trivia} (h : NestedTrivia trivia) :
    Nested (spell (remarks trivia)) := by
  unfold remarks
  split
  · simpa [NestedTrivia] using h
  · rfl

/-! ## Expressions -/

theorem nested_ofToken {token : Token} (h : NestedToken token) : Nested (spell (ofToken token)) := by
  have hnested := h.leading.append (h.text.append h.trailing)
  simpa [ofToken] using hnested

theorem Parenthesis.leads {text : String} {token : Token} (h : Parenthesis text token)
    {a b : List Char} (htext : Leads a text.toList b) : Leads a (spell (ofToken token)) b := by
  have hleads := (h.leading.leads a).append (htext.append (h.trailing.leads b))
  simpa [ofToken, h.text] using hleads

theorem nested_source {e : Expression} (h : NestedExpression e) : Nested (spell (source e)) := by
  induction e with
  | assignment left operator right ihLeft ihRight =>
    rw [source, spell_append, spell_append]
    exact ((ihLeft h.1).append (nested_ofToken h.2.1)).append (ihRight h.2.2)
  | compound left operator right ihLeft ihRight =>
    rw [source, spell_append, spell_append]
    exact ((ihLeft h.1).append (nested_ofToken h.2.1)).append (ihRight h.2.2)
  | cast opening type closing operand ih =>
    obtain ⟨hopening, htype, hclosing, hoperand⟩ := h
    have hopens : Leads [] (spell (ofToken opening)) [')'] := hopening.leads (by decide)
    have hcloses : Leads [')'] (spell (ofToken closing)) [] := hclosing.leads (by decide)
    rw [source, spell_append, spell_append, spell_append]
    exact ((hopens.append ((nested_ofToken htype).leads _)).append hcloses).append (ih hoperand)
  | verbatim token => exact nested_ofToken h

theorem NestedExpression.withoutLeading {e : Expression} (h : NestedExpression e) :
    NestedExpression e.withoutLeading := by
  induction e with
  | assignment left operator right ihLeft => exact ⟨ihLeft h.1, h.2⟩
  | compound left operator right ihLeft => exact ⟨ihLeft h.1, h.2⟩
  | cast opening type closing operand => exact ⟨⟨h.1.text, rfl, h.1.trailing⟩, h.2⟩
  | verbatim token =>
    have htoken : NestedToken token := h
    exact ⟨htoken.text, rfl, htoken.trailing⟩

theorem NestedExpression.withoutTrailing {e : Expression} (h : NestedExpression e) :
    NestedExpression e.withoutTrailing := by
  induction e with
  | assignment left operator right _ ihRight => exact ⟨h.1, h.2.1, ihRight h.2.2⟩
  | compound left operator right _ ihRight => exact ⟨h.1, h.2.1, ihRight h.2.2⟩
  | cast opening type closing operand ih => exact ⟨h.1, h.2.1, h.2.2.1, ih h.2.2.2⟩
  | verbatim token =>
    have htoken : NestedToken token := h
    exact ⟨htoken.text, htoken.leading, rfl⟩

theorem nested_source_bare {e : Expression} (h : NestedExpression e) :
    Nested (spell (source e.bare)) :=
  nested_source h.withoutLeading.withoutTrailing

theorem nested_text {e : Expression} (h : NestedExpression e) : Nested e.text.toList := by
  rw [e.text_eq_fullText_bare, ← spell_source]
  exact nested_source_bare h

theorem NestedExpression.trailing {e : Expression} (h : NestedExpression e) :
    NestedTrivia e.trailing := by
  induction e with
  | assignment left operator right _ ihRight => exact ihRight h.2.2
  | compound left operator right _ ihRight => exact ihRight h.2.2
  | cast opening type closing operand ih => exact ih h.2.2.2
  | verbatim token => exact (show NestedToken token from h).trailing

theorem nested_behindOperand {operand : Expression} (h : NestedExpression operand) :
    Nested (spell (behindOperand operand)) := by
  unfold behindOperand
  split
  · rfl
  · simpa [NestedTrivia] using h.trailing

/-- A rewritten expression loses the parentheses of a cast in pairs. -/
theorem nested_expression {e : Expression} (h : NestedExpression e) :
    Nested (spell (Meaning.expression e)) := by
  induction e with
  | assignment left operator right ihLeft ihRight =>
    have hleft := (ihLeft h.1).append (nested_behindOperand h.1)
    have hright := (ihRight h.2.2).append (nested_behindOperand h.2.2)
    have hnested := hleft.append ((nested_ofToken h.2.1).append hright)
    simpa only [Meaning.expression, spell_append, List.append_assoc] using hnested
  | compound left operator right =>
    have hmarker : Nested "//not yet supported: ".toList := by decide
    have hnested := hmarker.append (nested_text h)
    simpa [Meaning.expression] using hnested
  | cast opening type closing operand ih => exact ih h.2.2.2
  | verbatim token =>
    have htoken : NestedToken token := h
    simpa [Meaning.expression] using htoken.text

/-! ## Statements -/

theorem nested_semicolon (e : Expression) : Nested (spell [semicolon e]) := by
  simp [semicolon, Nested, Leads, next, counterpart?, isClosing]

theorem nested_declarator {declared : Declarator} (h : rule.OfDeclarator declared) :
    Nested (spell (declarator declared)) := by
  have hname := Nested.valueText h.identifier
  have hvalues := h.initializer
  unfold declarator
  cases hinit : declared.initializer with
  | none =>
    rw [spell_cons, spell_nil, List.append_nil]
    exact Leads.fragment (by decide : Leads [] "var ".toList []) hname (by decide)
  | some value =>
    have hstart : Nested (" " ++ declared.identifier.valueText ++ " = ").toList :=
      Leads.fragment (by decide : Leads [] " ".toList []) hname (by decide)
    have hvalue := nested_expression (hvalues value hinit)
    rw [spell_append, spell_append, spell_cons, spell_nil, List.append_nil]
    exact (hstart.append hvalue).append (nested_semicolon value)

theorem nested_returned {value : Option Expression} (h : ∀ e ∈ value, NestedExpression e) :
    Nested (spell (returned value)) := by
  cases value with
  | none => decide
  | some e =>
    have hstart : Nested (spell [code "return "]) := by decide
    rw [returned, spell_append, spell_append]
    exact (hstart.append (nested_expression (h e rfl))).append (nested_semicolon e)

/-- The opening of a conditional leaves a brace due. -/
theorem leads_conditional {leading : Trivia} {condition : Expression}
    (hleading : NestedTrivia leading) (hcondition : NestedExpression condition) :
    Leads [] (spell (conditional leading condition)) ['\x7d'] := by
  have hopening : Leads [] "if(".toList [')'] := by decide
  have hclosing : Leads [')'] ")\x7b".toList ['\x7d'] := by decide
  have hleads := (hleading.leads []).append (hopening.append
    (((nested_source_bare hcondition).leads [')']).append hclosing))
  simpa [conditional] using hleads

theorem leads_closing {trailing : Trivia} (h : NestedTrivia trailing) :
    Leads ['\x7d'] (spell [code "\x7d", comment trailing.text]) [] := by
  have hbrace : Leads ['\x7d'] "\x7d".toList [] := by decide
  simpa using hbrace.append h

/-- Trivia, nested pieces and trivia. -/
theorem nested_between {leading trailing : Trivia} {pieces : List Piece}
    (hleading : NestedTrivia leading) (hpieces : Nested (spell pieces))
    (htrailing : NestedTrivia trailing) :
    Nested (spell ([comment leading.text] ++ pieces ++ [comment trailing.text])) := by
  simpa using hleading.append (hpieces.append htrailing)

theorem nested_statement {s : Statement} (h : rule.OfStatement s) :
    Nested (spell (Meaning.statement s)) := by
  induction s using Statement.inductionOn with
  | ifThen leading condition body trailing ih =>
    rw [Rule.OfStatement] at h
    obtain ⟨hleading, hcondition, hbody, htrailing⟩ := h
    rw [Meaning.statement, spell_append, spell_append]
    exact ((leads_conditional hleading hcondition).append ((ih hbody).leads _)).append
      (leads_closing htrailing)
  | ifElse leading condition body elseLeading elseBody trailing ih ihElse =>
    rw [Rule.OfStatement] at h
    obtain ⟨hleading, hcondition, hbody, hremarks, helse, htrailing⟩ := h
    have hline : Leads ['\x7d'] (spell [code "\x7delse\x7b"]) ['\x7d'] := by decide
    have hthen := (leads_conditional hleading hcondition).append ((ih hbody).leads _)
    have hturn := ((nested_remarks hremarks).leads _).append hline
    have hnested : Nested _ := hthen.append (hturn.append
      (((ihElse helse).leads _).append (leads_closing htrailing)))
    simpa only [Meaning.statement, spell_append, List.append_assoc] using hnested
  | ret leading value trailing =>
    rw [Rule.OfStatement] at h
    rw [Meaning.statement]
    exact nested_between h.1 (nested_returned h.2.1) h.2.2
  | locals leading declared trailing =>
    rw [Rule.OfStatement] at h
    rw [Meaning.statement]
    exact nested_between h.1 (nested_spell_flatMap fun d hd ↦ nested_declarator (h.2.1.each d hd)) h.2.2
  | expression leading value trailing =>
    rw [Rule.OfStatement] at h
    have hvalue := (nested_expression h.2.1).append (nested_semicolon value)
    rw [← spell_append] at hvalue
    have hnested := nested_between h.1 hvalue h.2.2
    simpa only [Meaning.statement, List.append_assoc, List.cons_append, List.nil_append]
      using hnested
  | block leading statements trailing ih =>
    rw [Rule.OfStatement, Rule.ofStatements_iff] at h
    rw [Meaning.statement, statements_eq_flatMap, spell_append]
    exact (nested_remarks h.1).append (nested_spell_flatMap fun s hs ↦ ih s hs (h.2 s hs))
  | unsupported node => rfl

theorem nested_statements {list : List Statement} (h : rule.OfStatements list) :
    Nested (spell (Meaning.statements list)) := by
  rw [Rule.ofStatements_iff] at h
  rw [statements_eq_flatMap]
  exact nested_spell_flatMap fun s hs ↦ nested_statement (h s hs)

/-! ## Declarations -/

theorem nested_function {leading trailing : Trivia} {header : String} {body : Option Block}
    (hheader : Leads [] header.toList ['\x7d']) (h : rule.OfFunction leading body trailing) :
    Nested (spell (function leading header body trailing)) := by
  cases body with
  | none => rfl
  | some block =>
    have hbrace : Leads ['\x7d'] (spell [code "\x7d;"]) [] := by decide
    have hopening : Leads [] (spell [comment leading.text, code header]) ['\x7d'] := by
      simpa using (h.leading.leads []).append hheader
    have hbody := (nested_remarks (h.bodyLeading block rfl)).append
      (nested_statements (h.statements block rfl))
    have hnested : Nested _ := hopening.append ((hbody.leads _).append
      (hbrace.append (nested_remarks h.trailing)))
    simpa only [function, spell_append, List.append_assoc] using hnested

theorem nested_intercalate {list : List String} (h : ∀ name ∈ list, Nested name.toList) :
    Nested (", ".intercalate list).toList := by
  induction list with
  | nil => decide
  | cons name rest ih =>
    obtain ⟨hname, hrest⟩ := List.forall_mem_cons.mp h
    cases rest with
    | nil => simpa using hname
    | cons next others =>
      have hcomma : Nested ", ".toList := by decide
      rw [String.intercalate_cons_cons, String.toList_append, String.toList_append]
      exact (hname.append hcomma).append (ih hrest)

theorem nested_classMember {className : String} {member : Declaration}
    (hname : Nested className.toList) (h : rule.OfClassMember member) :
    Nested (spell (classMember className member)) := by
  have hclass : Leads [] (className ++ ".").toList [] := by
    rw [String.toList_append]
    exact hname.append (by decide)
  cases member with
  | methodDecl node =>
    obtain ⟨hfunction, hidentifier, hparameters⟩ := h
    have hnames : Nested (", ".intercalate (node.parameters.map (·.identifier.valueText))).toList := by
      apply nested_intercalate
      intro name hmem
      obtain ⟨p, hp, rfl⟩ := List.mem_map.mp hmem
      exact Nested.valueText (hparameters p hp)
    have hmethod := hclass.fragment (Nested.valueText hidentifier)
      (by decide : Leads [] " = function(".toList [')'])
    exact nested_function (hmethod.fragment hnames (by decide)) hfunction
  | constructorDecl node => exact nested_function (hclass.fragment hname (by decide)) h
  | fieldDecl node =>
    exact nested_between h.1 (nested_spell_flatMap fun d hd ↦ nested_declarator (h.2.1.each d hd)) h.2.2
  | namespaceDecl leading name members trailing => rfl
  | classDecl leading modifiers identifier members trailing => rfl
  | unsupported node => rfl

/-- A closure: what its opening line leaves due its closing line closes. -/
theorem nested_closure {leading trailing : Trivia} {name closing : String} {inside : List Piece}
    {behind : List Piece} (hleading : NestedTrivia leading) (hname : Nested name.toList)
    (hinside : Nested (spell inside)) (hclosing : Leads ['\x7d', ')'] closing.toList [])
    (hbehind : Nested (spell behind)) (htrailing : NestedTrivia trailing) :
    Nested (spell ([comment leading.text, code ("(function(" ++ name ++ ")\x7b")] ++ inside ++
      [code closing] ++ behind ++ remarks trailing)) := by
  have hopening : Leads [] ("(function(" ++ name ++ ")\x7b").toList ['\x7d', ')'] :=
    Leads.fragment (by decide : Leads [] "(function(".toList [')', ')']) hname (by decide)
  have hnested : Nested _ := (hleading.leads []).append (hopening.append ((hinside.leads _).append
    (hclosing.append (hbehind.append (nested_remarks htrailing)))))
  simpa using hnested

theorem nested_constructorCall {annotate : Bool} {namespaceName className : String}
    (hnamespace : Nested namespaceName.toList) (hclass : Nested className.toList) :
    Nested (spell (Meaning.constructorCall annotate namespaceName className)) := by
  have hstart : Leads [] (namespaceName ++ ".").toList [] := by
    rw [String.toList_append]
    exact hnamespace.append (by decide)
  have hobject := hstart.fragment hclass (by decide : Leads [] ".".toList [])
  have hcall := hobject.fragment hclass (by decide : Leads [] "();".toList [])
  have hnote : Nested (spell (if annotate then [comment "//call constructor"] else [])) := by
    cases annotate <;> decide
  rw [Meaning.constructorCall, spell_append, spell_cons, spell_nil, List.append_nil]
  exact hnote.append hcall

theorem nested_namespaceMember {annotate : Bool} {namespaceName : String} {member : Declaration}
    (hname : Nested namespaceName.toList) (h : rule.OfNamespaceMember member) :
    Nested (spell (namespaceMember annotate namespaceName member)) := by
  cases member with
  | classDecl leading modifiers identifier members trailing =>
    obtain ⟨hleading, hidentifier, hmembers, htrailing⟩ := h
    have hclass := Nested.valueText hidentifier
    have hinside : Nested (spell (members.flatMap (classMember identifier.valueText))) :=
      nested_spell_flatMap fun m hm ↦ nested_classMember hclass (hmembers m hm)
    have hstart := Leads.fragment (by decide : Leads ['\x7d', ')'] "\x7d)(".toList [')']) hname
      (by decide : Leads [')'] ".".toList [')'])
    have hobject := (hstart.fragment hclass (by decide : Leads [')'] " = ".toList [')'])).fragment
      hname (by decide : Leads [')'] ".".toList [')'])
    have hclosing := hobject.fragment hclass (by decide : Leads [')'] " || \x7b\x7d);".toList [])
    have hcall : Nested (spell (if members.any Declaration.isConstructor then
        Meaning.constructorCall annotate namespaceName identifier.valueText else [])) := by
      split
      · exact nested_constructorCall hname hclass
      · rfl
    exact nested_closure hleading hclass hinside hclosing hcall htrailing
  | namespaceDecl leading name members trailing => rfl
  | constructorDecl node => rfl
  | methodDecl node => rfl
  | fieldDecl node => rfl
  | unsupported node => rfl

theorem nested_lookup {namespaceName name : String} (hnamespace : Nested namespaceName.toList)
    (hname : Nested name.toList) :
    Nested (name ++ " = document.querySelector(\"" ++ namespaceName ++ "[name='" ++ name ++
      "']\");").toList := by
  have hstart : Leads [] (name ++ " = document.querySelector(\"").toList [')'] := by
    rw [String.toList_append]
    exact Leads.append hname (by decide)
  have htag := hstart.fragment hnamespace (by decide : Leads [')'] "[name='".toList [']', ')'])
  exact htag.fragment hname (by decide)

theorem nested_references {names : List String} {annotate : Bool} {event namespaceName : String}
    (hnames : ∀ name ∈ names, Nested name.toList) (hevent : Nested event.toList)
    (hnamespace : Nested namespaceName.toList) :
    Nested (spell (references names annotate event namespaceName)) := by
  unfold references
  split
  next => rfl
  next =>
    have hnote : Nested (spell (if annotate then
        [comment "//Auto Generated Refs to Visual Nodes"] else [])) := by
      cases annotate <;> decide
    have hdeclared : Nested ("var " ++ ", ".intercalate names ++ ";").toList :=
      Leads.fragment (by decide : Leads [] "var ".toList []) (nested_intercalate hnames) (by decide)
    have hescaped : Nested (String.ofList (escape event.toList)).toList := by
      rw [String.toList_ofList]
      exact leads_escape.mpr hevent
    have hhandler := Leads.fragment
      (by decide : Leads [] "document.addEventListener('".toList [')']) hescaped
      (by decide : Leads [')'] "', function()\x7b".toList ['\x7d', ')'])
    have hlookups : Nested (spell (names.map fun name ↦ code (name ++
        " = document.querySelector(\"" ++ namespaceName ++ "[name='" ++ name ++ "']\");"))) := by
      rw [List.map_eq_flatMap]
      apply nested_spell_flatMap
      intro name hmem
      rw [spell_cons, spell_nil, List.append_nil]
      exact nested_lookup hnamespace (hnames name hmem)
    have hclosing : Leads ['\x7d', ')'] (spell [code "\x7d, false);"]) [] := by decide
    have hnested : Nested _ := hnote.append (hdeclared.append
      (hhandler.append ((hlookups.leads _).append hclosing)))
    simpa only [spell_append, spell_cons, spell_nil, text_code, List.append_assoc,
      List.append_nil] using hnested

theorem nested_topLevel {names : List String} {annotate : Bool} {event : String}
    {member : Declaration} (hnames : ∀ name ∈ names, Nested name.toList)
    (hevent : Nested event.toList) (h : rule.OfTopLevel member) :
    Nested (spell (topLevel names annotate event member)) := by
  cases member with
  | namespaceDecl leading token members trailing =>
    obtain ⟨hleading, htoken, hmembers, htrailing⟩ := h
    have hname := Nested.valueText htoken
    have hreferences : Nested (spell (references names annotate event token.valueText)) :=
      nested_references hnames hevent hname
    have hclasses : Nested (spell (members.flatMap (namespaceMember annotate token.valueText))) :=
      nested_spell_flatMap fun m hm ↦ nested_namespaceMember hname (hmembers m hm)
    have hinside := hreferences.append hclasses
    rw [← spell_append] at hinside
    have hwindow := Leads.fragment (by decide : Leads ['\x7d', ')'] "\x7d)(window.".toList [')'])
      hname (by decide : Leads [')'] " = window.".toList [')'])
    have hclosing := hwindow.fragment hname (by decide : Leads [')'] " || \x7b\x7d);".toList [])
    have hnested := nested_closure hleading hname hinside hclosing (rfl : Nested (spell []))
      htrailing
    simpa only [topLevel, List.append_assoc, List.nil_append] using hnested
  | classDecl leading modifiers identifier members trailing => rfl
  | constructorDecl node => rfl
  | methodDecl node => rfl
  | fieldDecl node => rfl
  | unsupported node => rfl

end Brackets

open Text Source Lowering Brackets

/-- The ink of a list of declarations is the ink of what they denote. -/
theorem inked_members {names : NodeNames} {options : Options} {members : List Declaration}
    {text : String} (h : emit ⟨members⟩ names options = .ok text) :
    inked text.toList = inked (Meaning.spell
      (members.flatMap (Meaning.topLevel names.names options.annotate options.readyEvent))) := by
  obtain ⟨hfailure, rfl⟩ := emit_members_eq_ok names options h
  rw [← Script.run_eq_effect _ _ _ hfailure, Script.inked_run _ _ _ hfailure, Meaning.inked_spell]
  exact ink_flatMap members _ _ (fun member _ ↦ ink_lowerTopLevel names options member) hfailure

theorem nested_members {names : NodeNames} {options : Options} {members : List Declaration}
    {text : String} (hmembers : ∀ m ∈ members, rule.OfTopLevel m)
    (hevent : Nested options.readyEvent.toList) (h : emit ⟨members⟩ names options = .ok text) :
    Nested text.toList := by
  rw [← nested_inked, inked_members h, nested_inked]
  apply nested_spell_flatMap
  intro member hmember
  apply nested_topLevel _ hevent (hmembers member hmember)
  intro name hname
  exact nested_nodeName (names.identifiers name hname)

/-- If all texts of a file have their brackets nested, then so has its script.  Whenever a number of
its declarations is written, no bracket is open in what the sink took so far. -/
theorem nested_emit {unit : CompilationUnit} {names : NodeNames} {options : Options}
    {text : String} (hfile : rule.OfFile unit) (hevent : Nested options.readyEvent.toList)
    (h : emit unit names options = .ok text) :
    Nested text.toList ∧
      ∀ n, ∃ w rest, Script.run .unbounded options.toLayout
          ((unit.members.take n).flatMap (lowerTopLevel names options)) .empty = (.ok (), w) ∧
        text = w.sink ++ rest ∧ Nested w.sink.toList := by
  refine ⟨nested_members hfile hevent h, fun n ↦ ?_⟩
  have hcut : emit ⟨unit.members.take n ++ unit.members.drop n⟩ names options = .ok text := by
    rw [List.take_append_drop]
    exact h
  obtain ⟨part, rest, hpart, _, htext⟩ := exists_emit_of_append names options hcut
  obtain ⟨w, hrun, rfl, _⟩ := exists_run_members names options hpart
  refine ⟨w, rest, hrun, htext, nested_members ?_ hevent hpart⟩
  intro member hmember
  exact hfile member (List.mem_of_mem_take hmember)

/-- A conditional with a cast in its condition and a marker that holds another. -/
def bracketedStatement : Statement :=
  .ifThen { text := "/* \x7b[]\x7d */" }
    (.cast { text := "(", trailing := { text := "()" } } (.named { text := "List<int[]>" })
      { text := ")" } (.ofText "rows[f(x)]"))
    (.expression {}
      (.assignWith "+=" (.ofText "a[0]") (.castTo (.predefined { text := "int" }) (.ofText "(b)")))
      {})
    {}

def bracketedFile : CompilationUnit where
  members :=
    [.unsupported { nodeKind := "UsingDirective", text := ")" },
     .namespaceDecl {} { text := "App" }
      [.classDecl {} [] { text := "Main" }
        [.constructorDecl
          { identifier := { text := "Main" },
            body := some { statements := [bracketedStatement] } }] {}]
      {}]

theorem nested_emit_bracketedFile :
    rule.OfFile bracketedFile ∧ Nested "ready()".toList ∧
      ∃ text, emit bracketedFile timerNames { readyEvent := "ready()" } = .ok text ∧
        Nested text.toList := by
  have htoken {text : String} (h : Nested text.toList) : NestedToken { text := text } :=
    ⟨h, rfl, rfl⟩
  have hspace : Nested " ".toList := by decide
  have hstatement : rule.OfStatement bracketedStatement := by
    have hcast : NestedExpression (.castTo (.predefined { text := "int" }) (.ofText "(b)")) :=
      ⟨⟨rfl, rfl, rfl⟩, htoken (by decide), ⟨rfl, rfl, rfl⟩, htoken (by decide)⟩
    have hmarked : rule.OfStatement (.expression {} (.assignWith "+=" (.ofText "a[0]")
        (.castTo (.predefined { text := "int" }) (.ofText "(b)"))) {}) :=
      ⟨rfl, ⟨htoken (by decide), ⟨by decide, hspace, hspace⟩, hcast⟩, rfl⟩
    have hcondition : NestedExpression (.cast { text := "(", trailing := { text := "()" } }
        (.named { text := "List<int[]>" }) { text := ")" } (.ofText "rows[f(x)]")) :=
      ⟨⟨rfl, rfl, (by decide : Nested "()".toList)⟩, htoken (by decide), ⟨rfl, rfl, rfl⟩, htoken (by decide)⟩
    exact ⟨(by decide : Nested "/* \x7b[]\x7d */".toList), hcondition, hmarked, rfl⟩
  have hfile : rule.OfFile bracketedFile := by
    have hconstructor : rule.OfFunction {} (some { statements := [bracketedStatement] }) {} := by
      refine ⟨rfl, ?_, ?_, rfl⟩
      · rintro _ ⟨⟩
        rfl
      · rintro _ ⟨⟩
        exact ⟨hstatement, trivial⟩
    refine List.forall_mem_cons.mpr ⟨trivial, List.forall_mem_singleton.mpr ?_⟩
    refine ⟨rfl, (by decide : Nested "App".toList), List.forall_mem_singleton.mpr ?_, rfl⟩
    exact ⟨rfl, (by decide : Nested "Main".toList), List.forall_mem_singleton.mpr hconstructor, rfl⟩
  have hevent : Nested "ready()".toList := by decide
  have hfailure : (lowerUnit timerNames { readyEvent := "ready()" } bracketedFile).failure = none := by
    decide +kernel
  have hemit := emit_eq_ok_iff.mpr ⟨hfailure, rfl⟩
  exact ⟨hfile, hevent, _, hemit, (nested_emit hfile hevent hemit).1⟩

end CodeBehind
