import CodeBehind.Proofs.Inversion
import CodeBehind.Proofs.Lockstep
import CodeBehind.Proofs.Placement
import CodeBehind.Proofs.Rules
import CodeBehind.Proofs.SourceText
import CodeBehind.Proofs.Statements

/-!
# Scripts in another layout

A layout chooses the text of a line break and of a level of indentation, and the rest of a script
comes from the file, the names and the event.  A control character that is in none of these is in no
text that is lowered, so it stands only where the layout put it.  Then emitting with spaces gives the
script with tabs, each tab respelled, and emitting with two characters for a line break gives the
script with one, each of them respelled.
-/

namespace CodeBehind

open Text

/-! ## Texts of a file -/

section Texts

open Source Lowering

variable {mark : Char}

theorem Avoids.of_subset {text : String} (h : Avoids mark text) {cs : List Char}
    (hsubset : ∀ c ∈ cs, c ∈ text.toList) : Avoids mark (String.ofList cs) := by
  intro hmem
  rw [String.toList_ofList] at hmem
  exact h (hsubset mark hmem)

theorem Avoids.valueText {token : Token} (h : Avoids mark token.text) :
    Avoids mark token.valueText :=
  h.of_subset fun _ ↦ mem_of_mem_trim

theorem mem_of_mem_trimEnd {cs : List Char} {c : Char} (h : c ∈ trimEnd cs) : c ∈ cs := by
  obtain ⟨blanks, _, hcs⟩ := exists_trimEnd_append cs
  rw [hcs]
  exact List.mem_append_left _ h

theorem Avoids.trimmedEnd {trivia : Trivia} (h : Avoids mark trivia.text) :
    Avoids mark trivia.trimmedEnd :=
  h.of_subset fun _ ↦ mem_of_mem_trimEnd

theorem Avoids.headerText {trivia : Trivia} (h : Avoids mark trivia.text) :
    Avoids mark (String.ofList (headerText trivia)) := by
  obtain ⟨blanks, _, htext⟩ := trivia.exists_append_splitLeadingBreaks
  apply h.of_subset
  intro c hc
  rw [htext]
  exact List.mem_append_right _ (mem_of_mem_trimEnd hc)

/-- The text and the outer trivia of an expression are parts of its full text. -/
theorem Avoids.parts {e : Expression} (h : Avoids mark e.fullText) :
    Avoids mark e.text ∧ Avoids mark e.trailing.text := by
  rw [Expression.fullText_eq_bare, avoids_append, avoids_append,
    ← Expression.text_eq_fullText_bare] at h
  exact ⟨h.1.2, h.2⟩

theorem avoids_singleLine (hmark : mark.toNat < 32) {text : String} (h : Avoids mark text) :
    Avoids mark (String.ofList (singleLine text.toList)) := by
  intro hmem
  rw [String.toList_ofList] at hmem
  rcases mem_intercalate_space hmem with rfl | ⟨part, hpart, hmem⟩
  · exact absurd hmark (by decide)
  · obtain ⟨piece, hpiece, rfl⟩ := List.mem_map.mp (List.mem_filter.mp hpart).1
    have hflat : mark ∈ (pieces isBreak text.toList).flatten :=
      List.mem_flatten.mpr ⟨piece, hpiece, mem_of_mem_trim hmem⟩
    rw [flatten_pieces] at hflat
    exact h (List.mem_filter.mp hflat).1

theorem avoids_intercalate (hmark : mark.toNat < 32) {list : List String}
    (h : ∀ text ∈ list, Avoids mark text) : Avoids mark (", ".intercalate list) := by
  induction list with
  | nil => exact avoids_printable hmark (by decide)
  | cons text rest ih =>
    obtain ⟨htext, hrest⟩ := List.forall_mem_cons.mp h
    cases rest with
    | nil => simpa using htext
    | cons next others =>
      simp only [String.intercalate_cons_cons, avoids_append]
      exact ⟨⟨htext, avoids_printable hmark (by decide)⟩, ih hrest⟩

/-- Characters before the first range are in none. -/
theorem contains_eq_false {ranges : Ranges} (hranges : ranges.all (32 ≤ ·.1) = true)
    (hmark : mark.toNat < 32) : ranges.contains mark = false := by
  refine List.any_eq_false.mpr fun range hrange ↦ ?_
  have hfirst := List.all_eq_true.mp hranges range hrange
  simp only [decide_eq_true_eq, Bool.and_eq_true] at hfirst ⊢
  omega

theorem avoids_nodeName (hmark : mark.toNat < 32) {name : String} (h : isName name = true) :
    Avoids mark name := by
  have hne {c : Char} (hc : 32 ≤ c.toNat) : (mark == c) = false := by
    rw [beq_eq_false_iff_ne]
    rintro rfl
    omega
  have hstarts : identifierStarts.contains mark = false :=
    contains_eq_false (by decide +kernel) hmark
  have hparts : identifierParts.contains mark = false :=
    contains_eq_false (by decide +kernel) hmark
  apply not_mem_of_isIdentifier h
  · rw [startsIdentifier, hstarts, hne (by decide), hne (by decide)]
    rfl
  · rw [continuesIdentifier, hparts, hne (by decide)]
    rfl

/-- A character is not in a literal if an escape is written for it, or if it is not in the text. -/
theorem avoids_escape (hmark : mark.toNat < 32) {text : String}
    (h : mark ∈ escaped ∨ Avoids mark text) :
    Avoids mark (String.ofList (escape text.toList)) := by
  have hletters : mark ∉ escapeLetters := not_mem_printable hmark (by decide)
  unfold Avoids at h ⊢
  rw [String.toList_ofList]
  intro hmem
  rcases mem_escape hmem with hletter | ⟨hself, htext⟩
  · exact hletters hletter
  · exact h.elim hself fun havoids ↦ havoids htext

end Texts

namespace Lowering

open Source

section Spares

variable {mark : Char}

open Script

/-! ## Lowerings of a file without the character -/

/-- The character is in no part that is lowered. -/
def avoiding (mark : Char) : Rule where
  trivia trivia := Avoids mark trivia.text
  name token := Avoids mark token.text
  value e := Avoids mark e.fullText
  condition e := Avoids mark e.fullText

theorem spares_headerTrivia {trivia : Trivia} (h : Avoids mark trivia.text) :
    (headerTrivia trivia).Spares mark := by
  rcases headerTrivia_cases trivia with ⟨hnil, _⟩ | htext
  · rw [hnil]
    exact spares_nil
  · rw [htext, spares_append, spares_cons]
    refine ⟨⟨Step.spares_endLine, fun step hstep ↦ ?_⟩, by simpa using h.headerText⟩
    rw [List.eq_of_mem_replicate hstep]
    exact Step.spares_breakLine

theorem spares_innerTrivia {trivia : Trivia} (h : Avoids mark trivia.text) :
    (innerTrivia trivia).Spares mark :=
  spares_ite (spares_headerTrivia h) spares_nil

theorem spares_closingTrivia {trivia : Trivia} (h : Avoids mark trivia.text) :
    (closingTrivia trivia).Spares mark :=
  spares_ite (by simpa using h.trimmedEnd) spares_nil

theorem spares_beginStatement {leading : Trivia} (h : Avoids mark leading.text) (scope : Scope) :
    (beginStatement leading scope).Spares mark :=
  spares_ite (by simp) (spares_ite (by simpa using h) (by simpa using h))

theorem spares_operandTrivia {operand : Expression} (h : Avoids mark operand.fullText) :
    (operandTrivia operand).Spares mark :=
  spares_ite spares_nil (by simpa using h.parts.2)

section Control

variable (hmark : mark.toNat < 32)
include hmark

theorem spares_lowerExpressionAt (level : Nat) {e : Expression} (h : Avoids mark e.fullText) :
    (lowerExpressionAt level e).Spares mark := by
  induction e generalizing level with
  | assignment left operator right ihLeft ihRight =>
    simp only [Expression.fullText, Token.fullText, avoids_append] at h
    obtain ⟨⟨hleft, ⟨hbefore, htext⟩, hbehind⟩, hright⟩ := h
    rw [lowerExpressionAt]
    refine spares_ite (by simp) ?_
    simp [ihLeft _ hleft, spares_operandTrivia hleft, hbefore, htext, hbehind, ihRight _ hright,
      spares_operandTrivia hright]
  | compound left operator right =>
    have hmarker : Avoids mark unsupportedMarker := avoids_printable hmark (by decide)
    rw [lowerExpressionAt]
    refine spares_ite (by simp) ?_
    simp [markedComment, hmarker, avoids_singleLine hmark h.parts.1]
  | cast opening type closing operand ih =>
    simp only [Expression.fullText, avoids_append] at h
    rw [lowerExpressionAt]
    refine spares_ite (by simp) ?_
    simp [ih _ h.2]
  | verbatim token =>
    simp only [Expression.fullText, Token.fullText, avoids_append] at h
    rw [lowerExpressionAt]
    refine spares_ite (by simp) ?_
    simp [h.1.2]

theorem spares_lowerExpression {e : Expression} (h : Avoids mark e.fullText) :
    (lowerExpression e).Spares mark :=
  spares_lowerExpressionAt hmark 0 h

theorem spares_lowerDeclarator {declared : Declarator}
    (h : (avoiding mark).OfDeclarator declared) : (lowerDeclarator declared).Spares mark := by
  have hname : Avoids mark declared.identifier.valueText := h.identifier.valueText
  unfold lowerDeclarator
  cases hvalue : declared.initializer with
  | none => simp (disch := decide) [avoids_printable hmark, hname]
  | some value =>
    have hlower := spares_lowerExpression hmark (h.initializer value hvalue)
    simp (disch := decide) [avoids_printable hmark, hname, hlower]

theorem spares_lowerVariables {declared : Variables} (h : (avoiding mark).OfVariables declared) :
    (lowerVariables declared).Spares mark :=
  spares_cons.mpr ⟨Step.spares_note _,
    spares_flatMap fun d hd ↦ spares_lowerDeclarator hmark (h.each d hd)⟩

theorem spares_lowerReturn {value : Option Expression}
    (h : ∀ e ∈ value, Avoids mark e.fullText) : (lowerReturn value).Spares mark := by
  cases value with
  | none => simp (disch := decide) [lowerReturn, avoids_printable hmark]
  | some value =>
    have hlower := spares_lowerExpression hmark (h value rfl)
    simp (disch := decide) [lowerReturn, avoids_printable hmark, hlower]

theorem spares_openIf {leading : Trivia} {condition : Expression} (hleading : Avoids mark leading.text)
    (hcondition : Avoids mark condition.fullText) (scope : Scope) :
    (openIf leading condition scope).Spares mark := by
  simp (disch := decide) [openIf, spares_beginStatement hleading, hcondition.parts.1,
    avoids_printable hmark]

theorem spares_elseLine {leading : Trivia} (h : Avoids mark leading.text) (scope : Scope) :
    (elseLine leading scope).Spares mark := by
  simp (disch := decide) [elseLine, spares_innerTrivia h, avoids_printable hmark]

theorem spares_closeIf {trailing : Trivia} (h : Avoids mark trailing.text) (scope : Scope) :
    (closeIf trailing scope).Spares mark := by
  simp (disch := decide) [closeIf, h, avoids_printable hmark]

theorem spares_lowerStatement (scope : Scope) {s : Statement} (h : (avoiding mark).OfStatement s) :
    (lowerStatement scope s).Spares mark := by
  induction s using Statement.inductionOn generalizing scope with
  | ifThen leading condition body trailing ih =>
    obtain ⟨hleading, hcondition, hbody, htrailing⟩ := h
    rw [lowerStatement, spares_append]
    refine ⟨spares_openIf hmark hleading hcondition scope, spares_whenOk fun inner _ ↦ ?_⟩
    exact spares_append.mpr ⟨ih inner hbody, spares_closeIf hmark htrailing scope⟩
  | ifElse leading condition body elseLeading elseBody trailing ih ihElse =>
    obtain ⟨hleading, hcondition, hbody, helse, helseBody, htrailing⟩ := h
    rw [lowerStatement, spares_append]
    refine ⟨spares_openIf hmark hleading hcondition scope, spares_whenOk fun inner _ ↦ ?_⟩
    rw [spares_append, spares_append, spares_append]
    exact ⟨⟨⟨ih inner hbody, spares_elseLine hmark helse scope⟩, ihElse inner helseBody⟩,
      spares_closeIf hmark htrailing scope⟩
  | ret leading value trailing =>
    obtain ⟨hleading, hvalue, htrailing⟩ := h
    have hreturn := spares_lowerReturn hmark hvalue
    have hbehind : Avoids mark trailing.text := htrailing
    simp [lowerStatement, spares_beginStatement hleading, hreturn, hbehind]
  | locals leading declared trailing =>
    obtain ⟨hleading, hdeclared, htrailing⟩ := h
    have hvariables := spares_lowerVariables hmark hdeclared
    have hbehind : Avoids mark trailing.text := htrailing
    simp [lowerStatement, spares_beginStatement hleading, hvariables, hbehind]
  | expression leading value trailing =>
    obtain ⟨hleading, hvalue, htrailing⟩ := h
    have hlower := spares_lowerExpression hmark hvalue
    have hbehind : Avoids mark trailing.text := htrailing
    simp [lowerStatement, spares_beginStatement hleading, hlower, hbehind]
  | block leading statements trailing ih =>
    obtain ⟨hleading, hinner⟩ := h
    rw [lowerStatement]
    refine spares_whenOk fun inner _ ↦ spares_append.mpr ⟨spares_innerTrivia hleading, ?_⟩
    rw [lowerStatements_eq_flatMap]
    exact spares_flatMap fun s hs ↦ ih s hs inner (((avoiding mark).ofStatements_iff _).mp hinner s hs)
  | unsupported node => simp [lowerStatement]

theorem spares_lowerFunction {leading trailing : Trivia} {header : String} {body : Option Block}
    {block : Block} (hbody : body = some block)
    (h : (avoiding mark).OfFunction leading body trailing) (hheader : Avoids mark header)
    (scope : Scope) : (lowerFunction leading header block trailing scope).Spares mark := by
  have hremarks : Avoids mark block.leading.text := h.bodyLeading block hbody
  have hstatements : (lowerBody block scope).Spares mark := by
    refine spares_append.mpr ⟨spares_ite (by simpa using hremarks.trimmedEnd) spares_nil,
      spares_whenOk fun inner _ ↦ ?_⟩
    rw [lowerStatements_eq_flatMap]
    have hlist := ((avoiding mark).ofStatements_iff _).mp (h.statements block hbody)
    exact spares_flatMap fun s hs ↦ spares_lowerStatement hmark inner (hlist s hs)
  simp (disch := decide) [lowerFunction, spares_headerTrivia h.leading, hheader, hstatements,
    spares_closingTrivia h.trailing, avoids_printable hmark]

theorem spares_lowerClassMember {scope : Scope}
    (hclass : ∀ name ∈ scope.enclosingClass, Avoids mark name) {member : Declaration}
    (h : (avoiding mark).OfClassMember member) : (lowerClassMember scope member).Spares mark := by
  have hname {kind : Kind} {name : String} (hok : enclosingClass scope kind = .ok name) :
      Avoids mark name := by
    unfold enclosingClass at hok
    split at hok
    next found hfound => exact Except.ok.inj hok ▸ hclass found hfound
    next => cases hok
  cases member with
  | methodDecl node =>
    obtain ⟨hfunction, hidentifier, hparameters⟩ := h
    refine Spares.within (spares_whenOk fun className hok ↦ spares_whenOk fun name hdeclared ↦
      spares_whenOk fun body hbody ↦ spares_whenOk fun inner _ ↦ ?_) _
    apply spares_lowerFunction hmark (requiredBody_eq_ok hbody) hfunction
    have hlist : Avoids mark (parameterNames node.parameters) := by
      apply avoids_intercalate hmark
      intro text htext
      obtain ⟨p, hp, rfl⟩ := List.mem_map.mp htext
      exact Avoids.valueText (hparameters p hp)
    have hmethod : Avoids mark name := declaredName_eq_ok hdeclared ▸ Avoids.valueText hidentifier
    simp (disch := decide) [hname hok, hmethod, hlist, avoids_printable hmark]
  | constructorDecl node =>
    refine Spares.within (spares_whenOk fun className hok ↦ spares_whenOk fun body hbody ↦
      spares_whenOk fun inner _ ↦ ?_) _
    apply spares_lowerFunction hmark (requiredBody_eq_ok hbody) h
    simp (disch := decide) [hname hok, avoids_printable hmark]
  | fieldDecl node =>
    obtain ⟨hleading, hdeclared, htrailing⟩ := h
    refine spares_whenOk fun _ _ ↦ spares_whenOk fun inner _ ↦ ?_
    have hvariables := spares_lowerVariables hmark hdeclared
    have hbehind : Avoids mark node.trailing.text := htrailing
    simp [spares_beginStatement hleading, hvariables, hbehind]
  | _ => simp [lowerClassMember]

theorem spares_constructorCall (options : Options) {namespaceName name : String}
    (hnamespace : Avoids mark namespaceName) (hname : Avoids mark name) (scope : Scope) :
    (constructorCall options namespaceName name scope).Spares mark := by
  unfold constructorCall
  split <;> simp (disch := decide) [hnamespace, hname, avoids_printable hmark]

theorem spares_lowerNamespaceMember (options : Options) {scope : Scope}
    (hnamespace : ∀ name ∈ scope.enclosingNamespace, Avoids mark name) {member : Declaration}
    (h : (avoiding mark).OfNamespaceMember member) :
    (lowerNamespaceMember options scope member).Spares mark := by
  cases member with
  | classDecl leading modifiers identifier members trailing =>
    obtain ⟨hleading, hidentifier, hmembers, htrailing⟩ := h
    refine Spares.within (spares_whenOk fun name hdeclared ↦ ?_) _
    have hname : Avoids mark name := declaredName_eq_ok hdeclared ▸ Avoids.valueText hidentifier
    cases hfound : scope.enclosingNamespace with
    | none => simp
    | some namespaceName =>
      have houter := hnamespace namespaceName hfound
      have hclass : ∀ found ∈ (scope.inClass name).enclosingClass, Avoids mark found := by
        rintro _ ⟨⟩
        exact hname
      have hinside : Script.Spares mark (members.flatMap (lowerClassMember (scope.inClass name))) :=
        spares_flatMap fun m hm ↦ spares_lowerClassMember hmark hclass (hmembers m hm)
      have hcall : Script.Spares mark
          (if ClassDecl.hasConstructor { leading, modifiers, identifier, members, trailing } then
            constructorCall options namespaceName name scope else []) :=
        spares_ite (spares_constructorCall hmark options houter hname scope) spares_nil
      simp (disch := decide) only [spares_append, spares_cons, spares_nil, Step.spares_openLine,
        Step.spares_code, Step.spares_endLine, avoids_append, spares_headerTrivia hleading, hname,
        houter, hinside, hcall, spares_closingTrivia htrailing, avoids_printable hmark, and_self]
  | _ => simp [lowerNamespaceMember]

theorem spares_lowerReferences (names : NodeNames) {options : Options}
    (hevent : mark ∈ escaped ∨ Avoids mark options.readyEvent) {scope : Scope}
    (hnamespace : ∀ name ∈ scope.enclosingNamespace, Avoids mark name) :
    (lowerReferences names options scope).Spares mark := by
  have hnames : ∀ name ∈ names.names, Avoids mark name := fun name hname ↦
    avoids_nodeName hmark (names.identifiers name hname)
  unfold lowerReferences
  cases hfound : scope.enclosingNamespace with
  | none => simp
  | some namespaceName =>
    have houter := hnamespace namespaceName hfound
    have hlookup : ∀ name ∈ names.names, Avoids mark (lookup namespaceName name) := fun name hname ↦ by
      simp (disch := decide) [lookup, hnames name hname, houter, avoids_printable hmark]
    have hnote : (referencesNote options scope).Spares mark :=
      spares_ite (by simp (disch := decide) [avoids_printable hmark]) spares_nil
    have hbound : Avoids mark ("var " ++ ", ".intercalate names.names ++ ";") := by
      simp only [avoids_append]
      exact ⟨⟨avoids_printable hmark (by decide), avoids_intercalate hmark hnames⟩,
        avoids_printable hmark (by decide)⟩
    have hhandler : Avoids mark (readyHandler options.readyEvent) := by
      unfold readyHandler
      simp only [avoids_append]
      exact ⟨⟨avoids_printable hmark (by decide), avoids_escape hmark hevent⟩,
        avoids_printable hmark (by decide)⟩
    refine spares_ite (by simp) ?_
    rw [spares_append, spares_append]
    refine ⟨⟨hnote, by simp [hbound, hhandler]⟩, spares_whenOk fun inner _ ↦
      spares_append.mpr ⟨?_, ?_⟩⟩
    · exact spares_flatMap fun name hname ↦ by simp [hlookup name hname]
    · simp (disch := decide) [avoids_printable hmark]

/-- If a control character is in no part of a file that is lowered, nor in the event as it is
written, then it is in no text of the script. -/
theorem spares_lowerUnit (names : NodeNames) {options : Options}
    (hevent : mark ∈ escaped ∨ Avoids mark options.readyEvent) {unit : CompilationUnit}
    (h : (avoiding mark).OfFile unit) : (lowerUnit names options unit).Spares mark := by
  refine spares_append.mpr ⟨spares_flatMap fun member hmember ↦ ?_, by simp⟩
  have hmember := h member hmember
  cases member with
  | namespaceDecl leading name members trailing =>
    obtain ⟨hleading, hname, hmembers, htrailing⟩ := hmember
    refine Spares.within (spares_whenOk fun found hfound ↦ ?_) _
    have hfound : Avoids mark found := namespaceName_eq_ok hfound ▸ Avoids.valueText hname
    have hscope (inner : Scope) :
        ∀ name ∈ (inner.inNamespace found).enclosingNamespace, Avoids mark name := by
      rintro _ ⟨⟩
      exact hfound
    refine spares_append.mpr ⟨?_, spares_whenOk fun inner _ ↦ ?_⟩
    · simp (disch := decide) [spares_headerTrivia hleading, hfound, avoids_printable hmark]
    · have hinside := spares_flatMap fun m hm ↦
        spares_lowerNamespaceMember hmark options (hscope inner) (hmembers m hm)
      simp (disch := decide) only [spares_append, spares_cons, spares_nil, Step.spares_openLine,
        Step.spares_code, Step.spares_endLine, avoids_append, hfound, hinside,
        spares_lowerReferences hmark names hevent (hscope inner), spares_closingTrivia htrailing,
        avoids_printable hmark, and_self]
  | _ => simp [lowerTopLevel]

end Control

end Spares

end Lowering

open Source Lowering

/-! ## Emitting with another layout -/

/-- The script with a spelling wherever the character stands. -/
def respell (mark : Char) (spelling : List Char) (text : String) : String :=
  String.ofList (respelled mark spelling text.toList)

/-- What the layouts write apart, the script is the same, so emitting fails with the same error or
the scripts differ in the spelling. -/
theorem emit_respells {mark : Char} {spelling : List Char} (hmark : mark.toNat < 32)
    {unit : CompilationUnit} {names : NodeNames} {options options' : Options}
    (hlayout : Layout.Respells mark spelling options.toLayout options'.toLayout)
    (hscript : lowerUnit names options' unit = lowerUnit names options unit)
    (hspares : (lowerUnit names options unit).Spares mark) :
    emit unit names options' = (emit unit names options).map (respell mark spelling) := by
  rw [emit_eq, emit_eq, hscript]
  cases hfailure : (lowerUnit names options unit).failure with
  | some error => rfl
  | none =>
    have hempty : Writer.Respelled mark spelling .empty .empty := ⟨rfl, rfl, rfl, rfl⟩
    have hsink := (Script.respelled_effect hlayout hmark hspares hempty).sink
    rw [Option.elim_none, Option.elim_none, Script.run_eq_effect _ _ _ hfailure,
      Script.run_eq_effect _ _ _ hfailure, Except.map, respell, ← hsink, String.ofList_toList]

/-- A layout is a skin of the script.  If there is no tab in the file or the event, then indenting by
spaces gives the script that is indented by tabs with each tab as that many spaces.  If there is no
line feed in the file, then ending lines by two characters gives the script whose lines end in a line
feed with each line feed as the two; the event may break lines, since it is escaped, and a carriage
return in the file stays as it is.  Either both scripts are there, or the error is the same. -/
theorem emit_respelled (unit : CompilationUnit) (names : NodeNames) (options : Options) :
    ((avoiding '\t').OfFile unit → Avoids '\t' options.readyEvent →
      ∀ width : UInt8, 0 < width →
        emit unit names { options with indent := .spaces width } =
          (emit unit names { options with indent := .tab }).map
            (respell '\t' (List.replicate width.toNat ' '))) ∧
      ((avoiding '\n').OfFile unit →
        emit unit names { options with lineBreak := .crlf } =
          (emit unit names { options with lineBreak := .lf }).map
            (respell '\n' ['\r', '\n'])) := by
  constructor
  · intro hunit hevent width hwidth
    have hspares : (lowerUnit names { options with indent := .tab } unit).Spares '\t' :=
      spares_lowerUnit (by decide) names (.inr hevent) hunit
    exact emit_respells (by decide) (Layout.respells_spaces hwidth options.lineBreak) rfl hspares
  · intro hunit
    have hspares : (lowerUnit names { options with lineBreak := .lf } unit).Spares '\n' :=
      spares_lowerUnit (by decide) names (.inl (by decide)) hunit
    exact emit_respells (by decide) (Layout.respells_crlf options.indent) rfl hspares

/-- A constructor that hooks up an event under a comment, and a method that returns a cast. -/
def remarkedMembers : List Declaration :=
  [.constructorDecl
    { leading := { text := "/* set up */" },
      identifier := { text := "Main" },
      body := some
        { statements :=
            [.expression { text := " // the clock" }
              (.assignWith "+=" (.ofText "timer.Tick") (.ofText "OnTick")) {}] } },
   .methodDecl
    { identifier := { text := "Now" },
      parameters := [{ identifier := { text := "x" } }],
      body := some
        { statements :=
            [.ret {} (some (.castTo (.predefined { text := "int" }) (.ofText "x"))) {}] } }]

/-- A file on one line of source text. -/
def flatFile : CompilationUnit where
  members :=
    [.namespaceDecl {} { text := "App" } [.classDecl {} [] { text := "Main" } remarkedMembers {}]
      { text := " // done" }]

theorem ofFile_flatFile {mark : Char} (hmark : mark.toNat < 32) :
    (avoiding mark).OfFile flatFile := by
  have hword {text : String} (h : text.toList.all (32 ≤ ·.toNat) = true) : Avoids mark text :=
    avoids_printable hmark h
  have hconstructor : (avoiding mark).OfClassMember remarkedMembers[0] := by
    refine ⟨hword (by decide), ?_, ?_, hword (by decide)⟩
    · rintro _ ⟨⟩
      exact hword (by decide)
    · rintro _ ⟨⟩
      exact ⟨⟨hword (by decide), hword (by decide), hword (by decide)⟩, trivial⟩
  have hmethod : (avoiding mark).OfClassMember remarkedMembers[1] := by
    refine ⟨⟨hword (by decide), ?_, ?_, hword (by decide)⟩, hword (by decide),
      List.forall_mem_singleton.mpr (hword (by decide))⟩
    · rintro _ ⟨⟩
      exact hword (by decide)
    · rintro _ ⟨⟩
      refine ⟨⟨hword (by decide), ?_, hword (by decide)⟩, trivial⟩
      rintro _ ⟨⟩
      exact hword (by decide)
  have hclass : (avoiding mark).OfNamespaceMember
      (.classDecl {} [] { text := "Main" } remarkedMembers {}) :=
    ⟨hword (by decide), hword (by decide),
      List.forall_mem_cons.mpr ⟨hconstructor, List.forall_mem_singleton.mpr hmethod⟩,
      hword (by decide)⟩
  exact List.forall_mem_singleton.mpr
    ⟨hword (by decide), hword (by decide), List.forall_mem_singleton.mpr hclass, hword (by decide)⟩

/-- The name of one visual node. -/
def dialName : NodeNames where
  names := ["dial"]
  identifiers := List.forall_mem_singleton.mpr (by decide +kernel)

theorem emit_respelled_flatFile :
    (avoiding '\t').OfFile flatFile ∧ (avoiding '\n').OfFile flatFile ∧
      ∃ text, emit flatFile dialName {} = .ok text ∧
        emit flatFile dialName { indent := .spaces 2 } = .ok (respell '\t' [' ', ' '] text) ∧
        emit flatFile dialName { lineBreak := .crlf } =
          .ok (respell '\n' ['\r', '\n'] text) := by
  have htab : (avoiding '\t').OfFile flatFile := ofFile_flatFile (by decide)
  have hfeed : (avoiding '\n').OfFile flatFile := ofFile_flatFile (by decide)
  have hfailure : (lowerUnit dialName {} flatFile).failure = none := by decide +kernel
  have hemit := emit_eq_ok_iff.mpr ⟨hfailure, rfl⟩
  obtain ⟨hspaces, hcrlf⟩ := emit_respelled flatFile dialName {}
  refine ⟨htab, hfeed, _, hemit, ?_, ?_⟩
  · exact (hspaces htab (by decide) 2 (by decide)).trans (congrArg (Except.map _) hemit)
  · exact (hcrlf hfeed).trans (congrArg (Except.map _) hemit)

end CodeBehind
