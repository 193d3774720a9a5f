import CodeBehind.Json.Document
import CodeBehind.Proofs.Composition

/-!
# The event as a literal

A single-quoted literal of a script goes to the first quote that no backslash stands before, and
must end on its line.  Reading one gives the text that it stands for and what follows it.  What is
written for a text is read as that text again, whatever follows, so the line that adds the listener
for the ready event has one string argument: the event.
-/

namespace CodeBehind

namespace Text

/-! ## Reading literals -/

/-- The character that a backslash with one letter stands for. -/
def letterEscape? (c : Char) : Option Char :=
  if c = '\x5c' ∨ c = '\x27' then some c
  else if c = 'n' then some '\n'
  else if c = 'r' then some '\r'
  else none

/-- The character that four hexadecimal digits stand for; half of a surrogate pair is none. -/
def unitEscape? (a b c d : Char) : Option Char :=
  (Json.Doc.codeUnit? a b c d).bind fun unit ↦
    if Json.Doc.isHighSurrogate unit || Json.Doc.isLowSurrogate unit then none
    else some (Char.ofNat unit)

/-- Puts a character before the text that a literal stands for. -/
def withFirst (first : Option Char) (rest : Option (List Char × List Char)) :
    Option (List Char × List Char) :=
  first.bind fun c ↦ rest.map fun (text, after) ↦ (c :: text, after)

/-- Reads a literal behind its opening quote.  No other escapes are read, and a line terminator ends
the line before the literal does. -/
def readInside : List Char → Option (List Char × List Char)
  | [] => none
  | '\x27' :: rest => some ([], rest)
  | '\x5c' :: 'u' :: a :: b :: c :: d :: rest => withFirst (unitEscape? a b c d) (readInside rest)
  | '\x5c' :: c :: rest => withFirst (letterEscape? c) (readInside rest)
  | c :: rest => if isLineTerminator c then none else withFirst (some c) (readInside rest)

/-- Reads a single-quoted literal: the text that it stands for, and what follows it. -/
def readLiteral : List Char → Option (List Char × List Char)
  | '\x27' :: rest => readInside rest
  | _ => none

theorem readInside_cons_self {c : Char} (h : c ∉ escaped) (rest : List Char) :
    readInside (c :: rest) = withFirst (some c) (readInside rest) := by
  simp only [escaped, List.mem_cons, List.not_mem_nil, or_false, not_or] at h
  obtain ⟨hbackslash, hquote, hfeed, hreturn, hline, hparagraph⟩ := h
  rw [readInside]
  · simp [isLineTerminator, isBreak, hfeed, hreturn, hline, hparagraph]
  all_goals simp_all

/-- Whatever is written for a character is read as that character. -/
theorem readInside_escape_append (c : Char) (cs rest : List Char) :
    readInside (escape (c :: cs) ++ rest) =
      withFirst (some c) (readInside (escape cs ++ rest)) := by
  by_cases h : c ∈ escaped
  · simp only [escaped, List.mem_cons, List.not_mem_nil, or_false] at h
    rcases h with rfl | rfl | rfl | rfl | rfl | rfl <;> rfl
  · rcases escape_cons_cases c cs with ⟨_, hself⟩ | ⟨hmem, _⟩
    · rw [hself, List.cons_append, readInside_cons_self h]
    · exact absurd hmem h

theorem readInside_escape (text rest : List Char) :
    readInside (escape text ++ '\x27' :: rest) = some (text, rest) := by
  induction text with
  | nil => rfl
  | cons c cs ih =>
    rw [readInside_escape_append, ih]
    rfl

end Text

namespace Lowering

open Source Writer

/-! ## Generated lines -/

section Lines

variable {layout : Layout} {w : Writer String}

/-- The writer stands in a line, outside of comments. -/
structure InLine (w : Writer String) : Prop where
  inComment : w.inComment = false
  atLineStart : w.atLineStart = false

/-- Code that does not end in a break is written outside of comments, whatever was open before. -/
theorem inLine_code {text : String} {last : Char} (htext : text.toList.getLast? = some last)
    (hlast : Text.isBreak last = false) (w : Writer String) :
    InLine ((Instruction.code text).apply layout w) := by
  have hnonempty : text.isEmpty = false := by
    rw [String.isEmpty_eq_false_iff]
    rintro rfl
    cases htext
  have hafter (u : Writer String) (hu : u.inComment = false) : InLine (u.after text) :=
    ⟨by rw [after_inComment, hu, Bool.false_and],
      by rw [after_atLineStart, htext, Option.elim_some, hlast]⟩
  rw [Instruction.apply_code, hnonempty, Bool.not_false, Bool.and_true]
  split
  next => exact hafter _ (settled_lineBreak w).likeNew.inComment
  next hcomment => exact hafter w (Bool.not_eq_true _ ▸ hcomment)

theorem sink_openLine (hw : InLine w) (depth : Nat) :
    ((Instruction.openLine depth).apply layout w).sink =
      w.sink ++ layout.lineBreak.text ++ layout.indent.text depth := by
  rw [Instruction.apply_openLine, Instruction.apply_endLine, hw.atLineStart, if_neg (by decide),
    after_sink_eq, after_sink_eq]

theorem inComment_openLine (hw : InLine w) (depth : Nat) :
    ((Instruction.openLine depth).apply layout w).inComment = false := by
  rw [Instruction.apply_openLine, Instruction.apply_endLine, hw.atLineStart, if_neg (by decide),
    after_inComment, after_inComment, hw.inComment, Bool.false_and, Bool.false_and]

theorem sink_code (hw : w.inComment = false) (text : String) :
    ((Instruction.code text).apply layout w).sink = w.sink ++ text := by
  rw [Instruction.apply_code, hw, Bool.false_and, if_neg (by decide), after_sink_eq]

/-- Code is written at the end, possibly behind a line break. -/
theorem exists_sink_code (layout : Layout) (text : String) (w : Writer String) :
    ∃ before, ((Instruction.code text).apply layout w).sink = before ++ text := by
  rw [Instruction.apply_code]
  split
  · exact ⟨_, after_sink_eq _ text⟩
  · exact ⟨_, after_sink_eq w text⟩

/-- Two lines of code, and the start of a third, have nothing but their indentation between them. -/
theorem exists_sink_lines (layout : Layout) {first line : String} {last last' : Char}
    (hfirst : first.toList.getLast? = some last) (hlast : Text.isBreak last = false)
    (hline : line.toList.getLast? = some last') (hlast' : Text.isBreak last' = false)
    (depth depth' : Nat) (before after : Script) (w : Writer String) :
    ∃ above below,
      (Script.effect layout (before ++
          ([.code first, .openLine depth, .code line, .openLine depth'] ++ after)) w).sink.toList =
        above ++ first.toList ++ layout.lineBreak.text.toList ++
          (layout.indent.text depth).toList ++ line.toList ++ layout.lineBreak.text.toList ++
          below := by
  let u := (Instruction.code first).apply layout (Script.effect layout before w)
  let opened := (Instruction.openLine depth).apply layout u
  let v := (Instruction.code line).apply layout opened
  let closed := (Instruction.openLine depth').apply layout v
  have hu : InLine u := inLine_code hfirst hlast _
  have hv : InLine v := inLine_code hline hlast' opened
  have hclosed : closed.sink = u.sink ++ layout.lineBreak.text ++ layout.indent.text depth ++
      line ++ layout.lineBreak.text ++ layout.indent.text depth' :=
    calc
      closed.sink = v.sink ++ layout.lineBreak.text ++ layout.indent.text depth' :=
        sink_openLine hv depth'
      _ = opened.sink ++ line ++ layout.lineBreak.text ++ layout.indent.text depth' := by
        rw [sink_code (inComment_openLine hu depth) line]
      _ = _ := by rw [sink_openLine hu depth]
  -- What comes after the second line only adds to the text.
  obtain ⟨rest, hrest⟩ := isPrefix_effect layout after closed
  obtain ⟨above, habove⟩ := exists_sink_code layout first (Script.effect layout before w)
  refine ⟨above.toList, (layout.indent.text depth').toList ++ rest, ?_⟩
  rw [Script.effect_append, Script.effect_append]
  calc
    (Script.effect layout after closed).sink.toList = closed.sink.toList ++ rest := hrest.symm
    _ = _ := by simp only [hclosed, u, habove, String.toList_append, List.append_assoc]

end Lines

/-! ## The line of the listener -/

section Listener

variable {names : NodeNames} {options : Options}

theorem toList_readyHandler (event : String) :
    (readyHandler event).toList = "document.addEventListener(".toList ++
      '\x27' :: (Text.escape event.toList ++ ['\x27']) ++ ", function()\x7b".toList := by
  have hopening : "document.addEventListener('".toList =
      "document.addEventListener(".toList ++ ['\x27'] := by decide
  have hclosing : "', function()\x7b".toList = '\x27' :: ", function()\x7b".toList := by decide
  unfold readyHandler
  simp only [String.toList_append, String.toList_ofList, hopening, hclosing, List.append_assoc,
    List.cons_append, List.nil_append]

/-- The line that declares the names. -/
def variableLine (names : NodeNames) : String :=
  "var " ++ ", ".intercalate names.names ++ ";"

/-- Between the declaration of the names and the first lookup there is the line of the listener. -/
theorem lowerReferences_split {scope : Scope} {namespaceName : String}
    (hscope : scope.enclosingNamespace = some namespaceName) (hnames : names.names ≠ [])
    (h : (lowerReferences names options scope).failure = none) :
    ∃ before depth after, lowerReferences names options scope =
      before ++ ([.code (variableLine names), .openLine scope.depth,
        .code (readyHandler options.readyEvent), .openLine depth] ++ after) := by
  obtain ⟨inner, _, hreferences⟩ :=
    lowerReferences_eq hscope (List.isEmpty_eq_false_iff.mpr hnames) h
  obtain ⟨name, others, hcons⟩ := List.exists_cons_of_ne_nil hnames
  refine ⟨referencesNote options scope ++ [.openLine scope.depth], inner.depth,
    .code (lookup namespaceName name) ::
      (others.flatMap (fun name ↦ [.openLine inner.depth, .code (lookup namespaceName name)]) ++
        [.openLine scope.depth, .code "\x7d, false);", .blankLine]), ?_⟩
  rw [hreferences, variableLine, hcons, List.flatMap_cons]
  simp only [List.append_assoc, List.cons_append, List.nil_append]

/-- A namespace at the top level writes the line of the listener one level deep, behind the line
that declares the names. -/
theorem exists_sink_namespace (layout : Layout) {node : NamespaceDecl} (hnames : names.names ≠ [])
    (h : (lowerNamespace names options node .root).failure = none) (w : Writer String) :
    ∃ above below,
      ((lowerNamespace names options node .root).effect layout w).sink.toList =
        above ++ (variableLine names).toList ++ layout.lineBreak.text.toList ++
          (layout.indent.text 1).toList ++ (readyHandler options.readyEvent).toList ++
          layout.lineBreak.text.toList ++ below := by
  obtain ⟨inner, hinner, hnode⟩ := lowerNamespace_eq h
  rw [hnode, Script.failure_within] at h
  simp only [Script.failure_append_eq_none] at h
  have hscope : (inner.inNamespace node.name.valueText).enclosingNamespace =
      some node.name.valueText := rfl
  obtain ⟨before, depth, after, hreferences⟩ :=
    lowerReferences_split hscope hnames h.2.1.1.1
  have hdepth : (inner.inNamespace node.name.valueText).depth = 1 :=
    Scope.depth_of_enter hinner
  have hvar : (variableLine names).toList.getLast? = some ';' := by
    rw [variableLine, String.toList_append, List.getLast?_append]
    rfl
  have hhandler : (readyHandler options.readyEvent).toList.getLast? = some '\x7b' := by
    have hlast : ", function()\x7b".toList.getLast? = some '\x7b' := by decide
    rw [toList_readyHandler, List.getLast?_append, hlast, Option.some_or]
  obtain ⟨above, below, hsink⟩ := exists_sink_lines layout hvar rfl hhandler rfl 1 depth
    (headerTrivia node.leading ++ [.openLine Scope.root.depth,
      .code ("(function(" ++ node.name.valueText ++ ")\x7b")] ++ before)
    (after ++ node.members.flatMap
        (lowerNamespaceMember options (inner.inNamespace node.name.valueText)) ++
      [.openLine Scope.root.depth,
       .code ("\x7d)(window." ++ node.name.valueText ++ " = window." ++ node.name.valueText ++
         " || \x7b\x7d);"), .endLine] ++ closingTrivia node.trailing) w
  refine ⟨above, below, ?_⟩
  rw [hnode, Script.effect_within, hreferences, hdepth]
  simpa only [List.append_assoc] using hsink

end Listener

end Lowering

open Source Lowering Text

/-! ## The event -/

/-- The line adds a listener for an event: the first argument of the call is a string literal on one
line, which stands for the event and goes to the comma. -/
def ListensFor (event : String) (line : List Char) : Prop :=
  ∃ argument,
    line = "document.addEventListener(".toList ++ argument ++ ", function()\x7b".toList ∧
    (∀ c ∈ argument, isLineTerminator c = false) ∧
    ∀ rest, readLiteral (argument ++ rest) = some (event.toList, rest)

/-- What is written for a text, between quotes. -/
theorem readLiteral_escape (text rest : List Char) :
    readLiteral ('\x27' :: (escape text ++ '\x27' :: rest)) = some (text, rest) :=
  readInside_escape text rest

theorem isLineTerminator_literal (text : List Char) :
    ∀ c ∈ '\x27' :: (escape text ++ ['\x27']), isLineTerminator c = false := by
  intro c hc
  rcases List.mem_cons.mp hc with rfl | hc
  · rfl
  rcases List.mem_append.mp hc with hc | hc
  · exact isLineTerminator_escape hc
  · rw [List.mem_singleton.mp hc]
    rfl

theorem listensFor_readyHandler (event : String) :
    ListensFor event (readyHandler event).toList := by
  refine ⟨_, toList_readyHandler event, isLineTerminator_literal _, fun rest ↦ ?_⟩
  rw [List.cons_append, List.append_assoc, List.singleton_append, readLiteral_escape]

/-- A literal is read back as the text that it was written for, whatever follows, and no line ends
inside of it.  So every namespace that binds names has, one level deep, a line that adds a listener
for the event and nothing else. -/
theorem readyEvent_intact :
    (∀ text rest, readLiteral ('\x27' :: (escape text ++ '\x27' :: rest)) = some (text, rest)) ∧
      (∀ text, ∀ c ∈ '\x27' :: (escape text ++ ['\x27']), isLineTerminator c = false) ∧
      ∀ before node after names options text, names.names ≠ [] →
        emit ⟨before ++ Declaration.ofNamespace node :: after⟩ names options = .ok text →
        ∃ first above line below last, emit ⟨before⟩ names options = .ok first ∧
          emit ⟨after⟩ names options = .ok last ∧
          text.toList = first.toList ++ (above ++ (variableLine names).toList ++
            options.lineBreak.text.toList ++ (options.indent.text 1).toList ++ line ++
            options.lineBreak.text.toList ++ below) ++ last.toList ∧
          ListensFor options.readyEvent line := by
  refine ⟨readLiteral_escape, isLineTerminator_literal, ?_⟩
  intro before node after names options text hnames hemit
  rw [← List.singleton_append] at hemit
  obtain ⟨first, others, hfirst, hothers, rfl⟩ := exists_emit_of_append names options hemit
  obtain ⟨own, last, hown, hlast, rfl⟩ := exists_emit_of_append names options hothers
  obtain ⟨hfailure, rfl⟩ := emit_members_eq_ok names options hown
  rw [List.flatMap_singleton, Declaration.ofNamespace, lowerTopLevel] at hfailure
  obtain ⟨above, below, hsink⟩ :=
    exists_sink_namespace options.toLayout hnames hfailure .empty
  refine ⟨first, above, (readyHandler options.readyEvent).toList, below, last, hfirst, hlast, ?_,
    listensFor_readyHandler options.readyEvent⟩
  rw [List.flatMap_singleton, String.toList_append, String.toList_append, ← List.append_assoc,
    ← hsink]
  rfl

/-- An event with quotes, backslashes and what looks like an escape, over three lines. -/
def quotedOptions : Options where
  readyEvent := "it's \\u0041\n\u2028\\'"

/-- A namespace that binds one name. -/
def listeningPart : NamespaceDecl where
  name := { text := "App" }

def gaugeName : NodeNames where
  names := ["gauge"]
  identifiers := List.forall_mem_singleton.mpr (by decide +kernel)

theorem readyEvent_intact_quotedOptions :
    ∃ text above line below,
      emit ⟨[Declaration.ofNamespace listeningPart]⟩ gaugeName quotedOptions = .ok text ∧
      text.toList = above ++ "var gauge;\n\t".toList ++ line ++ '\n' :: below ∧
      ListensFor "it's \\u0041\n\u2028\\'" line := by
  have hfailure :
      (lowerUnit gaugeName quotedOptions ⟨[Declaration.ofNamespace listeningPart]⟩).failure =
        none := by decide +kernel
  have hemit := emit_eq_ok_iff.mpr ⟨hfailure, rfl⟩
  obtain ⟨first, above, line, below, last, hfirst, hlast, htext, hline⟩ :=
    readyEvent_intact.2.2 [] listeningPart [] gaugeName quotedOptions _ (by decide) hemit
  refine ⟨_, first.toList ++ above, line, below ++ last.toList, hemit, htext.trans ?_, hline⟩
  have hvar : (variableLine gaugeName).toList ++ "\n".toList ++ (Indent.tab.text 1).toList =
      "var gauge;\n\t".toList := by decide +kernel
  rw [← hvar]
  simp only [List.append_assoc]
  rfl

end CodeBehind
