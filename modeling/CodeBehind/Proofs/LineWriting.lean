import CodeBehind.Proofs.Composition
import CodeBehind.Proofs.Ink
import CodeBehind.Proofs.LinePrinter

/-!
# Writing line by line

The writer decides late where a line ends: a line break is written when the next line is opened.  So
a writer of lines is in one of two kinds of states: between lines, where the lines so far are
complete once the current one is ended, and inside of a line, where its content so far is known.  A
script either prints lines, from one state between lines to the next, or it goes on with the content
of a line.
-/

namespace CodeBehind

open Source Lowering Writer

namespace Printer

/-! ## Texts on one line -/

@[simp]
theorem unbroken_append {a b : String} : Unbroken (a ++ b) ↔ Unbroken a ∧ Unbroken b := by
  unfold Unbroken
  rw [String.toList_append, List.forall_mem_append]

theorem HasInk.append_right {b : String} (h : HasInk b) (a : String) : HasInk (a ++ b) := by
  obtain ⟨c, hc, hink⟩ := h
  exact ⟨c, by simp [hc], hink⟩

theorem Content.append {a b : String} (ha : Unbroken a) (hb : Content b) : Content (a ++ b) :=
  ⟨unbroken_append.mpr ⟨ha, hb.unbroken⟩, hb.ink.append_right a⟩

theorem HasInk.ne_empty {text : String} (h : HasInk text) : text ≠ "" := by
  rintro rfl
  obtain ⟨c, hc, _⟩ := h
  cases hc

theorem Unbroken.valueText {token : Token} (h : Unbroken token.text) :
    Unbroken token.valueText := by
  intro c hc
  rw [Token.valueText, String.toList_ofList] at hc
  exact h c (Text.mem_of_mem_trim hc)

theorem unbroken_intercalate {list : List String} (h : ∀ text ∈ list, Unbroken text) :
    Unbroken (", ".intercalate list) := by
  induction list with
  | nil => decide
  | cons text rest ih =>
    obtain ⟨htext, hrest⟩ := List.forall_mem_cons.mp h
    cases rest with
    | nil => simpa using htext
    | cons next others =>
      rw [String.intercalate_cons_cons, unbroken_append, unbroken_append]
      exact ⟨⟨htext, by decide⟩, ih hrest⟩

theorem unbroken_nodeName {name : String} (h : isName name = true) : Unbroken name := by
  intro c hc
  cases hbreak : Text.isBreak c with
  | false => rfl
  | true =>
    have hbreaks : ∀ c ∈ ['\n', '\r'],
        Text.startsIdentifier c = false ∧ Text.continuesIdentifier c = false := by
      simp only [List.forall_mem_cons, List.not_mem_nil, false_implies, implies_true,
        and_true]
      decide +kernel
    have hmem : c ∈ ['\n', '\r'] := by simpa [Text.isBreak] using hbreak
    obtain ⟨hstart, hpart⟩ := hbreaks c hmem
    exact absurd hc (Text.not_mem_of_isIdentifier h hstart hpart)

theorem unbroken_escape (text : List Char) : Unbroken (String.ofList (Text.escape text)) := by
  intro c hc
  rw [String.toList_ofList] at hc
  have hterminator := Text.isLineTerminator_escape hc
  simp only [Text.isLineTerminator, Bool.or_eq_false_iff] at hterminator
  exact hterminator.1.1

/-! ## States of the writer -/

/-- Between lines: once the current line is ended, all lines are complete and the writer is like
new. -/
structure Printed (layout : Layout) (lines : List Line) (w : Writer String) : Prop where
  proper : ∀ line ∈ lines, line.Proper
  likeNew : LikeNew (Instruction.endLine.apply layout w)
  sink : (Instruction.endLine.apply layout w).sink = render layout lines

/-- Inside of a line that is indented and has some content. -/
structure Begun (layout : Layout) (lines : List Line) (depth : Nat) (content : String)
    (w : Writer String) : Prop where
  proper : ∀ line ∈ lines, line.Proper
  unbroken : Unbroken content
  sink : w.sink = render layout lines ++ layout.indent.text depth ++ content
  inComment : w.inComment = false
  endsWithSeparator : w.endsWithSeparator = content.toList.getLast?.all isSeparator
  /-- An empty line without indentation is not known to be there. -/
  atLineStart : content ≠ "" → w.atLineStart = false

section States

variable {layout : Layout} {lines : List Line} {w : Writer String}

theorem printed_empty : Printed layout [] .empty where
  proper _ h := nomatch h
  likeNew := likeNew_empty
  sink := rfl

/-- A writer that is like new has no line to end. -/
theorem printed_of_likeNew (hproper : ∀ line ∈ lines, line.Proper) (hw : LikeNew w)
    (hsink : w.sink = render layout lines) : Printed layout lines w := by
  have hended : Instruction.endLine.apply layout w = w := by
    rw [Instruction.apply_endLine, if_pos hw.atLineStart]
  refine ⟨hproper, ?_, ?_⟩
  · rw [hended]
    exact hw
  · rw [hended]
    exact hsink

theorem Printed.endLine (h : Printed layout lines w) :
    Printed layout lines (Instruction.endLine.apply layout w) :=
  printed_of_likeNew h.proper h.likeNew h.sink

theorem Printed.blankLine (h : Printed layout lines w) :
    Printed layout (lines ++ [.blank]) (Instruction.blankLine.apply layout w) := by
  rw [Instruction.apply_blankLine]
  refine printed_of_likeNew ?_ (settled_lineBreak _).likeNew ?_
  · rw [List.forall_mem_append]
    exact ⟨h.proper, List.forall_mem_singleton.mpr trivial⟩
  · rw [after_sink_eq, h.sink, render_append]
    simp [render, Line.text]

theorem Printed.openLine (h : Printed layout lines w) (depth : Nat) :
    Begun layout lines depth "" ((Instruction.openLine depth).apply layout w) where
  proper := h.proper
  unbroken := by decide
  sink := by rw [Instruction.apply_openLine, after_sink_eq, h.sink, String.append_empty]
  inComment := by
    rw [Instruction.apply_openLine, after_inComment, h.likeNew.inComment, Bool.false_and]
  endsWithSeparator := by
    rw [Instruction.apply_openLine, after_endsWithSeparator]
    cases hlast : (layout.indent.text depth).toList.getLast? with
    | none => exact h.likeNew.endsWithSeparator
    | some c =>
      have hblank := isBlank_indent layout.indent depth c (List.mem_of_getLast? hlast)
      rw [Option.elim_some, hblank]
      rfl
  atLineStart hne := absurd rfl hne

/-- A text without breaks goes on with the line. -/
theorem Begun.after {depth : Nat} {content text : String} (h : Begun layout lines depth content w)
    (htext : Unbroken text) : Begun layout lines depth (content ++ text) (w.after text) where
  proper := h.proper
  unbroken := unbroken_append.mpr ⟨h.unbroken, htext⟩
  sink := by rw [after_sink_eq, h.sink, String.append_assoc]
  inComment := by rw [after_inComment, h.inComment, Bool.false_and]
  endsWithSeparator := by
    rw [after_endsWithSeparator, String.toList_append, List.getLast?_append, h.endsWithSeparator]
    cases text.toList.getLast? <;> rfl
  atLineStart hne := by
    rw [after_atLineStart]
    cases hlast : text.toList.getLast? with
    | none =>
      obtain rfl : text = "" := by
        rw [← String.toList_eq_nil_iff]
        exact List.getLast?_eq_none_iff.mp hlast
      rw [String.append_empty] at hne
      exact h.atLineStart hne
    | some c => exact htext c (List.mem_of_getLast? hlast)

theorem Begun.code {depth : Nat} {content text : String} (h : Begun layout lines depth content w)
    (htext : Unbroken text) :
    Begun layout lines depth (content ++ text) ((Instruction.code text).apply layout w) := by
  rw [Instruction.apply_code, h.inComment, Bool.false_and, if_neg Bool.false_ne_true]
  exact h.after htext

theorem Begun.separate {depth : Nat} {content : String} (h : Begun layout lines depth content w) :
    Begun layout lines depth (spaced content) (Instruction.separate.apply layout w) := by
  rw [Instruction.apply_separate, h.endsWithSeparator, spaced]
  split
  · exact h
  · exact h.code (by decide)

/-- A line with ink is ended by whatever follows. -/
theorem Begun.printed {depth : Nat} {content : String} (h : Begun layout lines depth content w)
    (hink : HasInk content) : Printed layout (lines ++ [.filled depth content]) w := by
  have hended : Instruction.endLine.apply layout w = w.after layout.lineBreak.text := by
    rw [Instruction.apply_endLine, h.atLineStart hink.ne_empty, if_neg Bool.false_ne_true]
  refine ⟨?_, ?_, ?_⟩
  · rw [List.forall_mem_append]
    exact ⟨h.proper, List.forall_mem_singleton.mpr ⟨h.unbroken, hink⟩⟩
  · rw [hended]
    exact (settled_lineBreak w).likeNew
  · rw [hended, after_sink_eq, h.sink, render_append]
    simp [render, Line.text, String.append_assoc]

end States

/-! ## Scripts between and inside of lines -/

/-- The script prints lines behind those that are there. -/
def Prints (layout : Layout) (s : Script) (lines : List Line) : Prop :=
  ∀ done w, Printed layout done w → Printed layout (done ++ lines) (s.effect layout w)

/-- The script goes on with the content of a line. -/
def Fills (layout : Layout) (s : Script) (fill : String → String) : Prop :=
  ∀ lines depth content w, Begun layout lines depth content w →
    Begun layout lines depth (fill content) (s.effect layout w)

section Scripts

variable {layout : Layout}

theorem prints_nil : Prints layout [] [] := by
  intro done w h
  rw [List.append_nil]
  exact h

theorem Prints.append {s t : Script} {a b : List Line} (hs : Prints layout s a)
    (ht : Prints layout t b) : Prints layout (s ++ t) (a ++ b) := by
  intro done w h
  rw [Script.effect_append, ← List.append_assoc]
  exact ht _ _ (hs done w h)

theorem Prints.flatMap {α : Type} {xs : List α} {part : α → Script} {lines : α → List Line}
    (h : ∀ x ∈ xs, Prints layout (part x) (lines x)) :
    Prints layout (xs.flatMap part) (xs.flatMap lines) := by
  induction xs with
  | nil => exact prints_nil
  | cons x rest ih =>
    obtain ⟨hx, hrest⟩ := List.forall_mem_cons.mp h
    rw [List.flatMap_cons, List.flatMap_cons]
    exact hx.append (ih hrest)

theorem Prints.within {s : Script} {lines : List Line} (h : Prints layout s lines)
    (event : Event) : Prints layout (Script.within event s) lines := by
  intro done w hdone
  rw [Script.effect_within]
  exact h done w hdone

theorem prints_verbatim_empty : Prints layout [.verbatim ""] [] :=
  prints_nil

theorem prints_note (event : Event) : Prints layout [.note event] [] :=
  prints_nil

theorem prints_endLine : Prints layout [.endLine] [] := by
  intro done w h
  rw [List.append_nil]
  exact h.endLine

theorem prints_blankLine : Prints layout [.blankLine] [.blank] :=
  fun _ _ h ↦ h.blankLine

theorem Fills.append {s t : Script} {f g : String → String} (hs : Fills layout s f)
    (ht : Fills layout t g) : Fills layout (s ++ t) fun content ↦ g (f content) := by
  intro lines depth content w h
  rw [Script.effect_append]
  exact ht _ _ _ _ (hs _ _ _ _ h)

theorem Fills.flatMap {α : Type} {xs : List α} {part : α → Script} {fill : String → α → String}
    (h : ∀ x ∈ xs, Fills layout (part x) fun content ↦ fill content x) :
    Fills layout (xs.flatMap part) fun content ↦ xs.foldl fill content := by
  induction xs with
  | nil => exact fun _ _ _ _ h ↦ h
  | cons x rest ih =>
    obtain ⟨hx, hrest⟩ := List.forall_mem_cons.mp h
    rw [List.flatMap_cons]
    exact hx.append (ih hrest)

theorem fills_code {text : String} (h : Unbroken text) :
    Fills layout [.code text] fun content ↦ content ++ text :=
  fun _ _ _ _ hbegun ↦ hbegun.code h

theorem fills_verbatim {text : String} (h : Unbroken text) :
    Fills layout [.verbatim text] fun content ↦ content ++ text := by
  intro lines depth content w hbegun
  change Begun _ _ _ _ ((Instruction.verbatim text).apply layout w)
  rw [Instruction.apply_verbatim]
  exact hbegun.after h

theorem fills_terminator : Fills layout [.terminator] fun content ↦ content ++ ";" :=
  fills_verbatim (by decide)

theorem fills_separate : Fills layout [.separate] spaced :=
  fun _ _ _ _ hbegun ↦ hbegun.separate

/-- A script that goes on with a line prints it, once the line is opened. -/
theorem Fills.prints {s : Script} {fill : String → String} (hs : Fills layout s fill)
    (hink : HasInk (fill "")) (depth : Nat) :
    Prints layout ([.openLine depth] ++ s) [.filled depth (fill "")] := by
  intro done w h
  rw [Script.effect_append]
  exact (hs _ _ _ _ (h.openLine depth)).printed hink

theorem prints_codeLine {text : String} (h : Content text) (depth : Nat) :
    Prints layout [.openLine depth, .code text] [.filled depth text] := by
  have hfills : Fills layout [.code text] fun content ↦ content ++ text := fills_code h.unbroken
  have hprints := hfills.prints (by simpa using h.ink) depth
  simpa using hprints

theorem prints_endedLine {text : String} (h : Content text) (depth : Nat) :
    Prints layout [.openLine depth, .code text, .endLine] [.filled depth text] :=
  (prints_codeLine h depth).append prints_endLine

/-- A frame: its opening line, what is inside, its closing line and what is behind it. -/
theorem prints_frame {leading trailing : Trivia} {opening closing : String}
    {inside behind : Script} {lines linesBehind : List Line} (depth : Nat) (hleading : leading = {})
    (hopening : Content opening) (hinside : Prints layout inside lines)
    (hclosing : Content closing) (hbehind : Prints layout behind linesBehind)
    (htrailing : trailing = {}) :
    Prints layout
      (headerTrivia leading ++ [.openLine depth, .code opening] ++ inside ++
        [.openLine depth, .code closing, .endLine] ++ behind ++ closingTrivia trailing)
      ([.filled depth opening] ++ lines ++ [.filled depth closing] ++ linesBehind) := by
  have hheader : headerTrivia {} = [] := by decide
  have hfooter : closingTrivia {} = [] := by decide
  rw [hleading, htrailing, hheader, hfooter, List.nil_append, List.append_nil]
  exact (((prints_codeLine hopening depth).append hinside).append
    (prints_endedLine hclosing depth)).append hbehind

end Scripts

end Printer

end CodeBehind
