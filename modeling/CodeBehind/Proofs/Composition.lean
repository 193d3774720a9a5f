import CodeBehind.Proofs.Inversion
import CodeBehind.Proofs.Placement

/-!
# Declarations one after the other

A writer asks three things about what it wrote: whether it stands at the start of a line, whether a
comment is open, and whether the text ends in a separator.  Two writers that give the same answers
go on in the same way.  A namespace leaves the writer with the answers of a new one, behind a line
break, so the script of a list of declarations is put together from the scripts of its parts.
-/

namespace CodeBehind

namespace Writer

/-- A writer wrote what another one did behind a text of its own, and nothing that writers ask tells
the two apart. -/
structure Follows (lead : String) (v u : Writer String) : Prop where
  sink : u.sink = lead ++ v.sink
  atLineStart : u.atLineStart = v.atLineStart
  inComment : u.inComment = v.inComment
  endsWithSeparator : u.endsWithSeparator = v.endsWithSeparator

/-- A writer that stands as if nothing was written: at the start of a line, outside of comments and
where no space is needed. -/
structure LikeNew (w : Writer String) : Prop where
  atLineStart : w.atLineStart = true
  inComment : w.inComment = false
  endsWithSeparator : w.endsWithSeparator = true

theorem likeNew_empty : LikeNew .empty :=
  ⟨rfl, rfl, rfl⟩

/-- What a writer that is like new wrote makes no difference to it. -/
theorem LikeNew.follows {w : Writer String} (h : LikeNew w) : Follows w.sink .empty w where
  sink := String.append_empty.symm
  atLineStart := h.atLineStart
  inComment := h.inComment
  endsWithSeparator := h.endsWithSeparator

theorem Follows.after {lead : String} {v u : Writer String} (h : Follows lead v u)
    (text : String) : Follows lead (v.after text) (u.after text) where
  sink := by rw [after_sink_eq, after_sink_eq, h.sink, String.append_assoc]
  atLineStart := by rw [after_atLineStart, after_atLineStart, h.atLineStart]
  inComment := by rw [after_inComment, after_inComment, h.inComment]
  endsWithSeparator := by
    rw [after_endsWithSeparator, after_endsWithSeparator, h.endsWithSeparator]

end Writer

open Writer

/-! ## Writers that go on in the same way -/

namespace Instruction

variable (layout : Layout) {lead : String} {v u : Writer String}

theorem follows_endLine (h : Follows lead v u) :
    Follows lead (endLine.apply layout v) (endLine.apply layout u) := by
  rw [apply_endLine, apply_endLine, h.atLineStart]
  split
  · exact h
  · exact h.after _

theorem follows_code (h : Follows lead v u) (text : String) :
    Follows lead ((code text).apply layout v) ((code text).apply layout u) := by
  rw [apply_code, apply_code, h.inComment]
  split
  · exact (h.after _).after text
  · exact h.after text

/-- One instruction does not tell the writers apart. -/
theorem follows_apply (h : Follows lead v u) (i : Instruction) :
    Follows lead (i.apply layout v) (i.apply layout u) := by
  cases i with
  | code text => exact follows_code layout h text
  | verbatim text =>
    rw [apply_verbatim, apply_verbatim]
    exact h.after text
  | terminator =>
    rw [apply_terminator, apply_terminator]
    exact h.after ";"
  | breakLine =>
    rw [apply_breakLine, apply_breakLine]
    exact h.after _
  | endLine => exact follows_endLine layout h
  | blankLine =>
    rw [apply_blankLine, apply_blankLine]
    exact (follows_endLine layout h).after _
  | openLine depth =>
    rw [apply_openLine, apply_openLine]
    exact (follows_endLine layout h).after _
  | separate =>
    rw [apply_separate, apply_separate, h.endsWithSeparator]
    split
    · exact h
    · exact follows_code layout h " "
  | markComment => exact ⟨h.sink, h.atLineStart, rfl, h.endsWithSeparator⟩

end Instruction

namespace Lowering

open Source

/-- No script tells the writers apart. -/
theorem Script.follows_effect (layout : Layout) {lead : String} {v u : Writer String}
    (h : Follows lead v u) (s : Script) :
    Follows lead (s.effect layout v) (s.effect layout u) := by
  induction s generalizing v u with
  | nil => exact h
  | cons step rest ih =>
    cases step with
    | fail error => exact ih h
    | log entry => exact ih h
    | write instruction => exact ih (Instruction.follows_apply layout h instruction)

/-! ## Where namespaces end -/

/-- The writer is like new, and stands behind a generated line break unless nothing was written. -/
structure Settled (layout : Layout) (w : Writer String) : Prop where
  likeNew : LikeNew w
  ends : w.sink = "" ∨ layout.lineBreak.text.toList <:+ w.sink.toList

section Settling

variable {layout : Layout}

theorem settled_empty : Settled layout .empty :=
  ⟨likeNew_empty, .inl rfl⟩

theorem settled_lineBreak (w : Writer String) : Settled layout (w.after layout.lineBreak.text) := by
  have hlast : layout.lineBreak.text.toList.getLast? = some '\n' := by
    cases layout.lineBreak <;> rfl
  have hbreak : layout.lineBreak.text.toList.any Text.isBreak = true := by
    cases layout.lineBreak <;> rfl
  refine ⟨⟨?_, ?_, ?_⟩, .inr ?_⟩
  · rw [after_atLineStart, hlast]
    rfl
  · rw [after_inComment, hbreak, Bool.not_true, Bool.and_false]
  · rw [after_endsWithSeparator, hlast]
    rfl
  · rw [after_sink]
    exact List.suffix_append ..

/-- Ending a line settles the writer, unless it stands at the start of one unsettled. -/
theorem settled_endLine {w : Writer String} (h : w.atLineStart = true → Settled layout w) :
    Settled layout (Instruction.endLine.apply layout w) := by
  rw [Instruction.apply_endLine]
  split
  next hstart => exact h hstart
  next => exact settled_lineBreak w

/-- A text that does not end in a break can be ended from anywhere. -/
theorem settled_after_endLine {text : String} {last : Char}
    (htext : text.toList.getLast? = some last) (hlast : Text.isBreak last = false)
    (w : Writer String) :
    Settled layout (Instruction.endLine.apply layout (w.after text)) := by
  apply settled_endLine
  intro hstart
  rw [after_atLineStart, htext, Option.elim_some, hlast] at hstart
  cases hstart

theorem settled_code_endLine {text : String} {last : Char}
    (htext : text.toList.getLast? = some last) (hlast : Text.isBreak last = false)
    (w : Writer String) :
    Settled layout (Script.effect layout [.code text, .endLine] w) := by
  change Settled layout (Instruction.endLine.apply layout ((Instruction.code text).apply layout w))
  rw [Instruction.apply_code]
  split
  · exact settled_after_endLine htext hlast _
  · exact settled_after_endLine htext hlast w

/-- A text without blanks at its end does not end in a break. -/
theorem isBreak_getLast_trimEnd {cs : List Char} {c : Char}
    (h : (Text.trimEnd cs).getLast? = some c) : Text.isBreak c = false := by
  have hhead : c ∈ (Text.trimStart cs.reverse).head? := by
    rw [Text.trimEnd, List.getLast?_reverse] at h
    exact h
  have hblank := Text.head?_trimStart cs.reverse c hhead
  cases hbreak : Text.isBreak c with
  | false => rfl
  | true =>
    rw [Text.isBlank_of_isBreak hbreak] at hblank
    cases hblank

theorem settled_closingTrivia (trivia : Trivia) {w : Writer String} (h : Settled layout w) :
    Settled layout ((closingTrivia trivia).effect layout w) := by
  unfold closingTrivia
  split
  next =>
    change Settled layout (Instruction.endLine.apply layout
      ((Instruction.verbatim trivia.trimmedEnd).apply layout w))
    rw [Instruction.apply_verbatim]
    cases hlast : trivia.trimmedEnd.toList.getLast? with
    | none =>
      have hafter : w.after trivia.trimmedEnd = w := by rw [Writer.after, hlast]
      rw [hafter]
      exact settled_endLine fun _ ↦ h
    | some c =>
      apply settled_after_endLine hlast
      rw [Trivia.trimmedEnd, String.toList_ofList] at hlast
      exact isBreak_getLast_trimEnd hlast
  next => exact h

/-- Nothing but namespaces is written at the top level, and wherever one of them starts, the writer
is settled behind it. -/
theorem settled_lowerTopLevel (names : NodeNames) (options : Options) (member : Declaration)
    (hfailure : (lowerTopLevel names options member).failure = none) {w : Writer String}
    (h : Settled layout w) :
    Settled layout ((lowerTopLevel names options member).effect layout w) := by
  cases member with
  | namespaceDecl leading name members trailing =>
    rw [lowerTopLevel] at hfailure ⊢
    obtain ⟨inner, _, hlower⟩ := lowerNamespace_eq hfailure
    rw [hlower, Script.effect_within, Script.effect_append, Script.effect_append]
    apply settled_closingTrivia
    rw [Script.effect_append]
    -- Of the closing line only its end counts, wherever the writer comes from.
    apply settled_code_endLine _ (rfl : Text.isBreak ';' = false)
    rw [String.toList_append, List.getLast?_append]
    rfl
  | classDecl leading modifiers identifier members trailing => exact h
  | constructorDecl node => exact h
  | methodDecl node => exact h
  | fieldDecl node => exact h
  | unsupported node => exact h

theorem settled_members (names : NodeNames) (options : Options) (members : List Declaration)
    (hfailure : Script.failure (members.flatMap (lowerTopLevel names options)) = none)
    {w : Writer String} (h : Settled layout w) :
    Settled layout (Script.effect layout (members.flatMap (lowerTopLevel names options)) w) := by
  induction members generalizing w with
  | nil => exact h
  | cons first rest ih =>
    rw [List.flatMap_cons, Script.failure_append_eq_none] at hfailure
    rw [List.flatMap_cons, Script.effect_append]
    exact ih hfailure.2 (settled_lowerTopLevel names options first hfailure.1 h)

end Settling

end Lowering

open Source Lowering

/-! ## Lists of declarations -/

section Members

variable (names : NodeNames) (options : Options)

/-- The failure of a list of declarations, and what is written if there is none.  The last namespace
ended its line, so the end of the file adds nothing. -/
theorem emit_members (members : List Declaration) :
    emit ⟨members⟩ names options =
      (Script.failure (members.flatMap (lowerTopLevel names options))).elim
        (.ok (Script.effect options.toLayout
          (members.flatMap (lowerTopLevel names options)) .empty).sink)
        .error := by
  have hunit : (lowerUnit names options ⟨members⟩).failure =
      Script.failure (members.flatMap (lowerTopLevel names options)) := by
    rw [lowerUnit, Script.failure_append]
    exact Option.or_none
  rw [emit_eq, hunit]
  cases hfailure : Script.failure (members.flatMap (lowerTopLevel names options)) with
  | some error => rfl
  | none =>
    have hsettled : Settled options.toLayout _ :=
      settled_members names options members hfailure settled_empty
    rw [Option.elim_none, Option.elim_none, Script.run_eq_effect _ _ _ (hunit.trans hfailure),
      lowerUnit, Script.effect_append]
    congr 2
    exact (Instruction.apply_endLine _ _).trans (if_pos hsettled.likeNew.atLineStart)

theorem emit_members_eq_ok {members : List Declaration} {text : String}
    (h : emit ⟨members⟩ names options = .ok text) :
    Script.failure (members.flatMap (lowerTopLevel names options)) = none ∧
      (Script.effect options.toLayout
        (members.flatMap (lowerTopLevel names options)) .empty).sink = text := by
  rw [emit_members] at h
  cases hfailure : Script.failure (members.flatMap (lowerTopLevel names options)) with
  | some error =>
    rw [hfailure] at h
    cases h
  | none =>
    rw [hfailure] at h
    exact ⟨rfl, Except.ok.inj h⟩

/-- What is written before a declaration makes no difference to it. -/
theorem emit_members_append (a b : List Declaration) :
    emit ⟨a ++ b⟩ names options =
      match emit ⟨a⟩ names options, emit ⟨b⟩ names options with
      | .ok first, .ok second => .ok (first ++ second)
      | .ok _, .error error => .error error
      | .error error, _ => .error error := by
  rw [emit_members, emit_members, emit_members, List.flatMap_append, Script.failure_append]
  cases hfirst : Script.failure (a.flatMap (lowerTopLevel names options)) with
  | some error => rfl
  | none =>
    rw [Option.none_or]
    cases hsecond : Script.failure (b.flatMap (lowerTopLevel names options)) with
    | some error => rfl
    | none =>
      have hsettled : Settled options.toLayout _ :=
        settled_members names options a hfirst settled_empty
      have hfollows := Script.follows_effect options.toLayout hsettled.likeNew.follows
        (b.flatMap (lowerTopLevel names options))
      rw [Option.elim_none, Script.effect_append, hfollows.sink]
      rfl

/-- A script that is complete can be cut where one of its declarations ends. -/
theorem exists_emit_of_append {a b : List Declaration} {text : String}
    (h : emit ⟨a ++ b⟩ names options = .ok text) :
    ∃ first second, emit ⟨a⟩ names options = .ok first ∧ emit ⟨b⟩ names options = .ok second ∧
      text = first ++ second := by
  rw [emit_members_append] at h
  cases hfirst : emit ⟨a⟩ names options with
  | error error =>
    rw [hfirst] at h
    cases h
  | ok first =>
    cases hsecond : emit ⟨b⟩ names options with
    | error error =>
      rw [hfirst, hsecond] at h
      cases h
    | ok second =>
      rw [hfirst, hsecond] at h
      exact ⟨first, second, rfl, rfl, (Except.ok.inj h).symm⟩

/-- The writer behind a list of declarations: where the next one would start. -/
theorem exists_run_members {members : List Declaration} {text : String}
    (h : emit ⟨members⟩ names options = .ok text) :
    ∃ w, Script.run .unbounded options.toLayout
        (members.flatMap (lowerTopLevel names options)) .empty = (.ok (), w) ∧
      w.sink = text ∧ Settled options.toLayout w := by
  obtain ⟨hfailure, hsink⟩ := emit_members_eq_ok names options h
  refine ⟨_, Prod.ext ?_ (Script.run_eq_effect _ _ _ hfailure), hsink,
    settled_members names options members hfailure settled_empty⟩
  rw [Script.run_unbounded_fst, hfailure]
  rfl

end Members

/-- Declarations compose: the script of two lists is the one behind the other, and of two errors the
first counts.  A script is empty or ends in a generated line break, and where the second list starts
the writer is like new. -/
theorem emit_append (a b : List Declaration) (names : NodeNames) (options : Options) :
    (emit ⟨a ++ b⟩ names options =
        match emit ⟨a⟩ names options, emit ⟨b⟩ names options with
        | .ok first, .ok second => .ok (first ++ second)
        | .ok _, .error error => .error error
        | .error error, _ => .error error) ∧
      ∀ first, emit ⟨a⟩ names options = .ok first →
        (first = "" ∨ options.lineBreak.text.toList <:+ first.toList) ∧
        ∃ w, Script.run .unbounded options.toLayout
            (a.flatMap (lowerTopLevel names options)) .empty = (.ok (), w) ∧
          w.sink = first ∧ LikeNew w := by
  refine ⟨emit_members_append names options a b, fun first hfirst ↦ ?_⟩
  obtain ⟨w, hrun, rfl, hsettled⟩ := exists_run_members names options hfirst
  exact ⟨hsettled.ends, w, hrun, rfl, hsettled.likeNew⟩

/-- A namespace whose last statement is a marker and that is followed by a comment. -/
def markedPart : List Declaration :=
  [.namespaceDecl {} { text := "App" }
    [.classDecl {} [] { text := "Main" }
      [.constructorDecl
        { identifier := { text := "Main" },
          body := some
            { statements :=
                [.expression {} (.assignWith "+=" (.ofText "timer.Tick") (.ofText "OnTick")) {}] } }]
      {}]
    { text := " // done\n\n" }]

/-- A namespace behind blank lines, with a field that starts with a cast. -/
def castPart : List Declaration :=
  [.namespaceDecl { text := "\n\n" } { text := "Tools" }
    [.classDecl {} [] { text := "Clock" }
      [.fieldDecl
        { declared :=
            { type := .predefined { text := "int" },
              declarators :=
                [{ identifier := { text := "now" },
                   initializer := some (.castTo (.predefined { text := "int" }) (.ofText "x")) }] } }]
      {}]
    {}]

theorem emit_append_markedPart_castPart :
    ∃ first second, emit ⟨markedPart⟩ {} {} = .ok first ∧ emit ⟨castPart⟩ {} {} = .ok second ∧
      emit ⟨markedPart ++ castPart⟩ {} {} = .ok (first ++ second) ∧
      (first = "" ∨ "\n".toList <:+ first.toList) := by
  have hmarked : (lowerUnit {} {} ⟨markedPart⟩).failure = none := by decide +kernel
  have hcast : (lowerUnit {} {} ⟨castPart⟩).failure = none := by decide +kernel
  have hfirst := emit_eq_ok_iff.mpr ⟨hmarked, rfl⟩
  have hsecond := emit_eq_ok_iff.mpr ⟨hcast, rfl⟩
  obtain ⟨happend, hends⟩ := emit_append markedPart castPart {} {}
  rw [hfirst, hsecond] at happend
  exact ⟨_, _, hfirst, hsecond, happend, (hends _ hfirst).1⟩

end CodeBehind
