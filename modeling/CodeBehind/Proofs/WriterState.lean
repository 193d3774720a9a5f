import CodeBehind.Proofs.MarkedText
import CodeBehind.Proofs.Sessions

/-!
# What a writer knows

A sink may turn down any text, also in the middle of an instruction, and the writer may be told to
go on all the same.  The three things that it remembers are then still those that can be read off
the texts that were taken and the notes in between.  So code is never written behind a note with no
line break in between, and a line that was opened holds its indentation and nothing else.
-/

namespace CodeBehind

open Text Sink

variable {σ : Type}

/-! ## Histories -/

/-- What came of an instruction: the texts that the sink took, and the note of an open comment. -/
def Instruction.history (out : Sink σ) (layout : Layout) (w : Writer σ) (i : Instruction) :
    List Act :=
  let (_, watched) := i.perform out.recorded layout (w.withSink { sink := w.sink })
  (accepted watched.sink.attempts).map .hand ++ if i = .markComment then [.mark] else []

/-- Carries out instructions, each of them also if the sink turned down a text before. -/
def operate (out : Sink σ) (layout : Layout) : List Instruction → Writer σ → Writer σ
  | [], w => w
  | i :: rest, w => operate out layout rest (i.perform out layout w).2

/-- What came of the instructions, in order. -/
def history (out : Sink σ) (layout : Layout) : List Instruction → Writer σ → List Act
  | [], _ => []
  | i :: rest, w =>
    i.history out layout w ++ history out layout rest (i.perform out layout w).2

/-- A comment was marked, and no line break was taken since. -/
def Act.Open (past : List Act) : Prop :=
  ∃ before after, past = before ++ .mark :: after ∧ ∀ c ∈ spelled after, isBreak c = false

/-! ## An instruction -/

namespace Act

/-- Acts without notes are the texts that they hand over, up to empty ones. -/
theorem foldl_leave_handed {acts : List Act} (h : .mark ∉ acts) (w : Writer Unit) :
    ((handed acts).map hand).foldl leave w = acts.foldl leave w := by
  induction acts generalizing w with
  | nil => rfl
  | cons act rest ih =>
    obtain ⟨hact, hrest⟩ := not_or.mp (mt List.mem_cons.mpr h)
    cases act with
    | mark => exact absurd rfl hact
    | hand text =>
      rw [handed_cons, List.map_append, List.foldl_append, ih hrest, List.foldl_cons]
      by_cases htext : text = ""
      · subst htext
        rfl
      · rw [handed_hand htext]
        rfl

theorem done_isPrefix (out : Sink σ) (acts : List Act) (w : Writer σ) :
    done out acts w <+: acts := by
  induction acts generalizing w with
  | nil => exact List.nil_prefix
  | cons act rest ih =>
    rw [done]
    split
    · exact List.cons_prefix_cons.mpr ⟨rfl, ih _⟩
    · exact List.nil_prefix

/-- The sink is never handed an empty text. -/
theorem handed_map_handed (acts : List Act) : handed ((handed acts).map hand) = handed acts := by
  induction acts with
  | nil => rfl
  | cons act rest ih =>
    rw [handed_cons, List.map_append, handed_append, ih]
    congr 1
    cases act with
    | mark => rfl
    | hand text => by_cases htext : text = "" <;> simp [handed, htext]

theorem spelled_map_hand (texts : List String) :
    spelled (texts.map hand) = texts.flatMap String.toList := by
  induction texts with
  | nil => rfl
  | cons text rest ih =>
    rw [List.map_cons, List.flatMap_cons, ← ih, ← spelled_hand, ← spelled_append]
    rfl

end Act

/-- On a sink with a record, the texts that are taken are those of the acts that are done, and these
put the writer where it stands. -/
theorem Act.performAll_recorded (out : Sink σ) (acts : List Act) (w : Writer (Record σ)) :
    accepted (performAll out.recorded acts w).2.sink.attempts =
        accepted w.sink.attempts ++ handed (done out acts w.unrecorded) ∧
      (∃ s, (performAll out acts w.unrecorded).2 =
        ((done out acts w.unrecorded).foldl leave w.stance).withSink s) ∧
      ((performAll out acts w.unrecorded).1 = true → done out acts w.unrecorded = acts) := by
  obtain ⟨hdone, hall⟩ := performAll_unrecorded out acts w
  obtain ⟨r, htakes, hcases⟩ := performAll_cases out.recorded acts w
  obtain ⟨-, hattempts⟩ := htakes.of_recorded
  rw [hall, hdone]
  rcases hcases with ⟨hend, hperform⟩ | ⟨text, rest, r', hcut, htext, hput, hperform⟩
  · rw [hperform]
    refine ⟨?_, ⟨r.sink, rfl⟩, fun _ ↦ hend⟩
    simp only [Writer.withSink_sink, hattempts, accepted_append, accepted_allTaken]
  · obtain ⟨hrefused, rfl⟩ := Prod.ext_iff.mp hput
    have hrefused : (out.put r.sink text).1 = false := hrefused
    rw [hperform]
    refine ⟨?_, ⟨_, rfl⟩, nofun⟩
    simp only [Writer.withSink_sink, put_recorded, hattempts, hrefused, accepted_append,
      accepted_allTaken]
    exact List.append_nil _

namespace Instruction

open Act

variable {out : Sink σ} {layout : Layout} {w : Writer σ} {i : Instruction}

theorem mark_not_mem_acts (h : i ≠ .markComment) : .mark ∉ i.acts layout w := by
  have hend : Act.mark ∉ w.endActs layout := by
    unfold Writer.endActs
    split <;> simp
  have hcode (text : String) : Act.mark ∉ w.codeActs layout text := by
    unfold Writer.codeActs
    split <;> simp
  cases i with
  | code text => exact hcode text
  | blankLine => simpa [acts] using hend
  | openLine depth => simpa [acts] using hend
  | endLine => exact hend
  | separate =>
    change Act.mark ∉ if w.endsWithSeparator then [] else w.codeActs layout " "
    split
    · simp
    · exact hcode " "
  | markComment => exact absurd rfl h
  | _ => simp [acts]

theorem history_eq (h : i ≠ .markComment) :
    i.history out layout w = (handed (done out (i.acts layout w) w)).map hand := by
  have hacts := (performAll_recorded out (i.acts layout w) (w.withSink { sink := w.sink })).1
  unfold history
  rw [perform_eq_acts, if_neg h]
  change (accepted (performAll out.recorded (i.acts layout w) _).2.sink.attempts).map hand ++ [] = _
  rw [hacts]
  exact List.append_nil _

/-- The acts of an instruction are done to their end if it succeeds, and either way the writer
stands where its history puts it. -/
theorem perform_history (out : Sink σ) (layout : Layout) (w : Writer σ) (i : Instruction) :
    (∃ s, (i.perform out layout w).2 =
        ((i.history out layout w).foldl leave w.stance).withSink s) ∧
      ((i.perform out layout w).1 = true → i ≠ .markComment →
        i.history out layout w = (handed (i.acts layout w)).map hand) := by
  by_cases hi : i = .markComment
  · subst hi
    exact ⟨⟨w.sink, rfl⟩, fun _ h ↦ absurd rfl h⟩
  · obtain ⟨-, hwriter, hend⟩ :=
      performAll_recorded out (i.acts layout w) (w.withSink { sink := w.sink })
    change ∃ s, (performAll out (i.acts layout w) w).2 = _ at hwriter
    change (performAll out (i.acts layout w) w).1 = true → done out (i.acts layout w) w = _ at hend
    have hmark : .mark ∉ done out (i.acts layout w) w :=
      fun h ↦ mark_not_mem_acts hi ((done_isPrefix out _ w).subset h)
    rw [perform_eq_acts, history_eq hi, foldl_leave_handed hmark]
    exact ⟨hwriter, fun htrue _ ↦ by rw [hend htrue]⟩

/-- A record changes nothing, and what is added to it is the history. -/
theorem perform_recorded (out : Sink σ) (layout : Layout) (w : Writer (Record σ))
    (i : Instruction) :
    (i.perform out.recorded layout w).2.unrecorded = (i.perform out layout w.unrecorded).2 ∧
      accepted (i.perform out.recorded layout w).2.sink.attempts =
        accepted w.sink.attempts ++ handed (i.history out layout w.unrecorded) := by
  have hall := (performAll_unrecorded out (i.acts layout w) w).2
  rw [perform_eq_acts, perform_eq_acts]
  refine ⟨(congrArg Prod.snd hall).symm, ?_⟩
  rw [(performAll_recorded out (i.acts layout w) w).1]
  by_cases hi : i = .markComment
  · subst hi
    rfl
  · rw [history_eq hi, handed_map_handed]
    rfl

/-- What the writer remembers, it remembers of the texts that were taken. -/
theorem reflects_perform {past : List Act} (h : w.Reflects past) (out : Sink σ) (layout : Layout)
    (i : Instruction) :
    (i.perform out layout w).2.Reflects (past ++ i.history out layout w) := by
  obtain ⟨⟨s, hwriter⟩, -⟩ := perform_history out layout w i
  have hstance : w.stance.Reflects past := ⟨h.last, h.atLineStart, h.inComment⟩
  have hleft := reflects_foldl_leave hstance (i.history out layout w)
  rw [hwriter]
  exact ⟨hleft.last, hleft.atLineStart, hleft.inComment⟩

end Instruction

theorem reflects_operate {w : Writer σ} {past : List Act} (h : w.Reflects past) (out : Sink σ)
    (layout : Layout) (ops : List Instruction) :
    (operate out layout ops w).Reflects (past ++ history out layout ops w) := by
  induction ops generalizing w past with
  | nil => simpa [operate, history] using h
  | cons i rest ih =>
    have hrest := ih (Instruction.reflects_perform h out layout i)
    rwa [List.append_assoc] at hrest

/-- A new writer knows nothing but its history. -/
theorem reflects_history (out : Sink σ) (layout : Layout) (sink : σ) (ops : List Instruction) :
    (operate out layout ops { sink }).Reflects (history out layout ops { sink }) := by
  have hnew : Writer.Reflects ({ sink } : Writer σ) [] := ⟨rfl, rfl, by simp⟩
  simpa using reflects_operate hnew out layout ops

/-- A record of all that the sink is handed changes nothing, and the texts in it that were taken are
those of the history. -/
theorem operate_recorded (out : Sink σ) (layout : Layout) (ops : List Instruction)
    (w : Writer (Record σ)) :
    (operate out.recorded layout ops w).unrecorded = operate out layout ops w.unrecorded ∧
      accepted (operate out.recorded layout ops w).sink.attempts =
        accepted w.sink.attempts ++ Act.handed (history out layout ops w.unrecorded) := by
  induction ops generalizing w with
  | nil => exact ⟨rfl, (List.append_nil _).symm⟩
  | cons i rest ih =>
    obtain ⟨hwriter, htaken⟩ := Instruction.perform_recorded out layout w i
    obtain ⟨hrest, hothers⟩ := ih (i.perform out.recorded layout w).2
    rw [hwriter] at hrest hothers
    rw [operate, operate, history, Act.handed_append, ← List.append_assoc, ← htaken]
    exact ⟨hrest, hothers⟩

/-! ## Code and opened lines -/

theorem isBreak_indent (indent : Indent) (depth : Nat) :
    ∀ c ∈ (indent.text depth).toList, isBreak c = false := by
  intro c hc
  rcases Indent.eq_of_mem_text hc with rfl | rfl <;> rfl

namespace Instruction

open Act

variable {out : Sink σ} {layout : Layout} {w : Writer σ} {past : List Act}

/-- Code that is taken stands behind no open comment: if there was one, it was closed by a line
break first. -/
theorem history_code (h : w.Reflects past) {text : String} (htext : text ≠ "")
    (htaken : ((code text).perform out layout w).1 = true) :
    ∃ earlier, (code text).history out layout w = earlier ++ [.hand text] ∧
      ¬Open (past ++ earlier) := by
  have hhistory := (perform_history out layout w (code text)).2 htaken nofun
  have hbreak : layout.lineBreak.text ≠ "" := by cases layout.lineBreak <;> decide
  rw [hhistory, acts, Writer.codeActs]
  cases hopen : w.inComment with
  | true =>
    refine ⟨[.hand layout.lineBreak.text], ?_, ?_⟩
    · simp [handed, htext, hbreak]
    · rw [Open, marked_append_hand]
      rintro ⟨-, hclear⟩
      have hfeed : '\n' ∈ layout.lineBreak.text.toList := by cases layout.lineBreak <;> decide
      exact absurd (hclear '\n' hfeed) (by decide)
  | false =>
    refine ⟨[], ?_, ?_⟩
    · simp [handed, htext]
    · rw [List.append_nil, Open, ← h.inComment, hopen]
      exact Bool.false_ne_true

/-- What ends the current line leaves the writer at the start of a line. -/
theorem getLast?_endActs (h : w.Reflects past) :
    ∀ c ∈ (spelled (past ++ w.endActs layout)).getLast?, isBreak c = true := by
  unfold Writer.endActs
  split
  next hstart =>
    rw [h.atLineStart] at hstart
    rw [List.append_nil]
    intro c hc
    rwa [Option.mem_def.mp hc] at hstart
  next =>
    rw [spelled_append, spelled_hand]
    cases layout.lineBreak <;> simp [LineBreak.text, isBreak]

/-- A line that was opened holds nothing but its indentation. -/
theorem lastLine_openLine (h : w.Reflects past) {depth : Nat}
    (htaken : ((openLine depth).perform out layout w).1 = true) :
    lastLine (spelled (past ++ (openLine depth).history out layout w)) =
      (layout.indent.text depth).toList := by
  have hhistory := (perform_history out layout w (openLine depth)).2 htaken nofun
  have hspelled : spelled ((openLine depth).history out layout w) =
      spelled (w.endActs layout) ++ (layout.indent.text depth).toList := by
    rw [hhistory, spelled_map_hand, ← spelled_hand, ← spelled_append]
    rfl
  rw [spelled_append, hspelled, ← List.append_assoc, ← spelled_append]
  exact lastLine_append (isBreak_indent layout.indent depth) (getLast?_endActs h)

end Instruction

/-! ## Any instructions on any sink -/

/-- After any instructions on any sink, refusals or not, what the writer remembers can be read off
the texts that were taken and the notes in between.  Code that is taken next stands behind no open
comment, and a line that is opened next holds its indentation alone. -/
theorem operate_state (out : Sink σ) (layout : Layout) (sink : σ) (ops : List Instruction) :
    let w := operate out layout ops { sink }
    let past := history out layout ops { sink }
    let watched := operate out.recorded layout ops { sink := { sink } }
    (watched.unrecorded = w ∧ accepted watched.sink.attempts = Act.handed past) ∧
      (w.atLineStart = true ↔ ∀ c ∈ (Act.spelled past).getLast?, isBreak c = true) ∧
      (w.endsWithSeparator = true ↔
        ∀ c ∈ (Act.spelled past).getLast?, isBlank c = true ∨ c = '(') ∧
      (w.inComment = true ↔ Act.Open past) ∧
      (∀ text, text ≠ "" → ((Instruction.code text).perform out layout w).1 = true →
        ∃ earlier, (Instruction.code text).history out layout w = earlier ++ [.hand text] ∧
          ¬Act.Open (past ++ earlier)) ∧
      ∀ depth, ((Instruction.openLine depth).perform out layout w).1 = true →
        lastLine (Act.spelled (past ++ (Instruction.openLine depth).history out layout w)) =
          (layout.indent.text depth).toList := by
  intro w past watched
  have h : w.Reflects past := reflects_history out layout sink ops
  refine ⟨operate_recorded out layout ops { sink := { sink } }, ?_, ?_, h.inComment,
    fun _ ↦ Instruction.history_code h, fun _ ↦ Instruction.lastLine_openLine h⟩
  · rw [h.atLineStart]
    cases (Act.spelled past).getLast? <;> simp
  · rw [Writer.endsWithSeparator, h.last]
    cases (Act.spelled past).getLast? <;> simp

/-- Code behind a note, on a sink with room for a line break and three more characters. -/
theorem operate_state_limitedSink :
    let noted := operate (Sink.limited 8) {} [.verbatim "a //", .markComment] { sink := {} }
    let refused := operate (Sink.limited 8) {}
      [.verbatim "a //", .markComment, .code "far too long"] { sink := {} }
    refused.sink.text = "a //\nfar" ∧ refused.atLineStart = true ∧
      (∃ earlier, (Instruction.code "b").history (Sink.limited 8) {} noted =
        earlier ++ [.hand "b"] ∧ ¬Act.Open ([.hand "a //", .mark] ++ earlier)) ∧
      lastLine (Act.spelled ([.hand "a //", .mark] ++
        (Instruction.openLine 2).history (Sink.limited 8) {} noted)) = "\t\t".toList := by
  intro noted refused
  obtain ⟨-, -, -, -, hcode, hline⟩ :=
    operate_state (Sink.limited 8) {} {} [.verbatim "a //", .markComment]
  obtain ⟨-, hstart, -⟩ :=
    operate_state (Sink.limited 8) {} {} [.verbatim "a //", .markComment, .code "far too long"]
  have hlast : (Act.spelled (history (Sink.limited 8) {}
      [.verbatim "a //", .markComment, .code "far too long"] { sink := {} })).getLast? =
        some '\n' := by decide
  have hbreak : refused.atLineStart = true := by
    refine hstart.mpr fun c hc ↦ ?_
    rw [hlast] at hc
    exact Option.some.inj hc ▸ rfl
  exact ⟨by decide, hbreak, hcode "b" (by decide) (by decide), hline 2 (by decide)⟩

end CodeBehind
