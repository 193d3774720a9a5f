import CodeBehind.Emit

/-!
# Carrying out scripts on a sink that takes everything

A sink that takes every text never stops a script, so a script is carried out exactly when none of
its steps is a failure, and the first failure is what emitting reports.  Log entries have no
influence on what is written.
-/

namespace CodeBehind

namespace Writer

/-- The writer after a sink that takes everything got a text. -/
def after (w : Writer String) (text : String) : Writer String :=
  match text.toList.getLast? with
  | none => w
  | some last => w.took (w.sink ++ text) text.toList last

theorem put_unbounded (w : Writer String) (text : String) :
    w.put .unbounded text = (true, w.after text) := by
  unfold put after
  cases text.toList.getLast? <;> rfl

@[simp]
theorem after_sink (w : Writer String) (text : String) :
    (w.after text).sink.toList = w.sink.toList ++ text.toList := by
  unfold after
  cases h : text.toList.getLast? with
  | none => simp [List.getLast?_eq_none_iff.mp h]
  | some last => simp [took]

theorem endLine_unbounded (layout : Layout) (w : Writer String) :
    w.endLine .unbounded layout =
      (true, if w.atLineStart then w else w.after layout.lineBreak.text) := by
  unfold endLine breakLine
  split
  · rfl
  · exact w.put_unbounded _

theorem code_unbounded (layout : Layout) (w : Writer String) (text : String) :
    w.code .unbounded layout text =
      (true, if w.inComment && !text.isEmpty then (w.after layout.lineBreak.text).after text
        else w.after text) := by
  unfold code breakLine
  split
  · rw [put_unbounded, andThen, put_unbounded]
  · exact w.put_unbounded _

@[simp]
theorem after_inComment (w : Writer String) (text : String) :
    (w.after text).inComment = (w.inComment && !text.toList.any Text.isBreak) := by
  unfold after
  cases h : text.toList.getLast? with
  | none => simp [List.getLast?_eq_none_iff.mp h]
  | some last => rfl

@[simp]
theorem after_atLineStart (w : Writer String) (text : String) :
    (w.after text).atLineStart = text.toList.getLast?.elim w.atLineStart Text.isBreak := by
  unfold after
  cases text.toList.getLast? <;> rfl

/-- The last character decides whether the text so far ends in a separator. -/
theorem after_endsWithSeparator (w : Writer String) (text : String) :
    (w.after text).endsWithSeparator =
      text.toList.getLast?.elim w.endsWithSeparator fun c ↦ Text.isBlank c || c == '(' := by
  unfold after
  cases text.toList.getLast? <;> rfl

theorem after_sink_eq (w : Writer String) (text : String) :
    (w.after text).sink = w.sink ++ text := by
  rw [← String.toList_inj, after_sink, String.toList_append]

/-- Two texts in a row are one text. -/
theorem after_append (w : Writer String) (a b : String) :
    w.after (a ++ b) = (w.after a).after b := by
  cases hb : b.toList.getLast? with
  | none =>
    have hempty : b = "" := by
      rw [← String.toList_eq_nil_iff]
      exact List.getLast?_eq_none_iff.mp hb
    rw [hempty, String.append_empty]
    rfl
  | some last =>
    have hwhole : (a ++ b).toList.getLast? = some last := by
      rw [String.toList_append, List.getLast?_append, hb, Option.some_or]
    have hsink := w.after_sink_eq a
    have hcomment := w.after_inComment a
    rw [after, hwhole, after.eq_def (w.after a), hb]
    simp only [took, hsink, hcomment, String.append_assoc, String.toList_append, List.any_append,
      Bool.not_or, Bool.and_assoc]

end Writer

namespace Instruction

/-- A sink that takes everything lets every instruction be carried out. -/
theorem perform_unbounded_fst (layout : Layout) (w : Writer String) (i : Instruction) :
    (i.perform .unbounded layout w).1 = true := by
  cases i with
  | code text => simp only [perform, Writer.code_unbounded]
  | verbatim text => simp only [perform, Writer.put_unbounded]
  | terminator => simp only [perform, Writer.put_unbounded]
  | breakLine => simp only [perform, Writer.breakLine, Writer.put_unbounded]
  | endLine => simp only [perform, Writer.endLine_unbounded]
  | blankLine =>
    simp only [perform, Writer.endLine_unbounded, Writer.andThen, Writer.breakLine,
      Writer.put_unbounded]
  | openLine depth =>
    simp only [perform, Writer.endLine_unbounded, Writer.andThen, Writer.put_unbounded]
  | separate =>
    simp only [perform]
    split
    · rfl
    · rw [Writer.code_unbounded]
  | markComment => rfl

/-- The writer after an instruction, on a sink that takes everything. -/
def apply (layout : Layout) (w : Writer String) (i : Instruction) : Writer String :=
  (i.perform .unbounded layout w).2

theorem perform_unbounded (layout : Layout) (w : Writer String) (i : Instruction) :
    i.perform .unbounded layout w = (true, i.apply layout w) :=
  Prod.ext (i.perform_unbounded_fst layout w) rfl

section Equations

variable (layout : Layout) (w : Writer String)

theorem apply_code (text : String) :
    (code text).apply layout w =
      if w.inComment && !text.isEmpty then (w.after layout.lineBreak.text).after text
      else w.after text := by
  change (w.code .unbounded layout text).2 = _
  rw [Writer.code_unbounded]

theorem apply_verbatim (text : String) : (verbatim text).apply layout w = w.after text := by
  change (w.put .unbounded text).2 = _
  rw [Writer.put_unbounded]

theorem apply_terminator : terminator.apply layout w = w.after ";" :=
  apply_verbatim layout w ";"

theorem apply_breakLine : breakLine.apply layout w = w.after layout.lineBreak.text :=
  apply_verbatim layout w layout.lineBreak.text

theorem apply_endLine :
    endLine.apply layout w = if w.atLineStart then w else w.after layout.lineBreak.text := by
  change (w.endLine .unbounded layout).2 = _
  rw [Writer.endLine_unbounded]

theorem apply_blankLine :
    blankLine.apply layout w = (endLine.apply layout w).after layout.lineBreak.text := by
  change (Writer.andThen (w.endLine .unbounded layout) _).2 = _
  rw [Writer.endLine_unbounded, apply_endLine]
  exact apply_breakLine layout _

theorem apply_openLine (depth : Nat) :
    (openLine depth).apply layout w =
      (endLine.apply layout w).after (layout.indent.text depth) := by
  change (Writer.andThen (w.endLine .unbounded layout) _).2 = _
  rw [Writer.endLine_unbounded, apply_endLine]
  exact apply_verbatim layout _ _

theorem apply_separate :
    separate.apply layout w =
      if w.endsWithSeparator then w else (code " ").apply layout w := by
  change (ite _ _ _ : Bool × Writer String).2 = _
  split <;> rfl

end Equations

end Instruction

namespace Lowering

namespace Script

/-! ## Failures -/

theorem failure_append (a b : Script) : (a ++ b).failure = a.failure.or b.failure := by
  induction a with
  | nil => rfl
  | cons step rest ih =>
    cases step with
    | fail error => rfl
    | write instruction => exact ih
    | log entry => exact ih

@[simp]
theorem failure_append_eq_none (a b : Script) :
    (a ++ b).failure = none ↔ a.failure = none ∧ b.failure = none := by
  rw [failure_append, Option.or_eq_none_iff]

@[simp]
theorem failure_within (event : Event) (s : Script) : (within event s).failure = s.failure := by
  have hdeepen (s : Script) : Script.failure (s.map Step.deepen) = s.failure := by
    induction s with
    | nil => rfl
    | cons step rest ih =>
      cases step with
      | fail error => rfl
      | write instruction => exact ih
      | log entry => exact ih
  exact hdeepen s

/-- A conditional script that does not fail has a value to go on with. -/
theorem failure_whenOk_eq_none {α : Type} {value : Except Error α} {next : α → Script} :
    (whenOk value next).failure = none ↔ ∃ a, value = .ok a ∧ (next a).failure = none := by
  cases value with
  | error error => simp [whenOk, failure]
  | ok a => simp [whenOk]

/-- A script fails with the first of its parts that fails. -/
theorem failure_flatMap {α : Type} (xs : List α) (part : α → Script)
    (reasons : α → List Error) (h : ∀ x ∈ xs, (part x).failure = (reasons x).head?) :
    Script.failure (xs.flatMap part) = (xs.flatMap reasons).head? := by
  induction xs with
  | nil => rfl
  | cons x rest ih =>
    rw [List.flatMap_cons, List.flatMap_cons, failure_append, List.head?_append,
      h x (List.mem_cons_self ..), ih fun y hy ↦ h y (List.mem_cons_of_mem _ hy)]

theorem failure_flatMap_eq_none {α : Type} {xs : List α} {part : α → Script} :
    Script.failure (xs.flatMap part) = none ↔ ∀ x ∈ xs, (part x).failure = none := by
  induction xs with
  | nil => simp [failure]
  | cons x rest ih =>
    rw [List.flatMap_cons, failure_append_eq_none, ih, List.forall_mem_cons]

/-! ## Runs -/

/-- On a sink that takes everything a script ends in its first failure, or well. -/
theorem run_unbounded_fst (layout : Layout) (s : Script) (w : Writer String) :
    (Script.run .unbounded layout s w).1 = s.failure.elim (.ok ()) .error := by
  induction s generalizing w with
  | nil => rfl
  | cons step rest ih =>
    cases step with
    | fail error => rfl
    | log entry => exact ih w
    | write instruction =>
      simp only [run, Instruction.perform_unbounded]
      exact ih _

/-- A script that is carried out to its end has no failure in it, whatever the sink is. -/
theorem failure_eq_none_of_run {σ : Type} {out : Sink σ} {layout : Layout} {s : Script}
    {w : Writer σ} (h : (s.run out layout w).1 = .ok ()) : s.failure = none := by
  induction s generalizing w with
  | nil => rfl
  | cons step rest ih =>
    cases step with
    | fail error => cases h
    | log entry => exact ih h
    | write instruction =>
      simp only [run] at h
      rcases hperform : instruction.perform out layout w with ⟨_ | _, after⟩
      · rw [hperform] at h
        cases h
      · rw [hperform] at h
        exact ih h

/-- The script without its log entries. -/
def quiet (s : Script) : Script :=
  s.filter fun
    | .log _ => false
    | _ => true

@[simp]
theorem quiet_append (a b : Script) : quiet (a ++ b) = quiet a ++ quiet b :=
  List.filter_append ..

/-- The log has no influence on what is written. -/
theorem run_quiet {σ : Type} (out : Sink σ) (layout : Layout) (s : Script) (w : Writer σ) :
    s.quiet.run out layout w = s.run out layout w := by
  induction s generalizing w with
  | nil => rfl
  | cons step rest ih =>
    cases step with
    | fail error => rfl
    | log entry => exact ih w
    | write instruction =>
      change Script.run out layout (.write instruction :: quiet rest) w = _
      simp only [run]
      rcases instruction.perform out layout w with ⟨_ | _, w⟩
      · rfl
      · exact ih w

/-- The writer after a script, failures aside, on a sink that takes everything. -/
def effect (layout : Layout) (s : Script) (w : Writer String) : Writer String :=
  s.foldl (fun w step ↦ match step with
    | .write instruction => instruction.apply layout w
    | _ => w) w

theorem effect_append (layout : Layout) (a b : Script) (w : Writer String) :
    effect layout (a ++ b) w = effect layout b (effect layout a w) :=
  List.foldl_append ..

/-- A script without failures is carried out to its end. -/
theorem run_eq_effect (layout : Layout) (s : Script) (w : Writer String) (h : s.failure = none) :
    (s.run .unbounded layout w).2 = s.effect layout w := by
  induction s generalizing w with
  | nil => rfl
  | cons step rest ih =>
    cases step with
    | fail error => cases h
    | log entry => exact ih w h
    | write instruction =>
      simp only [run, Instruction.perform_unbounded]
      exact ih _ h

theorem effect_within (layout : Layout) (event : Event) (s : Script) (w : Writer String) :
    effect layout (within event s) w = effect layout s w := by
  change (s.map Step.deepen).foldl _ w = s.foldl _ w
  rw [List.foldl_map]
  congr 1
  funext w step
  cases step <;> rfl

end Script

/-! ## What was written stays written -/

theorem isPrefix_after (w : Writer String) (text : String) :
    w.sink.toList <+: (w.after text).sink.toList := by
  rw [Writer.after_sink]
  exact List.prefix_append _ _

theorem isPrefix_apply (layout : Layout) (w : Writer String) (i : Instruction) :
    w.sink.toList <+: (i.apply layout w).sink.toList := by
  have hend : w.sink.toList <+: (Instruction.endLine.apply layout w).sink.toList := by
    rw [Instruction.apply_endLine]
    split
    · exact List.prefix_rfl
    · exact isPrefix_after w _
  have hcode (text : String) :
      w.sink.toList <+: ((Instruction.code text).apply layout w).sink.toList := by
    rw [Instruction.apply_code]
    split
    · exact (isPrefix_after w _).trans (isPrefix_after _ _)
    · exact isPrefix_after w _
  cases i with
  | code text => exact hcode text
  | verbatim text => exact Instruction.apply_verbatim layout w text ▸ isPrefix_after w text
  | terminator => exact Instruction.apply_terminator layout w ▸ isPrefix_after w ";"
  | breakLine => exact Instruction.apply_breakLine layout w ▸ isPrefix_after w _
  | endLine => exact hend
  | blankLine =>
    rw [Instruction.apply_blankLine]
    exact hend.trans (isPrefix_after _ _)
  | openLine depth =>
    rw [Instruction.apply_openLine]
    exact hend.trans (isPrefix_after _ _)
  | separate =>
    rw [Instruction.apply_separate]
    split
    · exact List.prefix_rfl
    · exact hcode " "
  | markComment => exact List.prefix_rfl

theorem isPrefix_effect (layout : Layout) (s : Script) (w : Writer String) :
    w.sink.toList <+: (s.effect layout w).sink.toList := by
  induction s generalizing w with
  | nil => exact List.prefix_rfl
  | cons step rest ih =>
    cases step with
    | write i => exact (isPrefix_apply layout w i).trans (ih _)
    | log entry => exact ih w
    | fail error => exact ih w

end Lowering

open Lowering

variable {unit : Source.CompilationUnit} {names : NodeNames} {options : Options}

/-- Emitting gives the first failure of the lowering, or what was written. -/
theorem emit_eq (unit : Source.CompilationUnit) (names : NodeNames) (options : Options) :
    emit unit names options =
      (lowerUnit names options unit).failure.elim
        (.ok ((lowerUnit names options unit).run .unbounded options.toLayout .empty).2.sink)
        .error := by
  have h := Script.run_unbounded_fst options.toLayout (lowerUnit names options unit) .empty
  unfold emit
  rcases hrun : (lowerUnit names options unit).run .unbounded options.toLayout .empty with
    ⟨_ | _, w⟩ <;>
  cases hfail : (lowerUnit names options unit).failure <;> simp_all

theorem emit_eq_error_iff {error : Lowering.Error} :
    emit unit names options = .error error ↔
      (lowerUnit names options unit).failure = some error := by
  rw [emit_eq]
  cases (lowerUnit names options unit).failure <;> simp

theorem emit_eq_ok_iff {text : String} :
    emit unit names options = .ok text ↔
      (lowerUnit names options unit).failure = none ∧
        ((lowerUnit names options unit).run .unbounded options.toLayout .empty).2.sink = text := by
  rw [emit_eq]
  cases (lowerUnit names options unit).failure <;> simp

end CodeBehind
