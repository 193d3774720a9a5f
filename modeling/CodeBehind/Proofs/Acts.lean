import CodeBehind.Proofs.Execution

/-!
# What a writer does at one go

An instruction is a list of acts: texts handed to the sink, one at a time, and notes that a comment is
open.  Where the writer stands decides which acts these are; the sink only decides how many of them
are done.  So a script is a list of acts as well, and on any sink it is that list up to the first text
that is turned down.
-/

namespace CodeBehind

variable {σ τ : Type}

namespace Writer

/-- The writer in front of another sink. -/
def withSink (w : Writer σ) (sink : τ) : Writer τ where
  sink := sink
  atLineStart := w.atLineStart
  last := w.last
  inComment := w.inComment

/-- Where a writer stands, whatever its sink is. -/
def stance (w : Writer σ) : Writer Unit :=
  w.withSink ()

@[simp] theorem withSink_sink (w : Writer σ) (sink : τ) : (w.withSink sink).sink = sink := rfl
@[simp] theorem stance_withSink (w : Writer σ) (sink : τ) :
    (w.withSink sink).stance = w.stance := rfl

end Writer

inductive Act where
  /-- Hands a text to the sink, unless the text is empty. -/
  | hand (text : String)
  /-- Takes note that a line comment is open. -/
  | mark
deriving DecidableEq, Inhabited

namespace Act

/-- Does an act, and says whether the sink took what it got. -/
def perform (out : Sink σ) (w : Writer σ) : Act → Bool × Writer σ
  | hand text => w.put out text
  | mark => (true, { w with inComment := true })

/-- Does acts up to the first text that the sink turns down. -/
def performAll (out : Sink σ) : List Act → Writer σ → Bool × Writer σ
  | [], w => (true, w)
  | act :: rest, w => Writer.andThen (act.perform out w) (performAll out rest)

/-- The acts before the first text that the sink turns down. -/
def done (out : Sink σ) : List Act → Writer σ → List Act
  | [], _ => []
  | act :: rest, w =>
    match act.perform out w with
    | (true, w) => act :: done out rest w
    | (false, _) => []

/-- Where a writer stands once an act is done. -/
def leave (w : Writer Unit) : Act → Writer Unit
  | hand text => text.toList.getLast?.elim w (w.took () text.toList)
  | mark => { w with inComment := true }

/-- The texts that acts hand to a sink. -/
def handed (acts : List Act) : List String :=
  acts.flatMap fun
    | hand text => if text = "" then [] else [text]
    | mark => []

@[simp]
theorem handed_append (a b : List Act) : handed (a ++ b) = handed a ++ handed b :=
  List.flatMap_append

theorem handed_cons (act : Act) (rest : List Act) :
    handed (act :: rest) = handed [act] ++ handed rest :=
  handed_append [act] rest

theorem handed_hand {text : String} (h : text ≠ "") : handed [hand text] = [text] := by
  simp [handed, h]

theorem performAll_append (out : Sink σ) (a b : List Act) (w : Writer σ) :
    performAll out (a ++ b) w = Writer.andThen (performAll out a w) (performAll out b) := by
  induction a generalizing w with
  | nil => rfl
  | cons act rest ih =>
    simp only [List.cons_append, performAll]
    rcases act.perform out w with ⟨_ | _, w⟩
    · rfl
    · exact ih w

end Act

/-! ## Acts on a sink -/

/-- The sink takes the texts one after the other. -/
def Sink.Takes (out : Sink σ) : σ → List String → σ → Prop
  | s, [], s' => s = s'
  | s, text :: rest, s' => ∃ next, out.put s text = (true, next) ∧ out.Takes next rest s'

theorem Sink.Takes.append {out : Sink σ} {a b : List String} {s s' s'' : σ}
    (ha : out.Takes s a s') (hb : out.Takes s' b s'') : out.Takes s (a ++ b) s'' := by
  induction a generalizing s with
  | nil =>
    rw [Sink.Takes] at ha
    rwa [ha]
  | cons text rest ih =>
    obtain ⟨next, hput, hrest⟩ := ha
    exact ⟨next, hput, ih hrest⟩

namespace Act

/-- An act is done, or its text is turned down and the writer stands where it stood. -/
theorem perform_cases (out : Sink σ) (w : Writer σ) (act : Act) :
    (∃ s, out.Takes w.sink (handed [act]) s ∧
        act.perform out w = (true, (act.leave w.stance).withSink s)) ∨
      ∃ text s, act = hand text ∧ text ≠ "" ∧ out.put w.sink text = (false, s) ∧
        act.perform out w = (false, w.withSink s) := by
  cases act with
  | mark => exact .inl ⟨w.sink, rfl, rfl⟩
  | hand text =>
    by_cases htext : text = ""
    · subst htext
      exact .inl ⟨w.sink, rfl, rfl⟩
    · obtain ⟨last, hlast⟩ : ∃ last, text.toList.getLast? = some last :=
        Option.isSome_iff_exists.mp (by simpa using htext)
      rcases hput : out.put w.sink text with ⟨_ | _, s⟩
      · refine .inr ⟨text, s, rfl, htext, hput, ?_⟩
        simp only [perform, Writer.put, hlast, hput]
        rfl
      · refine .inl ⟨s, ?_, ?_⟩
        · rw [handed_hand htext]
          exact ⟨s, hput, rfl⟩
        · simp only [perform, Writer.put, hlast, hput, leave]
          rfl

/-- Acts are done to their end, or up to a text that is turned down.  Where the writer stands then
depends on the acts that are done alone. -/
theorem performAll_cases (out : Sink σ) (acts : List Act) (w : Writer σ) :
    ∃ s, out.Takes w.sink (handed (done out acts w)) s ∧
      ((done out acts w = acts ∧
          performAll out acts w =
            (true, ((done out acts w).foldl leave w.stance).withSink s)) ∨
        ∃ text rest s', acts = done out acts w ++ hand text :: rest ∧ text ≠ "" ∧
          out.put s text = (false, s') ∧
          performAll out acts w =
            (false, ((done out acts w).foldl leave w.stance).withSink s')) := by
  induction acts generalizing w with
  | nil => exact ⟨w.sink, rfl, .inl ⟨rfl, rfl⟩⟩
  | cons act rest ih =>
    rcases perform_cases out w act with ⟨s₁, hact, hperform⟩ | ⟨text, s₁, rfl, htext, hput, hperform⟩
    · obtain ⟨s, hrest, hcases⟩ := ih ((act.leave w.stance).withSink s₁)
      simp only [done, performAll, hperform, Writer.andThen]
      refine ⟨s, ?_, hcases.imp ?_ ?_⟩
      · rw [handed_cons]
        exact hact.append hrest
      · rintro ⟨hdone, hall⟩
        exact ⟨by rw [hdone], hall⟩
      · rintro ⟨text, left, s', hdone, htext, hput, hall⟩
        exact ⟨text, left, s', by rw [List.cons_append, ← hdone], htext, hput, hall⟩
    · simp only [done, performAll, hperform, Writer.andThen]
      exact ⟨w.sink, rfl, .inr ⟨text, rest, s₁, rfl, htext, hput, rfl⟩⟩

end Act

/-! ## Instructions and scripts as acts -/

/-- What ends the current line, if something was written on it. -/
def Writer.endActs (layout : Layout) (w : Writer σ) : List Act :=
  if w.atLineStart then [] else [.hand layout.lineBreak.text]

/-- What writes code, on a new line if a comment is open on this one. -/
def Writer.codeActs (layout : Layout) (w : Writer σ) (text : String) : List Act :=
  if w.inComment && !text.isEmpty then [.hand layout.lineBreak.text, .hand text] else [.hand text]

namespace Instruction

/-- The acts of an instruction, as long as the sink takes every text. -/
def acts (layout : Layout) (w : Writer σ) : Instruction → List Act
  | code text => w.codeActs layout text
  | verbatim text => [.hand text]
  | terminator => [.hand ";"]
  | breakLine => [.hand layout.lineBreak.text]
  | endLine => w.endActs layout
  | blankLine => w.endActs layout ++ [.hand layout.lineBreak.text]
  | openLine depth => w.endActs layout ++ [.hand (layout.indent.text depth)]
  | separate => if w.endsWithSeparator then [] else w.codeActs layout " "
  | markComment => [.mark]

theorem acts_stance (layout : Layout) (w : Writer σ) (i : Instruction) :
    i.acts layout w.stance = i.acts layout w := by
  cases i <;> rfl

theorem performAll_hand (out : Sink σ) (text : String) (w : Writer σ) :
    Act.performAll out [.hand text] w = w.put out text := by
  change Writer.andThen (w.put out text) _ = _
  rcases w.put out text with ⟨_ | _, w'⟩ <;> rfl

theorem performAll_endActs (out : Sink σ) (layout : Layout) (w : Writer σ) :
    Act.performAll out (w.endActs layout) w = w.endLine out layout := by
  unfold Writer.endActs Writer.endLine
  split
  · rfl
  · exact performAll_hand out _ w

theorem performAll_codeActs (out : Sink σ) (layout : Layout) (w : Writer σ) (text : String) :
    Act.performAll out (w.codeActs layout text) w = w.code out layout text := by
  unfold Writer.codeActs Writer.code
  split
  · change Writer.andThen (w.put out _) (Act.performAll out [.hand text]) = _
    congr 1
    funext w'
    exact performAll_hand out text w'
  · exact performAll_hand out text w

/-- Carrying out an instruction is doing its acts. -/
theorem perform_eq_acts (out : Sink σ) (layout : Layout) (w : Writer σ) (i : Instruction) :
    i.perform out layout w = Act.performAll out (i.acts layout w) w := by
  have hend (text : String) : Act.performAll out (w.endActs layout ++ [.hand text]) w =
      Writer.andThen (w.endLine out layout) (Writer.put out text) := by
    rw [Act.performAll_append, performAll_endActs]
    congr 1
    funext w'
    exact performAll_hand out text w'
  cases i with
  | code text => exact (performAll_codeActs out layout w text).symm
  | verbatim text => exact (performAll_hand out text w).symm
  | terminator => exact (performAll_hand out ";" w).symm
  | breakLine => exact (performAll_hand out _ w).symm
  | endLine => exact (performAll_endActs out layout w).symm
  | blankLine => exact (hend _).symm
  | openLine depth => exact (hend _).symm
  | separate =>
    simp only [perform, acts]
    split
    · rfl
    · exact (performAll_codeActs out layout w " ").symm
  | markComment => rfl

end Instruction

namespace Lowering.Script

/-- The acts of a script up to its first failure, as long as the sink takes every text. -/
def acts (layout : Layout) : Script → Writer Unit → List Act
  | [], _ => []
  | .fail _ :: _, _ => []
  | .log _ :: rest, w => acts layout rest w
  | .write i :: rest, w =>
    i.acts layout w ++ acts layout rest ((i.acts layout w).foldl Act.leave w)

/-- Carrying out a script is doing its acts.  If one of them is turned down the script ends there;
else it ends in its first failure, or well. -/
theorem run_eq_acts (out : Sink σ) (layout : Layout) (s : Script) (w : Writer σ) :
    s.run out layout w =
      match Act.performAll out (s.acts layout w.stance) w with
      | (true, w') => (s.failure.elim (.ok ()) .error, w')
      | (false, w') => (.error .sink, w') := by
  induction s generalizing w with
  | nil => rfl
  | cons step rest ih =>
    cases step with
    | fail error => rfl
    | log entry => exact ih w
    | write i =>
      rw [run, Instruction.perform_eq_acts, acts, Instruction.acts_stance, Act.performAll_append]
      obtain ⟨s, _, ⟨hdone, hall⟩ | ⟨_, _, s', _, _, _, hall⟩⟩ :=
        Act.performAll_cases out (i.acts layout w) w
      · rw [hall, hdone]
        exact ih _
      · rw [hall]
        rfl

end Lowering.Script

end CodeBehind
