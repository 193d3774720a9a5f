import CodeBehind.Proofs.Acts
import CodeBehind.Proofs.Placement
import Mathlib.Data.List.Basic

/-!
# Sessions on a sink that may turn texts down

A session is a list of calls on one writer: each call lowers a node, and the next one starts where it
left the writer, whether it failed or not.  A sink that turns a text down ends the call at once.  Up
to there nothing tells the session from one on a sink that takes everything, so the sink got the
beginning of what the other one got.  Where the writer stands always follows from the texts that were
taken and the comments that were marked.
-/

namespace CodeBehind

variable {σ : Type}

/-! ## Sinks with a record -/

namespace Sink

/-- A text that was handed to a sink. -/
structure Attempt where
  text : String
  taken : Bool
deriving DecidableEq, Inhabited

/-- A sink with all that it was handed. -/
structure Record (σ : Type) where
  sink : σ
  attempts : List Attempt := []

/-- The same sink, with a record of what it is handed. -/
def recorded (out : Sink σ) : Sink (Record σ) where
  put record text :=
    let (taken, sink) := out.put record.sink text
    (taken, { sink, attempts := record.attempts ++ [{ text, taken }] })

theorem put_recorded (out : Sink σ) (record : Record σ) (text : String) :
    out.recorded.put record text =
      ((out.put record.sink text).1,
        ⟨(out.put record.sink text).2,
          record.attempts ++ [⟨text, (out.put record.sink text).1⟩]⟩) := rfl

/-- The attempts up to the first one that was turned down, and that one. -/
def throughRefusal : List Attempt → List Attempt
  | [] => []
  | attempt :: rest => attempt :: if attempt.taken then throughRefusal rest else []

theorem isPrefix_throughRefusal (attempts : List Attempt) : throughRefusal attempts <+: attempts := by
  induction attempts with
  | nil => exact List.nil_prefix
  | cons attempt rest ih =>
    rw [throughRefusal]
    split
    · exact List.cons_prefix_cons.mpr ⟨rfl, ih⟩
    · exact List.cons_prefix_cons.mpr ⟨rfl, List.nil_prefix⟩

/-- The texts that were taken. -/
def accepted (attempts : List Attempt) : List String :=
  (attempts.filter (·.taken)).map (·.text)

/-- The attempts of a sink that took all these texts. -/
def allTaken (texts : List String) : List Attempt :=
  texts.map fun text ↦ { text, taken := true }

@[simp]
theorem allTaken_append (a b : List String) : allTaken (a ++ b) = allTaken a ++ allTaken b :=
  List.map_append

@[simp]
theorem text_allTaken (texts : List String) : (allTaken texts).map (·.text) = texts := by
  simp [allTaken, Function.comp_def]

theorem taken_of_mem_allTaken {texts : List String} {attempt : Attempt}
    (h : attempt ∈ allTaken texts) : attempt.taken = true := by
  obtain ⟨text, _, rfl⟩ := List.mem_map.mp h
  rfl

theorem throughRefusal_allTaken_append (texts : List String) (rest : List Attempt) :
    throughRefusal (allTaken texts ++ rest) = allTaken texts ++ throughRefusal rest := by
  induction texts with
  | nil => rfl
  | cons text texts ih =>
    change _ :: throughRefusal (allTaken texts ++ rest) = _
    rw [ih]
    rfl

theorem throughRefusal_allTaken (texts : List String) :
    throughRefusal (allTaken texts) = allTaken texts := by
  have h := throughRefusal_allTaken_append texts []
  rwa [throughRefusal, List.append_nil] at h

theorem accepted_append (a b : List Attempt) : accepted (a ++ b) = accepted a ++ accepted b := by
  simp [accepted]

@[simp]
theorem accepted_allTaken (texts : List String) : accepted (allTaken texts) = texts := by
  rw [accepted, List.filter_eq_self.mpr fun _ ↦ taken_of_mem_allTaken, text_allTaken]

/-- A record only grows, and the sink under it does what it does without one. -/
theorem Takes.of_recorded {out : Sink σ} {texts : List String} {r r' : Record σ}
    (h : out.recorded.Takes r texts r') :
    out.Takes r.sink texts r'.sink ∧ r'.attempts = r.attempts ++ allTaken texts := by
  induction texts generalizing r with
  | nil =>
    obtain rfl : r = r' := h
    exact ⟨rfl, (List.append_nil _).symm⟩
  | cons text rest ih =>
    obtain ⟨next, hput, hrest⟩ := h
    obtain ⟨htakes, hattempts⟩ := ih hrest
    obtain ⟨htaken, rfl⟩ := Prod.ext_iff.mp hput
    refine ⟨⟨_, Prod.ext htaken rfl, htakes⟩, ?_⟩
    have hfirst : (out.put r.sink text).1 = true := htaken
    simp [hattempts, recorded, allTaken, hfirst]

end Sink

open Sink

/-- The writer without the record of its sink. -/
def Writer.unrecorded (w : Writer (Record σ)) : Writer σ :=
  w.withSink w.sink.sink

namespace Act

theorem perform_unrecorded (out : Sink σ) (act : Act) (w : Writer (Record σ)) :
    act.perform out w.unrecorded =
      ((act.perform out.recorded w).1, (act.perform out.recorded w).2.unrecorded) := by
  cases act with
  | mark => rfl
  | hand text =>
    simp only [perform, Writer.put]
    cases text.toList.getLast? with
    | none => rfl
    | some last =>
      rcases hput : out.put w.sink.sink text with ⟨taken, s⟩
      have hsink : out.put w.unrecorded.sink text = (taken, s) := hput
      have hrecorded : out.recorded.put w.sink text =
          (taken, ⟨s, w.sink.attempts ++ [⟨text, taken⟩]⟩) := by
        simp only [recorded, hput]
      simp only [hsink, hrecorded]
      cases taken <;> rfl

/-- A record does not change what is done. -/
theorem performAll_unrecorded (out : Sink σ) (acts : List Act) (w : Writer (Record σ)) :
    done out acts w.unrecorded = done out.recorded acts w ∧
      performAll out acts w.unrecorded =
        ((performAll out.recorded acts w).1, (performAll out.recorded acts w).2.unrecorded) := by
  induction acts generalizing w with
  | nil => exact ⟨rfl, rfl⟩
  | cons act rest ih =>
    have hact := perform_unrecorded out act w
    rcases hrecorded : act.perform out.recorded w with ⟨_ | _, w'⟩
    · rw [hrecorded] at hact
      simp only [done, performAll, hact, hrecorded, Writer.andThen, and_self]
    · rw [hrecorded] at hact
      obtain ⟨hdone, hall⟩ := ih w'
      simp only [done, performAll, hact, hrecorded, Writer.andThen, hdone, hall, and_self]

end Act

namespace Lowering

open Source Act

/-! ## Turns -/

/-- What came of one call. -/
structure Turn where
  result : Except Error Unit
  /-- What was handed to the sink. -/
  attempts : List Attempt
  /-- The acts of the call that were done. -/
  done : List Act

/-- Carries out a script, and records what it hands to the sink. -/
def Script.turn (out : Sink σ) (layout : Layout) (s : Script) (w : Writer σ) : Turn × Writer σ :=
  let (result, after) := s.run out layout w
  let (_, watched) := s.run out.recorded layout (w.withSink { sink := w.sink })
  ({ result, attempts := watched.sink.attempts, done := Act.done out (s.acts layout w.stance) w },
    after)

/-- Scripts one after the other on the same writer, failed or not. -/
def session (out : Sink σ) (layout : Layout) : List Script → Writer σ → List Turn × Writer σ
  | [], w => ([], w)
  | s :: rest, w =>
    let (turn, w) := s.turn out layout w
    let (turns, w) := session out layout rest w
    (turn :: turns, w)

/-- A script is carried out to its end or its first failure, or it is cut at a text that the sink
turns down. -/
theorem Script.turn_cases (out : Sink σ) (layout : Layout) (s : Script) (w : Writer σ) :
    ∃ done state, out.Takes w.sink (handed done) state ∧
      ((done = s.acts layout w.stance ∧
          s.turn out layout w =
            (⟨s.failure.elim (.ok ()) .error, allTaken (handed done), done⟩,
              (done.foldl leave w.stance).withSink state)) ∨
        ∃ text rest state', s.acts layout w.stance = done ++ .hand text :: rest ∧ text ≠ "" ∧
          out.put state text = (false, state') ∧
          s.turn out layout w =
            (⟨.error .sink, allTaken (handed done) ++ [⟨text, false⟩], done⟩,
              (done.foldl leave w.stance).withSink state')) := by
  obtain ⟨hdone, hall⟩ := performAll_unrecorded out (s.acts layout w.stance)
    (w.withSink { sink := w.sink })
  have hcases := performAll_cases out.recorded (s.acts layout w.stance)
    (w.withSink { sink := w.sink })
  rw [← hdone] at hcases
  obtain ⟨r, htakes, hcases⟩ := hcases
  obtain ⟨htakes, hattempts⟩ := htakes.of_recorded
  change done out (s.acts layout w.stance) w = _ at hdone
  change performAll out (s.acts layout w.stance) w = _ at hall
  unfold Script.turn
  rw [run_eq_acts, run_eq_acts, Writer.stance_withSink, hall]
  refine ⟨done out (s.acts layout w.stance) w, r.sink, htakes, ?_⟩
  rcases hcases with ⟨hend, hperform⟩ | ⟨text, rest, r', hcut, htext, hput, hperform⟩
  · refine .inl ⟨hend, ?_⟩
    rw [hperform]
    simp only [Writer.withSink_sink, hattempts]
    rfl
  · obtain ⟨htaken, rfl⟩ := Prod.ext_iff.mp hput
    have hrefused : (out.put r.sink text).1 = false := htaken
    refine .inr ⟨text, rest, (out.put r.sink text).2, hcut, htext, Prod.ext hrefused rfl, ?_⟩
    rw [hperform]
    simp only [Writer.withSink_sink, put_recorded, hattempts, hrefused]
    rfl

/-! ## Up to the first refusal -/

/-- All attempts of a session, in order. -/
def attempts (turns : List Turn) : List Attempt :=
  turns.flatMap (·.attempts)

/-- The texts that a session handed to the sink, in order. -/
def texts (turns : List Turn) : List String :=
  (attempts turns).map (·.text)

@[simp]
theorem attempts_cons (turn : Turn) (turns : List Turn) :
    attempts (turn :: turns) = turn.attempts ++ attempts turns := by
  rw [attempts, List.flatMap_cons, attempts]

theorem texts_cons (turn : Turn) (turns : List Turn) :
    texts (turn :: turns) = turn.attempts.map (·.text) ++ texts turns := by
  rw [texts, attempts_cons, List.map_append, texts]

/-- On a sink that takes everything, a script does all its acts. -/
theorem Script.turn_unbounded (layout : Layout) (s : Script) (u : Writer String) :
    ∃ sink, Sink.unbounded.Takes u.sink (handed (s.acts layout u.stance)) sink ∧
      s.turn .unbounded layout u =
        (⟨s.failure.elim (.ok ()) .error, allTaken (handed (s.acts layout u.stance)),
          s.acts layout u.stance⟩,
          ((s.acts layout u.stance).foldl leave u.stance).withSink sink) := by
  obtain ⟨done, sink, htakes, ⟨rfl, hturn⟩ | ⟨_, _, _, _, _, hput, _⟩⟩ :=
    s.turn_cases .unbounded layout u
  · exact ⟨sink, htakes, hturn⟩
  · cases hput

/-- A session goes as on a sink that takes everything, or it does so up to a text that the sink turns
down, which ends the turn it stands in. -/
theorem session_cases (out : Sink σ) (layout : Layout) (scripts : List Script) (w : Writer σ)
    (u : Writer String) (h : w.stance = u.stance) :
    ∃ before state, out.Takes w.sink before state ∧
      (((session out layout scripts w).1 = (session .unbounded layout scripts u).1 ∧
          before = texts (session .unbounded layout scripts u).1 ∧
          (session out layout scripts w).2.sink = state) ∨
        ∃ text state', out.put state text = (false, state') ∧
          before ++ [text] <+: texts (session .unbounded layout scripts u).1 ∧
          throughRefusal (attempts (session out layout scripts w).1) =
            allTaken before ++ [⟨text, false⟩] ∧
          ∃ early turn late w', turn.result = .error .sink ∧ w'.sink = state' ∧
            session out layout scripts w =
              (early ++ turn :: (session out layout late w').1,
                (session out layout late w').2)) := by
  induction scripts generalizing w u with
  | nil => exact ⟨[], w.sink, rfl, .inl ⟨rfl, rfl, rfl⟩⟩
  | cons s scripts ih =>
    obtain ⟨sink, -, hfull⟩ := s.turn_unbounded layout u
    obtain ⟨done, state, htakes, hcases⟩ := s.turn_cases out layout w
    rw [h] at hcases
    simp only [session, hfull, attempts_cons, texts_cons, text_allTaken]
    rcases hcases with ⟨hdone, hturn⟩ | ⟨text, rest, state', hcut, htext, hput, hturn⟩
    · -- Nothing was turned down in this turn, so both writers stand at the same place.
      rw [← hdone, hturn]
      obtain ⟨before, state', hbefore, hrest⟩ :=
        ih ((done.foldl leave u.stance).withSink state) ((done.foldl leave u.stance).withSink sink) rfl
      refine ⟨handed done ++ before, state', htakes.append hbefore, hrest.imp ?_ ?_⟩
      · rintro ⟨hturns, htexts, hsink⟩
        exact ⟨by rw [hturns], by rw [htexts], hsink⟩
      · rintro ⟨text, state'', hput, htexts, hrefused, early, turn, late, w', hresult, hsink, hsession⟩
        refine ⟨text, state'', hput, ?_, ?_,
          ⟨s.failure.elim (.ok ()) .error, allTaken (handed done), done⟩ :: early, turn, late, w',
          hresult, hsink, ?_⟩
        · rw [List.append_assoc]
          exact List.prefix_append_right_inj _ |>.mpr htexts
        · rw [throughRefusal_allTaken_append, hrefused, allTaken_append, List.append_assoc]
        · rw [hsession]
          rfl
    · rw [hturn, hcut]
      refine ⟨handed done, state, htakes, .inr ⟨text, state', hput, ?_, ?_, [], _, scripts, _, rfl,
        rfl, rfl⟩⟩
      · rw [handed_append, handed_cons, handed_hand htext, ← List.append_assoc, List.append_assoc]
        exact List.prefix_append _ _
      · rw [List.append_assoc, throughRefusal_allTaken_append]
        rfl

/-- A sink that takes everything ends up with all texts of the session. -/
theorem sink_session_unbounded (layout : Layout) (scripts : List Script) (u : Writer String) :
    (session .unbounded layout scripts u).2.sink.toList =
      u.sink.toList ++ (texts (session .unbounded layout scripts u).1).flatMap String.toList := by
  have htaken {list : List String} {a b : String} (h : Sink.unbounded.Takes a list b) :
      b.toList = a.toList ++ list.flatMap String.toList := by
    induction list generalizing a with
    | nil =>
      obtain rfl : a = b := h
      simp
    | cons text rest ih =>
      obtain ⟨next, hput, hrest⟩ := h
      obtain rfl : a ++ text = next := congrArg Prod.snd hput
      rw [ih hrest, String.toList_append, List.append_assoc, List.flatMap_cons]
  induction scripts generalizing u with
  | nil => simp [session, texts, attempts]
  | cons s scripts ih =>
    obtain ⟨sink, htakes, hturn⟩ := s.turn_unbounded layout u
    simp only [session, hturn, texts_cons, text_allTaken, List.flatMap_append]
    rw [ih, Writer.withSink_sink, htaken htakes, List.append_assoc]

/-! ## Turn by turn -/

section Turns

variable {out : Sink σ} {layout : Layout} {scripts : List Script} {w : Writer σ}

/-- What holds of every turn of every script holds of the turns of a session. -/
theorem forall_mem_session {P : Turn → Prop}
    (h : ∀ s ∈ scripts, ∀ w, P (s.turn out layout w).1) :
    ∀ turn ∈ (session out layout scripts w).1, P turn := by
  induction scripts generalizing w with
  | nil => simp [session]
  | cons s scripts ih =>
    obtain ⟨hfirst, hrest⟩ := List.forall_mem_cons.mp h
    exact List.forall_mem_cons.mpr ⟨hfirst w, ih hrest⟩

theorem Takes.invariant {P : σ → Prop} (hput : ∀ s text, P s → P (out.put s text).2)
    {list : List String} {a b : σ} (h : out.Takes a list b) (ha : P a) : P b := by
  induction list generalizing a with
  | nil =>
    obtain rfl : a = b := h
    exact ha
  | cons text rest ih =>
    obtain ⟨next, hnext, hrest⟩ := h
    refine ih hrest ?_
    have hstep := hput a text ha
    rwa [hnext] at hstep

/-- What a sink keeps whatever it is handed, it keeps over a session. -/
theorem session_invariant {P : σ → Prop} (hput : ∀ s text, P s → P (out.put s text).2)
    (hw : P w.sink) : P (session out layout scripts w).2.sink := by
  induction scripts generalizing w with
  | nil => exact hw
  | cons s scripts ih =>
    have hturn : P (s.turn out layout w).2.sink := by
      obtain ⟨done, state, htakes, ⟨_, hturn⟩ | ⟨text, _, state', _, _, hrefused, hturn⟩⟩ :=
        s.turn_cases out layout w
      · rw [hturn]
        exact Takes.invariant hput htakes hw
      · rw [hturn]
        have hstep := hput state text (Takes.invariant hput htakes hw)
        rwa [hrefused] at hstep
    exact ih hturn

/-- A turn ends at the first text that is turned down, and it reports that and nothing else as a
fault of the sink. -/
def Turn.StopsAtRefusal (turn : Turn) : Prop :=
  throughRefusal turn.attempts = turn.attempts ∧
    (turn.result = .error .sink ↔ ∃ attempt ∈ turn.attempts, attempt.taken = false)

theorem Script.stopsAtRefusal_turn {s : Script} (hs : s.failure ≠ some .sink) (w : Writer σ) :
    (s.turn out layout w).1.StopsAtRefusal := by
  obtain ⟨done, state, _, ⟨_, hturn⟩ | ⟨text, _, state', _, _, _, hturn⟩⟩ := s.turn_cases out layout w
  · rw [hturn]
    refine ⟨?_, ?_⟩
    · exact throughRefusal_allTaken (handed done)
    · have hresult : s.failure.elim (.ok ()) .error ≠ (.error .sink : Except Error Unit) := by
        cases hfailure : s.failure with
        | none => simp
        | some error =>
          rw [hfailure] at hs
          simpa using hs
      refine ⟨fun h ↦ absurd h hresult, ?_⟩
      rintro ⟨attempt, hmem, htaken⟩
      rw [taken_of_mem_allTaken hmem] at htaken
      cases htaken
  · rw [hturn]
    refine ⟨throughRefusal_allTaken_append (handed done) _, fun _ ↦ ⟨⟨text, false⟩, ?_, rfl⟩, fun _ ↦ rfl⟩
    exact List.mem_append_right _ (List.mem_singleton_self _)

/-- The acts that were done handed over the texts that were taken. -/
theorem Script.accepted_turn (s : Script) (w : Writer σ) :
    accepted (s.turn out layout w).1.attempts = handed (s.turn out layout w).1.done := by
  obtain ⟨done, state, _, ⟨_, hturn⟩ | ⟨text, _, state', _, _, _, hturn⟩⟩ := s.turn_cases out layout w
  · rw [hturn, accepted_allTaken]
  · rw [hturn, accepted_append, accepted_allTaken]
    exact List.append_nil _

theorem accepted_session :
    accepted (attempts (session out layout scripts w).1) =
      handed ((session out layout scripts w).1.flatMap (·.done)) := by
  induction scripts generalizing w with
  | nil => rfl
  | cons s scripts ih =>
    simp only [session, attempts_cons, List.flatMap_cons, accepted_append, handed_append, ih,
      s.accepted_turn]

end Turns

end Lowering

/-! ## Where a writer stands -/

/-- The characters that acts write. -/
def Act.spelled (acts : List Act) : List Char :=
  (Act.handed acts).flatMap String.toList

/-- The writer knows the last character, whether it stands at the start of a line, and whether a
comment was marked since the last line break. -/
structure Writer.Reflects (w : Writer σ) (acts : List Act) : Prop where
  last : w.last = (Act.spelled acts).getLast?
  atLineStart : w.atLineStart = (Act.spelled acts).getLast?.elim true Text.isBreak
  inComment : w.inComment = true ↔ ∃ before after, acts = before ++ .mark :: after ∧
    ∀ c ∈ Act.spelled after, Text.isBreak c = false

namespace Act

@[simp]
theorem spelled_append (a b : List Act) : spelled (a ++ b) = spelled a ++ spelled b := by
  simp [spelled]

@[simp]
theorem spelled_hand (text : String) : spelled [hand text] = text.toList := by
  by_cases htext : text = ""
  · subst htext
    rfl
  · simp [spelled, handed_hand htext]

/-- A comment that was marked stays open behind a text without breaks. -/
theorem marked_append_hand (acts : List Act) (text : String) :
    (∃ before after, acts ++ [hand text] = before ++ .mark :: after ∧
        ∀ c ∈ spelled after, Text.isBreak c = false) ↔
      (∃ before after, acts = before ++ .mark :: after ∧
        ∀ c ∈ spelled after, Text.isBreak c = false) ∧ ∀ c ∈ text.toList, Text.isBreak c = false := by
  constructor
  · rintro ⟨before, after, hacts, hclear⟩
    rcases List.eq_nil_or_concat' after with rfl | ⟨init, last, rfl⟩
    · cases (List.append_inj' hacts rfl).2
    · rw [← List.cons_append, ← List.append_assoc] at hacts
      obtain ⟨hinit, hlast⟩ := List.append_inj' hacts rfl
      obtain rfl := List.singleton_injective hlast
      rw [spelled_append, spelled_hand, List.forall_mem_append] at hclear
      exact ⟨⟨before, init, hinit, hclear.1⟩, hclear.2⟩
  · rintro ⟨⟨before, after, rfl, hclear⟩, htext⟩
    refine ⟨before, after ++ [hand text], by simp, ?_⟩
    rw [spelled_append, spelled_hand, List.forall_mem_append]
    exact ⟨hclear, htext⟩

theorem reflects_leave {w : Writer Unit} {acts : List Act} (h : w.Reflects acts) (act : Act) :
    (act.leave w).Reflects (acts ++ [act]) := by
  cases act with
  | mark =>
    have hspelled : spelled (acts ++ [mark]) = spelled acts := by
      rw [spelled_append]
      exact List.append_nil _
    refine ⟨hspelled ▸ h.last, hspelled ▸ h.atLineStart, fun _ ↦ ⟨acts, [], rfl, ?_⟩, fun _ ↦ rfl⟩
    intro c hc
    cases hc
  | hand text =>
    cases hlast : text.toList.getLast? with
    | none =>
      have hleave : (hand text).leave w = w := by rw [leave, hlast, Option.elim_none]
      have hnil := List.getLast?_eq_none_iff.mp hlast
      rw [hleave]
      refine ⟨?_, ?_, ?_⟩
      · rw [spelled_append, spelled_hand, hnil, List.append_nil]
        exact h.last
      · rw [spelled_append, spelled_hand, hnil, List.append_nil]
        exact h.atLineStart
      · rw [marked_append_hand, hnil, h.inComment]
        simp
    | some last =>
      have hleave : (hand text).leave w = w.took () text.toList last := by
        rw [leave, hlast, Option.elim_some]
      have hspelled : (spelled (acts ++ [hand text])).getLast? = some last := by
        rw [spelled_append, spelled_hand, List.getLast?_append, hlast, Option.some_or]
      rw [hleave]
      refine ⟨?_, ?_, ?_⟩
      · rw [hspelled]
        rfl
      · rw [hspelled]
        rfl
      · rw [marked_append_hand, ← h.inComment]
        simp [Writer.took]

theorem reflects_foldl_leave {w : Writer Unit} {acts : List Act} (h : w.Reflects acts)
    (more : List Act) : (more.foldl leave w).Reflects (acts ++ more) := by
  induction more generalizing w acts with
  | nil => simpa using h
  | cons act rest ih =>
    have hrest := ih (reflects_leave h act)
    rwa [List.append_assoc, List.singleton_append] at hrest

end Act

namespace Lowering

open Act

/-- Over a whole session, refusals or not, the writer stands where the acts that were done put it. -/
theorem reflects_session {out : Sink σ} {layout : Layout} {w : Writer σ} {acts : List Act}
    (h : w.Reflects acts) (scripts : List Script) :
    (session out layout scripts w).2.Reflects
      (acts ++ (session out layout scripts w).1.flatMap (·.done)) := by
  induction scripts generalizing w acts with
  | nil => simpa [session] using h
  | cons s scripts ih =>
    have hstance : w.stance.Reflects acts := ⟨h.last, h.atLineStart, h.inComment⟩
    have hturn : (s.turn out layout w).2.Reflects (acts ++ (s.turn out layout w).1.done) := by
      obtain ⟨done, state, _, ⟨_, hturn⟩ | ⟨_, _, state', _, _, _, hturn⟩⟩ :=
        s.turn_cases out layout w
      all_goals
        rw [hturn]
        have hdone := reflects_foldl_leave hstance done
        exact ⟨hdone.last, hdone.atLineStart, hdone.inComment⟩
    have hrest := ih hturn
    rwa [List.append_assoc] at hrest

end Lowering

end CodeBehind
