import CodeBehind.Proofs.Execution
import CodeBehind.Proofs.Ink
import Mathlib.Data.List.Basic

/-!
# The text of a marker

A compound assignment becomes a comment that has to end with its line.  Its source text is put on
one line for that: all ink of the text stays in order, and no line feed or carriage return is left.
A script knows two more characters that end a line.  They are blanks, so they are left out at the
ends of a source line, but between the ink of one line they are kept, and there they end the comment.
-/

namespace CodeBehind.Text

/-! ## Pieces of a text -/

section Pieces

variable {isSeparator : Char → Bool}

theorem pieces_ne_nil (cs : List Char) : pieces isSeparator cs ≠ [] := by
  cases cs with
  | nil => simp [pieces]
  | cons c rest =>
    rw [pieces]
    split
    · simp
    · split <;> simp

theorem pieces_of_forall {cs : List Char} (h : ∀ c ∈ cs, isSeparator c = false) :
    pieces isSeparator cs = [cs] := by
  induction cs with
  | nil => rfl
  | cons c rest ih =>
    obtain ⟨hc, hrest⟩ := List.forall_mem_cons.mp h
    rw [pieces, hc, if_neg Bool.false_ne_true, ih hrest]

/-- Cutting at one separator is cutting the text before it and the text behind it. -/
theorem pieces_append_cons (xs ys : List Char) {c : Char} (hc : isSeparator c = true) :
    pieces isSeparator (xs ++ c :: ys) = pieces isSeparator xs ++ pieces isSeparator ys := by
  induction xs with
  | nil =>
    simp [pieces, hc]
  | cons x xs ih =>
    rw [List.cons_append, pieces, pieces, ih]
    cases hx : isSeparator x with
    | true => rfl
    | false =>
      cases hpieces : pieces isSeparator xs with
      | nil => exact absurd hpieces (pieces_ne_nil xs)
      | cons piece others => rfl

/-- A piece reaches from a separator or the start of the text to a separator or its end. -/
def IsPiece (isSeparator : Char → Bool) (cs piece : List Char) : Prop :=
  ∃ start stop, cs = start ++ piece ++ stop ∧ (∀ c ∈ piece, isSeparator c = false) ∧
    (∀ c ∈ start.getLast?, isSeparator c = true) ∧ ∀ c ∈ stop.head?, isSeparator c = true

theorem isPiece_of_mem {line cs piece : List Char} (hline : ∀ c ∈ line, isSeparator c = false)
    (h : piece ∈ pieces isSeparator (line ++ cs)) : IsPiece isSeparator (line ++ cs) piece := by
  -- The line is what was read of the current piece.
  induction cs generalizing line with
  | nil =>
    rw [List.append_nil, pieces_of_forall hline, List.mem_singleton] at h
    exact ⟨[], [], by simp [h], h ▸ hline, by simp, by simp⟩
  | cons c rest ih =>
    cases hc : isSeparator c with
    | true =>
      rw [pieces_append_cons line rest hc, pieces_of_forall hline, List.singleton_append] at h
      rcases List.mem_cons.mp h with rfl | hrest
      · exact ⟨[], c :: rest, rfl, hline, by simp, by simpa using hc⟩
      · obtain ⟨start, stop, hcs, hinside, hleft, hright⟩ := @ih [] (by simp) hrest
        refine ⟨line ++ c :: start, stop, ?_, hinside, ?_, hright⟩
        · rw [List.nil_append] at hcs
          simp [hcs]
        · rw [List.getLast?_append, List.getLast?_cons]
          intro d hd
          cases hlast : start.getLast? with
          | none =>
            rw [hlast] at hd
            obtain rfl : c = d := by simpa using hd
            exact hc
          | some e =>
            rw [hlast] at hd
            obtain rfl : e = d := by simpa using hd
            exact hleft e hlast
    | false =>
      rw [List.append_cons] at h ⊢
      exact ih (List.forall_mem_append.mpr ⟨hline, by simpa using hc⟩) h

theorem mem_of_isPiece {cs piece : List Char} (h : IsPiece isSeparator cs piece) :
    piece ∈ pieces isSeparator cs := by
  obtain ⟨start, stop, rfl, hinside, hleft, hright⟩ := h
  have hbehind : piece ∈ pieces isSeparator (piece ++ stop) := by
    cases stop with
    | nil =>
      rw [List.append_nil, pieces_of_forall hinside]
      exact List.mem_singleton_self piece
    | cons c rest =>
      rw [pieces_append_cons piece rest (hright c rfl), pieces_of_forall hinside]
      exact List.mem_cons_self
  rcases List.eq_nil_or_concat' start with rfl | ⟨init, c, rfl⟩
  · exact hbehind
  · have hc : isSeparator c = true := hleft c (by simp)
    have hcut : init ++ [c] ++ piece ++ stop = init ++ c :: (piece ++ stop) := by simp
    rw [hcut, pieces_append_cons init _ hc]
    exact List.mem_append_right _ hbehind

theorem mem_pieces_iff {cs piece : List Char} :
    piece ∈ pieces isSeparator cs ↔ IsPiece isSeparator cs piece :=
  ⟨fun h ↦ @isPiece_of_mem isSeparator [] cs piece (by simp) h, mem_of_isPiece⟩

end Pieces

/-! ## Ink around a blank -/

theorem trimStart_append {a : List Char} (h : inked a ≠ []) (b : List Char) :
    trimStart (a ++ b) = trimStart a ++ b := by
  rw [trimStart, List.dropWhile_append, if_neg, trimStart]
  intro hempty
  exact h (inked_eq_nil (List.dropWhile_eq_nil_iff.mp (List.isEmpty_iff.mp hempty)))

theorem trimEnd_append {b : List Char} (h : inked b ≠ []) (a : List Char) :
    trimEnd (a ++ b) = a ++ trimEnd b := by
  have hreverse : inked b.reverse ≠ [] := by
    rwa [inked, List.filter_reverse, List.reverse_ne_nil_iff]
  have htrim := trimStart_append hreverse a.reverse
  unfold trimStart at htrim
  rw [trimEnd, List.reverse_append, htrim, List.reverse_append, List.reverse_reverse, trimEnd]

theorem inked_cons_ne_nil {c : Char} (h : isBlank c = false) (rest : List Char) :
    inked (c :: rest) ≠ [] := by
  simp [inked, h]

theorem getLast?_trimEnd (cs : List Char) : ∀ c ∈ (trimEnd cs).getLast?, isBlank c = false := by
  rw [trimEnd, List.getLast?_reverse]
  exact head?_trimStart cs.reverse

/-- A blank survives trimming if there is ink before it and behind it. -/
theorem mem_trim_iff {cs : List Char} {c : Char} (hc : isBlank c = true) :
    c ∈ trim cs ↔ ∃ a b, cs = a ++ c :: b ∧ inked a ≠ [] ∧ inked b ≠ [] := by
  constructor
  · intro h
    obtain ⟨start, _, hstart⟩ := exists_append_trimStart cs
    obtain ⟨stop, _, hstop⟩ := exists_trimEnd_append (trimStart cs)
    obtain ⟨a, b, htrim⟩ := List.append_of_mem h
    have hfirst := fun d hd ↦ head?_trimStart cs d (@head?_trimEnd (trimStart cs) d hd)
    have hlast := getLast?_trimEnd (trimStart cs)
    rw [trim] at htrim
    refine ⟨start ++ a, b ++ stop, ?_, ?_, ?_⟩
    · rw [htrim] at hstop
      rw [hstart, hstop]
      simp
    · cases a with
      | nil =>
        have hink := hfirst c (by rw [htrim]; rfl)
        rw [hc] at hink
        cases hink
      | cons d rest =>
        rw [inked_append]
        exact List.append_ne_nil_of_right_ne_nil _
          (inked_cons_ne_nil (hfirst d (by rw [htrim]; rfl)) rest)
    · rcases List.eq_nil_or_concat b with rfl | ⟨init, d, rfl⟩
      · have hink := hlast c (by rw [htrim]; simp)
        rw [hc] at hink
        cases hink
      · have hink := hlast d (by rw [htrim]; simp [List.getLast?_cons])
        simp [inked, hink]
  · rintro ⟨a, b, rfl, ha, hb⟩
    rw [trim, trimStart_append ha, List.append_cons, trimEnd_append hb]
    simp

/-! ## Line terminators inside of a line -/

/-- The part of a text that stands on its last line. -/
def lastLine (cs : List Char) : List Char :=
  (cs.reverse.takeWhile (!isBreak ·)).reverse

/-- The part of a text that stands on its first line. -/
def firstLine (cs : List Char) : List Char :=
  cs.takeWhile (!isBreak ·)

/-- A line terminator that is no break of source text stands between the ink of one line. -/
def SplitsLine (cs : List Char) : Prop :=
  ∃ before c after, cs = before ++ c :: after ∧ isLineTerminator c = true ∧ isBreak c = false ∧
    inked (lastLine before) ≠ [] ∧ inked (firstLine after) ≠ []

theorem firstLine_append {line stop : List Char} (hline : ∀ c ∈ line, isBreak c = false)
    (hstop : ∀ c ∈ stop.head?, isBreak c = true) : firstLine (line ++ stop) = line := by
  have hall : ∀ c ∈ line, (!isBreak c) = true := by simpa using hline
  rw [firstLine, List.takeWhile_append_of_pos hall]
  cases stop with
  | nil => simp
  | cons c rest => simp [hstop c rfl]

theorem lastLine_append {line start : List Char} (hline : ∀ c ∈ line, isBreak c = false)
    (hstart : ∀ c ∈ start.getLast?, isBreak c = true) : lastLine (start ++ line) = line := by
  have hreverse : ∀ c ∈ line.reverse, isBreak c = false := by simpa using hline
  have hhead : ∀ c ∈ start.reverse.head?, isBreak c = true := by simpa using hstart
  have hfirst := firstLine_append hreverse hhead
  unfold firstLine at hfirst
  rw [lastLine, List.reverse_append, hfirst, List.reverse_reverse]

theorem exists_firstLine (cs : List Char) :
    ∃ stop, cs = firstLine cs ++ stop ∧ (∀ c ∈ firstLine cs, isBreak c = false) ∧
      ∀ c ∈ stop.head?, isBreak c = true := by
  refine ⟨cs.dropWhile (!isBreak ·), List.takeWhile_append_dropWhile.symm, ?_, ?_⟩
  · intro c hc
    simpa using List.mem_takeWhile_imp hc
  · intro c hc
    have hhead := List.head?_dropWhile_not (!isBreak ·) cs
    rw [Option.mem_def.mp hc] at hhead
    simpa using hhead

theorem exists_lastLine (cs : List Char) :
    ∃ start, cs = start ++ lastLine cs ∧ (∀ c ∈ lastLine cs, isBreak c = false) ∧
      ∀ c ∈ start.getLast?, isBreak c = true := by
  obtain ⟨stop, hcs, hline, hstop⟩ := exists_firstLine cs.reverse
  refine ⟨stop.reverse, ?_, ?_, ?_⟩
  · have hreverse := congrArg List.reverse hcs
    rwa [List.reverse_reverse, List.reverse_append] at hreverse
  · intro c hc
    exact hline c (List.mem_reverse.mp hc)
  · rwa [List.getLast?_reverse]

/-- A line terminator is a blank. -/
theorem isBlank_of_isLineTerminator {c : Char} (h : isLineTerminator c = true) :
    isBlank c = true := by
  simp only [isLineTerminator, Bool.or_eq_true, beq_iff_eq] at h
  rcases h with (hbreak | rfl) | rfl
  · exact isBlank_of_isBreak hbreak
  · decide
  · decide

/-- What stands inside of a line is what trimming leaves of it. -/
theorem splitsLine_iff (cs : List Char) :
    SplitsLine cs ↔ ∃ piece ∈ pieces isBreak cs, ∃ c ∈ trim piece, isLineTerminator c = true := by
  constructor
  · rintro ⟨before, c, after, rfl, hterminator, hbreak, hbefore, hafter⟩
    obtain ⟨start, hstart, hleft, hlast⟩ := exists_lastLine before
    obtain ⟨stop, hstop, hright, hfirst⟩ := exists_firstLine after
    refine ⟨lastLine before ++ c :: firstLine after, mem_pieces_iff.mpr ⟨start, stop, ?_, ?_, hlast,
      hfirst⟩, c, ?_, hterminator⟩
    · conv_lhs => rw [hstart, hstop]
      simp
    · exact List.forall_mem_append.mpr ⟨hleft, List.forall_mem_cons.mpr ⟨hbreak, hright⟩⟩
    · exact (mem_trim_iff (isBlank_of_isLineTerminator hterminator)).mpr
        ⟨_, _, rfl, hbefore, hafter⟩
  · rintro ⟨piece, hpiece, c, hc, hterminator⟩
    obtain ⟨a, b, rfl, ha, hb⟩ := (mem_trim_iff (isBlank_of_isLineTerminator hterminator)).mp hc
    obtain ⟨start, stop, hcs, hinside, hleft, hright⟩ := mem_pieces_iff.mp hpiece
    obtain ⟨hbefore, hafter⟩ := List.forall_mem_append.mp hinside
    obtain ⟨hbreak, hafter⟩ := List.forall_mem_cons.mp hafter
    refine ⟨start ++ a, c, b ++ stop, by simp [hcs], hterminator, hbreak, ?_, ?_⟩
    · rwa [lastLine_append hbefore hleft]
    · rwa [firstLine_append hafter hright]

/-! ## A text on one line -/

theorem mem_intercalate_of_mem {parts : List (List Char)} {part : List Char} {c : Char}
    (hpart : part ∈ parts) (hc : c ∈ part) : c ∈ [' '].intercalate parts := by
  induction parts with
  | nil => cases hpart
  | cons first rest ih =>
    cases rest with
    | nil => simpa using List.mem_singleton.mp hpart ▸ hc
    | cons next others =>
      rw [List.intercalate_cons_cons]
      rcases List.mem_cons.mp hpart with rfl | hrest
      · exact List.mem_append_left _ (List.mem_append_left _ hc)
      · exact List.mem_append_right _ (ih hrest)

/-- Only line terminators between the ink of one line are left. -/
theorem exists_isLineTerminator_singleLine (cs : List Char) :
    (∃ c ∈ singleLine cs, isLineTerminator c = true) ↔ SplitsLine cs := by
  rw [splitsLine_iff]
  constructor
  · rintro ⟨c, hc, hterminator⟩
    rcases mem_intercalate_space hc with rfl | ⟨part, hpart, hmem⟩
    · exact absurd hterminator (by decide)
    · obtain ⟨piece, hpiece, rfl⟩ := List.mem_map.mp (List.mem_filter.mp hpart).1
      exact ⟨piece, hpiece, c, hmem, hterminator⟩
  · rintro ⟨piece, hpiece, c, hc, hterminator⟩
    refine ⟨c, mem_intercalate_of_mem (List.mem_filter.mpr ⟨List.mem_map_of_mem hpiece, ?_⟩) hc,
      hterminator⟩
    cases htrim : trim piece with
    | nil =>
      rw [htrim] at hc
      cases hc
    | cons d rest => rfl

/-- A text without breaks and outer blanks is on one line already. -/
theorem singleLine_eq_self {cs : List Char} (hbreak : ∀ c ∈ cs, isBreak c = false)
    (hfirst : ∀ c ∈ cs.head?, isBlank c = false) (hlast : ∀ c ∈ cs.getLast?, isBlank c = false) :
    singleLine cs = cs := by
  have htrim : trim cs = cs := by
    have hreverse := @trimStart_eq_self cs.reverse (by simpa using hlast)
    rw [trim, trimStart_eq_self hfirst, trimEnd]
    unfold trimStart at hreverse
    rw [hreverse, List.reverse_reverse]
  rw [singleLine, pieces_of_forall hbreak, List.map_singleton, htrim]
  cases cs <;> simp

end CodeBehind.Text

namespace CodeBehind

open Source Lowering Text

/-- A marker starts on a new line if a comment is open, and leaves one open itself. -/
theorem effect_markedComment (layout : Layout) (e : Expression) (w : Writer String) :
    (markedComment e).effect layout w =
      { (if w.inComment then w.after layout.lineBreak.text else w).after
          (unsupportedMarker ++ String.ofList (singleLine e.text.toList)) with
        inComment := true } := by
  have hcode : (Instruction.code unsupportedMarker).apply layout w =
      (if w.inComment then w.after layout.lineBreak.text else w).after unsupportedMarker := by
    rw [Instruction.apply_code]
    cases w.inComment <;> rfl
  rw [Writer.after_append, ← hcode, ← Instruction.apply_verbatim layout]
  rfl

/-- A compound assignment is always rewritten, behind a line break if a comment is open.  What is
written behind the marker has the ink of its source text in order and no break, and it is that text
if nothing in it has to go.  A line terminator is in it if and only if one stands between the ink of
a source line. -/
theorem run_compound (left : Expression) (operator : Token) (right : Expression) (layout : Layout)
    (w : Writer String) :
    let source := (Expression.compound left operator right).text.toList
    let run := (lowerExpression (.compound left operator right)).run .unbounded layout w
    ∃ written : String,
      run.1 = .ok () ∧
      run.2.sink = w.sink ++ (if w.inComment then layout.lineBreak.text else "") ++
        unsupportedMarker ++ written ∧
      inked written.toList = inked source ∧
      (∀ c ∈ written.toList, isBreak c = false) ∧
      ((∀ c ∈ source, isLineTerminator c = false) → (∀ c ∈ source.head?, isBlank c = false) →
        (∀ c ∈ source.getLast?, isBlank c = false) → written.toList = source) ∧
      ((∃ c ∈ written.toList, isLineTerminator c = true) ↔ SplitsLine source) := by
  intro source run
  have hfailure : (lowerExpression (.compound left operator right)).failure = none := rfl
  refine ⟨String.ofList (singleLine source), ?_, ?_, ?_, ?_, ?_, ?_⟩
  · change (Script.run .unbounded layout _ w).1 = _
    rw [Script.run_unbounded_fst, hfailure]
    rfl
  · change (Script.run .unbounded layout _ w).2.sink = _
    rw [Script.run_eq_effect layout _ w hfailure]
    change ((markedComment _).effect layout w).sink = _
    rw [effect_markedComment, Writer.after_sink_eq, ← String.append_assoc]
    cases w.inComment with
    | true => rw [if_pos rfl, if_pos rfl, Writer.after_sink_eq]
    | false =>
      rw [if_neg Bool.false_ne_true, if_neg Bool.false_ne_true, String.append_empty]
  · rw [String.toList_ofList, inked_singleLine]
  · rw [String.toList_ofList]
    exact isBreak_singleLine source
  · intro hterminator hfirst hlast
    rw [String.toList_ofList]
    refine singleLine_eq_self (fun c hc ↦ ?_) hfirst hlast
    have hnone := hterminator c hc
    rw [isLineTerminator, Bool.or_eq_false_iff, Bool.or_eq_false_iff] at hnone
    exact hnone.1.1
  · rw [String.toList_ofList]
    exact exists_isLineTerminator_singleLine source

theorem run_compound_tickText :
    let source := (Expression.assignWith "+=" (.ofText "timer.Tick") (.ofText "OnTick")).text.toList
    (∀ c ∈ source, isLineTerminator c = false) ∧ (∀ c ∈ source.head?, isBlank c = false) ∧
      (∀ c ∈ source.getLast?, isBlank c = false) ∧
      ∃ written : String, written.toList = source ∧
        ((lowerExpression (.assignWith "+=" (.ofText "timer.Tick") (.ofText "OnTick"))).run
            .unbounded {} .empty).2.sink =
          "" ++ "" ++ unsupportedMarker ++ written := by
  intro source
  have hsource : source = "timer.Tick += OnTick".toList := by decide
  have hterminator : ∀ c ∈ source, isLineTerminator c = false := by
    have hall : source.all (!isLineTerminator ·) = true := by
      rw [hsource]
      decide
    simpa using hall
  have hfirst : ∀ c ∈ source.head?, isBlank c = false := by
    intro c hc
    obtain rfl : 't' = c := by simpa [hsource] using hc
    decide
  have hlast : ∀ c ∈ source.getLast?, isBlank c = false := by
    intro c hc
    obtain rfl : 'k' = c := by simpa [hsource] using hc
    decide
  obtain ⟨written, _, hsink, _, _, hself, _⟩ :=
    run_compound (.ofText "timer.Tick") (.spaced "+=") (.ofText "OnTick") {} .empty
  exact ⟨hterminator, hfirst, hlast, written, hself hterminator hfirst hlast, hsink⟩

theorem not_forall_isLineTerminator_splitText :
    ¬ ∀ (left : Expression) (operator : Token) (right : Expression) (layout : Layout)
      (w : Writer String) (written : String),
      ((lowerExpression (.compound left operator right)).run .unbounded layout w).2.sink =
          w.sink ++ (if w.inComment then layout.lineBreak.text else "") ++ unsupportedMarker ++
            written →
        ∀ c ∈ written.toList, isLineTerminator c = false := by
  intro h
  have hnone := h (.ofText "a") (.spaced "+=") (.ofText "b\u2028+ c") {} .empty
    "a += b\u2028+ c" (by decide +kernel) '\u2028' (by decide)
  exact absurd hnone (by decide)

end CodeBehind
