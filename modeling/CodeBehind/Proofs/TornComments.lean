import CodeBehind.Proofs.CommentSafety
import CodeBehind.Proofs.OpenMarkers

/-!
# Comments behind an open comment

Trivia is written as it is, also on a line that a marked comment takes to its end.  What the comment
lexer makes of it depends on its first line break.  Up to there it is part of the marked comment,
and from there on it is read as code.  If the break stands between comments, the rest is trivia that
is read as what it is.  If the break stands in a block comment, that comment is torn: its opening is
lost in the marked comment, and its other lines are code.
-/

namespace CodeBehind

namespace Comments

open Text Source Meaning Lowering

/-! ## Torn texts -/

/-- The first line break of a text stands in one of its comments. -/
def torn (text : List Char) : Bool :=
  ((text.zip (scan .code text)).find? (isBreak ·.1)).any (·.2)

example : torn "/* a\n b */".toList = true ∧ torn "// a\n /* b\n */".toList = false := by decide

/-- What trivia is made of: commentary, and block comments over any number of lines. -/
inductive Annotated (closed : Bool) : List Char → Prop where
  | commentary {text : List Char} : Commentary closed text → Annotated closed text
  | block {lead body rest : List Char} : Commentary true lead → Body body →
      Annotated closed rest →
      Annotated closed (lead ++ ('/' :: '*' :: (body ++ ['*', '/']) ++ rest))

theorem find?_isBreak_zip {text : List Char} (h : ∀ c ∈ text, isBreak c = false)
    (marks : List Bool) : (text.zip marks).find? (isBreak ·.1) = none := by
  rw [List.find?_eq_none]
  intro placed hmem
  rw [h placed.1 (List.of_mem_zip hmem).1]
  exact Bool.false_ne_true

/-- A text that is read as code and has no break does not count. -/
theorem torn_append {start rest : List Char} {marks : List Bool}
    (hscan : Scans .code start marks .code) (hlength : start.length = marks.length)
    (hstart : ∀ c ∈ start, isBreak c = false) : torn (start ++ rest) = torn rest := by
  rw [torn, hscan rest, List.zip_append hlength, List.find?_append, find?_isBreak_zip hstart,
    Option.none_or, torn]

/-- The mark at the first break decides. -/
theorem torn_eq {start rest : List Char} {c : Char} {marks tail : List Bool} {inside : Bool}
    (hscan : scan .code (start ++ c :: rest) = marks ++ inside :: tail)
    (hlength : start.length = marks.length) (hstart : ∀ c ∈ start, isBreak c = false)
    (hc : isBreak c = true) : torn (start ++ c :: rest) = inside := by
  have hfirst : ((c, inside) :: rest.zip tail).find? (isBreak ·.1) = some (c, inside) :=
    List.find?_cons_of_pos hc
  rw [torn, hscan, List.zip_append hlength, List.find?_append, find?_isBreak_zip hstart,
    Option.none_or, List.zip_cons_cons, hfirst]
  rfl

/-- What comes behind the first line break of a text. -/
def behindBreak (text : List Char) : List Char :=
  (text.dropWhile (!isBreak ·)).tail

theorem behindBreak_append {start : List Char} (hstart : ∀ c ∈ start, isBreak c = false) {c : Char}
    (hc : isBreak c = true) (rest : List Char) : behindBreak (start ++ c :: rest) = rest := by
  rw [behindBreak, List.dropWhile_append_of_pos (by simpa using hstart),
    List.dropWhile_cons_of_neg (by simp [hc]), List.tail_cons]

/-- A text with a break is split at the first one. -/
theorem exists_break {text : List Char} (h : text.any isBreak = true) :
    ∃ start c rest, text = start ++ c :: rest ∧ (∀ d ∈ start, isBreak d = false) ∧
      isBreak c = true := by
  obtain ⟨c, hfind⟩ := Option.isSome_iff_exists.mp (List.find?_isSome.mpr (List.any_eq_true.mp h))
  obtain ⟨hc, start, rest, htext, hstart⟩ := List.find?_eq_some_iff_append.mp hfind
  exact ⟨start, c, rest, htext, fun d hd ↦ by simpa using hstart d hd, hc⟩

/-- A block comment that has a break in it is torn. -/
theorem torn_block {body : List Char} (h : Body body) (hbreak : body.any isBreak = true)
    (rest : List Char) : torn ('/' :: '*' :: (body ++ ['*', '/']) ++ rest) = true := by
  obtain ⟨start, c, tail, rfl, hstart, hc⟩ := exists_break hbreak
  have hscan := Scans.block h rest
  have hlead : ∀ d ∈ '/' :: '*' :: start, isBreak d = false :=
    List.forall_mem_cons.mpr ⟨by decide, List.forall_mem_cons.mpr ⟨by decide, hstart⟩⟩
  have hsplit : '/' :: '*' :: (start ++ c :: tail ++ ['*', '/']) ++ rest =
      '/' :: '*' :: start ++ c :: (tail ++ ['*', '/'] ++ rest) := by simp
  have hmarks : true :: true :: (List.map (fun _ ↦ true) (start ++ c :: tail) ++ [true, true]) ++
      scan .code rest = ('/' :: '*' :: start).map (fun _ ↦ true) ++
        true :: (tail.map (fun _ ↦ true) ++ [true, true] ++ scan .code rest) := by simp
  rw [hsplit] at hscan ⊢
  rw [hmarks] at hscan
  exact torn_eq hscan (by simp) hlead hc

/-- A torn text has a break. -/
theorem any_isBreak_of_torn {text : List Char} (h : torn text = true) :
    text.any isBreak = true := by
  cases hbreak : text.any isBreak with
  | true => rfl
  | false =>
    rw [torn, find?_isBreak_zip (any_isBreak_eq_false.mp hbreak)] at h
    cases h

namespace Annotated

variable {closed : Bool} {text : List Char}

/-- Annotations that are read as code hide their ink. -/
theorem hides_code (h : Annotated closed text) :
    ∃ mode, Hides .code text mode ∧ Commentary.Settles closed text mode := by
  induction h with
  | commentary h => exact h.hides_code
  | @block lead body rest hlead hbody hrest ih =>
    obtain ⟨mode, hhides, hmode⟩ := ih
    obtain ⟨_, hfirst, rfl | ⟨hopen, _⟩⟩ := hlead.hides_code
    · have hblock : Hides .code ('/' :: '*' :: (body ++ ['*', '/'])) .code := by
        apply Hides.of_true
        simpa using Scans.block hbody
      exact ⟨mode, hfirst.append (hblock.append hhides), (hmode.append_left _).append_left lead⟩
    · cases hopen

/-- Unless the text is torn, the rest of it behind its first line break is made of annotations. -/
theorem exists_first_break (h : Annotated closed text) (hbreak : text.any isBreak = true)
    (huntorn : torn text = false) :
    ∃ start c rest, text = start ++ c :: rest ∧ (∀ d ∈ start, isBreak d = false) ∧
      isBreak c = true ∧ Annotated closed rest := by
  induction h with
  | commentary h =>
    obtain ⟨start, c, rest, htext, hstart, hc, hrest⟩ := h.exists_first_break hbreak
    exact ⟨start, c, rest, htext, hstart, hc, .commentary hrest⟩
  | @block lead body rest hlead hbody hrest ih =>
    cases hleadBreak : lead.any isBreak with
    | true =>
      obtain ⟨start, c, tail, rfl, hstart, hc, htail⟩ := hlead.exists_first_break hleadBreak
      refine ⟨start, c, _, ?_, hstart, hc, .block htail hbody hrest⟩
      rw [List.append_assoc, List.cons_append]
    | false =>
      have hunbroken := any_isBreak_eq_false.mp hleadBreak
      obtain ⟨marks, hscan, hmarks⟩ : Hides .code lead .code := by
        obtain ⟨_, hhides, rfl | ⟨hopen, _⟩⟩ := hlead.hides_code
        · exact hhides
        · cases hopen
      rw [torn_append hscan hmarks.length_eq hunbroken] at huntorn
      rw [List.any_append, hleadBreak, Bool.false_or] at hbreak
      cases hbodyBreak : body.any isBreak with
      | true =>
        rw [torn_block hbody hbodyBreak] at huntorn
        cases huntorn
      | false =>
        have hcomment := Commentary.isBreak_block (any_isBreak_eq_false.mp hbodyBreak)
        rw [torn_append (Scans.block hbody) (by simp) hcomment] at huntorn
        rw [List.any_append, any_isBreak_eq_false.mpr hcomment, Bool.false_or] at hbreak
        obtain ⟨start, c, tail, rfl, hstart, hc, htail⟩ := ih hbreak huntorn
        refine ⟨lead ++ ('/' :: '*' :: (body ++ ['*', '/']) ++ start), c, tail, ?_, ?_, hc, htail⟩
        · simp only [List.append_assoc]
        · exact List.forall_mem_append.mpr
            ⟨hunbroken, List.forall_mem_append.mpr ⟨hcomment, hstart⟩⟩

/-- Behind a line comment the text up to its first break is part of that comment. -/
theorem hides_line (h : Annotated closed text) (hbreak : text.any isBreak = true)
    (huntorn : torn text = false) :
    ∃ mode, Hides .line text mode ∧ Commentary.Settles closed text mode := by
  obtain ⟨start, c, rest, rfl, hstart, hc, hrest⟩ := h.exists_first_break hbreak huntorn
  obtain ⟨mode, hhides, hmode⟩ := hrest.hides_code
  have hline := Hides.of_true (Scans.line_of_forall hstart)
  have hend := Hides.of_blank (isBlank_of_isBreak hc) (Scans.line_break hc)
  exact ⟨mode, hline.append (hend.append hhides), (hmode.append_left [c]).append_left start⟩

end Annotated

/-! ## Footings of scripts -/

/-- The lexer stands somewhere behind what was written, and the footing fits. -/
def Footed (footing : Mode → Writer String → Prop) (w : Writer String) : Prop :=
  ∃ mode marks, Scans .code w.sink.toList marks mode ∧ footing mode w

/-- Trivia can be written: a torn text only where no comment is marked. -/
def Fits (w : Writer String) (text : String) : Prop :=
  w.inComment = true → torn text.toList = false

/-- The writer knows when the lexer stands in a line comment, and the text hides its ink if it
fits. -/
def Told (w : Writer String) (text : String) : Prop :=
  ∃ mode marks, Scans .code w.sink.toList marks mode ∧ (w.inComment = true → mode = .line) ∧
    (Fits w text → ∃ mode', Hides mode text.toList mode')

/-- The text that a step writes as it is. -/
def asItIs : Step → Option String
  | .write (.verbatim text) => some text
  | _ => none

/-- All texts that a script writes as they are fit. -/
def AllFit (layout : Layout) : Script → Writer String → Prop
  | [], _ => True
  | step :: rest, w =>
    (∀ text ∈ asItIs step, Fits w text) ∧ AllFit layout rest (Script.effect layout [step] w)

instance (w : Writer String) : DecidablePred (Fits w) := fun _ ↦ inferInstanceAs (Decidable (_ → _))

instance decidableAllFit (layout : Layout) :
    (s : Script) → (w : Writer String) → Decidable (AllFit layout s w)
  | [], _ => .isTrue trivial
  | _ :: rest, _ => @instDecidableAnd _ _ inferInstance (decidableAllFit layout rest _)

/-- From every footing that `pre` allows a script leads to one that `post` allows, if all texts that
it writes as they are fit.  Up to the first that does not fit, the writer knows the lexer. -/
def Keeps (layout : Layout) (pre : Mode → Writer String → Prop) (s : Script)
    (post : Mode → Writer String → Prop) : Prop :=
  ∀ w, Footed pre w → (AllFit layout s w → Footed post (s.effect layout w)) ∧
    ∀ (before : Script) (text : String) (after : Script), s = before ++ .verbatim text :: after →
      AllFit layout before w → Told (before.effect layout w) text

/-- A step of two scripts in a row is a step of the first or of the second. -/
theorem append_eq_append_cons {a b before after : Script} {step : Step}
    (h : a ++ b = before ++ step :: after) :
    (∃ more, a = before ++ step :: more) ∨
      ∃ more, before = a ++ more ∧ b = more ++ step :: after := by
  rcases List.append_eq_append_iff.mp h with ⟨more, hbefore, hb⟩ | ⟨more, ha, hafter⟩
  · exact .inr ⟨more, hbefore, hb⟩
  · cases more with
    | nil =>
      rw [List.append_nil] at ha
      exact .inr ⟨[], by rw [ha, List.append_nil], hafter.symm⟩
    | cons first more =>
      obtain ⟨rfl, _⟩ := List.cons.inj hafter
      exact .inl ⟨more, ha⟩

section Footings

variable {layout : Layout} {pre mid post : Mode → Writer String → Prop} {s t : Script}

theorem allFit_append (w : Writer String) :
    AllFit layout (s ++ t) w ↔ AllFit layout s w ∧ AllFit layout t (s.effect layout w) := by
  induction s generalizing w with
  | nil => exact (and_iff_right trivial).symm
  | cons step rest ih =>
    rw [List.cons_append, AllFit, AllFit, ih, and_assoc]
    rfl

namespace Keeps

theorem nil : Keeps layout pre [] pre := by
  refine fun w hw ↦ ⟨fun _ ↦ hw, fun before text after h ↦ ?_⟩
  exact absurd h.symm (List.append_ne_nil_of_right_ne_nil _ (List.cons_ne_nil _ _))

theorem append (hs : Keeps layout pre s mid) (ht : Keeps layout mid t post) :
    Keeps layout pre (s ++ t) post := by
  intro w hw
  obtain ⟨hmid, hspans⟩ := hs w hw
  refine ⟨fun hfit ↦ ?_, fun before text after h hfit ↦ ?_⟩
  · obtain ⟨hfitFirst, hfitSecond⟩ := (allFit_append w).mp hfit
    rw [Script.effect_append]
    exact (ht _ (hmid hfitFirst)).1 hfitSecond
  · rcases append_eq_append_cons h with ⟨more, rfl⟩ | ⟨more, rfl, hmore⟩
    · exact hspans before text more rfl hfit
    · obtain ⟨hfitFirst, hfitSecond⟩ := (allFit_append w).mp hfit
      rw [Script.effect_append]
      exact (ht _ (hmid hfitFirst)).2 more text after hmore hfitSecond

theorem cons {step : Step} (hs : Keeps layout pre [step] mid) (ht : Keeps layout mid t post) :
    Keeps layout pre (step :: t) post :=
  append hs ht

/-- What is told of a script that writes nothing as it is. -/
theorem of_lays {pieces : List Piece} (h : Lays layout pre s pieces post)
    (hs : s.filterMap asItIs = []) : Keeps layout pre s post := by
  rintro w ⟨mode, marks, hscan, hw⟩
  refine ⟨fun _ ↦ ?_, fun before text after hbefore _ ↦ ?_⟩
  · obtain ⟨mode', ⟨placed, hsink, _, marks', hplaced, _⟩, hpost⟩ := h mode w hw
    refine ⟨mode', marks ++ marks', ?_, hpost⟩
    rw [hsink]
    exact hscan.append hplaced
  · have hmem : .verbatim text ∈ s := hbefore ▸ List.mem_append_right _ (List.mem_cons_self ..)
    exact absurd (List.filterMap_eq_nil_iff.mp hs _ hmem) (Option.some_ne_none text)

theorem note (event : Event) (h : Keeps layout pre s post) :
    Keeps layout pre (.note event :: s) post :=
  (of_lays (Lays.nil.note event) rfl).cons h

/-- A script made member by member keeps a footing if every member does. -/
theorem flatMap {α : Type} {footing : Mode → Writer String → Prop} {xs : List α}
    {part : α → Script}
    (h : ∀ x ∈ xs, (part x).failure = none → Keeps layout footing (part x) footing)
    (hfailure : Script.failure (xs.flatMap part) = none) :
    Keeps layout footing (xs.flatMap part) footing := by
  induction xs with
  | nil => exact nil
  | cons x rest ih =>
    rw [List.flatMap_cons, Script.failure_append_eq_none] at hfailure
    have hrest := ih (fun y hy ↦ h y (List.mem_cons_of_mem _ hy)) hfailure.2
    exact (h x (List.mem_cons_self ..) hfailure.1).append hrest

/-- A text that is written as it is. -/
theorem verbatim {text : String}
    (h : ∀ mode w, pre mode w → (w.inComment = true → mode = .line) ∧
      (Fits w text → ∃ mode', Hides mode text.toList mode' ∧ post mode' (w.after text))) :
    Keeps layout pre [.verbatim text] post := by
  rintro w ⟨mode, marks, hscan, hw⟩
  obtain ⟨hline, hfits⟩ := h mode w hw
  refine ⟨fun hfit ↦ ?_, fun before other after hbefore _ ↦ ?_⟩
  · obtain ⟨mode', ⟨marks', hscan', _⟩, hpost⟩ := hfits (hfit.1 text rfl)
    refine ⟨mode', marks ++ marks', ?_, ?_⟩
    · rw [effect_verbatim, Writer.after_sink]
      exact hscan.append hscan'
    · rwa [effect_verbatim]
  · cases before with
    | nil =>
      obtain ⟨hstep, _⟩ := List.cons.inj hbefore
      obtain rfl : text = other := by simpa [Step.verbatim] using hstep
      refine ⟨mode, marks, hscan, hline, fun hfit ↦ ?_⟩
      obtain ⟨mode', hhides, _⟩ := hfits hfit
      exact ⟨mode', hhides⟩
    | cons first before =>
      have hnil := (List.cons.inj hbefore).2
      exact absurd hnil.symm (List.append_ne_nil_of_right_ne_nil _ (List.cons_ne_nil _ _))

end Keeps

/-! ## Annotations -/

variable (layout)

/-- Annotations from any footing: they go on with a line comment, or settle. -/
theorem exists_hides {closed : Bool} {text : List Char} (h : Annotated closed text) {mode : Mode}
    (hmode : mode ≠ .block) (huntorn : mode = .line → torn text = false) :
    ∃ mode', Hides mode text mode' ∧
      ((mode = .line ∧ mode' = .line ∧ text.any isBreak = false) ∨
        (mode = .code ∨ text.any isBreak = true) ∧ Commentary.Settles closed text mode') := by
  cases mode with
  | code =>
    obtain ⟨mode', hhides, hsettles⟩ := h.hides_code
    exact ⟨mode', hhides, .inr ⟨.inl rfl, hsettles⟩⟩
  | line =>
    cases hbreak : text.any isBreak with
    | false =>
      have hunbroken := any_isBreak_eq_false.mp hbreak
      exact ⟨.line, Hides.of_true (Scans.line_of_forall hunbroken), .inl ⟨rfl, rfl, rfl⟩⟩
    | true =>
      obtain ⟨mode', hhides, hsettles⟩ := h.hides_line hbreak (huntorn rfl)
      exact ⟨mode', hhides, .inr ⟨.inr rfl, hsettles⟩⟩
  | block => exact absurd rfl hmode

/-- Behind code, or behind a comment that is marked, the writer knows the lexer. -/
theorem Ready.inComment_iff {marked : Bool} {mode : Mode} {w : Writer String}
    (h : Ready marked mode w) : w.inComment = true ↔ mode = .line := by
  cases mode with
  | code =>
    have hcode : w.inComment = false := h
    simp [hcode]
  | line => exact iff_of_true h.2.1 rfl
  | block => exact h.elim

theorem Loose.eq_line_of_inComment {mode : Mode} {w : Writer String} (h : Loose mode w)
    (hcomment : w.inComment = true) : mode = .line := by
  cases mode with
  | code => exact absurd (h.symm.trans hcomment) Bool.false_ne_true
  | line => rfl
  | block => exact h.elim

/-- Closed annotations change nothing about how code goes on. -/
theorem keeps_closed {text : String} (h : Annotated true text.toList) :
    Keeps layout (Ready true) [.verbatim text] (Ready true) := by
  refine .verbatim fun mode w hready ↦ ⟨hready.inComment_iff.mp, fun hfit ↦ ?_⟩
  obtain ⟨mode', hhides, hmode'⟩ := exists_hides h hready.loose.ne_block
    fun hline ↦ hfit (hready.inComment_iff.mpr hline)
  refine ⟨mode', hhides, ?_⟩
  rcases hmode' with ⟨rfl, rfl, hbreak⟩ | ⟨hbreak, rfl | ⟨hclosed, _⟩⟩
  · refine ⟨atLineStart_after hready.1 hbreak, ?_, rfl⟩
    rw [Writer.after_inComment, hready.2.1, hbreak]
    rfl
  · apply inComment_after _ hbreak
    rintro rfl
    exact hready
  · cases hclosed

/-- Annotations may end in a line comment. -/
theorem keeps_trailing {closed : Bool} {text : String} (h : Annotated closed text.toList) :
    Keeps layout (Ready true) [.verbatim text] Loose := by
  refine .verbatim fun mode w hready ↦ ⟨hready.inComment_iff.mp, fun hfit ↦ ?_⟩
  obtain ⟨mode', hhides, hmode'⟩ := exists_hides h hready.loose.ne_block
    fun hline ↦ hfit (hready.inComment_iff.mpr hline)
  refine ⟨mode', hhides, ?_⟩
  rcases hmode' with ⟨rfl, rfl, hbreak⟩ | ⟨hbreak, rfl | ⟨_, rfl, c, hlast, hc⟩⟩
  · exact atLineStart_after hready.1 hbreak
  · apply inComment_after _ hbreak
    rintro rfl
    exact hready
  · change (w.after text).atLineStart = false
    rw [Writer.after_atLineStart, hlast]
    exact hc

/-- A break at the start ends every line comment before it can tear anything. -/
theorem torn_cons {c : Char} (hc : isBreak c = true) (rest : List Char) :
    torn (c :: rest) = false := by
  have hslash : c ≠ '/' := by
    rintro rfl
    exact absurd hc (by decide)
  have hscan : scan .code (c :: rest) = false :: scan .code rest :=
    scan_code_cons fun d _ ↦ by simp [opens, hslash]
  exact @torn_eq [] rest c [] (scan .code rest) false hscan rfl (List.forall_mem_nil _) hc

theorem keeps_leading {leading : Trivia} (h : Annotated true leading.text.toList) (scope : Scope) :
    Keeps layout Loose (beginStatement leading scope) (Ready true) := by
  unfold beginStatement
  split
  next =>
    exact .of_lays (lays_openLine layout scope.depth).anyMarked rfl
  next =>
    split
    next hbreak =>
      obtain ⟨c, rest, htext, hc⟩ :
          ∃ c rest, leading.text.toList = c :: rest ∧ isBreak c = true := by
        cases htext : leading.text.toList with
        | nil => simp [htext] at hbreak
        | cons c rest => exact ⟨c, rest, rfl, by simpa [htext] using hbreak⟩
      have hany : leading.text.toList.any isBreak = true := by simp [htext, hc]
      refine .verbatim fun mode w hloose ↦ ⟨hloose.eq_line_of_inComment, fun _ ↦ ?_⟩
      obtain ⟨mode', hhides, ⟨_, _, hnone⟩ | ⟨_, rfl | ⟨hclosed, _⟩⟩⟩ :=
        exists_hides h hloose.ne_block fun _ ↦ by rw [htext, torn_cons hc]
      · exact absurd (hnone.symm.trans hany) Bool.false_ne_true
      · exact ⟨.code, hhides, @inComment_after _ .line w (fun hline ↦ by cases hline) (.inr hany)⟩
      · cases hclosed
    next =>
      have hend := Keeps.of_lays (lays_endLine layout).anyMarked rfl
      exact hend.cons (keeps_closed layout h)

end Footings

/-! ## Annotated statements and fields -/

/-- A token that opens no comment, between annotations. -/
structure AnnotatedToken (token : Token) : Prop where
  text : Plain token.text.toList
  leading : Annotated true token.leading.text.toList
  trailing : Annotated true token.trailing.text.toList

/-- The tokens of a compound assignment are free, since it becomes a comment. -/
def AnnotatedValue : Expression → Prop
  | .assignment left operator right =>
    AnnotatedValue left ∧ AnnotatedToken operator ∧ AnnotatedValue right
  | .compound left operator right =>
    Annotated true (Expression.compound left operator right).trailing.text.toList
  | .cast _ _ _ operand => AnnotatedValue operand
  | .verbatim token => AnnotatedToken token

def AnnotatedDeclarator (declared : Declarator) : Prop :=
  Plain declared.identifier.text.toList ∧ ∀ value ∈ declared.initializer, AnnotatedValue value

theorem AnnotatedValue.trailing {e : Expression} (h : AnnotatedValue e) :
    Annotated true e.trailing.text.toList := by
  induction e with
  | assignment left operator right _ ihRight => exact ihRight h.2.2
  | compound left operator right => exact h
  | cast opening type closing operand ih => exact ih h
  | verbatim token => exact (show AnnotatedToken token from h).trailing

section Lowerings

variable (layout : Layout)

theorem keeps_token {text : String} (h : Plain text.toList) :
    Keeps layout (Ready true) [.code text] (Ready true) :=
  .of_lays (@lays_token layout true text h).anyMarked rfl

theorem keeps_terminator : Keeps layout (Ready true) [.terminator] (Ready true) :=
  .of_lays (@lays_terminator layout true) rfl

/-- The text of a marked comment is read as part of it. -/
theorem keeps_remark_text {text : String} (h : ∀ c ∈ text.toList, isBreak c = false) :
    Keeps layout Remark [.verbatim text] Remark := by
  refine .verbatim fun mode w hremark ↦ ⟨fun _ ↦ hremark.1, fun _ ↦ ?_⟩
  obtain ⟨rfl, hstart⟩ := hremark
  exact ⟨.line, Hides.of_true (Scans.line_of_forall h), rfl,
    atLineStart_after hstart (any_isBreak_eq_false.mpr h)⟩

theorem keeps_markedComment (e : Expression) :
    Keeps layout (Ready true) (markedComment e) (Ready true) := by
  have htext := isBreak_singleLine e.text.toList
  rw [← String.toList_ofList (l := singleLine e.text.toList)] at htext
  have hmarker : Lays layout (Ready true) [.code unsupportedMarker] [comment unsupportedMarker]
      Remark :=
    @lays_remark layout true unsupportedMarker "not yet supported: ".toList (by decide)
      (any_isBreak_eq_false.mp (by decide))
  have hopening := Keeps.of_lays hmarker rfl
  have hmark := Keeps.of_lays (lays_markComment layout) rfl
  exact .note _ (hopening.cons ((keeps_remark_text layout htext).cons hmark))

theorem keeps_operandTrivia {operand : Expression} (h : AnnotatedValue operand) :
    Keeps layout (Ready true) (operandTrivia operand) (Ready true) := by
  unfold operandTrivia
  split
  · exact .nil
  · exact keeps_closed layout h.trailing

theorem keeps_operator {token : Token} (h : AnnotatedToken token) :
    Keeps layout (Ready true)
      [.verbatim token.leading.text, .code token.text, .verbatim token.trailing.text]
      (Ready true) :=
  (keeps_closed layout h.leading).cons
    ((keeps_token layout h.text).cons (keeps_closed layout h.trailing))

theorem keeps_lowerExpressionAt (level : Nat) {e : Expression} (h : AnnotatedValue e)
    (hfailure : (lowerExpressionAt level e).failure = none) :
    Keeps layout (Ready true) (lowerExpressionAt level e) (Ready true) := by
  have hlevel := level_le_of_failure_eq_none hfailure
  induction e generalizing level with
  | assignment left operator right ihLeft ihRight =>
    rw [lowerExpressionAt, if_neg hlevel] at hfailure ⊢
    simp only [Script.failure_append_eq_none] at hfailure
    obtain ⟨⟨⟨⟨hleft, _⟩, _⟩, hright⟩, _⟩ := hfailure
    have hleft := ihLeft _ h.1 hleft (level_le_of_failure_eq_none hleft)
    have hoperator := (hleft.append (keeps_operandTrivia layout h.1)).append
      (keeps_operator layout h.2.1)
    have hvalue := hoperator.append (ihRight _ h.2.2 hright (level_le_of_failure_eq_none hright))
    exact hvalue.append (keeps_operandTrivia layout h.2.2)
  | compound left operator right =>
    rw [lowerExpressionAt, if_neg hlevel]
    exact keeps_markedComment layout _
  | cast opening type closing operand ih =>
    rw [lowerExpressionAt, if_neg hlevel] at hfailure ⊢
    have hseparate := Keeps.of_lays (@lays_separate layout true) rfl
    exact hseparate.cons (ih _ h hfailure (level_le_of_failure_eq_none hfailure))
  | verbatim token =>
    rw [lowerExpressionAt, if_neg hlevel]
    exact keeps_token layout h.text

/-- An expression behind a fragment, with its semicolon. -/
theorem keeps_terminated {start : String} {e : Expression} (hstart : Plain start.toList)
    (h : AnnotatedValue e) (hfailure : (lowerExpression e).failure = none) :
    Keeps layout (Ready true) (.code start :: lowerExpression e ++ [.terminator]) (Ready true) :=
  ((keeps_token layout hstart).cons (keeps_lowerExpressionAt layout 0 h hfailure)).append
    (keeps_terminator layout)

theorem keeps_lowerReturn {value : Option Expression} (h : ∀ e ∈ value, AnnotatedValue e)
    (hfailure : (lowerReturn value).failure = none) :
    Keeps layout (Ready true) (lowerReturn value) (Ready true) := by
  cases value with
  | none => exact (keeps_token layout (by decide)).cons (keeps_terminator layout)
  | some e =>
    rw [lowerReturn, Script.failure_append_eq_none] at hfailure
    exact keeps_terminated layout (by decide) (h e rfl) hfailure.1

theorem keeps_lowerDeclarator {declared : Declarator} (h : AnnotatedDeclarator declared)
    (hfailure : (lowerDeclarator declared).failure = none) :
    Keeps layout (Ready true) (lowerDeclarator declared) (Ready true) := by
  have hname := tame_valueText h.1
  have hvalues := h.2
  unfold lowerDeclarator at *
  cases hinit : declared.initializer with
  | none =>
    have hne : "var " ++ declared.identifier.valueText ≠ "" := fun hempty ↦
      absurd (String.append_eq_empty_iff.mp hempty).1 (by decide)
    have hlays := @lays_code_terminator layout true _
      (plain_fragment (by decide) hname (by decide)) hne
    exact .of_lays hlays.anyMarked rfl
  | some value =>
    rw [hinit] at hfailure hvalues
    rw [Script.failure_append_eq_none] at hfailure
    exact keeps_terminated layout (plain_fragment (by decide) hname (by decide))
      (hvalues value rfl) hfailure.1

theorem keeps_lowerVariables {declared : Variables}
    (h : ∀ d ∈ declared.declarators, AnnotatedDeclarator d)
    (hfailure : (lowerVariables declared).failure = none) :
    Keeps layout (Ready true) (lowerVariables declared) (Ready true) := by
  have hkeeps : Keeps layout (Ready true) (declared.declarators.flatMap lowerDeclarator)
      (Ready true) :=
    .flatMap (fun d hd ↦ keeps_lowerDeclarator layout (h d hd)) hfailure
  exact hkeeps.note _

/-- A statement is begun, goes on from a footing in code, and ends in annotations. -/
theorem keeps_statement {leading trailing : Trivia} {s : Script} (scope : Scope)
    (hleading : Annotated true leading.text.toList) (hs : Keeps layout (Ready true) s (Ready true))
    (htrailing : Annotated false trailing.text.toList) :
    Keeps layout Loose (beginStatement leading scope ++ s ++ [.verbatim trailing.text]) Loose :=
  ((keeps_leading layout hleading scope).append hs).append (keeps_trailing layout htrailing)

/-- A return, a declaration, an expression statement or a field, made of annotated parts.  No other
statement has a value of its own. -/
def AnnotatedConstruct : Construct → Prop
  | .statement (.ret leading value trailing) =>
    Annotated true leading.text.toList ∧ (∀ e ∈ value, AnnotatedValue e) ∧
      Annotated false trailing.text.toList
  | .statement (.locals leading declared trailing) =>
    Annotated true leading.text.toList ∧ (∀ d ∈ declared.declarators, AnnotatedDeclarator d) ∧
      Annotated false trailing.text.toList
  | .statement (.expression leading value trailing) =>
    Annotated true leading.text.toList ∧ AnnotatedValue value ∧
      Annotated false trailing.text.toList
  | .statement _ => False
  | .field node =>
    Annotated true node.leading.text.toList ∧
      (∀ d ∈ node.declared.declarators, AnnotatedDeclarator d) ∧
      Annotated false node.trailing.text.toList

theorem keeps_script (scope : Scope) {c : Construct} (h : AnnotatedConstruct c)
    (hfailure : (c.script scope).failure = none) :
    Keeps layout Loose (c.script scope) Loose := by
  cases c with
  | field node =>
    obtain ⟨hleading, hdeclared, htrailing⟩ := h
    rw [Construct.script, lowerField] at hfailure ⊢
    obtain ⟨_, _, hclass, hrest⟩ := Script.whenOk_eq hfailure
    obtain ⟨inner, _, hscript, hinner⟩ := Script.whenOk_eq hrest
    simp only [Script.failure_append_eq_none] at hinner
    rw [hclass, hscript]
    exact keeps_statement layout inner hleading
      (keeps_lowerVariables layout hdeclared hinner.1.2) htrailing
  | statement node =>
    cases node with
    | ret leading value trailing =>
      obtain ⟨hleading, hvalue, htrailing⟩ := h
      rw [Construct.script, lowerStatement] at hfailure ⊢
      simp only [Script.failure_append_eq_none] at hfailure
      exact keeps_statement layout scope hleading
        (keeps_lowerReturn layout hvalue hfailure.1.2) htrailing
    | locals leading declared trailing =>
      obtain ⟨hleading, hdeclared, htrailing⟩ := h
      rw [Construct.script, lowerStatement] at hfailure ⊢
      simp only [Script.failure_append_eq_none] at hfailure
      exact keeps_statement layout scope hleading
        (keeps_lowerVariables layout hdeclared hfailure.1.2) htrailing
    | expression leading value trailing =>
      obtain ⟨hleading, hvalue, htrailing⟩ := h
      rw [Construct.script, lowerStatement] at hfailure ⊢
      simp only [Script.failure_append_eq_none] at hfailure
      have hvalue : Keeps layout (Ready true) (lowerExpression value) (Ready true) :=
        keeps_lowerExpressionAt layout 0 hvalue hfailure.1.2
      have hterminated := hvalue.append (keeps_terminator layout)
      have hkeeps := keeps_statement layout scope hleading hterminated htrailing
      simpa only [List.append_assoc, List.cons_append, List.nil_append] using hkeeps
    | ifThen leading condition body trailing => exact h.elim
    | ifElse leading condition body elseLeading elseBody trailing => exact h.elim
    | block leading statements trailing => exact h.elim
    | unsupported node => exact h.elim

end Lowerings

/-! ## Scripts as their lexer sees them -/

/-- The lexer of scripts: each of the four line terminators ends a line comment. -/
def scanScript : Mode → List Char → List Bool
  | _, [] => []
  | .code, '/' :: '/' :: rest => true :: true :: scanScript .line rest
  | .code, '/' :: '*' :: rest => true :: true :: scanScript .block rest
  | .code, _ :: rest => false :: scanScript .code rest
  | .line, c :: rest =>
    if isLineTerminator c then false :: scanScript .code rest else true :: scanScript .line rest
  | .block, '*' :: '/' :: rest => true :: true :: scanScript .code rest
  | .block, _ :: rest => true :: scanScript .block rest

/-- Without the two separators that only scripts know, both lexers see the same. -/
theorem scanScript_eq {mode : Mode} {text : List Char}
    (h : ∀ c ∈ text, isLineTerminator c = isBreak c) : scanScript mode text = scan mode text := by
  fun_induction scanScript mode text <;> simp_all [scan]

theorem length_scan (mode : Mode) (text : List Char) : (scan mode text).length = text.length := by
  fun_induction scan mode text <;> simp_all

/-- The ink of a text that stands behind `start` characters of a script is in comments. -/
def HiddenAt (script : List Char) (start : Nat) (text : List Char) : Prop :=
  List.Forall₂ (fun c inside ↦ isBlank c = true ∨ inside = true) text
    (((scanScript .code script).drop start).take text.length)

/-- Behind `start` characters a script is read as code, whatever they are. -/
def ReadAsCode (script : List Char) (start : Nat) : Prop :=
  (scanScript .code script).drop start = scanScript .code (script.drop start)

/-- What is hidden from one mode to another is hidden in every script that goes on from there. -/
theorem hiddenAt_of_hides {start text later : List Char} {marks : List Bool} {mode mode' : Mode}
    (hlines : ∀ c ∈ start ++ (text ++ later), isLineTerminator c = isBreak c)
    (hstart : Scans .code start marks mode) (htext : Hides mode text mode') :
    HiddenAt (start ++ (text ++ later)) start.length text := by
  obtain ⟨marks', hscan, hmarks⟩ := htext
  have hlength : start.length = marks.length := by rw [← hstart.scan_eq, length_scan]
  unfold HiddenAt
  rw [scanScript_eq hlines, hstart, hscan, hlength, List.drop_left, hmarks.length_eq,
    List.take_left]
  exact hmarks

/-- A break leads from a line comment to code, whatever comes behind it. -/
theorem readAsCode_of_break {start lead later : List Char} {c : Char} {marks : List Bool}
    (hlines : ∀ d ∈ start ++ lead ++ c :: later, isLineTerminator d = isBreak d)
    (hstart : Scans .code start marks .line) (hlead : ∀ d ∈ lead, isBreak d = false)
    (hc : isBreak c = true) :
    ReadAsCode (start ++ lead ++ c :: later) (start.length + lead.length + 1) := by
  have hscan := (hstart.append (Scans.line_of_forall hlead)).append (Scans.line_break hc)
  have hlength : start.length + lead.length + 1 = (start ++ lead ++ [c]).length := by
    simp [Nat.add_assoc]
  have hmarks := congrArg List.length hscan.scan_eq
  rw [length_scan] at hmarks
  have hlater : ∀ d ∈ later, isLineTerminator d = isBreak d := fun d hd ↦
    hlines d (List.mem_append_right _ (List.mem_cons_of_mem _ hd))
  unfold ReadAsCode
  rw [scanScript_eq hlines, List.append_cons, hscan later, hlength, List.drop_left, hmarks,
    List.drop_left, scanScript_eq hlater]

/-- The first ink of a text, with the blanks before it. -/
theorem exists_first_ink {text : List Char} {c : Char} (h : (inked text).head? = some c) :
    ∃ blanks tail, text = blanks ++ c :: tail ∧ (∀ d ∈ blanks, isBlank d = true) ∧
      isBlank c = false := by
  rw [inked, List.head?_filter] at h
  obtain ⟨hc, blanks, tail, htext, hblanks⟩ := List.find?_eq_some_iff_append.mp h
  exact ⟨blanks, tail, htext, fun d hd ↦ by simpa using hblanks d hd, by simpa using hc⟩

/-- Where a script is read as code, the first ink is outside of comments unless it can open one. -/
theorem not_hiddenAt_of_readAsCode {script lead rest later : List Char} {start : Nat} {c : Char}
    (hlines : ∀ d ∈ script, isLineTerminator d = isBreak d)
    (hsplit : script.drop start = lead ++ (rest ++ later))
    (h : ReadAsCode script (start + lead.length)) (hc : (inked rest).head? = some c)
    (hslash : c ≠ '/') : ¬ HiddenAt script start (lead ++ rest) := by
  obtain ⟨blanks, tail, rfl, hblanks, hink⟩ := exists_first_ink hc
  have hplain : Plain blanks := Plain.of_not_mem fun hmem ↦
    absurd (hblanks '/' hmem) (by decide)
  have hrest : script.drop (start + lead.length) = blanks ++ c :: (tail ++ later) := by
    rw [← List.drop_drop, hsplit, List.drop_left, List.append_assoc, List.cons_append]
  have hcode : scan .code (c :: (tail ++ later)) = false :: scan .code (tail ++ later) :=
    scan_code_cons fun d _ ↦ by simp [opens, hslash]
  have hmarks : ((scanScript .code script).drop start).drop (lead ++ blanks).length =
      false :: scan .code (tail ++ later) := by
    have hlater : ∀ d ∈ blanks ++ c :: (tail ++ later), isLineTerminator d = isBreak d :=
      fun d hd ↦ hlines d (List.mem_of_mem_drop (hrest ▸ hd))
    unfold ReadAsCode at h
    rw [List.drop_drop, List.length_append, ← Nat.add_assoc, ← List.drop_drop, h, hrest,
      scanScript_eq hlater, Scans.of_plain hplain, hcode]
    exact List.drop_left' (List.length_map _)
  intro hhidden
  have hfirst := List.forall₂_drop (lead ++ blanks).length hhidden
  have htext : (lead ++ (blanks ++ c :: tail)).drop (lead ++ blanks).length = c :: tail := by
    rw [← List.append_assoc, List.drop_left]
  have hlength : (lead ++ (blanks ++ c :: tail)).length - (lead ++ blanks).length =
      tail.length + 1 := by
    simp only [List.length_append, List.length_cons]
    omega
  rw [htext, List.drop_take, hmarks, hlength, List.take_succ_cons] at hfirst
  obtain ⟨hblank | hinside, _⟩ := List.forall₂_cons.mp hfirst
  · exact absurd (hink.symm.trans hblank) Bool.false_ne_true
  · cases hinside

end Comments

open Comments Lowering

/-- As long as all trivia fits, all its ink is in comments of the script.  The first that does not
fit is read as code behind its first line break, so the next ink is outside of comments, unless it
can open one. -/
theorem hiddenAt_span (layout : Layout) (scope : Scope) (c : Construct) (w : Writer String)
    (hc : AnnotatedConstruct c) (hw : Footed Loose w)
    (hok : ((c.script scope).run .unbounded layout w).1 = .ok ())
    (hlines : ∀ d ∈ ((c.script scope).run .unbounded layout w).2.sink.toList,
      Text.isLineTerminator d = Text.isBreak d) :
    ∀ (before : Script) (text : String) (after : Script),
      c.script scope = before ++ .verbatim text :: after → AllFit layout before w →
        let here := before.effect layout w
        let script := ((c.script scope).run .unbounded layout w).2.sink.toList
        let start := here.sink.toList.length
        let rest := behindBreak text.toList
        (Fits here text → HiddenAt script start text.toList) ∧
          (¬ Fits here text → ReadAsCode script (start + (text.toList.length - rest.length)) ∧
            ∀ d, (Text.inked rest).head? = some d → d ≠ '/' →
              ¬ HiddenAt script start text.toList) := by
  have hnone := Script.failure_eq_none_of_run hok
  rw [Script.run_eq_effect _ _ _ hnone] at hlines ⊢
  intro before text after hscript hfit here script start behind
  obtain ⟨mode, marks, hscan, hline, hhides⟩ :=
    (keeps_script layout scope hc hnone w hw).2 before text after hscript hfit
  obtain ⟨later, hlater⟩ : ∃ later, here.sink.toList ++ (text.toList ++ later) = script := by
    obtain ⟨later, hlater⟩ := isPrefix_effect layout after (here.after text)
    refine ⟨later, ?_⟩
    rw [← List.append_assoc, ← Writer.after_sink, hlater, ← effect_verbatim layout]
    simp only [script, here, hscript, ← Script.effect_append, List.append_assoc, List.cons_append,
      List.nil_append]
  have hscriptLines : ∀ d ∈ script, Text.isLineTerminator d = Text.isBreak d := hlines
  refine ⟨fun hfits ↦ ?_, fun hunfit ↦ ?_⟩
  · obtain ⟨mode', htext⟩ := hhides hfits
    rw [← hlater] at hscriptLines ⊢
    exact hiddenAt_of_hides hscriptLines hscan htext
  · obtain ⟨hmarked, huntorn⟩ := Classical.not_imp.mp hunfit
    have htorn : torn text.toList = true := Bool.not_eq_false _ ▸ huntorn
    obtain rfl := hline hmarked
    obtain ⟨lead, d, rest, htext, hlead, hd⟩ := exists_break (any_isBreak_of_torn htorn)
    have hsplit : script = here.sink.toList ++ lead ++ d :: (rest ++ later) := by
      rw [← hlater, htext]
      simp only [List.append_assoc, List.cons_append]
    have hbehind : behind = rest := by
      change behindBreak text.toList = rest
      rw [htext, behindBreak_append hlead hd]
    have hlength : start + (text.toList.length - rest.length) = start + lead.length + 1 := by
      rw [htext, List.length_append, List.length_cons]
      omega
    have hcode : ReadAsCode script (start + lead.length + 1) := by
      rw [hsplit] at hscriptLines ⊢
      exact readAsCode_of_break hscriptLines hscan hlead hd
    rw [hbehind, hlength]
    refine ⟨hcode, fun e he hslash ↦ ?_⟩
    have hdrop : script.drop start = lead ++ [d] ++ (rest ++ later) := by
      rw [hsplit, List.append_assoc, List.drop_left, List.append_cons]
    rw [htext, List.append_cons]
    refine not_hiddenAt_of_readAsCode hscriptLines hdrop ?_ he hslash
    rwa [List.length_append, List.length_singleton, ← Nat.add_assoc]

/-- A value behind a compound assignment, and trivia that fits and trivia that is torn. -/
def tornStatement : Construct :=
  .statement (.expression {}
    (.assign (.ofText "x") (.compound (.ofText "a") (.spaced "+=")
      (.verbatim { text := "b", trailing := { text := " /* one */" } })))
    { text := " /* two\n lines */" })

theorem annotated_tornStatement : AnnotatedConstruct tornStatement := by
  have hnil : Annotated true [] := .commentary .nil
  have hspace : Annotated true [' '] := .commentary (.blank (by decide) .nil)
  have hfits : Annotated true " /* one */".toList :=
    .commentary (.blank (by decide)
      (@Commentary.block true " one ".toList [] (Text.any_isBreak_eq_false.mp (by decide))
        (by decide) .nil))
  have htorn : Annotated false " /* two\n lines */".toList :=
    @Annotated.block false [' '] " two\n lines ".toList [] (.blank (by decide) .nil) (by decide)
      (.commentary .nil)
  exact ⟨hnil, ⟨⟨by decide, hnil, hnil⟩, ⟨by decide, hspace, hspace⟩, hfits⟩, htorn⟩

theorem lines_tornStatement :
    ∀ d ∈ ((tornStatement.script .root).run .unbounded {} .empty).2.sink.toList,
      Text.isLineTerminator d = Text.isBreak d := by
  have hall : ((tornStatement.script .root).run .unbounded {} .empty).2.sink.toList.all
      (fun d ↦ Text.isLineTerminator d == Text.isBreak d) = true := by
    decide +kernel
  simpa using hall

theorem hiddenAt_span_tornStatement :
    let script := ((tornStatement.script .root).run .unbounded {} .empty).2.sink.toList
    AnnotatedConstruct tornStatement ∧ Footed Loose .empty ∧
      ((tornStatement.script .root).run .unbounded {} .empty).1 = .ok () ∧
      (∀ d ∈ script, Text.isLineTerminator d = Text.isBreak d) ∧
      HiddenAt script 31 " /* one */".toList ∧
      ¬ HiddenAt script 42 " /* two\n lines */".toList := by
  intro script
  have hfooted : Footed Loose .empty := ⟨.code, [], Scans.nil .code, rfl⟩
  have hok : ((tornStatement.script .root).run .unbounded {} .empty).1 = .ok () := rfl
  have hlines : ∀ d ∈ script, Text.isLineTerminator d = Text.isBreak d := lines_tornStatement
  have hspans := hiddenAt_span {} .root tornStatement .empty annotated_tornStatement hfooted hok
    hlines
  let before (n : Nat) : Script := (tornStatement.script .root).take n
  have hfirst := hspans (before 10) " /* one */" ((tornStatement.script .root).drop 11) rfl
    (by decide +kernel)
  have hsecond := hspans (before 11 ++ [Step.terminator]) " /* two\n lines */" [] rfl
    (by decide +kernel)
  have hstart : ((before 10).effect {} .empty).sink.toList.length = 31 := by decide +kernel
  have hstop : ((before 11 ++ [Step.terminator]).effect {} .empty).sink.toList.length = 42 := by
    decide +kernel
  refine ⟨annotated_tornStatement, hfooted, hok, hlines, ?_, ?_⟩
  · rw [← hstart]
    exact hfirst.1 (by decide +kernel)
  · rw [← hstop]
    exact (hsecond.2 (by decide +kernel)).2 'l' (by decide) (by decide)

/-- Trivia behind a marker can turn into code. -/
theorem not_forall_hiddenAt_tornStatement :
    ¬ ∀ (layout : Layout) (scope : Scope) (c : Construct) (w : Writer String),
      AnnotatedConstruct c → Footed Loose w →
        ((c.script scope).run .unbounded layout w).1 = .ok () →
        (∀ d ∈ ((c.script scope).run .unbounded layout w).2.sink.toList,
          Text.isLineTerminator d = Text.isBreak d) →
        ∀ (before : Script) (text : String) (after : Script),
          c.script scope = before ++ .verbatim text :: after →
            HiddenAt ((c.script scope).run .unbounded layout w).2.sink.toList
              (before.effect layout w).sink.toList.length text.toList := by
  intro h
  have hhidden := h {} .root tornStatement .empty annotated_tornStatement
    ⟨.code, [], Scans.nil .code, rfl⟩ rfl lines_tornStatement
    ((tornStatement.script .root).take 11 ++ [Step.terminator]) " /* two\n lines */" [] rfl
  revert hhidden
  unfold HiddenAt
  decide +kernel

end CodeBehind
