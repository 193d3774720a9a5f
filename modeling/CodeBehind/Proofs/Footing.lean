import CodeBehind.Proofs.CommentLexer
import CodeBehind.Proofs.Meaning
import CodeBehind.Proofs.Placement

/-!
# Comments while a script is carried out

A script is read by the comment lexer while it is written.  The writer always stands in code, or on
a line that a comment takes up to its end; it may go on with code if the comment was marked.  From
this footing every instruction puts code outside of comments and ink of commentary inside, and
leaves a footing for what comes next.
-/

namespace CodeBehind

namespace Comments

open Text Meaning Lowering

/-! ## Placed characters -/

/-- The characters of a text, there for one reason. -/
def place (origin : Origin) (text : List Char) : List (Char × Origin) :=
  text.map (·, origin)

theorem map_fst_place (origin : Origin) (text : List Char) :
    (place origin text).map Prod.fst = text := by
  rw [place, List.map_map]
  exact List.map_id text

/-- The characters of the pieces, one after the other. -/
def expand (pieces : List Piece) : List (Char × Origin) :=
  pieces.flatMap fun piece ↦ place piece.origin piece.text.toList

@[simp]
theorem expand_append (a b : List Piece) : expand (a ++ b) = expand a ++ expand b :=
  List.flatMap_append ..

theorem expand_pair (origin : Origin) (a b : String) :
    expand [⟨origin, a⟩, ⟨origin, b⟩] = expand [⟨origin, a ++ b⟩] := by
  simp [expand, place]

theorem map_fst_expand (pieces : List Piece) : (expand pieces).map Prod.fst = spell pieces := by
  rw [expand, List.map_flatMap, spell]
  congr 1
  funext piece
  exact map_fst_place ..

/-- Code counts to the last blank, all else for its ink only. -/
def counts (placed : Char × Origin) : Bool :=
  placed.2 == .code || !isBlank placed.1

/-- Placed characters show pieces if all that counts of the pieces is there in order, and nothing
else that counts. -/
def Shows (pieces : List Piece) (placed : List (Char × Origin)) : Prop :=
  placed.filter counts = (expand pieces).filter counts

/-- Where characters may stand: code is outside of comments, the ink of commentary is inside, and
layout is blank. -/
def Allowed : Char × Origin → Bool → Prop
  | (_, .code), inside => inside = false
  | (c, .comment), inside => isBlank c = true ∨ inside = true
  | (_, .terminator), _ => True
  | (c, .layout), _ => isBlank c = true

/-- Placed characters lead from one mode to another, and all stand where they may. -/
def Reads (mode : Mode) (placed : List (Char × Origin)) (mode' : Mode) : Prop :=
  ∃ marks, Scans mode (placed.map Prod.fst) marks mode' ∧ List.Forall₂ Allowed placed marks

namespace Reads

variable {mode mode' mode'' : Mode}

theorem nil (mode : Mode) : Reads mode [] mode :=
  ⟨[], Scans.nil mode, .nil⟩

theorem append {a b : List (Char × Origin)} (ha : Reads mode a mode') (hb : Reads mode' b mode'') :
    Reads mode (a ++ b) mode'' := by
  obtain ⟨marks, hscan, hmarks⟩ := ha
  obtain ⟨marks', hscan', hmarks'⟩ := hb
  refine ⟨marks ++ marks', ?_, List.rel_append hmarks hmarks'⟩
  rw [List.map_append]
  exact hscan.append hscan'

theorem of_scans {origin : Origin} {text : List Char} {mark : Bool}
    (h : Scans mode text (text.map fun _ ↦ mark) mode')
    (hmark : ∀ c ∈ text, Allowed (c, origin) mark) :
    Reads mode (place origin text) mode' := by
  refine ⟨_, by rwa [map_fst_place], ?_⟩
  rw [place, List.forall₂_map_left_iff, List.forall₂_map_right_iff, List.forall₂_same]
  exact hmark

theorem of_hides {text : List Char} (h : Hides mode text mode') :
    Reads mode (place .comment text) mode' := by
  obtain ⟨marks, hscan, hmarks⟩ := h
  refine ⟨marks, by rwa [map_fst_place], ?_⟩
  rw [place, List.forall₂_map_left_iff]
  exact hmarks

theorem of_plain {text : List Char} (h : Plain text) : Reads .code (place .code text) .code :=
  of_scans (Scans.of_plain h) fun _ _ ↦ rfl

/-- Blanks keep the lexer in code. -/
theorem of_blanks {text : List Char} (h : ∀ c ∈ text, isBlank c = true) :
    Reads .code (place .layout text) .code := by
  have hslash : '/' ∉ text := by
    intro hmem
    exact Bool.false_ne_true (h '/' hmem)
  exact of_scans (Scans.of_plain (Plain.of_not_mem hslash)) h

end Reads

/-! ## Shown pieces -/

namespace Shows

theorem append {p q : List Piece} {a b : List (Char × Origin)} (ha : Shows p a) (hb : Shows q b) :
    Shows (p ++ q) (a ++ b) := by
  unfold Shows at *
  rw [List.filter_append, ha, hb, expand_append, List.filter_append]

theorem expand (pieces : List Piece) : Shows pieces (expand pieces) := rfl

theorem singleton (origin : Origin) (text : String) :
    Shows [⟨origin, text⟩] (place origin text.toList) := by
  unfold Shows
  rw [Comments.expand, List.flatMap_singleton]

theorem filter_place_layout {text : List Char} (h : ∀ c ∈ text, isBlank c = true) :
    (place .layout text).filter counts = [] := by
  apply List.filter_eq_nil_iff.mpr
  intro placed hmem
  obtain ⟨c, hc, rfl⟩ := List.mem_map.mp hmem
  simp [counts, h c hc]

theorem of_blanks {text : List Char} (h : ∀ c ∈ text, isBlank c = true) :
    Shows [] (place .layout text) :=
  filter_place_layout h

theorem filter_place_comment (text : List Char) :
    (place .comment text).filter counts = place .comment (inked text) := by
  rw [place, List.filter_map]
  rfl

/-- Only the ink of commentary counts. -/
theorem of_inked_eq {content : List Char} {text : String}
    (h : inked content = inked text.toList) : Shows [comment text] (place .comment content) := by
  unfold Shows
  rw [Comments.expand, List.flatMap_singleton, filter_place_comment, h]
  exact (filter_place_comment text.toList).symm

end Shows

/-! ## Footings -/

/-- One stretch of writing: it goes on from one mode to another and shows the pieces. -/
def Moves (mode : Mode) (w : Writer String) (pieces : List Piece) (mode' : Mode)
    (w' : Writer String) : Prop :=
  ∃ placed, w'.sink.toList = w.sink.toList ++ placed.map Prod.fst ∧ Shows pieces placed ∧
    Reads mode placed mode'

namespace Moves

variable {mode mode' mode'' : Mode} {w w' w'' : Writer String} {p q : List Piece}

theorem refl (mode : Mode) (w : Writer String) : Moves mode w [] mode w :=
  ⟨[], (List.append_nil _).symm, rfl, Reads.nil mode⟩

theorem trans (h : Moves mode w p mode' w') (h' : Moves mode' w' q mode'' w'') :
    Moves mode w (p ++ q) mode'' w'' := by
  obtain ⟨placed, hsink, hshows, hreads⟩ := h
  obtain ⟨placed', hsink', hshows', hreads'⟩ := h'
  refine ⟨placed ++ placed', ?_, hshows.append hshows', hreads.append hreads'⟩
  rw [hsink', hsink, List.map_append, List.append_assoc]

theorem after {text : String} {placed : List (Char × Origin)}
    (htext : placed.map Prod.fst = text.toList) (hshows : Shows p placed)
    (hreads : Reads mode placed mode') : Moves mode w p mode' (w.after text) :=
  ⟨placed, by rw [Writer.after_sink, htext], hshows, hreads⟩

end Moves

/-- The writer stands in code, or on a line that a comment takes to its end. -/
def Loose : Mode → Writer String → Prop
  | .code, w => w.inComment = false
  | .line, w => w.atLineStart = false
  | .block, _ => False

/-- The writer stands in code, or behind a comment that is marked.  The latter is only possible if
`marked` says so. -/
def Ready (marked : Bool) : Mode → Writer String → Prop
  | .code, w => w.inComment = false
  | .line, w => w.atLineStart = false ∧ w.inComment = true ∧ marked = true
  | .block, _ => False

/-- The writer stands in a line comment. -/
def Remark (mode : Mode) (w : Writer String) : Prop :=
  mode = .line ∧ w.atLineStart = false

theorem Ready.loose {marked : Bool} {mode : Mode} {w : Writer String} (h : Ready marked mode w) :
    Loose mode w := by
  cases mode with
  | code => exact h
  | line => exact h.1
  | block => exact h

theorem Ready.weaken {mode : Mode} {w : Writer String} (h : Ready false mode w) (marked : Bool) :
    Ready marked mode w := by
  cases mode with
  | code => exact h
  | line => exact absurd h.2.2 Bool.false_ne_true
  | block => exact h

theorem Ready.anyMarked {marked : Bool} {mode : Mode} {w : Writer String}
    (h : Ready marked mode w) : Ready true mode w := by
  cases mode with
  | code => exact h
  | line => exact ⟨h.1, h.2.1, rfl⟩
  | block => exact h

theorem Remark.loose {mode : Mode} {w : Writer String} (h : Remark mode w) : Loose mode w := by
  rw [h.1]
  exact h.2

/-- From every footing that `pre` allows a script shows the pieces, and leaves a footing that `post`
allows. -/
def Lays (layout : Layout) (pre : Mode → Writer String → Prop) (s : Script) (pieces : List Piece)
    (post : Mode → Writer String → Prop) : Prop :=
  ∀ mode w, pre mode w → ∃ mode', Moves mode w pieces mode' (s.effect layout w) ∧
    post mode' (s.effect layout w)

namespace Lays

variable {layout : Layout} {pre mid post : Mode → Writer String → Prop} {s t : Script}
  {p q : List Piece}

theorem nil : Lays layout pre [] [] pre :=
  fun mode w h ↦ ⟨mode, Moves.refl mode w, h⟩

theorem append (hs : Lays layout pre s p mid) (ht : Lays layout mid t q post) :
    Lays layout pre (s ++ t) (p ++ q) post := by
  intro mode w h
  obtain ⟨mode', hmoves, hmid⟩ := hs mode w h
  obtain ⟨mode'', hmoves', hpost⟩ := ht mode' _ hmid
  rw [Script.effect_append]
  exact ⟨mode'', hmoves.trans hmoves', hpost⟩

theorem cons {step : Step} (hs : Lays layout pre [step] p mid) (ht : Lays layout mid t q post) :
    Lays layout pre (step :: t) (p ++ q) post :=
  append hs ht

theorem mono {pre' post' : Mode → Writer String → Prop} (h : Lays layout pre s p post)
    (hpre : ∀ mode w, pre' mode w → pre mode w) (hpost : ∀ mode w, post mode w → post' mode w) :
    Lays layout pre' s p post' := by
  intro mode w hw
  obtain ⟨mode', hmoves, hmode'⟩ := h mode w (hpre mode w hw)
  exact ⟨mode', hmoves, hpost _ _ hmode'⟩

/-- A footing to go on with code from is a footing. -/
theorem loosen {marked : Bool} (h : Lays layout pre s p (Ready marked)) :
    Lays layout pre s p Loose :=
  h.mono (fun _ _ hpre ↦ hpre) fun _ _ hpost ↦ hpost.loose

theorem anyMarked {marked : Bool} (h : Lays layout pre s p (Ready marked)) :
    Lays layout pre s p (Ready true) :=
  h.mono (fun _ _ hpre ↦ hpre) fun _ _ hpost ↦ hpost.anyMarked

theorem within {event : Event} (h : Lays layout pre s p post) :
    Lays layout pre (Script.within event s) p post := by
  intro mode w hw
  rw [Script.effect_within]
  exact h mode w hw

theorem note (event : Event) (h : Lays layout pre s p post) :
    Lays layout pre (.note event :: s) p post :=
  h

/-- A script made member by member keeps a footing if every member does. -/
theorem flatMap {α : Type} {footing : Mode → Writer String → Prop} {xs : List α}
    {part : α → Script} {pieces : α → List Piece}
    (h : ∀ x ∈ xs, (part x).failure = none → Lays layout footing (part x) (pieces x) footing)
    (hfailure : Script.failure (xs.flatMap part) = none) :
    Lays layout footing (xs.flatMap part) (xs.flatMap pieces) footing := by
  induction xs with
  | nil => exact nil
  | cons x rest ih =>
    rw [List.flatMap_cons, Script.failure_append_eq_none] at hfailure
    have hrest := ih (fun y hy ↦ h y (List.mem_cons_of_mem _ hy)) hfailure.2
    exact (h x (List.mem_cons_self ..) hfailure.1).append hrest

theorem of_expand_eq (h : Lays layout pre s p post) (hpieces : expand p = expand q) :
    Lays layout pre s q post := by
  intro mode w hw
  obtain ⟨mode', ⟨placed, hsink, hshows, hreads⟩, hpost⟩ := h mode w hw
  refine ⟨mode', ⟨placed, hsink, ?_, hreads⟩, hpost⟩
  unfold Shows at *
  rw [hshows, hpieces]

end Lays

/-! ## Line breaks and layout -/

section Instructions

variable (layout : Layout)

theorem any_isBreak_lineBreak (kind : LineBreak) : kind.text.toList.any isBreak = true := by
  cases kind <;> decide

theorem reads_lineBreak (kind : LineBreak) {mode : Mode} (h : mode ≠ .block) :
    Reads mode (place .layout kind.text.toList) .code := by
  have hblank := isBlank_lineBreak kind
  cases mode with
  | code => exact Reads.of_blanks hblank
  | line =>
    have hbreak {c : Char} (hc : isBreak c = true) : Reads .line (place .layout [c]) .code := by
      refine Reads.of_scans (Scans.line_break hc) ?_
      intro d hd
      rw [List.mem_singleton.mp hd]
      exact isBlank_of_isBreak hc
    cases kind with
    | lf => exact hbreak (by decide : isBreak '\n' = true)
    | crlf =>
      have hfeed : Reads .code (place .layout ['\n']) .code :=
        Reads.of_blanks (List.all_eq_true.mp (by decide))
      exact (hbreak (by decide : isBreak '\r' = true)).append hfeed
  | block => exact absurd rfl h

theorem Loose.ne_block {mode : Mode} {w : Writer String} (h : Loose mode w) : mode ≠ .block := by
  rintro rfl
  exact h

/-- A line break leads back to code. -/
theorem moves_lineBreak {mode : Mode} {w : Writer String} (h : Loose mode w) :
    Moves mode w [] .code (w.after layout.lineBreak.text) ∧
      Ready false .code (w.after layout.lineBreak.text) := by
  constructor
  · exact Moves.after (map_fst_place ..) (Shows.of_blanks (isBlank_lineBreak _))
      (reads_lineBreak _ h.ne_block)
  · change (w.after layout.lineBreak.text).inComment = false
    rw [Writer.after_inComment, any_isBreak_lineBreak, Bool.not_true, Bool.and_false]

theorem lays_breakLine : Lays layout Loose [.breakLine] [] (Ready false) := by
  intro mode w h
  have heffect : Script.effect layout [.breakLine] w = w.after layout.lineBreak.text := by
    change (w.put .unbounded layout.lineBreak.text).2 = _
    rw [Writer.put_unbounded]
  rw [heffect]
  exact ⟨.code, moves_lineBreak layout h⟩

theorem lays_endLine : Lays layout Loose [.endLine] [] (Ready false) := by
  intro mode w h
  have heffect : Script.effect layout [.endLine] w =
      if w.atLineStart then w else w.after layout.lineBreak.text := by
    change (w.endLine .unbounded layout).2 = _
    rw [Writer.endLine_unbounded]
  rw [heffect]
  split
  next hstart =>
    cases mode with
    | code => exact ⟨.code, Moves.refl .code w, h⟩
    | line =>
      have hline : w.atLineStart = false := h
      rw [hstart] at hline
      cases hline
    | block => exact h.elim
  next => exact ⟨.code, moves_lineBreak layout h⟩

theorem lays_blankLine : Lays layout Loose [.blankLine] [] (Ready false) := by
  have heffect (w : Writer String) : Script.effect layout [.blankLine] w =
      Script.effect layout [.endLine, .breakLine] w := by
    change (Writer.andThen (w.endLine .unbounded layout) _).2 =
      ((w.endLine .unbounded layout).2.breakLine .unbounded layout).2
    rw [Writer.endLine_unbounded]
    rfl
  intro mode w h
  rw [heffect]
  exact ((lays_endLine layout).loosen.append (lays_breakLine layout)) mode w h

theorem effect_verbatim (text : String) (w : Writer String) :
    Script.effect layout [.verbatim text] w = w.after text := by
  change (w.put .unbounded text).2 = _
  rw [Writer.put_unbounded]

theorem lays_blanks {text : String} (h : ∀ c ∈ text.toList, isBlank c = true) :
    Lays layout (Ready false) [.verbatim text] [] (Ready false) := by
  intro mode w hready
  rw [effect_verbatim]
  cases mode with
  | code =>
    have hcomment : w.inComment = false := hready
    refine ⟨.code, Moves.after (map_fst_place ..) (Shows.of_blanks h) (Reads.of_blanks h), ?_⟩
    change (w.after text).inComment = false
    rw [Writer.after_inComment, hcomment, Bool.false_and]
  | line => exact absurd hready.2.2 Bool.false_ne_true
  | block => exact hready.elim

theorem lays_openLine (depth : Nat) : Lays layout Loose [.openLine depth] [] (Ready false) := by
  have heffect (w : Writer String) : Script.effect layout [.openLine depth] w =
      Script.effect layout [.endLine, .verbatim (layout.indent.text depth)] w := by
    change (Writer.andThen (w.endLine .unbounded layout) _).2 =
      ((w.endLine .unbounded layout).2.put .unbounded (layout.indent.text depth)).2
    rw [Writer.endLine_unbounded]
    rfl
  intro mode w h
  rw [heffect]
  exact (lays_endLine layout).append (lays_blanks layout (isBlank_indent _ depth)) mode w h

/-! ## Code -/

theorem isEmpty_eq_false {text : String} (h : text ≠ "") : text.isEmpty = false := by
  rw [← Bool.not_eq_true, String.isEmpty_iff]
  exact h

theorem effect_code (text : String) (w : Writer String) :
    Script.effect layout [.code text] w =
      if w.inComment && !text.isEmpty then (w.after layout.lineBreak.text).after text
      else w.after text := by
  change (w.code .unbounded layout text).2 = _
  rw [Writer.code_unbounded]

variable {marked : Bool} {text : String}

/-- Code is always read as such: a marked comment is ended before it. -/
theorem lays_code_of_reads {post : Mode → Writer String → Prop} {pieces : List Piece}
    {placed : List (Char × Origin)} {mode' : Mode} (hne : marked = true → text ≠ "")
    (htext : placed.map Prod.fst = text.toList) (hshows : Shows pieces placed)
    (hreads : Reads .code placed mode')
    (hpost : ∀ w : Writer String, w.inComment = false → post mode' (w.after text)) :
    Lays layout (Ready marked) [.code text] pieces post := by
  intro mode w hready
  rw [effect_code]
  have hafter (w : Writer String) : Moves .code w pieces mode' (w.after text) :=
    Moves.after htext hshows hreads
  cases mode with
  | code =>
    have hcomment : w.inComment = false := hready
    rw [hcomment, Bool.false_and, if_neg Bool.false_ne_true]
    exact ⟨mode', hafter w, hpost w hcomment⟩
  | line =>
    obtain ⟨hmoves, hcode⟩ := moves_lineBreak layout hready.loose
    rw [hready.2.1, isEmpty_eq_false (hne hready.2.2), Bool.not_false, Bool.and_true, if_pos rfl]
    exact ⟨mode', hmoves.trans (hafter _), hpost _ hcode⟩
  | block => exact hready.elim

theorem ready_after {w : Writer String} (h : w.inComment = false) (text : String) (marked : Bool) :
    Ready marked .code (w.after text) := by
  change (w.after text).inComment = false
  rw [Writer.after_inComment, h, Bool.false_and]

theorem lays_code (h : Plain text.toList) (hne : text ≠ "") :
    Lays layout (Ready marked) [.code text] [code text] (Ready false) :=
  lays_code_of_reads layout (fun _ ↦ hne) (map_fst_place ..) (Shows.singleton .code text)
    (Reads.of_plain h) fun _ hw ↦ ready_after hw text false

/-- A semicolon behind code that is no marker. -/
theorem lays_code_terminator (h : Plain (text ++ ";").toList) (hne : text ≠ "") :
    Lays layout (Ready marked) [.code text, .terminator] [code (text ++ ";")] (Ready false) := by
  have hends : text ++ ";" ≠ "" := by
    intro hempty
    exact hne (String.append_eq_empty_iff.mp hempty).1
  have heffect (w : Writer String) : Script.effect layout [.code text, .terminator] w =
      Script.effect layout [.code (text ++ ";")] w := by
    change ((Script.effect layout [.code text] w).put .unbounded ";").2 = _
    rw [Writer.put_unbounded, effect_code, effect_code, isEmpty_eq_false hne, isEmpty_eq_false hends,
      Writer.after_append, Writer.after_append]
    split <;> rfl
  intro mode w hready
  rw [heffect]
  exact lays_code layout h hends mode w hready

/-- The text of a token may be empty, and then a marked comment goes on. -/
theorem lays_token (h : Plain text.toList) :
    Lays layout (Ready marked) [.code text] [code text] (Ready (marked && text.isEmpty)) := by
  by_cases hne : text = ""
  · intro mode w hready
    have heffect : Script.effect layout [.code text] w = w := by
      rw [effect_code, hne]
      simp [Writer.after]
    rw [heffect, hne]
    refine ⟨mode, ⟨[], (List.append_nil _).symm, rfl, Reads.nil mode⟩, ?_⟩
    rwa [show "".isEmpty = true from rfl, Bool.and_true]
  · exact (lays_code layout h hne).mono (fun _ _ h ↦ h) fun _ _ h ↦ h.weaken _

theorem lays_fragment (h : Plain text.toList) :
    Lays layout (Ready false) [.code text] [code text] (Ready false) :=
  lays_token layout h

/-- Code that is a line comment. -/
theorem lays_remark {body : List Char} (htext : text.toList = '/' :: '/' :: body)
    (hbody : ∀ c ∈ body, isBreak c = false) :
    Lays layout (Ready marked) [.code text] [comment text] Remark := by
  have hhides : Hides .code text.toList .line := by
    rw [htext]
    exact Hides.of_true (Scans.openLine.append (Scans.line_of_forall hbody))
  have hne : text ≠ "" := by
    rintro rfl
    cases htext
  refine lays_code_of_reads layout (fun _ ↦ hne) (map_fst_place ..)
    (Shows.singleton .comment text) (Reads.of_hides hhides) ?_
  intro w _
  refine ⟨rfl, ?_⟩
  rw [Writer.after_atLineStart, htext,
    List.getLast?_eq_getLast_of_ne_nil (List.cons_ne_nil '/' ('/' :: body)), Option.elim_some]
  exact Commentary.isBreak_line hbody _ (List.getLast_mem _)

theorem atLineStart_after {w : Writer String} (h : w.atLineStart = false)
    (htext : text.toList.any isBreak = false) : (w.after text).atLineStart = false := by
  rw [Writer.after_atLineStart]
  cases hlast : text.toList.getLast? with
  | none => exact h
  | some c => exact any_isBreak_eq_false.mp htext c (List.mem_of_getLast? hlast)

/-- A text without breaks stays in a line comment. -/
theorem lays_remark_text {content : String} (h : ∀ c ∈ content.toList, isBreak c = false)
    (hink : inked content.toList = inked text.toList) :
    Lays layout Remark [.verbatim content] [comment text] Remark := by
  rintro mode w ⟨rfl, hstart⟩
  rw [effect_verbatim]
  have hhides := Hides.of_true (Scans.line_of_forall h)
  refine ⟨.line, Moves.after (map_fst_place ..) (Shows.of_inked_eq hink) (Reads.of_hides hhides),
    rfl, atLineStart_after hstart (any_isBreak_eq_false.mpr h)⟩

/-- A marked comment is one that code can end. -/
theorem lays_markComment : Lays layout Remark [.markComment] [] (Ready true) := by
  rintro mode w ⟨rfl, hstart⟩
  exact ⟨.line, Moves.refl .line w, hstart, rfl, rfl⟩

theorem lays_separate : Lays layout (Ready marked) [.separate] [] (Ready marked) := by
  have hblank : ∀ c ∈ " ".toList, isBlank c = true := List.all_eq_true.mp (by decide)
  have hspace : Lays layout (Ready marked) [.code " "] [] (Ready marked) :=
    lays_code_of_reads layout (fun _ ↦ by decide) (map_fst_place ..) (Shows.of_blanks hblank)
      (Reads.of_blanks hblank) fun _ hw ↦ ready_after hw " " marked
  intro mode w hready
  have heffect : Script.effect layout [.separate] w =
      if w.endsWithSeparator then w else Script.effect layout [.code " "] w := by
    change (if w.endsWithSeparator then (true, w) else w.code .unbounded layout " ").2 = _
    split <;> rfl
  rw [heffect]
  split
  · exact ⟨mode, Moves.refl mode w, hready⟩
  · exact hspace mode w hready

/-- A semicolon goes into a marked comment, and is code otherwise. -/
theorem lays_terminator :
    Lays layout (Ready marked) [.terminator] [⟨if marked then .terminator else .code, ";"⟩]
      (Ready marked) := by
  intro mode w hready
  have heffect : Script.effect layout [.terminator] w = w.after ";" := by
    change (w.put .unbounded ";").2 = _
    rw [Writer.put_unbounded]
  rw [heffect]
  have hshows := Shows.singleton (if marked then .terminator else .code) ";"
  cases mode with
  | code =>
    have hreads : Reads .code (place (if marked then .terminator else .code) ";".toList) .code := by
      refine Reads.of_scans (Scans.of_plain (by decide)) ?_
      intro c _
      cases marked
      · exact rfl
      · exact trivial
    exact ⟨.code, Moves.after (map_fst_place ..) hshows hreads, ready_after hready ";" marked⟩
  | line =>
    obtain ⟨hstart, hcomment, rfl⟩ := hready
    have hreads : Reads .line (place .terminator ";".toList) .line :=
      Reads.of_scans (Scans.line_of_forall (any_isBreak_eq_false.mp (by decide)))
        fun _ _ ↦ trivial
    refine ⟨.line, Moves.after (map_fst_place ..) hshows hreads, ?_, ?_, rfl⟩
    · exact atLineStart_after hstart (by decide)
    · rw [Writer.after_inComment, hcomment]
      decide
  | block => exact hready.elim

/-! ## Commentary -/

/-- Commentary from any footing: it goes on with a line comment, or settles. -/
theorem exists_moves_commentary {closed : Bool} {content text : String}
    (h : Commentary closed content.toList)
    (hink : inked content.toList = inked text.toList) {mode : Mode} (hmode : mode ≠ .block)
    (w : Writer String) :
    ∃ mode', Moves mode w [comment text] mode' (w.after content) ∧
      ((mode = .line ∧ mode' = .line ∧ content.toList.any isBreak = false) ∨
        (mode = .code ∨ content.toList.any isBreak = true) ∧
          Commentary.Settles closed content.toList mode') := by
  have hmoves {mode' : Mode} (hhides : Hides mode content.toList mode') :
      Moves mode w [comment text] mode' (w.after content) :=
    Moves.after (map_fst_place ..) (Shows.of_inked_eq hink) (Reads.of_hides hhides)
  cases mode with
  | code =>
    obtain ⟨mode', hhides, hsettles⟩ := h.hides_code
    exact ⟨mode', hmoves hhides, .inr ⟨.inl rfl, hsettles⟩⟩
  | line =>
    cases hbreak : content.toList.any isBreak with
    | false =>
      have hforall := any_isBreak_eq_false.mp hbreak
      exact ⟨.line, hmoves (Hides.of_true (Scans.line_of_forall hforall)), .inl ⟨rfl, rfl, rfl⟩⟩
    | true =>
      obtain ⟨mode', hhides, hsettles⟩ := h.hides_line hbreak
      exact ⟨mode', hmoves hhides, .inr ⟨.inr rfl, hsettles⟩⟩
  | block => exact absurd rfl hmode

theorem inComment_after {mode : Mode} {w : Writer String} (h : mode = .code → w.inComment = false)
    (hbreak : mode = .code ∨ text.toList.any isBreak = true) :
    (w.after text).inComment = false := by
  rw [Writer.after_inComment]
  rcases hbreak with hcode | hbreak
  · rw [h hcode, Bool.false_and]
  · rw [hbreak, Bool.not_true, Bool.and_false]

/-- Closed commentary changes nothing about how code goes on. -/
theorem lays_closed (h : Commentary true text.toList) :
    Lays layout (Ready marked) [.verbatim text] [comment text] (Ready marked) := by
  intro mode w hready
  rw [effect_verbatim]
  obtain ⟨mode', hmoves, hmode'⟩ := exists_moves_commentary h rfl hready.loose.ne_block w
  refine ⟨mode', hmoves, ?_⟩
  rcases hmode' with ⟨rfl, rfl, hbreak⟩ | ⟨hbreak, rfl | ⟨hclosed, _⟩⟩
  · refine ⟨atLineStart_after hready.1 hbreak, ?_, hready.2.2⟩
    rw [Writer.after_inComment, hready.2.1, hbreak]
    rfl
  · apply inComment_after _ hbreak
    rintro rfl
    exact hready
  · cases hclosed

/-- Closed commentary that starts with a break leads to code from everywhere. -/
theorem lays_closed_break (h : Commentary true text.toList)
    (hbreak : text.toList.any isBreak = true) :
    Lays layout Loose [.verbatim text] [comment text] (Ready false) := by
  intro mode w hloose
  rw [effect_verbatim]
  obtain ⟨mode', hmoves, hmode'⟩ := exists_moves_commentary h rfl hloose.ne_block w
  refine ⟨mode', hmoves, ?_⟩
  rcases hmode' with ⟨_, _, hnone⟩ | ⟨_, rfl | ⟨hclosed, _⟩⟩
  · rw [hbreak] at hnone
    cases hnone
  · change (w.after text).inComment = false
    rw [Writer.after_inComment, hbreak, Bool.not_true, Bool.and_false]
  · cases hclosed

/-- Commentary may end in a line comment.  What counts of it is its ink, here that of `text`. -/
theorem lays_commentary {closed : Bool} {content : String} (h : Commentary closed content.toList)
    (hink : inked content.toList = inked text.toList) :
    Lays layout Loose [.verbatim content] [comment text] Loose := by
  intro mode w hloose
  rw [effect_verbatim]
  obtain ⟨mode', hmoves, hmode'⟩ := exists_moves_commentary h hink hloose.ne_block w
  refine ⟨mode', hmoves, ?_⟩
  rcases hmode' with ⟨rfl, rfl, hbreak⟩ | ⟨hbreak, rfl | ⟨_, rfl, c, hlast, hc⟩⟩
  · exact atLineStart_after hloose hbreak
  · apply inComment_after _ hbreak
    rintro rfl
    exact hloose
  · change (w.after content).atLineStart = false
    rw [Writer.after_atLineStart, hlast]
    exact hc

/-! ## Placed trivia -/

theorem lays_beginStatement {leading : Source.Trivia} (scope : Scope)
    (h : Commentary true leading.text.toList) :
    Lays layout Loose (beginStatement leading scope) [comment leading.text] (Ready false) := by
  unfold beginStatement
  split
  next hempty =>
    rw [String.isEmpty_iff.mp hempty]
    exact lays_openLine layout scope.depth
  next =>
    split
    next hbreak =>
      apply lays_closed_break layout h
      cases htext : leading.text.toList with
      | nil =>
        rw [htext] at hbreak
        cases hbreak
      | cons c rest =>
        rw [htext] at hbreak
        rw [List.any_cons, show isBreak c = true from hbreak, Bool.true_or]
    next => exact (lays_endLine layout).append (@lays_closed layout false _ h)

theorem lays_breakLines (n : Nat) :
    Lays layout Loose (List.replicate n .breakLine) [] Loose := by
  induction n with
  | zero => exact Lays.nil
  | succ n ih =>
    exact (lays_breakLine layout).loosen.cons ih

theorem commentary_headerText {trivia : Source.Trivia} (h : Commentary false trivia.text.toList) :
    Commentary false (headerText trivia) := by
  obtain ⟨blanks, hblank, htext⟩ := trivia.exists_append_splitLeadingBreaks
  rw [htext] at h
  exact (h.of_blanks_append hblank).trimEnd

theorem lays_headerTrivia {trivia : Source.Trivia} (h : Commentary false trivia.text.toList) :
    Lays layout Loose (headerTrivia trivia) [comment trivia.text] Loose := by
  rcases headerTrivia_cases trivia with ⟨hnil, hempty⟩ | htext
  · have hshows : Shows [comment trivia.text] (place .comment []) := by
      apply Shows.of_inked_eq
      rw [← inked_headerText, hempty]
    rw [hnil]
    intro mode w hloose
    exact ⟨mode, ⟨[], (List.append_nil _).symm, hshows, Reads.nil mode⟩, hloose⟩
  · have hcontent := commentary_headerText h
    have hink := inked_headerText trivia
    rw [← String.toList_ofList (l := headerText trivia)] at hcontent hink
    rw [htext]
    exact ((lays_endLine layout).loosen.cons (lays_breakLines layout _)).append
      (lays_commentary layout hcontent hink)

theorem lays_innerTrivia {trivia : Source.Trivia} (h : Commentary false trivia.text.toList) :
    Lays layout Loose (innerTrivia trivia) (remarks trivia) Loose := by
  unfold innerTrivia remarks
  split
  · exact lays_headerTrivia layout h
  · exact Lays.nil

theorem lays_trimmedEnd {trivia : Source.Trivia} (h : Commentary false trivia.text.toList) :
    Lays layout Loose [.verbatim trivia.trimmedEnd] [comment trivia.text] Loose := by
  have hcontent : Commentary false trivia.trimmedEnd.toList := by
    rw [Source.Trivia.trimmedEnd, String.toList_ofList]
    exact h.trimEnd
  have hink : inked trivia.trimmedEnd.toList = inked trivia.text.toList := by
    rw [Source.Trivia.trimmedEnd, String.toList_ofList, inked_trimEnd]
  exact lays_commentary layout hcontent hink

theorem lays_closingTrivia {trivia : Source.Trivia} (h : Commentary false trivia.text.toList) :
    Lays layout Loose (closingTrivia trivia) (remarks trivia) Loose := by
  unfold closingTrivia remarks
  split
  · exact (lays_trimmedEnd layout h).cons (lays_endLine layout).loosen
  · exact Lays.nil

end Instructions

end Comments

end CodeBehind
