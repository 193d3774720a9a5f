import CodeBehind.Proofs.OuterTrivia
import CodeBehind.Proofs.Placement
import CodeBehind.Proofs.WriterState

/-!
# Line breaks before a declaration

Trivia before a declaration is split at the line of its first ink.  The split is the same by
characters and by byte offsets, and no line break is torn apart by it.  The first break before the
ink ends the line that the writer stands on, and each further one is an empty line.  That holds with
one exception: behind a carriage return that was copied from a source, the first line feed is only
the other half of the same break.
-/

namespace CodeBehind

namespace Text

/-! ## Counting line breaks -/

/-- Whether a line break ends in a character.  None ends in a carriage return that a line feed
follows. -/
def endsBreak (c : Char) (next : Option Char) : Bool :=
  decide (c = '\n' ∨ c = '\r' ∧ next ≠ some '\n')

/-- The number of line breaks, where a carriage return with a line feed behind it is one. -/
def lineBreaks : List Char → Nat
  | [] => 0
  | c :: rest => (endsBreak c rest.head?).toNat + lineBreaks rest

/-- Between two texts a break is lost if a carriage return meets a line feed. -/
theorem lineBreaks_append (a b : List Char) :
    lineBreaks (a ++ b) + (if a.getLast? = some '\r' ∧ b.head? = some '\n' then 1 else 0) =
      lineBreaks a + lineBreaks b := by
  induction a with
  | nil => simp [lineBreaks]
  | cons c rest ih =>
    cases rest with
    | nil =>
      have hlast : (endsBreak c b.head?).toNat +
          (if c = '\r' ∧ b.head? = some '\n' then 1 else 0) = (endsBreak c none).toNat := by
        by_cases hreturn : c = '\r'
        · subst hreturn
          by_cases hfeed : b.head? = some '\n' <;> simp [endsBreak, hfeed]
        · simp [endsBreak, hreturn]
      simp only [List.singleton_append, lineBreaks, List.getLast?_singleton, Option.some.injEq,
        List.head?_nil]
      omega
    | cons d rest =>
      rw [List.getLast?_cons_cons]
      simp only [List.cons_append, lineBreaks, List.head?_cons] at ih ⊢
      omega

theorem endsBreak_of_isBreak {c : Char} {rest : List Char} (hbreak : isBreak c = true)
    (hpair : ∀ more, c = '\r' → rest = '\n' :: more → False) :
    endsBreak c rest.head? = true := by
  simp only [isBreak, Bool.or_eq_true, beq_iff_eq] at hbreak
  rcases hbreak with rfl | rfl
  · rfl
  · rcases rest with _ | ⟨d, more⟩
    · rfl
    · have hd : d ≠ '\n' := fun hd ↦ hpair more rfl (by rw [hd])
      simp [endsBreak, hd]

theorem utf8Size_of_isBreak {c : Char} (h : isBreak c = true) : c.utf8Size = 1 := by
  simp only [isBreak, Bool.or_eq_true, beq_iff_eq] at h
  rcases h with rfl | rfl <;> rfl

theorem endsBreak_eq_false {c : Char} (h : isBreak c = false) (next : Option Char) :
    endsBreak c next = false := by
  simp only [isBreak, Bool.or_eq_false_iff, beq_eq_false_iff_ne] at h
  simp [endsBreak, h]

/-- What ends a break among the blanks ends one in the whole text. -/
theorem lineBreaks_takeWhile_cons {c : Char} (hc : isBlank c = true) (rest : List Char) :
    lineBreaks ((c :: rest).takeWhile isBlank) =
      (endsBreak c rest.head?).toNat + lineBreaks (rest.takeWhile isBlank) := by
  rw [List.takeWhile_cons_of_pos hc, lineBreaks]
  congr 2
  rcases rest with _ | ⟨d, more⟩
  · rfl
  · cases hd : isBlank d with
    | true => rw [List.takeWhile_cons_of_pos hd, List.head?_cons, List.head?_cons]
    | false =>
      have hfeed : d ≠ '\n' := by
        rintro rfl
        exact absurd hd (by decide)
      rw [List.takeWhile_cons_of_neg (by simp [hd])]
      simp [endsBreak, hfeed]

end Text

namespace Source.Trivia

open Text

/-! ## The split by offsets -/

/-- Line breaks before the first ink of `rest`, and the offset of the line that holds it, if there
is ink.  Here `position` is the offset of `rest`, and `lineStart` that of the line it begins in. -/
def splitOffset (position lineStart : Nat) : List Char → Nat × Option Nat
  | [] => (0, none)
  | '\r' :: '\n' :: rest =>
    let (breaks, offset) := splitOffset (position + 2) (position + 2) rest
    (breaks + 1, offset)
  | c :: rest =>
    if isBreak c then
      let (breaks, offset) := splitOffset (position + 1) (position + 1) rest
      (breaks + 1, offset)
    else if Text.isBlank c then splitOffset (position + c.utf8Size) lineStart rest
    else (0, some lineStart)

/-- A text in two parts: blanks up to the end of a line break, and the line of the first ink with
all that follows. -/
structure SplitsAtLine (cs before rest : List Char) : Prop where
  text : cs = before ++ rest
  blank : ∀ c ∈ before, Text.isBlank c = true
  complete : ∀ c ∈ before.getLast?, endsBreak c rest.head? = true
  unbroken : ∀ c ∈ rest.takeWhile Text.isBlank, isBreak c = false

theorem SplitsAtLine.behind {front cs before rest : List Char} {c : Char}
    (h : SplitsAtLine cs before rest) (hfront : ∀ d ∈ front ++ [c], Text.isBlank d = true)
    (hc : endsBreak c cs.head? = true) :
    SplitsAtLine (front ++ c :: cs) (front ++ c :: before) rest where
  text := by rw [h.text, List.append_assoc, List.cons_append]
  blank := by
    rw [List.append_cons]
    exact List.forall_mem_append.mpr ⟨hfront, h.blank⟩
  complete := by
    rw [List.append_cons, List.getLast?_append]
    intro d hd
    cases hlast : before.getLast? with
    | none =>
      obtain rfl : c = d := by simpa [hlast] using hd
      have hcs : cs = rest := by rw [h.text, List.getLast?_eq_none_iff.mp hlast, List.nil_append]
      exact hcs ▸ hc
    | some e =>
      obtain rfl : e = d := by simpa [hlast] using hd
      exact h.complete e hlast
  unbroken := h.unbroken

theorem splitBreaksFrom_fst (line rest : List Char) :
    (splitBreaksFrom line rest).1 = lineBreaks (rest.takeWhile Text.isBlank) := by
  fun_induction splitBreaksFrom line rest with
  | case1 line => rfl
  | case2 line rest breaks content hsplit ih =>
    rw [hsplit] at ih
    rw [lineBreaks_takeWhile_cons (by decide), lineBreaks_takeWhile_cons (by decide), ← ih]
    exact (Nat.add_comm ..).trans (Nat.zero_add _).symm
  | case3 line c rest hpair hbreak breaks content hsplit ih =>
    rw [hsplit] at ih
    rw [lineBreaks_takeWhile_cons (isBlank_of_isBreak hbreak), endsBreak_of_isBreak hbreak hpair,
      ← ih]
    exact Nat.add_comm ..
  | case4 line c rest _ hbreak hblank ih =>
    rw [lineBreaks_takeWhile_cons hblank, endsBreak_eq_false (by simpa using hbreak), ih]
    exact (Nat.zero_add _).symm
  | case5 line c rest _ _ hblank =>
    rw [List.takeWhile_cons_of_neg hblank]
    rfl

theorem splitOffset_break {c : Char} {rest : List Char} (hbreak : isBreak c = true)
    (hpair : ∀ more, c = '\r' → rest = '\n' :: more → False) (position lineStart : Nat) :
    splitOffset position lineStart (c :: rest) =
      ((splitOffset (position + 1) (position + 1) rest).1 + 1,
        (splitOffset (position + 1) (position + 1) rest).2) := by
  rw [splitOffset, if_pos hbreak]
  exact hpair

theorem splitOffset_blank {c : Char} {rest : List Char} (hbreak : ¬isBreak c = true)
    (hblank : Text.isBlank c = true) (position lineStart : Nat) :
    splitOffset position lineStart (c :: rest) =
      splitOffset (position + c.utf8Size) lineStart rest := by
  rw [splitOffset, if_neg hbreak, if_pos hblank]
  rintro more rfl
  exact absurd rfl hbreak

/-- Blank trivia has no line of ink. -/
theorem split_of_blank {rest : List Char} (h : ∀ c ∈ rest, Text.isBlank c = true)
    (line : List Char) (position lineStart : Nat) :
    (splitBreaksFrom line rest).2 = [] ∧
      splitOffset position lineStart rest = ((splitBreaksFrom line rest).1, none) := by
  fun_induction splitBreaksFrom line rest generalizing position lineStart with
  | case1 line => exact ⟨rfl, rfl⟩
  | case2 line rest breaks content hsplit ih =>
    rw [hsplit] at ih
    obtain ⟨hcontent, hoffset⟩ := ih (fun c hc ↦ h c (.tail _ (.tail _ hc))) _ _
    exact ⟨hcontent, by rw [splitOffset, hoffset]⟩
  | case3 line c rest hpair hbreak breaks content hsplit ih =>
    rw [hsplit] at ih
    obtain ⟨hcontent, hoffset⟩ := ih (fun c hc ↦ h c (.tail _ hc)) _ _
    exact ⟨hcontent, by rw [splitOffset_break hbreak hpair, hoffset]⟩
  | case4 line c rest _ hbreak hblank ih =>
    rw [splitOffset_blank hbreak hblank]
    exact ih (fun c hc ↦ h c (.tail _ hc)) _ _
  | case5 line c rest _ _ hblank => exact absurd (h c (.head _)) hblank

theorem exists_ink_behind {c : Char} {rest : List Char} (hc : Text.isBlank c = true)
    (h : ∃ d ∈ c :: rest, Text.isBlank d = false) : ∃ d ∈ rest, Text.isBlank d = false := by
  obtain ⟨d, hd, hink⟩ := h
  rcases List.mem_cons.mp hd with rfl | hd
  · rw [hc] at hink
    cases hink
  · exact ⟨d, hd, hink⟩

/-- The offset is that of the part from which the text is kept. -/
theorem split_of_ink {line lead rest : List Char} (hline : line = lead ++ rest)
    (hlead : ∀ c ∈ lead, Text.isBlank c = true ∧ isBreak c = false)
    (hink : ∃ c ∈ rest, Text.isBlank c = false) (start : Nat) :
    ∃ before, SplitsAtLine line before (splitBreaksFrom line rest).2 ∧
      splitOffset (start + byteCount lead) start rest =
        ((splitBreaksFrom line rest).1, some (start + byteCount before)) := by
  -- Behind a line break nothing is read of the next line yet.
  fun_induction splitBreaksFrom line rest generalizing lead start with
  | case1 line =>
    obtain ⟨c, hc, _⟩ := hink
    cases hc
  | case2 line rest breaks content hsplit ih =>
    subst hline
    rw [hsplit] at ih
    have hrest := exists_ink_behind (c := '\n') rfl (exists_ink_behind (c := '\r') rfl hink)
    obtain ⟨before, hbefore, hoffset⟩ :=
      @ih [] rfl (List.forall_mem_nil _) hrest (start + byteCount lead + 2)
    have hfront : ∀ d ∈ (lead ++ ['\r']) ++ ['\n'], Text.isBlank d = true := by
      rw [List.append_assoc]
      exact List.forall_mem_append.mpr
        ⟨fun d hd ↦ (hlead d hd).1, List.all_eq_true.mp (by decide)⟩
    refine ⟨lead ++ '\r' :: '\n' :: before, ?_, ?_⟩
    · have hsplits := hbefore.behind hfront rfl
      rwa [List.append_assoc, List.append_assoc] at hsplits
    · have hsize : byteCount (lead ++ '\r' :: '\n' :: before) =
          byteCount lead + (1 + (1 + byteCount before)) := byteCount_append ..
      have hstart : start + byteCount (lead ++ '\r' :: '\n' :: before) =
          start + byteCount lead + 2 + byteCount before := by omega
      change splitOffset (start + byteCount lead + 2) _ rest = _ at hoffset
      rw [splitOffset, hoffset, hstart]
  | case3 line c rest hpair hbreak breaks content hsplit ih =>
    subst hline
    rw [hsplit] at ih
    have hblank := isBlank_of_isBreak hbreak
    obtain ⟨before, hbefore, hoffset⟩ :=
      @ih [] rfl (List.forall_mem_nil _) (exists_ink_behind hblank hink)
        (start + byteCount lead + 1)
    have hfront : ∀ d ∈ lead ++ [c], Text.isBlank d = true :=
      List.forall_mem_append.mpr ⟨fun d hd ↦ (hlead d hd).1, by simpa using hblank⟩
    refine ⟨lead ++ c :: before, hbefore.behind hfront (endsBreak_of_isBreak hbreak hpair), ?_⟩
    have hsize : byteCount (lead ++ c :: before) = byteCount lead + (1 + byteCount before) := by
      rw [byteCount_append, byteCount, utf8Size_of_isBreak hbreak]
    have hstart : start + byteCount (lead ++ c :: before) =
        start + byteCount lead + 1 + byteCount before := by omega
    change splitOffset (start + byteCount lead + 1) _ rest = _ at hoffset
    rw [splitOffset_break hbreak hpair, hoffset, hstart]
  | case4 line c rest _ hbreak hblank ih =>
    have hc : isBreak c = false := by simpa using hbreak
    obtain ⟨before, hbefore, hoffset⟩ := @ih (lead ++ [c]) (by rw [hline, List.append_cons])
      (List.forall_mem_append.mpr ⟨hlead, by simpa using ⟨hblank, hc⟩⟩)
      (exists_ink_behind hblank hink) start
    refine ⟨before, hbefore, ?_⟩
    rw [byteCount_append] at hoffset
    rw [splitOffset_blank hbreak hblank, ← hoffset, Nat.add_assoc]
    rfl
  | case5 line c rest _ hbreak hblank =>
    subst hline
    refine ⟨[], ⟨rfl, List.forall_mem_nil _, by simp, ?_⟩, ?_⟩
    · rw [List.takeWhile_append_of_pos fun d hd ↦ (hlead d hd).1,
        List.takeWhile_cons_of_neg hblank, List.append_nil]
      exact fun d hd ↦ (hlead d hd).2
    · have hreturn : ∀ more, c = '\r' → rest = '\n' :: more → False := by
        rintro more rfl
        exact absurd rfl hbreak
      rw [splitOffset, if_neg hbreak, if_neg hblank]
      · rfl
      · exact hreturn

/-- The parts of trivia, by characters and by offsets. -/
structure Split (trivia : Trivia) (breaks : Nat) (rest : List Char) : Prop where
  count : breaks = lineBreaks (trivia.text.toList.takeWhile Text.isBlank)
  ofBlank : trivia.isBlank = true →
    rest = [] ∧ splitOffset 0 0 trivia.text.toList = (breaks, none)
  ofInk : trivia.isBlank = false → ∃ before, SplitsAtLine trivia.text.toList before rest ∧
    splitOffset 0 0 trivia.text.toList = (breaks, some (byteCount before)) ∧
    String.Pos.Raw.IsValid trivia.text ⟨byteCount before⟩ ∧
    cut? trivia.text.toList (byteCount before) = some (before, rest)

theorem split_splitLeadingBreaks (trivia : Trivia) :
    Split trivia trivia.splitLeadingBreaks.1 trivia.splitLeadingBreaks.2.toList := by
  have hrest : trivia.splitLeadingBreaks.2.toList =
      (splitBreaksFrom trivia.text.toList trivia.text.toList).2 := String.toList_ofList
  rw [hrest]
  refine ⟨splitBreaksFrom_fst _ _, fun hblank ↦ ?_, fun hink ↦ ?_⟩
  · exact split_of_blank (List.all_eq_true.mp hblank) _ 0 0
  · have hline : trivia.text.toList = [] ++ trivia.text.toList := rfl
    obtain ⟨before, hsplits, hoffset⟩ :=
      split_of_ink hline (List.forall_mem_nil _) (by simpa [isBlank] using hink) 0
    rw [Nat.zero_add, Nat.zero_add] at hoffset
    refine ⟨before, hsplits, hoffset, ?_, ?_⟩
    · rw [String.Pos.Raw.isValid_iff_exists_append, byteCount_eq_utf8ByteSize]
      refine ⟨String.ofList before, String.ofList
        (splitBreaksFrom trivia.text.toList trivia.text.toList).2, ?_, rfl⟩
      rw [← String.ofList_append, ← hsplits.text, String.ofList_toList]
    · have hcut := cut?_append before (splitBreaksFrom trivia.text.toList trivia.text.toList).2
      rwa [← hsplits.text] at hcut

end Source.Trivia

/-! ## Empty lines -/

namespace Layout

open Text

variable (layout : Layout)

/-- A text whose last line is ended, unless it is empty. -/
def ended (written : List Char) : List Char :=
  if written.getLast?.elim true isBreak then written
  else written ++ layout.lineBreak.text.toList

/-- The line breaks of a number of empty lines. -/
def emptyLines (count : Nat) : List Char :=
  (List.replicate count layout.lineBreak.text.toList).flatten

/-- Empty lines begin with a line feed, and this meets a carriage return. -/
def Joins (written : List Char) (count : Nat) : Prop :=
  written.getLast? = some '\r' ∧ layout.lineBreak = .lf ∧ 0 < count

theorem lineBreaks_emptyLines (count : Nat) : lineBreaks (layout.emptyLines count) = count := by
  induction count with
  | zero => rfl
  | succ count ih =>
    have happend := lineBreaks_append layout.lineBreak.text.toList (layout.emptyLines count)
    have hbreak : lineBreaks layout.lineBreak.text.toList = 1 := by
      cases layout.lineBreak <;> decide
    have hlast : layout.lineBreak.text.toList.getLast? = some '\n' := by
      cases layout.lineBreak <;> rfl
    rw [hlast, hbreak, ih] at happend
    simpa [emptyLines, List.replicate_succ, Nat.add_comm] using happend

theorem head?_emptyLines {count : Nat} :
    (layout.emptyLines count).head? = some '\n' ↔ layout.lineBreak = .lf ∧ 0 < count := by
  cases count with
  | zero => simp [emptyLines]
  | succ count =>
    rw [emptyLines, List.replicate_succ, List.flatten_cons]
    cases layout.lineBreak <;> simp [LineBreak.text]

theorem getLast?_ended {written : List Char} :
    (layout.ended written).getLast? = some '\r' ↔ written.getLast? = some '\r' := by
  unfold ended
  split
  next => rfl
  next hbreak =>
    have hwritten : written.getLast? ≠ some '\r' := by
      intro hlast
      rw [hlast] at hbreak
      exact hbreak rfl
    have hlast : layout.lineBreak.text.toList.getLast? = some '\n' := by
      cases layout.lineBreak <;> rfl
    rw [List.getLast?_append, hlast, Option.some_or]
    exact iff_of_false (by decide) hwritten

/-- As many line breaks as empty lines are added to a text, and one less if two characters become
one break. -/
theorem lineBreaks_ended_emptyLines (written : List Char) (count : Nat) :
    (¬layout.Joins written count →
        lineBreaks (layout.ended written ++ layout.emptyLines count) =
          lineBreaks (layout.ended written) + count) ∧
      (layout.Joins written count →
        lineBreaks (layout.ended written ++ layout.emptyLines count) =
          lineBreaks (layout.ended written) + (count - 1)) := by
  have happend := lineBreaks_append (layout.ended written) (layout.emptyLines count)
  have hjoins : (layout.ended written).getLast? = some '\r' ∧
      (layout.emptyLines count).head? = some '\n' ↔ layout.Joins written count := by
    rw [getLast?_ended, head?_emptyLines, Joins]
  rw [lineBreaks_emptyLines] at happend
  refine ⟨fun h ↦ ?_, fun h ↦ ?_⟩
  · rwa [if_neg (mt hjoins.mp h), Nat.add_zero] at happend
  · rw [if_pos (hjoins.mpr h)] at happend
    have hcount := h.2.2
    omega

end Layout

/-! ## Trivia before a header -/

namespace Lowering

open Source Text Sink

variable (layout : Layout) (trivia : Trivia)

theorem headerText_eq_nil_iff : headerText trivia = [] ↔ trivia.isBlank = true := by
  constructor
  · intro hnil
    have hinked := inked_headerText trivia
    rw [hnil] at hinked
    rw [Trivia.isBlank, List.all_eq_true]
    simpa [inked, List.filter_eq_nil_iff] using hinked.symm
  · intro hblank
    rw [headerText, (trivia.split_splitLeadingBreaks.ofBlank hblank).1]
    rfl

/-- Trivia before a header is left out if it has neither ink nor line breaks. -/
def LeftOut (trivia : Trivia) : Prop :=
  trivia.splitLeadingBreaks.1 = 0 ∧ trivia.isBlank = true

theorem leftOut_iff : (trivia.splitLeadingBreaks.1 == 0 &&
    (String.ofList (headerText trivia)).isEmpty) = true ↔ LeftOut trivia := by
  rw [Bool.and_eq_true, beq_iff_eq, String.isEmpty_iff, String.ofList_eq_empty_iff,
    headerText_eq_nil_iff, LeftOut]

theorem headerTrivia_eq_nil (h : LeftOut trivia) : headerTrivia trivia = [] :=
  if_pos ((leftOut_iff trivia).mpr h)

theorem headerTrivia_eq (h : ¬LeftOut trivia) : headerTrivia trivia =
    .endLine :: List.replicate (trivia.splitLeadingBreaks.1 - 1) .breakLine ++
      [.verbatim (String.ofList (headerText trivia))] :=
  if_neg (mt (leftOut_iff trivia).mp h)

variable {trivia}

/-- The acts for trivia that is not left out, wherever the writer stands. -/
theorem acts_headerTrivia (h : ¬LeftOut trivia) (w : Writer Unit) :
    (headerTrivia trivia).acts layout w =
      w.endActs layout ++
        List.replicate (trivia.splitLeadingBreaks.1 - 1) (.hand layout.lineBreak.text) ++
        [.hand (String.ofList (headerText trivia))] := by
  have hbreaks (count : Nat) (text : String) (w : Writer Unit) :
      Script.acts layout (List.replicate count .breakLine ++ [.verbatim text]) w =
        List.replicate count (.hand layout.lineBreak.text) ++ [.hand text] := by
    induction count generalizing w with
    | zero => rfl
    | succ count ih =>
      change .hand layout.lineBreak.text :: Script.acts layout (_ ++ _) _ = _
      rw [ih]
      rfl
  rw [headerTrivia_eq trivia h, List.append_assoc,
    ← hbreaks _ _ ((w.endActs layout).foldl Act.leave w)]
  rfl

/-- What trivia that is not left out adds to the text, if the sink takes it. -/
theorem accepted_headerTrivia (h : ¬LeftOut trivia) {σ : Type} {out : Sink σ} {w : Writer σ}
    {past : List Act} (hw : w.Reflects past)
    (htaken : ((headerTrivia trivia).turn out layout w).1.result = .ok ()) :
    Act.spelled past ++
        (accepted ((headerTrivia trivia).turn out layout w).1.attempts).flatMap String.toList =
      layout.ended (Act.spelled past) ++
        layout.emptyLines (trivia.splitLeadingBreaks.1 - 1) ++ headerText trivia := by
  have hended : Act.spelled past ++ Act.spelled (w.endActs layout) =
      layout.ended (Act.spelled past) := by
    rw [Writer.endActs, hw.atLineStart, Layout.ended]
    split
    · exact List.append_nil _
    · rw [Act.spelled_hand]
  have hbreaks (count : Nat) : Act.spelled (List.replicate count (.hand layout.lineBreak.text)) =
      layout.emptyLines count := by
    rw [← List.map_replicate, Act.spelled_map_hand, List.flatMap_def, List.map_replicate,
      Layout.emptyLines]
  rw [Script.accepted_turn]
  obtain ⟨done, state, -, ⟨hdone, hturn⟩ | ⟨_, _, _, _, _, _, hturn⟩⟩ :=
    (headerTrivia trivia).turn_cases out layout w
  · rw [hturn, hdone, acts_headerTrivia layout h]
    change _ ++ Act.spelled (w.endActs layout ++ _ ++ _) = _
    rw [Act.spelled_append, Act.spelled_append, hbreaks, Act.spelled_hand, String.toList_ofList,
      ← List.append_assoc, ← List.append_assoc, hended]
  · rw [hturn] at htaken
    cases htaken

/-- Trivia is split exactly at the line of its first ink.  What is written of it before a header, by
any writer on any sink, is left out or stands behind empty lines. -/
theorem headerTrivia_placed (trivia : Trivia) (layout : Layout) {σ : Type} (out : Sink σ)
    (sink : σ) (ops : List Instruction) :
    let w := operate out layout ops { sink }
    let written := Act.spelled (history out layout ops { sink })
    let turn := ((headerTrivia trivia).turn out layout w).1
    let empty := trivia.splitLeadingBreaks.1 - 1
    trivia.Split trivia.splitLeadingBreaks.1 trivia.splitLeadingBreaks.2.toList ∧
      (LeftOut trivia → (headerTrivia trivia).run out layout w = (.ok (), w)) ∧
      (¬LeftOut trivia → turn.result = .ok () →
        written ++ (accepted turn.attempts).flatMap String.toList =
          layout.ended written ++ layout.emptyLines empty ++
            trimEnd trivia.splitLeadingBreaks.2.toList) ∧
      (turn.result = .ok () ∨ ∃ attempt ∈ turn.attempts, attempt.taken = false) ∧
      (¬layout.Joins written empty →
        lineBreaks (layout.ended written ++ layout.emptyLines empty) =
          lineBreaks (layout.ended written) + empty) ∧
      (layout.Joins written empty →
        lineBreaks (layout.ended written ++ layout.emptyLines empty) =
          lineBreaks (layout.ended written) + (empty - 1)) := by
  intro w written turn empty
  have hw : w.Reflects (history out layout ops { sink }) := reflects_history out layout sink ops
  refine ⟨trivia.split_splitLeadingBreaks, fun h ↦ ?_, fun h ↦ accepted_headerTrivia layout h hw,
    ?_, layout.lineBreaks_ended_emptyLines written empty⟩
  · rw [headerTrivia_eq_nil trivia h]
    rfl
  · obtain ⟨done, _, -, ⟨-, hturn⟩ | ⟨text, _, _, -, -, -, hturn⟩⟩ :=
      (headerTrivia trivia).turn_cases out layout w
    · refine .inl ?_
      change ((headerTrivia trivia).turn out layout w).1.result = _
      rw [hturn, failure_headerTrivia]
      rfl
    · refine .inr ⟨⟨text, false⟩, ?_, rfl⟩
      change _ ∈ ((headerTrivia trivia).turn out layout w).1.attempts
      rw [hturn]
      exact List.mem_append_right _ (List.mem_singleton_self _)

/-- A comment behind two line breaks of two characters each, blanks of several bytes before it. -/
theorem headerTrivia_placed_sizeRemark :
    let remark : Trivia := { text := "\r\n\u00a0\r\n\u2003// größe \t" }
    let field := operate .unbounded {} [.verbatim "var x;"] { sink := "" }
    let turn := ((headerTrivia remark).turn .unbounded {} field).1
    remark.splitLeadingBreaks = (2, "\u2003// größe \t") ∧
      "var x;".toList ++ (accepted turn.attempts).flatMap String.toList =
        "var x;\n\n\u2003// größe".toList ∧
      lineBreaks "var x;\n\n".toList = lineBreaks "var x;\n".toList + 1 := by
  intro remark field turn
  have hsplit : remark.splitLeadingBreaks = (2, "\u2003// größe \t") := by decide
  have hwritten : Act.spelled (history .unbounded {} [.verbatim "var x;"] { sink := "" }) =
      "var x;".toList := by decide
  obtain ⟨-, -, htext, -, hcount, -⟩ :=
    headerTrivia_placed remark {} .unbounded "" [.verbatim "var x;"]
  rw [hwritten, hsplit] at htext hcount
  have hink : ¬LeftOut remark := fun h ↦ absurd (hsplit ▸ h.1) (by decide)
  have hresult : turn.result = .ok () := by
    obtain ⟨_, -, hturn⟩ := (headerTrivia remark).turn_unbounded {} field
    change ((headerTrivia remark).turn .unbounded {} field).1.result = _
    rw [hturn, failure_headerTrivia]
    rfl
  exact ⟨hsplit, (htext hink hresult).trans (by decide), hcount fun h ↦ absurd h.1 (by decide)⟩

/-- Not every break beyond the first makes an empty line: the line feed that is written behind a
copied carriage return belongs to the same break. -/
theorem not_forall_lineBreaks_copiedReturn :
    ¬∀ (trivia : Trivia) (layout : Layout) (ops : List Instruction),
      let w := operate .unbounded layout ops { sink := "" }
      let turn := ((headerTrivia trivia).turn .unbounded layout w).1
      ¬LeftOut trivia → ∃ empty : List Char,
        w.sink.toList ++ (accepted turn.attempts).flatMap String.toList =
          layout.ended w.sink.toList ++ empty ++ trimEnd trivia.splitLeadingBreaks.2.toList ∧
        lineBreaks (layout.ended w.sink.toList ++ empty) =
          lineBreaks (layout.ended w.sink.toList) + (trivia.splitLeadingBreaks.1 - 1) := by
  intro h
  obtain ⟨empty, htext, hcount⟩ := h { text := "\r\r\t\t" } {} [.verbatim "var x;\r"]
    fun h ↦ absurd h.1 (by decide)
  have hempty : "var x;\r\n".toList = "var x;\r".toList ++ empty ++ [] := htext
  have hbreaks : lineBreaks ("var x;\r".toList ++ empty) = 2 := hcount
  rw [List.append_nil] at hempty
  rw [← hempty] at hbreaks
  exact absurd hbreaks (by decide)

end Lowering

end CodeBehind
