import CodeBehind.Proofs.Ink
import CodeBehind.Text.Literal
import Mathlib.Data.List.Chain

/-!
# Comments of a text

A lexer that knows nothing but comments tells for every character of a text whether it stands in
one.  A line comment ends at a line feed or carriage return, a block comment at its closing mark.
Plain text is read as code without an end in sight, and commentary, which is what trivia is made of,
has all of its ink in comments wherever code or a line comment goes on with it.
-/

namespace CodeBehind.Comments

open Text

/-- Where the lexer stands. -/
inductive Mode where
  | code
  | line
  | block
deriving DecidableEq, Inhabited

/-- Tells for every character whether it stands in a comment.  The marks that open and close a block
comment belong to it, the break that ends a line comment does not. -/
def scan : Mode → List Char → List Bool
  | _, [] => []
  | .code, '/' :: '/' :: rest => true :: true :: scan .line rest
  | .code, '/' :: '*' :: rest => true :: true :: scan .block rest
  | .code, _ :: rest => false :: scan .code rest
  | .line, c :: rest =>
    if isBreak c then false :: scan .code rest else true :: scan .line rest
  | .block, '*' :: '/' :: rest => true :: true :: scan .code rest
  | .block, _ :: rest => true :: scan .block rest

example : scan .code "a /b//c\nd".toList =
    [false, false, false, false, true, true, true, false, false] := by
  decide

/-- Whatever comes behind it, a text is marked in one way and leads from one mode to another. -/
def Scans (mode : Mode) (text : List Char) (marks : List Bool) (mode' : Mode) : Prop :=
  ∀ rest, scan mode (text ++ rest) = marks ++ scan mode' rest

namespace Scans

theorem nil (mode : Mode) : Scans mode [] [] mode := by
  intro rest
  rfl

theorem append {mode mode' mode'' : Mode} {text text' : List Char} {marks marks' : List Bool}
    (h : Scans mode text marks mode') (h' : Scans mode' text' marks' mode'') :
    Scans mode (text ++ text') (marks ++ marks') mode'' := by
  intro rest
  rw [List.append_assoc, h, h', List.append_assoc]

theorem scan_eq {mode mode' : Mode} {text : List Char} {marks : List Bool}
    (h : Scans mode text marks mode') : scan mode text = marks := by
  have hnil : scan mode' [] = [] := by cases mode' <;> rfl
  rw [← List.append_nil text, h, hnil, List.append_nil]

end Scans

/-! ## Plain text -/

/-- Whether two neighbours open a comment. -/
def opens (c d : Char) : Bool :=
  c == '/' && (d == '/' || d == '*')

/-- A text in which no comment is opened. -/
def Tame (text : List Char) : Prop :=
  text.IsChain fun c d ↦ opens c d = false

/-- A text in which no comment is opened, and that does not end in half of an opening mark. -/
def Plain (text : List Char) : Prop :=
  Tame text ∧ text.getLast? ≠ some '/'

instance : DecidablePred Tame := fun text ↦ inferInstanceAs (Decidable (text.IsChain _))
instance : DecidablePred Plain := fun _ ↦ inferInstanceAs (Decidable (_ ∧ _))

theorem scan_code_cons {c : Char} {rest : List Char} (h : ∀ d ∈ rest.head?, opens c d = false) :
    scan .code (c :: rest) = false :: scan .code rest := by
  rw [scan.eq_def]
  split
  next hcons => cases hcons
  next hcons =>
    injection hcons with hc hrest
    simp [hc, hrest, opens] at h
  next hcons =>
    injection hcons with hc hrest
    simp [hc, hrest, opens] at h
  next hcons =>
    injection hcons with hc hrest
    rw [hrest]
  all_goals contradiction

theorem Scans.of_plain {text : List Char} (h : Plain text) :
    Scans .code text (text.map fun _ ↦ false) .code := by
  induction text with
  | nil => exact Scans.nil .code
  | cons c text ih =>
    intro rest
    have hopens : ∀ d ∈ (text ++ rest).head?, opens c d = false := by
      cases text with
      | nil =>
        intro d _
        have hc : c ≠ '/' := fun hc ↦ h.2 (by rw [hc, List.getLast?_singleton])
        simp [opens, hc]
      | cons d text =>
        intro e he
        rw [List.cons_append, List.head?_cons, Option.mem_some_iff] at he
        exact he ▸ (List.isChain_cons_cons.mp h.1).1
    have hplain : Plain text := by
      refine ⟨List.IsChain.tail h.1, fun hlast ↦ h.2 ?_⟩
      rw [List.getLast?_cons, hlast, Option.getD_some]
    rw [List.cons_append, scan_code_cons hopens, ih hplain rest]
    rfl

theorem Tame.append {a b : List Char} (ha : Tame a) (hb : Tame b)
    (h : ∀ c ∈ a.getLast?, ∀ d ∈ b.head?, opens c d = false) : Tame (a ++ b) :=
  List.isChain_append.mpr ⟨ha, hb, h⟩

theorem Plain.append_tame {a b : List Char} (ha : Plain a) (hb : Tame b) : Tame (a ++ b) := by
  apply ha.1.append hb
  intro c hc d _
  have hslash : c ≠ '/' := fun h ↦ ha.2 (h ▸ hc)
  simp [opens, hslash]

/-- A text that can stand behind half of an opening mark. -/
def Guards (text : List Char) : Prop :=
  Plain text ∧ ∃ c ∈ text.head?, c ≠ '/' ∧ c ≠ '*'

instance : DecidablePred Guards := fun text ↦
  match text with
  | [] => .isFalse (by simp [Guards])
  | c :: rest => decidable_of_iff (Plain (c :: rest) ∧ c ≠ '/' ∧ c ≠ '*') (by simp [Guards])

theorem Tame.append_guard {a b : List Char} (ha : Tame a) (hb : Guards b) : Plain (a ++ b) := by
  obtain ⟨hplain, c, hc, hslash, hstar⟩ := hb
  refine ⟨ha.append hplain.1 ?_, ?_⟩
  · intro d _ e he
    obtain rfl : c = e := Option.mem_unique hc he
    simp [opens, hslash, hstar]
  · have hne : b ≠ [] := List.ne_nil_of_mem (List.mem_of_mem_head? hc)
    rw [List.getLast?_append_of_ne_nil _ hne]
    exact hplain.2

theorem Tame.trim {text : List Char} (h : Tame text) : Tame (trim text) := by
  obtain ⟨start, _, hstart⟩ := exists_append_trimStart text
  obtain ⟨stop, _, hstop⟩ := exists_trimEnd_append (trimStart text)
  have hsuffix : Tame (trimStart text) := by
    apply List.IsChain.suffix h
    exact ⟨start, hstart.symm⟩
  apply List.IsChain.prefix hsuffix
  exact ⟨stop, hstop.symm⟩

/-- Without a slash there is no opening mark. -/
theorem Plain.of_not_mem {text : List Char} (h : '/' ∉ text) : Plain text := by
  induction text with
  | nil => decide
  | cons c text ih =>
    have hc : c ≠ '/' := fun hc ↦ h (hc ▸ List.mem_cons_self ..)
    have hhead : Plain [c] := ⟨.singleton c, by simpa using hc⟩
    have htail := ih fun hmem ↦ h (List.mem_cons_of_mem _ hmem)
    refine ⟨hhead.append_tame htail.1, fun hlast ↦ h ?_⟩
    exact List.mem_of_getLast? hlast

/-- A character is written as it is, or as an escape without slashes. -/
theorem exists_escape_cons (c : Char) (text : List Char) :
    ∃ written, escape (c :: text) = written ++ escape text ∧
      (written = [c] ∨ '/' ∉ written ∧ written.head? = some '\x5c') := by
  rcases escape_cons_cases c text with ⟨_, hself⟩ | ⟨_, written, hescape, hhead, hletters⟩
  · exact ⟨[c], hself, .inl rfl⟩
  · refine ⟨written, hescape, .inr ⟨fun hslash ↦ ?_, hhead⟩⟩
    exact absurd (hletters '/' hslash) (by decide)

theorem head?_escape {text : List Char} {d : Char} (h : d ∈ (escape text).head?) :
    d = '\x5c' ∨ d ∈ text.head? := by
  cases text with
  | nil => cases h
  | cons c text =>
    obtain ⟨written, hescape, rfl | ⟨_, hhead⟩⟩ := exists_escape_cons c text
    · rw [hescape] at h
      exact .inr h
    · rw [hescape, List.head?_append, hhead, Option.some_or, Option.mem_some_iff] at h
      exact .inl h.symm

theorem Tame.escape {text : List Char} (h : Tame text) : Tame (escape text) := by
  induction text with
  | nil => exact h
  | cons c text ih =>
    have htext := ih (List.IsChain.tail h)
    obtain ⟨written, hescape, rfl | ⟨hslash, _⟩⟩ := exists_escape_cons c text
    · rw [hescape]
      apply Tame.append (.singleton c) htext
      intro d hd e he
      obtain rfl := Option.mem_some_iff.mp hd
      rcases head?_escape he with rfl | hhead
      · simp [opens]
      · cases text with
        | nil => cases hhead
        | cons f text =>
          rw [List.head?_cons, Option.mem_some_iff] at hhead
          exact hhead ▸ (List.isChain_cons_cons.mp h).1
    · rw [hescape]
      exact (Plain.of_not_mem hslash).append_tame htext

/-! ## Comments -/

theorem Scans.line_of_forall {text : List Char} (h : ∀ c ∈ text, isBreak c = false) :
    Scans .line text (text.map fun _ ↦ true) .line := by
  induction text with
  | nil => exact Scans.nil .line
  | cons c text ih =>
    intro rest
    obtain ⟨hc, htext⟩ := List.forall_mem_cons.mp h
    rw [List.cons_append, scan, hc, if_neg Bool.false_ne_true, ih htext rest]
    rfl

theorem Scans.line_break {c : Char} (h : isBreak c = true) : Scans .line [c] [false] .code := by
  intro rest
  rw [List.singleton_append, scan, if_pos h]
  rfl

theorem Scans.openLine : Scans .code ['/', '/'] [true, true] .line := by
  intro rest
  rfl

/-- The body of a block comment. -/
def Body (text : List Char) : Prop :=
  text.IsChain fun c d ↦ ¬ (c = '*' ∧ d = '/')

instance : DecidablePred Body := fun text ↦ inferInstanceAs (Decidable (text.IsChain _))

theorem scan_block_cons {c : Char} {rest : List Char}
    (h : ∀ d ∈ rest.head?, ¬ (c = '*' ∧ d = '/')) :
    scan .block (c :: rest) = true :: scan .block rest := by
  rw [scan.eq_def]
  split
  next hcons => cases hcons
  all_goals try contradiction
  next hcons =>
    injection hcons with hc hrest
    simp [hc, hrest] at h
  next hcons =>
    injection hcons with hc hrest
    rw [hrest]

theorem Scans.block_body {text : List Char} (h : Body text) :
    Scans .block (text ++ ['*', '/']) (text.map (fun _ ↦ true) ++ [true, true]) .code := by
  induction text with
  | nil =>
    intro rest
    rfl
  | cons c text ih =>
    intro rest
    have hopen : ∀ d ∈ (text ++ ['*', '/'] ++ rest).head?, ¬ (c = '*' ∧ d = '/') := by
      cases text with
      | nil =>
        intro d hd
        rw [List.nil_append, List.cons_append, List.head?_cons, Option.mem_some_iff] at hd
        simp [← hd]
      | cons d text =>
        intro e he
        rw [List.cons_append, List.cons_append, List.head?_cons, Option.mem_some_iff] at he
        exact he ▸ (List.isChain_cons_cons.mp h).1
    rw [List.cons_append, List.cons_append, scan_block_cons hopen, ih (List.IsChain.tail h) rest]
    rfl

theorem Scans.block {body : List Char} (h : Body body) :
    Scans .code ('/' :: '*' :: (body ++ ['*', '/']))
      (true :: true :: (body.map (fun _ ↦ true) ++ [true, true])) .code := by
  intro rest
  change true :: true :: scan .block (body ++ ['*', '/'] ++ rest) = _
  rw [Scans.block_body h rest]
  rfl

/-- What trivia is made of: blanks, block comments on one line, and line comments.  Only at its end
can there be a line comment without a break behind it, unless the text is `closed`. -/
inductive Commentary (closed : Bool) : List Char → Prop where
  | nil : Commentary closed []
  | blank {c : Char} {rest : List Char} : isBlank c = true → Commentary closed rest →
      Commentary closed (c :: rest)
  | block {body rest : List Char} : (∀ c ∈ body, isBreak c = false) → Body body →
      Commentary closed rest → Commentary closed ('/' :: '*' :: (body ++ ['*', '/']) ++ rest)
  | line {body rest : List Char} {c : Char} : (∀ c ∈ body, isBreak c = false) →
      isBreak c = true → Commentary closed rest →
      Commentary closed ('/' :: '/' :: body ++ c :: rest)
  | unclosed {body : List Char} : closed = false → (∀ c ∈ body, isBreak c = false) →
      Commentary closed ('/' :: '/' :: body)

namespace Commentary

variable {closed : Bool} {text : List Char}

theorem not_isBlank_slash : isBlank '/' = false := by decide

/-- Commentary stays commentary without blanks at its start. -/
theorem of_blanks_append {blanks : List Char} (hblank : ∀ c ∈ blanks, isBlank c = true)
    (h : Commentary closed (blanks ++ text)) : Commentary closed text := by
  induction blanks with
  | nil => exact h
  | cons c blanks ih =>
    obtain ⟨hc, hblanks⟩ := List.forall_mem_cons.mp hblank
    apply ih hblanks
    have hslash : c ≠ '/' := by
      intro hslash
      rw [hslash, not_isBlank_slash] at hc
      exact Bool.false_ne_true hc
    generalize htext : c :: blanks ++ text = whole at h
    cases h with
    | nil => cases htext
    | blank _ hrest =>
      obtain ⟨_, rfl⟩ := List.cons.inj htext
      exact hrest
    | block _ _ _ =>
      injection htext with hc'
      exact absurd hc' hslash
    | line _ _ _ =>
      injection htext with hc'
      exact absurd hc' hslash
    | unclosed _ _ =>
      injection htext with hc'
      exact absurd hc' hslash

/-- Where the last character of a text stands once the text is split. -/
theorem append_singleton_cases {start rest : List Char} {c : Char}
    (h : text ++ [c] = start ++ rest) :
    (rest = [] ∧ start = text ++ [c]) ∨ ∃ init, rest = init ++ [c] ∧ text = start ++ init := by
  rcases List.eq_nil_or_concat' rest with rfl | ⟨init, d, rfl⟩
  · exact .inl ⟨rfl, by rw [h, List.append_nil]⟩
  · rw [← List.append_assoc] at h
    obtain ⟨htext, hlast⟩ := List.append_inj' h rfl
    exact .inr ⟨init, by rw [hlast], htext⟩

/-- A blank at the end may go, though a line comment may lose its break. -/
theorem of_append_blank {c : Char} (hc : isBlank c = true) (h : Commentary closed (text ++ [c])) :
    Commentary false text := by
  have hslash : c ≠ '/' := by
    intro hslash
    rw [hslash, not_isBlank_slash] at hc
    exact Bool.false_ne_true hc
  generalize hwhole : text ++ [c] = whole at h
  induction h generalizing text with
  | nil => simp at hwhole
  | @blank d rest hd hrest ih =>
    rcases @append_singleton_cases text [d] rest c hwhole with ⟨_, hstart⟩ | ⟨init, hinit, rfl⟩
    · obtain rfl : text = [] := (List.append_eq_singleton_iff.mp hstart.symm).elim
        (fun h ↦ h.1) (fun h ↦ by simp at h)
      exact .nil
    · exact .blank hd (ih hinit.symm)
  | @block body rest hbody hclosing hrest ih =>
    rcases append_singleton_cases hwhole with ⟨_, hstart⟩ | ⟨init, hinit, rfl⟩
    · have hends : '/' :: '*' :: body ++ ['*'] ++ ['/'] = text ++ [c] := by
        rw [← hstart, List.append_assoc]
        rfl
      have hlast := (List.append_inj' hends rfl).2
      exact absurd (List.singleton_inj.mp hlast).symm hslash
    · exact .block hbody hclosing (ih hinit.symm)
  | @line body rest d hbody hbreak hrest ih =>
    rcases @append_singleton_cases text ('/' :: '/' :: body ++ [d]) rest c
      (by rw [hwhole, List.append_cons]) with ⟨_, hstart⟩ | ⟨init, hinit, rfl⟩
    · obtain ⟨htext, _⟩ := List.append_inj' hstart rfl
      exact htext ▸ .unclosed rfl hbody
    · have hline := Commentary.line hbody hbreak (ih hinit.symm)
      rwa [List.append_cons] at hline
  | @unclosed body hclosed hbody =>
    rcases @append_singleton_cases text ['/', '/'] body c hwhole with
      ⟨_, hstart⟩ | ⟨init, hinit, rfl⟩
    · have hlast : ['/'] = [c] := (@List.append_inj' _ ['/'] ['/'] text [c] hstart rfl).2
      exact absurd (List.singleton_inj.mp hlast).symm hslash
    · rw [hinit] at hbody
      exact .unclosed rfl (List.forall_mem_append.mp hbody).1

theorem weaken (h : Commentary closed text) : Commentary false text := by
  induction h with
  | nil => exact .nil
  | blank hc _ ih => exact .blank hc ih
  | block hbody hclosing _ ih => exact .block hbody hclosing ih
  | line hbody hbreak _ ih => exact .line hbody hbreak ih
  | unclosed _ hbody => exact .unclosed rfl hbody

theorem of_append_blanks {blanks : List Char} (hblank : ∀ c ∈ blanks, isBlank c = true)
    (h : Commentary false (text ++ blanks)) : Commentary false text := by
  induction blanks using List.reverseRecOn with
  | nil => rwa [List.append_nil] at h
  | append_singleton blanks c ih =>
    obtain ⟨hblanks, hc⟩ := List.forall_mem_append.mp hblank
    rw [← List.append_assoc] at h
    exact ih hblanks (of_append_blank (hc c (List.mem_singleton_self c)) h)

theorem trimEnd (h : Commentary closed text) : Commentary false (trimEnd text) := by
  obtain ⟨blanks, hblank, htext⟩ := exists_trimEnd_append text
  apply of_append_blanks hblank
  rw [← htext]
  exact h.weaken

theorem isBreak_block {body : List Char} (h : ∀ c ∈ body, isBreak c = false) :
    ∀ c ∈ '/' :: '*' :: (body ++ ['*', '/']), isBreak c = false := by
  refine List.forall_mem_cons.mpr ⟨by decide, ?_⟩
  refine List.forall_mem_cons.mpr ⟨by decide, ?_⟩
  exact List.forall_mem_append.mpr ⟨h, any_isBreak_eq_false.mp (by decide)⟩

theorem isBreak_line {body : List Char} (h : ∀ c ∈ body, isBreak c = false) :
    ∀ c ∈ '/' :: '/' :: body, isBreak c = false := by
  refine List.forall_mem_cons.mpr ⟨by decide, ?_⟩
  exact List.forall_mem_cons.mpr ⟨by decide, h⟩

/-- The rest of commentary behind its first line break is commentary. -/
theorem exists_first_break (h : Commentary closed text) (hbreak : text.any isBreak = true) :
    ∃ start c rest, text = start ++ c :: rest ∧ (∀ d ∈ start, isBreak d = false) ∧
      isBreak c = true ∧ Commentary closed rest := by
  induction h with
  | nil => simp at hbreak
  | @blank d rest hd hrest ih =>
    cases hd' : isBreak d with
    | true => exact ⟨[], d, rest, rfl, by simp, hd', hrest⟩
    | false =>
      rw [List.any_cons, hd', Bool.false_or] at hbreak
      obtain ⟨start, c, tail, rfl, hstart, hc, htail⟩ := ih hbreak
      exact ⟨d :: start, c, tail, rfl, List.forall_mem_cons.mpr ⟨hd', hstart⟩, hc, htail⟩
  | @block body rest hbody hclosing hrest ih =>
    rw [List.any_append, any_isBreak_eq_false.mpr (isBreak_block hbody), Bool.false_or] at hbreak
    obtain ⟨start, c, tail, rfl, hstart, hc, htail⟩ := ih hbreak
    refine ⟨'/' :: '*' :: (body ++ ['*', '/']) ++ start, c, tail, ?_, ?_, hc, htail⟩
    · rw [List.append_assoc]
    · exact List.forall_mem_append.mpr ⟨isBreak_block hbody, hstart⟩
  | @line body rest c hbody hc hrest ih =>
    exact ⟨'/' :: '/' :: body, c, rest, rfl, isBreak_line hbody, hc, hrest⟩
  | @unclosed body hclosed hbody =>
    rw [any_isBreak_eq_false.mpr (isBreak_line hbody)] at hbreak
    exact absurd hbreak Bool.false_ne_true

end Commentary

/-- A text leads from one mode to another with all of its ink in comments. -/
def Hides (mode : Mode) (text : List Char) (mode' : Mode) : Prop :=
  ∃ marks, Scans mode text marks mode' ∧
    List.Forall₂ (fun c inside ↦ isBlank c = true ∨ inside = true) text marks

namespace Hides

theorem append {mode mode' mode'' : Mode} {text text' : List Char}
    (h : Hides mode text mode') (h' : Hides mode' text' mode'') :
    Hides mode (text ++ text') mode'' := by
  obtain ⟨marks, hscan, hmarks⟩ := h
  obtain ⟨marks', hscan', hmarks'⟩ := h'
  exact ⟨marks ++ marks', hscan.append hscan', List.rel_append hmarks hmarks'⟩

theorem of_true {mode mode' : Mode} {text : List Char}
    (h : Scans mode text (text.map fun _ ↦ true) mode') : Hides mode text mode' := by
  refine ⟨_, h, ?_⟩
  rw [List.forall₂_map_right_iff, List.forall₂_same]
  intro c _
  exact .inr rfl

theorem of_blank {mode mode' : Mode} {c : Char} {mark : Bool} (hc : isBlank c = true)
    (h : Scans mode [c] [mark] mode') : Hides mode [c] mode' :=
  ⟨[mark], h, .cons (.inl hc) .nil⟩

end Hides

namespace Commentary

variable {closed : Bool} {text : List Char}

/-- The mode after a text: code, or a line comment that nothing closes. -/
def Settles (closed : Bool) (text : List Char) (mode : Mode) : Prop :=
  mode = .code ∨ closed = false ∧ mode = .line ∧ ∃ c ∈ text.getLast?, isBreak c = false

theorem Settles.append_left {mode : Mode} (h : Settles closed text mode) (start : List Char) :
    Settles closed (start ++ text) mode := by
  rcases h with hcode | ⟨hclosed, hline, c, hc, hbreak⟩
  · exact .inl hcode
  · refine .inr ⟨hclosed, hline, c, ?_, hbreak⟩
    rw [List.getLast?_append, hc, Option.some_or]
    exact rfl

/-- Commentary that is read as code hides its ink. -/
theorem hides_code (h : Commentary closed text) :
    ∃ mode, Hides .code text mode ∧ Settles closed text mode := by
  induction h with
  | nil => exact ⟨.code, ⟨[], Scans.nil .code, .nil⟩, .inl rfl⟩
  | @blank c rest hc hrest ih =>
    obtain ⟨mode, hhides, hmode⟩ := ih
    have hslash : '/' ∉ [c] := by
      intro hmem
      rw [← List.mem_singleton.mp hmem, not_isBlank_slash] at hc
      exact Bool.false_ne_true hc
    have hblank := Hides.of_blank hc (Scans.of_plain (Plain.of_not_mem hslash))
    exact ⟨mode, hblank.append hhides, hmode.append_left [c]⟩
  | @block body rest hbody hclosing hrest ih =>
    obtain ⟨mode, hhides, hmode⟩ := ih
    have hblock : Hides .code ('/' :: '*' :: (body ++ ['*', '/'])) .code := by
      apply Hides.of_true
      have hscan := Scans.block hclosing
      simpa using hscan
    exact ⟨mode, hblock.append hhides, hmode.append_left _⟩
  | @line body rest c hbody hc hrest ih =>
    obtain ⟨mode, hhides, hmode⟩ := ih
    have hline : Hides .code ('/' :: '/' :: body) .line :=
      Hides.of_true (Scans.openLine.append (Scans.line_of_forall hbody))
    have hbreak := Hides.of_blank (isBlank_of_isBreak hc) (Scans.line_break hc)
    exact ⟨mode, hline.append (hbreak.append hhides), (hmode.append_left [c]).append_left _⟩
  | @unclosed body hclosed hbody =>
    have hlast := List.getLast?_eq_getLast_of_ne_nil (List.cons_ne_nil '/' ('/' :: body))
    refine ⟨.line, Hides.of_true (Scans.openLine.append (Scans.line_of_forall hbody)),
      .inr ⟨hclosed, rfl, _, hlast, ?_⟩⟩
    exact isBreak_line hbody _ (List.getLast_mem _)

/-- Commentary behind a line comment ends it at its first break. -/
theorem hides_line (h : Commentary closed text) (hbreak : text.any isBreak = true) :
    ∃ mode, Hides .line text mode ∧ Settles closed text mode := by
  obtain ⟨start, c, rest, rfl, hstart, hc, hrest⟩ := h.exists_first_break hbreak
  obtain ⟨mode, hhides, hmode⟩ := hrest.hides_code
  have hline := Hides.of_true (Scans.line_of_forall hstart)
  have hend := Hides.of_blank (isBlank_of_isBreak hc) (Scans.line_break hc)
  exact ⟨mode, hline.append (hend.append hhides), (hmode.append_left [c]).append_left start⟩

end Commentary

end CodeBehind.Comments
