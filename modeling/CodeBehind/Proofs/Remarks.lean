import CodeBehind.Proofs.Anatomy

/-!
# Comments of a file in its script

Trivia with a comment in it should stand in the script with all its ink, between the parts that are
before and behind it in the source.  This is so for all trivia but the trivia at the end of a block,
which is left out.  So a script has all comments of its file exactly if no block of the file ends in
a comment.
-/

namespace CodeBehind

open Text

/-! ## Comments have ink -/

theorem mem_of_mem_lines {cs line : List Char} (hline : line ∈ lines cs) {c : Char}
    (hc : c ∈ line) : c ∈ cs := by
  have hpieces (pieces : List (List Char)) (h : line ∈ linesOfPieces pieces) :
      ∃ piece ∈ pieces, c ∈ piece := by
    fun_induction linesOfPieces pieces with
    | case1 => cases h
    | case2 piece hempty => cases h
    | case3 piece hempty =>
      exact ⟨piece, List.mem_singleton_self piece, List.mem_singleton.mp h ▸ hc⟩
    | case4 piece rest hrest ih =>
      rcases List.mem_cons.mp h with rfl | h
      · refine ⟨piece, List.mem_cons_self .., ?_⟩
        unfold dropReturn at hc
        split at hc
        · exact (List.dropLast_sublist piece).subset hc
        · exact hc
      · obtain ⟨found, hfound, hmem⟩ := ih h
        exact ⟨found, List.mem_cons_of_mem _ hfound, hmem⟩
  obtain ⟨piece, hpiece, hmem⟩ := hpieces _ hline
  have hflat := List.mem_flatten.mpr ⟨piece, hpiece, hmem⟩
  rw [flatten_pieces] at hflat
  exact (List.mem_filter.mp hflat).1

theorem Source.Trivia.inked_ne_nil {trivia : Trivia} (h : trivia.hasComments = true) :
    inked trivia.text.toList ≠ [] := by
  obtain ⟨line, hline, hstarts⟩ := List.any_eq_true.mp h
  have hslash : '/' ∈ trimStart line := by
    simp only [startsComment, Bool.or_eq_true, List.isPrefixOf_iff_prefix] at hstarts
    rcases hstarts with hopens | hopens
    · exact hopens.subset (List.mem_cons_self ..)
    · exact hopens.subset (List.mem_cons_self ..)
  have hmem : '/' ∈ trivia.text.toList := by
    obtain ⟨blanks, _, htext⟩ := exists_append_trimStart line
    apply mem_of_mem_lines hline
    rw [htext]
    exact List.mem_append_right _ hslash
  exact List.ne_nil_of_mem (List.mem_filter.mpr ⟨hmem, by decide⟩)

namespace Anatomy

open Source

/-! ## What is due -/

/-- The ink that a part should leave: trivia with a comment in it all that it has. -/
def Part.due : Part → List Char
  | span keeping trivia =>
    if trivia.hasComments then inked trivia.text.toList else (span keeping trivia).ink
  | part => part.ink

/-- Trivia with a comment in it that is left out. -/
def Part.isLost : Part → Bool
  | span .dropped trivia => trivia.hasComments
  | _ => false

theorem Part.ink_span {keeping : Keeping} {trivia : Trivia} (hkeeping : keeping ≠ .dropped)
    (htrivia : trivia.hasComments = true) :
    (span keeping trivia).ink = inked trivia.text.toList := by
  have hspell : Meaning.spell [Meaning.comment trivia.text] = trivia.text.toList :=
    List.append_nil _
  cases keeping with
  | copied => rw [ink, pieces, hspell]
  | remarked => rw [ink, pieces, Meaning.remarks, if_pos htrivia, hspell]
  | dropped => exact absurd rfl hkeeping

/-- A part leaves what is due, unless it is lost: then something is due and nothing is left. -/
theorem Part.ink_cases (part : Part) :
    (part.isLost = false ∧ part.ink = part.due) ∨
      (part.isLost = true ∧ part.ink = [] ∧ part.due ≠ []) := by
  cases part with
  | site place => exact .inl ⟨rfl, rfl⟩
  | other pieces => exact .inl ⟨rfl, rfl⟩
  | span keeping trivia =>
    cases htrivia : trivia.hasComments with
    | false =>
      refine .inl ⟨?_, by rw [due, htrivia, if_neg Bool.false_ne_true]⟩
      cases keeping with
      | copied => rfl
      | remarked => rfl
      | dropped => exact htrivia
    | true =>
      have hdue : (span keeping trivia).due = inked trivia.text.toList := by
        rw [due, if_pos htrivia]
      cases keeping with
      | copied => exact .inl ⟨rfl, (ink_span (by decide) htrivia).trans hdue.symm⟩
      | remarked => exact .inl ⟨rfl, (ink_span (by decide) htrivia).trans hdue.symm⟩
      | dropped => exact .inr ⟨htrivia, rfl, hdue ▸ trivia.inked_ne_nil htrivia⟩

theorem length_flatMap_ink_le (parts : List Part) :
    (parts.flatMap Part.ink).length ≤ (parts.flatMap Part.due).length := by
  induction parts with
  | nil => exact Nat.le_refl _
  | cons part rest ih =>
    have hpart : part.ink.length ≤ part.due.length := by
      rcases part.ink_cases with ⟨_, heq⟩ | ⟨_, hnil, _⟩
      · rw [heq]
      · rw [hnil]
        exact Nat.zero_le _
    rw [List.flatMap_cons, List.flatMap_cons, List.length_append, List.length_append]
    exact Nat.add_le_add hpart ih

/-- What is lost is missed: nothing else makes up for its ink. -/
theorem flatMap_ink_eq_due_iff (parts : List Part) :
    parts.flatMap Part.ink = parts.flatMap Part.due ↔ ∀ part ∈ parts, part.isLost = false := by
  constructor
  · intro h part hmem
    obtain ⟨before, after, rfl⟩ := List.append_of_mem hmem
    rcases part.ink_cases with ⟨hkept, _⟩ | ⟨_, hink, hdue⟩
    · exact hkept
    · have hlength := congrArg List.length h
      simp only [List.flatMap_append, List.flatMap_cons, List.length_append, hink,
        List.length_nil] at hlength
      have hbefore := length_flatMap_ink_le before
      have hafter := length_flatMap_ink_le after
      have hpositive := List.length_pos_iff.mpr hdue
      omega
  · intro h
    induction parts with
    | nil => rfl
    | cons part rest ih =>
      obtain ⟨hpart, hrest⟩ := List.forall_mem_cons.mp h
      rcases part.ink_cases with ⟨_, heq⟩ | ⟨hlost, _, _⟩
      · rw [List.flatMap_cons, List.flatMap_cons, heq, ih hrest]
      · rw [hpart] at hlost
        cases hlost

end Anatomy

open Source Lowering Anatomy

/-- Trivia with a comment in it that is not at the end of a block stands in the script with all its
ink, between the ink of the parts before it and that of the parts behind it.  The script has the ink
of all comments, each in its place, if and only if no comment is lost at the end of a block. -/
theorem comments_emit {unit : CompilationUnit} {names : NodeNames} {options : Options}
    {text : String} (h : emit unit names options = .ok text) :
    (∀ before keeping trivia after,
        Anatomy.file names.names options.annotate options.readyEvent unit =
          before ++ .span keeping trivia :: after →
        keeping ≠ .dropped → trivia.hasComments = true →
          inked text.toList = before.flatMap Part.ink ++ inked trivia.text.toList ++
            after.flatMap Part.ink) ∧
      (inked text.toList =
          (Anatomy.file names.names options.annotate options.readyEvent unit).flatMap Part.due ↔
        ∀ part ∈ Anatomy.file names.names options.annotate options.readyEvent unit,
          part.isLost = false) := by
  have hink := inked_eq_flatMap_ink h
  constructor
  · intro before keeping trivia after hparts hkeeping htrivia
    rw [hink, hparts, List.flatMap_append, List.flatMap_cons, Part.ink_span hkeeping htrivia,
      List.append_assoc]
  · rw [hink]
    exact flatMap_ink_eq_due_iff _

/-- A class with a comment before its method, at the start of the body, before the else branch and
behind a return. -/
def notedMembers : List Declaration :=
  [.methodDecl
    { leading := { text := "\n  // checks x\n  " },
      identifier := { text := "Check" },
      parameters := [{ identifier := { text := "x" } }],
      body := some
        { leading := { text := " /* body */ " },
          statements :=
            [.ifElse {} (.ofText "x") (.block {} [.ret {} none { text := " // yes\n" }] {})
              { text := " // or else" } (.block {} [.ret {} none {}] {}) {}] } }]

def notedFile : CompilationUnit where
  members :=
    [.namespaceDecl { text := "#region\n" } { text := "App" }
      [.classDecl {} [] { text := "Main" } notedMembers {}] {}]

theorem comments_emit_notedFile :
    ∃ text, emit notedFile {} {} = .ok text ∧
      inked text.toList =
        (Anatomy.file [] true "DOMContentLoaded" notedFile).flatMap Part.due := by
  have hfailure : (lowerUnit {} {} notedFile).failure = none := by decide +kernel
  have hemit := emit_eq_ok_iff.mpr ⟨hfailure, rfl⟩
  have hkept : ∀ part ∈ Anatomy.file [] true "DOMContentLoaded" notedFile,
      part.isLost = false := by decide +kernel
  exact ⟨_, hemit, (comments_emit hemit).2.mpr hkept⟩

/-- A method whose body is a block that ends in a comment. -/
def endedFile : CompilationUnit where
  members :=
    [.namespaceDecl {} { text := "App" }
      [.classDecl {} [] { text := "Main" }
        [.methodDecl
          { identifier := { text := "Run" },
            body := some
              { statements := [.block {} [.ret {} none {}] { text := " // done\n" }] } }]
        {}]
      {}]

theorem not_isInfix_endedFile :
    ¬ ∀ (unit : CompilationUnit) (names : NodeNames) (options : Options) (text : String),
      emit unit names options = .ok text → ∀ keeping (trivia : Trivia),
        .span keeping trivia ∈ Anatomy.file names.names options.annotate options.readyEvent unit →
        trivia.hasComments = true → inked trivia.text.toList <:+: inked text.toList := by
  intro h
  have hfailure : (lowerUnit {} {} endedFile).failure = none := by decide +kernel
  have hspan : Part.span .dropped { text := " // done\n" } ∈
      Anatomy.file [] true "DOMContentLoaded" endedFile := by decide +kernel
  have hemit := emit_eq_ok_iff.mpr ⟨hfailure, rfl⟩
  have hinfix := h endedFile {} {} _ hemit _ _ hspan (by decide)
  rw [inked_eq_flatMap_ink hemit] at hinfix
  -- There is not even a slash in the script.
  have hslash := hinfix.subset (by decide : '/' ∈ inked " // done\n".toList)
  have hnone : '/' ∉ (Anatomy.file [] true "DOMContentLoaded" endedFile).flatMap Part.ink := by
    decide +kernel
  exact hnone hslash

end CodeBehind
