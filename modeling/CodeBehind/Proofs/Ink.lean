import CodeBehind.Layout
import CodeBehind.Source.Token
import Mathlib.Data.List.TakeWhile
import Mathlib.Tactic.Common

/-!
# What trimming and joining leave of a text

Trimming, putting a text on one line and splitting off leading line breaks remove or add blanks
only, so the ink of a text survives each of them.  Trimming twice is trimming once.
-/

namespace CodeBehind.Text

theorem any_isBreak_eq_false {cs : List Char} :
    cs.any isBreak = false ↔ ∀ c ∈ cs, isBreak c = false := by
  simp

theorem inked_eq_nil {cs : List Char} (h : ∀ c ∈ cs, isBlank c = true) : inked cs = [] := by
  apply List.filter_eq_nil_iff.mpr
  intro c hc
  simp [h c hc]

/-! ## Trimming -/

/-- What trimming at the start removes. -/
theorem exists_append_trimStart (cs : List Char) :
    ∃ blanks, (∀ c ∈ blanks, isBlank c = true) ∧ cs = blanks ++ trimStart cs := by
  refine ⟨cs.takeWhile isBlank, ?_, List.takeWhile_append_dropWhile.symm⟩
  intro c hc
  exact List.mem_takeWhile_imp hc

/-- What trimming at the end removes. -/
theorem exists_trimEnd_append (cs : List Char) :
    ∃ blanks, (∀ c ∈ blanks, isBlank c = true) ∧ cs = trimEnd cs ++ blanks := by
  obtain ⟨blanks, hblank, hcs⟩ := exists_append_trimStart cs.reverse
  refine ⟨blanks.reverse, fun c hc ↦ hblank c (List.mem_reverse.mp hc), ?_⟩
  have h := congrArg List.reverse hcs
  rwa [List.reverse_reverse, List.reverse_append] at h

@[simp]
theorem inked_trimStart (cs : List Char) : inked (trimStart cs) = inked cs := by
  obtain ⟨blanks, hblank, hcs⟩ := exists_append_trimStart cs
  conv_rhs => rw [hcs, inked_append, inked_eq_nil hblank, List.nil_append]

@[simp]
theorem inked_trimEnd (cs : List Char) : inked (trimEnd cs) = inked cs := by
  obtain ⟨blanks, hblank, hcs⟩ := exists_trimEnd_append cs
  conv_rhs => rw [hcs, inked_append, inked_eq_nil hblank, List.append_nil]

@[simp]
theorem inked_trim (cs : List Char) : inked (trim cs) = inked cs := by
  rw [trim, inked_trimEnd, inked_trimStart]

/-- A text that does not start with a blank is left alone at its start. -/
theorem trimStart_eq_self {cs : List Char} (h : ∀ c ∈ cs.head?, isBlank c = false) :
    trimStart cs = cs := by
  cases cs with
  | nil => rfl
  | cons c rest => simp [trimStart, h c rfl]

theorem head?_trimStart (cs : List Char) : ∀ c ∈ (trimStart cs).head?, isBlank c = false := by
  intro c hc
  have h := List.head?_dropWhile_not isBlank cs
  rw [show (cs.dropWhile isBlank).head? = some c from hc] at h
  simpa using h

theorem trimEnd_trimEnd (cs : List Char) : trimEnd (trimEnd cs) = trimEnd cs := by
  have h := trimStart_eq_self (head?_trimStart cs.reverse)
  unfold trimStart at h
  unfold trimEnd
  rw [List.reverse_reverse, h]

/-- Trimming the end of a text keeps its first character, unless nothing is left. -/
theorem head?_trimEnd {cs : List Char} {c : Char} (h : (trimEnd cs).head? = some c) :
    cs.head? = some c := by
  obtain ⟨blanks, _, hcs⟩ := exists_trimEnd_append cs
  rw [hcs, List.head?_append, h, Option.some_or]

theorem trim_trim (cs : List Char) : trim (trim cs) = trim cs := by
  have hstart : trimStart (trim cs) = trim cs := by
    apply trimStart_eq_self
    intro c hc
    exact head?_trimStart cs c (head?_trimEnd hc)
  rw [trim, hstart, trim, trimEnd_trimEnd]

/-! ## Putting a text on one line -/

/-- Nothing but separators is lost between the pieces of a text. -/
theorem flatten_pieces (isSeparator : Char → Bool) (cs : List Char) :
    (pieces isSeparator cs).flatten = cs.filter (!isSeparator ·) := by
  induction cs with
  | nil => rfl
  | cons c rest ih =>
    rw [pieces]
    by_cases hc : isSeparator c = true
    · simp [hc, ih]
    · cases hpieces : pieces isSeparator rest with
      | nil =>
        rw [hpieces] at ih
        simp_all
      | cons piece others =>
        rw [hpieces] at ih
        simp_all

theorem inked_flatten (parts : List (List Char)) :
    inked parts.flatten = (parts.map inked).flatten :=
  List.filter_flatten

theorem inked_intercalate_space (parts : List (List Char)) :
    inked ([' '].intercalate parts) = inked parts.flatten := by
  induction parts with
  | nil => rfl
  | cons part rest ih =>
    cases rest with
    | nil => simp
    | cons next others =>
      rw [List.intercalate_cons_cons, inked_append, inked_append, ih,
        inked_eq_nil (List.all_eq_true.mp (by decide : [' '].all isBlank = true)), List.append_nil,
        List.flatten_cons (l := part), inked_append]

@[simp]
theorem inked_singleLine (cs : List Char) : inked (singleLine cs) = inked cs := by
  have hfilter (parts : List (List Char)) :
      (parts.filter (!·.isEmpty)).flatten = parts.flatten := by
    induction parts with
    | nil => rfl
    | cons part rest ih => cases part <;> simp [ih]
  have hbreak : inked (cs.filter (!isBreak ·)) = inked cs := by
    unfold inked
    rw [List.filter_filter]
    apply List.filter_congr
    intro c _
    cases hc : isBreak c with
    | false => simp
    | true => simp [isBlank_of_isBreak hc]
  calc
    inked (singleLine cs) = inked ((pieces isBreak cs).map trim).flatten := by
      rw [singleLine, inked_intercalate_space, hfilter]
    _ = (((pieces isBreak cs).map trim).map inked).flatten := inked_flatten _
    _ = ((pieces isBreak cs).map inked).flatten := by
      rw [List.map_map]
      congr 2
      funext part
      exact inked_trim part
    _ = inked cs := by rw [← inked_flatten, flatten_pieces, hbreak]

theorem mem_of_mem_trim {cs : List Char} {c : Char} (h : c ∈ trim cs) : c ∈ cs := by
  obtain ⟨start, _, hstart⟩ := exists_append_trimStart cs
  obtain ⟨stop, _, hstop⟩ := exists_trimEnd_append (trimStart cs)
  rw [hstart, hstop]
  exact List.mem_append_right _ (List.mem_append_left _ h)

theorem mem_intercalate_space {parts : List (List Char)} {c : Char}
    (h : c ∈ [' '].intercalate parts) : c = ' ' ∨ ∃ part ∈ parts, c ∈ part := by
  induction parts with
  | nil => cases h
  | cons part rest ih =>
    cases rest with
    | nil => exact .inr ⟨part, List.mem_singleton_self part, by simpa using h⟩
    | cons next others =>
      rw [List.intercalate_cons_cons] at h
      rcases List.mem_append.mp h with h | h
      · rcases List.mem_append.mp h with h | h
        · exact .inr ⟨part, List.mem_cons_self .., h⟩
        · exact .inl (List.mem_singleton.mp h)
      · rcases ih h with rfl | ⟨found, hmem, hfound⟩
        · exact .inl rfl
        · exact .inr ⟨found, List.mem_cons_of_mem _ hmem, hfound⟩

/-- A text on one line has no breaks. -/
theorem isBreak_singleLine (cs : List Char) : ∀ c ∈ singleLine cs, isBreak c = false := by
  intro c hc
  rcases mem_intercalate_space hc with rfl | ⟨part, hpart, hmem⟩
  · decide
  · obtain ⟨piece, hpiece, rfl⟩ := List.mem_map.mp (List.mem_filter.mp hpart).1
    have hflat : c ∈ (pieces isBreak cs).flatten :=
      List.mem_flatten.mpr ⟨piece, hpiece, mem_of_mem_trim hmem⟩
    rw [flatten_pieces] at hflat
    simpa using (List.mem_filter.mp hflat).2

end CodeBehind.Text

namespace CodeBehind.Source

open Text

/-- Splitting off leading breaks removes blanks only.  What was read of the first line so far is
`start`. -/
theorem Trivia.exists_append_splitBreaksFrom {line start rest : List Char}
    (hline : line = start ++ rest) (hstart : ∀ c ∈ start, Text.isBlank c = true) :
    ∃ blanks, (∀ c ∈ blanks, Text.isBlank c = true) ∧
      line = blanks ++ (splitBreaksFrom line rest).2 := by
  fun_induction splitBreaksFrom line rest generalizing start with
  | case1 line => exact ⟨line, by simpa [hline] using hstart, by simp⟩
  | case2 line rest breaks content hsplit ih =>
    obtain ⟨blanks, hblank, hrest⟩ := @ih [] rfl (by simp)
    refine ⟨start ++ ['\r', '\n'] ++ blanks, ?_, ?_⟩
    · have hreturn : ∀ c ∈ ['\r', '\n'], Text.isBlank c = true :=
        List.all_eq_true.mp (by decide)
      exact List.forall_mem_append.mpr ⟨List.forall_mem_append.mpr ⟨hstart, hreturn⟩, hblank⟩
    · rw [hsplit] at hrest
      rw [hline, hrest]
      simp
  | case3 line c rest _ hbreak breaks content hsplit ih =>
    obtain ⟨blanks, hblank, hrest⟩ := @ih [] rfl (by simp)
    refine ⟨start ++ c :: blanks, ?_, ?_⟩
    · exact List.forall_mem_append.mpr
        ⟨hstart, List.forall_mem_cons.mpr ⟨isBlank_of_isBreak hbreak, hblank⟩⟩
    · rw [hsplit] at hrest
      rw [hline, hrest]
      simp
  | case4 line c rest _ _ hblank ih =>
    apply @ih (start ++ [c])
    · rw [hline, List.append_assoc, List.singleton_append]
    · exact List.forall_mem_append.mpr ⟨hstart, by simpa using hblank⟩
  | case5 line c rest _ _ _ => exact ⟨[], by simp, rfl⟩

theorem Trivia.exists_append_splitLeadingBreaks (trivia : Trivia) :
    ∃ blanks, (∀ c ∈ blanks, Text.isBlank c = true) ∧
      trivia.text.toList = blanks ++ trivia.splitLeadingBreaks.2.toList := by
  obtain ⟨blanks, hblank, htext⟩ :=
    @exists_append_splitBreaksFrom trivia.text.toList [] trivia.text.toList rfl (by simp)
  refine ⟨blanks, hblank, ?_⟩
  rw [splitLeadingBreaks, String.toList_ofList]
  exact htext

@[simp]
theorem Trivia.inked_splitLeadingBreaks (trivia : Trivia) :
    inked trivia.splitLeadingBreaks.2.toList = inked trivia.text.toList := by
  obtain ⟨blanks, hblank, htext⟩ := trivia.exists_append_splitLeadingBreaks
  rw [htext, inked_append, inked_eq_nil hblank, List.nil_append]

end CodeBehind.Source

/-! ## Layout -/

namespace CodeBehind

open Text

theorem isBlank_lineBreak (kind : LineBreak) : ∀ c ∈ kind.text.toList, isBlank c = true := by
  apply List.all_eq_true.mp
  cases kind <;> decide

theorem isBlank_indent (indent : Indent) (depth : Nat) :
    ∀ c ∈ (indent.text depth).toList, isBlank c = true := by
  intro c hc
  rcases Indent.eq_of_mem_text hc with rfl | rfl <;> rfl

end CodeBehind
