import CodeBehind.Text.Blank

/-!
# Single-quoted literals of a script

`escape` writes the inside of a single-quoted string literal.  What would end the literal or
break its line is written as an escape, and all else as it is.
-/

namespace CodeBehind.Text

/-- The inside of a single-quoted literal that stands for the text. -/
def escape : List Char → List Char
  | [] => []
  | c :: cs =>
    let written :=
      if c == '\x5c' then ['\x5c', '\x5c']
      else if c == '\x27' then ['\x5c', '\x27']
      else if c == '\n' then ['\x5c', 'n']
      else if c == '\r' then ['\x5c', 'r']
      else if c == '\u2028' then ['\x5c', 'u', '2', '0', '2', '8']
      else if c == '\u2029' then ['\x5c', 'u', '2', '0', '2', '9']
      else [c]
    written ++ escape cs

/-- The characters that do not stand for themselves. -/
def escaped : List Char :=
  ['\x5c', '\x27', '\n', '\r', '\u2028', '\u2029']

/-- The characters that escapes are made of. -/
def escapeLetters : List Char :=
  ['\x5c', '\x27', 'n', 'r', 'u', '2', '0', '8', '9']

/-- A character stands for itself, or an escape stands for it. -/
theorem escape_cons_cases (c : Char) (cs : List Char) :
    (c ∉ escaped ∧ escape (c :: cs) = c :: escape cs) ∨
      c ∈ escaped ∧ ∃ written, escape (c :: cs) = written ++ escape cs ∧
        written.head? = some '\x5c' ∧ ∀ d ∈ written, d ∈ escapeLetters := by
  by_cases h : c ∈ escaped
  · refine .inr ⟨h, _, rfl, ?_⟩
    simp only [escaped, List.mem_cons, List.not_mem_nil, or_false] at h
    rcases h with rfl | rfl | rfl | rfl | rfl | rfl <;> simp [escapeLetters]
  · refine .inl ⟨h, ?_⟩
    simp only [escaped, List.mem_cons, List.not_mem_nil, or_false, not_or] at h
    simp [escape, h]

/-- What is written is a letter of an escape, or a character of the text that stands for itself. -/
theorem mem_escape {text : List Char} {c : Char} (h : c ∈ escape text) :
    c ∈ escapeLetters ∨ c ∉ escaped ∧ c ∈ text := by
  induction text with
  | nil => cases h
  | cons first rest ih =>
    have hrest (hmem : c ∈ escape rest) :
        c ∈ escapeLetters ∨ c ∉ escaped ∧ c ∈ first :: rest :=
      (ih hmem).imp_right fun ⟨hself, hmem⟩ ↦ ⟨hself, List.mem_cons_of_mem first hmem⟩
    rcases escape_cons_cases first rest with ⟨hfirst, hself⟩ | ⟨_, written, hescape, _, hletters⟩
    · rw [hself] at h
      rcases List.mem_cons.mp h with rfl | hmem
      · exact .inr ⟨hfirst, List.mem_cons_self ..⟩
      · exact hrest hmem
    · rw [hescape] at h
      rcases List.mem_append.mp h with hmem | hmem
      · exact .inl (hletters c hmem)
      · exact hrest hmem

/-- What would end the line of a literal is escaped. -/
theorem isLineTerminator_escape {text : List Char} {c : Char} (h : c ∈ escape text) :
    isLineTerminator c = false := by
  rcases mem_escape h with hletter | ⟨hself, _⟩
  · have hletters : escapeLetters.all (!isLineTerminator ·) = true := by decide
    exact (Bool.not_eq_true' _).mp (List.all_eq_true.mp hletters c hletter)
  · simp only [escaped, List.mem_cons, not_or] at hself
    simp [isLineTerminator, isBreak, hself]

end CodeBehind.Text
