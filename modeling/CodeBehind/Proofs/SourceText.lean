import CodeBehind.Source.Expression

/-!
# Source text and outer trivia

The full text of an expression is its outer leading trivia, its text and its outer trailing trivia,
so the byte offsets at which the text is cut out always fall between characters.  The text is the
full text of the expression once its outer trivia is taken away.
-/

namespace CodeBehind.Source.Expression

/-- The expression with nothing before its first token. -/
def withoutLeading : Expression → Expression
  | assignment left operator right => assignment left.withoutLeading operator right
  | compound left operator right => compound left.withoutLeading operator right
  | cast opening type closing operand => cast { opening with leading := {} } type closing operand
  | verbatim token => verbatim { token with leading := {} }

/-- The expression with nothing after its last token. -/
def withoutTrailing : Expression → Expression
  | assignment left operator right => assignment left operator right.withoutTrailing
  | compound left operator right => compound left operator right.withoutTrailing
  | cast opening type closing operand => cast opening type closing operand.withoutTrailing
  | verbatim token => verbatim { token with trailing := {} }

/-- The expression without its outer trivia. -/
def bare (e : Expression) : Expression :=
  e.withoutLeading.withoutTrailing

theorem trailing_withoutLeading (e : Expression) : e.withoutLeading.trailing = e.trailing := by
  induction e with
  | assignment left operator right => rfl
  | compound left operator right => rfl
  | cast opening type closing operand => rfl
  | verbatim token => rfl

theorem leading_append_withoutLeading (e : Expression) :
    e.leading.text ++ e.withoutLeading.fullText = e.fullText := by
  induction e with
  | assignment left operator right ihLeft =>
    simp only [leading, withoutLeading, fullText, ← String.append_assoc, ihLeft]
  | compound left operator right ihLeft =>
    simp only [leading, withoutLeading, fullText, ← String.append_assoc, ihLeft]
  | cast opening type closing operand =>
    simp only [leading, withoutLeading, fullText, Token.fullText, String.append_assoc,
      String.empty_append]
  | verbatim token =>
    simp only [leading, withoutLeading, fullText, Token.fullText, String.append_assoc,
      String.empty_append]

theorem withoutTrailing_append_trailing (e : Expression) :
    e.withoutTrailing.fullText ++ e.trailing.text = e.fullText := by
  induction e with
  | assignment left operator right _ ihRight =>
    simp only [trailing, withoutTrailing, fullText, String.append_assoc, ihRight]
  | compound left operator right _ ihRight =>
    simp only [trailing, withoutTrailing, fullText, String.append_assoc, ihRight]
  | cast opening type closing operand ih =>
    simp only [trailing, withoutTrailing, fullText, String.append_assoc, ih]
  | verbatim token =>
    simp only [trailing, withoutTrailing, fullText, Token.fullText, String.append_empty]

/-- The full text splits at the outer trivia. -/
theorem fullText_eq_bare (e : Expression) :
    e.fullText = e.leading.text ++ e.bare.fullText ++ e.trailing.text := by
  rw [← e.leading_append_withoutLeading, String.append_assoc, ← e.trailing_withoutLeading, bare,
    withoutTrailing_append_trailing]

/-- The offsets fall between characters, and what lies between them is the bare expression. -/
theorem slice?_fullText (e : Expression) :
    Text.slice? e.fullText.toList e.textStart e.textStop = some e.bare.fullText.toList := by
  have hfull : e.fullText.toList =
      e.leading.text.toList ++ e.bare.fullText.toList ++ e.trailing.text.toList := by
    rw [← String.toList_append, ← String.toList_append, ← fullText_eq_bare]
  have hstop : e.textStop =
      Text.byteCount (e.leading.text.toList ++ e.bare.fullText.toList) := by
    rw [textStop, hfull, Text.byteCount_append, Nat.add_sub_cancel]
  rw [Text.slice?, hstop, hfull, Text.cut?_append]
  simp only [Option.bind_eq_bind, Option.bind_some]
  rw [textStart, Text.cut?_append]
  rfl

theorem text_eq_fullText_bare (e : Expression) : e.text = e.bare.fullText := by
  rw [text, slice?_fullText, Option.getD_some, String.ofList_toList]

theorem withoutLeading_withoutLeading (e : Expression) :
    e.withoutLeading.withoutLeading = e.withoutLeading := by
  induction e <;> simp_all [withoutLeading]

theorem withoutTrailing_withoutTrailing (e : Expression) :
    e.withoutTrailing.withoutTrailing = e.withoutTrailing := by
  induction e <;> simp_all [withoutTrailing]

theorem withoutLeading_withoutTrailing (e : Expression) :
    e.withoutTrailing.withoutLeading = e.withoutLeading.withoutTrailing := by
  induction e <;> simp_all [withoutLeading, withoutTrailing]

theorem bare_bare (e : Expression) : e.bare.bare = e.bare := by
  rw [bare, bare, withoutLeading_withoutTrailing, withoutLeading_withoutLeading,
    withoutTrailing_withoutTrailing]

/-- The text does not depend on the outer trivia. -/
theorem text_bare (e : Expression) : e.bare.text = e.text := by
  rw [text_eq_fullText_bare, bare_bare, text_eq_fullText_bare]

end CodeBehind.Source.Expression
