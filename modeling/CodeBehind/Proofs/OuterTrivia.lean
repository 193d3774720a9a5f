import CodeBehind.Proofs.SourceText
import Mathlib.Data.List.Basic

/-!
# The row of tokens of an expression

An expression is a row of tokens, and its source text is theirs.  What stands before the first token
and after the last is its outer trivia, although the first is found by going to the left through
assignments only and the last by going inward through casts.  So the offsets between which the text
is cut out lie in order between characters of the full text, and the text is the same for all
expressions whose tokens are equal but for the trivia at the two ends of the row.
-/

namespace CodeBehind

namespace Text

/-- Bytes are counted as strings count them. -/
theorem byteCount_eq_utf8ByteSize (cs : List Char) :
    byteCount cs = (String.ofList cs).utf8ByteSize := by
  induction cs with
  | nil => rfl
  | cons c cs ih =>
    have hcons : String.ofList (c :: cs) = String.singleton c ++ String.ofList cs := by
      rw [← String.toList_inj, String.toList_append, String.toList_ofList, String.toList_ofList,
        String.toList_singleton, List.singleton_append]
    rw [byteCount, ih, hcons, String.utf8ByteSize_append, String.utf8ByteSize_singleton]

theorem byteCount_toList (text : String) : byteCount text.toList = text.utf8ByteSize := by
  rw [byteCount_eq_utf8ByteSize, String.ofList_toList]

end Text

namespace Source

/-! ## Rows of tokens -/

namespace Token

/-- The row without the trivia before its first token. -/
def rowWithoutLeading : List Token → List Token
  | [] => []
  | first :: rest => { first with leading := {} } :: rest

/-- The row without the trivia after its last token. -/
def rowWithoutTrailing : List Token → List Token
  | [] => []
  | [last] => [{ last with trailing := {} }]
  | first :: second :: rest => first :: rowWithoutTrailing (second :: rest)

/-- The row without the trivia at its two ends. -/
def bareRow (row : List Token) : List Token :=
  rowWithoutTrailing (rowWithoutLeading row)

theorem rowWithoutLeading_append {row : List Token} (h : row ≠ []) (rest : List Token) :
    rowWithoutLeading (row ++ rest) = rowWithoutLeading row ++ rest := by
  cases row with
  | nil => exact absurd rfl h
  | cons first others => rfl

theorem rowWithoutTrailing_cons (first : Token) {rest : List Token} (h : rest ≠ []) :
    rowWithoutTrailing (first :: rest) = first :: rowWithoutTrailing rest := by
  cases rest with
  | nil => exact absurd rfl h
  | cons second others => rfl

theorem rowWithoutTrailing_append (row : List Token) {rest : List Token} (h : rest ≠ []) :
    rowWithoutTrailing (row ++ rest) = row ++ rowWithoutTrailing rest := by
  induction row with
  | nil => rfl
  | cons first others ih =>
    rw [List.cons_append, rowWithoutTrailing_cons first (List.append_ne_nil_of_right_ne_nil _ h),
      ih, List.cons_append]

/-- The texts of a row, one after the other, with all trivia. -/
def rowText (row : List Token) : String :=
  String.join (row.map Token.fullText)

@[simp]
theorem rowText_nil : rowText [] = "" := rfl

@[simp]
theorem rowText_cons (first : Token) (rest : List Token) :
    rowText (first :: rest) = first.fullText ++ rowText rest := by
  rw [rowText, List.map_cons, String.join_cons]
  rfl

@[simp]
theorem rowText_append (row rest : List Token) :
    rowText (row ++ rest) = rowText row ++ rowText rest := by
  rw [rowText, List.map_append, String.join_append]
  rfl

end Token

namespace Expression

open Token

/-- The tokens of an expression, in the order of the source. -/
def tokens : Expression → List Token
  | assignment left operator right => left.tokens ++ operator :: right.tokens
  | compound left operator right => left.tokens ++ operator :: right.tokens
  | cast opening type closing operand => opening :: type.token :: closing :: operand.tokens
  | verbatim token => [token]

theorem tokens_ne_nil (e : Expression) : e.tokens ≠ [] := by
  cases e <;> simp [tokens]

theorem fullText_eq_rowText (e : Expression) : e.fullText = rowText e.tokens := by
  induction e with
  | assignment left operator right ihLeft ihRight =>
    rw [fullText, tokens, rowText_append, rowText_cons, ihLeft, ihRight, String.append_assoc]
  | compound left operator right ihLeft ihRight =>
    rw [fullText, tokens, rowText_append, rowText_cons, ihLeft, ihRight, String.append_assoc]
  | cast opening type closing operand ih =>
    simp only [fullText, tokens, rowText_cons, ih, String.append_assoc]
  | verbatim token =>
    rw [fullText, tokens, rowText_cons, rowText_nil, String.append_empty]

/-- The trivia before an expression is that of its first token. -/
theorem head?_tokens (e : Expression) : e.tokens.head?.map Token.leading = some e.leading := by
  induction e with
  | assignment left operator right ih =>
    rw [tokens, List.head?_append_of_ne_nil _ left.tokens_ne_nil, ih, leading]
  | compound left operator right ih =>
    rw [tokens, List.head?_append_of_ne_nil _ left.tokens_ne_nil, ih, leading]
  | cast opening type closing operand => rfl
  | verbatim token => rfl

/-- The trivia after an expression is that of its last token. -/
theorem getLast?_tokens (e : Expression) :
    e.tokens.getLast?.map Token.trailing = some e.trailing := by
  induction e with
  | assignment left operator right _ ih =>
    rw [tokens, List.getLast?_append_of_ne_nil _ (List.cons_ne_nil _ _),
      List.getLast?_cons_of_ne_nil right.tokens_ne_nil, ih, trailing]
  | compound left operator right _ ih =>
    rw [tokens, List.getLast?_append_of_ne_nil _ (List.cons_ne_nil _ _),
      List.getLast?_cons_of_ne_nil right.tokens_ne_nil, ih, trailing]
  | cast opening type closing operand ih =>
    have hne := operand.tokens_ne_nil
    simp only [tokens, List.getLast?_cons_of_ne_nil, hne, ne_eq, not_false_eq_true, reduceCtorEq,
      ih, trailing]
  | verbatim token => rfl

theorem tokens_withoutLeading (e : Expression) :
    e.withoutLeading.tokens = rowWithoutLeading e.tokens := by
  induction e with
  | assignment left operator right ih =>
    rw [withoutLeading, tokens, tokens, ih, rowWithoutLeading_append left.tokens_ne_nil]
  | compound left operator right ih =>
    rw [withoutLeading, tokens, tokens, ih, rowWithoutLeading_append left.tokens_ne_nil]
  | cast opening type closing operand => rfl
  | verbatim token => rfl

theorem tokens_withoutTrailing (e : Expression) :
    e.withoutTrailing.tokens = rowWithoutTrailing e.tokens := by
  induction e with
  | assignment left operator right _ ih =>
    rw [withoutTrailing, tokens, tokens, ih, rowWithoutTrailing_append _ (List.cons_ne_nil _ _),
      rowWithoutTrailing_cons _ right.tokens_ne_nil]
  | compound left operator right _ ih =>
    rw [withoutTrailing, tokens, tokens, ih, rowWithoutTrailing_append _ (List.cons_ne_nil _ _),
      rowWithoutTrailing_cons _ right.tokens_ne_nil]
  | cast opening type closing operand ih =>
    rw [withoutTrailing, tokens, tokens, ih, rowWithoutTrailing_cons _ (List.cons_ne_nil _ _),
      rowWithoutTrailing_cons _ (List.cons_ne_nil _ _),
      rowWithoutTrailing_cons _ operand.tokens_ne_nil]
  | verbatim token => rfl

/-- The text is that of the tokens without the trivia at the two ends. -/
theorem text_eq_rowText (e : Expression) : e.text = rowText (bareRow e.tokens) := by
  rw [text_eq_fullText_bare, fullText_eq_rowText, bare, tokens_withoutTrailing,
    tokens_withoutLeading, bareRow]

/-! ## Cutting out the text -/

theorem fullText_eq_text (e : Expression) :
    e.fullText = e.leading.text ++ e.text ++ e.trailing.text := by
  rw [text_eq_fullText_bare, ← fullText_eq_bare]

/-- Where the text is cut out of the full text: the offsets lie in order in the full text, none of
them inside of a character, and nothing but the text is between them. -/
structure CutOut (e : Expression) : Prop where
  trailing_le : Text.byteCount e.trailing.text.toList ≤ Text.byteCount e.fullText.toList
  start_le_stop : e.textStart ≤ e.textStop
  stop_le : e.textStop ≤ e.fullText.utf8ByteSize
  start_valid : String.Pos.Raw.IsValid e.fullText ⟨e.textStart⟩
  stop_valid : String.Pos.Raw.IsValid e.fullText ⟨e.textStop⟩
  slice : Text.slice? e.fullText.toList e.textStart e.textStop = some e.text.toList

theorem cutOut (e : Expression) : CutOut e := by
  have hfull := e.fullText_eq_text
  have hsize : e.fullText.utf8ByteSize =
      e.leading.text.utf8ByteSize + e.text.utf8ByteSize + e.trailing.text.utf8ByteSize := by
    rw [hfull, String.utf8ByteSize_append, String.utf8ByteSize_append]
  have hstart : e.textStart = e.leading.text.utf8ByteSize := Text.byteCount_toList _
  have hstop : e.textStop = (e.leading.text ++ e.text).utf8ByteSize := by
    rw [textStop, Text.byteCount_toList, Text.byteCount_toList, hsize, Nat.add_sub_cancel,
      String.utf8ByteSize_append]
  refine ⟨?_, ?_, ?_, ?_, ?_, ?_⟩
  · rw [Text.byteCount_toList, Text.byteCount_toList, hsize]
    exact Nat.le_add_left ..
  · rw [hstart, hstop, String.utf8ByteSize_append]
    exact Nat.le_add_right ..
  · rw [hstop, hsize, String.utf8ByteSize_append]
    exact Nat.le_add_right ..
  · rw [String.Pos.Raw.isValid_iff_exists_append, hstart]
    exact ⟨e.leading.text, e.text ++ e.trailing.text, by rw [hfull, String.append_assoc], rfl⟩
  · rw [String.Pos.Raw.isValid_iff_exists_append, hstop]
    exact ⟨e.leading.text ++ e.text, e.trailing.text, hfull, rfl⟩
  · rw [slice?_fullText, text_eq_fullText_bare]

/-- The full text is the trivia before the first token, the text, and the trivia after the last
token.  The text can be cut out of it, and of all trivia only what is inside has a say in it. -/
theorem text_between_trivia (e : Expression) :
    e.fullText = e.leading.text ++ e.text ++ e.trailing.text ∧ CutOut e ∧
      (e.fullText = rowText e.tokens ∧ e.tokens.head?.map Token.leading = some e.leading ∧
        e.tokens.getLast?.map Token.trailing = some e.trailing) ∧
      ∀ other : Expression, bareRow other.tokens = bareRow e.tokens → other.text = e.text := by
  refine ⟨e.fullText_eq_text, e.cutOut, ⟨e.fullText_eq_rowText, e.head?_tokens, e.getLast?_tokens⟩,
    fun other hrow ↦ ?_⟩
  calc
    other.text = rowText (bareRow other.tokens) := other.text_eq_rowText
    _ = rowText (bareRow e.tokens) := by rw [hrow]
    _ = e.text := e.text_eq_rowText.symm

/-- A cast that is assigned, between comments of characters with several bytes. -/
def castSize : Expression :=
  assignment (verbatim { text := "größe", leading := { text := "/* für später */ " } })
    (.spaced "=")
    (.castTo (.predefined { text := "int" })
      (verbatim { text := "x", trailing := { text := "\u2028// …" } }))

theorem text_between_trivia_castSize :
    castSize.fullText = "/* für später */ größe = (int)x\u2028// …" ∧ CutOut castSize ∧
      castSize.text = "größe = (int)x" ∧
      bareRow (assign (ofText "größe") (.castTo (.predefined { text := "int" })
        (ofText "x"))).tokens = bareRow castSize.tokens := by
  have hrow : bareRow (assign (ofText "größe") (.castTo (.predefined { text := "int" })
      (ofText "x"))).tokens = bareRow castSize.tokens := rfl
  obtain ⟨_, hcut, _, hsame⟩ := castSize.text_between_trivia
  exact ⟨rfl, hcut, (hsame _ hrow).symm.trans rfl, hrow⟩

end Expression

end Source

end CodeBehind
