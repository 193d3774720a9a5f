import CodeBehind.Proofs.Acceptance

/-!
# Trivia in assignment chains

A chain is an assignment whose operands are tokens or further chains.  Written as a script it is its
source text without the trivia before its leaves, except that trivia behind a leaf is repeated.
Every assignment writes the trivia behind its operands, and what stands behind an inner assignment
stands behind the last leaf of it as well.  So a leaf has its trailing trivia once for each
assignment in a row that ends in it.
-/

namespace CodeBehind

open Source Lowering

/-- An expression made of assignments and tokens only. -/
inductive Chain where
  | leaf (token : Token)
  | assign (left : Chain) (operator : Token) (right : Chain)
deriving DecidableEq, Inhabited

namespace Chain

def expression : Chain → Expression
  | leaf token => .verbatim token
  | assign left operator right => .assignment left.expression operator right.expression

/-- The chain with nothing before its leaves. -/
def unled : Chain → Chain
  | leaf token => leaf { token with leading := {} }
  | assign left operator right => assign left.unled operator right.unled

/-- The leaves, each with the number of times that its trailing trivia is written if that of the
whole chain is written `closing` times behind it. -/
def copies (closing : Nat) : Chain → List (Token × Nat)
  | leaf token => [(token, closing)]
  | assign left _ right => left.copies 1 ++ right.copies (closing + 1)

/-- The text of the chain with that many copies of trailing trivia. -/
def written (closing : Nat) : Chain → String
  | leaf token => token.text ++ String.join (List.replicate closing token.trailing.text)
  | assign left operator right =>
    left.written 1 ++ operator.fullText ++ right.written (closing + 1)

theorem isCast_expression (c : Chain) : c.expression.isCast = false := by
  cases c <;> rfl

/-! ## What is written -/

/-- On a line without an open comment the script writes this text and nothing else. -/
def Writes (s : Script) (text : String) : Prop :=
  ∀ (layout : Layout) (w : Writer String), w.inComment = false →
    s.effect layout w = w.after text

theorem Writes.append {a b : Script} {first second : String} (ha : Writes a first)
    (hb : Writes b second) : Writes (a ++ b) (first ++ second) := by
  intro layout w hw
  have hafter : (w.after first).inComment = false := by
    rw [Writer.after_inComment, hw, Bool.false_and]
  rw [Script.effect_append, ha layout w hw, hb layout _ hafter, Writer.after_append]

theorem writes_verbatim (text : String) : Writes [.verbatim text] text :=
  fun layout w _ ↦ Instruction.apply_verbatim layout w text

theorem writes_code (text : String) : Writes [.code text] text := by
  intro layout w hw
  change (Instruction.code text).apply layout w = _
  rw [Instruction.apply_code, hw, Bool.false_and, if_neg Bool.false_ne_true]

theorem writes_operator (operator : Token) :
    Writes [.verbatim operator.leading.text, .code operator.text, .verbatim operator.trailing.text]
      operator.fullText :=
  ((writes_verbatim _).append (writes_code _)).append (writes_verbatim _)

theorem writes_replicate (n : Nat) (text : String) :
    Writes (List.replicate n (.verbatim text)) (String.join (List.replicate n text)) := by
  induction n with
  | zero => exact fun layout w _ ↦ rfl
  | succ n ih =>
    rw [List.replicate_succ, List.replicate_succ, String.join_cons]
    exact (writes_verbatim text).append ih

/-- A chain and the copies of its trailing trivia that the assignments around it write. -/
theorem writes_lowerExpressionAt (c : Chain) (level closing : Nat)
    (hdepth : level + c.expression.depth ≤ maxExpressionDepth) :
    Writes (lowerExpressionAt level c.expression ++
      List.replicate closing (.verbatim c.expression.trailing.text)) (c.written closing) := by
  induction c generalizing level closing with
  | leaf token =>
    rw [expression, lowerExpressionAt, if_neg (by omega)]
    exact (writes_code _).append (writes_replicate _ _)
  | assign left operator right ihLeft ihRight =>
    rw [expression, Expression.depth] at hdepth
    have hleft := ihLeft (level + 1) 1 (by omega)
    have hright := ihRight (level + 1) (closing + 1) (by omega)
    rw [expression, lowerExpressionAt, if_neg (by omega), operandTrivia, operandTrivia,
      isCast_expression, isCast_expression]
    -- The copy that this assignment writes is the first of those behind its last leaf.
    have hscript := (hleft.append (writes_operator operator)).append hright
    simpa [written, Expression.trailing, List.replicate_succ, String.append_assoc] using hscript

/-! ## What is repeated -/

/-- The source text without the trivia before the leaves. -/
def text (c : Chain) : String :=
  c.unled.expression.fullText

theorem text_leaf (token : Token) : (leaf token).text = token.text ++ token.trailing.text := by
  simp [text, unled, expression, Expression.fullText, Token.fullText]

theorem text_assign (left : Chain) (operator : Token) (right : Chain) :
    (assign left operator right).text = left.text ++ operator.fullText ++ right.text := rfl

theorem written_leaf_succ (token : Token) (closing : Nat) :
    (leaf token).written (closing + 1) =
      (leaf token).text ++ String.join (List.replicate closing token.trailing.text) := by
  rw [written, List.replicate_succ, String.join_cons, text_leaf, String.append_assoc]

/-- No part of a chain is written shorter than it is. -/
theorem length_text_le (c : Chain) (closing : Nat) :
    c.text.length ≤ (c.written (closing + 1)).length := by
  induction c generalizing closing with
  | leaf token =>
    rw [written_leaf_succ, String.length_append]
    exact Nat.le_add_right _ _
  | assign left operator right ihLeft ihRight =>
    have hleft : left.text.length ≤ (left.written 1).length := ihLeft 0
    have hright := ihRight (closing + 1)
    rw [text_assign, written]
    simp only [String.length_append]
    omega

/-- Two parts around an operator that are at least as long as they should be are right if the whole
is. -/
theorem operands_eq_iff {a b x y operator : String} (ha : a.length ≤ x.length)
    (hb : b.length ≤ y.length) :
    x ++ operator ++ y = a ++ operator ++ b ↔ x = a ∧ y = b := by
  constructor
  · intro h
    have hlength := congrArg String.length h
    simp only [String.length_append] at hlength
    have hlists := congrArg String.toList h
    simp only [String.toList_append, List.append_assoc] at hlists
    obtain ⟨hx, hrest⟩ := List.append_inj hlists (by simp only [String.length_toList]; omega)
    exact ⟨String.toList_inj.mp hx, String.toList_inj.mp (List.append_cancel_left hrest)⟩
  · rintro ⟨rfl, rfl⟩
    rfl

theorem join_replicate_eq_empty_iff (n : Nat) (text : String) :
    String.join (List.replicate n text) = "" ↔ n = 0 ∨ text = "" := by
  induction n with
  | zero => simp
  | succ n ih =>
    rw [List.replicate_succ, String.join_cons, String.append_eq_empty_iff, ih]
    simp +contextual

theorem written_succ_eq_text_iff (c : Chain) (closing : Nat) :
    c.written (closing + 1) = c.text ↔
      ∀ leaf ∈ c.copies (closing + 1), 1 < leaf.2 → leaf.1.trailing.text = "" := by
  induction c generalizing closing with
  | leaf token =>
    have hcancel (a b : String) : a ++ b = a ↔ b = "" := by
      rw [← String.toList_inj, String.toList_append, List.append_right_eq_self,
        String.toList_eq_nil_iff]
    have hmore : 1 < closing + 1 ↔ ¬ closing = 0 := by omega
    rw [written_leaf_succ, hcancel, join_replicate_eq_empty_iff, copies, List.forall_mem_singleton,
      hmore, or_iff_not_imp_left]
  | assign left operator right ihLeft ihRight =>
    have hleft : left.text.length ≤ (left.written 1).length := left.length_text_le 0
    rw [written, text_assign, operands_eq_iff hleft (right.length_text_le _), copies,
      List.forall_mem_append, ihLeft 0, ihRight (closing + 1)]

/-- A chain that is an assignment is written with the trivia behind its leaves.  A leaf has its
trivia as often as assignments in a row end in it, so what is written is the source text without the
trivia before the leaves if and only if no leaf with trivia behind it ends two assignments. -/
theorem run_assign (left : Chain) (operator : Token) (right : Chain) (layout : Layout)
    (w : Writer String) (hw : w.inComment = false)
    (hdepth : (assign left operator right).expression.depth ≤ maxExpressionDepth) :
    let chain := assign left operator right
    (lowerExpression chain.expression).run .unbounded layout w =
        (.ok (), w.after (chain.written 0)) ∧
      (w.after (chain.written 0)).sink = w.sink ++ chain.written 0 ∧
      (chain.written 0 = chain.text ↔
        ∀ leaf ∈ chain.copies 0, 1 < leaf.2 → leaf.1.trailing.text = "") := by
  intro chain
  have hfailure : (lowerExpression chain.expression).failure = none := by
    rw [lowerExpression, failure_lowerExpressionAt, Nat.zero_add, if_pos hdepth]
  have hwrites : Writes (lowerExpression chain.expression ++ []) (chain.written 0) :=
    chain.writes_lowerExpressionAt 0 0 (by rw [Nat.zero_add]; exact hdepth)
  rw [List.append_nil] at hwrites
  refine ⟨Prod.ext ?_ ?_, w.after_sink_eq _, ?_⟩
  · rw [Script.run_unbounded_fst, hfailure]
    rfl
  · rw [Script.run_eq_effect layout _ w hfailure]
    exact hwrites layout w hw
  · have hleft : left.text.length ≤ (left.written 1).length := left.length_text_le 0
    have hright : right.text.length ≤ (right.written 1).length := right.length_text_le 0
    rw [written, text_assign, operands_eq_iff hleft hright, copies, List.forall_mem_append,
      written_succ_eq_text_iff left 0, written_succ_eq_text_iff right 0]

/-- The chain `b = c` with a comment behind its last leaf. -/
def remarkedTail : Chain :=
  assign (.leaf { text := "b", leading := { text := "\n" } }) (.spaced "=")
    (.leaf { text := "c", trailing := { text := " /*last*/" } })

/-- The chain `a = b = c` with a comment behind its last leaf. -/
def remarkedChain : Chain :=
  assign (.leaf { text := "a" }) (.spaced "=") remarkedTail

theorem run_assign_remarkedChain :
    (lowerExpression remarkedChain.expression).run .unbounded {} .empty =
        (.ok (), Writer.empty.after "a = b = c /*last*/ /*last*/") ∧
      remarkedChain.written 0 ≠ remarkedChain.text := by
  obtain ⟨hrun, _, hexact⟩ := run_assign (.leaf { text := "a" }) (.spaced "=") remarkedTail {}
    .empty rfl (by decide)
  refine ⟨hrun, fun htext ↦ ?_⟩
  have hempty := hexact.mp htext ({ text := "c", trailing := { text := " /*last*/" } }, 2)
    (by decide) (by decide)
  exact absurd hempty (by decide)

theorem not_text_remarkedChain :
    ¬ ∀ (left : Chain) (operator : Token) (right : Chain) (layout : Layout) (w : Writer String),
      w.inComment = false →
      (assign left operator right).expression.depth ≤ maxExpressionDepth →
        ((lowerExpression (assign left operator right).expression).run .unbounded layout w).2.sink =
          w.sink ++ (assign left operator right).text := by
  intro h
  have htext := h (.leaf { text := "a" }) (.spaced "=") remarkedTail {}
    .empty rfl (by decide)
  exact absurd htext (by decide +kernel)

end Chain

end CodeBehind
