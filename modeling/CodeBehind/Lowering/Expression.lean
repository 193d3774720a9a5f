import CodeBehind.Lowering.Script
import CodeBehind.Text.Lines
import CodeBehind.Source.Expression

/-!
# Lowering expressions

Assignments are written operand by operand, casts are left out down to their operand, and any other
expression is its source text.  A compound assignment has no counterpart: its source text becomes a
line comment behind a marker.
-/

namespace CodeBehind.Lowering

open Source

/-- The opening of the comment that stands for a compound assignment. -/
def unsupportedMarker : String := "//not yet supported: "

/-- A compound assignment as a comment on the current line. -/
def markedComment (e : Expression) : Script :=
  let text := String.ofList (Text.singleLine e.text.toList)
  [.note (.compoundLeft text), .code unsupportedMarker, .verbatim text, .markComment]

/-- The trivia kept after an operand of an assignment; a cast loses it together with its type. -/
def operandTrivia (operand : Expression) : Script :=
  if operand.isCast then [] else [.verbatim operand.trailing.text]

/-- Lowers an expression that stands `level` levels below the one at the top. -/
def lowerExpressionAt (level : Nat) (e : Expression) : Script :=
  if level > maxExpressionDepth then [.fail .expressionTooDeep]
  else
    match e with
    | .assignment left operator right =>
      lowerExpressionAt (level + 1) left ++ operandTrivia left ++
        [.verbatim operator.leading.text, .code operator.text, .verbatim operator.trailing.text] ++
        lowerExpressionAt (level + 1) right ++ operandTrivia right
    | .compound .. => markedComment e
    | .cast _ _ _ operand => .separate :: lowerExpressionAt (level + 1) operand
    | .verbatim token => [.code token.text]

/-- Lowers an expression without the trivia around it. -/
def lowerExpression (e : Expression) : Script :=
  lowerExpressionAt 0 e

end CodeBehind.Lowering
