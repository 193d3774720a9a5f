import CodeBehind.Lowering.Expression
import CodeBehind.Lowering.Trivia
import CodeBehind.Source.Statement

/-!
# Lowering statements

A statement begins with its own trivia or on a generated line.  Blocks are flattened into the
statements around them, and a statement without a counterpart is skipped.
-/

namespace CodeBehind.Lowering

open Source

/-- One declared variable: an assignment of its initial value, or a bare declaration. -/
def lowerDeclarator (declarator : Declarator) : Script :=
  let name := declarator.identifier.valueText
  match declarator.initializer with
  | some value => .code (" " ++ name ++ " = ") :: lowerExpression value ++ [.terminator]
  | none => [.code ("var " ++ name), .terminator]

/-- The variables of a local or field declaration, without their type. -/
def lowerVariables (declared : Variables) : Script :=
  .note (.declared declared.type.kind declared.declarators.length) ::
    declared.declarators.flatMap lowerDeclarator

/-- A return with or without a value. -/
def lowerReturn : Option Expression → Script
  | some value => .code "return " :: lowerExpression value ++ [.terminator]
  | none => [.code "return", .terminator]

/-- The opening of a conditional; the condition stands as its source text. -/
def openIf (leading : Trivia) (condition : Expression) (scope : Scope) : Script :=
  beginStatement leading scope ++ [.code "if(", .code condition.text, .code ")\x7b"]

/-- The line between the two branches of a conditional. -/
def elseLine (leading : Trivia) (scope : Scope) : Script :=
  innerTrivia leading ++ [.openLine scope.depth, .code "\x7delse\x7b"]

/-- The closing of a conditional. -/
def closeIf (trailing : Trivia) (scope : Scope) : Script :=
  [.openLine scope.depth, .code "\x7d", .verbatim trailing.text]

mutual

def lowerStatement (scope : Scope) : Statement → Script
  | .ifThen leading condition body trailing =>
    openIf leading condition scope ++
      Script.whenOk scope.enter fun inner ↦
        lowerStatement inner body ++ closeIf trailing scope
  | .ifElse leading condition body elseLeading elseBody trailing =>
    openIf leading condition scope ++
      Script.whenOk scope.enter fun inner ↦
        lowerStatement inner body ++ elseLine elseLeading scope ++
          lowerStatement inner elseBody ++ closeIf trailing scope
  | .ret leading value trailing =>
    beginStatement leading scope ++ lowerReturn value ++ [.verbatim trailing.text]
  | .locals leading declared trailing =>
    beginStatement leading scope ++ lowerVariables declared ++ [.verbatim trailing.text]
  | .expression leading value trailing =>
    beginStatement leading scope ++ lowerExpression value ++
      [.terminator, .verbatim trailing.text]
  | .block leading statements _ =>
    Script.whenOk scope.enterBlock fun inner ↦
      innerTrivia leading ++ lowerStatements inner statements
  | .unsupported node => [.note (.skippedStatement node.nodeKind)]

def lowerStatements (scope : Scope) : List Statement → Script
  | [] => []
  | statement :: rest => lowerStatement scope statement ++ lowerStatements scope rest

end

end CodeBehind.Lowering
