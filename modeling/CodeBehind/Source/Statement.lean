import CodeBehind.Source.Expression

/-!
# Statements

A statement list is the body of a member or of a block.  Statements that the lowering leaves out
are kept as their kind and text.
-/

namespace CodeBehind.Source

/-- A node that is not lowered: what it was, and its text. -/
structure Unsupported where
  nodeKind : String
  text : String := ""
deriving DecidableEq, Inhabited

/-- A declared variable with its initial value, if it has one. -/
structure Declarator where
  identifier : Token
  initializer : Option Expression := none
deriving DecidableEq, Inhabited

/-- The type and the variables of a local or field declaration. -/
structure Variables where
  type : TypeRef
  declarators : List Declarator
deriving DecidableEq, Inhabited

inductive Statement where
  | ifThen (leading : Trivia) (condition : Expression) (body : Statement) (trailing : Trivia)
  | ifElse (leading : Trivia) (condition : Expression) (body : Statement)
      (elseLeading : Trivia) (elseBody : Statement) (trailing : Trivia)
  | ret (leading : Trivia) (value : Option Expression) (trailing : Trivia)
  | locals (leading : Trivia) (declared : Variables) (trailing : Trivia)
  | expression (leading : Trivia) (value : Expression) (trailing : Trivia)
  | block (leading : Trivia) (statements : List Statement) (trailing : Trivia)
  | unsupported (node : Unsupported)
deriving Inhabited

/-- A statement list between braces. -/
structure Block where
  leading : Trivia := {}
  statements : List Statement := []
  trailing : Trivia := {}
deriving Inhabited

namespace Statement

def kind : Statement → Kind
  | ifThen .. => .ifStatement
  | ifElse .. => .ifStatement
  | ret .. => .returnStatement
  | locals .. => .localDeclaration
  | expression .. => .expressionStatement
  | block .. => .block
  | unsupported _ => .unsupported

def ofBlock (body : Block) : Statement :=
  block body.leading body.statements body.trailing

end Statement

end CodeBehind.Source
