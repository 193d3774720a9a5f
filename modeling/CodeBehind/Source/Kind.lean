/-!
# Kinds of nodes

Messages and the log refer to a node by its kind.
-/

namespace CodeBehind.Source

inductive Kind where
  | compilationUnit
  | namespaceDeclaration
  | classDeclaration
  | constructorDeclaration
  | methodDeclaration
  | fieldDeclaration
  | parameter
  | block
  | ifStatement
  | elseClause
  | returnStatement
  | localDeclaration
  | expressionStatement
  | variableDeclaration
  | variableDeclarator
  | assignment
  | compoundAssignment
  | cast
  | predefinedType
  | namedType
  | expression
  | unsupported
deriving DecidableEq, Inhabited

namespace Kind

/-- The name of the kind in messages, in the log and in tree files. -/
def label : Kind → String
  | compilationUnit => "CompilationUnit"
  | namespaceDeclaration => "Namespace"
  | classDeclaration => "Class"
  | constructorDeclaration => "Constructor"
  | methodDeclaration => "Method"
  | fieldDeclaration => "Field"
  | parameter => "Parameter"
  | block => "Block"
  | ifStatement => "If"
  | elseClause => "Else"
  | returnStatement => "Return"
  | localDeclaration => "LocalDeclaration"
  | expressionStatement => "ExpressionStatement"
  | variableDeclaration => "VariableDeclaration"
  | variableDeclarator => "VariableDeclarator"
  | assignment => "Assignment"
  | compoundAssignment => "CompoundAssignment"
  | cast => "Cast"
  | predefinedType => "PredefinedType"
  | namedType => "NamedType"
  | expression => "Expression"
  | unsupported => "Unsupported"

/-- Every kind, from the whole file inwards. -/
def all : List Kind :=
  [compilationUnit, namespaceDeclaration, classDeclaration, constructorDeclaration,
   methodDeclaration, fieldDeclaration, parameter, block, ifStatement, elseClause,
   returnStatement, localDeclaration, expressionStatement, variableDeclaration,
   variableDeclarator, assignment, compoundAssignment, cast, predefinedType, namedType,
   expression, unsupported]

end Kind

end CodeBehind.Source
