import CodeBehind.Json.Value
import CodeBehind.Source.Declaration

/-!
# Trees as values

Every node is written with all its fields: a token with its trivia, a list also when it is empty,
and what is absent as null.
-/

namespace CodeBehind.Source

open Json

def optionalValue {α : Type} (write : α → Value) : Option α → Value
  | none => .null
  | some a => write a

/-- An object with its tag first. -/
def taggedValue (tag : Kind) (members : List (String × Value)) : Value :=
  .object (("kind", .string tag.label) :: members)

def Trivia.toValue (trivia : Trivia) : Value :=
  .string trivia.text

namespace Token

def members (token : Token) : List (String × Value) :=
  [("text", .string token.text), ("leading", token.leading.toValue),
   ("trailing", token.trailing.toValue)]

def toValue (token : Token) : Value :=
  .object token.members

end Token

def tokensValue (tokens : List Token) : Value :=
  .array (tokens.map Token.toValue)

def TypeRef.toValue (type : TypeRef) : Value :=
  taggedValue type.kind type.token.members

/-- The value of an expression.  Source text has the tag `Verbatim`, though its kind is that of any
expression. -/
def Expression.toValue : Expression → Value
  | assignment left operator right =>
    taggedValue .assignment
      [("left", left.toValue), ("operator", operator.toValue), ("right", right.toValue)]
  | compound left operator right =>
    taggedValue .compoundAssignment
      [("left", left.toValue), ("operator", operator.toValue), ("right", right.toValue)]
  | cast opening type closing operand =>
    taggedValue .cast
      [("openParen", opening.toValue), ("type", type.toValue), ("closeParen", closing.toValue),
       ("expression", operand.toValue)]
  | verbatim token => .object (("kind", .string "Verbatim") :: token.members)

def Unsupported.members (node : Unsupported) : List (String × Value) :=
  [("nodeKind", .string node.nodeKind), ("text", .string node.text)]

def Unsupported.toValue (node : Unsupported) : Value :=
  .object node.members

def Declarator.toValue (declarator : Declarator) : Value :=
  .object [("identifier", declarator.identifier.toValue),
    ("initializer", optionalValue Expression.toValue declarator.initializer)]

def Variables.toValue (declared : Variables) : Value :=
  .object [("type", declared.type.toValue),
    ("declarators", .array (declared.declarators.map Declarator.toValue))]

mutual

def Statement.toValue : Statement → Value
  | .ifThen leading condition body trailing =>
    taggedValue .ifStatement
      [("leading", leading.toValue), ("condition", condition.toValue),
       ("statement", body.toValue), ("elseClause", .null), ("trailing", trailing.toValue)]
  | .ifElse leading condition body elseLeading elseBody trailing =>
    taggedValue .ifStatement
      [("leading", leading.toValue), ("condition", condition.toValue),
       ("statement", body.toValue),
       ("elseClause",
         .object [("leading", elseLeading.toValue), ("statement", elseBody.toValue)]),
       ("trailing", trailing.toValue)]
  | .ret leading value trailing =>
    taggedValue .returnStatement
      [("leading", leading.toValue), ("expression", optionalValue Expression.toValue value),
       ("trailing", trailing.toValue)]
  | .locals leading declared trailing =>
    taggedValue .localDeclaration
      [("leading", leading.toValue), ("declaration", declared.toValue),
       ("trailing", trailing.toValue)]
  | .expression leading value trailing =>
    taggedValue .expressionStatement
      [("leading", leading.toValue), ("expression", value.toValue),
       ("trailing", trailing.toValue)]
  | .block leading statements trailing =>
    taggedValue .block
      [("leading", leading.toValue), ("statements", .array (Statement.toValues statements)),
       ("trailing", trailing.toValue)]
  | .unsupported node => taggedValue .unsupported node.members

def Statement.toValues : List Statement → List Value
  | [] => []
  | statement :: rest => statement.toValue :: Statement.toValues rest

end

def Block.toValue (block : Block) : Value :=
  .object [("leading", block.leading.toValue),
    ("statements", .array (Statement.toValues block.statements)),
    ("trailing", block.trailing.toValue)]

def Parameter.toValue (parameter : Parameter) : Value :=
  .object [("modifiers", tokensValue parameter.modifiers),
    ("type", optionalValue TypeRef.toValue parameter.type),
    ("identifier", parameter.identifier.toValue),
    ("default", optionalValue Expression.toValue parameter.fallback)]

def ConstructorDecl.members (node : ConstructorDecl) : List (String × Value) :=
  [("leading", node.leading.toValue), ("modifiers", tokensValue node.modifiers),
   ("identifier", node.identifier.toValue),
   ("parameters", .array (node.parameters.map Parameter.toValue)),
   ("body", optionalValue Block.toValue node.body), ("trailing", node.trailing.toValue)]

def MethodDecl.members (node : MethodDecl) : List (String × Value) :=
  [("leading", node.leading.toValue), ("modifiers", tokensValue node.modifiers),
   ("returnType", optionalValue TypeRef.toValue node.returnType),
   ("identifier", node.identifier.toValue),
   ("parameters", .array (node.parameters.map Parameter.toValue)),
   ("attributes", .array (node.attributes.map Unsupported.toValue)),
   ("body", optionalValue Block.toValue node.body), ("trailing", node.trailing.toValue)]

def FieldDecl.members (node : FieldDecl) : List (String × Value) :=
  [("leading", node.leading.toValue), ("modifiers", tokensValue node.modifiers),
   ("declaration", node.declared.toValue), ("trailing", node.trailing.toValue)]

mutual

def Declaration.toValue : Declaration → Value
  | .namespaceDecl leading name members trailing =>
    taggedValue .namespaceDeclaration
      [("leading", leading.toValue), ("name", name.toValue),
       ("members", .array (Declaration.toValues members)), ("trailing", trailing.toValue)]
  | .classDecl leading modifiers identifier members trailing =>
    taggedValue .classDeclaration
      [("leading", leading.toValue), ("modifiers", tokensValue modifiers),
       ("identifier", identifier.toValue), ("members", .array (Declaration.toValues members)),
       ("trailing", trailing.toValue)]
  | .constructorDecl node => taggedValue .constructorDeclaration node.members
  | .methodDecl node => taggedValue .methodDeclaration node.members
  | .fieldDecl node => taggedValue .fieldDeclaration node.members
  | .unsupported node => taggedValue .unsupported node.members

def Declaration.toValues : List Declaration → List Value
  | [] => []
  | declaration :: rest => declaration.toValue :: Declaration.toValues rest

end

def CompilationUnit.toValue (unit : CompilationUnit) : Value :=
  .object [("members", .array (Declaration.toValues unit.members))]

end CodeBehind.Source
