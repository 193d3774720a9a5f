import CodeBehind.Json.Reader
import CodeBehind.Source.Declaration

/-!
# Reading trees

A tree file spells every node as a record, and where nodes of several kinds may stand, a tag tells
the kind.  Trivia is optional everywhere.  A token without trivia may be a bare string.

Nodes nest, so their readers take a bound on the depth of the document; `sized` supplies it.
-/

namespace CodeBehind.Source

open Json

namespace Reader

open Json.Reader

/-- A reader for documents of any depth, from readers for documents of bounded depth. -/
def sized {α : Type} (reader : Nat → Json.Reader α) : Json.Reader α := fun origin doc ↦
  reader (doc.height + 1) origin doc

/-- The reader for documents that are too deep; never used by a sized reader. -/
def tooDeep {α : Type} : Json.Reader α := fun _ _ ↦
  .error (.broken .malformed)

/-! ## Tokens and types -/

def trivia : Json.Reader Trivia :=
  map Trivia.mk string

/-- A field of trivia, which may be left out. -/
def triviaField {α : Type} (name : String) (others : Fields α) : Fields (Trivia × α) :=
  .field name trivia (some {}) others

/-- The members of a token that has trivia. -/
def tokenRecord : Json.Reader Token :=
  map (fun (text, leading, trailing, ()) ↦ { text, leading, trailing }) <|
    record "Token" <|
      .field "text" string none <| triviaField "leading" <| triviaField "trailing" .done

/-- A token: a bare string, or an object with its text and trivia.  It is set aside first, and
whatever does not fit either form is reported in the same way. -/
def token : Json.Reader Token := fun origin doc ↦ do
  origin.hold doc
  let noForm : Fault := .mismatch (.noForm "TokenRepr")
  match doc with
  | .string text => pure { text }
  | .object members wrong => (tokenRecord .held (.object members wrong)).mapError fun _ ↦ noForm
  | _ => .error noForm

/-- A field of tokens, which may be left out. -/
def tokensField {α : Type} (name : String) (others : Fields α) : Fields (List Token × α) :=
  .field name (list token) (some []) others

def typeName : Json.Reader TypeRef :=
  tagged "TypeSyntax"
    [⟨"PredefinedType", map .predefined token⟩, ⟨"NamedType", map .named token⟩]

/-! ## Expressions and statements -/

def unsupported : Json.Reader Unsupported :=
  map (fun (nodeKind, text, ()) ↦ { nodeKind, text }) <|
    record "UnsupportedNode" <|
      .field "nodeKind" string none <| .field "text" string (some "") .done

def expression : Nat → Json.Reader Expression
  | 0 => tooDeep
  | bound + 1 =>
    let operands (build : Expression → Token → Expression → Expression) : Json.Reader Expression :=
      map (fun (left, operator, right, ()) ↦ build left operator right) <|
        record "AssignmentExpression" <|
          .field "left" (expression bound) none <|
          .field "operator" token none <|
          .field "right" (expression bound) none .done
    let cast : Json.Reader Expression :=
      map (fun (opening, type, closing, operand, ()) ↦ .cast opening type closing operand) <|
        record "CastExpression" <|
          .field "openParen" token (some .openParen) <|
          .field "type" typeName none <|
          .field "closeParen" token (some .closeParen) <|
          .field "expression" (expression bound) none .done
    tagged "Expression"
      [⟨"Assignment", operands .assignment⟩,
       ⟨"CompoundAssignment", operands .compound⟩,
       ⟨"Cast", cast⟩,
       ⟨"Verbatim", map .verbatim token⟩]

/-- A field that holds an expression, or null, or is left out. -/
def expressionField {α : Type} (bound : Nat) (name : String) (others : Fields α) :
    Fields (Option Expression × α) :=
  .field name (optional (expression bound)) (some none) others

def declarator (bound : Nat) : Json.Reader Declarator :=
  map (fun (identifier, initializer, ()) ↦ { identifier, initializer }) <|
    record "VariableDeclarator" <|
      .field "identifier" token none <| expressionField bound "initializer" .done

def variableList (bound : Nat) : Json.Reader Variables :=
  map (fun (type, declarators, ()) ↦ { type, declarators }) <|
    record "VariableDeclaration" <|
      .field "type" typeName none <|
      .field "declarators" (list (declarator bound)) none .done

/-- A block, from a reader of its statements. -/
def blockOf (statement : Json.Reader Statement) : Json.Reader Block :=
  map (fun (leading, statements, trailing, ()) ↦ { leading, statements, trailing }) <|
    record "Block" <|
      triviaField "leading" <|
      .field "statements" (list statement) (some []) <|
      triviaField "trailing" .done

/-- An else branch: its trivia and its statement. -/
def elseOf (statement : Json.Reader Statement) : Json.Reader (Trivia × Statement) :=
  map (fun (leading, body, ()) ↦ (leading, body)) <|
    record "ElseClause" <|
      triviaField "leading" <| .field "statement" statement none .done

/-- A conditional with or without an else branch. -/
def conditional (leading : Trivia) (condition : Expression) (body : Statement)
    (otherwise : Option (Trivia × Statement)) (trailing : Trivia) : Statement :=
  match otherwise with
  | none => .ifThen leading condition body trailing
  | some (elseLeading, elseBody) => .ifElse leading condition body elseLeading elseBody trailing

def statement : Nat → Json.Reader Statement
  | 0 => tooDeep
  | bound + 1 =>
    let ifStatement : Json.Reader Statement :=
      map (fun (leading, condition, body, otherwise, trailing, ()) ↦
          conditional leading condition body otherwise trailing) <|
        record "IfStatement" <|
          triviaField "leading" <|
          .field "condition" (expression bound) none <|
          .field "statement" (statement bound) none <|
          .field "elseClause" (optional (elseOf (statement bound))) (some none) <|
          triviaField "trailing" .done
    let returnStatement : Json.Reader Statement :=
      map (fun (leading, value, trailing, ()) ↦ .ret leading value trailing) <|
        record "ReturnStatement" <|
          triviaField "leading" <| expressionField bound "expression" <|
          triviaField "trailing" .done
    let localDeclaration : Json.Reader Statement :=
      map (fun (leading, declared, trailing, ()) ↦ .locals leading declared trailing) <|
        record "LocalDeclarationStatement" <|
          triviaField "leading" <| .field "declaration" (variableList bound) none <|
          triviaField "trailing" .done
    let expressionStatement : Json.Reader Statement :=
      map (fun (leading, value, trailing, ()) ↦ .expression leading value trailing) <|
        record "ExpressionStatement" <|
          triviaField "leading" <| .field "expression" (expression bound) none <|
          triviaField "trailing" .done
    tagged "Statement"
      [⟨"If", ifStatement⟩,
       ⟨"Return", returnStatement⟩,
       ⟨"LocalDeclaration", localDeclaration⟩,
       ⟨"ExpressionStatement", expressionStatement⟩,
       ⟨"Block", map Statement.ofBlock (blockOf (statement bound))⟩,
       ⟨"Unsupported", map .unsupported unsupported⟩]

/-! ## Declarations -/

def typeField {α : Type} (name : String) (others : Fields α) : Fields (Option TypeRef × α) :=
  .field name (optional typeName) (some none) others

def parameter (bound : Nat) : Json.Reader Parameter :=
  map (fun (modifiers, type, identifier, fallback, ()) ↦
      { modifiers, type, identifier, fallback }) <|
    record "Parameter" <|
      tokensField "modifiers" <| typeField "type" <| .field "identifier" token none <|
      expressionField bound "default" .done

def parametersField {α : Type} (bound : Nat) (others : Fields α) : Fields (List Parameter × α) :=
  .field "parameters" (list (parameter bound)) (some []) others

def bodyField {α : Type} (bound : Nat) (others : Fields α) : Fields (Option Block × α) :=
  .field "body" (optional (blockOf (statement bound))) (some none) others

def constructorNode (bound : Nat) : Json.Reader ConstructorDecl :=
  map (fun (leading, modifiers, identifier, parameters, body, trailing, ()) ↦
      { leading, modifiers, identifier, parameters, body, trailing }) <|
    record "ConstructorDeclaration" <|
      triviaField "leading" <| tokensField "modifiers" <| .field "identifier" token none <|
      parametersField bound <| bodyField bound <| triviaField "trailing" .done

def methodNode (bound : Nat) : Json.Reader MethodDecl :=
  map (fun (leading, modifiers, returnType, identifier, parameters, attributes, body, trailing,
        ()) ↦
      { leading, modifiers, returnType, identifier, parameters, attributes, body, trailing }) <|
    record "MethodDeclaration" <|
      triviaField "leading" <| tokensField "modifiers" <| typeField "returnType" <|
      .field "identifier" token none <| parametersField bound <|
      .field "attributes" (list unsupported) (some []) <|
      bodyField bound <| triviaField "trailing" .done

def fieldNode (bound : Nat) : Json.Reader FieldDecl :=
  map (fun (leading, modifiers, declared, trailing, ()) ↦
      { leading, modifiers, declared, trailing }) <|
    record "FieldDeclaration" <|
      triviaField "leading" <| tokensField "modifiers" <|
      .field "declaration" (variableList bound) none <| triviaField "trailing" .done

/-- A field of declarations, which may be left out. -/
def membersField {α : Type} (declaration : Json.Reader Declaration) (others : Fields α) :
    Fields (List Declaration × α) :=
  .field "members" (list declaration) (some []) others

/-- A namespace, from a reader of its members. -/
def namespaceOf (declaration : Json.Reader Declaration) : Json.Reader NamespaceDecl :=
  map (fun (leading, name, members, trailing, ()) ↦ { leading, name, members, trailing }) <|
    record "NamespaceDeclaration" <|
      triviaField "leading" <| .field "name" token none <| membersField declaration <|
      triviaField "trailing" .done

/-- A class, from a reader of its members. -/
def classOf (declaration : Json.Reader Declaration) : Json.Reader ClassDecl :=
  map (fun (leading, modifiers, identifier, members, trailing, ()) ↦
      { leading, modifiers, identifier, members, trailing }) <|
    record "ClassDeclaration" <|
      triviaField "leading" <| tokensField "modifiers" <| .field "identifier" token none <|
      membersField declaration <| triviaField "trailing" .done

def declaration : Nat → Json.Reader Declaration
  | 0 => tooDeep
  | bound + 1 =>
    tagged "Declaration"
      [⟨"Namespace", map Declaration.ofNamespace (namespaceOf (declaration bound))⟩,
       ⟨"Class", map Declaration.ofClass (classOf (declaration bound))⟩,
       ⟨"Constructor", map .constructorDecl (constructorNode bound)⟩,
       ⟨"Method", map .methodDecl (methodNode bound)⟩,
       ⟨"Field", map .fieldDecl (fieldNode bound)⟩,
       ⟨"Unsupported", map .unsupported unsupported⟩]

def unitOf (declaration : Json.Reader Declaration) : Json.Reader CompilationUnit :=
  map (fun (members, ()) ↦ { members }) <|
    record "CompilationUnit" <| membersField declaration .done

end Reader

/-! ## Nodes of any depth -/

def Expression.reader : Json.Reader Expression := Reader.sized Reader.expression

def Statement.reader : Json.Reader Statement := Reader.sized Reader.statement

def Declaration.reader : Json.Reader Declaration := Reader.sized Reader.declaration

def ConstructorDecl.reader : Json.Reader ConstructorDecl := Reader.sized Reader.constructorNode

def MethodDecl.reader : Json.Reader MethodDecl := Reader.sized Reader.methodNode

def FieldDecl.reader : Json.Reader FieldDecl := Reader.sized Reader.fieldNode

def NamespaceDecl.reader : Json.Reader NamespaceDecl :=
  Reader.sized fun bound ↦ Reader.namespaceOf (Reader.declaration bound)

def ClassDecl.reader : Json.Reader ClassDecl :=
  Reader.sized fun bound ↦ Reader.classOf (Reader.declaration bound)

def CompilationUnit.reader : Json.Reader CompilationUnit :=
  Reader.sized fun bound ↦ Reader.unitOf (Reader.declaration bound)

/-- The tree that a text spells. -/
def CompilationUnit.ofText (text : String) : Except Fault CompilationUnit :=
  CompilationUnit.reader.ofText text

end CodeBehind.Source
