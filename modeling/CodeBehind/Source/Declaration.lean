import CodeBehind.Source.Statement

/-!
# Declarations

A compilation unit is the root of a code-behind file.  It holds namespaces, they hold classes, and
classes hold constructors, methods and fields.  Any declaration may stand at any level; the lowering
decides which of them it takes there.
-/

namespace CodeBehind.Source

structure Parameter where
  modifiers : List Token := []
  type : Option TypeRef := none
  identifier : Token
  fallback : Option Expression := none
deriving DecidableEq, Inhabited

structure ConstructorDecl where
  leading : Trivia := {}
  modifiers : List Token := []
  identifier : Token
  parameters : List Parameter := []
  body : Option Block := none
  trailing : Trivia := {}
deriving Inhabited

structure MethodDecl where
  leading : Trivia := {}
  modifiers : List Token := []
  returnType : Option TypeRef := none
  identifier : Token
  parameters : List Parameter := []
  attributes : List Unsupported := []
  body : Option Block := none
  trailing : Trivia := {}
deriving Inhabited

structure FieldDecl where
  leading : Trivia := {}
  modifiers : List Token := []
  declared : Variables
  trailing : Trivia := {}
deriving Inhabited

inductive Declaration where
  | namespaceDecl (leading : Trivia) (name : Token) (members : List Declaration) (trailing : Trivia)
  | classDecl (leading : Trivia) (modifiers : List Token) (identifier : Token)
      (members : List Declaration) (trailing : Trivia)
  | constructorDecl (node : ConstructorDecl)
  | methodDecl (node : MethodDecl)
  | fieldDecl (node : FieldDecl)
  | unsupported (node : Unsupported)
deriving Inhabited

structure NamespaceDecl where
  leading : Trivia := {}
  name : Token
  members : List Declaration := []
  trailing : Trivia := {}
deriving Inhabited

structure ClassDecl where
  leading : Trivia := {}
  modifiers : List Token := []
  identifier : Token
  members : List Declaration := []
  trailing : Trivia := {}
deriving Inhabited

structure CompilationUnit where
  members : List Declaration := []
deriving Inhabited

namespace Declaration

def ofNamespace (node : NamespaceDecl) : Declaration :=
  namespaceDecl node.leading node.name node.members node.trailing

def ofClass (node : ClassDecl) : Declaration :=
  classDecl node.leading node.modifiers node.identifier node.members node.trailing

def kind : Declaration → Kind
  | namespaceDecl .. => .namespaceDeclaration
  | classDecl .. => .classDeclaration
  | constructorDecl _ => .constructorDeclaration
  | methodDecl _ => .methodDeclaration
  | fieldDecl _ => .fieldDeclaration
  | unsupported _ => .unsupported

def isConstructor : Declaration → Bool
  | constructorDecl _ => true
  | _ => false

end Declaration

/-- Whether the class declares a constructor. -/
def ClassDecl.hasConstructor (node : ClassDecl) : Bool :=
  node.members.any Declaration.isConstructor

end CodeBehind.Source
