import CodeBehind.Lowering.References
import CodeBehind.Lowering.Statement
import CodeBehind.Source.Declaration

/-!
# Lowering declarations

A namespace becomes a closure over an object of the window, a class a closure over an object of its
namespace, and a constructor or method a function of its class.  Types, modifiers and attributes
are left out.  After a class with a constructor, the constructor is called once.
-/

namespace CodeBehind.Lowering

open Source

/-- The name of a declaration, if it has one. -/
def declaredName (token : Token) (kind : Kind) : Except Error String :=
  if token.valueText.isEmpty then .error (.emptyIdentifier kind) else .ok token.valueText

/-- The name of a namespace, if it is simple. -/
def namespaceName (token : Token) : Except Error String := do
  let name ← declaredName token .namespaceDeclaration
  if name.toList.contains '.' then .error (.qualifiedNamespace name) else .ok name

/-- The class that a member belongs to. -/
def enclosingClass (scope : Scope) (kind : Kind) : Except Error String :=
  match scope.enclosingClass with
  | some name => .ok name
  | none => .error (.outsideScope kind .insideClass)

def requiredBody (body : Option Block) (kind : Kind) (name : String) : Except Error Block :=
  match body with
  | some block => .ok block
  | none => .error (.missingBody kind name)

/-! ## Members -/

/-- The statements of a member, one level below its header. -/
def lowerBody (body : Block) (scope : Scope) : Script :=
  (if body.leading.hasComments then [.verbatim body.leading.trimmedEnd] else []) ++
    Script.whenOk scope.enter fun inner ↦ lowerStatements inner body.statements

/-- A function of a class: its trivia, its header, its body and its closing line. -/
def lowerFunction (leading : Trivia) (header : String) (body : Block) (trailing : Trivia)
    (scope : Scope) : Script :=
  headerTrivia leading ++ [.openLine scope.depth, .code header] ++ lowerBody body scope ++
    [.openLine scope.depth, .code "\x7d;", .endLine] ++ closingTrivia trailing

def lowerConstructor (node : ConstructorDecl) (scope : Scope) : Script :=
  Script.within (.enteredConstructor node.identifier.valueText) <|
    Script.whenOk (enclosingClass scope .constructorDeclaration) fun className ↦
    Script.whenOk (requiredBody node.body .constructorDeclaration className) fun body ↦
    Script.whenOk scope.enter fun inner ↦
      lowerFunction node.leading (className ++ "." ++ className ++ " = function() \x7b") body
        node.trailing inner

/-- The names of the parameters. -/
def parameterNames (parameters : List Parameter) : String :=
  ", ".intercalate (parameters.map (·.identifier.valueText))

def lowerMethod (node : MethodDecl) (scope : Scope) : Script :=
  Script.within (.enteredMethod node.identifier.valueText) <|
    Script.whenOk (enclosingClass scope .methodDeclaration) fun className ↦
    Script.whenOk (declaredName node.identifier .methodDeclaration) fun name ↦
    Script.whenOk (requiredBody node.body .methodDeclaration name) fun body ↦
    Script.whenOk scope.enter fun inner ↦
      lowerFunction node.leading
        (className ++ "." ++ name ++ " = function(" ++ parameterNames node.parameters ++ ") \x7b")
        body node.trailing inner

def lowerField (node : FieldDecl) (scope : Scope) : Script :=
  Script.whenOk (enclosingClass scope .fieldDeclaration) fun _ ↦
  Script.whenOk scope.enter fun inner ↦
    beginStatement node.leading inner ++ lowerVariables node.declared ++
      [.verbatim node.trailing.text]

/-- A member of a class; what is no constructor, method or field is skipped. -/
def lowerClassMember (scope : Scope) : Declaration → Script
  | .methodDecl node => lowerMethod node scope
  | .constructorDecl node => lowerConstructor node scope
  | .fieldDecl node => lowerField node scope
  | other => [.note (.skippedClassMember other.kind)]

/-! ## Classes and namespaces -/

/-- The call of the constructor after the class. -/
def constructorCall (options : Options) (namespaceName name : String) (scope : Scope) : Script :=
  (if options.annotate then [.blankLine, .openLine scope.depth, .code "//call constructor"]
    else []) ++
    [.openLine scope.depth, .code (namespaceName ++ "." ++ name ++ "." ++ name ++ "();"), .endLine]

def lowerClass (options : Options) (node : ClassDecl) (scope : Scope) : Script :=
  Script.within (.enteredClass node.identifier.valueText) <|
    Script.whenOk (declaredName node.identifier .classDeclaration) fun name ↦
    match scope.enclosingNamespace with
    | none => [.fail (.outsideScope .classDeclaration .insideNamespace)]
    | some namespaceName =>
      headerTrivia node.leading ++
        [.openLine scope.depth, .code ("(function(" ++ name ++ ")\x7b")] ++
        node.members.flatMap (lowerClassMember (scope.inClass name)) ++
        [.openLine scope.depth,
         .code ("\x7d)(" ++ namespaceName ++ "." ++ name ++ " = " ++ namespaceName ++ "." ++ name ++
           " || \x7b\x7d);"),
         .endLine] ++
        (if node.hasConstructor then constructorCall options namespaceName name scope else []) ++
        closingTrivia node.trailing

/-- A member of a namespace; what is no class is skipped. -/
def lowerNamespaceMember (options : Options) (scope : Scope) : Declaration → Script
  | .classDecl leading modifiers identifier members trailing =>
    lowerClass options { leading, modifiers, identifier, members, trailing } scope
  | other => [.note (.skippedNamespaceMember other.kind)]

def lowerNamespace (names : NodeNames) (options : Options) (node : NamespaceDecl) (scope : Scope) :
    Script :=
  Script.within (.enteredNamespace node.name.valueText) <|
    Script.whenOk (namespaceName node.name) fun name ↦
      headerTrivia node.leading ++
        [.openLine scope.depth, .code ("(function(" ++ name ++ ")\x7b")] ++
        Script.whenOk scope.enter fun inner ↦
          lowerReferences names options (inner.inNamespace name) ++
            node.members.flatMap (lowerNamespaceMember options (inner.inNamespace name)) ++
            [.openLine scope.depth,
             .code ("\x7d)(window." ++ name ++ " = window." ++ name ++ " || \x7b\x7d);"),
             .endLine] ++
            closingTrivia node.trailing

/-- A member of a file; what is no namespace is skipped. -/
def lowerTopLevel (names : NodeNames) (options : Options) : Declaration → Script
  | .namespaceDecl leading name members trailing =>
    lowerNamespace names options { leading, name, members, trailing } .root
  | other => [.note (.skippedTopLevel other.kind)]

def lowerUnit (names : NodeNames) (options : Options) (unit : CompilationUnit) : Script :=
  unit.members.flatMap (lowerTopLevel names options) ++ [.endLine]

end CodeBehind.Lowering
