import CodeBehind.Lowering.NodeNames
import CodeBehind.Lowering.Scope
import CodeBehind.Lowering.Script
import CodeBehind.Text.Literal

/-!
# References to visual nodes

Code-behind classes use the named elements of the markup as variables.  The generated namespace
declares these variables, and looks the elements up once the document is ready.
-/

namespace CodeBehind.Lowering

/-- The statement that binds one name, looked up under the tag of the namespace. -/
def lookup (namespaceName name : String) : String :=
  name ++ " = document.querySelector(\"" ++ namespaceName ++ "[name='" ++ name ++ "']\");"

/-- The opening of the handler that binds the names. -/
def readyHandler (event : String) : String :=
  "document.addEventListener('" ++ String.ofList (Text.escape event.toList) ++
    "', function()\x7b"

/-- The comment before the references. -/
def referencesNote (options : Options) (scope : Scope) : Script :=
  if options.annotate then
    [.blankLine, .openLine scope.depth, .code "//Auto Generated Refs to Visual Nodes"]
  else []

/-- Declares the names and binds them, inside of a namespace. -/
def lowerReferences (names : NodeNames) (options : Options) (scope : Scope) : Script :=
  match scope.enclosingNamespace with
  | none => [.fail (.outsideScope .namespaceDeclaration .insideNamespace)]
  | some namespaceName =>
    if names.names.isEmpty then [.note (.noNodeNames namespaceName)]
    else
      referencesNote options scope ++
        [.openLine scope.depth, .code ("var " ++ ", ".intercalate names.names ++ ";"),
         .openLine scope.depth, .code (readyHandler options.readyEvent)] ++
        Script.whenOk scope.enter fun inner ↦
          names.names.flatMap
              (fun name ↦ [.openLine inner.depth, .code (lookup namespaceName name)]) ++
            [.openLine scope.depth, .code "\x7d, false);", .blankLine]

end CodeBehind.Lowering
