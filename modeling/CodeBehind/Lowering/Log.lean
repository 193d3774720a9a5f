import CodeBehind.Source.Kind

/-!
# The log of a lowering

A lowering keeps a log of the declarations that it enters and of what it skips or passes on as a
comment.  Each entry has the number of declarations that enclose it.
-/

namespace CodeBehind.Lowering

open Source

/-- Something that happened. -/
inductive Event where
  | enteredNamespace (name : String)
  | enteredClass (name : String)
  | enteredConstructor (name : String)
  | enteredMethod (name : String)
  | skippedTopLevel (kind : Kind)
  | skippedNamespaceMember (kind : Kind)
  | skippedClassMember (kind : Kind)
  | skippedStatement (nodeKind : String)
  | noNodeNames (namespaceName : String)
  | declared (type : Kind) (count : Nat)
  | compoundLeft (text : String)
deriving DecidableEq, Inhabited

inductive Level where
  | trace
  | debug
deriving DecidableEq, Inhabited

def Level.label : Level → String
  | trace => "TRACE"
  | debug => "DEBUG"

/-- A value that an entry carries. -/
inductive Detail where
  | text (value : String)
  | number (value : Nat)
deriving DecidableEq, Inhabited

namespace Event

/-- Whether the entry opens a declaration that the next entries are inside of. -/
def isSpan : Event → Bool
  | enteredNamespace _ | enteredClass _ | enteredConstructor _ | enteredMethod _ => true
  | _ => false

def level : Event → Level
  | enteredNamespace _ | enteredClass _ | enteredConstructor _ | enteredMethod _ => .trace
  | noNodeNames _ | declared _ _ => .trace
  | _ => .debug

/-- What the entry is called. -/
def label : Event → String
  | enteredNamespace _ => "emit_namespace"
  | enteredClass _ => "emit_class"
  | enteredConstructor _ => "emit_constructor"
  | enteredMethod _ => "emit_method"
  | skippedTopLevel _ => "skipping top-level member"
  | skippedNamespaceMember _ => "skipping namespace member"
  | skippedClassMember _ => "skipping class member"
  | skippedStatement _ => "skipping unsupported statement"
  | noNodeNames _ => "no UI node names to bind"
  | declared _ _ => "lowering variable declaration"
  | compoundLeft _ => "compound assignment left as comment"

/-- The named values of the entry. -/
def details : Event → List (String × Detail)
  | enteredNamespace name => [("namespace", .text name)]
  | enteredClass name => [("class", .text name)]
  | enteredConstructor name => [("constructor", .text name)]
  | enteredMethod name => [("method", .text name)]
  | skippedTopLevel kind => [("kind", .text kind.label)]
  | skippedNamespaceMember kind => [("kind", .text kind.label)]
  | skippedClassMember kind => [("kind", .text kind.label)]
  | skippedStatement nodeKind => [("node_kind", .text nodeKind)]
  | noNodeNames namespaceName => [("namespace", .text namespaceName)]
  | declared type count => [("ty", .text type.label), ("declarators", .number count)]
  | compoundLeft text => [("text", .text text)]

end Event

/-- An event and the number of declarations around it. -/
structure Entry where
  depth : Nat
  event : Event
deriving DecidableEq, Inhabited

def Entry.deepen (entry : Entry) : Entry :=
  { entry with depth := entry.depth + 1 }

end CodeBehind.Lowering
