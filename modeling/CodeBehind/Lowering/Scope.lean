import CodeBehind.Lowering.Error

/-!
# Scopes

A scope is where a node stands: how far its lines are indented, how many levels enclose it, and
the namespace and class around it.  Scopes and flattened blocks count against one limit, but only
scopes indent.
-/

namespace CodeBehind.Lowering

structure Scope where
  /-- Levels of indentation. -/
  depth : Nat := 0
  /-- Levels of indentation and flattened blocks. -/
  nesting : Nat := 0
  enclosingNamespace : Option String := none
  enclosingClass : Option String := none
deriving DecidableEq, Inhabited

namespace Scope

/-- The scope of a whole file. -/
def root : Scope := {}

/-- One more level, without indentation: the inside of a flattened block. -/
def enterBlock (scope : Scope) : Except Error Scope :=
  if scope.nesting < maxNesting then .ok { scope with nesting := scope.nesting + 1 }
  else .error .nestingTooDeep

/-- One more level, with indentation. -/
def enter (scope : Scope) : Except Error Scope :=
  scope.enterBlock.map fun inner ↦ { inner with depth := scope.depth + 1 }

/-- The inside of a namespace, which is outside of any class. -/
def inNamespace (scope : Scope) (name : String) : Scope :=
  { scope with enclosingNamespace := some name, enclosingClass := none }

def inClass (scope : Scope) (name : String) : Scope :=
  { scope with enclosingClass := some name }

end Scope

end CodeBehind.Lowering
