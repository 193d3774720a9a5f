import CodeBehind.Source.Kind

/-!
# Why a lowering stops

A construct without a counterpart is no error: it is left out or becomes a comment.  An error is a
tree that the lowering cannot express, a list of node names that cannot be bound, or a sink that
turned a text down.
-/

namespace CodeBehind.Lowering

/-- How deep scopes and flattened blocks may nest. -/
def maxNesting : Nat := 256

/-- How deep the operands of a lowered expression may nest. -/
def maxExpressionDepth : Nat := 500

/-- What has to enclose a member. -/
inductive Enclosure where
  | insideNamespace
  | insideClass
deriving DecidableEq, Inhabited

def Enclosure.label : Enclosure → String
  | insideNamespace => "namespace"
  | insideClass => "class"

inductive Error where
  /-- A method or constructor without a body. -/
  | missingBody (kind : Source.Kind) (name : String)
  /-- A declaration without a name. -/
  | emptyIdentifier (kind : Source.Kind)
  /-- A dotted namespace name. -/
  | qualifiedNamespace (name : String)
  /-- A member without the declaration that has to enclose it. -/
  | outsideScope (kind : Source.Kind) (enclosure : Enclosure)
  | nestingTooDeep
  | expressionTooDeep
  /-- A node name that is no identifier. -/
  | invalidNodeName (name : String)
  /-- A node name that was listed before. -/
  | duplicateNodeName (name : String)
  /-- The sink turned a text down. -/
  | sink
deriving DecidableEq, Inhabited

def Error.message : Error → String
  | missingBody kind name => kind.label ++ " '" ++ name ++ "' has no block body"
  | emptyIdentifier kind => kind.label ++ " has an empty identifier"
  | qualifiedNamespace name =>
    "namespace '" ++ name ++ "' is qualified; only simple namespace names can be lowered"
  | outsideScope kind enclosure =>
    kind.label ++ " emitted outside of an enclosing " ++ enclosure.label
  | nestingTooDeep => "declarations nest deeper than " ++ toString maxNesting ++ " levels"
  | expressionTooDeep => "expression nests deeper than " ++ toString maxExpressionDepth ++ " levels"
  | invalidNodeName name => "UI node name '" ++ name ++ "' is not a valid identifier"
  | duplicateNodeName name => "UI node name '" ++ name ++ "' is listed more than once"
  | sink => "failed to write to the output sink"

end CodeBehind.Lowering
