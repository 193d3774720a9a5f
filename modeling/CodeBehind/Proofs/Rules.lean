import CodeBehind.Source.Declaration

/-!
# Rules for the parts of a file

A rule says what is asked of trivia, names and expressions.  It holds of a file if it holds of all
parts that are lowered: what is skipped or left out of the script is free.
-/

namespace CodeBehind.Source

structure Rule where
  /-- Trivia around declarations, statements and branches. -/
  trivia : Trivia → Prop
  /-- Tokens that name something. -/
  name : Token → Prop
  /-- Expressions that are rewritten. -/
  value : Expression → Prop
  /-- Conditions, which stand as in the source. -/
  condition : Expression → Prop
  /-- The variables of one declaration as a whole. -/
  declared : Variables → Prop := fun _ ↦ True

namespace Rule

variable (rule : Rule)

structure OfDeclarator (declared : Declarator) : Prop where
  identifier : rule.name declared.identifier
  initializer : ∀ value ∈ declared.initializer, rule.value value

structure OfVariables (declared : Variables) : Prop where
  whole : rule.declared declared
  each : ∀ d ∈ declared.declarators, rule.OfDeclarator d

mutual

def OfStatement : Statement → Prop
  | .ifThen leading condition body trailing =>
    rule.trivia leading ∧ rule.condition condition ∧ OfStatement body ∧ rule.trivia trailing
  | .ifElse leading condition body elseLeading elseBody trailing =>
    rule.trivia leading ∧ rule.condition condition ∧ OfStatement body ∧
      rule.trivia elseLeading ∧ OfStatement elseBody ∧ rule.trivia trailing
  | .ret leading value trailing =>
    rule.trivia leading ∧ (∀ e ∈ value, rule.value e) ∧ rule.trivia trailing
  | .locals leading declared trailing =>
    rule.trivia leading ∧ rule.OfVariables declared ∧ rule.trivia trailing
  | .expression leading value trailing =>
    rule.trivia leading ∧ rule.value value ∧ rule.trivia trailing
  | .block leading inner _ => rule.trivia leading ∧ OfStatements inner
  | .unsupported _ => True

def OfStatements : List Statement → Prop
  | [] => True
  | first :: rest => OfStatement first ∧ OfStatements rest

end

theorem ofStatements_iff (list : List Statement) :
    rule.OfStatements list ↔ ∀ s ∈ list, rule.OfStatement s := by
  induction list with
  | nil => simp [OfStatements]
  | cons first rest ih => rw [OfStatements, ih, List.forall_mem_cons]

/-- A function may be without a body; then it is not lowered. -/
structure OfFunction (leading : Trivia) (body : Option Block) (trailing : Trivia) : Prop where
  leading : rule.trivia leading
  bodyLeading : ∀ block ∈ body, rule.trivia block.leading
  statements : ∀ block ∈ body, rule.OfStatements block.statements
  trailing : rule.trivia trailing

def OfClassMember : Declaration → Prop
  | .methodDecl node =>
    rule.OfFunction node.leading node.body node.trailing ∧ rule.name node.identifier ∧
      ∀ p ∈ node.parameters, rule.name p.identifier
  | .constructorDecl node => rule.OfFunction node.leading node.body node.trailing
  | .fieldDecl node =>
    rule.trivia node.leading ∧ rule.OfVariables node.declared ∧ rule.trivia node.trailing
  | _ => True

def OfNamespaceMember : Declaration → Prop
  | .classDecl leading _ identifier members trailing =>
    rule.trivia leading ∧ rule.name identifier ∧ (∀ m ∈ members, rule.OfClassMember m) ∧
      rule.trivia trailing
  | _ => True

def OfTopLevel : Declaration → Prop
  | .namespaceDecl leading name members trailing =>
    rule.trivia leading ∧ rule.name name ∧ (∀ m ∈ members, rule.OfNamespaceMember m) ∧
      rule.trivia trailing
  | _ => True

def OfFile (unit : CompilationUnit) : Prop :=
  ∀ m ∈ unit.members, rule.OfTopLevel m

end Rule

end CodeBehind.Source
