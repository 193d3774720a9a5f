import CodeBehind.Lowering.Statement
import CodeBehind.Source.Declaration

/-!
# Induction over statements and declarations

Statements hold lists of statements, and declarations hold lists of declarations, so an induction
over them assumes its claim of every member of a list.  A statement list is lowered member by member.
-/

namespace CodeBehind

namespace Source

@[elab_as_elim]
theorem Statement.inductionOn {motive : Statement → Prop} (s : Statement)
    (ifThen : ∀ leading condition body trailing, motive body →
      motive (.ifThen leading condition body trailing))
    (ifElse : ∀ leading condition body elseLeading elseBody trailing, motive body →
      motive elseBody → motive (.ifElse leading condition body elseLeading elseBody trailing))
    (ret : ∀ leading value trailing, motive (.ret leading value trailing))
    (locals : ∀ leading declared trailing, motive (.locals leading declared trailing))
    (expression : ∀ leading value trailing, motive (.expression leading value trailing))
    (block : ∀ leading statements trailing, (∀ s ∈ statements, motive s) →
      motive (.block leading statements trailing))
    (unsupported : ∀ node, motive (.unsupported node)) : motive s := by
  refine @Statement.rec motive (fun statements ↦ ∀ s ∈ statements, motive s)
    ifThen ifElse ret locals expression block unsupported ?_ ?_ s
  · simp
  · intro first rest hfirst hrest
    exact List.forall_mem_cons.mpr ⟨hfirst, hrest⟩

@[elab_as_elim]
theorem Declaration.inductionOn {motive : Declaration → Prop} (d : Declaration)
    (namespaceDecl : ∀ leading name members trailing, (∀ m ∈ members, motive m) →
      motive (.namespaceDecl leading name members trailing))
    (classDecl : ∀ leading modifiers identifier members trailing, (∀ m ∈ members, motive m) →
      motive (.classDecl leading modifiers identifier members trailing))
    (constructorDecl : ∀ node, motive (.constructorDecl node))
    (methodDecl : ∀ node, motive (.methodDecl node))
    (fieldDecl : ∀ node, motive (.fieldDecl node))
    (unsupported : ∀ node, motive (.unsupported node)) : motive d := by
  refine @Declaration.rec motive (fun members ↦ ∀ m ∈ members, motive m)
    namespaceDecl classDecl constructorDecl methodDecl fieldDecl unsupported ?_ ?_ d
  · simp
  · intro first rest hfirst hrest
    exact List.forall_mem_cons.mpr ⟨hfirst, hrest⟩

end Source

namespace Lowering

theorem lowerStatements_eq_flatMap (scope : Scope) (statements : List Source.Statement) :
    lowerStatements scope statements = statements.flatMap (lowerStatement scope) := by
  induction statements with
  | nil => rw [lowerStatements, List.flatMap_nil]
  | cons first rest ih => rw [lowerStatements, ih, List.flatMap_cons]

end Lowering

end CodeBehind
