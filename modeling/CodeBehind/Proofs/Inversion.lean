import CodeBehind.Lowering.Declaration
import CodeBehind.Proofs.Execution

/-!
# The shape of lowerings that do not fail

A lowering checks names, bodies and levels before it goes on.  If it does not fail, then every check
gave a value, and the lowering is the script that goes on with these values.
-/

namespace CodeBehind.Lowering

open Source

@[simp]
theorem Script.whenOk_ok {α : Type} (a : α) (next : α → Script) :
    whenOk (.ok a) next = next a := rfl

theorem Script.whenOk_eq {α : Type} {value : Except Error α} {next : α → Script}
    (h : (whenOk value next).failure = none) :
    ∃ a, value = .ok a ∧ whenOk value next = next a ∧ (next a).failure = none := by
  obtain ⟨a, rfl, hnext⟩ := failure_whenOk_eq_none.mp h
  exact ⟨a, rfl, rfl, hnext⟩

/-! ## Checks that succeed -/

namespace Scope

variable {scope inner : Scope}

theorem depth_of_enterBlock (h : scope.enterBlock = .ok inner) : inner.depth = scope.depth := by
  unfold enterBlock at h
  split at h
  · rw [← Except.ok.inj h]
  · cases h

theorem depth_of_enter (h : scope.enter = .ok inner) : inner.depth = scope.depth + 1 := by
  unfold enter at h
  cases hblock : scope.enterBlock with
  | error error =>
    rw [hblock] at h
    cases h
  | ok block =>
    rw [hblock] at h
    rw [← Except.ok.inj h]

end Scope

theorem declaredName_eq_ok {token : Token} {kind : Kind} {name : String}
    (h : declaredName token kind = .ok name) : name = token.valueText := by
  unfold declaredName at h
  split at h
  · cases h
  · exact (Except.ok.inj h).symm

theorem namespaceName_eq_ok {token : Token} {name : String} (h : namespaceName token = .ok name) :
    name = token.valueText := by
  unfold namespaceName at h
  cases hname : declaredName token .namespaceDeclaration with
  | error error => simp [hname, bind, Except.bind] at h
  | ok declared =>
    simp only [hname, bind, Except.bind] at h
    split at h
    · cases h
    · rw [← Except.ok.inj h, declaredName_eq_ok hname]

theorem requiredBody_eq_ok {body : Option Block} {kind : Kind} {name : String} {block : Block}
    (h : requiredBody body kind name = .ok block) : body = some block := by
  cases body with
  | none => cases h
  | some found => rw [Except.ok.inj h]

/-! ## Expressions and bodies -/

theorem level_le_of_failure_eq_none {level : Nat} {e : Expression}
    (h : (lowerExpressionAt level e).failure = none) : ¬ level > maxExpressionDepth := by
  intro hdeep
  rw [lowerExpressionAt.eq_def, if_pos hdeep] at h
  cases h

theorem lowerBody_eq {body : Block} {scope : Scope} (h : (lowerBody body scope).failure = none) :
    ∃ inner, scope.enter = .ok inner ∧ lowerBody body scope =
      (if body.leading.hasComments then [.verbatim body.leading.trimmedEnd] else []) ++
        lowerStatements inner body.statements := by
  rw [lowerBody, Script.failure_append_eq_none] at h
  obtain ⟨inner, hinner, hscript, _⟩ := Script.whenOk_eq h.2
  exact ⟨inner, hinner, by rw [lowerBody, hscript]⟩

/-! ## Members of a class -/

section Members

variable {scope : Scope} {className : String}

theorem enclosingClass_eq_ok (hscope : scope.enclosingClass = some className) (kind : Kind) :
    enclosingClass scope kind = .ok className := by
  rw [enclosingClass, hscope]

theorem lowerConstructor_eq {node : ConstructorDecl}
    (hscope : scope.enclosingClass = some className)
    (h : (lowerConstructor node scope).failure = none) :
    ∃ body inner, node.body = some body ∧ scope.enter = .ok inner ∧
      lowerConstructor node scope =
        Script.within (.enteredConstructor node.identifier.valueText)
          (lowerFunction node.leading (className ++ "." ++ className ++ " = function() \x7b") body
            node.trailing inner) := by
  unfold lowerConstructor at h ⊢
  rw [enclosingClass_eq_ok hscope, Script.whenOk_ok] at h ⊢
  rw [Script.failure_within] at h
  obtain ⟨body, hbody, hscript, hrest⟩ := Script.whenOk_eq h
  obtain ⟨inner, hinner, hfunction, _⟩ := Script.whenOk_eq hrest
  exact ⟨body, inner, requiredBody_eq_ok hbody, hinner, by rw [hscript, hfunction]⟩

theorem lowerMethod_eq {node : MethodDecl} (hscope : scope.enclosingClass = some className)
    (h : (lowerMethod node scope).failure = none) :
    ∃ body inner, node.body = some body ∧ scope.enter = .ok inner ∧
      lowerMethod node scope =
        Script.within (.enteredMethod node.identifier.valueText)
          (lowerFunction node.leading
            (className ++ "." ++ node.identifier.valueText ++ " = function(" ++
              parameterNames node.parameters ++ ") \x7b") body node.trailing inner) := by
  unfold lowerMethod at h ⊢
  rw [enclosingClass_eq_ok hscope, Script.whenOk_ok] at h ⊢
  rw [Script.failure_within] at h
  obtain ⟨name, hname, hscript, hrest⟩ := Script.whenOk_eq h
  obtain ⟨body, hbody, hscriptBody, hrest⟩ := Script.whenOk_eq hrest
  obtain ⟨inner, hinner, hfunction, _⟩ := Script.whenOk_eq hrest
  obtain rfl := declaredName_eq_ok hname
  exact ⟨body, inner, requiredBody_eq_ok hbody, hinner, by rw [hscript, hscriptBody, hfunction]⟩

theorem lowerField_eq {node : FieldDecl} (hscope : scope.enclosingClass = some className)
    (h : (lowerField node scope).failure = none) :
    ∃ inner, scope.enter = .ok inner ∧ lowerField node scope =
      beginStatement node.leading inner ++ lowerVariables node.declared ++
        [.verbatim node.trailing.text] := by
  unfold lowerField at h ⊢
  rw [enclosingClass_eq_ok hscope, Script.whenOk_ok] at h ⊢
  obtain ⟨inner, hinner, hscript, _⟩ := Script.whenOk_eq h
  exact ⟨inner, hinner, hscript⟩

end Members

/-! ## Classes and namespaces -/

theorem lowerClass_eq {options : Options} {node : ClassDecl} {scope : Scope}
    {namespaceName : String} (hscope : scope.enclosingNamespace = some namespaceName)
    (h : (lowerClass options node scope).failure = none) :
    lowerClass options node scope =
      Script.within (.enteredClass node.identifier.valueText)
        (headerTrivia node.leading ++
          [.openLine scope.depth, .code ("(function(" ++ node.identifier.valueText ++ ")\x7b")] ++
          node.members.flatMap (lowerClassMember (scope.inClass node.identifier.valueText)) ++
          [.openLine scope.depth,
           .code ("\x7d)(" ++ namespaceName ++ "." ++ node.identifier.valueText ++ " = " ++
             namespaceName ++ "." ++ node.identifier.valueText ++ " || \x7b\x7d);"),
           .endLine] ++
          (if node.hasConstructor then
            constructorCall options namespaceName node.identifier.valueText scope else []) ++
          closingTrivia node.trailing) := by
  unfold lowerClass at h ⊢
  rw [Script.failure_within] at h
  obtain ⟨name, hname, hscript, _⟩ := Script.whenOk_eq h
  obtain rfl := declaredName_eq_ok hname
  rw [hscript, hscope]

theorem lowerNamespace_eq {names : NodeNames} {options : Options} {node : NamespaceDecl}
    {scope : Scope} (h : (lowerNamespace names options node scope).failure = none) :
    ∃ inner : Scope, scope.enter = .ok inner ∧ lowerNamespace names options node scope =
      Script.within (.enteredNamespace node.name.valueText)
        (headerTrivia node.leading ++
          [.openLine scope.depth, .code ("(function(" ++ node.name.valueText ++ ")\x7b")] ++
          (lowerReferences names options (inner.inNamespace node.name.valueText) ++
            node.members.flatMap
              (lowerNamespaceMember options (inner.inNamespace node.name.valueText)) ++
            [.openLine scope.depth,
             .code ("\x7d)(window." ++ node.name.valueText ++ " = window." ++
               node.name.valueText ++ " || \x7b\x7d);"),
             .endLine] ++
            closingTrivia node.trailing)) := by
  unfold lowerNamespace at h ⊢
  rw [Script.failure_within] at h
  obtain ⟨name, hname, hscript, hrest⟩ := Script.whenOk_eq h
  obtain rfl := namespaceName_eq_ok hname
  rw [Script.failure_append_eq_none] at hrest
  obtain ⟨inner, hinner, hinside, _⟩ := Script.whenOk_eq hrest.2
  refine ⟨inner, hinner, ?_⟩
  rw [hscript, hinside]

theorem lowerReferences_eq {names : NodeNames} {options : Options} {scope : Scope}
    {namespaceName : String} (hscope : scope.enclosingNamespace = some namespaceName)
    (hnames : names.names.isEmpty = false)
    (h : (lowerReferences names options scope).failure = none) :
    ∃ inner : Scope, scope.enter = .ok inner ∧ lowerReferences names options scope =
      referencesNote options scope ++
        [.openLine scope.depth, .code ("var " ++ ", ".intercalate names.names ++ ";"),
         .openLine scope.depth, .code (readyHandler options.readyEvent)] ++
        (names.names.flatMap
          (fun name ↦ [.openLine inner.depth, .code (lookup namespaceName name)]) ++
          [.openLine scope.depth, .code "\x7d, false);", .blankLine]) := by
  unfold lowerReferences at h ⊢
  rw [hscope] at h ⊢
  simp only [hnames, Bool.false_eq_true, if_false, Script.failure_append_eq_none] at h ⊢
  obtain ⟨inner, hinner, hlookups, _⟩ := Script.whenOk_eq h.2
  exact ⟨inner, hinner, by rw [hlookups]⟩

end CodeBehind.Lowering
