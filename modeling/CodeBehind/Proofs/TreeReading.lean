import CodeBehind.Proofs.TreeForms

/-!
# Reading the forms of trees

Every form of a tree is read as the tree.  The readers of nodes that nest take a bound: a document
below the bound is read, and what it contains is below a smaller one.
-/

namespace CodeBehind.Source

open Json

/-! ## Tokens and types -/

theorem reads_trivia (trivia : Trivia) : Reads Reader.trivia trivia trivia.toValue :=
  (reads_string trivia.text).map Trivia.mk

theorem spells_trivia {bound : Nat} {name : String} {β : Type} {others : Fields β} {b : β}
    {rest : List Spelling} (trivia : Trivia) (h : Spells bound others b rest) :
    Spells bound (Reader.triviaField name others) (trivia, b)
      (triviaSpelling name trivia :: rest) := by
  refine .field (fun value hvalue _ ↦ ?_) (fun hsilent ↦ ?_) h
  · obtain rfl : value = trivia.toValue := hvalue
    exact reads_trivia trivia
  · rw [hsilent]

theorem reads_text {text : String} {value : Value} (h : value = .string text) :
    Reads Reader.string text value := by
  rw [h]
  exact reads_string text

theorem Token.spells (bound : Nat) (token : Token) :
    Spells bound
      (.field "text" Json.Reader.string none <| Reader.triviaField "leading" <|
        Reader.triviaField "trailing" .done)
      (token.text, token.leading, token.trailing, ()) token.spellings :=
  .required (fun _ hvalue _ ↦ reads_text hvalue)
    (spells_trivia token.leading (spells_trivia token.trailing .done))

theorem Token.reads_record {token : Token} {value : Value} (h : RecordForm token.spellings value) :
    Reads Reader.token token value := by
  have hrecord : Reads Reader.tokenRecord token value :=
    (Json.reads_record "Token" rfl h (Nat.le_refl _) (token.spells _)).map _
  intro origin horigin
  have hheld := hrecord .held trivial
  cases h with
  | object hkept hothers hperm =>
    rw [Doc.ofValue] at hheld ⊢
    rw [Reader.token, horigin.hold]
    change (Reader.tokenRecord .held _).mapError _ = _
    rw [hheld]
    rfl

theorem Token.reads {token : Token} {value : Value} (h : token.Form value) :
    Reads Reader.token token value := by
  rcases h with ⟨hleading, htrailing, rfl⟩ | hrecord
  · intro origin horigin
    rw [Doc.ofValue, Reader.token, horigin.hold]
    obtain ⟨text, leading, trailing⟩ := token
    obtain rfl : leading = {} := hleading
    obtain rfl : trailing = {} := htrailing
    rfl
  · exact Token.reads_record hrecord

theorem TypeRef.reads {type : TypeRef} {value : Value} (h : type.Form value) :
    Reads Reader.typeName type value := by
  cases type with
  | predefined token =>
    exact reads_tagged "TypeSyntax" rfl rfl h (Nat.le_refl _) fun rest hrest _ ↦
      (Token.reads_record hrest).map TypeRef.predefined
  | named token =>
    exact reads_tagged "TypeSyntax" rfl rfl h (Nat.le_refl _) fun rest hrest _ ↦
      (Token.reads_record hrest).map TypeRef.named

/-! ## Expressions -/

theorem spells_usualToken {bound : Nat} {name : String} {β : Type} {others : Fields β} {b : β}
    {rest : List Spelling} (token usual : Token) (h : Spells bound others b rest) :
    Spells bound (.field name Reader.token (some usual) others) (token, b)
      (usualTokenSpelling name token.Form token usual :: rest) := by
  refine .field (fun value hvalue _ ↦ Token.reads hvalue)
    (fun hsilent ↦ ?_) h
  rw [show token = usual from hsilent]

theorem Expression.Form.ne_null {e : Expression} {value : Value} (h : e.Form value) :
    value ≠ .null := by
  cases e <;> exact RecordForm.ne_null h

/-- The operands of both kinds of assignments. -/
theorem reads_operands {bound : Nat} {left right : Expression} {operator : Token} {value : Value}
    (hleft : ∀ value, left.Form value → value.depth < bound →
      Reads (Reader.expression bound) left value)
    (hright : ∀ value, right.Form value → value.depth < bound →
      Reads (Reader.expression bound) right value)
    (h : RecordForm [.required "left" left.Form, .required "operator" operator.Form,
      .required "right" right.Form] value) (hbound : value.depth ≤ bound) :
    Reads (Json.Reader.record "AssignmentExpression" <|
        .field "left" (Reader.expression bound) none <|
        .field "operator" Reader.token none <|
        .field "right" (Reader.expression bound) none .done)
      (left, operator, right, ()) value :=
  reads_record _ rfl h hbound
    (.required hleft (.required (fun _ hvalue _ ↦ Token.reads hvalue) (.required hright .done)))

/-- The induction is on the bound, which shrinks from a node to the nodes inside of it. -/
theorem Expression.reads {e : Expression} {value : Value} {bound : Nat} (h : e.Form value)
    (hbound : value.depth < bound) : Reads (Reader.expression bound) e value := by
  induction bound generalizing e value with
  | zero => cases hbound
  | succ bound ih =>
    have hle := Nat.le_of_lt_succ hbound
    cases e with
    | assignment left operator right =>
      refine reads_tagged "Expression" rfl rfl h hle fun rest hrest hdepth ↦ ?_
      exact (reads_operands (fun _ ↦ ih) (fun _ ↦ ih) hrest hdepth).map _
    | compound left operator right =>
      refine reads_tagged "Expression" rfl rfl h hle fun rest hrest hdepth ↦ ?_
      exact (reads_operands (fun _ ↦ ih) (fun _ ↦ ih) hrest hdepth).map _
    | cast opening type closing operand =>
      refine reads_tagged "Expression" rfl rfl h hle fun rest hrest hdepth ↦ ?_
      have hread := reads_record "CastExpression" rfl hrest hdepth
        (spells_usualToken opening .openParen (.required (fun _ hvalue _ ↦ TypeRef.reads hvalue)
          (spells_usualToken closing .closeParen (.required (fun _ ↦ ih) .done))))
      exact hread.map _
    | verbatim token =>
      exact reads_tagged "Expression" rfl rfl h hle fun rest hrest _ ↦
        (Token.reads_record hrest).map Expression.verbatim

/-! ## Statements -/

theorem Unsupported.reads {node : Unsupported} {value : Value}
    (h : RecordForm node.spellings value) : Reads Reader.unsupported node value := by
  have hread := reads_record "UnsupportedNode" rfl h (Nat.le_refl _)
    (.required (fun _ hvalue _ ↦ reads_text hvalue)
      (.field (fun _ hvalue _ ↦ reads_text hvalue)
        (fun hsilent ↦ congrArg some (show node.text = "" from hsilent).symm) .done))
  exact hread.map _

section Bounded

variable {bound : Nat} {value : Value}

theorem spells_expression {name : String} {β : Type} {others : Fields β} {b : β}
    {rest : List Spelling} (e : Option Expression) (h : Spells bound others b rest) :
    Spells bound (Reader.expressionField bound name others) (e, b)
      (.optional name Expression.Form e :: rest) :=
  .optional (fun _ _ ↦ Expression.Form.ne_null) (fun _ _ _ ↦ Expression.reads) h

theorem Declarator.reads {declared : Declarator} (h : declared.Form value)
    (hbound : value.depth ≤ bound) : Reads (Reader.declarator bound) declared value := by
  have hread := reads_record "VariableDeclarator" rfl h hbound
    (.required (fun _ hvalue _ ↦ Token.reads hvalue)
      (spells_expression declared.initializer .done))
  exact hread.map _

theorem Variables.reads {declared : Variables} (h : declared.Form value)
    (hbound : value.depth ≤ bound) : Reads (Reader.variableList bound) declared value := by
  have hdeclarators (list : Value) (hlist : ListForm Declarator.Form declared.declarators list)
      (hdepth : list.depth < bound) :
      Reads (Json.Reader.list (Reader.declarator bound)) declared.declarators list := by
    apply reads_list hlist
    intro d _ item hitem hlt
    exact Declarator.reads hitem (Nat.le_of_lt (Nat.lt_trans hlt hdepth))
  have hread := reads_record "VariableDeclaration" rfl h hbound
    (.required (fun _ hvalue _ ↦ TypeRef.reads hvalue) (.required hdeclarators .done))
  exact hread.map _

/-- A block is read if its statements are. -/
theorem Block.reads {statement : Json.Reader Statement} {block : Block}
    (hstatements : ∀ s ∈ block.statements, ∀ item, s.Form item → item.depth < bound →
      Reads statement s item) (h : RecordForm block.spellings value)
    (hbound : value.depth ≤ bound) : Reads (Reader.blockOf statement) block value := by
  have hread := reads_record "Block" rfl h hbound
    (spells_trivia block.leading (.list hstatements (spells_trivia block.trailing .done)))
  exact hread.map _

theorem reads_elseOf {statement : Json.Reader Statement} {leading : Trivia} {body : Statement}
    (hbody : ∀ item, body.Form item → item.depth < bound → Reads statement body item)
    (h : RecordForm [triviaSpelling "leading" leading, .required "statement" body.Form] value)
    (hbound : value.depth ≤ bound) : Reads (Reader.elseOf statement) (leading, body) value := by
  have hread := reads_record "ElseClause" rfl h hbound
    (spells_trivia leading (.required hbody .done))
  exact hread.map _

/-- A conditional, with whatever it has as its else branch. -/
theorem reads_conditional {statement : Json.Reader Statement} {leading trailing : Trivia}
    {condition : Expression} {body : Statement} (otherwise : Option (Trivia × Statement))
    {form : Value → Prop} {silent : Prop}
    (hbody : ∀ item, body.Form item → item.depth < bound → Reads statement body item)
    (hclause : ∀ clause, form clause → clause.depth < bound →
      Reads (Json.Reader.optional (Reader.elseOf statement)) otherwise clause)
    (hsilent : silent → otherwise = none)
    (h : RecordForm [triviaSpelling "leading" leading, .required "condition" condition.Form,
      .required "statement" body.Form, ⟨"elseClause", form, silent⟩,
      triviaSpelling "trailing" trailing] value) (hbound : value.depth ≤ bound) :
    Reads (Json.Reader.map
        (fun (leading, condition, body, otherwise, trailing, ()) ↦
          Reader.conditional leading condition body otherwise trailing) <|
        Json.Reader.record "IfStatement" <|
          Reader.triviaField "leading" <|
          .field "condition" (Reader.expression bound) none <|
          .field "statement" statement none <|
          .field "elseClause" (Json.Reader.optional (Reader.elseOf statement)) (some none) <|
          Reader.triviaField "trailing" .done)
      (Reader.conditional leading condition body otherwise trailing) value := by
  have hread := reads_record "IfStatement" rfl h hbound
    (spells_trivia leading (.required (fun _ ↦ Expression.reads) (.required hbody
      (.field hclause (fun h ↦ congrArg some (hsilent h).symm)
        (spells_trivia trailing .done)))))
  exact hread.map _

theorem Statement.reads {s : Statement} (h : s.Form value) (hbound : value.depth < bound) :
    Reads (Reader.statement bound) s value := by
  induction bound generalizing s value with
  | zero => cases hbound
  | succ bound ih =>
    have hle := Nat.le_of_lt_succ hbound
    cases s with
    | ifThen leading condition body trailing =>
      rw [Statement.Form] at h
      refine reads_tagged "Statement" rfl rfl h hle fun rest hrest hdepth ↦ ?_
      refine reads_conditional none (fun _ ↦ ih) (fun clause hclause _ ↦ ?_) (fun _ ↦ rfl) hrest
        hdepth
      rw [show clause = .null from hclause]
      exact reads_null _
    | ifElse leading condition body elseLeading elseBody trailing =>
      rw [Statement.Form] at h
      refine reads_tagged "Statement" rfl rfl h hle fun rest hrest hdepth ↦ ?_
      refine reads_conditional (some (elseLeading, elseBody)) (fun _ ↦ ih)
        (fun clause hclause hlt ↦ ?_) False.elim hrest hdepth
      exact (reads_elseOf (fun _ ↦ ih) hclause (Nat.le_of_lt hlt)).some (RecordForm.ne_null hclause)
    | ret leading result trailing =>
      rw [Statement.Form] at h
      refine reads_tagged "Statement" rfl rfl h hle fun rest hrest hdepth ↦ ?_
      have hread := reads_record "ReturnStatement" rfl hrest hdepth
        (spells_trivia leading (spells_expression result (spells_trivia trailing .done)))
      exact hread.map _
    | locals leading declared trailing =>
      rw [Statement.Form] at h
      refine reads_tagged "Statement" rfl rfl h hle fun rest hrest hdepth ↦ ?_
      have hread := reads_record "LocalDeclarationStatement" rfl hrest hdepth
        (spells_trivia leading (.required
          (fun _ hvalue hlt ↦ Variables.reads hvalue (Nat.le_of_lt hlt))
          (spells_trivia trailing .done)))
      exact hread.map _
    | expression leading e trailing =>
      rw [Statement.Form] at h
      refine reads_tagged "Statement" rfl rfl h hle fun rest hrest hdepth ↦ ?_
      have hread := reads_record "ExpressionStatement" rfl hrest hdepth
        (spells_trivia leading (.required (fun _ ↦ Expression.reads)
          (spells_trivia trailing .done)))
      exact hread.map _
    | block leading statements trailing =>
      rw [Statement.form_block] at h
      refine reads_tagged "Statement" rfl rfl h hle fun rest hrest hdepth ↦ ?_
      exact (Block.reads (fun _ _ _ ↦ ih) hrest hdepth).map Statement.ofBlock
    | unsupported node =>
      rw [Statement.Form] at h
      exact reads_tagged "Statement" rfl rfl h hle fun rest hrest _ ↦
        (Unsupported.reads hrest).map Statement.unsupported

/-! ## Declarations -/

theorem spells_tokens {name : String} {β : Type} {others : Fields β} {b : β}
    {rest : List Spelling} (tokens : List Token) (h : Spells bound others b rest) :
    Spells bound (Reader.tokensField name others) (tokens, b)
      (.list name Token.Form tokens :: rest) :=
  .list (fun _ _ _ hitem _ ↦ Token.reads hitem) h

theorem spells_type {name : String} {β : Type} {others : Fields β} {b : β}
    {rest : List Spelling} (type : Option TypeRef) (h : Spells bound others b rest) :
    Spells bound (Reader.typeField name others) (type, b)
      (.optional name TypeRef.Form type :: rest) :=
  .optional (fun _ _ ↦ RecordForm.ne_null) (fun _ _ _ hvalue _ ↦ TypeRef.reads hvalue) h

theorem Parameter.reads {parameter : Parameter} (h : parameter.Form value)
    (hbound : value.depth ≤ bound) : Reads (Reader.parameter bound) parameter value := by
  have hread := reads_record "Parameter" rfl h hbound
    (spells_tokens parameter.modifiers (spells_type parameter.type
      (.required (fun _ hvalue _ ↦ Token.reads hvalue)
        (spells_expression parameter.fallback .done))))
  exact hread.map _

theorem spells_parameters {β : Type} {others : Fields β} {b : β} {rest : List Spelling}
    (parameters : List Parameter) (h : Spells bound others b rest) :
    Spells bound (Reader.parametersField bound others) (parameters, b)
      (.list "parameters" Parameter.Form parameters :: rest) :=
  .list (fun _ _ _ hitem hlt ↦ Parameter.reads hitem (Nat.le_of_lt hlt)) h

theorem spells_body {β : Type} {others : Fields β} {b : β} {rest : List Spelling}
    (body : Option Block) (h : Spells bound others b rest) :
    Spells bound (Reader.bodyField bound others) (body, b)
      (.optional "body" Block.Form body :: rest) :=
  .optional (fun _ _ ↦ RecordForm.ne_null)
    (fun _ _ _ hvalue hlt ↦
      Block.reads (fun _ _ _ ↦ Statement.reads) hvalue (Nat.le_of_lt hlt))
    h

theorem ConstructorDecl.reads {node : ConstructorDecl} (h : RecordForm node.spellings value)
    (hbound : value.depth ≤ bound) : Reads (Reader.constructorNode bound) node value := by
  have hread := reads_record "ConstructorDeclaration" rfl h hbound
    (spells_trivia node.leading (spells_tokens node.modifiers
      (.required (fun _ hvalue _ ↦ Token.reads hvalue)
        (spells_parameters node.parameters (spells_body node.body
          (spells_trivia node.trailing .done))))))
  exact hread.map _

theorem MethodDecl.reads {node : MethodDecl} (h : RecordForm node.spellings value)
    (hbound : value.depth ≤ bound) : Reads (Reader.methodNode bound) node value := by
  have hread := reads_record "MethodDeclaration" rfl h hbound
    (spells_trivia node.leading (spells_tokens node.modifiers (spells_type node.returnType
      (.required (fun _ hvalue _ ↦ Token.reads hvalue)
        (spells_parameters node.parameters
          (.list (fun _ _ _ hitem _ ↦ Unsupported.reads hitem)
            (spells_body node.body (spells_trivia node.trailing .done))))))))
  exact hread.map _

theorem FieldDecl.reads {node : FieldDecl} (h : RecordForm node.spellings value)
    (hbound : value.depth ≤ bound) : Reads (Reader.fieldNode bound) node value := by
  have hread := reads_record "FieldDeclaration" rfl h hbound
    (spells_trivia node.leading (spells_tokens node.modifiers
      (.required (fun _ hvalue hlt ↦ Variables.reads hvalue (Nat.le_of_lt hlt))
        (spells_trivia node.trailing .done))))
  exact hread.map _

theorem spells_members {declaration : Json.Reader Declaration} {β : Type} {others : Fields β}
    {b : β} {rest : List Spelling} {members : List Declaration}
    (hmembers : ∀ m ∈ members, ∀ item, m.Form item → item.depth < bound →
      Reads declaration m item) (h : Spells bound others b rest) :
    Spells bound (Reader.membersField declaration others) (members, b)
      (.list "members" Declaration.Form members :: rest) :=
  .list hmembers h

theorem Declaration.reads {d : Declaration} (h : d.Form value) (hbound : value.depth < bound) :
    Reads (Reader.declaration bound) d value := by
  induction bound generalizing d value with
  | zero => cases hbound
  | succ bound ih =>
    have hle := Nat.le_of_lt_succ hbound
    cases d with
    | namespaceDecl leading name members trailing =>
      rw [Declaration.Form, Declaration.itemsForm_eq] at h
      refine reads_tagged "Declaration" rfl rfl h hle fun rest hrest hdepth ↦ ?_
      have hread := reads_record "NamespaceDeclaration" rfl hrest hdepth
        (spells_trivia leading (.required (fun _ hvalue _ ↦ Token.reads hvalue)
          (spells_members (fun _ _ _ ↦ ih) (spells_trivia trailing .done))))
      exact (hread.map _).map Declaration.ofNamespace
    | classDecl leading modifiers identifier members trailing =>
      rw [Declaration.Form, Declaration.itemsForm_eq] at h
      refine reads_tagged "Declaration" rfl rfl h hle fun rest hrest hdepth ↦ ?_
      have hread := reads_record "ClassDeclaration" rfl hrest hdepth
        (spells_trivia leading (spells_tokens modifiers
          (.required (fun _ hvalue _ ↦ Token.reads hvalue)
            (spells_members (fun _ _ _ ↦ ih) (spells_trivia trailing .done)))))
      exact (hread.map _).map Declaration.ofClass
    | constructorDecl node =>
      rw [Declaration.Form] at h
      exact reads_tagged "Declaration" rfl rfl h hle fun rest hrest hdepth ↦
        (ConstructorDecl.reads hrest hdepth).map Declaration.constructorDecl
    | methodDecl node =>
      rw [Declaration.Form] at h
      exact reads_tagged "Declaration" rfl rfl h hle fun rest hrest hdepth ↦
        (MethodDecl.reads hrest hdepth).map Declaration.methodDecl
    | fieldDecl node =>
      rw [Declaration.Form] at h
      exact reads_tagged "Declaration" rfl rfl h hle fun rest hrest hdepth ↦
        (FieldDecl.reads hrest hdepth).map Declaration.fieldDecl
    | unsupported node =>
      rw [Declaration.Form] at h
      exact reads_tagged "Declaration" rfl rfl h hle fun rest hrest _ ↦
        (Unsupported.reads hrest).map Declaration.unsupported

end Bounded

theorem reads_unitOf {unit : CompilationUnit} {value : Value} {bound : Nat} (h : unit.Form value)
    (hbound : value.depth ≤ bound) :
    Reads (Reader.unitOf (Reader.declaration bound)) unit value := by
  have hread := reads_record "CompilationUnit" rfl h hbound
    (spells_members (fun _ _ _ ↦ Declaration.reads) .done)
  exact hread.map _

/-- The bound of a sized reader is above the depth of its document. -/
theorem CompilationUnit.reads {unit : CompilationUnit} {value : Value} (h : unit.Form value) :
    Reads CompilationUnit.reader unit value := by
  intro origin horigin
  rw [CompilationUnit.reader, Reader.sized]
  exact reads_unitOf h (Nat.le_succ value.depth) origin horigin

/-- The value that a tree is written as is one of its forms, and every form is read as the tree. -/
theorem CompilationUnit.ofValue_form (unit : CompilationUnit) :
    unit.Form unit.toValue ∧
      ∀ value, unit.Form value → CompilationUnit.reader.ofValue value = .ok unit := by
  refine ⟨unit.form_toValue, fun value h ↦ ?_⟩
  exact CompilationUnit.reads h .value trivial

/-- A variable whose initial value is a cast. -/
def clockField : Variables where
  type := .predefined { text := "int" }
  declarators :=
    [{ identifier := { text := "now" },
       initializer := some (.castTo (.named { text := "Timer" }) (.ofText "x")) }]

def clockFile : CompilationUnit where
  members := [.namespaceDecl {} { text := "App" } [.fieldDecl { declared := clockField }] {}]

/-- The cast with its members in reverse order, without its parentheses and all trivia. -/
def clockCast : Value :=
  .object
    [("expression", .object [("text", .string "x"), ("kind", .string "Verbatim")]),
     ("type", .object [("arity", .bool false), ("text", .string "Timer"),
       ("kind", .string "NamedType")]),
     ("kind", .string "Cast")]

/-- The variable, whose name is a bare string. -/
def clockVariables : Value :=
  .object
    [("declarators", .array [.object [("initializer", clockCast), ("identifier", .string "now")]]),
     ("type", .object [("text", .string "int"), ("kind", .string "PredefinedType")])]

/-- The file, with two members more than it has fields. -/
def clockValue : Value :=
  .object
    [("remark", .null), ("remark", .array [.string "kind"]),
     ("members", .array
       [.object
         [("members", .array [.object [("declaration", clockVariables), ("kind", .string "Field")]]),
          ("name", .string "App"), ("kind", .string "Namespace")]])]

theorem CompilationUnit.ofValue_clockValue :
    clockFile.Form clockValue ∧
      CompilationUnit.reader.ofValue clockValue = .ok clockFile := by
  have hnone {fields : List Spelling} : ∀ m ∈ ([] : List (String × Value)),
      m.1 ≠ Json.Reader.tagName ∧ m.1 ∉ fields.map (·.name) := List.forall_mem_nil _
  have htext (text : String) : Kept (Token.mk text {} {}).spellings [("text", .string text)] :=
    .keep rfl (.drop rfl (.drop rfl .nil))
  have hcast : (Expression.castTo (.named { text := "Timer" }) (.ofText "x")).Form clockCast := by
    have htype : (TypeRef.named { text := "Timer" }).Form _ :=
      .of_reverse (.keep rfl (htext "Timer")) [("arity", .bool false)]
        (List.forall_mem_singleton.mpr ⟨by decide, by decide⟩)
    have hoperand : (Expression.ofText "x").Form _ := .of_reverse (.keep rfl (htext "x")) [] hnone
    exact .of_reverse
      (.keep rfl (.drop rfl (.keep htype (.drop rfl (.keep hoperand .nil))))) [] hnone
  have hvariables : clockField.Form clockVariables := by
    have htype : clockField.type.Form _ := .of_reverse (.keep rfl (htext "int")) [] hnone
    have hname : Token.Form { text := "now" } (.string "now") := .inl ⟨rfl, rfl, rfl⟩
    have hdeclarators : ListForm Declarator.Form clockField.declarators _ :=
      .array (.cons (.of_reverse (.keep hname (.keep hcast .nil)) [] hnone) .nil)
    exact .of_reverse (.keep htype (.keep hdeclarators .nil)) [] hnone
  have hform : clockFile.Form clockValue := by
    have hfield : Declaration.Form (.fieldDecl { declared := clockField }) _ :=
      .of_reverse (.keep rfl (.drop rfl (.drop rfl (.keep hvariables (.drop rfl .nil))))) [] hnone
    have hmembers : Declaration.ItemsForm [.fieldDecl { declared := clockField }] _ :=
      ⟨_, [], rfl, hfield, rfl⟩
    have hname : Token.Form { text := "App" } (.string "App") := .inl ⟨rfl, rfl, rfl⟩
    have hnamespace : Declaration.Form
        (.namespaceDecl {} { text := "App" } [.fieldDecl { declared := clockField }] {}) _ :=
      .of_reverse (.keep rfl (.drop rfl (.keep hname (.keep hmembers (.drop rfl .nil))))) [] hnone
    have hnamespaces : ListForm Declaration.Form clockFile.members _ :=
      .array (.cons hnamespace .nil)
    exact .of_reverse (.keep hnamespaces .nil)
      [("remark", .array [.string "kind"]), ("remark", .null)] (by decide)
  exact ⟨hform, (CompilationUnit.ofValue_form clockFile).2 clockValue hform⟩

end CodeBehind.Source
