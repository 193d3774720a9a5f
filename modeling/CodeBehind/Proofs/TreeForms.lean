import CodeBehind.Proofs.RecordForms
import CodeBehind.Proofs.Statements
import CodeBehind.Source.Reader
import CodeBehind.Source.Value

/-!
# Forms of trees

A tree can be spelt by many values.  Every node is an object in one of the forms of its record, and a
token without trivia may also be a bare string, unless it is the content of a tagged node.  The value
that a tree is written as is one of them.  Readers of trees read all of them as the tree.
-/

namespace CodeBehind.Source

open Json

/-! ## Tokens and expressions -/

/-- Trivia may be left out if it is empty. -/
def triviaSpelling (name : String) (trivia : Trivia) : Spelling where
  name := name
  form value := value = trivia.toValue
  silent := trivia = {}

/-- A token that may be left out if it is the usual one. -/
def usualTokenSpelling (name : String) (form : Value → Prop) (token usual : Token) : Spelling where
  name := name
  form := form
  silent := token = usual

namespace Token

def spellings (token : Token) : List Spelling :=
  [.required "text" (· = .string token.text), triviaSpelling "leading" token.leading,
   triviaSpelling "trailing" token.trailing]

/-- A token without trivia may be a bare string. -/
def Form (token : Token) (value : Value) : Prop :=
  (token.leading = {} ∧ token.trailing = {} ∧ value = .string token.text) ∨
    RecordForm token.spellings value

end Token

def TypeRef.Form (type : TypeRef) : Value → Prop :=
  RecordForm (.tag type.kind.label :: type.token.spellings)

def Expression.Form : Expression → Value → Prop
  | .assignment left operator right =>
    RecordForm [.tag "Assignment", .required "left" left.Form,
      .required "operator" operator.Form, .required "right" right.Form]
  | .compound left operator right =>
    RecordForm [.tag "CompoundAssignment", .required "left" left.Form,
      .required "operator" operator.Form, .required "right" right.Form]
  | .cast opening type closing operand =>
    RecordForm [.tag "Cast", usualTokenSpelling "openParen" opening.Form opening .openParen,
      .required "type" type.Form,
      usualTokenSpelling "closeParen" closing.Form closing .closeParen,
      .required "expression" operand.Form]
  | .verbatim token => RecordForm (.tag "Verbatim" :: token.spellings)

/-! ## Statements -/

/-- The text may be left out if it is empty. -/
def Unsupported.spellings (node : Unsupported) : List Spelling :=
  [.required "nodeKind" (· = .string node.nodeKind),
   { name := "text", form := (· = .string node.text), silent := node.text = "" }]

def Unsupported.Form (node : Unsupported) : Value → Prop :=
  RecordForm node.spellings

def Declarator.Form (declared : Declarator) : Value → Prop :=
  RecordForm [.required "identifier" declared.identifier.Form,
    .optional "initializer" Expression.Form declared.initializer]

def Variables.Form (declared : Variables) : Value → Prop :=
  RecordForm [.required "type" declared.type.Form,
    .required "declarators" (ListForm Declarator.Form declared.declarators)]

mutual

def Statement.Form : Statement → Value → Prop
  | .ifThen leading condition body trailing =>
    RecordForm [.tag "If", triviaSpelling "leading" leading,
      .required "condition" condition.Form, .required "statement" body.Form,
      { name := "elseClause", form := (· = .null), silent := True },
      triviaSpelling "trailing" trailing]
  | .ifElse leading condition body elseLeading elseBody trailing =>
    RecordForm [.tag "If", triviaSpelling "leading" leading,
      .required "condition" condition.Form, .required "statement" body.Form,
      .required "elseClause" (RecordForm [triviaSpelling "leading" elseLeading,
        .required "statement" elseBody.Form]),
      triviaSpelling "trailing" trailing]
  | .ret leading value trailing =>
    RecordForm [.tag "Return", triviaSpelling "leading" leading,
      .optional "expression" Expression.Form value, triviaSpelling "trailing" trailing]
  | .locals leading declared trailing =>
    RecordForm [.tag "LocalDeclaration", triviaSpelling "leading" leading,
      .required "declaration" declared.Form, triviaSpelling "trailing" trailing]
  | .expression leading value trailing =>
    RecordForm [.tag "ExpressionStatement", triviaSpelling "leading" leading,
      .required "expression" value.Form, triviaSpelling "trailing" trailing]
  | .block leading statements trailing =>
    RecordForm [.tag "Block", triviaSpelling "leading" leading,
      { name := "statements", form := Statement.ItemsForm statements, silent := statements = [] },
      triviaSpelling "trailing" trailing]
  | .unsupported node => RecordForm (.tag "Unsupported" :: node.spellings)

/-- The form of a statement list, said along the list. -/
def Statement.ItemsForm : List Statement → Value → Prop
  | [], value => value = .array []
  | first :: rest, value =>
    ∃ item items, value = .array (item :: items) ∧ first.Form item ∧
      Statement.ItemsForm rest (.array items)

end

theorem Statement.itemsForm_eq (statements : List Statement) :
    Statement.ItemsForm statements = ListForm Statement.Form statements := by
  induction statements with
  | nil =>
    funext value
    rw [Statement.ItemsForm, listForm_nil_iff]
  | cons first rest ih =>
    funext value
    rw [Statement.ItemsForm, ih, listForm_cons_iff]

def Block.spellings (block : Block) : List Spelling :=
  [triviaSpelling "leading" block.leading, .list "statements" Statement.Form block.statements,
   triviaSpelling "trailing" block.trailing]

def Block.Form (block : Block) : Value → Prop :=
  RecordForm block.spellings

/-- A block among statements is a block with a tag. -/
theorem Statement.form_block (leading : Trivia) (statements : List Statement) (trailing : Trivia) :
    (Statement.block leading statements trailing).Form =
      RecordForm (.tag "Block" :: (Block.mk leading statements trailing).spellings) := by
  rw [Statement.Form, Statement.itemsForm_eq]
  rfl

/-! ## Declarations -/

def Parameter.Form (parameter : Parameter) : Value → Prop :=
  RecordForm [.list "modifiers" Token.Form parameter.modifiers,
    .optional "type" TypeRef.Form parameter.type,
    .required "identifier" parameter.identifier.Form,
    .optional "default" Expression.Form parameter.fallback]

def ConstructorDecl.spellings (node : ConstructorDecl) : List Spelling :=
  [triviaSpelling "leading" node.leading, .list "modifiers" Token.Form node.modifiers,
   .required "identifier" node.identifier.Form,
   .list "parameters" Parameter.Form node.parameters, .optional "body" Block.Form node.body,
   triviaSpelling "trailing" node.trailing]

def MethodDecl.spellings (node : MethodDecl) : List Spelling :=
  [triviaSpelling "leading" node.leading, .list "modifiers" Token.Form node.modifiers,
   .optional "returnType" TypeRef.Form node.returnType,
   .required "identifier" node.identifier.Form,
   .list "parameters" Parameter.Form node.parameters,
   .list "attributes" Unsupported.Form node.attributes, .optional "body" Block.Form node.body,
   triviaSpelling "trailing" node.trailing]

def FieldDecl.spellings (node : FieldDecl) : List Spelling :=
  [triviaSpelling "leading" node.leading, .list "modifiers" Token.Form node.modifiers,
   .required "declaration" node.declared.Form, triviaSpelling "trailing" node.trailing]

mutual

def Declaration.Form : Declaration → Value → Prop
  | .namespaceDecl leading name members trailing =>
    RecordForm [.tag "Namespace", triviaSpelling "leading" leading, .required "name" name.Form,
      { name := "members", form := Declaration.ItemsForm members, silent := members = [] },
      triviaSpelling "trailing" trailing]
  | .classDecl leading modifiers identifier members trailing =>
    RecordForm [.tag "Class", triviaSpelling "leading" leading,
      .list "modifiers" Token.Form modifiers, .required "identifier" identifier.Form,
      { name := "members", form := Declaration.ItemsForm members, silent := members = [] },
      triviaSpelling "trailing" trailing]
  | .constructorDecl node => RecordForm (.tag "Constructor" :: node.spellings)
  | .methodDecl node => RecordForm (.tag "Method" :: node.spellings)
  | .fieldDecl node => RecordForm (.tag "Field" :: node.spellings)
  | .unsupported node => RecordForm (.tag "Unsupported" :: node.spellings)

/-- The form of a list of declarations, said along the list. -/
def Declaration.ItemsForm : List Declaration → Value → Prop
  | [], value => value = .array []
  | first :: rest, value =>
    ∃ item items, value = .array (item :: items) ∧ first.Form item ∧
      Declaration.ItemsForm rest (.array items)

end

theorem Declaration.itemsForm_eq (members : List Declaration) :
    Declaration.ItemsForm members = ListForm Declaration.Form members := by
  induction members with
  | nil =>
    funext value
    rw [Declaration.ItemsForm, listForm_nil_iff]
  | cons first rest ih =>
    funext value
    rw [Declaration.ItemsForm, ih, listForm_cons_iff]

def CompilationUnit.Form (unit : CompilationUnit) : Value → Prop :=
  RecordForm [.list "members" Declaration.Form unit.members]

/-! ## Written values -/

section Written

theorem Token.kept_members (token : Token) : Kept token.spellings token.members :=
  .keep rfl (.keep rfl (.keep rfl .nil))

theorem Token.form_toValue (token : Token) : token.Form token.toValue :=
  .inr (.of_kept token.kept_members)

theorem TypeRef.form_toValue (type : TypeRef) : type.Form type.toValue :=
  .of_kept (.keep rfl type.token.kept_members)

theorem Expression.form_toValue (e : Expression) : e.Form e.toValue := by
  induction e with
  | assignment left operator right ihLeft ihRight =>
    exact .of_kept (.keep rfl (.keep ihLeft (.keep operator.form_toValue (.keep ihRight .nil))))
  | compound left operator right ihLeft ihRight =>
    exact .of_kept (.keep rfl (.keep ihLeft (.keep operator.form_toValue (.keep ihRight .nil))))
  | cast opening type closing operand ih =>
    exact .of_kept (.keep rfl (.keep opening.form_toValue (.keep type.form_toValue
      (.keep closing.form_toValue (.keep ih .nil)))))
  | verbatim token => exact .of_kept (.keep rfl token.kept_members)

theorem optionForm_optionalValue {α : Type} {form : α → Value → Prop} {write : α → Value}
    (h : ∀ a, form a (write a)) (value : Option α) :
    OptionForm form value (optionalValue write value) := by
  cases value with
  | none => rfl
  | some a => exact h a

theorem listForm_tokens (tokens : List Token) : ListForm Token.Form tokens (tokensValue tokens) :=
  listForm_map fun token _ ↦ token.form_toValue

theorem Unsupported.kept_members (node : Unsupported) : Kept node.spellings node.members :=
  .keep rfl (.keep rfl .nil)

theorem Unsupported.form_toValue (node : Unsupported) : node.Form node.toValue :=
  .of_kept node.kept_members

theorem Declarator.form_toValue (declared : Declarator) : declared.Form declared.toValue :=
  .of_kept (.keep declared.identifier.form_toValue
    (.keep (optionForm_optionalValue Expression.form_toValue declared.initializer) .nil))

theorem Variables.form_toValue (declared : Variables) : declared.Form declared.toValue :=
  .of_kept (.keep declared.type.form_toValue
    (.keep (listForm_map fun d _ ↦ d.form_toValue) .nil))

theorem Statement.toValues_eq_map (statements : List Statement) :
    Statement.toValues statements = statements.map Statement.toValue := by
  induction statements with
  | nil => rw [Statement.toValues, List.map_nil]
  | cons first rest ih => rw [Statement.toValues, ih, List.map_cons]

theorem Statement.form_toValue (s : Statement) : s.Form s.toValue := by
  induction s using Statement.inductionOn with
  | ifThen leading condition body trailing ih =>
    rw [Statement.Form, Statement.toValue]
    exact .of_kept (.keep rfl (.keep rfl (.keep condition.form_toValue (.keep ih
      (.keep rfl (.keep rfl .nil))))))
  | ifElse leading condition body elseLeading elseBody trailing ih ihElse =>
    rw [Statement.Form, Statement.toValue]
    have helse : RecordForm [triviaSpelling "leading" elseLeading,
        .required "statement" elseBody.Form] _ := .of_kept (.keep rfl (.keep ihElse .nil))
    exact .of_kept (.keep rfl (.keep rfl (.keep condition.form_toValue (.keep ih
      (.keep helse (.keep rfl .nil))))))
  | ret leading value trailing =>
    rw [Statement.Form, Statement.toValue]
    exact .of_kept (.keep rfl (.keep rfl
      (.keep (optionForm_optionalValue Expression.form_toValue value) (.keep rfl .nil))))
  | locals leading declared trailing =>
    rw [Statement.Form, Statement.toValue]
    exact .of_kept (.keep rfl (.keep rfl (.keep declared.form_toValue (.keep rfl .nil))))
  | expression leading value trailing =>
    rw [Statement.Form, Statement.toValue]
    exact .of_kept (.keep rfl (.keep rfl (.keep value.form_toValue (.keep rfl .nil))))
  | block leading statements trailing ih =>
    rw [Statement.form_block, Statement.toValue, Statement.toValues_eq_map]
    exact .of_kept (.keep rfl (.keep rfl (.keep (listForm_map ih) (.keep rfl .nil))))
  | unsupported node =>
    rw [Statement.Form, Statement.toValue]
    exact .of_kept (.keep rfl node.kept_members)

theorem Block.form_toValue (block : Block) : block.Form block.toValue := by
  rw [Block.toValue, Statement.toValues_eq_map]
  exact .of_kept (.keep rfl (.keep (listForm_map fun s _ ↦ s.form_toValue) (.keep rfl .nil)))

theorem Parameter.form_toValue (parameter : Parameter) : parameter.Form parameter.toValue :=
  .of_kept (.keep (listForm_tokens parameter.modifiers)
    (.keep (optionForm_optionalValue TypeRef.form_toValue parameter.type)
      (.keep parameter.identifier.form_toValue
        (.keep (optionForm_optionalValue Expression.form_toValue parameter.fallback) .nil))))

theorem ConstructorDecl.kept_members (node : ConstructorDecl) : Kept node.spellings node.members :=
  .keep rfl (.keep (listForm_tokens node.modifiers) (.keep node.identifier.form_toValue
    (.keep (listForm_map fun p _ ↦ p.form_toValue)
      (.keep (optionForm_optionalValue Block.form_toValue node.body) (.keep rfl .nil)))))

theorem MethodDecl.kept_members (node : MethodDecl) : Kept node.spellings node.members :=
  .keep rfl (.keep (listForm_tokens node.modifiers)
    (.keep (optionForm_optionalValue TypeRef.form_toValue node.returnType)
      (.keep node.identifier.form_toValue (.keep (listForm_map fun p _ ↦ p.form_toValue)
        (.keep (listForm_map fun a _ ↦ a.form_toValue)
          (.keep (optionForm_optionalValue Block.form_toValue node.body) (.keep rfl .nil)))))))

theorem FieldDecl.kept_members (node : FieldDecl) : Kept node.spellings node.members :=
  .keep rfl (.keep (listForm_tokens node.modifiers)
    (.keep node.declared.form_toValue (.keep rfl .nil)))

theorem Declaration.toValues_eq_map (members : List Declaration) :
    Declaration.toValues members = members.map Declaration.toValue := by
  induction members with
  | nil => rw [Declaration.toValues, List.map_nil]
  | cons first rest ih => rw [Declaration.toValues, ih, List.map_cons]

theorem Declaration.form_toValue (d : Declaration) : d.Form d.toValue := by
  induction d using Declaration.inductionOn with
  | namespaceDecl leading name members trailing ih =>
    rw [Declaration.Form, Declaration.toValue, Declaration.itemsForm_eq,
      Declaration.toValues_eq_map]
    exact .of_kept (.keep rfl (.keep rfl (.keep name.form_toValue
      (.keep (listForm_map ih) (.keep rfl .nil)))))
  | classDecl leading modifiers identifier members trailing ih =>
    rw [Declaration.Form, Declaration.toValue, Declaration.itemsForm_eq,
      Declaration.toValues_eq_map]
    exact .of_kept (.keep rfl (.keep rfl (.keep (listForm_tokens modifiers)
      (.keep identifier.form_toValue (.keep (listForm_map ih) (.keep rfl .nil))))))
  | constructorDecl node =>
    rw [Declaration.Form, Declaration.toValue]
    exact .of_kept (.keep rfl node.kept_members)
  | methodDecl node =>
    rw [Declaration.Form, Declaration.toValue]
    exact .of_kept (.keep rfl node.kept_members)
  | fieldDecl node =>
    rw [Declaration.Form, Declaration.toValue]
    exact .of_kept (.keep rfl node.kept_members)
  | unsupported node =>
    rw [Declaration.Form, Declaration.toValue]
    exact .of_kept (.keep rfl node.kept_members)

theorem CompilationUnit.form_toValue (unit : CompilationUnit) : unit.Form unit.toValue := by
  rw [CompilationUnit.toValue, Declaration.toValues_eq_map]
  exact .of_kept (.keep (listForm_map fun d _ ↦ d.form_toValue) .nil)

end Written

end CodeBehind.Source
