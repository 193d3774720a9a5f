import CodeBehind.Proofs.Acceptance
import CodeBehind.Proofs.Anatomy
import CodeBehind.Proofs.FirstOffender
import CodeBehind.Proofs.Rules

/-!
# Names that a script binds

A script binds the names of visual nodes, of namespaces, classes and methods, and of parameters and
variables.  Of the names of nodes it is checked that they are identifiers, and of the others less:
that namespaces, classes and methods have a name, and that the name of a namespace has no dot in it.
So the bound names of a script are identifiers exactly if the names in the file are.
-/

namespace CodeBehind.Anatomy

open Source Lowering

/-- All names that are bound in a list of parts. -/
def bindings (parts : List Part) : List Binding :=
  parts.flatMap Part.bindings

/-- There is no blank at either end. -/
def Trimmed (name : String) : Prop :=
  Text.trim name.toList = name.toList

/-- The name can stand in a script. -/
def Binding.Proper (b : Binding) : Prop :=
  b.name ≠ "" ∧ isName b.name = true

instance (b : Binding) : Decidable b.Proper :=
  inferInstanceAs (Decidable (_ ∧ _))

/-- What is known of a name by what it is the name of. -/
def Binding.Checked : Binding → Prop
  | ⟨.node, name⟩ => isName name = true
  | ⟨.namespaceName, name⟩ => Trimmed name ∧ name ≠ "" ∧ '.' ∉ name.toList
  | ⟨.className, name⟩ => Trimmed name ∧ name ≠ ""
  | ⟨.methodName, name⟩ => Trimmed name ∧ name ≠ ""
  | ⟨.parameter, name⟩ => Trimmed name
  | ⟨.variable, name⟩ => Trimmed name

/-- The names in a file that are lowered are identifiers, up to blanks around them. -/
def naming : Rule where
  trivia _ := True
  name token := isName token.valueText = true
  value _ := True
  condition _ := True

theorem trimmed_valueText (token : Token) : Trimmed token.valueText := by
  rw [Trimmed, Token.valueText, String.toList_ofList, Text.trim_trim]

theorem checked_variable (token : Token) : Binding.Checked ⟨.variable, token.valueText⟩ :=
  trimmed_valueText token

theorem checked_parameter (token : Token) : Binding.Checked ⟨.parameter, token.valueText⟩ :=
  trimmed_valueText token

/-- Identifiers are not empty. -/
theorem Binding.proper_iff {b : Binding} : b.Proper ↔ isName b.name = true := by
  refine ⟨And.right, fun h ↦ ⟨?_, h⟩⟩
  intro hempty
  rw [hempty] at h
  cases h

/-! ## Statements -/

section Lists

variable {P : Binding → Prop}

@[simp]
theorem bindings_nil : bindings [] = [] := rfl

@[simp]
theorem bindings_cons (part : Part) (rest : List Part) :
    bindings (part :: rest) = part.bindings ++ bindings rest := rfl

@[simp]
theorem bindings_append (a b : List Part) : bindings (a ++ b) = bindings a ++ bindings b :=
  List.flatMap_append

theorem forall_bindings_flatMap {α : Type} (xs : List α) (parts : α → List Part) :
    (∀ b ∈ bindings (xs.flatMap parts), P b) ↔ ∀ x ∈ xs, ∀ b ∈ bindings (parts x), P b := by
  rw [bindings, List.flatMap_assoc, List.forall_mem_flatMap]
  rfl

theorem bindings_declarator (d : Declarator) :
    bindings (declarator d) = [⟨.variable, d.identifier.valueText⟩] := by
  unfold declarator
  cases d.initializer <;> rfl

theorem forall_bindings_declarators (list : List Declarator) :
    (∀ b ∈ bindings (list.flatMap declarator), P b) ↔
      ∀ d ∈ list, P ⟨.variable, d.identifier.valueText⟩ := by
  simp only [forall_bindings_flatMap, bindings_declarator, List.forall_mem_singleton]

end Lists

/-- A statement binds variables only, each by the text of its token. -/
theorem checked_statement (s : Statement) : ∀ b ∈ bindings (statement s), b.Checked := by
  induction s using Statement.inductionOn with
  | ifThen leading condition body trailing ih =>
    simpa [statement, conditional, Part.bindings] using ih
  | ifElse leading condition body elseLeading elseBody trailing ih ihElse =>
    simpa [statement, conditional, Part.bindings, or_imp, forall_and] using ⟨ih, ihElse⟩
  | ret leading value trailing => simp [statement, Part.bindings]
  | locals leading declared trailing =>
    have hdeclared := (forall_bindings_declarators declared.declarators).mpr
      fun d _ ↦ checked_variable d.identifier
    simpa [statement, Part.bindings] using hdeclared
  | expression leading value trailing => simp [statement, Part.bindings]
  | block leading inner trailing ih =>
    have hinner := (forall_bindings_flatMap inner statement).mpr ih
    simpa [statement, statements_eq_flatMap, Part.bindings] using hinner
  | unsupported node => simp [statement]

theorem proper_declarators (declared : Variables) :
    (∀ b ∈ bindings (declared.declarators.flatMap declarator), b.Proper) ↔
      naming.OfVariables declared := by
  rw [forall_bindings_declarators]
  constructor
  · intro h
    exact ⟨trivial, fun d hd ↦ ⟨(h d hd).2, fun _ _ ↦ trivial⟩⟩
  · intro h d hd
    exact Binding.proper_iff.mpr (h.each d hd).identifier

theorem proper_statement (s : Statement) :
    (∀ b ∈ bindings (statement s), b.Proper) ↔ naming.OfStatement s := by
  induction s using Statement.inductionOn with
  | ifThen leading condition body trailing ih =>
    simpa [statement, conditional, Part.bindings, Rule.OfStatement, naming] using ih
  | ifElse leading condition body elseLeading elseBody trailing ih ihElse =>
    simpa [statement, conditional, Part.bindings, Rule.OfStatement, naming, or_imp, forall_and]
      using and_congr ih ihElse
  | ret leading value trailing => simp [statement, Part.bindings, Rule.OfStatement, naming]
  | locals leading declared trailing =>
    simpa [statement, Part.bindings, Rule.OfStatement, naming] using proper_declarators declared
  | expression leading value trailing => simp [statement, Part.bindings, Rule.OfStatement, naming]
  | block leading inner trailing ih =>
    have hinner : (∀ b ∈ bindings (inner.flatMap statement), b.Proper) ↔
        naming.OfStatements inner := by
      rw [forall_bindings_flatMap, Rule.ofStatements_iff]
      exact forall₂_congr ih
    simpa [statement, statements_eq_flatMap, Part.bindings, Rule.OfStatement, naming] using hinner
  | unsupported node => simp [statement, Rule.OfStatement]

/-! ## Declarations -/

theorem forall_bindings_function {P : Binding → Prop} {leading trailing : Trivia} {header : Site}
    {body : Block} :
    (∀ b ∈ bindings (function leading header (some body) trailing), P b) ↔
      (∀ b ∈ header.bindings, P b) ∧
        ∀ s ∈ body.statements, ∀ b ∈ bindings (statement s), P b := by
  rw [← forall_bindings_flatMap, ← statements_eq_flatMap]
  simp [function, Part.bindings, or_imp, forall_and]

section ClassMembers

variable {className : String} {member : Declaration}

theorem checked_classMember (hclass : Binding.Checked ⟨.className, className⟩)
    (h : AcceptedClassMember member) :
    ∀ b ∈ bindings (classMember className member), b.Checked := by
  cases member with
  | methodDecl node =>
    obtain ⟨hname, block, hbody, _⟩ := h
    have hmethod : Binding.Checked ⟨.methodName, node.identifier.valueText⟩ :=
      ⟨trimmed_valueText node.identifier, hname⟩
    rw [classMember, hbody, forall_bindings_function]
    refine ⟨List.forall_mem_cons.mpr ⟨hmethod, ?_⟩, fun s _ ↦ checked_statement s⟩
    simp only [List.forall_mem_map]
    exact fun p _ ↦ checked_parameter p.identifier
  | constructorDecl node =>
    obtain ⟨block, hbody, _⟩ := h
    rw [classMember, hbody, forall_bindings_function]
    exact ⟨List.forall_mem_singleton.mpr hclass, fun s _ ↦ checked_statement s⟩
  | fieldDecl node =>
    have hdeclared := (forall_bindings_declarators node.declared.declarators).mpr
      fun d _ ↦ checked_variable d.identifier
    simpa [classMember, Part.bindings] using hdeclared
  | namespaceDecl leading name members trailing => simp [classMember]
  | classDecl leading modifiers identifier members trailing => simp [classMember]
  | unsupported node => simp [classMember]

theorem ofFunction_naming {leading trailing : Trivia} {block : Block} :
    naming.OfFunction leading (some block) trailing ↔
      ∀ s ∈ block.statements, naming.OfStatement s := by
  rw [← Rule.ofStatements_iff]
  constructor
  · intro h
    exact h.statements block rfl
  · intro h
    refine ⟨trivial, fun _ _ ↦ trivial, ?_, trivial⟩
    rintro _ ⟨⟩
    exact h

/-- In a class whose name is an identifier. -/
theorem proper_classMember (hclass : isName className = true) (h : AcceptedClassMember member) :
    (∀ b ∈ bindings (classMember className member), b.Proper) ↔ naming.OfClassMember member := by
  cases member with
  | methodDecl node =>
    obtain ⟨_, block, hbody, _⟩ := h
    rw [classMember, hbody, forall_bindings_function, Rule.OfClassMember, hbody, ofFunction_naming,
      forall₂_congr fun s _ ↦ proper_statement s]
    simp only [Site.bindings, List.forall_mem_cons, List.forall_mem_map, Binding.proper_iff]
    exact and_comm
  | constructorDecl node =>
    obtain ⟨block, hbody, _⟩ := h
    rw [classMember, hbody, forall_bindings_function, Rule.OfClassMember, hbody, ofFunction_naming,
      forall₂_congr fun s _ ↦ proper_statement s]
    simp [Site.bindings, Binding.proper_iff, hclass]
  | fieldDecl node =>
    simpa [classMember, Part.bindings, Rule.OfClassMember, naming] using
      proper_declarators node.declared
  | namespaceDecl leading name members trailing => simp [classMember, Rule.OfClassMember]
  | classDecl leading modifiers identifier members trailing =>
    simp [classMember, Rule.OfClassMember]
  | unsupported node => simp [classMember, Rule.OfClassMember]

end ClassMembers

/-- A class binds its own name, twice, and what its members bind. -/
theorem forall_bindings_classDecl {P : Binding → Prop} {annotate : Bool} {namespaceName : String}
    {leading trailing : Trivia} {modifiers : List Token} {identifier : Token}
    {members : List Declaration} :
    (∀ b ∈ bindings (namespaceMember annotate namespaceName
        (.classDecl leading modifiers identifier members trailing)), P b) ↔
      P ⟨.className, identifier.valueText⟩ ∧
        ∀ m ∈ members, ∀ b ∈ bindings (classMember identifier.valueText m), P b := by
  rw [← forall_bindings_flatMap]
  simp only [namespaceMember, bindings_append, bindings_cons, bindings_nil, Part.bindings,
    Site.bindings, List.forall_mem_append, List.forall_mem_singleton, List.nil_append,
    List.append_nil]
  tauto

theorem checked_namespaceMember {annotate : Bool} {namespaceName : String} {member : Declaration}
    (h : AcceptedNamespaceMember member) :
    ∀ b ∈ bindings (namespaceMember annotate namespaceName member), b.Checked := by
  cases member with
  | classDecl leading modifiers identifier members trailing =>
    obtain ⟨hname, hmembers⟩ := h
    have hclass : Binding.Checked ⟨.className, identifier.valueText⟩ :=
      ⟨trimmed_valueText identifier, hname⟩
    rw [forall_bindings_classDecl]
    exact ⟨hclass, fun m hm ↦ checked_classMember hclass (hmembers m hm)⟩
  | namespaceDecl leading name members trailing => simp [namespaceMember]
  | constructorDecl node => simp [namespaceMember]
  | methodDecl node => simp [namespaceMember]
  | fieldDecl node => simp [namespaceMember]
  | unsupported node => simp [namespaceMember]

theorem proper_namespaceMember {annotate : Bool} {namespaceName : String} {member : Declaration}
    (h : AcceptedNamespaceMember member) :
    (∀ b ∈ bindings (namespaceMember annotate namespaceName member), b.Proper) ↔
      naming.OfNamespaceMember member := by
  cases member with
  | classDecl leading modifiers identifier members trailing =>
    rw [forall_bindings_classDecl, Binding.proper_iff, Rule.OfNamespaceMember]
    constructor
    · rintro ⟨hname, hmembers⟩
      exact ⟨trivial, hname, fun m hm ↦ (proper_classMember hname (h.2 m hm)).mp (hmembers m hm),
        trivial⟩
    · rintro ⟨_, hname, hmembers, _⟩
      exact ⟨hname, fun m hm ↦ (proper_classMember hname (h.2 m hm)).mpr (hmembers m hm)⟩
  | namespaceDecl leading name members trailing => simp [namespaceMember, Rule.OfNamespaceMember]
  | constructorDecl node => simp [namespaceMember, Rule.OfNamespaceMember]
  | methodDecl node => simp [namespaceMember, Rule.OfNamespaceMember]
  | fieldDecl node => simp [namespaceMember, Rule.OfNamespaceMember]
  | unsupported node => simp [namespaceMember, Rule.OfNamespaceMember]

/-- The references bind the names of nodes. -/
theorem forall_bindings_references {P : Binding → Prop} {names : List String} {annotate : Bool}
    {event namespaceName : String} (h : ∀ name ∈ names, P ⟨.node, name⟩) :
    ∀ b ∈ bindings (references names annotate event namespaceName), P b := by
  have hlookups : bindings (names.map fun name ↦ .site (.lookup namespaceName name)) =
      names.map (⟨.node, ·⟩) := by
    rw [bindings, List.flatMap_map]
    exact List.map_eq_flatMap.symm
  have hnodes : ∀ b ∈ names.map (⟨.node, ·⟩), P b := List.forall_mem_map.mpr h
  unfold references
  split
  · simp
  · simp only [bindings_append, bindings_cons, bindings_nil, hlookups, Part.bindings,
      Site.bindings, List.nil_append, List.append_nil, List.forall_mem_append]
    exact ⟨hnodes, hnodes⟩

theorem forall_bindings_namespaceDecl {P : Binding → Prop} {names : List String} {annotate : Bool}
    {event : String} (hnames : ∀ name ∈ names, P ⟨.node, name⟩) {leading trailing : Trivia}
    {name : Token} {members : List Declaration} :
    (∀ b ∈ bindings (topLevel names annotate event
        (.namespaceDecl leading name members trailing)), P b) ↔
      P ⟨.namespaceName, name.valueText⟩ ∧
        ∀ m ∈ members, ∀ b ∈ bindings (namespaceMember annotate name.valueText m), P b := by
  have hreferences := @forall_bindings_references P names annotate event name.valueText hnames
  rw [← forall_bindings_flatMap]
  simp only [topLevel, bindings_append, bindings_cons, bindings_nil, Part.bindings,
    Site.bindings, List.forall_mem_append, List.forall_mem_singleton, List.nil_append,
    List.append_nil]
  tauto

theorem checked_file {names : List String} {annotate : Bool} {event : String}
    {unit : CompilationUnit} (hnames : ∀ name ∈ names, isName name = true) (h : Accepted unit) :
    ∀ b ∈ bindings (file names annotate event unit), b.Checked := by
  rw [file, forall_bindings_flatMap]
  intro member hmember
  have haccepted := h member hmember
  cases member with
  | namespaceDecl leading name members trailing =>
    obtain ⟨hname, hdot, hmembers⟩ := haccepted
    rw [forall_bindings_namespaceDecl hnames]
    exact ⟨⟨trimmed_valueText name, hname, hdot⟩,
      fun m hm ↦ checked_namespaceMember (hmembers m hm)⟩
  | classDecl leading modifiers identifier members trailing => simp [topLevel]
  | constructorDecl node => simp [topLevel]
  | methodDecl node => simp [topLevel]
  | fieldDecl node => simp [topLevel]
  | unsupported node => simp [topLevel]

theorem proper_file {names : List String} {annotate : Bool} {event : String}
    {unit : CompilationUnit} (hnames : ∀ name ∈ names, isName name = true) (h : Accepted unit) :
    (∀ b ∈ bindings (file names annotate event unit), b.Proper) ↔ naming.OfFile unit := by
  rw [file, forall_bindings_flatMap, Rule.OfFile]
  refine forall₂_congr fun member hmember ↦ ?_
  have haccepted := h member hmember
  have hnodes : ∀ name ∈ names, Binding.Proper ⟨.node, name⟩ := fun name hname ↦
    Binding.proper_iff.mpr (hnames name hname)
  cases member with
  | namespaceDecl leading name members trailing =>
    obtain ⟨_, _, hmembers⟩ := haccepted
    rw [forall_bindings_namespaceDecl hnodes, Binding.proper_iff, Rule.OfTopLevel,
      forall₂_congr fun m hm ↦ proper_namespaceMember (hmembers m hm)]
    simp [naming]
  | classDecl leading modifiers identifier members trailing => simp [topLevel, Rule.OfTopLevel]
  | constructorDecl node => simp [topLevel, Rule.OfTopLevel]
  | methodDecl node => simp [topLevel, Rule.OfTopLevel]
  | fieldDecl node => simp [topLevel, Rule.OfTopLevel]
  | unsupported node => simp [topLevel, Rule.OfTopLevel]

end CodeBehind.Anatomy

namespace CodeBehind

open Text Source Lowering Anatomy

/-- Blanks aside, a script is its parts one after the other, and names are bound at its sites only.
The names of nodes are identifiers; the other names are without blanks around them, those of
namespaces, classes and methods are not empty, and there is no dot in that of a namespace.  Nothing
else is checked: all bound names are identifiers if and only if all names in the file that are
lowered are. -/
theorem bindings_emit {list : List String} {nodes : NodeNames} {unit : CompilationUnit}
    {options : Options} {text : String} (hnodes : NodeNames.ofList list = .ok nodes)
    (hemit : emit unit nodes options = .ok text) :
    inked text.toList =
        (Anatomy.file list options.annotate options.readyEvent unit).flatMap Part.ink ∧
      (∀ b ∈ bindings (Anatomy.file list options.annotate options.readyEvent unit), b.Checked) ∧
      ((∀ b ∈ bindings (Anatomy.file list options.annotate options.readyEvent unit), b.Proper) ↔
        naming.OfFile unit) := by
  obtain rfl := names_eq_of_ofList hnodes
  have haccepted : Accepted unit := exists_emit_eq_ok_iff.mp ⟨text, hemit⟩
  exact ⟨inked_eq_flatMap_ink hemit, checked_file nodes.identifiers haccepted,
    proper_file nodes.identifiers haccepted⟩

/-- A field, and a method with a parameter and a local. -/
def namedMembers : List Declaration :=
  [.fieldDecl
    { declared :=
        { type := .predefined { text := "int" },
          declarators := [{ identifier := { text := " count " } }] } },
   .methodDecl
    { identifier := { text := "Tick" },
      parameters := [{ identifier := { text := "x" } }],
      body := some
        { statements :=
            [.locals {}
              { type := .predefined { text := "int" },
                declarators :=
                  [{ identifier := { text := "y" },
                     initializer :=
                       some (.castTo (.predefined { text := "int" }) (.ofText "x")) }] }
              {}] } }]

def namedFile : CompilationUnit where
  members :=
    [.namespaceDecl {} { text := "App" } [.classDecl {} [] { text := "Main" } namedMembers {}] {}]

/-- The name of one visual node. -/
def labelName : NodeNames where
  names := ["label"]
  identifiers := List.forall_mem_singleton.mpr (by decide +kernel)

theorem bindings_emit_namedFile :
    ∃ text, NodeNames.ofList ["label"] = .ok labelName ∧ emit namedFile labelName {} = .ok text ∧
      (∀ b ∈ bindings (Anatomy.file ["label"] true "DOMContentLoaded" namedFile), b.Checked) ∧
      naming.OfFile namedFile := by
  have hnone : NodeNames.offender [] ["label"] = none := by decide +kernel
  have hnodes : NodeNames.ofList ["label"] = .ok labelName := by
    unfold NodeNames.ofList
    split
    next hsome => cases hnone.symm.trans hsome
    next => rfl
  have hfailure : (lowerUnit labelName {} namedFile).failure = none := by decide +kernel
  have hemit := emit_eq_ok_iff.mpr ⟨hfailure, rfl⟩
  obtain ⟨_, hchecked, hproper⟩ := bindings_emit hnodes hemit
  refine ⟨_, hnodes, hemit, hchecked, hproper.mp ?_⟩
  decide +kernel

/-- A method with a local that has no name, in a namespace whose name is no identifier. -/
def unnamedFile : CompilationUnit where
  members :=
    [.namespaceDecl {} { text := "A-B" }
      [.classDecl {} [] { text := "Main" }
        [.methodDecl
          { identifier := { text := "Run" },
            body := some
              { statements :=
                  [.locals {}
                    { type := .predefined { text := "int" },
                      declarators := [{ identifier := { text := "" } }] } {}] } }]
        {}]
      {}]

theorem not_proper_unnamedFile :
    ¬ ∀ (list : List String) (nodes : NodeNames) (unit : CompilationUnit) (options : Options)
      (text : String), NodeNames.ofList list = .ok nodes → emit unit nodes options = .ok text →
        ∀ b ∈ bindings (Anatomy.file list options.annotate options.readyEvent unit),
          b.Proper := by
  intro h
  have hfailure : (lowerUnit {} {} unnamedFile).failure = none := by decide +kernel
  have hlocal : (⟨.variable, ""⟩ : Binding) ∈
      bindings (Anatomy.file [] true "DOMContentLoaded" unnamedFile) := by decide +kernel
  have hproper := h [] {} unnamedFile {} _ rfl (emit_eq_ok_iff.mpr ⟨hfailure, rfl⟩) _ hlocal
  exact hproper.1 rfl

end CodeBehind
