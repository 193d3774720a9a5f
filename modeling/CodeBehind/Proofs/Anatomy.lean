import CodeBehind.Proofs.Nesting

/-!
# The parts of a script

What a file denotes, cut into parts that say what they are there for.  A part is a place where
generated code binds names, a span of trivia around a node, or anything else.  The parts stand in the
order of the source, and their pieces are the pieces that the file denotes, so blanks aside the
script is its parts one after the other.
-/

namespace CodeBehind.Anatomy

open Source Meaning

/-! ## Parts -/

/-- What a bound name is the name of. -/
inductive Role where
  | node
  | namespaceName
  | className
  | methodName
  | parameter
  | variable
deriving DecidableEq

structure Binding where
  role : Role
  name : String
deriving DecidableEq

/-- A place where generated code binds names. -/
inductive Site where
  /-- The opening of a closure, with its parameter. -/
  | closure (object : Binding)
  /-- The closing of a closure, which makes its object a member of another one. -/
  | member (owner : String) (object : Binding)
  /-- The header of a function that becomes a member of its class. -/
  | function (className : String) (object : Binding) (parameters : List String)
  /-- The declaration of all names of visual nodes. -/
  | nodes (names : List String)
  /-- The statement that binds one of them. -/
  | lookup (namespaceName name : String)
  /-- A local or field with an initial value, which stands behind it. -/
  | assigned (name : String)
  /-- A local or field without one. -/
  | declared (name : String)
deriving DecidableEq

namespace Site

/-- The code that stands there. -/
def text : Site → String
  | closure object => "(function(" ++ object.name ++ ")\x7b"
  | member owner object =>
    "\x7d)(" ++ owner ++ "." ++ object.name ++ " = " ++ owner ++ "." ++ object.name ++
      " || \x7b\x7d);"
  | function className object parameters =>
    className ++ "." ++ object.name ++ " = function(" ++ ", ".intercalate parameters ++ ") \x7b"
  | nodes names => "var " ++ ", ".intercalate names ++ ";"
  | lookup namespaceName name =>
    name ++ " = document.querySelector(\"" ++ namespaceName ++ "[name='" ++ name ++ "']\");"
  | assigned name => " " ++ name ++ " = "
  | declared name => "var " ++ name ++ ";"

@[simp]
theorem text_closure (object : Binding) :
    (closure object).text = "(function(" ++ object.name ++ ")\x7b" := rfl

@[simp]
theorem text_member (owner : String) (object : Binding) :
    (member owner object).text =
      "\x7d)(" ++ owner ++ "." ++ object.name ++ " = " ++ owner ++ "." ++ object.name ++
        " || \x7b\x7d);" := rfl

@[simp]
theorem text_function (className : String) (object : Binding) (parameters : List String) :
    (function className object parameters).text =
      className ++ "." ++ object.name ++ " = function(" ++ ", ".intercalate parameters ++
        ") \x7b" := rfl

@[simp]
theorem text_assigned (name : String) : (assigned name).text = " " ++ name ++ " = " := rfl

/-- The names that are bound there. -/
def bindings : Site → List Binding
  | closure object => [object]
  | member _ object => [object]
  | function _ object parameters => object :: parameters.map (⟨.parameter, ·⟩)
  | nodes names => names.map (⟨.node, ·⟩)
  | lookup _ name => [⟨.node, name⟩]
  | assigned name => [⟨.variable, name⟩]
  | declared name => [⟨.variable, name⟩]

end Site

/-- What becomes of trivia around a node. -/
inductive Keeping where
  /-- All of it is kept. -/
  | copied
  /-- It is kept if there is a comment in it. -/
  | remarked
  /-- It is left out, as at the end of a block. -/
  | dropped
deriving DecidableEq

inductive Part where
  | site (place : Site)
  | span (keeping : Keeping) (trivia : Trivia)
  /-- Code and comments that bind nothing and are no trivia of a node. -/
  | other (pieces : List Piece)
deriving DecidableEq

namespace Part

def pieces : Part → List Piece
  | site place => [code place.text]
  | span .copied trivia => [comment trivia.text]
  | span .remarked trivia => remarks trivia
  | span .dropped _ => []
  | other pieces => pieces

/-- The ink that the part leaves in a script. -/
def ink (part : Part) : List Char :=
  Text.inked (spell part.pieces)

def bindings : Part → List Binding
  | site place => place.bindings
  | _ => []

end Part

/-! ## Statements -/

def declarator (declared : Declarator) : List Part :=
  match declared.initializer with
  | some value =>
    [.site (.assigned declared.identifier.valueText),
     .other (Meaning.expression value ++ [semicolon value])]
  | none => [.site (.declared declared.identifier.valueText)]

/-- The opening of a conditional. -/
def conditional (leading : Trivia) (condition : Expression) : List Part :=
  [.span .copied leading, .other ([code "if("] ++ source condition.bare ++ [code ")\x7b"])]

mutual

def statement : Statement → List Part
  | .ifThen leading condition body trailing =>
    conditional leading condition ++ statement body ++
      [.other [code "\x7d"], .span .copied trailing]
  | .ifElse leading condition body elseLeading elseBody trailing =>
    conditional leading condition ++ statement body ++
      [.span .remarked elseLeading, .other [code "\x7delse\x7b"]] ++ statement elseBody ++
      [.other [code "\x7d"], .span .copied trailing]
  | .ret leading value trailing =>
    [.span .copied leading, .other (Meaning.returned value), .span .copied trailing]
  | .locals leading declared trailing =>
    [.span .copied leading] ++ declared.declarators.flatMap declarator ++ [.span .copied trailing]
  | .expression leading value trailing =>
    [.span .copied leading, .other (Meaning.expression value ++ [semicolon value]),
     .span .copied trailing]
  | .block leading inner trailing =>
    [.span .remarked leading] ++ statements inner ++ [.span .dropped trailing]
  | .unsupported _ => []

def statements : List Statement → List Part
  | [] => []
  | first :: rest => statement first ++ statements rest

end

/-! ## Declarations -/

/-- A function of a class; without a body there is none. -/
def function (leading : Trivia) (header : Site) (body : Option Block) (trailing : Trivia) :
    List Part :=
  match body with
  | none => []
  | some block =>
    [.span .copied leading, .site header, .span .remarked block.leading] ++
      statements block.statements ++
      [.span .dropped block.trailing, .other [code "\x7d;"], .span .remarked trailing]

def classMember (className : String) : Declaration → List Part
  | .methodDecl node =>
    function node.leading
      (.function className ⟨.methodName, node.identifier.valueText⟩
        (node.parameters.map (·.identifier.valueText)))
      node.body node.trailing
  | .constructorDecl node =>
    function node.leading (.function className ⟨.className, className⟩ []) node.body node.trailing
  | .fieldDecl node =>
    [.span .copied node.leading] ++ node.declared.declarators.flatMap declarator ++
      [.span .copied node.trailing]
  | _ => []

def namespaceMember (annotate : Bool) (namespaceName : String) : Declaration → List Part
  | .classDecl leading _ identifier members trailing =>
    let object : Binding := ⟨.className, identifier.valueText⟩
    [.span .copied leading, .site (.closure object)] ++
      members.flatMap (classMember identifier.valueText) ++
      [.site (.member namespaceName object),
       .other (if members.any (·.isConstructor) then
         Meaning.constructorCall annotate namespaceName identifier.valueText else []),
       .span .remarked trailing]
  | _ => []

def references (names : List String) (annotate : Bool) (event namespaceName : String) :
    List Part :=
  if names.isEmpty then []
  else
    [.other (if annotate then [comment "//Auto Generated Refs to Visual Nodes"] else []),
     .site (.nodes names),
     .other [code ("document.addEventListener('" ++ String.ofList (Text.escape event.toList) ++
       "', function()\x7b")]] ++
      names.map (fun name ↦ .site (.lookup namespaceName name)) ++
      [.other [code "\x7d, false);"]]

def topLevel (names : List String) (annotate : Bool) (event : String) : Declaration → List Part
  | .namespaceDecl leading name members trailing =>
    let object : Binding := ⟨.namespaceName, name.valueText⟩
    [.span .copied leading, .site (.closure object)] ++
      references names annotate event name.valueText ++
      members.flatMap (namespaceMember annotate name.valueText) ++
      [.site (.member "window" object), .span .remarked trailing]
  | _ => []

/-- The parts of a whole file. -/
def file (names : List String) (annotate : Bool) (event : String) (unit : CompilationUnit) :
    List Part :=
  unit.members.flatMap (topLevel names annotate event)

/-! ## Parts have the pieces that the file denotes -/

theorem flatMap_pieces {α : Type} (xs : List α) (parts : α → List Part) (meaning : α → List Piece)
    (h : ∀ x ∈ xs, (parts x).flatMap Part.pieces = meaning x) :
    (xs.flatMap parts).flatMap Part.pieces = xs.flatMap meaning := by
  induction xs with
  | nil => rfl
  | cons x rest ih =>
    obtain ⟨hx, hrest⟩ := List.forall_mem_cons.mp h
    rw [List.flatMap_cons, List.flatMap_append, hx, ih hrest, List.flatMap_cons]

theorem pieces_declarator (declared : Declarator) :
    (declarator declared).flatMap Part.pieces = Meaning.declarator declared := by
  unfold declarator Meaning.declarator
  cases declared.initializer with
  | none => rfl
  | some value => simp [Part.pieces]

theorem statements_eq_flatMap (list : List Statement) :
    statements list = list.flatMap statement := by
  induction list with
  | nil => rw [statements, List.flatMap_nil]
  | cons first rest ih => rw [statements, ih, List.flatMap_cons]

theorem pieces_statement (s : Statement) :
    (statement s).flatMap Part.pieces = Meaning.statement s := by
  induction s using Statement.inductionOn with
  | ifThen leading condition body trailing ih =>
    simp [statement, Meaning.statement, conditional, Meaning.conditional, Part.pieces, ih]
  | ifElse leading condition body elseLeading elseBody trailing ih ihElse =>
    simp [statement, Meaning.statement, conditional, Meaning.conditional, Part.pieces, ih, ihElse]
  | ret leading value trailing => simp [statement, Meaning.statement, Part.pieces]
  | locals leading declared trailing =>
    have hdeclared := flatMap_pieces declared.declarators declarator Meaning.declarator
      fun d _ ↦ pieces_declarator d
    simp [statement, Meaning.statement, Part.pieces, hdeclared]
  | expression leading value trailing => simp [statement, Meaning.statement, Part.pieces]
  | block leading inner trailing ih =>
    have hinner := flatMap_pieces inner statement Meaning.statement ih
    simp [statement, Meaning.statement, Part.pieces, statements_eq_flatMap,
      Meaning.statements_eq_flatMap, hinner]
  | unsupported node => rfl

theorem pieces_function (leading : Trivia) (header : Site) (body : Option Block)
    (trailing : Trivia) :
    (function leading header body trailing).flatMap Part.pieces =
      Meaning.function leading header.text body trailing := by
  cases body with
  | none => rfl
  | some block =>
    have hstatements := flatMap_pieces block.statements statement Meaning.statement
      fun s _ ↦ pieces_statement s
    simp [function, Meaning.function, Part.pieces, statements_eq_flatMap,
      Meaning.statements_eq_flatMap, hstatements]

theorem pieces_classMember (className : String) (member : Declaration) :
    (classMember className member).flatMap Part.pieces = Meaning.classMember className member := by
  cases member with
  | methodDecl node => exact pieces_function _ _ _ _
  | constructorDecl node =>
    have hheader : Site.text (.function className ⟨.className, className⟩ []) =
        className ++ "." ++ className ++ " = function() \x7b" := by
      simp [String.append_assoc]
    rw [classMember, pieces_function, hheader, Meaning.classMember]
  | fieldDecl node =>
    have hdeclared := flatMap_pieces node.declared.declarators declarator Meaning.declarator
      fun d _ ↦ pieces_declarator d
    simp [classMember, Meaning.classMember, Part.pieces, hdeclared]
  | namespaceDecl leading name members trailing => rfl
  | classDecl leading modifiers identifier members trailing => rfl
  | unsupported node => rfl

theorem pieces_namespaceMember (annotate : Bool) (namespaceName : String) (member : Declaration) :
    (namespaceMember annotate namespaceName member).flatMap Part.pieces =
      Meaning.namespaceMember annotate namespaceName member := by
  cases member with
  | classDecl leading modifiers identifier members trailing =>
    have hmembers := flatMap_pieces members (classMember identifier.valueText)
      (Meaning.classMember identifier.valueText) fun m _ ↦ pieces_classMember _ m
    simp [namespaceMember, Meaning.namespaceMember, Part.pieces, hmembers]
  | namespaceDecl leading name members trailing => rfl
  | constructorDecl node => rfl
  | methodDecl node => rfl
  | fieldDecl node => rfl
  | unsupported node => rfl

theorem pieces_references (names : List String) (annotate : Bool) (event namespaceName : String) :
    (references names annotate event namespaceName).flatMap Part.pieces =
      Meaning.references names annotate event namespaceName := by
  have hlookups (list : List String) :
      (list.map fun name ↦ Part.site (.lookup namespaceName name)).flatMap Part.pieces =
        list.map fun name ↦ code (name ++ " = document.querySelector(\"" ++ namespaceName ++
          "[name='" ++ name ++ "']\");") := by
    induction list with
    | nil => rfl
    | cons name rest ih =>
      rw [List.map_cons, List.flatMap_cons, ih, List.map_cons]
      rfl
  unfold references Meaning.references
  split
  · rfl
  · simp only [List.flatMap_append, hlookups]
    cases annotate <;> rfl

theorem pieces_topLevel (names : List String) (annotate : Bool) (event : String)
    (member : Declaration) :
    (topLevel names annotate event member).flatMap Part.pieces =
      Meaning.topLevel names annotate event member := by
  cases member with
  | namespaceDecl leading name members trailing =>
    have hmembers := flatMap_pieces members (namespaceMember annotate name.valueText)
      (Meaning.namespaceMember annotate name.valueText)
      fun m _ ↦ pieces_namespaceMember annotate _ m
    have hclosing : Site.text (.member "window" ⟨.namespaceName, name.valueText⟩) =
        "\x7d)(window." ++ name.valueText ++ " = window." ++ name.valueText ++
          " || \x7b\x7d);" := by
      simp [← String.toList_inj]
    simp [-Site.text_member, topLevel, Meaning.topLevel, Part.pieces, hmembers, pieces_references,
      hclosing]
  | classDecl leading modifiers identifier members trailing => rfl
  | constructorDecl node => rfl
  | methodDecl node => rfl
  | fieldDecl node => rfl
  | unsupported node => rfl

theorem pieces_file (names : List String) (annotate : Bool) (event : String)
    (unit : CompilationUnit) :
    (file names annotate event unit).flatMap Part.pieces =
      Meaning.file names annotate event unit :=
  flatMap_pieces _ _ _ fun member _ ↦ pieces_topLevel names annotate event member

theorem inked_spell_flatMap (parts : List Part) :
    Text.inked (spell (parts.flatMap Part.pieces)) = parts.flatMap Part.ink := by
  induction parts with
  | nil => rfl
  | cons part rest ih =>
    rw [List.flatMap_cons, Brackets.spell_append, Text.inked_append, ih, List.flatMap_cons, Part.ink]

end CodeBehind.Anatomy

namespace CodeBehind

open Text Source Lowering

/-- Blanks aside, an emitted script is its parts one after the other. -/
theorem inked_eq_flatMap_ink {unit : CompilationUnit} {names : NodeNames} {options : Options}
    {text : String} (h : emit unit names options = .ok text) :
    inked text.toList =
      (Anatomy.file names.names options.annotate options.readyEvent unit).flatMap
        Anatomy.Part.ink := by
  rw [← Anatomy.inked_spell_flatMap, Anatomy.pieces_file]
  exact inked_members h

end CodeBehind
