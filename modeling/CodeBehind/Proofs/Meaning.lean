import CodeBehind.Proofs.SourceText
import CodeBehind.Source.Declaration
import CodeBehind.Text.Literal

/-!
# What a file denotes

The script of a file as a list of pieces of text in the order of the source.  Each construct is put
together from its parts: no piece depends on where a line starts, how it is indented or how it is
broken, and no construct is turned down.  Every piece says whether it is code or has to stand in a
comment.
-/

namespace CodeBehind.Meaning

open Source

/-- What a character of a script is there for. -/
inductive Origin where
  /-- Generated fragments, identifiers and texts of tokens. -/
  | code
  /-- Trivia, explaining comments, and markers with the text that they mark. -/
  | comment
  /-- The semicolon behind an expression that ends in a marker. -/
  | terminator
  /-- Line breaks, indentation and separating spaces. -/
  | layout
deriving DecidableEq, Inhabited

structure Piece where
  origin : Origin
  text : String
deriving DecidableEq, Inhabited

def code (text : String) : Piece := ⟨.code, text⟩
def comment (text : String) : Piece := ⟨.comment, text⟩

/-- The characters of the pieces, one after the other. -/
def spell (pieces : List Piece) : List Char :=
  pieces.flatMap (·.text.toList)

/-! ## Expressions -/

/-- Trivia that is kept only for the comments in it. -/
def remarks (trivia : Trivia) : List Piece :=
  if trivia.hasComments then [comment trivia.text] else []

def ofToken (token : Token) : List Piece :=
  [comment token.leading.text, code token.text, comment token.trailing.text]

/-- An expression as it stands in the source. -/
def source : Expression → List Piece
  | .assignment left operator right => source left ++ ofToken operator ++ source right
  | .compound left operator right => source left ++ ofToken operator ++ source right
  | .cast opening type closing operand =>
    ofToken opening ++ ofToken type.token ++ ofToken closing ++ source operand
  | .verbatim token => ofToken token

/-- The pieces of an expression as it stands are its source text. -/
theorem spell_source (e : Expression) : spell (source e) = e.fullText.toList := by
  have happend (a b : List Piece) : spell (a ++ b) = spell a ++ spell b := List.flatMap_append ..
  have htoken (token : Token) : spell (ofToken token) = token.fullText.toList := by
    simp [spell, ofToken, code, comment, Token.fullText]
  induction e with
  | assignment left operator right ihLeft ihRight =>
    simp [source, Expression.fullText, happend, htoken, ihLeft, ihRight]
  | compound left operator right ihLeft ihRight =>
    simp [source, Expression.fullText, happend, htoken, ihLeft, ihRight]
  | cast opening type closing operand ih =>
    simp [source, Expression.fullText, happend, htoken, ih]
  | verbatim token => exact htoken token

/-- The trivia after an operand of an assignment, unless the operand is a cast. -/
def behindOperand (operand : Expression) : List Piece :=
  if operand.isCast then [] else [comment operand.trailing.text]

/-- A rewritten expression: casts are erased, a compound assignment is marked, and the leading
trivia of operands is left out. -/
def expression : Expression → List Piece
  | .assignment left operator right =>
    expression left ++ behindOperand left ++ ofToken operator ++ expression right ++
      behindOperand right
  | .compound left operator right =>
    [comment ("//not yet supported: " ++ (Expression.compound left operator right).text)]
  | .cast _ _ _ operand => expression operand
  | .verbatim token => [code token.text]

/-- Whether the last text written, trivia aside, is a marker once the expression is written behind
another text, of which `marked` says the same. -/
def marksAfter (marked : Bool) : Expression → Bool
  | .assignment left operator right =>
    marksAfter (marksAfter marked left && operator.text.isEmpty) right
  | .compound .. => true
  | .cast _ _ _ operand => marksAfter marked operand
  | .verbatim token => marked && token.text.isEmpty

/-- Whether a rewritten expression ends in a marker. -/
def endsInMarker (e : Expression) : Bool :=
  marksAfter false e

/-- The semicolon behind a rewritten expression. -/
def semicolon (e : Expression) : Piece :=
  ⟨if endsInMarker e then .terminator else .code, ";"⟩

/-! ## Statements -/

def declarator (declared : Declarator) : List Piece :=
  match declared.initializer with
  | some value =>
    [code (" " ++ declared.identifier.valueText ++ " = ")] ++ expression value ++ [semicolon value]
  | none => [code ("var " ++ declared.identifier.valueText ++ ";")]

def returned : Option Expression → List Piece
  | some value => [code "return "] ++ expression value ++ [semicolon value]
  | none => [code "return;"]

/-- The opening of a conditional; its condition stands as in the source, without outer trivia. -/
def conditional (leading : Trivia) (condition : Expression) : List Piece :=
  [comment leading.text, code "if("] ++ source condition.bare ++ [code ")\x7b"]

mutual

def statement : Statement → List Piece
  | .ifThen leading condition body trailing =>
    conditional leading condition ++ statement body ++ [code "\x7d", comment trailing.text]
  | .ifElse leading condition body elseLeading elseBody trailing =>
    conditional leading condition ++ statement body ++ remarks elseLeading ++
      [code "\x7delse\x7b"] ++ statement elseBody ++ [code "\x7d", comment trailing.text]
  | .ret leading value trailing =>
    [comment leading.text] ++ returned value ++ [comment trailing.text]
  | .locals leading declared trailing =>
    [comment leading.text] ++ declared.declarators.flatMap declarator ++ [comment trailing.text]
  | .expression leading value trailing =>
    [comment leading.text] ++ expression value ++ [semicolon value, comment trailing.text]
  | .block leading inner _ => remarks leading ++ statements inner
  | .unsupported _ => []

def statements : List Statement → List Piece
  | [] => []
  | first :: rest => statement first ++ statements rest

end

theorem statements_eq_flatMap (list : List Statement) :
    statements list = list.flatMap statement := by
  induction list with
  | nil => rw [statements, List.flatMap_nil]
  | cons first rest ih => rw [statements, ih, List.flatMap_cons]

/-! ## Declarations -/

/-- A function of a class; without a body there is none. -/
def function (leading : Trivia) (header : String) (body : Option Block) (trailing : Trivia) :
    List Piece :=
  match body with
  | none => []
  | some block =>
    [comment leading.text, code header] ++ remarks block.leading ++ statements block.statements ++
      [code "\x7d;"] ++ remarks trailing

/-- The members of a class are its methods, constructors and fields. -/
def classMember (className : String) : Declaration → List Piece
  | .methodDecl node =>
    function node.leading
      (className ++ "." ++ node.identifier.valueText ++ " = function(" ++
        ", ".intercalate (node.parameters.map (·.identifier.valueText)) ++ ") \x7b")
      node.body node.trailing
  | .constructorDecl node =>
    function node.leading (className ++ "." ++ className ++ " = function() \x7b") node.body
      node.trailing
  | .fieldDecl node =>
    [comment node.leading.text] ++ node.declared.declarators.flatMap declarator ++
      [comment node.trailing.text]
  | _ => []

/-- The one call of the constructor behind a class. -/
def constructorCall (annotate : Bool) (namespaceName className : String) : List Piece :=
  (if annotate then [comment "//call constructor"] else []) ++
    [code (namespaceName ++ "." ++ className ++ "." ++ className ++ "();")]

/-- The members of a namespace are its classes. -/
def namespaceMember (annotate : Bool) (namespaceName : String) : Declaration → List Piece
  | .classDecl leading _ identifier members trailing =>
    let name := identifier.valueText
    [comment leading.text, code ("(function(" ++ name ++ ")\x7b")] ++
      members.flatMap (classMember name) ++
      [code ("\x7d)(" ++ namespaceName ++ "." ++ name ++ " = " ++ namespaceName ++ "." ++ name ++
        " || \x7b\x7d);")] ++
      (if members.any (·.isConstructor) then constructorCall annotate namespaceName name else []) ++
      remarks trailing
  | _ => []

/-- All names are declared, and then each is bound; without names there is nothing. -/
def references (names : List String) (annotate : Bool) (event namespaceName : String) :
    List Piece :=
  if names.isEmpty then []
  else
    (if annotate then [comment "//Auto Generated Refs to Visual Nodes"] else []) ++
      [code ("var " ++ ", ".intercalate names ++ ";"),
       code ("document.addEventListener('" ++ String.ofList (Text.escape event.toList) ++
         "', function()\x7b")] ++
      names.map (fun name ↦ code (name ++ " = document.querySelector(\"" ++ namespaceName ++
        "[name='" ++ name ++ "']\");")) ++
      [code "\x7d, false);"]

/-- The members of a file are its namespaces. -/
def topLevel (names : List String) (annotate : Bool) (event : String) : Declaration → List Piece
  | .namespaceDecl leading name members trailing =>
    let name := name.valueText
    [comment leading.text, code ("(function(" ++ name ++ ")\x7b")] ++
      references names annotate event name ++ members.flatMap (namespaceMember annotate name) ++
      [code ("\x7d)(window." ++ name ++ " = window." ++ name ++ " || \x7b\x7d);")] ++
      remarks trailing
  | _ => []

/-- The pieces of a whole file. -/
def file (names : List String) (annotate : Bool) (event : String) (unit : CompilationUnit) :
    List Piece :=
  unit.members.flatMap (topLevel names annotate event)

end CodeBehind.Meaning
