import CodeBehind.Layout
import CodeBehind.Source.Declaration
import CodeBehind.Text.Literal

/-!
# A line printer

The script of a file without trivia, as a list of lines.  A line is blank, or it is filled: it has a
depth and a content.  The depth of a line is that of the construct it belongs to; blocks have none
of their own.  A statement is one line, and a conditional is a frame of lines around its branches.
Only remarks of the printer have a blank line before them, and only the references to visual nodes
have one behind them.
-/

namespace CodeBehind.Printer

open Source

/-- No character breaks the line. -/
def Unbroken (text : String) : Prop :=
  ∀ c ∈ text.toList, Text.isBreak c = false

instance (text : String) : Decidable (Unbroken text) :=
  List.decidableBAll (fun c ↦ Text.isBreak c = false) text.toList

/-- Some character is not blank. -/
def HasInk (text : String) : Prop :=
  ∃ c ∈ text.toList, Text.isBlank c = false

instance (text : String) : Decidable (HasInk text) :=
  List.decidableBEx (fun c ↦ Text.isBlank c = false) text.toList

/-- What can stand on a line that is not blank. -/
structure Content (text : String) : Prop where
  unbroken : Unbroken text
  ink : HasInk text

instance (text : String) : Decidable (Content text) :=
  decidable_of_iff (Unbroken text ∧ HasInk text)
    ⟨fun h ↦ ⟨h.1, h.2⟩, fun h ↦ ⟨h.unbroken, h.ink⟩⟩

/-- A line without its break. -/
inductive Line where
  | blank
  | filled (depth : Nat) (content : String)
deriving DecidableEq

namespace Line

def text (indent : Indent) : Line → String
  | blank => ""
  | filled depth content => indent.text depth ++ content

/-- A line is blank only if it is meant to be, and it is one line. -/
def Proper : Line → Prop
  | blank => True
  | filled _ content => Content content

end Line

/-- Every line ends in a break. -/
def render (layout : Layout) : List Line → String
  | [] => ""
  | line :: rest => line.text layout.indent ++ layout.lineBreak.text ++ render layout rest

theorem render_append (layout : Layout) (a b : List Line) :
    render layout (a ++ b) = render layout a ++ render layout b := by
  induction a with
  | nil => exact String.empty_append.symm
  | cons line rest ih => simp only [List.cons_append, render, ih, String.append_assoc]

/-! ## Contents of lines -/

/-- The characters that need no space behind them. -/
def isSeparator (c : Char) : Bool :=
  Text.isBlank c || c == '('

/-- A line with a space at its end, unless it is empty or ends in a separator. -/
def spaced (line : String) : String :=
  if line.toList.getLast?.all isSeparator then line else line ++ " "

/-- A line with a value behind it.  Of a cast only its operand is left, behind a space; compound
assignments are no values. -/
def withValue (line : String) : Expression → String
  | .assignment left operator right => withValue (withValue line left ++ operator.fullText) right
  | .compound .. => line
  | .cast _ _ _ operand => withValue (spaced line) operand
  | .verbatim token => line ++ token.text

def withDeclarator (line : String) (declared : Declarator) : String :=
  match declared.initializer with
  | some value => withValue (line ++ (" " ++ declared.identifier.valueText ++ " = ")) value ++ ";"
  | none => line ++ ("var " ++ declared.identifier.valueText) ++ ";"

/-- All variables of a declaration stand on one line. -/
def declaration (declared : Variables) : String :=
  declared.declarators.foldl withDeclarator ""

def returned : Option Expression → String
  | some value => withValue "return " value ++ ";"
  | none => "return;"

/-! ## Statements -/

mutual

def statement (depth : Nat) : Statement → List Line
  | .ifThen _ condition body _ =>
    [.filled depth ("if(" ++ condition.fullText ++ ")\x7b")] ++ statement (depth + 1) body ++
      [.filled depth "\x7d"]
  | .ifElse _ condition body _ elseBody _ =>
    [.filled depth ("if(" ++ condition.fullText ++ ")\x7b")] ++ statement (depth + 1) body ++
      [.filled depth "\x7delse\x7b"] ++ statement (depth + 1) elseBody ++ [.filled depth "\x7d"]
  | .ret _ value _ => [.filled depth (returned value)]
  | .locals _ declared _ => [.filled depth (declaration declared)]
  | .expression _ value _ => [.filled depth (withValue "" value ++ ";")]
  | .block _ inner _ => statements depth inner
  | .unsupported _ => []

def statements (depth : Nat) : List Statement → List Line
  | [] => []
  | first :: rest => statement depth first ++ statements depth rest

end

theorem statements_eq_flatMap (depth : Nat) (list : List Statement) :
    statements depth list = list.flatMap (statement depth) := by
  induction list with
  | nil => rw [statements, List.flatMap_nil]
  | cons first rest ih => rw [statements, ih, List.flatMap_cons]

/-! ## Declarations -/

/-- A function of a class, if it has a body. -/
def function (header : String) : Option Block → List Line
  | none => []
  | some body => [.filled 2 header] ++ statements 3 body.statements ++ [.filled 2 "\x7d;"]

def classMember (className : String) : Declaration → List Line
  | .methodDecl node =>
    function (className ++ "." ++ node.identifier.valueText ++ " = function(" ++
      ", ".intercalate (node.parameters.map (·.identifier.valueText)) ++ ") \x7b") node.body
  | .constructorDecl node =>
    function (className ++ "." ++ className ++ " = function() \x7b") node.body
  | .fieldDecl node => [.filled 2 (declaration node.declared)]
  | _ => []

/-- A comment of the printer, behind a blank line. -/
def remark (annotate : Bool) (text : String) : List Line :=
  if annotate then [.blank, .filled 1 text] else []

def constructorCall (annotate : Bool) (namespaceName className : String) : List Line :=
  remark annotate "//call constructor" ++
    [.filled 1 (namespaceName ++ "." ++ className ++ "." ++ className ++ "();")]

def namespaceMember (annotate : Bool) (namespaceName : String) : Declaration → List Line
  | .classDecl _ _ identifier members _ =>
    let name := identifier.valueText
    [.filled 1 ("(function(" ++ name ++ ")\x7b")] ++ members.flatMap (classMember name) ++
      [.filled 1 ("\x7d)(" ++ namespaceName ++ "." ++ name ++ " = " ++ namespaceName ++ "." ++
        name ++ " || \x7b\x7d);")] ++
      (if members.any (·.isConstructor) then constructorCall annotate namespaceName name else [])
  | _ => []

/-- The references to visual nodes, if there are any. -/
def references (names : List String) (annotate : Bool) (event namespaceName : String) :
    List Line :=
  if names.isEmpty then []
  else
    remark annotate "//Auto Generated Refs to Visual Nodes" ++
      [.filled 1 ("var " ++ ", ".intercalate names ++ ";"),
       .filled 1 ("document.addEventListener('" ++ String.ofList (Text.escape event.toList) ++
         "', function()\x7b")] ++
      names.map (fun name ↦ .filled 2 (name ++ " = document.querySelector(\"" ++ namespaceName ++
        "[name='" ++ name ++ "']\");")) ++
      [.filled 1 "\x7d, false);", .blank]

def topLevel (names : List String) (annotate : Bool) (event : String) : Declaration → List Line
  | .namespaceDecl _ name members _ =>
    let name := name.valueText
    [.filled 0 ("(function(" ++ name ++ ")\x7b")] ++ references names annotate event name ++
      members.flatMap (namespaceMember annotate name) ++
      [.filled 0 ("\x7d)(window." ++ name ++ " = window." ++ name ++ " || \x7b\x7d);")]
  | _ => []

def file (names : List String) (annotate : Bool) (event : String) (unit : CompilationUnit) :
    List Line :=
  unit.members.flatMap (topLevel names annotate event)

end CodeBehind.Printer
