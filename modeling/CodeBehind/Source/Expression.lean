import CodeBehind.Text.Slice
import CodeBehind.Source.Kind
import CodeBehind.Source.Token

/-!
# Expressions

Only the forms that the lowering changes are told apart: assignments, compound assignments and
casts.  Any other expression is a token that holds its source text.
-/

namespace CodeBehind.Source

/-- A reference to a type. -/
inductive TypeRef where
  /-- A keyword type such as `int`. -/
  | predefined (token : Token)
  /-- A named type such as `Timer`, `System.Windows.Point` or `List<int>`. -/
  | named (token : Token)
deriving DecidableEq, Inhabited

namespace TypeRef

def token : TypeRef → Token
  | predefined token => token
  | named token => token

def kind : TypeRef → Kind
  | predefined _ => .predefinedType
  | named _ => .namedType

end TypeRef

inductive Expression where
  /-- An assignment such as `left = right`. -/
  | assignment (left : Expression) (operator : Token) (right : Expression)
  /-- An assignment with another operator, such as `left += right`. -/
  | compound (left : Expression) (operator : Token) (right : Expression)
  /-- A cast such as `(T)operand`. -/
  | cast (opening : Token) (type : TypeRef) (closing : Token) (operand : Expression)
  /-- Any other expression, as its source text. -/
  | verbatim (token : Token)
deriving DecidableEq, Inhabited

namespace Expression

/-! ## Building expressions -/

def ofText (text : String) : Expression :=
  verbatim { text }

/-- An assignment with one space on either side of the equals sign. -/
def assign (left right : Expression) : Expression :=
  assignment left (.spaced "=") right

/-- An assignment with another operator, and one space on either side of it. -/
def assignWith (operator : String) (left right : Expression) : Expression :=
  compound left (.spaced operator) right

def castTo (type : TypeRef) (operand : Expression) : Expression :=
  cast .openParen type .closeParen operand

/-! ## Source text -/

def kind : Expression → Kind
  | assignment .. => .assignment
  | compound .. => .compoundAssignment
  | cast .. => .cast
  | verbatim _ => .expression

def isCast : Expression → Bool
  | cast .. => true
  | _ => false

/-- The trivia before the first token. -/
def leading : Expression → Trivia
  | assignment left _ _ => left.leading
  | compound left _ _ => left.leading
  | cast opening _ _ _ => opening.leading
  | verbatim token => token.leading

/-- The trivia after the last token. -/
def trailing : Expression → Trivia
  | assignment _ _ right => right.trailing
  | compound _ _ right => right.trailing
  | cast _ _ _ operand => operand.trailing
  | verbatim token => token.trailing

/-- The source text with all trivia. -/
def fullText : Expression → String
  | assignment left operator right => left.fullText ++ operator.fullText ++ right.fullText
  | compound left operator right => left.fullText ++ operator.fullText ++ right.fullText
  | cast opening type closing operand =>
    opening.fullText ++ type.token.fullText ++ closing.fullText ++ operand.fullText
  | verbatim token => token.fullText

/-- Byte offset in the full text at which the outer leading trivia ends. -/
def textStart (e : Expression) : Nat :=
  Text.byteCount e.leading.text.toList

/-- Byte offset in the full text at which the outer trailing trivia begins. -/
def textStop (e : Expression) : Nat :=
  Text.byteCount e.fullText.toList - Text.byteCount e.trailing.text.toList

/-- The source text without the trivia before the first and after the last token. -/
def text (e : Expression) : String :=
  String.ofList ((Text.slice? e.fullText.toList e.textStart e.textStop).getD [])

end Expression

end CodeBehind.Source
