import CodeBehind.Text.Lines

/-!
# Trivia

Trivia is the text around the tokens of a source file: blanks, line breaks, comments and
directives.  It is copied as it stands.  Only two things are asked of it: whether a comment starts
one of its lines, and how many line breaks come before its first ink.
-/

namespace CodeBehind.Source

open Text

/-- Text before or after a node that carries no meaning. -/
structure Trivia where
  text : String := ""
deriving DecidableEq, Inhabited

namespace Trivia

def isEmpty (trivia : Trivia) : Bool :=
  trivia.text.isEmpty

/-- Whether there is nothing but blanks. -/
def isBlank (trivia : Trivia) : Bool :=
  trivia.text.toList.all Text.isBlank

/-- Whether a line starts, after its blanks, with one of the two comment openers. -/
def startsComment (line : List Char) : Bool :=
  let line := trimStart line
  ['/', '/'].isPrefixOf line || ['/', '*'].isPrefixOf line

/-- Whether a comment starts some line; directives such as `#region` are no comments. -/
def hasComments (trivia : Trivia) : Bool :=
  (lines trivia.text.toList).any startsComment

/-- The text without the blanks at its end. -/
def trimmedEnd (trivia : Trivia) : String :=
  String.ofList (trimEnd trivia.text.toList)

/-- The number of line breaks before the first ink of `rest`, and the text from the start of the
line that holds it.  Here `line` is the text from the start of the line that `rest` begins in, and
a carriage return with a line feed after it is one break. -/
def splitBreaksFrom (line : List Char) : List Char → Nat × List Char
  | [] => (0, [])
  | '\r' :: '\n' :: rest =>
    let (breaks, content) := splitBreaksFrom rest rest
    (breaks + 1, content)
  | c :: rest =>
    if isBreak c then
      let (breaks, content) := splitBreaksFrom rest rest
      (breaks + 1, content)
    else if Text.isBlank c then splitBreaksFrom line rest
    else (0, line)

/-- Line breaks before the first ink, and the text from the start of that line.  Blank trivia has
no such line, so its second part is empty. -/
def splitLeadingBreaks (trivia : Trivia) : Nat × String :=
  let (breaks, content) := splitBreaksFrom trivia.text.toList trivia.text.toList
  (breaks, String.ofList content)

end Trivia

end CodeBehind.Source
