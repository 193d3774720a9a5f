import CodeBehind.Lowering.Scope
import CodeBehind.Lowering.Script
import CodeBehind.Source.Trivia

/-!
# Placing trivia

Trivia before a declaration keeps its blank lines and comments, but not the indentation that its
last line ends in, since the declaration brings its own.  Inside a body only comments are kept,
because there the trivia of statements makes the lines.
-/

namespace CodeBehind.Lowering

open Source

/-- Trivia before a generated header: blank lines and comments. -/
def headerTrivia (trivia : Trivia) : Script :=
  let (breaks, content) := trivia.splitLeadingBreaks
  let content := String.ofList (Text.trimEnd content.toList)
  if breaks == 0 && content.isEmpty then []
  -- The first break only ends the line before.
  else .endLine :: List.replicate (breaks - 1) .breakLine ++ [.verbatim content]

/-- Trivia before a generated line of a body: comments only. -/
def innerTrivia (trivia : Trivia) : Script :=
  if trivia.hasComments then headerTrivia trivia else []

/-- Trivia after a generated closing line: comments only. -/
def closingTrivia (trivia : Trivia) : Script :=
  if trivia.hasComments then [.verbatim trivia.trimmedEnd, .endLine] else []

/-- Starts a statement.  Its trivia already makes the line; without trivia the line is indented. -/
def beginStatement (leading : Trivia) (scope : Scope) : Script :=
  if leading.isEmpty then [.openLine scope.depth]
  else if leading.text.toList.head?.any Text.isBreak then [.verbatim leading.text]
  else [.endLine, .verbatim leading.text]

end CodeBehind.Lowering
