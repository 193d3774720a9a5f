import CodeBehind.Text.Blank

/-!
# Lines of a text

`pieces` cuts a text at every separator, so a text with `n` separators has `n + 1` pieces.
`lines` cuts at line feeds only, gives up one carriage return before each of them, and has no
last line when the text ends in a line feed.  `singleLine` puts a text of several lines on one.
-/

namespace CodeBehind.Text

/-- The maximal stretches of a text without separators; never empty. -/
def pieces (isSeparator : Char → Bool) : List Char → List (List Char)
  | [] => [[]]
  | c :: cs =>
    if isSeparator c then [] :: pieces isSeparator cs
    else
      match pieces isSeparator cs with
      | [] => [[c]]
      | piece :: rest => (c :: piece) :: rest

/-- Removes one carriage return at the end. -/
def dropReturn (cs : List Char) : List Char :=
  if cs.getLast? = some '\r' then cs.dropLast else cs

/-- Turns the pieces between line feeds into lines: only the last piece has no line feed. -/
def linesOfPieces : List (List Char) → List (List Char)
  | [] => []
  | [piece] => if piece.isEmpty then [] else [piece]
  | piece :: rest => dropReturn piece :: linesOfPieces rest

/-- The lines of a text, without their ends. -/
def lines (cs : List Char) : List (List Char) :=
  linesOfPieces (pieces (· == '\n') cs)

/-- The text with every run of line breaks, and the blanks around it, as one space. -/
def singleLine (cs : List Char) : List Char :=
  let parts := ((pieces isBreak cs).map trim).filter (!·.isEmpty)
  [' '].intercalate parts

end CodeBehind.Text
