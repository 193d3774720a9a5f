import CodeBehind.Json.Reader
import CodeBehind.Text.Lines

/-!
# Files of node names

In its plain form such a file has a name on each line; blank lines mean nothing, and neither does
what follows a number sign.  The other form is an array of strings.
-/

namespace CodeBehind.Command.Names

/-- The name on a line, empty if there is none. -/
def ofLine (line : List Char) : List Char :=
  Text.trim (line.takeWhile (· != '#'))

/-- The names of a plain text. -/
def ofPlain (text : String) : List String :=
  ((Text.lines text.toList).map ofLine).filter (!·.isEmpty) |>.map String.ofList

/-- The names of an array. -/
def ofArray (text : String) : Except Json.Fault (List String) :=
  (Json.Reader.list Json.Reader.string).ofText text

end CodeBehind.Command.Names
