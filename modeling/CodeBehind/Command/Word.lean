import CodeBehind.Text.Blank

/-!
# Words in any case

Options and settings are named by words whose case does not matter.  Only ASCII letters have a case
here: no other letter is a capital of a letter of these words.
-/

namespace CodeBehind.Command

/-- The text with capitals of ASCII made small. -/
def lower (text : String) : String :=
  String.ofList (text.toList.map Char.toLower)

/-- The text without blanks around it and with capitals of ASCII made small. -/
def normalized (text : String) : String :=
  lower (String.ofList (Text.trim text.toList))

end CodeBehind.Command
