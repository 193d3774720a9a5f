import CodeBehind.Source.Trivia

/-!
# Tokens

A token is literal source text with the trivia before and after it.
-/

namespace CodeBehind.Source

structure Token where
  text : String
  leading : Trivia := {}
  trailing : Trivia := {}
deriving DecidableEq, Inhabited

namespace Token

def openParen : Token := { text := "(" }

def closeParen : Token := { text := ")" }

/-- The token with one space on either side. -/
def spaced (text : String) : Token :=
  { text, leading := { text := " " }, trailing := { text := " " } }

/-- The text without blanks at its ends: what a name token names. -/
def valueText (token : Token) : String :=
  String.ofList (Text.trim token.text.toList)

/-- The text together with the trivia around it. -/
def fullText (token : Token) : String :=
  token.leading.text ++ token.text ++ token.trailing.text

end Token

end CodeBehind.Source
